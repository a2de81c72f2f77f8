import Typeset.Journal
import Typeset.Template

/-!
# Renderings

A rendering is a text and the journal of how it came about; its diagnostics are those of the
journal. A node that has a template renders to its text, any other renders empty and raises one
diagnostic.
-/

namespace Typeset

/-- A text, and the journal of how it came about. -/
structure Rendering where
  output : String
  journal : List Occurrence
  deriving DecidableEq, Repr

/-- The diagnostics raised on the way, in order. -/
def Rendering.diagnostics (rendering : Rendering) : List Diagnostic :=
  diagnosticsOf rendering.journal

/-- What happens while a node with a template is written. -/
def Node.occurrences : Node → List Occurrence
  | document root => (DisplayMath.regions root.content).map .region
  | itemList list => list.items.map (.item ·.text)
  | _ => []

/-- The rendering of a node. -/
def Node.render (style : Style) (node : Node) : Rendering :=
  match node.text? style with
  | .ok text => ⟨text, .visited node :: node.occurrences⟩
  | .error diagnostic => ⟨"", [.visited node, .raised diagnostic]⟩

end Typeset
