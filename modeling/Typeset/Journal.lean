import Typeset.Diagnostic
import Typeset.DisplayMath.Region
import Typeset.Node
import Typeset.Text.Quoted

/-!
# The journal of a rendering

A rendering notes down what happens, whatever the settings. Which notes become log events, and how
they read, depends on the verbosity alone.
-/

namespace Typeset

/-- How much of the journal is logged. -/
structure Verbosity where
  verbose : Bool
  quiet : Bool
  deriving DecidableEq, Repr

/-- Something that happens on the way to a document. -/
inductive Occurrence where
  /-- A fragment is about to be read from a path. -/
  | loading (fragment path : String)
  /-- A node is rendered. -/
  | visited (node : Node)
  /-- An entry of a list is written. -/
  | item (text : String)
  /-- A display-math region of a body is dealt with. -/
  | region (region : DisplayMath.Region)
  /-- A diagnostic is raised. -/
  | raised (diagnostic : Diagnostic)
  deriving DecidableEq, Repr

/-- The diagnostic that an occurrence is about. -/
def Occurrence.diagnostic? : Occurrence → Option Diagnostic
  | raised diagnostic => some diagnostic
  | _ => none

/-- The diagnostics of a journal, in the order raised. -/
def diagnosticsOf (journal : List Occurrence) : List Diagnostic :=
  journal.filterMap Occurrence.diagnostic?

/-- How loud a log event is. -/
inductive Severity where
  | warn
  | debug
  | trace
  deriving DecidableEq, Repr

/-- The value of a field of a log event. -/
inductive FieldValue where
  | text (text : String)
  | number (number : Nat)
  | flag (flag : Bool)
  deriving DecidableEq, Repr

/-- A log event. -/
structure Event where
  severity : Severity
  message : String
  fields : List (String × FieldValue)
  deriving DecidableEq, Repr

/-- The event that describes a node by its fields. -/
def Node.description : Node → Event
  | document root =>
    ⟨.debug, "Node: document",
      [("title", .text (Text.quotedOption root.title)), ("toc", .flag root.hasContentsTable)]⟩
  | heading part =>
    ⟨.debug, "Node: section", [("level", .number part.level), ("title", .text part.title)]⟩
  | itemList list =>
    ⟨.debug, "Node: list", [("kind", .text list.kind.name), ("items", .number list.items.length)]⟩
  | block body => ⟨.debug, "Node: block", [("kind", .text body.kind.name)]⟩
  | inline span =>
    ⟨.debug, "Node: inline",
      [("kind", .text span.kind.name), ("text", .text span.text),
        ("target", .text (Text.quotedOption span.target))]⟩

/-- The log events of an occurrence. Nodes and list entries show when verbose, diagnostics unless
quiet. -/
def Occurrence.events (verbosity : Verbosity) : Occurrence → List Event
  | loading fragment path =>
    [⟨.debug, "Loading fragment", [("fragment", .text fragment), ("path", .text path)]⟩]
  | visited node =>
    if verbosity.verbose then
      [⟨.trace, "Rendering node", [("variant", .text node.variant)]⟩, node.description]
    else []
  | item text =>
    if verbosity.verbose then [⟨.debug, "  item", [("text", .text text)]⟩] else []
  | region math =>
    [⟨.trace, "Display math region",
      [("environment", .text math.environment), ("start", .number math.start),
        ("strip", .flag math.isStripped)]⟩]
  | raised diagnostic =>
    if verbosity.quiet then [] else [⟨.warn, diagnostic.message, []⟩]

/-- The log of a journal. -/
def log (verbosity : Verbosity) (journal : List Occurrence) : List Event :=
  journal.flatMap (·.events verbosity)

end Typeset
