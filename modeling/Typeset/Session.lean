import Typeset.Rendering

/-!
# Sessions

A session renders one node after the other and keeps one journal. No step depends on the steps
before it.
-/

namespace Typeset

/-- The style of a session and its journal so far. -/
structure Session where
  style : Style
  journal : List Occurrence
  deriving DecidableEq, Repr

namespace Session

/-- A session in which nothing has happened. -/
def start (style : Style) : Session where
  style
  journal := []

/-- Raises a diagnostic. -/
def report (session : Session) (diagnostic : Diagnostic) : Session :=
  { session with journal := session.journal ++ [.raised diagnostic] }

/-- Reports a node that has no variant. -/
def reportUnknown (session : Session) (name : String) : Session :=
  session.report (.unrecognizedVariant name)

/-- Renders a node. -/
def render (session : Session) (node : Node) : String × Session :=
  let rendering := node.render session.style
  (rendering.output, { session with journal := session.journal ++ rendering.journal })

end Session

end Typeset
