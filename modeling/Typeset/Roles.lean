import Typeset.Dictionary
import Typeset.Latex

/-!
# Roles

A role wraps a span in a macro. Configured roles come before the colours, which every document
knows.
-/

namespace Typeset

/-- The roles that name a colour. -/
def colourRoles : List String :=
  ["red", "green", "blue", "cyan", "magenta", "yellow", "gray"]

/-- A text in the macro of a role, if the role has one. -/
def applyRole? (roles : Dictionary) (role text : String) : Option String :=
  match roles.find? role with
  | some macroName => some (Latex.command macroName [text])
  | none =>
    if colourRoles.contains role then some (Latex.command "textcolor" [role, text]) else none

end Typeset
