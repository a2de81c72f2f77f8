/-!
# LaTeX commands

How commands and environments are written.
-/

namespace Typeset.Latex

/-- An argument in braces. -/
def braced (argument : String) : String :=
  "\x7b" ++ argument ++ "\x7d"

/-- The command of the given name, applied to arguments. -/
def command (name : String) (arguments : List String) : String :=
  "\\" ++ name ++ String.join (arguments.map braced)

/-- The environment of the given name around a body. -/
def environment (name body : String) : String :=
  command "begin" [name] ++ body ++ command "end" [name]

end Typeset.Latex
