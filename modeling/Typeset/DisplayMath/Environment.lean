/-!
# Declared environments

A text declares an environment where it reads `\begin{name}` with the whole name on one line. The
first such declaration names the environment of a text; a declaration cut off by a line end or by
the end of the text counts for nothing.
-/

namespace Typeset.DisplayMath

/-- What an environment declaration starts with. -/
def opening : List Char :=
  "\\begin\x7b".toList

/-- The text after `lead`, if `text` starts with it. -/
def after? : (lead text : List Char) → Option (List Char)
  | [], text => some text
  | _ :: _, [] => none
  | l :: lead, c :: text => if l = c then after? lead text else none

/-- The name up to the closing brace, if the brace comes before the line ends. -/
def name? : List Char → Option (List Char)
  | [] => none
  | c :: text =>
    if c = '\x7d' then some []
    else if c = '\n' then none
    else (name? text).map (c :: ·)

/-- The name that a declaration at the very start of the text declares. -/
def declaredHere? (text : List Char) : Option (List Char) :=
  (after? opening text).bind name?

/-- The name that the first declaration of a text declares. -/
def declared? : List Char → Option (List Char)
  | [] => none
  | c :: text =>
    match declaredHere? (c :: text) with
    | some name => some name
    | none => declared? text

/-- The environment of a text that declares none. -/
def noEnvironment : String :=
  "none"

/-- The environment of a text: the first one it declares. -/
def environment (text : String) : String :=
  match declared? text.toList with
  | some name => String.ofList name
  | none => noEnvironment

/-- The environments that lay themselves out and take no display markers around them. -/
def selfDelimiting : List String :=
  ["array", "matrix", noEnvironment]

/-- Whether an environment lays itself out. -/
def isSelfDelimiting (environment : String) : Bool :=
  selfDelimiting.contains environment

end Typeset.DisplayMath
