/-!
# Paths

Paths are texts with slashes between their names. Nothing is normalised: joining two paths only
looks after the slash between them.
-/

namespace Typeset.Path

/-- Whether a path starts at the root. -/
def isAbsolute (path : String) : Bool :=
  path.toList.head? == some '/'

/-- A path as seen from a base, with a slash between the two where one is needed. -/
def join (base path : String) : String :=
  if isAbsolute path then path
  else if base.isEmpty || base.toList.getLast? == some '/' then base ++ path
  else base ++ "/" ++ path

/-- A path, last character first, without the slashes and lone dots at its end. The root keeps its
slash. -/
def trimReversed : List Char → List Char
  | ['/'] => ['/']
  | '/' :: path => trimReversed path
  | ['.', '/'] => ['/']
  | '.' :: '/' :: path => trimReversed path
  | path => path

/-- The path of the folder that a path names something in. The root and the empty path have none. -/
def parent? (path : String) : Option String :=
  match trimReversed path.toList.reverse with
  | [] => none
  | ['/'] => none
  | trimmed => some (String.ofList (trimReversed (trimmed.dropWhile (· != '/'))).reverse)

/-- The names on a path, without empty ones. -/
def names (path : String) : List String :=
  (split path.toList).filter (!·.isEmpty)
where
  /-- The texts between slashes. -/
  split : List Char → List String
    | [] => [""]
    | c :: path =>
      if c = '/' then "" :: split path
      else
        match split path with
        | [] => [String.singleton c]
        | name :: names => (String.singleton c ++ name) :: names

end Typeset.Path
