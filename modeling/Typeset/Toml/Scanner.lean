/-!
# Scanners

A scanner takes a value off the front of a text, or fails. Of two alternatives the second is tried
where the first fails.
-/

namespace Typeset.Toml

/-- A scanner of values of a type. -/
abbrev Scanner (α : Type) : Type :=
  StateT (List Char) Option α

namespace Scanner

/-- The next character, if it is one of those accepted. -/
def char (accepts : Char → Bool) : Scanner Char
  | [] => none
  | c :: text => if accepts c then some (c, text) else none

/-- All characters up to the first that is not accepted. -/
def chars (accepts : Char → Bool) : Scanner (List Char) :=
  fun text => some (text.takeWhile accepts, text.dropWhile accepts)

/-- At least one character, up to the first that is not accepted. -/
def someChars (accepts : Char → Bool) : Scanner (List Char) := do
  let first ← char accepts
  let others ← chars accepts
  return first :: others

/-- The given characters. -/
def word : List Char → Scanner Unit
  | [] => pure ()
  | c :: letters => do
    let _ ← char (· == c)
    word letters

/-- The end of the text. -/
def finish : Scanner Unit
  | [] => some ((), [])
  | _ :: _ => none

/-- The values that the scanner reads one after the other, as long as it does not fail and gets on.
-/
def repeated {α : Type} (scanner : Scanner α) (text : List Char) : List α × List Char :=
  match scanner text with
  | none => ([], text)
  | some (value, rest) =>
    if rest.length < text.length then
      let others := repeated scanner rest
      (value :: others.1, others.2)
    else ([], text)
termination_by text.length

/-- Any number of values. -/
def many {α : Type} (scanner : Scanner α) : Scanner (List α) :=
  fun text => some (repeated scanner text)

/-- A given number of values. -/
def times {α : Type} : Nat → Scanner α → Scanner (List α)
  | 0, _ => pure []
  | count + 1, scanner => do
    let first ← scanner
    let others ← times count scanner
    return first :: others

/-- At least one value, with a mark between each two. -/
def separated {α : Type} (mark : Scanner Unit) (scanner : Scanner α) : Scanner (List α) := do
  let first ← scanner
  let others ← many (mark *> scanner)
  return first :: others

/-- Fails unless the condition holds. -/
def require (condition : Bool) : Scanner Unit :=
  if condition then pure () else failure

end Scanner

end Typeset.Toml
