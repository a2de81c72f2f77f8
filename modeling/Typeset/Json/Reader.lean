import Typeset.Json.Cause

/-!
# Readers

A reader takes a value off the front of a text. What it leaves is shorter than what it got, so that
whatever repeats a reader comes to an end.
-/

namespace Typeset.Json

/-- A value read off a text, and the rest of the text. -/
structure Parsed (α : Type) (text : List Char) where
  value : α
  rest : List Char
  shorter : rest.length < text.length

section Shorter

variable {text rest rest' : List Char} {c : Char}

/-- A text is no longer than itself. -/
theorem length_le_self (text : List Char) : text.length ≤ text.length :=
  Nat.le_refl _

/-- A text is no longer than with a character in front. -/
theorem length_le_cons (c : Char) (text : List Char) : text.length ≤ (c :: text).length :=
  Nat.le_succ _

/-- What is shorter than a text is no longer than it. -/
theorem le_of_shorter (shorter : rest.length < text.length) : rest.length ≤ text.length :=
  Nat.le_of_lt shorter

/-- What remains of what remains is shorter still. -/
theorem shorter_trans (later : rest'.length < rest.length) (shorter : rest.length < text.length) :
    rest'.length < text.length :=
  Nat.lt_trans later shorter

/-- What is shorter than something within a text is within the text. -/
theorem le_of_shorter_of_le (later : rest'.length < rest.length) (within : rest.length ≤ text.length) :
    rest'.length ≤ text.length :=
  Nat.le_trans (Nat.le_of_lt later) within

/-- What is behind a character within a text is within the text. -/
theorem le_of_cons_le (within : (c :: rest).length ≤ text.length) : rest.length ≤ text.length :=
  Nat.le_of_succ_le within

/-- What is left of a text after a word is shorter than the text with more in front. -/
theorem shorter_of_after (after : { rest' : List Char // rest'.length ≤ rest.length })
    (shorter : rest.length < text.length) : after.1.length < text.length :=
  Nat.lt_of_le_of_lt after.2 shorter

end Shorter

namespace Parsed

/-- The same reading of a text that is no shorter. -/
def widen {α : Type} {text whole : List Char} (parsed : Parsed α text)
    (longer : text.length ≤ whole.length) : Parsed α whole where
  value := parsed.value
  rest := parsed.rest
  shorter := Nat.lt_of_lt_of_le parsed.shorter longer

/-- The same reading with its value changed. -/
def map {α β : Type} {text : List Char} (f : α → β) (parsed : Parsed α text) : Parsed β text where
  value := f parsed.value
  rest := parsed.rest
  shorter := parsed.shorter

end Parsed

/-- A reader of values of a type. -/
abbrev Reader (α : Type) : Type :=
  (text : List Char) → Except Cause (Parsed α text)

namespace Reader

/-- The reader that refuses every text. -/
def refuse {α : Type} (cause : Cause) : Reader α :=
  fun _ => .error cause

/-- A reader with its value changed. -/
def map {α β : Type} (f : α → β) (reader : Reader α) : Reader β :=
  fun text => (reader text).map (·.map f)

/-- What a reader makes of a text, without the proof that it got on. -/
def run {α : Type} (reader : Reader α) (text : List Char) : Except Cause (α × List Char) :=
  (reader text).map fun parsed => (parsed.value, parsed.rest)

end Reader

/-- Whether a character may stand between tokens. -/
def isBlank (c : Char) : Bool :=
  c == ' ' || c == '\t' || c == '\n' || c == '\r'

/-- A text without the blanks in front. -/
def dropBlanks : List Char → List Char
  | [] => []
  | c :: text => if isBlank c then dropBlanks text else c :: text

/-- Dropping blanks makes no text longer. -/
theorem length_dropBlanks_le (text : List Char) : (dropBlanks text).length ≤ text.length := by
  induction text with
  | nil => exact Nat.le_refl _
  | cons c text ih =>
    unfold dropBlanks
    split
    · exact Nat.le_succ_of_le ih
    · exact Nat.le_refl _

/-- The first character of a text that is not blank, if there is one. -/
def peek? (text : List Char) : Option (Parsed Char text) :=
  match found : dropBlanks text with
  | [] => none
  | c :: rest => some ⟨c, rest, by
      have := length_dropBlanks_le text
      rw [found] at this
      exact this⟩

/-- The text after the given characters, all of which have to come next. -/
def keyword : (letters text : List Char) →
    Except Cause { rest : List Char // rest.length ≤ text.length }
  | [], text => .ok ⟨text, length_le_self text⟩
  | _ :: _, [] => .error .endInValue
  | letter :: letters, c :: text =>
    if letter = c then
      (keyword letters text).map fun rest => ⟨rest.1, Nat.le_succ_of_le rest.2⟩
    else .error .expectedIdent

end Typeset.Json
