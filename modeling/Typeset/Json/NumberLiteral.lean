import Typeset.Json.Reader
import Typeset.Text.Digit

/-!
# Number literals

A number literal is an integer, with a sign in front at most, or a floating-point number. An integer
without fraction and exponent keeps its value from `-2^63` to `2^64 - 1`; every other literal is a
floating-point number. Its digits count as long as they fit in 64 bits, and its power of ten is
applied by one multiplication or division of floating-point numbers, in steps of `10^308` where the
power is lower than that.
-/

namespace Typeset.Json

/-- The digits at the front of a text, and the text after them. -/
def spanDigits : List Char → List Nat × List Char
  | [] => ([], [])
  | c :: text =>
    match Text.digit? c with
    | some digit => (digit :: (spanDigits text).1, (spanDigits text).2)
    | none => ([], c :: text)

/-- The digits and the rest make up the text. -/
theorem length_spanDigits (text : List Char) :
    (spanDigits text).1.length + (spanDigits text).2.length = text.length := by
  induction text with
  | nil => rfl
  | cons c text ih =>
    unfold spanDigits
    split
    · simp only [List.length_cons]; omega
    · simp

/-- A number literal, part by part. -/
structure Numeral where
  negative : Bool
  whole : List Nat
  fraction : List Nat
  /-- The exponent's sign, negative or not, and its digits. -/
  exponent : Option (Bool × List Nat)
  deriving DecidableEq, Repr

/-- The cause when something else, or the end, comes where a digit has to. -/
def missingDigit : List Char → Cause
  | [] => .endInValue
  | _ :: _ => .invalidNumber

/-- At least one digit. -/
def readDigits : Reader (List Nat) := fun text =>
  match found : spanDigits text with
  | ([], _) => .error (missingDigit text)
  | (digit :: digits, rest) => .ok ⟨digit :: digits, rest, by
      have := length_spanDigits text
      rw [found] at this
      simp only [List.length_cons] at this
      omega⟩

/-- The digits before the point. Only a zero standing alone may begin with a zero. -/
def readWhole : Reader (List Nat) := fun text =>
  match readDigits text with
  | .error cause => .error cause
  | .ok ⟨digits, rest, shorter⟩ =>
    match digits with
    | 0 :: _ :: _ => .error .invalidNumber
    | _ => .ok ⟨digits, rest, shorter⟩

/-- A point with digits after it, if a point comes next. -/
def readFraction (text : List Char) :
    Except Cause (List Nat × { rest : List Char // rest.length ≤ text.length }) :=
  match text with
  | '.' :: text' =>
    match readDigits text' with
    | .error cause => .error cause
    | .ok ⟨digits, rest, shorter⟩ =>
      .ok (digits, ⟨rest, by simp only [List.length_cons]; omega⟩)
  | text' => .ok ([], ⟨text', length_le_self text'⟩)

/-- The sign of an exponent, if one comes next: whether it is negative, and the text after it. -/
def exponentSign (text : List Char) : Bool × { rest : List Char // rest.length ≤ text.length } :=
  match text with
  | '+' :: rest => (false, ⟨rest, length_le_cons '+' rest⟩)
  | '-' :: rest => (true, ⟨rest, length_le_cons '-' rest⟩)
  | rest => (false, ⟨rest, length_le_self rest⟩)

/-- An exponent, if its mark comes next. -/
def readExponent (text : List Char) :
    Except Cause (Option (Bool × List Nat) × { rest : List Char // rest.length ≤ text.length }) :=
  match text with
  | [] => .ok (none, ⟨[], length_le_self []⟩)
  | c :: text' =>
    if c = 'e' ∨ c = 'E' then
      match exponentSign text' with
      | (negative, ⟨signed, within⟩) =>
        match readDigits signed with
        | .error cause => .error cause
        | .ok ⟨digits, rest, shorter⟩ =>
          .ok (some (negative, digits), ⟨rest, by simp only [List.length_cons]; omega⟩)
    else .ok (none, ⟨c :: text', length_le_self (c :: text')⟩)

/-- A number literal, after its sign. -/
def readNumeral (negative : Bool) : Reader Numeral := fun text =>
  match readWhole text with
  | .error cause => .error cause
  | .ok ⟨whole, rest, shorter⟩ =>
    match readFraction rest with
    | .error cause => .error cause
    | .ok (fraction, ⟨rest', within⟩) =>
      match readExponent rest' with
      | .error cause => .error cause
      | .ok (exponent, ⟨rest'', within'⟩) =>
        .ok ⟨⟨negative, whole, fraction, exponent⟩, rest'', by omega⟩

/-- The value of a number literal. -/
inductive Number where
  | integer (value : Int)
  | floating (value : Float)
  deriving Repr

/-- Takes up digits as long as the number stays below `2^64`; the second part counts the digits left
over. -/
def absorb (number : Nat) : List Nat → Nat × Nat
  | [] => (number, 0)
  | digit :: digits =>
    if number * 10 + digit < 0x10000000000000000 then absorb (number * 10 + digit) digits
    else (number, digits.length + 1)

/-- A floating-point number times a power of ten, or `none` if the result is too large. -/
def scaleByTen? (number : Float) (power : Int) : Option Float :=
  if power.natAbs ≤ 308 then
    let factor := Float.ofScientific 1 false power.natAbs
    if 0 ≤ power then
      let scaled := number * factor
      if scaled.isInf then none else some scaled
    else some (number / factor)
  else if number == 0 then some number
  else if 0 ≤ power then none
  else scaleByTen? (number / Float.ofScientific 1 false 308) (power + 308)
termination_by power.natAbs
decreasing_by omega

/-- The largest exponent that is applied digit by digit. -/
def exponentLimit : Nat :=
  0x7FFFFFFF

namespace Numeral

/-- Whether a literal has neither fraction nor exponent. -/
def isWhole (numeral : Numeral) : Bool :=
  numeral.fraction.isEmpty && numeral.exponent.isNone

/-- The integer that a literal without fraction and exponent stands for, if it is in range. -/
def integer? (numeral : Numeral) : Option Int :=
  let value := Text.ofDigits 10 numeral.whole
  if !numeral.isWhole then none
  else if numeral.negative then
    if 0 < value ∧ value ≤ 0x8000000000000000 then some (-(value : Int)) else none
  else if value < 0x10000000000000000 then some value else none

/-- The size of a literal as a floating-point number, or `none` if it is too large. -/
def magnitude? (numeral : Numeral) : Option Float :=
  let (lead, surplus) := absorb 0 numeral.whole
  let (significand, dropped) := absorb lead numeral.fraction
  let number := significand.toUInt64.toFloat
  let power : Int := surplus - (numeral.fraction.length - dropped : Nat)
  match numeral.exponent with
  | none => scaleByTen? number power
  | some (negative, digits) =>
    let exponent := Text.ofDigits 10 digits
    if exponentLimit < exponent then
      if significand ≠ 0 ∧ negative = false then none else some 0
    else scaleByTen? number (if negative then power - exponent else power + exponent)

/-- The value of a literal. -/
def value (numeral : Numeral) : Except Cause Number :=
  match numeral.integer? with
  | some integer => .ok (.integer integer)
  | none =>
    match numeral.magnitude? with
    | some size => .ok (.floating (if numeral.negative then -size else size))
    | none => .error .numberOutOfRange

end Numeral

/-- A number, after its sign. -/
def readNumber (negative : Bool) : Reader Number := fun text =>
  match readNumeral negative text with
  | .error cause => .error cause
  | .ok ⟨numeral, rest, shorter⟩ =>
    match numeral.value with
    | .error cause => .error cause
    | .ok number => .ok ⟨number, rest, shorter⟩

end Typeset.Json
