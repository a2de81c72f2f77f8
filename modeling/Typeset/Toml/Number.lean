import Typeset.Text.Digit
import Typeset.Toml.Trivia

/-!
# Numbers

Integers in four bases and floating-point numbers, with underscores between digits. A configuration
has no use for their values, so a number is only checked: an integer has to fit in 64 bits with a
sign, and a positive floating-point number must not exceed all finite ones.
-/

namespace Typeset.Toml

open Scanner

/-- A digit in a base up to sixteen. -/
def digitIn (base : Nat) : Scanner Nat := do
  let c ← char fun c => (Text.hexDigit? c).any (· < base)
  return (Text.hexDigit? c).getD 0

/-- More digits, each with an underscore before it or without. -/
def moreDigits (base : Nat) : Scanner (List Nat) :=
  many (digitIn base <|> (word ['_'] *> digitIn base))

/-- Digits with single underscores between them. -/
def digitsIn (base : Nat) : Scanner (List Nat) := do
  let first ← digitIn base
  let others ← moreDigits base
  return first :: others

/-- A sign, if there is one: whether it is a minus. -/
def sign : Scanner Bool :=
  (word ['-'] *> pure true) <|> (word ['+'] *> pure false) <|> pure false

/-- The digits of a decimal integer. Only a zero standing alone begins with a zero. -/
def decimalDigits : Scanner (List Nat) := do
  let first ← digitIn 10
  if first = 0 then return [0]
  let others ← moreDigits 10
  return first :: others

/-- An integer in a base other than ten. -/
def basedInteger (letter : Char) (base : Nat) : Scanner Unit := do
  word ['0', letter]
  let digits ← digitsIn base
  require (Text.ofDigits base digits < 0x8000000000000000)

/-- A decimal integer. -/
def decimalInteger : Scanner Unit := do
  let negative ← sign
  let size := Text.ofDigits 10 (← decimalDigits)
  require (if negative then size ≤ 0x8000000000000000 else size < 0x8000000000000000)

/-- An integer. -/
def integer : Scanner Unit :=
  basedInteger 'x' 16 <|> basedInteger 'o' 8 <|> basedInteger 'b' 2 <|> decimalInteger

/-- Whether `significand · 10^power` is too large for a finite floating-point number. -/
def overflows (significand : Nat) (power : Int) : Bool :=
  if significand = 0 then false
  else
    let leading := (Nat.toDigits 10 significand).length + power
    if 310 < leading then true
    else if leading < 300 then false
    else
      let limit := Nat.pow 2 1024 - Nat.pow 2 970
      limit * Nat.pow 10 (-power).toNat ≤ significand * Nat.pow 10 power.toNat

/-- The exponent of a floating-point number. -/
def exponent : Scanner Int := do
  let _ ← char fun c => c == 'e' || c == 'E'
  let negative ← sign
  let size : Int := Text.ofDigits 10 (← digitsIn 10)
  return if negative then -size else size

/-- The digits after the point of a floating-point number. -/
def fraction : Scanner (List Nat) :=
  word ['.'] *> digitsIn 10

/-- A floating-point number with a fraction, an exponent or both. -/
def finiteFloat : Scanner Unit := do
  let negative ← sign
  let whole ← decimalDigits
  let (digits, power) ←
    (do return ([], ← exponent)) <|>
    (do
      let digits ← fraction
      let power ← exponent <|> pure 0
      return (digits, power))
  require (negative || !overflows (Text.ofDigits 10 (whole ++ digits)) (power - digits.length))

/-- A floating-point number without a value among the finite ones. -/
def specialFloat : Scanner Unit := do
  let _ ← sign
  word ['i', 'n', 'f'] <|> word ['n', 'a', 'n']

/-- A number. -/
def number : Scanner Unit :=
  finiteFloat <|> specialFloat <|> integer

end Typeset.Toml
