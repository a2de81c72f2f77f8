import Typeset.Decimal.Shortest

/-!
# Writing floating-point numbers

A floating-point number is written as its shortest decimal, always with a point or an exponent. A
layout says for which sizes the decimal is written out in full.
-/

namespace Typeset.Decimal

/-- The powers of ten of the leading digit for which a decimal is written out in full. -/
structure Layout where
  lowest : Int
  highest : Int
  deriving DecidableEq, Repr

/-- The digits without the zeros at their end. -/
def significantDigits (digits : Nat) : List Char :=
  ((Nat.toDigits 10 digits).reverse.dropWhile (· == '0')).reverse

/-- Digits with the power of ten of the first one, written out in full. -/
def positional (digits : List Char) (power : Int) : List Char :=
  if power < 0 then '0' :: '.' :: List.replicate (-power - 1).toNat '0' ++ digits
  else
    let places := power.toNat + 1
    let fraction := digits.drop places
    digits.take places ++ List.replicate (places - digits.length) '0' ++
      '.' :: (if fraction.isEmpty then ['0'] else fraction)

/-- Digits with the power of ten of the first one, written with an exponent. -/
def scientific (digits : List Char) (power : Int) : List Char :=
  let fraction := digits.drop 1
  digits.take 1 ++ (if fraction.isEmpty then [] else '.' :: fraction) ++
    'e' :: (if power < 0 then '-' else '+') :: Nat.toDigits 10 power.natAbs

/-- A decimal in a layout. -/
def Layout.write (layout : Layout) (decimal : Scaled) : List Char :=
  let power := decimal.exponent + (Nat.toDigits 10 decimal.digits).length - 1
  let digits := significantDigits decimal.digits
  if layout.lowest ≤ power && power ≤ layout.highest then positional digits power
  else scientific digits power

/-- A finite floating-point number in a layout. -/
def Layout.writeFloat (layout : Layout) (number : Float) : String :=
  let bits := number.toBits.toNat
  let sign := if bits < 0x8000000000000000 then [] else ['-']
  let binary := Binary.ofBits bits
  let body := if binary.mantissa = 0 then ['0', '.', '0'] else layout.write binary.shortest
  String.ofList (sign ++ body)

end Typeset.Decimal
