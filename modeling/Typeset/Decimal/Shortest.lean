/-!
# Shortest decimals

The shortest decimal that reads back as a given binary fraction. A fraction `m · 2^q` stands for
every real nearer to it than to its neighbours; of the decimals in that interval the one with the
fewest digits is chosen, of two such the nearer, and of two equally near the even one.
-/

namespace Typeset.Decimal

/-- A positive binary fraction `mantissa · 2^exponent`, as a floating-point format holds it. -/
structure Binary where
  mantissa : Nat
  exponent : Int
  /-- Whether the next smaller fraction is only half as far away as the next larger one. -/
  narrowBelow : Bool
  deriving DecidableEq, Repr

/-- The decimal `digits · 10^exponent`. -/
structure Scaled where
  digits : Nat
  exponent : Int
  deriving DecidableEq, Repr

namespace Binary

/-- The fraction that a pattern of 64 bits holds, without its sign. -/
def ofBits (bits : Nat) : Binary :=
  let field : Nat := bits / 0x10000000000000 % 0x800
  let fraction := bits % 0x10000000000000
  if field = 0 then ⟨fraction, -1074, false⟩
  else ⟨0x10000000000000 + fraction, (field : Int) - 1075, fraction == 0 && 1 < field⟩

/-- The factor that turns quarters of the last place into a common unit with `10^power`. -/
def scale (binary : Binary) (power : Int) : Nat :=
  Nat.pow 2 (binary.exponent - 2).toNat * Nat.pow 10 (-power).toNat

/-- The factor that turns multiples of `10^power` into the same unit. -/
def gridScale (binary : Binary) (power : Int) : Nat :=
  Nat.pow 10 power.toNat * Nat.pow 2 (2 - binary.exponent).toNat

/-- Whether `digits · 10^power` reads back as the fraction. -/
def readsBack (binary : Binary) (digits : Nat) (power : Int) : Bool :=
  let point := digits * binary.gridScale power
  let low := (4 * binary.mantissa - (if binary.narrowBelow then 1 else 2)) * binary.scale power
  let high := (4 * binary.mantissa + 2) * binary.scale power
  if binary.mantissa % 2 = 0 then low ≤ point && point ≤ high else low < point && point < high

/-- The power of ten of the leading decimal digit. -/
def leadingPower (binary : Binary) : Int :=
  let value := 4 * binary.mantissa * binary.scale 0
  let one := binary.gridScale 0
  if one ≤ value then ((Nat.toDigits 10 (value / one)).length : Int) - 1
  else -(Nat.toDigits 10 ((one - 1) / value)).length

/-- The better neighbour of the fraction among the multiples of `10^power`, if one reads back. -/
def nearest? (binary : Binary) (power : Int) : Option Scaled :=
  let value := 4 * binary.mantissa * binary.scale power
  let unit := binary.gridScale power
  let below := value / unit
  let above := below + 1
  match binary.readsBack below power, binary.readsBack above power with
  | false, false => none
  | true, false => some ⟨below, power⟩
  | false, true => some ⟨above, power⟩
  | true, true =>
    let twice := 2 * (value % unit)
    if twice < unit || (twice == unit && below % 2 == 0) then some ⟨below, power⟩
    else some ⟨above, power⟩

/-- The shortest decimal that reads back, sought with one digit, with two, and so on up to
seventeen. -/
def shortest (binary : Binary) : Scaled :=
  let power := binary.leadingPower
  let found := (List.range 17).findSome? fun more : Nat => binary.nearest? (power - more)
  found.getD ⟨binary.mantissa, binary.exponent⟩

end Binary

end Typeset.Decimal
