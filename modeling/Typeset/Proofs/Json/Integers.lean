import Mathlib.Algebra.Group.Int.Defs
import Typeset.Proofs.Json.Refusals

/-!
# Integers and section levels

Which number literals are integers, what becomes of an integer of any size, and which literals are
read as section levels. A literal that is not read is refused for what it is: an integer that is no
level, a floating-point number, or a number that is too large.
-/

namespace Typeset.Json

/-- A literal writes an integer: it has neither fraction nor exponent, and a sign only in front of
what is not zero. -/
inductive Numeral.Writes : Numeral → Int → Prop where
  | positive {digits : List Nat} : Writes ⟨false, digits, [], none⟩ (Text.ofDigits 10 digits : Nat)
  | negative {digits : List Nat} :
    Text.ofDigits 10 digits ≠ 0 →
    Writes ⟨true, digits, [], none⟩ (-(Text.ofDigits 10 digits : Nat))

section Values

variable {numeral : Numeral} {v : Int}

/-- An integer keeps its value if it fits in 64 bits. -/
lemma Numeral.integer?_eq_some_iff :
    numeral.integer? = some v ↔ numeral.Writes v ∧ -2 ^ 63 ≤ v ∧ v < 2 ^ 64 := by
  obtain ⟨negative, digits, fraction, exponent⟩ := numeral
  refine ⟨fun found => ?_, fun ⟨writes, least, most⟩ => ?_⟩
  · simp only [integer?, isWhole] at found
    split_ifs at found with parts sign size size
    · obtain ⟨rfl, rfl⟩ : fraction = [] ∧ exponent = none := by simpa using parts
      obtain rfl : negative = true := sign
      cases found
      exact ⟨.negative (by omega), by omega, by omega⟩
    · obtain ⟨rfl, rfl⟩ : fraction = [] ∧ exponent = none := by simpa using parts
      obtain rfl : negative = false := by simpa using sign
      cases found
      exact ⟨.positive, by omega, by omega⟩
  · cases writes with
    | positive =>
      have size : Text.ofDigits 10 digits < 0x10000000000000000 := by omega
      simp [integer?, isWhole, size]
    | negative full =>
      have size : 0 < Text.ofDigits 10 digits ∧ Text.ofDigits 10 digits ≤ 0x8000000000000000 := by
        omega
      simp [integer?, isWhole, size]

/-- What becomes of a literal where a section level is asked for. -/
def Numeral.level (numeral : Numeral) : Except Cause Nat :=
  numeral.value >>= levelOf

/-- The integers in range are the section levels. -/
lemma isLevel_iff {n : Nat} :
    IsLevel (.number numeral) n ↔ numeral.Writes n ∧ n ≤ 0xFFFFFFFF := by
  refine ⟨fun ⟨digits, same, value, range⟩ => ?_, fun ⟨writes, range⟩ => ?_⟩
  · cases same
    subst value
    exact ⟨.positive, range⟩
  · generalize same : (n : Int) = v at writes
    cases writes with
    | positive => exact ⟨_, rfl, by omega, range⟩
    | negative full => omega

/-- A number is a section level exactly if it writes an integer of 32 bits without a sign. -/
lemma Numeral.level_eq_ok_iff {n : Nat} :
    numeral.level = .ok n ↔ numeral.Writes n ∧ n ≤ 0xFFFFFFFF := by
  rw [← isLevel_iff, ← levelOf_value_iff, Numeral.level]
  cases numeral.value with
  | error cause => simp [bind, Except.bind]
  | ok number => simp [bind, Except.bind]

/-- An integer of 64 bits that is no section level is refused as itself. -/
lemma Numeral.Writes.level_eq_error (writes : numeral.Writes v) (range : -2 ^ 63 ≤ v ∧ v < 2 ^ 64)
    (outside : ¬(0 ≤ v ∧ v ≤ 0xFFFFFFFF)) : numeral.level = .error (.invalidLevel v) := by
  have found : numeral.integer? = some v := integer?_eq_some_iff.2 ⟨writes, range⟩
  have counts : levelOf (.integer v) = .error (.invalidLevel v) := by
    rw [levelOf, largestLevel]
    exact if_neg outside
  rw [Numeral.level, value, found]
  exact counts

/-- What is no integer of 64 bits counts as a floating-point number. -/
lemma Numeral.level_of_forall_not (other : ∀ v, numeral.Writes v → ¬(-2 ^ 63 ≤ v ∧ v < 2 ^ 64)) :
    numeral.level = .error .numberOutOfRange ∨
      ∃ size, numeral.level = .error (.invalidType (.floating size) .level) := by
  have none : numeral.integer? = none := by
    refine Option.eq_none_iff_forall_ne_some.2 fun v found => ?_
    obtain ⟨writes, range⟩ := integer?_eq_some_iff.1 found
    exact other v writes range
  rw [Numeral.level, value, none]
  cases numeral.magnitude? with
  | none => exact .inl rfl
  | some size => exact .inr ⟨_, rfl⟩

/-- The words for an integer that is no section level. -/
lemma Cause.message_invalidLevel (v : Int) : (Cause.invalidLevel v).message =
    "invalid value: integer `" ++ toString v ++ "`, expected u32" := by
  have message : (Cause.invalidLevel v).message =
      "invalid value: " ++ ("integer `" ++ toString v ++ "`") ++ ", expected " ++ "u32" := rfl
  have opening : "invalid value: integer `" = "invalid value: " ++ "integer `" := rfl
  have closing : "`, expected u32" = "`" ++ ", expected " ++ "u32" := rfl
  rw [message, opening, closing]
  simp only [String.append_assoc]

end Values

section Reading

variable {numeral : Numeral} {literal rest : List Char}

/-- A number is read as it is written, and then valued. -/
lemma run_readNumber_eq (negative : Bool) :
    (readNumber negative).run = andThen (readNumeral negative).run fun numeral rest =>
      numeral.value.map (·, rest) := by
  funext text
  unfold Reader.run readNumber andThen
  dsimp only
  cases readNumeral negative text with
  | error cause => rfl
  | ok read =>
    dsimp only [Except.map]
    cases read.value.value <;> rfl

/-- Of a number that ends where it should, the section level is read or refused. -/
lemma levelAt_of_written (form : numeral.WrittenUnsigned literal) (ends : Ends rest) :
    levelAt numeral.negative (literal ++ rest) = numeral.level.map (·, rest) := by
  have ran := (reads_readNumeral numeral.negative).complete ⟨rfl, form⟩ rfl ends
  rw [levelAt, andThen, run_readNumber_eq, andThen_of_ok ran, Numeral.level]
  cases numeral.value <;> rfl

/-- A literal is read to the end where a section level is asked for, whatever then becomes of it. -/
lemma run_level_of_placed (placed : Placed (.number numeral) literal) (ends : Ends rest) :
    level.run (literal ++ rest) = numeral.level.map (·, rest) := by
  obtain ⟨written, form, dropped⟩ := placed.exists_written
  rw [run_level_eq, atFirst, dropped rest]
  cases form with
  | positive sign form =>
    obtain ⟨c, later, rfl, digit⟩ := form.head
    obtain ⟨-, -, -, -, -, -, minus⟩ := first_of_isDigit digit
    have ran := levelAt_of_written form ends
    rw [sign] at ran
    simpa [minus, digit] using ran
  | negative sign form =>
    have ran := levelAt_of_written form ends
    rw [sign] at ran
    exact ran

/-- A number that is no section level is refused wherever it is placed. -/
lemma refuses_level {cause : Cause} (refused : numeral.level = .error cause) :
    Refuses Placed level (.number numeral) cause := by
  intro literal rest placed ends
  rw [run_level_of_placed placed ends, refused]
  rfl

end Reading

end Typeset.Json
