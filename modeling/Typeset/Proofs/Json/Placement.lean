import Typeset.Proofs.Json.Numbers

/-!
# Values in their place

A value may have blanks in front, and what stands behind it ends it: a blank, a comma or a bracket.
So a reader of values can be judged by what it does once the blanks are dropped.
-/

namespace Typeset.Json

variable {α : Type} {text rest literal : List Char} {value : Value} {c : Char}

/-- A value is written with blanks in front. -/
def Placed (value : Value) (literal : List Char) : Prop :=
  ∃ blank written, literal = blank ++ written ∧ AllBlank blank ∧ Written value written

section First

/-- The first character of a number, which is that of no other value. -/
lemma first_of_isDigit (digit : Text.isDigit c = true) :
    isBlank c = false ∧ c ≠ ']' ∧ c ≠ 'n' ∧ c ≠ 't' ∧ c ≠ 'f' ∧ c ≠ '"' ∧ c ≠ '-' := by
  have table : ∀ entry ∈ decimalDigits, isBlank entry.1 = false ∧ entry.1 ≠ ']' ∧ entry.1 ≠ 'n' ∧
      entry.1 ≠ 't' ∧ entry.1 ≠ 'f' ∧ entry.1 ≠ '"' ∧ entry.1 ≠ '-' := by
    decide
  obtain ⟨value, entry⟩ := isDigit_iff.1 digit
  exact table _ entry

/-- A value begins with no blank and no closing bracket, and only `null` begins with its letter. -/
lemma Written.first (written : Written value text) :
    ∃ c later, text = c :: later ∧ isBlank c = false ∧ c ≠ ']' ∧ (c = 'n' → value = .null) := by
  cases written with
  | null => exact ⟨_, _, rfl, by decide, by decide, fun _ => rfl⟩
  | positive _ number =>
    obtain ⟨c, later, rfl, digit⟩ := number.head
    obtain ⟨full, bracket, letter, -⟩ := first_of_isDigit digit
    exact ⟨c, later, rfl, full, bracket, fun same => (letter same).elim⟩
  | _ => exact ⟨_, _, rfl, by decide, by decide, fun same => absurd same (by decide)⟩

/-- A written value starts with no blank. -/
lemma Written.dropBlanks_append (written : Written value text) (rest : List Char) :
    dropBlanks (text ++ rest) = text ++ rest := by
  obtain ⟨c, later, rfl, full, -⟩ := written.first
  exact dropBlanks_cons full _

end First

section Placed

/-- A placed value is a written one behind blanks, which are dropped. -/
lemma Placed.exists_written (placed : Placed value literal) :
    ∃ written, Written value written ∧ ∀ rest, dropBlanks (literal ++ rest) = written ++ rest := by
  obtain ⟨blank, written, rfl, blanks, form⟩ := placed
  refine ⟨written, form, fun rest => ?_⟩
  rw [List.append_assoc, dropBlanks_append blanks, form.dropBlanks_append]

/-- A value that is written behind blanks is placed. -/
lemma Written.exists_placed {written : List Char} (form : Written value written)
    (dropped : dropBlanks text = written ++ rest) :
    ∃ literal, text = literal ++ rest ∧ Placed value literal := by
  obtain ⟨blank, blanks, cut⟩ := exists_blank text
  refine ⟨blank ++ written, ?_, blank, written, rfl, blanks, form⟩
  rw [cut, dropped, List.append_assoc]

/-- A reader that reads what is written behind the blanks. -/
lemma reads_placed {means : Value → α → Prop} {reader : Reader α}
    (sound : ∀ {x text rest}, reader.run text = .ok (x, rest) →
      ∃ value written, dropBlanks text = written ++ rest ∧ Written value written ∧ means value x)
    (complete : ∀ {x value written text rest}, Written value written → means value x → Ends rest →
      dropBlanks text = written ++ rest → reader.run text = .ok (x, rest)) :
    Reads Placed means reader where
  sound read := by
    obtain ⟨value, written, dropped, form, meant⟩ := sound read
    obtain ⟨literal, cut, placed⟩ := form.exists_placed dropped
    exact ⟨value, literal, cut, placed, meant⟩
  complete placed meant ends := by
    obtain ⟨written, form, dropped⟩ := placed.exists_written
    exact complete form meant ends (dropped _)

end Placed

section Ends

/-- The characters that may stand behind a value cannot be taken for more of a number. -/
lemma ends_cons (mark : c ∈ [':', ',', ']', '\x7d'] ++ [' ', '\t', '\n', '\r']) :
    Ends (c :: rest) := by
  intro c' first
  obtain rfl : c = c' := Option.some_inj.1 first
  simp only [List.cons_append, List.nil_append, List.mem_cons, List.not_mem_nil, or_false] at mark
  obtain rfl | rfl | rfl | rfl | rfl | rfl | rfl | rfl := mark <;> decide

/-- A number ends in front of blanks if it may end behind them. -/
lemma AllBlank.ends_append {blank : List Char} (blanks : AllBlank blank) (ends : Ends rest) :
    Ends (blank ++ rest) := by
  cases blank with
  | nil => exact ends
  | cons c blank => exact ends_cons (List.mem_append_right _ (blanks c List.mem_cons_self))

/-- A number ends in front of blanks that end the text. -/
lemma AllBlank.ends {blank : List Char} (blanks : AllBlank blank) : Ends blank := by
  have none : Ends [] := by
    rintro c ⟨⟩
  exact List.append_nil blank ▸ blanks.ends_append none

/-- A value in a list is ended by what goes on with the list. -/
lemma WrittenList.ends {values : List Value} (written : WrittenList false values text)
    (rest : List Char) : Ends (text ++ rest) := by
  cases written with
  | close blanks =>
    rw [List.append_assoc]
    exact blanks.ends_append (ends_cons (by decide))
  | next blanks =>
    rw [List.append_assoc]
    exact blanks.ends_append (ends_cons (by decide))

/-- A value in an object is ended by what goes on with the object. -/
lemma WrittenMembers.ends {members : List (List StringPart × Value)}
    (written : WrittenMembers false members text) (rest : List Char) : Ends (text ++ rest) := by
  cases written with
  | close blanks =>
    rw [List.append_assoc]
    exact blanks.ends_append (ends_cons (by decide))
  | next blanks =>
    rw [List.append_assoc]
    exact blanks.ends_append (ends_cons (by decide))

end Ends

end Typeset.Json
