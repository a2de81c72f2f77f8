import Mathlib.Data.String.Basic
import Mathlib.Tactic.Lemma

/-!
# Slices of a text

The part of a text between two byte positions. Positions count bytes of the UTF-8 form, so a slice
exists only where both positions are boundaries of characters; it then cuts the text into what stands
before it, the slice, and what stands after it.
-/

namespace Typeset

open String (utf8Len)

/-- The part of a text between two byte positions: none unless both are boundaries of characters in
the text and the first is not behind the second. -/
def slice? (text : String) (start stop : Nat) : Option String :=
  if String.Pos.Raw.isValid text ⟨start⟩ ∧ String.Pos.Raw.isValid text ⟨stop⟩ ∧ start ≤ stop then
    some (String.Pos.Raw.extract text ⟨start⟩ ⟨stop⟩)
  else none

/-- A position is a boundary exactly if a text may be split there. -/
lemma isValid_iff {text : String} {position : Nat} :
    String.Pos.Raw.isValid text ⟨position⟩ = true ↔
      ∃ before after, text.toList = before ++ after ∧ position = utf8Len before := by
  rw [String.Pos.Raw.isValid_eq_true_iff, String.Pos.Raw.isValid_iff_exists_append]
  constructor
  · rintro ⟨before, after, rfl, eq⟩
    refine ⟨before.toList, after.toList, String.toList_append, ?_⟩
    simpa [String.Pos.Raw.ext_iff] using eq
  · rintro ⟨before, after, eq, rfl⟩
    refine ⟨String.ofList before, String.ofList after, ?_, ?_⟩
    · rw [← String.ofList_append, ← eq, String.ofList_toList]
    · simp

/-- Of two cuts of one text, the earlier one cuts the front part of the later one. -/
lemma prefix_of_utf8Len_le {before after before' after' : List Char}
    (eq : before ++ after = before' ++ after') (le : utf8Len before ≤ utf8Len before') :
    ∃ between, before' = before ++ between := by
  rcases List.append_eq_append_iff.1 eq with ⟨between, eq', _⟩ | ⟨between, eq', _⟩
  · exact ⟨between, eq'⟩
  · subst eq'
    rw [String.utf8Len_append] at le
    have none : between = [] := String.utf8Len_eq_zero.1 (by omega)
    exact ⟨[], by simp [none]⟩

/-- A slice cuts a text in three. -/
lemma slice?_eq_some_iff {text slice : String} {start stop : Nat} :
    slice? text start stop = some slice ↔
      ∃ before after, text.toList = before ++ slice.toList ++ after ∧
        start = utf8Len before ∧ stop = start + utf8Len slice.toList := by
  constructor
  · intro found
    unfold slice? at found
    split at found
    · next bounds =>
      obtain ⟨validStart, validStop, le⟩ := bounds
      obtain ⟨before, after, eq, rfl⟩ := isValid_iff.1 validStart
      obtain ⟨before', after', eq', rfl⟩ := isValid_iff.1 validStop
      obtain ⟨between, rfl⟩ := prefix_of_utf8Len_le (eq.symm.trans eq') le
      have extracted := String.extract_of_valid before between after'
      rw [← eq', String.ofList_toList, ← String.utf8Len_append] at extracted
      rw [extracted] at found
      cases found
      exact ⟨before, after', by simpa using eq', rfl, by simp⟩
    · cases found
  · rintro ⟨before, after, eq, rfl, rfl⟩
    have validStart : String.Pos.Raw.isValid text ⟨utf8Len before⟩ = true :=
      isValid_iff.2 ⟨before, slice.toList ++ after, by simpa using eq, rfl⟩
    have validStop : String.Pos.Raw.isValid text ⟨utf8Len before + utf8Len slice.toList⟩ = true :=
      isValid_iff.2 ⟨before ++ slice.toList, after, eq, by simp⟩
    have extracted := String.extract_of_valid before slice.toList after
    rw [← eq, String.ofList_toList, String.ofList_toList] at extracted
    rw [slice?, if_pos ⟨validStart, validStop, Nat.le_add_right _ _⟩, extracted]

end Typeset
