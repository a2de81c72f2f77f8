import Mathlib.Tactic.Lemma
import Typeset.Dictionary

/-!
# Dictionaries by their entries

A dictionary is known by what is found in it, and what is found in a dictionary of given entries is
the last one for a name.
-/

namespace Typeset

variable {name text : String} {entries entries' : List (String × String)}

/-- A name below all names of the entries is not found. -/
lemma lookup_eq_none_of_lt (above : ∀ entry ∈ entries, name < entry.1) :
    entries.lookup name = none := by
  refine List.lookup_eq_none_iff.2 fun entry mem => bne_iff_ne.2 ?_
  rintro rfl
  exact String.lt_irrefl _ (above entry mem)

/-- An entry of another name is passed over. -/
lemma lookup_cons_of_ne {other : String} (apart : name ≠ other) :
    ((other, text) :: entries).lookup name = entries.lookup name := by
  rw [List.lookup_cons, beq_false_of_ne apart]

/-- The least name with an entry is the first. -/
lemma le_of_lookup_cons (ordered : ((name, text) :: entries).Pairwise (·.1 < ·.1)) (other : String)
    (some : ((name, text) :: entries).lookup other ≠ none) : name ≤ other := by
  refine String.not_lt.1 fun below => some (lookup_eq_none_of_lt ?_)
  refine List.forall_mem_cons.2 ⟨below, fun entry mem => ?_⟩
  exact String.lt_trans below ((List.pairwise_cons.1 ordered).1 entry mem)

/-- Entries in order are known by what is found among them. -/
lemma entries_ext (ordered : entries.Pairwise (·.1 < ·.1))
    (ordered' : entries'.Pairwise (·.1 < ·.1))
    (same : ∀ name, entries.lookup name = entries'.lookup name) : entries = entries' := by
  induction entries generalizing entries' with
  | nil =>
    cases entries' with
    | nil => rfl
    | cons entry' entries' =>
      obtain ⟨name', text'⟩ := entry'
      simpa using same name'
  | cons entry entries ih =>
    obtain ⟨name, text⟩ := entry
    cases entries' with
    | nil => simpa using same name
    | cons entry' entries' =>
      obtain ⟨name', text'⟩ := entry'
      have below := le_of_lookup_cons ordered' name (by simp [← same name])
      have above := le_of_lookup_cons ordered name' (by simp [same name'])
      obtain rfl := String.le_antisymm above below
      obtain rfl : text = text' := by simpa using same name
      obtain ⟨first, ordered⟩ := List.pairwise_cons.1 ordered
      obtain ⟨first', ordered'⟩ := List.pairwise_cons.1 ordered'
      rw [ih ordered ordered' fun other => ?_]
      by_cases apart : other = name
      · rw [apart, lookup_eq_none_of_lt first, lookup_eq_none_of_lt first']
      · have same := same other
        rwa [lookup_cons_of_ne apart, lookup_cons_of_ne apart] at same

namespace Dictionary

/-- Dictionaries in which the same texts are found are equal. -/
lemma ext_find? {dictionary dictionary' : Dictionary}
    (same : ∀ name, dictionary.find? name = dictionary'.find? name) : dictionary = dictionary' := by
  obtain ⟨entries, ordered⟩ := dictionary
  obtain ⟨entries', ordered'⟩ := dictionary'
  obtain rfl := entries_ext ordered ordered' same
  rfl

/-- Of several entries for a name the last one is found. -/
lemma find?_foldl_insert (dictionary : Dictionary) (name : String) :
    (entries.foldl (fun dictionary entry => dictionary.insert entry.1 entry.2) dictionary).find?
        name =
      (entries.reverse.lookup name).or (dictionary.find? name) := by
  induction entries generalizing dictionary with
  | nil => rfl
  | cons entry entries ih =>
    rw [List.foldl_cons, ih, find?_insert, List.reverse_cons, List.lookup_append, Option.or_assoc]
    by_cases same : name = entry.1
    · rw [if_pos same, same, List.lookup_cons_self, Option.some_or]
    · rw [if_neg same, lookup_cons_of_ne same, List.lookup_nil, Option.none_or]

end Dictionary

end Typeset
