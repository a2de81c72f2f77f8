import Mathlib.Data.List.Infix
import Mathlib.Tactic.Lemma
import Typeset.DisplayMath.Region

/-!
# Display markers

Where a backslash and a mark stand next to each other in a text, and what a cut at the first such
pair finds. A marker of two texts put together is a marker of one of them or stands across the seam;
a cut finds the first marker, and no cut means that there is none.
-/

namespace Typeset.DisplayMath

/-- A backslash followed by the mark stands in the text. -/
def HasMarker (mark : Char) (text : List Char) : Prop :=
  ['\\', mark] <:+: text

instance (mark : Char) (text : List Char) : Decidable (HasMarker mark text) :=
  inferInstanceAs (Decidable (['\\', mark] <:+: text))

/-- A text with a marker is what stands before it, the marker, and what stands after it. -/
lemma hasMarker_iff {mark : Char} {text : List Char} :
    HasMarker mark text ↔ ∃ before after, text = before ++ '\\' :: mark :: after := by
  constructor
  · intro ⟨before, after, eq⟩
    exact ⟨before, after, by rw [← eq]; simp⟩
  · intro ⟨before, after, eq⟩
    exact ⟨before, after, by rw [eq]; simp⟩

/-- What has a marker in a part of it has the marker. -/
lemma HasMarker.mono {mark : Char} {part text : List Char} (h : HasMarker mark part)
    (sub : part <:+: text) : HasMarker mark text :=
  List.IsInfix.trans h sub

/-- The empty text has no marker. -/
lemma not_hasMarker_nil {mark : Char} : ¬ HasMarker mark [] := by
  intro h
  obtain ⟨before, after, eq⟩ := hasMarker_iff.1 h
  simp at eq

/-- A character other than a backslash starts no marker. -/
lemma hasMarker_cons_of_ne {mark c : Char} {text : List Char} (ne : c ≠ '\\') :
    HasMarker mark (c :: text) ↔ HasMarker mark text := by
  constructor
  · intro h
    cases List.infix_cons_iff.1 h with
    | inl front =>
      obtain ⟨rest, eq⟩ := front
      cases eq
      exact absurd rfl ne
    | inr later => exact later
  · exact fun h => h.mono (List.suffix_cons c text).isInfix

/-- A marker at the front, or one in what follows the first character. -/
lemma hasMarker_cons {mark c : Char} {text : List Char} :
    HasMarker mark (c :: text) ↔ (c = '\\' ∧ text.head? = some mark) ∨ HasMarker mark text := by
  constructor
  · intro h
    cases List.infix_cons_iff.1 h with
    | inl front =>
      obtain ⟨rest, eq⟩ := front
      cases eq
      exact .inl ⟨rfl, rfl⟩
    | inr later => exact .inr later
  · rintro (⟨rfl, head⟩ | later)
    · obtain ⟨rest, rfl⟩ := List.head?_eq_some_iff.1 head
      exact ⟨[], rest, rfl⟩
    · exact later.mono (List.suffix_cons c text).isInfix

/-- Where two characters stand next to each other in two texts put together. -/
lemma append_eq_pair_cases {a b : Char} {left right before after : List Char}
    (eq : left ++ right = before ++ a :: b :: after) :
    (∃ rest, left = before ++ a :: b :: rest ∧ after = rest ++ right) ∨
    (∃ rest, before = left ++ rest ∧ right = rest ++ a :: b :: after) ∨
    (left = before ++ [a] ∧ right = b :: after) := by
  rcases List.append_eq_append_iff.1 eq with ⟨rest, eqL, eqR⟩ | ⟨rest, eqL, eqR⟩
  · exact .inr (.inl ⟨rest, eqL, eqR⟩)
  · cases rest with
    | nil => exact .inr (.inl ⟨[], by simpa using eqL.symm, by simpa using eqR.symm⟩)
    | cons c rest =>
      cases rest with
      | nil =>
        cases eqR
        exact .inr (.inr ⟨eqL, rfl⟩)
      | cons d rest =>
        cases eqR
        exact .inl ⟨rest, eqL, rfl⟩

/-- A marker of two texts put together stands in one of them, if the first does not end in the middle
of a marker. -/
lemma append_eq_marker_cases {mark : Char} {left right before after : List Char}
    (ended : left.getLast? ≠ some '\\')
    (eq : left ++ right = before ++ '\\' :: mark :: after) :
    (∃ rest, left = before ++ '\\' :: mark :: rest ∧ after = rest ++ right) ∨
    (∃ rest, before = left ++ rest ∧ right = rest ++ '\\' :: mark :: after) := by
  obtain inLeft | inRight | ⟨seam, -⟩ := append_eq_pair_cases eq
  · exact .inl inLeft
  · exact .inr inRight
  · exact absurd (by rw [seam, List.getLast?_concat]) ended

/-- A marker of two texts put together stands in one of them or across the seam. -/
lemma hasMarker_append {mark : Char} {left right : List Char}
    (seam : ¬ (left.getLast? = some '\\' ∧ right.head? = some mark)) :
    HasMarker mark (left ++ right) ↔ HasMarker mark left ∨ HasMarker mark right := by
  constructor
  · intro h
    obtain ⟨before, after, eq⟩ := hasMarker_iff.1 h
    rcases append_eq_pair_cases eq with ⟨rest, eqL, _⟩ | ⟨rest, _, eqR⟩ | ⟨eqL, eqR⟩
    · exact .inl (hasMarker_iff.2 ⟨before, rest, eqL⟩)
    · exact .inr (hasMarker_iff.2 ⟨rest, after, eqR⟩)
    · exact absurd ⟨by simp [eqL], by simp [eqR]⟩ seam
  · rintro (h | h)
    · exact h.mono (List.prefix_append left right).isInfix
    · exact h.mono (List.suffix_append left right).isInfix

/-- A cut leaves no marker before it. -/
lemma not_hasMarker_of_cut? {mark : Char} {text before rest : List Char}
    (found : cut? mark text = some (before, rest)) : ¬ HasMarker mark before := by
  fun_induction cut? mark text generalizing before with
  | case1 => cases found
  | case2 => cases found
  | case3 =>
    cases found
    exact not_hasMarker_nil
  | case4 c d text differs ih =>
    obtain ⟨⟨later, rest'⟩, inner, same⟩ := Option.map_eq_some_iff.1 found
    cases same
    intro h
    rcases hasMarker_cons.1 h with ⟨rfl, head⟩ | h
    · obtain ⟨tail, rfl⟩ := List.head?_eq_some_iff.1 head
      have eq := eq_of_cut? inner
      simp only [List.cons_append, List.cons.injEq] at eq
      exact differs ⟨rfl, eq.1⟩
    · exact ih inner h

/-- A text is cut if it has the marker. -/
lemma cut?_isSome_of_hasMarker {mark : Char} {text : List Char} (h : HasMarker mark text) :
    (cut? mark text).isSome := by
  fun_induction cut? mark text with
  | case1 => exact absurd h not_hasMarker_nil
  | case2 c =>
    rcases hasMarker_cons.1 h with ⟨_, head⟩ | h
    · cases head
    · exact absurd h not_hasMarker_nil
  | case3 => rfl
  | case4 c d text differs ih =>
    rcases hasMarker_cons.1 h with ⟨rfl, head⟩ | h
    · exact absurd ⟨rfl, Option.some.inj head⟩ differs
    · simpa using ih h

/-- A text is not cut exactly if it does not have the marker. -/
lemma cut?_eq_none_iff {mark : Char} {text : List Char} :
    cut? mark text = none ↔ ¬ HasMarker mark text := by
  constructor
  · intro none h
    have some := cut?_isSome_of_hasMarker h
    rw [none] at some
    cases some
  · intro lacks
    cases found : cut? mark text with
    | none => rfl
    | some parts =>
      exact absurd (hasMarker_iff.2 ⟨parts.1, parts.2, eq_of_cut? found⟩) lacks

/-- The first marker is where no other stands before it. A text that a backslash ends has no marker
across its end, since the mark is no backslash. -/
lemma cut?_append_marker {mark : Char} (ne : mark ≠ '\\') {before rest : List Char}
    (lacks : ¬ HasMarker mark before) :
    cut? mark (before ++ '\\' :: mark :: rest) = some (before, rest) := by
  induction before with
  | nil => simp [cut?]
  | cons c before ih =>
    have later := ih fun h => lacks (h.mono (List.suffix_cons c before).isInfix)
    cases before with
    | nil => simp [cut?, ne.symm]
    | cons d before =>
      have differs : ¬ (c = '\\' ∧ d = mark) := by
        rintro ⟨rfl, rfl⟩
        exact lacks ⟨[], before, rfl⟩
      rw [List.cons_append] at later
      simp only [List.cons_append, cut?, differs, ↓reduceIte, later, Option.map_some]

/-- A text is cut at the first marker in it. -/
lemma cut?_eq_some_iff {mark : Char} (ne : mark ≠ '\\') {text before rest : List Char} :
    cut? mark text = some (before, rest) ↔
      text = before ++ '\\' :: mark :: rest ∧ ¬ HasMarker mark before := by
  constructor
  · exact fun found => ⟨eq_of_cut? found, not_hasMarker_of_cut? found⟩
  · rintro ⟨rfl, lacks⟩
    exact cut?_append_marker ne lacks

/-- More text at the end leaves the first marker where it is. -/
lemma cut?_append {mark : Char} (ne : mark ≠ '\\') {text before rest : List Char}
    (found : cut? mark text = some (before, rest)) (more : List Char) :
    cut? mark (text ++ more) = some (before, rest ++ more) := by
  have lacks := not_hasMarker_of_cut? found
  rw [eq_of_cut? found, List.append_assoc, List.cons_append, List.cons_append]
  exact cut?_append_marker ne lacks

/-- No marker stands before the first one: what follows any other is the end of what follows it. -/
lemma suffix_of_cut? {mark : Char} (ne : mark ≠ '\\') {text before rest other after : List Char}
    (found : cut? mark text = some (before, rest)) (eq : text = other ++ '\\' :: mark :: after) :
    after <:+ rest := by
  have lacks := not_hasMarker_of_cut? found
  rw [eq_of_cut? found] at eq
  rcases append_eq_pair_cases eq with ⟨_, eqL, _⟩ | ⟨between, _, eqR⟩ | ⟨_, eqR⟩
  · exact absurd (hasMarker_iff.2 ⟨_, _, eqL⟩) lacks
  · match between with
    | [] => cases eqR; exact List.suffix_rfl
    | [_] => cases eqR; exact List.suffix_cons _ _
    | _ :: _ :: between =>
      cases eqR
      exact ⟨between ++ ['\\', mark], by simp⟩
  · cases eqR
    exact absurd rfl ne

end Typeset.DisplayMath
