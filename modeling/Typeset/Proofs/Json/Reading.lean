import Typeset.Json.Value
import Typeset.Proofs.Json.Grammar

/-!
# What readers read

A reader is described by the form of what it takes off a text and by what it makes of it. It reads
what has the form and nothing else, provided that the text behind cannot be taken for more of a
number. What the readers are built from is opened here once, so that no later proof looks into the
proofs that their results carry.
-/

namespace Typeset.Json

variable {α β : Type} {text rest front : List Char} {c : Char}

section Blanks

/-- The blanks are four characters. -/
lemma isBlank_iff : isBlank c = true ↔ c ∈ [' ', '\t', '\n', '\r'] := by
  simp [isBlank, or_assoc]

instance : Decidable (AllBlank text) :=
  List.decidableBAll (· ∈ [' ', '\t', '\n', '\r']) text

/-- The empty text is blank. -/
@[simp]
lemma allBlank_nil : AllBlank [] := by
  simp [AllBlank]

/-- A text is blank if its first character is and the others are. -/
lemma allBlank_cons_iff : AllBlank (c :: text) ↔ isBlank c = true ∧ AllBlank text := by
  rw [isBlank_iff]
  exact List.forall_mem_cons

/-- A text is blank if both parts of it are. -/
lemma allBlank_append_iff {back : List Char} :
    AllBlank (front ++ back) ↔ AllBlank front ∧ AllBlank back :=
  List.forall_mem_append

/-- Blanks in front are dropped. -/
lemma dropBlanks_append (blank : AllBlank front) (text : List Char) :
    dropBlanks (front ++ text) = dropBlanks text := by
  induction front with
  | nil => rfl
  | cons c front ih =>
    obtain ⟨first, later⟩ := allBlank_cons_iff.1 blank
    rw [List.cons_append, dropBlanks, if_pos first, ih later]

/-- A character that is not blank is kept. -/
lemma dropBlanks_cons (full : isBlank c = false) (text : List Char) :
    dropBlanks (c :: text) = c :: text := by
  rw [dropBlanks, full, if_neg Bool.false_ne_true]

/-- A text is blanks and what dropping them leaves. -/
lemma exists_blank (text : List Char) :
    ∃ blank, AllBlank blank ∧ text = blank ++ dropBlanks text := by
  induction text with
  | nil => exact ⟨[], allBlank_nil, rfl⟩
  | cons c text ih =>
    cases first : isBlank c with
    | false => exact ⟨[], allBlank_nil, (dropBlanks_cons first text).symm⟩
    | true =>
      obtain ⟨blank, blanks, cut⟩ := ih
      refine ⟨c :: blank, allBlank_cons_iff.2 ⟨first, blanks⟩, ?_⟩
      rw [dropBlanks, if_pos first, List.cons_append, ← cut]

/-- All of a text is dropped if it is blank. -/
lemma dropBlanks_eq_nil_iff : dropBlanks text = [] ↔ AllBlank text := by
  refine ⟨fun dropped => ?_, fun blank => ?_⟩
  · obtain ⟨blank, blanks, cut⟩ := exists_blank text
    rwa [cut, dropped, List.append_nil]
  · simpa [dropBlanks] using dropBlanks_append blank []

/-- What is left of a text stands behind blanks. -/
lemma exists_blank_cons (dropped : dropBlanks text = c :: rest) :
    ∃ blank, AllBlank blank ∧ text = blank ++ c :: rest := by
  obtain ⟨blank, blanks, cut⟩ := exists_blank text
  exact ⟨blank, blanks, dropped ▸ cut⟩

/-- Blanks are dropped up to the first character that is none. -/
lemma dropBlanks_append_cons (blank : AllBlank front) (full : isBlank c = false)
    (text : List Char) : dropBlanks (front ++ c :: text) = c :: text := by
  rw [dropBlanks_append blank, dropBlanks_cons full]

/-- Either nothing but blanks comes, or there is a first character that is none. -/
lemma peek?_cases (text : List Char) :
    (peek? text = none ∧ dropBlanks text = []) ∨
      ∃ c rest shorter, peek? text = some ⟨c, rest, shorter⟩ ∧ dropBlanks text = c :: rest := by
  unfold peek?
  split
  · rename_i found
    exact .inl ⟨rfl, found⟩
  · rename_i c rest found
    have within := length_dropBlanks_le text
    rw [found] at within
    exact .inr ⟨c, rest, within, rfl, found⟩

/-- A blank text has no first character. -/
lemma peek?_of_nil (found : dropBlanks text = []) : peek? text = none := by
  obtain ⟨peeked, -⟩ | ⟨c, start, shorter, -, found'⟩ := peek?_cases text
  · exact peeked
  · cases found.symm.trans found'

/-- The first character is the one that is left in front when the blanks are dropped. -/
lemma peek?_of_cons (found : dropBlanks text = c :: rest) :
    ∃ shorter, peek? text = some ⟨c, rest, shorter⟩ := by
  obtain ⟨-, found'⟩ | ⟨c, start, shorter, peeked, found'⟩ := peek?_cases text
  · cases found.symm.trans found'
  · cases found.symm.trans found'
    exact ⟨shorter, peeked⟩

end Blanks

/-- A table that holds the characters of a range, with numbers counted from its lower end, holds
each character in the range. -/
lemma mem_of_range {table : List (Char × Nat)} {low high : Char} (least : Nat)
    (entries : ∀ i ≤ high.toNat - low.toNat, (Char.ofNat (low.toNat + i), i + least) ∈ table)
    (range : low ≤ c ∧ c ≤ high) : (c, c.toNat - low.toNat + least) ∈ table := by
  obtain ⟨lower, upper⟩ := range
  have lower : low.toNat ≤ c.toNat := Char.le_def.1 lower
  have upper : c.toNat ≤ high.toNat := Char.le_def.1 upper
  have entry := entries (c.toNat - low.toNat) (by omega)
  rwa [Nat.add_sub_cancel' lower, Char.ofNat_toNat] at entry

/-- A changed result is a value if the result was one. -/
lemma map_eq_ok_iff {e : Except Cause α} {f : α → β} {y : β} :
    e.map f = .ok y ↔ ∃ x, e = .ok x ∧ f x = y := by
  cases e <;> simp [Except.map]

/-- A changed result is a refusal if the result was the same one. -/
lemma map_eq_error_iff {e : Except Cause α} {f : α → β} {cause : Cause} :
    e.map f = .error cause ↔ e = .error cause := by
  cases e <;> simp [Except.map]

/-- The result of a choice is changed choice by choice. -/
lemma map_ite {condition : Prop} [Decidable condition] {e e' : Except Cause α} {f : α → β}
    {r r' : Except Cause β} (pos : e.map f = r) (neg : e'.map f = r') :
    (if condition then e else e').map f = if condition then r else r' := by
  rw [apply_ite (Except.map f), pos, neg]

/-- A keyword is passed where its letters come next. -/
lemma keyword_eq_ok_iff {letters : List Char} :
    (∃ within, keyword letters text = .ok ⟨rest, within⟩) ↔ text = letters ++ rest := by
  induction letters generalizing text with
  | nil =>
    simpa [keyword] using fun same : text = rest => Nat.le_of_eq (congrArg List.length same.symm)
  | cons letter letters ih =>
    cases text with
    | nil => simp [keyword]
    | cons c text =>
      by_cases same : letter = c
      · subst same
        simp only [keyword, if_pos, map_eq_ok_iff, List.cons_append, List.cons.injEq, true_and,
          ← ih]
        refine ⟨fun ⟨_, ⟨rest', within⟩, read, eq⟩ => ?_, fun ⟨within, read⟩ => ?_⟩
        · obtain rfl : rest' = rest := congrArg Subtype.val eq
          exact ⟨within, read⟩
        · exact ⟨Nat.le_succ_of_le within, _, read, rfl⟩
      · simp [keyword, same, Ne.symm same]

/-- A keyword is passed for the sake of the text behind it. -/
lemma map_keyword_eq_ok_iff {letters : List Char} {x y : α} :
    ((keyword letters text).map fun after => (x, after.1)) = .ok (y, rest) ↔
      x = y ∧ text = letters ++ rest := by
  rw [map_eq_ok_iff, ← keyword_eq_ok_iff]
  refine ⟨fun ⟨⟨_, within⟩, passed, eq⟩ => ?_, fun ⟨same, within, passed⟩ => ?_⟩
  · obtain ⟨same, rfl⟩ := Prod.mk.inj eq
    exact ⟨same, within, passed⟩
  · exact ⟨_, passed, congrArg (·, rest) same⟩

namespace Reader

variable {reader : Reader α} {x : α}

/-- A reader that runs to a value has left a shorter text. -/
lemma run_eq_ok_iff :
    reader.run text = .ok (x, rest) ↔ ∃ shorter, reader text = .ok ⟨x, rest, shorter⟩ := by
  unfold run
  rw [map_eq_ok_iff]
  refine ⟨fun ⟨⟨value, rest', shorter⟩, read, eq⟩ => ?_, fun ⟨shorter, read⟩ => ⟨_, read, rfl⟩⟩
  obtain ⟨rfl, rfl⟩ := Prod.mk.inj eq
  exact ⟨shorter, read⟩

/-- What nothing is made of is read for the sake of the text behind it. -/
lemma map_run_eq_ok_iff {reader : Reader Unit} {x y : α} :
    ((reader.run text).map fun read => (x, read.2)) = .ok (y, rest) ↔
      x = y ∧ reader.run text = .ok ((), rest) := by
  rw [map_eq_ok_iff]
  refine ⟨fun ⟨⟨⟨⟩, _⟩, read, eq⟩ => ?_, fun ⟨same, read⟩ => ⟨_, read, congrArg (·, rest) same⟩⟩
  obtain ⟨same, rfl⟩ := Prod.mk.inj eq
  exact ⟨same, read⟩

end Reader

/-- Where a number ends for sure: no digit, point or exponent mark comes next. -/
def Ends (rest : List Char) : Prop :=
  ∀ c ∈ rest.head?, Text.isDigit c = false ∧ c ≠ '.' ∧ c ≠ 'e' ∧ c ≠ 'E'

/-- A reader takes what has the form off the front of a text, and gives what it means. -/
structure Reads (form : β → List Char → Prop) (means : β → α → Prop) (reader : Reader α) :
    Prop where
  sound {x : α} {text rest : List Char} (read : reader.run text = .ok (x, rest)) :
    ∃ value literal, text = literal ++ rest ∧ form value literal ∧ means value x
  complete {x : α} {value : β} {literal rest : List Char} (written : form value literal)
    (meant : means value x) (ends : Ends rest) : reader.run (literal ++ rest) = .ok (x, rest)

namespace Reads

variable {form : β → List Char → Prop} {means : β → α → Prop} {reader : Reader α}

/-- What a reader reads, with its value changed. -/
lemma map {γ : Type} (reads : Reads form means reader) (f : α → γ) :
    Reads form (fun value y => ∃ x, means value x ∧ f x = y) (reader.map f) where
  sound {y text rest} read := by
    obtain ⟨_, read⟩ := Reader.run_eq_ok_iff.1 read
    obtain ⟨parsed, found, eq⟩ := map_eq_ok_iff.1 read
    cases eq
    obtain ⟨value, literal, cut, written, meant⟩ :=
      reads.sound (Reader.run_eq_ok_iff.2 ⟨parsed.shorter, found⟩)
    exact ⟨value, literal, cut, written, _, meant, rfl⟩
  complete written meant ends := by
    obtain ⟨x, meant, rfl⟩ := meant
    obtain ⟨_, found⟩ := Reader.run_eq_ok_iff.1 (reads.complete written meant ends)
    simp only [Reader.run, Reader.map, found, Except.map, Parsed.map]

/-- What a reader reads, said in another way. -/
lemma congr {means' : β → α → Prop} (reads : Reads form means reader)
    (same : ∀ value x, means value x ↔ means' value x) : Reads form means' reader where
  sound read := by
    obtain ⟨value, literal, cut, written, meant⟩ := reads.sound read
    exact ⟨value, literal, cut, written, (same value _).1 meant⟩
  complete written meant ends := reads.complete written ((same _ _).2 meant) ends

/-- The reader that refuses every text reads nothing. -/
lemma refuse {cause : Cause} : Reads form (fun _ _ => False) (Reader.refuse (α := α) cause) where
  sound read := by cases read
  complete _ meant _ := meant.elim

end Reads

/-- A text of one value, with nothing but blanks behind it. -/
lemma readAll_eq_ok_iff {reader : Reader α} {x : α} :
    readAll reader text = .ok x ↔ ∃ rest, reader.run text = .ok (x, rest) ∧ AllBlank rest := by
  unfold readAll Reader.run
  cases reader text with
  | error cause => simp [Except.map]
  | ok read =>
    cases behind : dropBlanks read.rest with
    | nil => simp [Except.map, behind, dropBlanks_eq_nil_iff.1 behind]
    | cons c rest =>
      have full : ¬ AllBlank read.rest := by simp [← dropBlanks_eq_nil_iff, behind]
      simp [Except.map, behind, full]

/-- What a reader refuses is refused. -/
lemma readAll_of_error {reader : Reader α} {cause : Cause}
    (refused : reader.run text = .error cause) : readAll reader text = .error cause := by
  unfold Reader.run at refused
  unfold readAll
  cases read : reader text with
  | error cause' =>
    rw [read] at refused
    cases refused
    rfl
  | ok read' =>
    rw [read] at refused
    cases refused

/-- More than one value is refused. -/
lemma readAll_of_more {reader : Reader α} {x : α} (ran : reader.run text = .ok (x, rest))
    (full : ¬AllBlank rest) : readAll reader text = .error .trailingCharacters := by
  obtain ⟨_, read⟩ := Reader.run_eq_ok_iff.1 ran
  rw [← dropBlanks_eq_nil_iff] at full
  unfold readAll
  rw [read]
  cases behind : dropBlanks rest with
  | nil => exact (full behind).elim
  | cons c rest => simp [behind]

end Typeset.Json
