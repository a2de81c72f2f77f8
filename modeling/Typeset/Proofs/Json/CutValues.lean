import Typeset.Proofs.Json.CutSkipping
import Typeset.Proofs.Json.Records

/-!
# Values that are cut

The readers of values that are asked for, and what they are put together from: wherever a text is
cut, they go the way that they go in the whole text.
-/

namespace Typeset.Json

variable {α β φ σ : Type} {text rest front back : List Char} {c : Char}

section Scalars

/-- A changed reader runs as the reader does. -/
lemma Reader.run_map_eq (reader : Reader α) (f : α → β) :
    (reader.map f).run = fun text => (reader.run text).map fun read => (f read.1, read.2) := by
  funext text
  unfold Reader.run Reader.map
  cases reader text <;> rfl

/-- A reader goes its way as well when what it reads is changed. -/
lemma CutsOff.map {reader : Reader α} (cuts : CutsOff reader) (f : α → β) :
    CutsOff (reader.map f) := by
  intro front back
  rw [Reader.run_map_eq]
  exact (cuts front back).map f

/-- What is refused in every text has no way to go. -/
lemma CutsOff.refuse {cause : Cause} : CutsOff (Reader.refuse (α := α) cause) := by
  intro front back
  exact .refused rfl

/-- An opening mark is decided on by the first character. -/
lemma run_opened_eq {mark : Char} {wanted : Wanted} {body : Reader α} :
    (opened mark wanted body).run =
      atFirst .endInValue fun c start =>
        if c = mark then body.run start else .error (mismatch wanted c start) := by
  refine eq_atFirst (fun peeked => ?_) fun {_ _ start _} peeked => ?_
  · unfold Reader.run opened
    rw [peeked]
    rfl
  · unfold Reader.run opened
    rw [peeked]
    dsimp only
    split_ifs
    · cases body start <;> rfl
    · rfl

/-- What stands behind an opening mark goes its way if its body does behind the mark. -/
lemma cutsOff_opened {mark : Char} (wanted : Wanted) {body : Reader α}
    (cuts : ∀ front back, CutAt [mark] body.run front back) : CutsOff (opened mark wanted body) := by
  intro front back
  rw [run_opened_eq]
  refine .atFirst rfl fun c left => .ite (fun same => ?_) fun _ => .error
  subst same
  exact (cuts left back).behind

/-- A text goes its way wherever it is cut. -/
lemma cutsOff_text : CutsOff Json.text :=
  cutsOff_opened .text fun _ _ => cutAt_readString

/-- A list goes its way if its values do. -/
lemma CutsOff.sequence {body : Reader α} (cuts : CutsOff body) : CutsOff (Json.sequence body) :=
  cutsOff_opened .sequence fun front back =>
    (cuts front back).ofTokens (Token.mark (by decide)).tokens

/-- An object goes its way if its members do. -/
lemma CutsOff.object {body : Reader α} (cuts : CutsOff body) : CutsOff (Json.map body) :=
  cutsOff_opened .map fun front back =>
    (cuts front back).ofTokens (Token.mark (by decide)).tokens

/-- Whether a record is a list or an object is decided by the first character. -/
lemma run_record_eq {name : String} {asList asObject : Reader α} :
    (record name asList asObject).run =
      atFirst .endInValue fun c start =>
        if c = '[' then asList.run start
        else if c = '\x7b' then asObject.run start
        else .error (mismatch (.record name) c start) := by
  refine eq_atFirst (fun peeked => ?_) fun {_ _ start _} peeked => ?_
  · unfold Reader.run record
    rw [peeked]
    rfl
  · unfold Reader.run record
    rw [peeked]
    dsimp only
    split_ifs
    · cases asList start <;> rfl
    · cases asObject start <;> rfl
    · rfl

/-- A record goes its way if it does as a list and as an object. -/
lemma CutsOff.record {name : String} {asList asObject : Reader α} (list : CutsOff asList)
    (object : CutsOff asObject) : CutsOff (Json.record name asList asObject) := by
  intro front back
  rw [run_record_eq]
  refine .atFirst rfl fun c left => .ite (fun bracket => ?_) fun _ => .ite (fun brace => ?_)
    fun _ => .error
  · subst bracket
    exact (list left back).behindToken (.mark (by decide))
  · subst brace
    exact (object left back).behindToken (.mark (by decide))

/-- An optional value goes its way if the value does. -/
lemma CutsOff.optional {reader : Reader α} (cuts : CutsOff reader) :
    CutsOff (Json.optional reader) := by
  intro front back
  refine .unlessBlank .endInValue rfl (fun found => ?_) fun c left found => ?_
  · unfold Reader.run Json.optional
    rw [peek?_of_nil found]
    rfl
  · have same := run_optional_of_cons reader found
    have same' := run_optional_of_cons reader (dropBlanks_append_of_cons found back)
    by_cases null : c = 'n'
    · rw [if_pos null] at same same'
      subst null
      exact (cutAt_keyword (Token.word (by decide)).tokens).behind.blanks found same same'
    · rw [if_neg null] at same same'
      exact ((cuts front back).map some).congr same same'

/-- A number behind its sign goes its way, or is itself cut. -/
lemma cutAt_readNumber {negative : Bool} {sign : List Char} (begun : sign ++ front ≠ [])
    (signed : ∀ {numeral : Numeral} {literal}, numeral.negative = negative →
      numeral.WrittenUnsigned literal → ∃ numeral, Written (.number numeral) (sign ++ literal)) :
    CutAt sign (readNumber negative).run front back := by
  intro number rest ran
  obtain ⟨numeral, ran', value⟩ := run_readNumber.1 ran
  exact cut_numeral ran' (fun _ => signed) begun fun left ran'' =>
    run_readNumber.2 ⟨numeral, ran'', value⟩

/-- A section level behind its sign. -/
def levelAt (negative : Bool) : List Char → Except Cause (Nat × List Char) :=
  andThen (readNumber negative).run fun number rest => (levelOf number).map (·, rest)

/-- Whether a section level has a sign is decided by the first character. -/
lemma run_level_eq : level.run =
    atFirst .endInValue fun c start =>
      if c = '-' then levelAt true start
      else if Text.isDigit c then levelAt false (c :: start)
      else .error (mismatch .level c start) := by
  refine eq_atFirst (fun peeked => ?_) fun {_ c start _} peeked => ?_
  · unfold Reader.run level
    rw [peeked]
    rfl
  · unfold Reader.run level levelAt andThen Reader.run
    rw [peeked]
    dsimp only
    split_ifs
    · cases readNumber true start with
      | error cause => rfl
      | ok read => cases found : levelOf read.value <;> simp [Except.map, found]
    · cases readNumber false (c :: start) with
      | error cause => rfl
      | ok read => cases found : levelOf read.value <;> simp [Except.map, found]
    · rfl

/-- A section level goes the way of its number. -/
lemma cutAt_levelAt {negative : Bool} {done : List Char}
    (cut : CutAt done (readNumber negative).run front back) :
    CutAt done (levelAt negative) front back := by
  refine cut.andThen fun number _ left _ _ => ?_
  cases levelOf number with
  | error cause => exact .refused rfl
  | ok level => exact .value .nil

/-- A section level goes its way wherever it is cut. -/
lemma cutsOff_level : CutsOff level := by
  intro front back
  rw [run_level_eq]
  refine .atFirst rfl fun c left => .ite (fun minus => ?_) fun _ => .ite (fun digit => ?_)
    fun _ => .error
  · subst minus
    refine (cutAt_levelAt (cutAt_readNumber (by simp) fun sign written => ?_)).behind
    exact ⟨_, .negative sign written⟩
  · have cut : CutAt [] (levelAt false) (c :: left) back :=
      cutAt_levelAt (cutAt_readNumber (by simp) fun sign written => ⟨_, .positive sign written⟩)
    exact cut

end Scalars

end Typeset.Json
