import Typeset.Proofs.Json.CutCollections

/-!
# The limit of nesting

A text may be refused because the lists and objects that are read nest too deep. A reader that
allows for less nesting than another one differs from it in this refusal only; this carries over
from readers to what they are put together to. Nothing that is skipped is refused for its nesting,
as each step over it gives a cause of its own.
-/

namespace Typeset.Json

variable {α β φ σ : Type} {text rest : List Char}

section Limits

variable {read read' other other' : List Char → Except Cause (α × List Char)}

/-- A text is refused for its nesting, or read in the same way by another reading. -/
def LimitsAt (read read' : List Char → Except Cause (α × List Char)) (text : List Char) : Prop :=
  read text = .error .recursionLimit ∨ read text = read' text

/-- A reader goes the way of another one, short of what it refuses for its nesting. -/
def Limits (reader reader' : Reader α) : Prop :=
  ∀ text, LimitsAt reader.run reader'.run text

/-- A reading goes its own way. -/
lemma LimitsAt.refl : LimitsAt read read text :=
  .inr rfl

/-- Two readings one after the other go the way of two others if each does. -/
lemma LimitsAt.andThen {next next' : α → List Char → Except Cause (β × List Char)}
    (first : LimitsAt read read' text)
    (second : ∀ x rest, read text = .ok (x, rest) → LimitsAt (next x) (next' x) rest) :
    LimitsAt (andThen read next) (andThen read' next') text := by
  unfold LimitsAt Json.andThen
  obtain refused | same := first
  · rw [refused]
    exact .inl rfl
  · rw [← same]
    cases ran : read text with
    | error cause => exact .inr rfl
    | ok given => exact second given.1 given.2 ran

/-- A reading that goes by the first character goes the way of another if it does behind each. -/
lemma LimitsAt.atFirst {cause : Cause}
    {step step' : Char → List Char → Except Cause (α × List Char)}
    (steps : ∀ c start, LimitsAt (step c) (step' c) start) :
    LimitsAt (atFirst cause step) (atFirst cause step') text := by
  unfold LimitsAt Json.atFirst
  cases dropBlanks text with
  | nil => exact .inr rfl
  | cons c start => exact steps c start

/-- A choice goes the way of another one if both readings do. -/
lemma LimitsAt.ite {condition : Prop} [Decidable condition] (yes : LimitsAt read read' text)
    (no : LimitsAt other other' text) :
    LimitsAt (fun text => if condition then read text else other text)
      (fun text => if condition then read' text else other' text) text := by
  unfold LimitsAt
  split_ifs
  · exact yes
  · exact no

end Limits

section Readers

variable {reader reader' reader'' : Reader α}

/-- A reader goes its own way. -/
lemma Limits.refl : Limits reader reader :=
  fun _ => .refl

/-- Going the way of another reader carries over from reader to reader. -/
lemma Limits.trans (first : Limits reader reader') (second : Limits reader' reader'') :
    Limits reader reader'' := by
  intro text
  obtain refused | same := first text
  · exact .inl refused
  · obtain refused | same' := second text
    · exact .inl (same.trans refused)
    · exact .inr (same.trans same')

/-- A reader that refuses everything for its nesting goes any way. -/
lemma Limits.refuse : Limits (Reader.refuse .recursionLimit) reader :=
  fun _ => .inl rfl

/-- Readers go one way as well when what they read is changed. -/
lemma Limits.map (limits : Limits reader reader') (f : α → β) :
    Limits (reader.map f) (reader'.map f) := by
  intro text
  unfold LimitsAt
  rw [Reader.run_map_eq, Reader.run_map_eq]
  dsimp only
  obtain refused | same := limits text
  · exact .inl (by rw [refused]; rfl)
  · exact .inr (by rw [same])

variable {body body' : Reader α}

/-- What stands behind an opening mark goes the way of its body. -/
lemma limits_opened (mark : Char) (wanted : Wanted) (limits : Limits body body') :
    Limits (opened mark wanted body) (opened mark wanted body') := by
  intro text
  rw [run_opened_eq, run_opened_eq]
  exact .atFirst fun c start => .ite (limits start) .refl

/-- Lists go the way of their values. -/
lemma Limits.sequence (limits : Limits body body') :
    Limits (Json.sequence body) (Json.sequence body') :=
  limits_opened '[' .sequence limits

/-- Objects go the way of their members. -/
lemma Limits.object (limits : Limits body body') : Limits (Json.map body) (Json.map body') :=
  limits_opened '\x7b' .map limits

/-- Records go the way of what they are as a list and as an object. -/
lemma Limits.record {name : String} {asList asList' asObject asObject' : Reader α}
    (list : Limits asList asList') (object : Limits asObject asObject') :
    Limits (Json.record name asList asObject) (Json.record name asList' asObject') := by
  intro text
  rw [run_record_eq, run_record_eq]
  exact .atFirst fun c start => .ite (list start) (.ite (object start) .refl)

/-- The way to a value makes no text longer. -/
lemma length_of_toElement {first more : Bool} (found : toElement first text = .ok (more, rest)) :
    rest.length ≤ text.length := by
  obtain ⟨step, -, same⟩ := map_eq_ok_iff.1 found
  cases step with
  | closed _ shorter =>
    obtain ⟨-, rfl⟩ := Prod.mk.inj same
    exact le_of_shorter shorter
  | element _ within =>
    obtain ⟨-, rfl⟩ := Prod.mk.inj same
    exact within

/-- The values of a list go the way of each. -/
lemma Limits.elements {first : Bool} (limits : Limits reader reader') :
    Limits (Json.elements reader first) (Json.elements reader' first) := by
  intro text
  -- Behind each value the rest is shorter, whether or not the readers have gone the same way.
  induction length : text.length using Nat.strongRecOn generalizing text first with
  | _ n ih =>
    subst length
    rw [run_elements_eq, @run_elements_eq α reader' first]
    refine LimitsAt.andThen .refl fun more start found => ?_
    cases more with
    | false => exact .refl
    | true =>
      refine (limits start).andThen fun x rest ran => ?_
      have shorter := Reader.length_of_run ran
      have within := length_of_toElement found
      exact (ih rest.length (by omega) rest rfl).andThen fun xs rest' ran' => .refl

end Readers

section Members

variable {member member' : String → σ → Except Cause (Reader σ)}

/-- A key is refused as by another reader, or the value under it is read in its way short of what is
refused for its nesting. -/
inductive MemberLimits : Except Cause (Reader σ) → Except Cause (Reader σ) → Prop where
  | refused {cause : Cause} : MemberLimits (.error cause) (.error cause)
  | read {reader reader' : Reader σ} :
    Limits reader reader' → MemberLimits (.ok reader) (.ok reader')

/-- The way into a member makes a text shorter. -/
lemma length_of_toMember {first : Bool} {key : Option String}
    (found : toMember first text = .ok (key, rest)) : rest.length < text.length := by
  unfold toMember at found
  split at found
  · cases found
  · rename_i shorter _
    cases found
    exact shorter
  · rename_i shorter _
    obtain ⟨⟨_, _⟩, ran, same⟩ := map_eq_ok_iff.1 found
    obtain ⟨-, rfl⟩ := Prod.mk.inj same
    exact shorter_trans (Reader.length_of_run ran) shorter

/-- The members of an object go the way of what is read under each key. -/
lemma Limits.members {first : Bool} {state : σ}
    (limits : ∀ key state, MemberLimits (member key state) (member' key state)) :
    Limits (Json.members member first state) (Json.members member' first state) := by
  intro text
  induction length : text.length using Nat.strongRecOn generalizing text first state with
  | _ n ih =>
    subst length
    rw [run_members_eq, @run_members_eq σ member' first state]
    refine LimitsAt.andThen .refl fun key start found => ?_
    cases key with
    | none => exact .refl
    | some key =>
      dsimp only
      have limited := limits key state
      generalize member key state = made, member' key state = made' at limited ⊢
      cases limited with
      | refused => exact .refl
      | read limits =>
        refine LimitsAt.andThen .refl fun _ place colon => ?_
        refine (limits place).andThen fun state' later ran => ?_
        have shorter := length_of_toMember found
        have shorter' := Reader.length_of_run colon
        have shorter'' := Reader.length_of_run ran
        exact ih later.length (by omega) later rfl

end Members

section Records

variable {form form' : RecordForm φ α}

/-- The form of a record has the fields of another one, and reads each in its way short of what is
refused for its nesting. -/
structure FormLimits (form form' : RecordForm φ α) : Prop where
  order : form.order = form'.order
  key : form.key = form'.key
  read : ∀ field record, Limits (form.read field record) (form'.read field record)

/-- The fields of a record that is written as a list go the way of each. -/
lemma FormLimits.fieldsFrom (limits : FormLimits form form') {fields : List φ} {first : Bool}
    {record : α} :
    Limits (form.fieldsFrom fields first record) (form'.fieldsFrom fields first record) := by
  induction fields generalizing first record with
  | nil => exact .refl
  | cons field fields ih =>
    intro text
    rw [run_fieldsFrom_cons_eq, run_fieldsFrom_cons_eq]
    refine LimitsAt.andThen .refl fun more start _ => ?_
    cases more with
    | false => exact .refl
    | true => exact (limits.read field record start).andThen fun record' later _ => ih later

variable [DecidableEq φ]

/-- What is read under a key goes the way of the field that the key names. -/
lemma FormLimits.member (limits : FormLimits form form') (key : String) (state : α × List φ) :
    MemberLimits (form.member key state) (form'.member key state) := by
  have named : form.named? key = form'.named? key := by
    unfold RecordForm.named?
    rw [limits.order, limits.key]
  unfold RecordForm.member
  rw [named, limits.key]
  cases form'.named? key with
  | none => exact .read .refl
  | some field =>
    dsimp only
    split_ifs
    · exact .refused
    · exact .read ((limits.read field state.1).map _)

/-- A record is read in the way of another form, short of what is refused for its nesting. -/
theorem FormLimits.record (limits : FormLimits form form') (name : String) (blank : α) :
    Limits (Json.record name (form.list blank) (form.object blank))
      (Json.record name (form'.list blank) (form'.object blank)) := by
  have list : Limits (form.list blank) (form'.list blank) := by
    unfold RecordForm.list
    rw [limits.order]
    exact limits.fieldsFrom
  have object : Limits (form.object blank) (form'.object blank) :=
    (Limits.members limits.member).map Prod.fst
  exact list.record object

end Records

section Skipping

variable {read : List Char → Except Cause (α × List Char)} {cause : Cause} {frame : Frame}
  {outer : List Frame}

/-- A text is not refused for its nesting. -/
def Unlimited (read : List Char → Except Cause (α × List Char)) (text : List Char) : Prop :=
  read text ≠ .error .recursionLimit

/-- Reading nothing is not refused. -/
lemma Unlimited.value {x : α} : Unlimited (fun text => .ok (x, text)) text :=
  nofun

/-- Two readings one after the other are not refused if neither is. -/
lemma Unlimited.andThen {next : α → List Char → Except Cause (β × List Char)}
    (first : Unlimited read text)
    (second : ∀ x rest, read text = .ok (x, rest) → Unlimited (next x) rest) :
    Unlimited (andThen read next) text := by
  unfold Unlimited Json.andThen
  cases ran : read text with
  | error cause =>
    intro refused
    cases refused
    exact first ran
  | ok given => exact second given.1 given.2 ran

/-- A reading that goes by the first character is not refused if none behind it is. -/
lemma Unlimited.atFirst {step : Char → List Char → Except Cause (α × List Char)}
    (ends : cause.isEnd = true) (steps : ∀ c start, Unlimited (step c) start) :
    Unlimited (atFirst cause step) text := by
  unfold Unlimited Json.atFirst
  cases dropBlanks text with
  | nil =>
    intro same
    cases same
    cases ends
  | cons c start => exact steps c start

/-- A reading is not refused when what it reads is changed. -/
lemma Unlimited.map {f : α × List Char → β × List Char} (unlimited : Unlimited read text) :
    Unlimited (fun text => (read text).map f) text :=
  fun refused => unlimited (map_eq_error_iff.1 refused)

/-- A choice is not refused if neither reading is. -/
lemma Unlimited.ite {other : List Char → Except Cause (α × List Char)} {condition : Prop}
    [Decidable condition] (yes : Unlimited read text) (no : Unlimited other text) :
    Unlimited (fun text => if condition then read text else other text) text := by
  unfold Unlimited
  split_ifs
  · exact yes
  · exact no

/-- A keyword does not nest. -/
lemma unlimited_keyword {letters : List Char} {x : α} :
    Unlimited (fun text => (keyword letters text).map fun after => (x, after.1)) text := by
  have passed : keyword letters text ≠ .error .recursionLimit := by
    intro refused
    fun_induction keyword letters text with
    | case3 _ _ _ ih => exact ih (map_eq_error_iff.1 refused)
    | _ => cases refused
  exact fun refused => passed (map_eq_error_iff.1 refused)

/-- Four hexadecimal digits do not nest. -/
lemma unlimited_readQuad : Unlimited readQuad.run text := by
  intro refused
  have refused := map_eq_error_iff.1 refused
  unfold readQuad at refused
  split at refused
  · split at refused <;> cases refused
  · split at refused <;> cases refused

/-- A string does not nest. -/
lemma unlimited_skipString : Unlimited skipString.run text := by
  have part {whole text : List Char} {within : text.length ≤ whole.length} :
      skipStringFrom whole text within ≠ .error .recursionLimit := by
    intro refused
    fun_induction skipStringFrom whole text within with
    | case5 text cause found =>
      cases refused
      exact unlimited_readQuad (map_eq_error_iff.2 found)
    | case4 _ _ _ _ _ _ ih => exact ih refused
    | case6 _ _ _ _ _ _ _ _ _ ih => exact ih refused
    | case9 _ _ _ _ _ _ _ ih => exact ih refused
    | _ => cases refused
  exact fun refused => part (map_eq_error_iff.1 refused)

/-- A number does not nest. -/
lemma unlimited_skipNumber : Unlimited skipNumber.run text := by
  intro refused
  have refused := map_eq_error_iff.1 refused
  unfold skipNumber at refused
  split at refused <;> cases refused

/-- A colon does not nest. -/
lemma unlimited_readColon : Unlimited readColon.run text := by
  rw [run_readColon_eq]
  exact .atFirst rfl fun _ _ => .ite .value nofun

/-- A key does not nest. -/
lemma unlimited_skipKey : Unlimited skipKey.run text := by
  rw [run_skipKey_eq]
  exact unlimited_skipString.andThen fun _ _ _ => unlimited_readColon

/-- The beginning of a list is not refused for what is inside. -/
lemma unlimited_runBeginList : Unlimited runBeginList text := by
  unfold Unlimited
  cases found : dropBlanks text with
  | nil =>
    unfold runBeginList beginList
    rw [peek?_of_nil found]
    nofun
  | cons c start =>
    rw [runBeginList_of_cons found]
    split_ifs <;> nofun

/-- The beginning of an object is not refused for what is inside. -/
lemma unlimited_beginObject : Unlimited beginObject.run text := by
  rw [run_beginObject_eq]
  refine .atFirst rfl fun c start => .ite .value (.ite ?_ nofun)
  exact unlimited_skipKey.andThen fun _ _ _ => .value

/-- The beginning of a value is not refused for what is inside. -/
lemma unlimited_beginValue : Unlimited beginValue.run text := by
  rw [run_beginValue_eq]
  refine .atFirst rfl fun c start => .ite unlimited_keyword <| .ite unlimited_keyword <|
    .ite unlimited_keyword <| .ite unlimited_skipString.map <| .ite unlimited_skipNumber.map <|
    .ite ?_ <| .ite unlimited_runBeginList <| .ite unlimited_beginObject nofun
  have digits : Unlimited skipNumber.run (c :: start) := unlimited_skipNumber
  exact digits.map

/-- The next key does not nest. -/
lemma unlimited_nextKey : Unlimited nextKey text :=
  .atFirst rfl fun _ _ => .ite unlimited_skipKey.map nofun

/-- What stands behind a value does not nest. -/
lemma unlimited_afterValue : Unlimited (afterValue frame).run text := by
  cases frame with
  | list =>
    rw [run_afterValue_list_eq]
    exact .atFirst rfl fun c start => .ite .value (.ite .value nofun)
  | object =>
    rw [run_afterValue_object_eq]
    exact .atFirst rfl fun c start => .ite unlimited_nextKey (.ite .value nofun)

/-- However many lists and objects are open, none of them counts. -/
lemma unlimited_runFrames {atValue : Bool} : Unlimited (runFrames atValue frame outer) text := by
  induction length : text.length using Nat.strongRecOn generalizing text atValue frame outer with
  | _ n ih =>
    subst length
    cases atValue with
    | true =>
      rw [runFrames_true]
      refine unlimited_beginValue.andThen fun begun rest ran => ?_
      cases begun with
      | complete => exact ih rest.length (Reader.length_of_run ran) rfl
      | opens inner => exact ih rest.length (Reader.length_of_run ran) rfl
    | false =>
      rw [runFrames_false]
      refine unlimited_afterValue.andThen fun more rest ran => ?_
      cases more with
      | true => exact ih rest.length (Reader.length_of_run ran) rfl
      | false =>
        cases outer with
        | nil => exact .value
        | cons next outer => exact ih rest.length (Reader.length_of_run ran) rfl

/-- No value is refused for its nesting if it is skipped. -/
theorem unlimited_skipValue : Unlimited skipValue.run text := by
  rw [run_skipValue_eq]
  refine unlimited_beginValue.andThen fun begun rest _ => ?_
  cases begun with
  | complete => exact .value
  | opens frame => exact unlimited_runFrames

/-- Under a key that names no field of a record, no text is refused for its nesting, and each value
is passed over, however deep it nests. -/
def SkipsUnknown [DecidableEq φ] (form : RecordForm φ α) : Prop :=
  ∀ key state, form.named? key = none → ∃ reader, form.member key state = .ok reader ∧
    (∀ text, reader.run text ≠ .error .recursionLimit) ∧
      ∀ value literal rest, Placed value literal → Ends rest →
        reader.run (literal ++ rest) = .ok (state, rest)

/-- Every form of a record passes over what stands under unknown keys, however deep it nests. -/
theorem skipsUnknown [DecidableEq φ] (form : RecordForm φ α) : SkipsUnknown form := by
  intro key state named
  refine ⟨skipValue.map fun _ => state, ?_, fun text => ?_,
    fun value literal rest placed ends => ?_⟩
  · unfold RecordForm.member
    rw [named]
  · rw [Reader.run_map_eq]
    exact unlimited_skipValue.map
  · exact (reads_skipValue.map fun _ => state).complete placed ⟨(), trivial, rfl⟩ ends

end Skipping

end Typeset.Json
