import Typeset.Proofs.Json.CutValues

/-!
# Lists and objects that are cut

A list is read value by value and an object member by member, each from where the one before has
ended. So they go the way that they go in the whole text if their values do, by induction on what is
in front of the cut, or on the fields where the list is a record.
-/

namespace Typeset.Json

variable {α β φ σ : Type} {text front back : List Char} {c : Char}

section Lists

/-- The way to the next value of a list, if it is not over, without the proof that it got on. -/
def toElement (first : Bool) (text : List Char) : Except Cause (Bool × List Char) :=
  (advance first text).map fun
    | .closed rest _ => (false, rest)
    | .element start _ => (true, start)

/-- The way to a value behind a comma. -/
def afterComma (text : List Char) : Except Cause (Bool × List Char) :=
  match dropBlanks text with
  | [] => .error .endInValue
  | c :: _ => if c = ']' then .error .trailingComma else .ok (true, text)

/-- The way to the next value is decided by the first character. -/
lemma toElement_of_cons (first : Bool) {start : List Char} (found : dropBlanks text = c :: start) :
    toElement first text =
      if c = ']' then .ok (false, start)
      else if first then .ok (true, text)
      else if c = ',' then afterComma start
      else .error .expectedCommaOrBracket := by
  obtain ⟨_, peeked⟩ := peek?_of_cons found
  unfold toElement advance
  rw [peeked]
  dsimp only
  split_ifs
  · rfl
  · rfl
  · unfold afterComma
    obtain ⟨peeked', found'⟩ | ⟨c', start', shorter', peeked', found'⟩ := peek?_cases start
    · rw [peeked', found']
      rfl
    · rw [peeked', found']
      dsimp only
      split_ifs <;> rfl
  · rfl

/-- Behind a comma a list that is cut ends too early. -/
lemma cutAt_afterComma : CutAt [] afterComma front back := by
  refine .unlessBlank .endInValue rfl (fun found => ?_) fun c left found => ?_
  · rw [afterComma, found]
  · have same : afterComma front = if c = ']' then .error .trailingComma else .ok (true, front) := by
      rw [afterComma, found]
    have same' : afterComma (front ++ back) =
        if c = ']' then .error .trailingComma else .ok (true, front ++ back) := by
      rw [afterComma, dropBlanks_append_of_cons found]
    by_cases bracket : c = ']'
    · rw [if_pos bracket] at same same'
      exact .refused same'
    · rw [if_neg bracket] at same same'
      exact (CutAt.value .nil).congr same same'

/-- The way to the next value is the same in front of the cut. -/
lemma cutAt_toElement {first : Bool} : CutAt [] (toElement first) front back := by
  refine .unlessBlank .endInList rfl (fun found => ?_) fun c left found => ?_
  · unfold toElement advance
    rw [peek?_of_nil found]
    rfl
  · have same := toElement_of_cons first found
    have same' := toElement_of_cons first (dropBlanks_append_of_cons found back)
    split_ifs at same same' with bracket begins comma
    · subst bracket
      exact (CutBehind.value (.mark (by decide))).blanks found same same'
    · exact (CutAt.value .nil).congr same same'
    · subst comma
      have cut : CutBehind ',' afterComma left back :=
        cutAt_afterComma.behindToken (.mark (by decide))
      exact cut.blanks found same same'
    · exact .refused same'

variable {element : Reader α}

/-- The values of a list are read one by one, as long as the list is not over. -/
lemma run_elements_eq {first : Bool} : Reader.run (elements element first) =
    andThen (toElement first) fun more =>
      if more then
        andThen element.run fun x => andThen (Reader.run (elements element false)) fun xs rest =>
          .ok (x :: xs, rest)
      else fun rest => .ok ([], rest) := by
  funext text
  unfold andThen toElement
  rw [Reader.run, elements]
  cases advance first text with
  | error cause => rfl
  | ok step =>
    cases step with
    | closed rest shorter => rfl
    | element start within =>
      dsimp only [Except.map, Reader.run]
      rw [if_pos rfl]
      cases element start with
      | error cause => rfl
      | ok read =>
        dsimp only [Except.map]
        cases elements element false read.rest <;> rfl

/-- The values of a list go their way if each does. -/
lemma CutsOff.elements {first : Bool} (cuts : CutsOff element) :
    CutsOff (Json.elements element first) := by
  intro front back
  -- The way to a value may take nothing off the text, but the value does.
  induction length : front.length using Nat.strongRecOn generalizing front first with
  | _ n ih =>
    subst length
    rw [run_elements_eq]
    refine cutAt_toElement.andThen fun more consumed left same _ => ?_
    cases more with
    | false => exact .value .nil
    | true =>
      refine (cuts left back).andThen fun x _ later _ ran => ?_
      have shorter := Reader.length_of_run ran
      have within := congrArg List.length same
      rw [List.length_append] at within
      exact (ih later.length (by omega) later rfl).andThen fun xs _ _ _ _ => .value .nil

end Lists

section Objects

variable {member : String → σ → Except Cause (Reader σ)}

/-- The next key of an object, behind its opening quote. -/
def keyIn (start : List Char) : Except Cause (Option String × List Char) :=
  (readString.run start).map fun read => (some read.1, read.2)

/-- The next key of an object, if it is not over. -/
def toMember (first : Bool) (text : List Char) : Except Cause (Option String × List Char) :=
  match advanceKey first text with
  | .error cause => .error cause
  | .ok (.closed rest _) => .ok (none, rest)
  | .ok (.key start _) => keyIn start

/-- The way to the first key is decided by the first character. -/
lemma toMember_true_eq : toMember true =
    atFirst .endInObject fun c start =>
      if c = '\x7d' then .ok (none, start)
      else if c = '"' then keyIn start
      else .error .keyMustBeString := by
  refine eq_atFirst (fun peeked => ?_) fun peeked => ?_
  · unfold toMember advanceKey
    rw [peeked]
  · unfold toMember advanceKey
    rw [peeked]
    simp only [if_true]
    split_ifs <;> rfl

/-- The next key of an object behind a comma. -/
def keyAfterComma : List Char → Except Cause (Option String × List Char) :=
  atFirst .endInValue fun c start =>
    if c = '"' then keyIn start
    else if c = '\x7d' then .error .trailingComma
    else .error .keyMustBeString

/-- The way to a later key is decided by the first character. -/
lemma toMember_false_eq : toMember false =
    atFirst .endInObject fun c start =>
      if c = '\x7d' then .ok (none, start)
      else if c = ',' then keyAfterComma start
      else .error .expectedCommaOrBrace := by
  refine eq_atFirst (fun peeked => ?_) fun {_ _ start _} peeked => ?_
  · unfold toMember advanceKey
    rw [peeked]
  · unfold toMember advanceKey
    rw [peeked]
    simp only [Bool.false_eq_true, if_false]
    split_ifs
    · rfl
    · unfold keyAfterComma atFirst
      obtain ⟨peeked', found'⟩ | ⟨c', start', shorter', peeked', found'⟩ := peek?_cases start
      · rw [peeked', found']
      · rw [peeked', found']
        dsimp only
        split_ifs <;> rfl
    · rfl

/-- A key goes its way behind the opening quote. -/
lemma cutAt_keyIn : CutAt ['"'] keyIn front back :=
  cutAt_readString.map some

/-- Behind a comma an object that is cut ends too early. -/
lemma cutAt_keyAfterComma : CutAt [] keyAfterComma front back := by
  refine .atFirst rfl fun c left => .ite (fun quote => ?_) fun _ =>
    .ite (fun _ => .error) fun _ => .error
  subst quote
  exact cutAt_keyIn.behind

/-- The way to the next key is the same in front of the cut. -/
lemma cutAt_toMember {first : Bool} : CutAt [] (toMember first) front back := by
  have brace (left : List Char) :
      CutBehind '\x7d' (fun start => .ok ((none : Option String), start)) left back :=
    .value (.mark (by decide))
  cases first with
  | true =>
    rw [toMember_true_eq]
    refine .atFirst rfl fun c left => .ite (fun same => same ▸ brace left) fun _ =>
      .ite (fun quote => ?_) fun _ => .error
    subst quote
    exact cutAt_keyIn.behind
  | false =>
    rw [toMember_false_eq]
    refine .atFirst rfl fun c left => .ite (fun same => same ▸ brace left) fun _ =>
      .ite (fun comma => ?_) fun _ => .error
    subst comma
    exact cutAt_keyAfterComma.behindToken (.mark (by decide))

/-- The members of an object are read one by one, as long as the object is not over. -/
lemma run_members_eq {first : Bool} {state : σ} : Reader.run (members member first state) =
    andThen (toMember first) fun
      | none => fun rest => .ok (state, rest)
      | some key =>
        match member key state with
        | .error cause => fun _ => .error cause
        | .ok value => andThen readColon.run fun _ => andThen value.run fun state' =>
          Reader.run (members member false state') := by
  funext text
  unfold andThen toMember keyIn
  rw [Reader.run, members]
  cases advanceKey first text with
  | error cause => rfl
  | ok step =>
    cases step with
    | closed rest shorter => rfl
    | key start shorter =>
      dsimp only [Reader.run]
      cases readString start with
      | error cause => rfl
      | ok key =>
        dsimp only [Except.map]
        cases member key.value state with
        | error cause => rfl
        | ok value =>
          dsimp only
          cases readColon key.rest with
          | error cause => rfl
          | ok colon =>
            dsimp only
            cases value colon.rest with
            | error cause => rfl
            | ok read =>
              dsimp only
              cases members member false read.value read.rest <;> rfl

/-- The members of an object go their way if the value under each key does. -/
lemma CutsOff.members {first : Bool} {state : σ}
    (cuts : ∀ key state value, member key state = .ok value → CutsOff value) :
    CutsOff (Json.members member first state) := by
  intro front back
  induction length : front.length using Nat.strongRecOn generalizing front first state with
  | _ n ih =>
    subst length
    rw [run_members_eq]
    refine cutAt_toMember.andThen fun key consumed left same _ => ?_
    cases key with
    | none => exact .value .nil
    | some key =>
      dsimp only
      cases given : member key state with
      | error cause => exact .refused rfl
      | ok value =>
        -- The state has grown, so it is the text that the induction goes by.
        refine (cutsOff_readColon left back).andThen fun _ _ left' _ ran => ?_
        refine (cuts key state value given left' back).andThen fun state' _ later _ ran' => ?_
        have shorter := Reader.length_of_run ran
        have shorter' := Reader.length_of_run ran'
        have within := congrArg List.length same
        rw [List.length_append] at within
        exact ih later.length (by omega) later rfl

end Objects

section Records

variable {form : RecordForm φ α}

/-- The end of a list goes its way wherever it is cut. -/
lemma cutsOff_closeList : CutsOff closeList := by
  intro front back
  refine .unlessBlank .endInList rfl (fun found => ?_) fun c left found => ?_
  · unfold Reader.run closeList
    rw [peek?_of_nil found]
    rfl
  · have found' := dropBlanks_append_of_cons found back
    by_cases bracket : c = ']'
    · subst bracket
      exact (CutBehind.value (.mark (by decide))).blanks found
        (run_closeList.2 found) (run_closeList.2 found')
    · intro x rest ran
      have closed := found'.symm.trans (run_closeList.1 ran)
      exact (bracket (List.cons.inj closed).1).elim

/-- The values of a list are read into the fields one by one, as long as the list is not over. -/
lemma run_fieldsFrom_cons_eq {field : φ} {fields : List φ} {first : Bool} {record : α} :
    (form.fieldsFrom (field :: fields) first record).run =
      andThen (toElement first) fun more =>
        if more then
          andThen (form.read field record).run fun record' =>
            (form.fieldsFrom fields false record').run
        else fun rest => .ok (record, rest) := by
  funext text
  unfold andThen toElement Reader.run
  rw [RecordForm.fieldsFrom]
  cases advance first text with
  | error cause => rfl
  | ok step =>
    cases step with
    | closed rest shorter => rfl
    | element start within =>
      dsimp only [Except.map]
      rw [if_pos rfl]
      cases form.read field record start with
      | error cause => rfl
      | ok read =>
        dsimp only
        cases form.fieldsFrom fields false read.value read.rest <;> rfl

variable (cuts : ∀ field record, CutsOff (form.read field record))

include cuts

/-- The fields of a record that is written as a list go their way. -/
lemma CutsOff.fieldsFrom {fields : List φ} {first : Bool} {record : α} :
    CutsOff (form.fieldsFrom fields first record) := by
  induction fields generalizing first record with
  | nil => exact cutsOff_closeList.map fun _ => record
  | cons field fields ih =>
    intro front back
    rw [run_fieldsFrom_cons_eq]
    refine cutAt_toElement.andThen fun more _ left _ _ => ?_
    cases more with
    | false => exact .value .nil
    | true => exact (cuts field record left back).andThen fun record' _ later _ _ => ih later back

/-- The value under a key goes its way, whether the key names a field or not. -/
lemma CutsOff.member [DecidableEq φ] {key : String} {state : α × List φ}
    {value : Reader (α × List φ)} (given : form.member key state = .ok value) : CutsOff value := by
  unfold RecordForm.member at given
  cases named : form.named? key with
  | none =>
    rw [named] at given
    cases given
    exact cutsOff_skipValue.map _
  | some field =>
    rw [named] at given
    dsimp only at given
    split_ifs at given
    cases given
    exact (cuts field state.1).map _

/-- A record goes the way that it goes in the whole text if its fields do. -/
theorem CutsOff.ofForm [DecidableEq φ] (name : String) (blank : α) :
    CutsOff (Json.record name (form.list blank) (form.object blank)) := by
  have list : CutsOff (form.list blank) := CutsOff.fieldsFrom cuts
  have object : CutsOff (form.object blank) :=
    (CutsOff.members fun _ _ _ given => CutsOff.member cuts given).map Prod.fst
  exact list.record object

end Records

end Typeset.Json
