import Typeset.Proofs.Json.CutCollections

/-!
# What is refused for a part

What a value is refused for, the list or the object that holds it is refused for, whatever stands
behind the value, as long as all that stands in front of it is read.
-/

namespace Typeset.Json

variable {α β φ σ : Type}

/-- A reader refuses a value for a cause, however the value is written. -/
def Refuses (form : β → List Char → Prop) (reader : Reader α) (value : β) (cause : Cause) : Prop :=
  ∀ literal rest, form value literal → Ends rest → reader.run (literal ++ rest) = .error cause

section Parts

variable {read : List Char → Except Cause (α × List Char)}
  {next : α → List Char → Except Cause (β × List Char)} {text rest : List Char}

/-- What is read second is read behind what was read first. -/
lemma andThen_of_ok {x : α} (ran : read text = .ok (x, rest)) :
    andThen read next text = next x rest := by
  rw [andThen, ran]

/-- Where the first reading is refused, nothing is read second. -/
lemma andThen_of_error {cause : Cause} (refused : read text = .error cause) :
    andThen read next text = .error cause := by
  rw [andThen, refused]

variable {form : β → List Char → Prop} {reader : Reader α} {cause : Cause}

/-- A reader refuses the same values when what it reads is changed. -/
lemma Refuses.map {value : β} (refuses : Refuses form reader value cause) (f : α → σ) :
    Refuses form (reader.map f) value cause := by
  intro literal rest written ends
  rw [Reader.run_map_eq]
  exact map_eq_error_iff.2 (refuses literal rest written ends)

/-- Only `null` is read in another way where it is allowed. -/
lemma Refuses.optional {value : Value} (refuses : Refuses Placed reader value cause)
    (full : value ≠ .null) : Refuses Placed (optional reader) value cause := by
  intro literal rest placed ends
  obtain ⟨written, form, dropped⟩ := placed.exists_written
  obtain ⟨c, later, rfl, -, -, null⟩ := form.first
  rw [run_optional_of_cons reader (dropped rest), if_neg fun same => full (null same),
    refuses literal rest placed ends]
  rfl

/-- A list is refused if its values are. -/
lemma Refuses.sequence {values : List Value} (refuses : Refuses (WrittenList true) reader values cause) :
    Refuses Placed (sequence reader) (.list values) cause := by
  intro literal rest placed ends
  obtain ⟨written, form, dropped⟩ := placed.exists_written
  cases form with
  | list form =>
    have opens : (Json.sequence reader).run (literal ++ rest) = _ := congrFun run_opened_eq _
    rw [opens, atFirst, dropped rest]
    exact refuses _ rest form ends

variable {asList asObject : Reader α} {name : String}

/-- A record that is written as a list is refused if its values are. -/
lemma Refuses.record_list {values : List Value}
    (refuses : Refuses (WrittenList true) asList values cause) :
    Refuses Placed (record name asList asObject) (.list values) cause := by
  intro literal rest placed ends
  obtain ⟨written, form, dropped⟩ := placed.exists_written
  cases form with
  | list form =>
    rw [run_record_eq, atFirst, dropped rest]
    exact refuses _ rest form ends

/-- A record that is written as an object is refused if its members are. -/
lemma Refuses.record_object {members : List (List StringPart × Value)}
    (refuses : Refuses (WrittenMembers true) asObject members cause) :
    Refuses Placed (record name asList asObject) (.object members) cause := by
  intro literal rest placed ends
  obtain ⟨written, form, dropped⟩ := placed.exists_written
  cases form with
  | object form =>
    rw [run_record_eq, atFirst, dropped rest]
    exact refuses _ rest form ends

end Parts

section Lists

variable {means : Value → α → Prop} {element : Reader α} {front back : List Value} {value : Value}
  {cause : Cause} {first : Bool}

/-- The way to the next value of a list leads to the text in front of it. -/
lemma WrittenList.toElement {literal : List Char} (written : WrittenList first (value :: back) literal)
    (rest : List Char) :
    ∃ literal' closing, Json.toElement first (literal ++ rest) =
        .ok (true, literal' ++ (closing ++ rest)) ∧
      Placed value literal' ∧ WrittenList false back closing := by
  obtain ⟨_, _, literal', closing, advanced, rfl, placed, later⟩ := written.advance rest
  refine ⟨literal', closing, ?_, placed, later⟩
  rw [Json.toElement, advanced]
  rfl

/-- Where a list is not over, its next value is read, and then the others. -/
lemma run_elements_of_toElement {text rest : List Char}
    (found : toElement first text = .ok (true, rest)) :
    Reader.run (elements element first) text =
      andThen element.run (fun x => andThen (Reader.run (elements element false)) fun xs later =>
        .ok (x :: xs, later)) rest := by
  rw [run_elements_eq, andThen_of_ok found, if_pos rfl]

/-- A list is refused for a value if the values in front of it are read. -/
lemma Refuses.elements {xs : List α} (reads : Reads Placed means element)
    (meant : List.Forall₂ means front xs) (refuses : Refuses Placed element value cause) :
    Refuses (WrittenList first) (elements element first) (front ++ value :: back) cause := by
  induction meant generalizing first with
  | nil =>
    intro literal rest written ends
    obtain ⟨literal', closing, found, placed, later⟩ := written.toElement rest
    have refused := refuses literal' _ placed (later.ends rest)
    rw [run_elements_of_toElement found, andThen_of_error refused]
  | cons meant _ ih =>
    intro literal rest written ends
    obtain ⟨literal', closing, found, placed, later⟩ := written.toElement rest
    have read := reads.complete placed meant (later.ends rest)
    have refused := ih closing rest later ends
    rw [run_elements_of_toElement found, andThen_of_ok read, andThen_of_error refused]

end Lists

section Objects

variable {member : String → σ → Except Cause (Reader σ)} {takes : String → Value → σ → σ → Prop}
  {first : Bool}

/-- The next member of an object is read behind its key, by the reader that its key gives. -/
lemma WrittenMembers.run {members : List (List StringPart × Value)} {parts : List StringPart}
    {value : Value} {literal : List Char} {key : String} {state : σ} {reader : Reader σ}
    (written : WrittenMembers first ((parts, value) :: members) literal)
    (denoted : Denotes parts key.toList) (given : member key state = .ok reader) (rest : List Char) :
    ∃ literal' closing, Reader.run (Json.members member first state) (literal ++ rest) =
        andThen reader.run (fun state' => Reader.run (Json.members member false state'))
          (literal' ++ (closing ++ rest)) ∧
      Placed value literal' ∧ WrittenMembers false members closing := by
  obtain ⟨_, _, string, colon, literal', closing, advanced, rfl, stringForm, blanks, placed,
    later⟩ := written.advanceKey rest
  obtain ⟨keyRead, colonRead⟩ :=
    run_key_and_colon stringForm denoted blanks (literal' ++ (closing ++ rest))
  have found : toMember first (literal ++ rest) =
      .ok (some key, colon ++ ':' :: (literal' ++ (closing ++ rest))) := by
    unfold toMember keyIn
    rw [advanced]
    dsimp only
    rw [keyRead]
    rfl
  refine ⟨literal', closing, ?_, placed, later⟩
  rw [run_members_eq, andThen_of_ok found]
  simp only [given]
  rw [andThen_of_ok colonRead]

/-- An object is refused for the value of a member if the members in front of it are taken into the
state. -/
lemma Refuses.members {front back : List (List StringPart × Value)} {parts : List StringPart}
    {value : Value} {entries : List (String × Value)} {key : String} {state state' : σ}
    {reader : Reader σ} {cause : Cause} (reads : MemberReads member takes)
    (keyed : Keyed front entries) (folds : Folds takes entries state state')
    (denoted : Denotes parts key.toList) (given : member key state' = .ok reader)
    (refuses : Refuses Placed reader value cause) :
    Refuses (WrittenMembers first) (members member first state) (front ++ (parts, value) :: back)
      cause := by
  induction folds generalizing front first with
  | nil =>
    cases keyed
    intro literal rest written ends
    obtain ⟨literal', closing, ran, placed, later⟩ := written.run denoted given rest
    rw [ran, andThen_of_error (refuses literal' _ placed (later.ends rest))]
  | cons taken _ ih =>
    obtain _ | @⟨⟨parts', _⟩, _, front, _, ⟨denoted', rfl⟩, keyed⟩ := keyed
    obtain ⟨reader', given'⟩ := reads.accepts taken
    intro literal rest written ends
    obtain ⟨literal', closing, ran, placed, later⟩ := written.run denoted' given' rest
    have read := (reads.reads given').complete placed taken (later.ends rest)
    rw [ran, andThen_of_ok read]
    exact ih keyed given closing rest later ends

end Objects

section Records

variable {schema : Schema φ α} {means : (field : φ) → Value → schema.Part field → Prop}
  {form : RecordForm φ α} {cause : Cause}

/-- Where a list is not over, its next value is read into the next field. -/
lemma run_fieldsFrom_of_toElement {field : φ} {fields : List φ} {first : Bool} {record : α}
    {text rest : List Char} (found : toElement first text = .ok (true, rest)) :
    (form.fieldsFrom (field :: fields) first record).run text =
      andThen (form.read field record).run
        (fun record' => (form.fieldsFrom fields false record').run) rest := by
  rw [run_fieldsFrom_cons_eq, andThen_of_ok found, if_pos rfl]

/-- A list of fields is refused for the value of a field if the values in front of it are put into
the fields before. -/
lemma Follows.refuses_fieldsFrom (follows : Follows form schema means) {fields later : List φ}
    {field : φ} {front back : List Value} {value : Value} {first : Bool} {record record' : α}
    (within : front.length = fields.length)
    (folds : Folds (schema.Takes means) (fields.zip front) record record')
    (refuses : ∀ record, Refuses Placed (form.read field record) value cause) :
    Refuses (WrittenList first) (form.fieldsFrom (fields ++ field :: later) first record)
      (front ++ value :: back) cause := by
  induction fields generalizing first record front with
  | nil =>
    obtain rfl := List.eq_nil_of_length_eq_zero within
    intro literal rest written ends
    obtain ⟨literal', closing, found, placed, later⟩ := written.toElement rest
    have refused := refuses record literal' _ placed (later.ends rest)
    rw [List.nil_append, run_fieldsFrom_of_toElement found, andThen_of_error refused]
  | cons field' fields ih =>
    obtain _ | ⟨value', front⟩ := front
    · cases within
    · obtain _ | ⟨taken, folds⟩ := folds
      intro literal rest written ends
      obtain ⟨literal', closing, found, placed, later⟩ := written.toElement rest
      have read := (follows.reads field' record).complete placed taken (later.ends rest)
      rw [List.cons_append, run_fieldsFrom_of_toElement found, andThen_of_ok read]
      exact ih (Nat.succ.inj within) folds closing rest later ends

end Records

end Typeset.Json
