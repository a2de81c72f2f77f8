import Mathlib.Data.List.Nodup
import Typeset.Proofs.Json.Collections

/-!
# Reading records

A record is read field by field, in any order where it is an object. Whether a field may be read,
and what becomes of it, does not depend on the fields read before, short of its being one of them.
So the fields that are given stand for themselves, each at most once, and the others keep what they
held.
-/

namespace Typeset.Json

variable {φ α : Type} {text rest : List Char}

/-- A key that no entry has is not found. -/
lemma lookup_of_not_mem {κ β : Type} [DecidableEq κ] {entries : List (κ × β)} {key : κ}
    (fresh : key ∉ entries.map Prod.fst) : entries.lookup key = none := by
  refine List.lookup_eq_none_iff.2 fun entry mem => bne_iff_ne.2 fun same => fresh ?_
  exact List.mem_map.2 ⟨entry, mem, same.symm⟩

namespace Schema

variable {schema : Schema φ α} {means : (field : φ) → Value → schema.Part field → Prop}
  {record record' : α}

/-- A value is put into a field. -/
def Takes (schema : Schema φ α) (means : (field : φ) → Value → schema.Part field → Prop) (field : φ)
    (value : Value) (record record' : α) : Prop :=
  ∃ part, means field value part ∧ schema.put field part record = record'

/-- A record holds what the given fields mean, and in the other fields what it held. -/
lemma holds_iff {given : φ → Option Value} :
    schema.Holds means record given record' ↔
      (∀ field value, given field = some value → means field value (schema.get field record')) ∧
        ∀ field, given field = none → schema.get field record' = schema.get field record := by
  refine ⟨fun holds => ⟨fun field value some => ?_, fun field none => ?_⟩,
    fun ⟨held, kept⟩ field => ?_⟩
  · have held := holds field
    rwa [some] at held
  · have kept := holds field
    rwa [none] at kept
  · cases given' : given field with
    | none => exact kept field given'
    | some value => exact held field value given'

variable [DecidableEq φ] {blank : α} {value : Value}

/-- What a record holds in a field means something, or is as in the blank record. -/
lemma IsRecord.held (isRecord : schema.IsRecord means blank value record) (field : φ) :
    (∃ value, means field value (schema.get field record)) ∨
      schema.get field record = schema.get field blank := by
  obtain ⟨given, -, holds⟩ := isRecord
  obtain ⟨held, kept⟩ := holds_iff.1 holds
  cases given' : given field with
  | some value => exact .inl ⟨value, held field value given'⟩
  | none => exact .inr (kept field given')

/-- A value is a record if more values mean something. -/
lemma IsRecord.imp {means' : (field : φ) → Value → schema.Part field → Prop}
    (isRecord : schema.IsRecord means blank value record)
    (imp : ∀ field value part, means field value part → means' field value part) :
    schema.IsRecord means' blank value record := by
  obtain ⟨given, gives, holds⟩ := isRecord
  obtain ⟨held, kept⟩ := holds_iff.1 holds
  exact ⟨given, gives, holds_iff.2 ⟨fun field value given' => imp _ _ _ (held field value given'),
    kept⟩⟩

/-- Values put into fields one after the other are held by them, if no field is met twice. -/
lemma folds_iff_holds {entries : List (φ × Value)} (once : (entries.map Prod.fst).Nodup) :
    Folds (schema.Takes means) entries record record' ↔
      schema.Holds means record (fun field => entries.lookup field) record' := by
  induction entries generalizing record with
  | nil =>
    refine ⟨fun folds => ?_, fun holds => ?_⟩
    · cases folds
      exact fun field => rfl
    · obtain rfl := schema.ext holds
      exact .nil
  | cons entry entries ih =>
    obtain ⟨field, value⟩ := entry
    obtain ⟨fresh, once⟩ := List.nodup_cons.1 once
    have later : entries.lookup field = none := lookup_of_not_mem fresh
    have other {field' : φ} (apart : field' ≠ field) :
        ((field, value) :: entries).lookup field' = entries.lookup field' := by
      rw [List.lookup_cons, beq_false_of_ne apart]
    refine ⟨fun folds => ?_, fun holds => ?_⟩
    · obtain _ | ⟨⟨part, meant, rfl⟩, folds⟩ := folds
      obtain ⟨held, kept⟩ := holds_iff.1 ((ih once).1 folds)
      -- No later entry is of this field, so it still holds what was put into it.
      have part_eq : schema.get field record' = part := by
        rw [kept field later, schema.get_put]
      refine holds_iff.2 ⟨fun field' value' given => ?_, fun field' none => ?_⟩
      · by_cases same : field' = field
        · subst same
          obtain rfl : value = value' := by simpa using given
          rwa [part_eq]
        · exact held field' value' (other same ▸ given)
      · have apart : field' ≠ field := by
          rintro rfl
          simp at none
        rw [kept field' (other apart ▸ none), schema.get_put_of_ne part record apart]
    · obtain ⟨held, kept⟩ := holds_iff.1 holds
      have meant := held field value List.lookup_cons_self
      refine .cons ⟨_, meant, rfl⟩ ((ih once).2 (holds_iff.2 ⟨fun field' value' given => ?_,
        fun field' none => ?_⟩))
      · have apart : field' ≠ field := by
          rintro rfl
          cases later.symm.trans given
        exact held field' value' ((other apart).trans given)
      · by_cases same : field' = field
        · subst same
          rw [schema.get_put]
        · rw [kept field' ((other same).trans none), schema.get_put_of_ne _ record same]

end Schema

section Forms

variable {schema : Schema φ α} {means : (field : φ) → Value → schema.Part field → Prop}
  {form : RecordForm φ α}

/-- The form of a record follows a schema: it has its order and keys, and it reads the value of a
field into the field. -/
structure Follows (form : RecordForm φ α) (schema : Schema φ α)
    (means : (field : φ) → Value → schema.Part field → Prop) : Prop where
  order : form.order = schema.order
  key : form.key = schema.key
  reads : ∀ field record, Reads Placed (fun value => schema.Takes means field value record)
    (form.read field record)

/-- A key names the field whose key it is. -/
lemma Follows.named?_eq_some_iff (follows : Follows form schema means) {key : String} {field : φ} :
    form.named? key = some field ↔ schema.key field = key := by
  unfold RecordForm.named?
  rw [follows.order, follows.key]
  refine ⟨fun found => by simpa using List.find?_some found, fun same => ?_⟩
  cases found : schema.order.find? (schema.key · == key) with
  | none =>
    exact absurd same (by simpa using List.find?_eq_none.1 found field (schema.mem_order field))
  | some other =>
    have same' : schema.key other = key := by simpa using List.find?_some found
    rw [schema.key_injective (same'.trans same.symm)]

/-- What becomes of a member of an object. The state holds the record and the fields met so far. -/
def TakesMember (form : RecordForm φ α) (schema : Schema φ α)
    (means : (field : φ) → Value → schema.Part field → Prop) (key : String) (value : Value)
    (state state' : α × List φ) : Prop :=
  match form.named? key with
  | none => state = state'
  | some field => field ∉ state.2 ∧ schema.Takes means field value state.1 state'.1 ∧
      state'.2 = field :: state.2

/-- A member is read into the field that its key names, or passed over. -/
lemma Follows.memberReads [DecidableEq φ] (follows : Follows form schema means) :
    MemberReads form.member (TakesMember form schema means) where
  reads {key state reader} given := by
    unfold RecordForm.member at given
    unfold TakesMember
    cases named : form.named? key with
    | none =>
      rw [named] at given
      cases given
      exact (reads_skipValue.map _).congr fun value state' => by simp
    | some field =>
      rw [named] at given
      simp only at given
      split_ifs at given with seen
      cases given
      refine ((follows.reads field state.1).map _).congr fun value state' => ?_
      obtain ⟨record', seen'⟩ := state'
      simp [seen, eq_comm]
  accepts {key value state state'} taken := by
    unfold TakesMember at taken
    unfold RecordForm.member
    cases named : form.named? key with
    | none => exact ⟨_, rfl⟩
    | some field =>
      rw [named] at taken
      exact ⟨_, if_neg taken.1⟩

/-- The entries of an object whose keys name fields, with the fields. -/
def knownEntries (form : RecordForm φ α) (entries : List (String × Value)) : List (φ × Value) :=
  entries.filterMap fun entry => (form.named? entry.1).map (·, entry.2)

/-- An entry whose key names no field is left out. -/
lemma knownEntries_cons_of_none {key : String} (named : form.named? key = none) (value : Value)
    (entries : List (String × Value)) :
    knownEntries form ((key, value) :: entries) = knownEntries form entries := by
  simp [knownEntries, named]

/-- An entry whose key names a field stands under it. -/
lemma knownEntries_cons_of_some {key : String} {field : φ} (named : form.named? key = some field)
    (value : Value) (entries : List (String × Value)) :
    knownEntries form ((key, value) :: entries) = (field, value) :: knownEntries form entries := by
  simp [knownEntries, named]

/-- Taking in the members of an object is putting the values of its known entries into their fields,
none of which may be met twice. -/
lemma folds_takesMember_iff {entries : List (String × Value)} {record record' : α} {seen : List φ} :
    (∃ seen', Folds (TakesMember form schema means) entries (record, seen) (record', seen')) ↔
      ((knownEntries form entries).map Prod.fst).Nodup ∧
        (∀ field ∈ (knownEntries form entries).map Prod.fst, field ∉ seen) ∧
          Folds (schema.Takes means) (knownEntries form entries) record record' := by
  -- The fields met before grow with each known member, and stay where the value is skipped.
  induction entries generalizing record seen with
  | nil =>
    refine ⟨fun ⟨_, folds⟩ => ?_, fun ⟨_, _, folds⟩ => ?_⟩
    · cases folds
      exact ⟨List.nodup_nil, by simp [knownEntries], .nil⟩
    · cases folds
      exact ⟨seen, .nil⟩
  | cons entry entries ih =>
    obtain ⟨key, value⟩ := entry
    cases named : form.named? key with
    | none =>
      rw [knownEntries_cons_of_none named, ← ih]
      refine ⟨fun ⟨seen', folds⟩ => ?_, fun ⟨seen', folds⟩ => ?_⟩
      · obtain _ | ⟨taken, folds⟩ := folds
        simp only [TakesMember, named] at taken
        exact ⟨seen', taken ▸ folds⟩
      · exact ⟨seen', .cons (by simp only [TakesMember, named]) folds⟩
    | some field =>
      rw [knownEntries_cons_of_some named]
      refine ⟨fun ⟨seen', folds⟩ => ?_, fun ⟨once, fresh, folds⟩ => ?_⟩
      · obtain _ | @⟨_, _, _, _, ⟨between, _⟩, _, taken, folds⟩ := folds
        simp only [TakesMember, named] at taken
        obtain ⟨fresh, taken, rfl⟩ := taken
        obtain ⟨once, fresh', folds⟩ := ih.1 ⟨seen', folds⟩
        refine ⟨List.nodup_cons.2 ⟨fun mem => ?_, once⟩, ?_, .cons taken folds⟩
        · exact fresh' field mem List.mem_cons_self
        · intro other mem
          obtain rfl | mem := List.mem_cons.1 mem
          · exact fresh
          · exact fun seen => fresh' other mem (List.mem_cons_of_mem _ seen)
      · obtain ⟨absent, once⟩ := List.nodup_cons.1 once
        obtain _ | @⟨_, _, _, _, between, _, taken, folds⟩ := folds
        have fresh' : ∀ other ∈ (knownEntries form entries).map Prod.fst,
            other ∉ field :: seen := by
          intro other mem seen
          obtain rfl | seen := List.mem_cons.1 seen
          · exact absent mem
          · exact fresh other (List.mem_cons_of_mem _ mem) seen
        obtain ⟨seen', folds⟩ := ih.2 ⟨once, fresh', folds⟩
        have taken : TakesMember form schema means key value (record, seen)
            (between, field :: seen) := by
          simp only [TakesMember, named]
          exact ⟨fresh field List.mem_cons_self, taken, trivial⟩
        exact ⟨seen', .cons taken folds⟩

variable [DecidableEq φ]

/-- A field is given what stands under its key. -/
lemma Follows.lookup_knownEntries (follows : Follows form schema means)
    (entries : List (String × Value)) (field : φ) :
    (knownEntries form entries).lookup field = entries.lookup (schema.key field) := by
  induction entries with
  | nil => rfl
  | cons entry entries ih =>
    obtain ⟨key, value⟩ := entry
    cases named : form.named? key with
    | none =>
      have apart : schema.key field ≠ key := by
        intro same
        cases named.symm.trans (follows.named?_eq_some_iff.2 same)
      rw [knownEntries_cons_of_none named, List.lookup_cons, beq_false_of_ne apart, ih]
    | some other =>
      obtain rfl := follows.named?_eq_some_iff.1 named
      rw [knownEntries_cons_of_some named, List.lookup_cons, List.lookup_cons, ih]
      by_cases same : field = other
      · subst same
        simp
      · rw [beq_false_of_ne same, beq_false_of_ne fun eq => same (schema.key_injective eq)]

/-- No field is met twice where the key of none stands twice. -/
lemma Follows.nodup_knownEntries_iff (follows : Follows form schema means)
    (entries : List (String × Value)) :
    ((knownEntries form entries).map Prod.fst).Nodup ↔
      ∀ field, (entries.map Prod.fst).count (schema.key field) ≤ 1 := by
  have count (field : φ) : ((knownEntries form entries).map Prod.fst).count field =
      (entries.map Prod.fst).count (schema.key field) := by
    induction entries with
    | nil => rfl
    | cons entry entries ih =>
      obtain ⟨key, value⟩ := entry
      cases named : form.named? key with
      | none =>
        have apart : key ≠ schema.key field := by
          intro same
          cases named.symm.trans (follows.named?_eq_some_iff.2 same.symm)
        rw [knownEntries_cons_of_none named, List.map_cons, List.count_cons_of_ne apart, ih]
      | some other =>
        obtain rfl := follows.named?_eq_some_iff.1 named
        rw [knownEntries_cons_of_some named, List.map_cons, List.map_cons, List.count_cons,
          List.count_cons, ih]
        simp [schema.key_injective.eq_iff]
  rw [List.nodup_iff_count_le_one]
  exact forall_congr' fun field => by rw [count]

/-- The members of an object are taken into a record that holds them. -/
lemma Follows.exists_folds (follows : Follows form schema means)
    {entries : List (String × Value)} {blank record : α}
    (once : ∀ field, (entries.map Prod.fst).count (schema.key field) ≤ 1)
    (holds : schema.Holds means blank (fun field => entries.lookup (schema.key field)) record) :
    ∃ seen, Folds (TakesMember form schema means) entries (blank, []) (record, seen) := by
  have once := (follows.nodup_knownEntries_iff entries).2 once
  simp only [← follows.lookup_knownEntries] at holds
  have folds := (Schema.folds_iff_holds once).2 holds
  exact folds_takesMember_iff.2 ⟨once, fun _ _ => List.not_mem_nil, folds⟩

/-- A record written as an object. -/
lemma Follows.reads_object (follows : Follows form schema means) (blank : α) :
    Reads (WrittenMembers true)
      (fun members record => ∃ entries, Keyed members entries ∧
        (∀ field, (entries.map Prod.fst).count (schema.key field) ≤ 1) ∧
          schema.Holds means blank (fun field => entries.lookup (schema.key field)) record)
      (form.object blank) := by
  refine ((reads_members follows.memberReads true (blank, [])).map Prod.fst).congr
    fun members record => ?_
  refine ⟨fun ⟨⟨record', seen⟩, ⟨entries, keyed, folds⟩, same⟩ => ?_,
    fun ⟨entries, keyed, once, holds⟩ => ?_⟩
  · subst same
    obtain ⟨once, -, folds⟩ := folds_takesMember_iff.1 ⟨seen, folds⟩
    have holds := (Schema.folds_iff_holds once).1 folds
    simp only [follows.lookup_knownEntries] at holds
    exact ⟨entries, keyed, (follows.nodup_knownEntries_iff entries).1 once, holds⟩
  · obtain ⟨seen, folds⟩ := follows.exists_folds once holds
    exact ⟨_, ⟨entries, keyed, folds⟩, rfl⟩

/-- The closing brace ends an object, whatever stands behind it. -/
lemma Follows.object_complete (follows : Follows form schema means) {blank record : α}
    {members : List (List StringPart × Value)} {entries : List (String × Value)}
    {literal : List Char} (written : WrittenMembers true members literal)
    (keyed : Keyed members entries)
    (once : ∀ field, (entries.map Prod.fst).count (schema.key field) ≤ 1)
    (holds : schema.Holds means blank (fun field => entries.lookup (schema.key field)) record) :
    (form.object blank).run (literal ++ rest) = .ok (record, rest) := by
  obtain ⟨seen, folds⟩ := follows.exists_folds once holds
  obtain ⟨_, found⟩ := members_complete follows.memberReads written keyed folds
    (rfl : literal ++ rest = literal ++ rest)
  simp only [Reader.run, RecordForm.object, found, Except.map, Parsed.map]

/-- A list is over at its closing bracket. -/
lemma run_closeList : closeList.run text = .ok ((), rest) ↔ dropBlanks text = ']' :: rest := by
  obtain ⟨peeked, found⟩ | ⟨c, start, shorter, peeked, found⟩ := peek?_cases text
  · simp [Reader.run, closeList, peeked, found, Except.map]
  · by_cases bracket : c = ']'
    · simp [Reader.run, closeList, peeked, found, bracket, Except.map]
    · by_cases comma : c = ','
      · have other : ',' ≠ ']' := by decide
        simp only [Reader.run, closeList, peeked, found, comma, if_neg other, if_true]
        split <;> simp [Except.map]
      · simp [Reader.run, closeList, peeked, found, bracket, comma, Except.map]

section Lists

variable {fields : List φ} {first : Bool} {record record' : α}

omit [DecidableEq φ]

/-- Where all fields have been read, a list has to be over. -/
lemma run_fieldsFrom_nil :
    (form.fieldsFrom [] first record).run text = .ok (record', rest) ↔
      record = record' ∧ dropBlanks text = ']' :: rest := by
  have run : (form.fieldsFrom [] first record).run text =
      (closeList.run text).map fun read => (record, read.2) := by
    unfold Reader.run RecordForm.fieldsFrom
    cases closeList text <;> rfl
  rw [run, Reader.map_run_eq_ok_iff, run_closeList]

/-- A list ends in front of a field, or its next value is read into the field. -/
lemma run_fieldsFrom_cons {field : φ} :
    (form.fieldsFrom (field :: fields) first record).run text = .ok (record', rest) ↔
      record = record' ∧ (∃ shorter, advance first text = .ok (.closed rest shorter)) ∨
        ∃ start within between later, advance first text = .ok (.element start within) ∧
          (form.read field record).run start = .ok (between, later) ∧
            (form.fieldsFrom fields false between).run later = .ok (record', rest) := by
  refine ⟨fun read => ?_, ?_⟩
  · obtain ⟨_, read⟩ := Reader.run_eq_ok_iff.1 read
    unfold RecordForm.fieldsFrom at read
    split at read
    · cases read
    · rename_i advanced
      cases read
      exact .inl ⟨rfl, _, advanced⟩
    · rename_i advanced
      split at read
      · cases read
      · rename_i found
        obtain ⟨parsed, found', eq⟩ := map_eq_ok_iff.1 read
        cases eq
        exact .inr ⟨_, _, _, _, advanced, Reader.run_eq_ok_iff.2 ⟨_, found⟩,
          Reader.run_eq_ok_iff.2 ⟨parsed.shorter, found'⟩⟩
  · rintro (⟨rfl, _, advanced⟩ | ⟨start, _, between, later, advanced, read, read'⟩)
    · simp only [Reader.run, RecordForm.fieldsFrom, advanced, Except.map]
    · obtain ⟨_, found⟩ := Reader.run_eq_ok_iff.1 read
      obtain ⟨_, found'⟩ := Reader.run_eq_ok_iff.1 read'
      simp only [Reader.run, RecordForm.fieldsFrom, advanced, found, found', Except.map,
        Parsed.widen]

/-- The closing bracket ends a list, whatever stands behind it. -/
lemma Follows.fieldsFrom_complete (follows : Follows form schema means) {values : List Value}
    {literal : List Char} (written : WrittenList first values literal)
    (within : values.length ≤ fields.length)
    (folds : Folds (schema.Takes means) (fields.zip values) record record') :
    (form.fieldsFrom fields first record).run (literal ++ rest) = .ok (record', rest) := by
  induction fields generalizing first record values literal with
  | nil =>
    obtain rfl := List.eq_nil_of_length_eq_zero (Nat.le_zero.1 within)
    obtain ⟨blanks⟩ := written
    cases folds
    rw [List.append_assoc]
    exact run_fieldsFrom_nil.2 ⟨rfl, dropBlanks_append_cons blanks (by decide) rest⟩
  | cons field fields ih =>
    cases values with
    | nil =>
      cases folds
      exact run_fieldsFrom_cons.2 (.inl ⟨rfl, written.advance_nil rest⟩)
    | cons value values =>
      obtain _ | ⟨taken, folds⟩ := folds
      obtain ⟨start, _, literal', closing, advanced, rfl, placed, written⟩ := written.advance rest
      have read := (follows.reads field record).complete placed taken (written.ends rest)
      have read' := ih written (Nat.le_of_succ_le_succ within) folds
      exact run_fieldsFrom_cons.2 (.inr ⟨_, _, _, _, advanced, read, read'⟩)

/-- The values of a list are put into the fields, as far as they go. -/
lemma Follows.fieldsFrom_sound (follows : Follows form schema means)
    (read : (form.fieldsFrom fields first record).run text = .ok (record', rest)) :
    ∃ values literal, text = literal ++ rest ∧ WrittenList first values literal ∧
      values.length ≤ fields.length ∧
        Folds (schema.Takes means) (fields.zip values) record record' := by
  induction fields generalizing first record text with
  | nil =>
    obtain ⟨rfl, dropped⟩ := run_fieldsFrom_nil.1 read
    obtain ⟨blank, blanks, cut⟩ := exists_blank_cons dropped
    exact ⟨[], _, cut.trans (by simp), .close blanks, by simp, .nil⟩
  | cons field fields ih =>
    obtain ⟨rfl, _, advanced⟩ | ⟨start, _, between, later, advanced, read, read'⟩ :=
      run_fieldsFrom_cons.1 read
    · obtain ⟨blank, blanks, cut⟩ := exists_blank_cons (advance_sound advanced)
      exact ⟨[], _, by rw [cut]; simp, .close blanks, by simp, .nil⟩
    · obtain ⟨value, literal, cut, placed, taken⟩ := (follows.reads field record).sound read
      obtain ⟨values, closing, cut', written, within, folds⟩ := ih read'
      obtain ⟨literal, cut, written⟩ :=
        exists_written_cons (advance_sound advanced) cut placed cut' written
      exact ⟨value :: values, literal, cut, written, Nat.succ_le_succ within, .cons taken folds⟩

/-- A record written as a list. -/
lemma Follows.reads_list (follows : Follows form schema means) (blank : α) :
    Reads (WrittenList true)
      (fun values record => values.length ≤ schema.order.length ∧
        Folds (schema.Takes means) (schema.order.zip values) blank record)
      (form.list blank) where
  sound read := by
    rw [← follows.order]
    exact follows.fieldsFrom_sound read
  complete written meant _ := by
    rw [← follows.order] at meant
    exact follows.fieldsFrom_complete written meant.1 meant.2

/-- In a list each field has one place. -/
lemma Schema.nodup_zip (schema : Schema φ α) (values : List Value) :
    ((schema.order.zip values).map Prod.fst).Nodup := by
  have fst_zip (fields : List φ) : ((fields.zip values).map Prod.fst).Sublist fields := by
    induction fields generalizing values with
    | nil => simp
    | cons field fields ih =>
      cases values with
      | nil => simp
      | cons value values => simpa using ih values
  exact (fst_zip schema.order).nodup schema.order_nodup

end Lists

/-- What closes a record ends it, whatever stands behind it. -/
theorem Follows.record_complete (follows : Follows form schema means) {name : String}
    {blank record : α} {value : Value} {literal : List Char} (placed : Placed value literal)
    (meant : schema.IsRecord means blank value record) :
    (Json.record name (form.list blank) (form.object blank)).run (literal ++ rest) =
      .ok (record, rest) := by
  obtain ⟨written, form', dropped⟩ := placed.exists_written
  obtain ⟨_, ⟨⟨members, rfl, keyed⟩, once⟩ | within, holds⟩ := meant
  · cases form' with
    | object members =>
      refine run_record.2 (.inr ⟨_, dropped rest, ?_⟩)
      exact follows.object_complete members keyed once holds
  · cases form' with
    | list values =>
      have folds := (Schema.folds_iff_holds (schema.nodup_zip _)).2 holds
      rw [← follows.order] at within folds
      refine run_record.2 (.inl ⟨_, dropped rest, ?_⟩)
      exact follows.fieldsFrom_complete values within folds

/-- A record is read as its schema says. -/
theorem Follows.reads_record (follows : Follows form schema means) (name : String) (blank : α) :
    Reads Placed (schema.IsRecord means blank)
      (record name (form.list blank) (form.object blank)) where
  sound read := by
    obtain ⟨value, literal, cut, placed, meant⟩ :=
      (Json.reads_record (follows.reads_list blank) (follows.reads_object blank)).sound read
    refine ⟨value, literal, cut, placed, ?_⟩
    obtain ⟨values, rfl, within, folds⟩ | ⟨members, rfl, entries, keyed, once, holds⟩ := meant
    · exact ⟨_, .list within, (Schema.folds_iff_holds (schema.nodup_zip values)).1 folds⟩
    · exact ⟨_, .object ⟨members, rfl, keyed⟩ once, holds⟩
  complete placed meant _ := follows.record_complete placed meant

end Forms

end Typeset.Json
