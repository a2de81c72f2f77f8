import Typeset.Proofs.Json.Refusals

/-!
# Parts that may be exchanged

A value of which a part is left open, a value of a list or of a field of a record. If the whole means
something with some part, it does with any other part that means something, and what another part is
refused for, the whole is refused for. This carries over from parts of parts.
-/

namespace Typeset.Json

variable {α β γ φ σ : Type}

/-- A part of a value may be exchanged, for another one that means something or for one that is
refused. -/
structure Exchanges (means : Value → α → Prop) (reader : Reader α) (means' : Value → β → Prop)
    (reader' : Reader β) (fill : Value → Value) (place : β → α) : Prop where
  means {value : Value} {x : β} (meant : means' value x) : means (fill value) (place x)
  refuses {value : Value} {cause : Cause} (refused : Refuses Placed reader' value cause) :
    Refuses Placed reader (fill value) cause

namespace Exchanges

variable {means : Value → α → Prop} {reader : Reader α} {means' : Value → β → Prop}
  {reader' : Reader β} {means'' : Value → γ → Prop} {reader'' : Reader γ}
  {fill fill' : Value → Value} {place : β → α} {place' : γ → β}

/-- A value is a part of itself. -/
lemma refl : Exchanges means reader means reader id id where
  means meant := meant
  refuses refused := refused

/-- A part of a part is a part. -/
lemma comp (outer : Exchanges means reader means' reader' fill place)
    (inner : Exchanges means' reader' means'' reader'' fill' place') :
    Exchanges means reader means'' reader'' (fill ∘ fill') (place ∘ place') where
  means meant := outer.means (inner.means meant)
  refuses refused := outer.refuses (inner.refuses refused)

end Exchanges

section Lists

variable {means : Value → α → Prop} {reader : Reader α} {front back : List Value} {value : Value}
  {before after : List α} {x : α}

/-- A list around a value means a list around what the value means. -/
lemma isList_append_cons_iff (same : front.length = before.length) :
    IsList means (.list (front ++ value :: back)) (before ++ x :: after) ↔
      List.Forall₂ means front before ∧ means value x ∧ List.Forall₂ means back after := by
  have split : List.Forall₂ means (front ++ value :: back) (before ++ x :: after) ↔
      List.Forall₂ means front before ∧ means value x ∧ List.Forall₂ means back after := by
    induction front generalizing before with
    | nil =>
      obtain rfl := List.eq_nil_of_length_eq_zero same.symm
      simp
    | cons value' front ih =>
      obtain _ | ⟨y, before⟩ := before
      · cases same
      · simp [ih (Nat.succ.inj same), and_assoc]
  refine ⟨fun ⟨values, eq, meant⟩ => ?_, fun meant => ⟨_, rfl, split.2 meant⟩⟩
  cases eq
  exact split.1 meant

/-- The values of a list may be exchanged. -/
lemma exchanges_elements (reads : Reads Placed means reader) (same : front.length = before.length)
    (isList : IsList means (.list (front ++ value :: back)) (before ++ x :: after)) :
    means value x ∧
      Exchanges (IsList means) (sequence (elements reader true)) means reader
        (fun value => .list (front ++ value :: back)) fun x => before ++ x :: after := by
  obtain ⟨fronts, here, backs⟩ := (isList_append_cons_iff same).1 isList
  refine ⟨here, fun meant => ?_, fun refused => ?_⟩
  · exact (isList_append_cons_iff same).2 ⟨fronts, meant, backs⟩
  · exact (Refuses.elements reads fronts refused).sequence

end Lists

section Fields

variable {schema : Schema φ α} {means : (field : φ) → Value → schema.Part field → Prop}

/-- The parts of a string denote the characters of one string only. -/
lemma Denotes.unique {parts : List StringPart} {chars chars' : List Char}
    (denoted : Denotes parts chars) (denoted' : Denotes parts chars') : chars = chars' := by
  have whole (c : Char) : ¬(0xD800 ≤ c.toNat ∧ c.toNat ≤ 0xDBFF) := by
    have valid : c.toNat.isValidChar := c.valid
    unfold Nat.isValidChar at valid
    omega
  induction denoted generalizing chars' with
  | nil =>
    cases denoted'
    rfl
  | plain _ ih =>
    obtain _ | ⟨later⟩ := denoted'
    rw [ih later]
  | escaped _ ih =>
    obtain _ | _ | ⟨later⟩ := denoted'
    rw [ih later]
  | unit same _ ih =>
    obtain _ | _ | _ | ⟨same', later⟩ | ⟨leading, -, -, -⟩ := denoted'
    · rw [Char.toNat_inj.1 (same.trans same'.symm), ih later]
    · exact absurd (same ▸ leading) (whole _)
  | pair leading trailing same _ ih =>
    obtain _ | _ | _ | ⟨same', later⟩ | ⟨-, -, same', later⟩ := denoted'
    · exact absurd (same' ▸ leading) (whole _)
    · rw [Char.toNat_inj.1 (same.trans same'.symm), ih later]

/-- A value of a record is left open: under a key of a field, or at the place of a field in a list. -/
inductive Schema.Asks (schema : Schema φ α) (field : φ) : (Value → Value) → Prop where
  | object {front back : List (List StringPart × Value)} {parts : List StringPart} :
    Denotes parts (schema.key field).toList →
    Asks schema field fun value => .object (front ++ (parts, value) :: back)
  | list {front back : List Value} {fields later : List φ} :
    schema.order = fields ++ field :: later → front.length = fields.length →
    Asks schema field fun value => .list (front ++ value :: back)

/-- A member of an object stands among the entries under the key that it denotes. -/
lemma Keyed.exists_split {front back : List (List StringPart × Value)} {parts : List StringPart}
    {value : Value} {entries : List (String × Value)} {key : String}
    (keyed : Keyed (front ++ (parts, value) :: back) entries) (denoted : Denotes parts key.toList) :
    ∃ front' back', entries = front' ++ (key, value) :: back' ∧ Keyed front front' ∧
      Keyed back back' := by
  induction front generalizing entries with
  | nil =>
    obtain _ | @⟨_, ⟨key', _⟩, _, back', ⟨denoted', rfl⟩, keyed⟩ := keyed
    obtain rfl : key = key' := String.toList_inj.1 (denoted.unique denoted')
    exact ⟨[], back', rfl, .nil, keyed⟩
  | cons member front ih =>
    obtain _ | @⟨_, entry, _, _, here, keyed⟩ := keyed
    obtain ⟨front', back', rfl, before, behind⟩ := ih keyed
    exact ⟨entry :: front', back', rfl, .cons here before, behind⟩

/-- Members around one have their keys around its key. -/
lemma Keyed.append {front back : List (List StringPart × Value)} {parts : List StringPart}
    {value : Value} {front' back' : List (String × Value)} {key : String} (keyed : Keyed front front')
    (denoted : Denotes parts key.toList) (keyed' : Keyed back back') :
    Keyed (front ++ (parts, value) :: back) (front' ++ (key, value) :: back') := by
  induction keyed with
  | nil => exact .cons ⟨denoted, rfl⟩ keyed'
  | cons here _ ih => exact .cons here ih

/-- What stands under a key that is new is found, and hides nothing else. -/
lemma update_lookup {κ : Type} [DecidableEq κ] [DecidableEq φ] {key : φ → κ}
    (injective : Function.Injective key) {field : φ} {front : List (κ × β)}
    (fresh : key field ∉ front.map Prod.fst) (filler value : β) (back : List (κ × β)) :
    (front ++ (key field, filler) :: back).lookup (key field) = some filler ∧
      Function.update (fun other => (front ++ (key field, filler) :: back).lookup (key other)) field
          (some value) =
        fun other => (front ++ (key field, value) :: back).lookup (key other) := by
  have found (x : β) : (front ++ (key field, x) :: back).lookup (key field) = some x := by
    rw [List.lookup_append, lookup_of_not_mem fresh, List.lookup_cons_self, Option.none_or]
  refine ⟨found filler, ?_⟩
  funext other
  by_cases same : other = field
  · subst same
    rw [Function.update_self, found]
  · have apart : (key other == key field) = false := beq_false_of_ne fun eq => same (injective eq)
    rw [Function.update_of_ne same, List.lookup_append, List.lookup_append, List.lookup_cons,
      List.lookup_cons, apart]

variable [DecidableEq φ]

/-- The value that is left open is given to its field, and the other fields are given theirs whatever
the value is. -/
lemma Schema.Asks.gives {field : φ} {fill : Value → Value} (asks : schema.Asks field fill)
    {filler : Value} {given : φ → Option Value} (gives : schema.Gives (fill filler) given)
    (value : Value) :
    given field = some filler ∧
      schema.Gives (fill value) (Function.update given field (some value)) := by
  cases asks with
  | @object front back parts denoted =>
    obtain @⟨_, _, ⟨_, same, keyed⟩, once⟩ | _ := gives
    cases same
    obtain ⟨front', back', rfl, before, behind⟩ := keyed.exists_split denoted
    have fresh : schema.key field ∉ front'.map Prod.fst := by
      have within := once field
      rw [List.map_append, List.map_cons, List.count_append, List.count_cons_self] at within
      exact List.count_eq_zero.1 (by omega)
    obtain ⟨found, updated⟩ := update_lookup schema.key_injective fresh filler value back'
    refine ⟨found, ?_⟩
    rw [updated]
    refine .object ⟨_, rfl, before.append denoted behind⟩ fun other => ?_
    have within := once other
    rwa [List.map_append, List.map_cons] at within ⊢
  | @list front back fields later order length =>
    obtain @⟨_, _, ⟨_, same, -⟩, -⟩ | within := gives
    · cases same
    have fresh : field ∉ (fields.zip front).map Prod.fst := by
      have once := schema.order_nodup
      rw [order, List.nodup_append] at once
      rw [List.map_fst_zip (Nat.le_of_eq length.symm)]
      exact fun mem => once.2.2 field mem field List.mem_cons_self rfl
    have zipped (value : Value) : schema.order.zip (front ++ value :: back) =
        fields.zip front ++ (field, value) :: later.zip back := by
      rw [order, List.zip_append length.symm, List.zip_cons_cons]
    obtain ⟨found, updated⟩ :=
      update_lookup Function.injective_id fresh filler value (later.zip back)
    simp only [zipped]
    refine ⟨found, ?_⟩
    have gives : schema.Gives (.list (front ++ value :: back)) _ := .list ?_
    · simp only [zipped] at gives
      exact updated ▸ gives
    · rwa [List.length_append, List.length_cons] at within ⊢

/-- The value that is left open means what the record holds in its field. -/
lemma Schema.Asks.meant {field : φ} {fill : Value → Value} (asks : schema.Asks field fill)
    {filler : Value} {blank record : α}
    (isRecord : schema.IsRecord means blank (fill filler) record) :
    means field filler (schema.get field record) := by
  obtain ⟨given, gives, holds⟩ := isRecord
  obtain ⟨held, -⟩ := Schema.holds_iff.1 holds
  exact held field filler (asks.gives gives filler).1

/-- The record with another value in a field is the one with what the value means put into it. -/
lemma Schema.Asks.isRecord {field : φ} {fill : Value → Value} (asks : schema.Asks field fill)
    {filler value : Value} {blank record : α} {part : schema.Part field}
    (isRecord : schema.IsRecord means blank (fill filler) record) (meant : means field value part) :
    schema.IsRecord means blank (fill value) (schema.put field part record) := by
  obtain ⟨given, gives, holds⟩ := isRecord
  obtain ⟨held, kept⟩ := Schema.holds_iff.1 holds
  refine ⟨_, (asks.gives gives value).2, Schema.holds_iff.2 ⟨fun other value' given' => ?_,
    fun other none => ?_⟩⟩
  · by_cases same : other = field
    · subst same
      obtain rfl : value = value' := by simpa using given'
      rwa [schema.get_put]
    · rw [Function.update_of_ne same] at given'
      rw [schema.get_put_of_ne part record same]
      exact held other value' given'
  · by_cases same : other = field
    · subst same
      simp at none
    · rw [Function.update_of_ne same] at none
      rw [schema.get_put_of_ne part record same]
      exact kept other none

variable {form : RecordForm φ α}

/-- What is taken in around an entry is taken in before it, then the entry, and then the rest. -/
lemma Folds.exists_split {κ : Type} {takes : κ → β → σ → σ → Prop} {front back : List (κ × β)}
    {key : κ} {x : β} {state state' : σ}
    (folds : Folds takes (front ++ (key, x) :: back) state state') :
    ∃ before after, Folds takes front state before ∧ takes key x before after := by
  induction front generalizing state with
  | nil =>
    obtain _ | ⟨taken, _⟩ := folds
    exact ⟨state, _, .nil, taken⟩
  | cons entry front ih =>
    obtain _ | ⟨taken, folds⟩ := folds
    obtain ⟨before, after, folds, taken'⟩ := ih folds
    exact ⟨before, after, .cons taken folds, taken'⟩

/-- A record is refused for the value of a field if it would be read with another value there. -/
theorem Follows.refuses (follows : Follows form schema means) {name : String} {field : φ}
    {fill : Value → Value} {filler value : Value} {blank record : α} {cause : Cause}
    (asks : schema.Asks field fill) (isRecord : schema.IsRecord means blank (fill filler) record)
    (refuses : ∀ record, Refuses Placed (form.read field record) value cause) :
    Refuses Placed (Json.record name (form.list blank) (form.object blank)) (fill value) cause := by
  obtain ⟨given, gives, holds⟩ := isRecord
  cases asks with
  | @object front back parts denoted =>
    obtain @⟨_, _, ⟨_, same, keyed⟩, once⟩ | _ := gives
    cases same
    obtain ⟨front', back', rfl, before, -⟩ := keyed.exists_split denoted
    obtain ⟨seen, folds⟩ := follows.exists_folds once holds
    obtain ⟨⟨between, met⟩, _, folds, taken⟩ := folds.exists_split
    have named : form.named? (schema.key field) = some field := follows.named?_eq_some_iff.2 rfl
    have given : form.member (schema.key field) (between, met) =
        .ok ((form.read field between).map (·, field :: met)) := by
      rw [TakesMember, named] at taken
      rw [RecordForm.member, named]
      exact if_neg taken.1
    have refused : Refuses (WrittenMembers true) (members form.member true (blank, []))
        (front ++ (parts, value) :: back) cause :=
      .members follows.memberReads before folds denoted given ((refuses between).map _)
    exact (refused.map Prod.fst).record_object
  | @list front back fields later order length =>
    obtain @⟨_, _, ⟨_, same, -⟩, -⟩ | within := gives
    · cases same
    have folds := (Schema.folds_iff_holds (schema.nodup_zip _)).2 holds
    rw [order, List.zip_append length.symm, List.zip_cons_cons] at folds
    obtain ⟨between, _, folds, -⟩ := folds.exists_split
    refine Refuses.record_list ?_
    rw [RecordForm.list, follows.order, order]
    exact follows.refuses_fieldsFrom length folds refuses

/-- The value of a field of a record may be exchanged, if the record is read from it by a reader of
its own. -/
theorem Follows.exchanges (follows : Follows form schema means) (name : String) {field : φ}
    {fill : Value → Value} {filler : Value} {blank record : α} {reader : Reader (schema.Part field)}
    (asks : schema.Asks field fill) (isRecord : schema.IsRecord means blank (fill filler) record)
    (reads : ∀ record, form.read field record = reader.map fun part => schema.put field part record) :
    means field filler (schema.get field record) ∧
      Exchanges (schema.IsRecord means blank)
        (Json.record name (form.list blank) (form.object blank)) (means field) reader fill
        fun part => schema.put field part record := by
  refine ⟨asks.meant isRecord, fun meant => asks.isRecord isRecord meant, fun refused => ?_⟩
  refine follows.refuses asks isRecord fun record => ?_
  rw [reads record]
  exact refused.map _

end Fields

end Typeset.Json
