import Typeset.Proofs.Json.Grammar
import Typeset.Text.Digit

/-!
# What values mean

Strings, section levels, lists and the members of objects, as what the values of a text mean where
something is asked for.
-/

namespace Typeset.Json

variable {α φ : Type}

/-- A value is a string. -/
def IsText (value : Value) (text : String) : Prop :=
  ∃ parts, value = .text parts ∧ Denotes parts text.toList

/-- A value is `null`, and nothing is meant, or it means something. -/
def IsNullOr (means : Value → α → Prop) (value : Value) : Option α → Prop
  | none => value = .null
  | some x => means value x

/-- A value is an integer in range, with no sign, fraction or exponent. -/
def IsLevel (value : Value) (level : Nat) : Prop :=
  ∃ digits, value = .number ⟨false, digits, [], none⟩ ∧ Text.ofDigits 10 digits = level ∧
    level ≤ 0xFFFFFFFF

/-- A value is a list whose values mean the given ones, one by one. -/
def IsList (means : Value → α → Prop) (value : Value) (xs : List α) : Prop :=
  ∃ values, value = .list values ∧ List.Forall₂ means values xs

/-- The members of an object, with the keys that they denote. -/
def Keyed (members : List (List StringPart × Value)) (entries : List (String × Value)) : Prop :=
  List.Forall₂ (fun member entry => Denotes member.1 entry.1.toList ∧ member.2 = entry.2)
    members entries

/-- A value is an object with the given keys and values, in their order. -/
def IsObject (value : Value) (entries : List (String × Value)) : Prop :=
  ∃ members, value = .object members ∧ Keyed members entries

/-- The fields of a record, in their order, with their keys and with what each of them holds. -/
structure Schema (φ α : Type) where
  order : List φ
  key : φ → String
  /-- The type of what a field holds. -/
  Part : φ → Type
  get : (field : φ) → α → Part field
  put : (field : φ) → Part field → α → α
  order_nodup : order.Nodup
  mem_order : ∀ field, field ∈ order
  key_injective : Function.Injective key
  get_put : ∀ field part record, get field (put field part record) = part
  get_put_of_ne : ∀ {field other} part record, other ≠ field →
    get other (put field part record) = get other record
  ext : ∀ {record record'}, (∀ field, get field record = get field record') → record = record'

namespace Schema

variable [DecidableEq φ] (schema : Schema φ α)

/-- A value gives fields of a record their values: as an object in which the key of no field stands
twice, or as a list in the order of the fields that stops early at most. -/
inductive Gives : Value → (φ → Option Value) → Prop where
  | object {value : Value} {entries : List (String × Value)} :
    IsObject value entries → (∀ field, (entries.map Prod.fst).count (schema.key field) ≤ 1) →
    Gives value fun field => entries.lookup (schema.key field)
  | list {values : List Value} :
    values.length ≤ schema.order.length →
    Gives (.list values) fun field => (schema.order.zip values).lookup field

/-- A record holds what the given values mean, and is as before in the fields that are not given. -/
def Holds (means : (field : φ) → Value → schema.Part field → Prop) (before : α)
    (given : φ → Option Value) (record : α) : Prop :=
  ∀ field, match given field with
    | some value => means field value (schema.get field record)
    | none => schema.get field record = schema.get field before

/-- A value is a record: it holds what the value gives, and the rest is as in the blank one. -/
def IsRecord (means : (field : φ) → Value → schema.Part field → Prop) (blank : α) (value : Value)
    (record : α) : Prop :=
  ∃ given, schema.Gives value given ∧ schema.Holds means blank given record

end Schema

end Typeset.Json
