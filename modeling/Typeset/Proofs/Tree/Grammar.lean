import Typeset.Proofs.Json.Meaning
import Typeset.Tree.Json

/-!
# The grammar of source trees

Which values of JSON are nodes of a source tree, and which nodes they are. A node is a record, so
its members stand in any order or as a list, and what is missing is as in the blank node. Each list
or object that is read takes one of the brackets that may still be opened.
-/

namespace Typeset

open Json (IsLevel IsList IsNullOr IsObject IsText Schema Value)

/-- A value is an object of texts. Of several texts for a name the last one stands. -/
def IsDictionary (value : Value) (dictionary : Dictionary) : Prop :=
  ∃ entries texts, IsObject value entries ∧
    List.Forall₂ (fun entry text => entry.1 = text.1 ∧ IsText entry.2 text.2) entries texts ∧
      ∀ name, dictionary.find? name = texts.reverse.lookup name

namespace NodeField

/-- The type of what a member of a node holds. -/
abbrev Part : NodeField → Type
  | name => String
  | kind | title | text | target | style | source | author | date => Option String
  | level => Option Nat
  | attributes => Dictionary
  | lines => List String
  | children => List Tree
  | entries => List Entry

/-- What a member of a node holds. -/
def get : (field : NodeField) → Tree → field.Part
  | name, tree => tree.fields.name
  | kind, tree => tree.fields.kind
  | level, tree => tree.fields.level
  | title, tree => tree.fields.title
  | text, tree => tree.fields.text
  | target, tree => tree.fields.target
  | style, tree => tree.fields.style
  | source, tree => tree.fields.source
  | author, tree => tree.fields.author
  | date, tree => tree.fields.date
  | attributes, tree => tree.fields.attributes
  | lines, tree => tree.fields.lines
  | children, tree => tree.children
  | entries, tree => tree.entries

/-- The node with another part in a member. -/
def put : (field : NodeField) → field.Part → Tree → Tree
  | name, part, tree => { tree with fields.name := part }
  | kind, part, tree => { tree with fields.kind := part }
  | level, part, tree => { tree with fields.level := part }
  | title, part, tree => { tree with fields.title := part }
  | text, part, tree => { tree with fields.text := part }
  | target, part, tree => { tree with fields.target := part }
  | style, part, tree => { tree with fields.style := part }
  | source, part, tree => { tree with fields.source := part }
  | author, part, tree => { tree with fields.author := part }
  | date, part, tree => { tree with fields.date := part }
  | attributes, part, tree => { tree with fields.attributes := part }
  | lines, part, tree => { tree with fields.lines := part }
  | children, part, tree => { tree with children := part }
  | entries, part, tree => { tree with entries := part }

/-- Every field is in the list of the fields. -/
lemma mem_all (field : NodeField) : field ∈ all := by
  cases field <;> decide

/-- The members of a node. -/
def schema : Schema NodeField Tree where
  order := all
  key := key
  Part := Part
  get := get
  put := put
  order_nodup := by decide
  mem_order := mem_all
  key_injective field field' same := by
    have distinct : ∀ field ∈ all, ∀ field' ∈ all, key field = key field' → field = field' := by
      decide
    exact distinct field (mem_all field) field' (mem_all field') same
  get_put field part tree := by cases field <;> rfl
  get_put_of_ne {field other} part tree apart := by
    cases field <;> cases other <;> first | rfl | exact absurd rfl apart
  ext {tree tree'} same := by
    obtain ⟨fields, _, _⟩ := tree
    obtain ⟨fields', _, _⟩ := tree'
    have fields_eq : fields = fields' := by
      obtain ⟨⟩ := fields
      obtain ⟨⟩ := fields'
      simp only [Fields.mk.injEq]
      exact ⟨same name, same kind, same level, same title, same text, same target, same style,
        same source, same author, same date, same attributes, same lines⟩
    simp only [Tree.mk.injEq]
    exact ⟨fields_eq, same children, same entries⟩

/-- What a value means in a member of a node, given what it means as children and as entries. -/
def Means (depth : Nat) (isChildren : Value → List Tree → Prop)
    (isEntries : Value → List Entry → Prop) : (field : NodeField) → Value → field.Part → Prop
  | name => IsText
  | kind | title | text | target | style | source | author | date => IsNullOr IsText
  | level => IsNullOr IsLevel
  | attributes => fun value dictionary => 0 < depth ∧ IsDictionary value dictionary
  | lines => fun value lines => 0 < depth ∧ IsList IsText value lines
  | children => isChildren
  | entries => isEntries

end NodeField

namespace EntryField

/-- The type of what a member of an entry holds. -/
abbrev Part : EntryField → Type
  | text => String
  | children => List Tree

/-- What a member of an entry holds. -/
def get : (field : EntryField) → Entry → field.Part
  | text, entry => entry.text
  | children, entry => entry.children

/-- The entry with another part in a member. -/
def put : (field : EntryField) → field.Part → Entry → Entry
  | text, part, entry => { entry with text := part }
  | children, part, entry => { entry with children := part }

/-- The members of an entry. -/
def schema : Schema EntryField Entry where
  order := [text, children]
  key := key
  Part := Part
  get := get
  put := put
  order_nodup := by decide
  mem_order field := by cases field <;> decide
  key_injective field field' same := by
    cases field <;> cases field' <;> first | rfl | exact absurd same (by decide)
  get_put field part entry := by cases field <;> rfl
  get_put_of_ne {field other} part entry apart := by
    cases field <;> cases other <;> first | rfl | exact absurd rfl apart
  ext {entry entry'} same := by
    obtain ⟨⟩ := entry
    obtain ⟨⟩ := entry'
    simp only [Entry.mk.injEq]
    exact ⟨same text, same children⟩

/-- What a value means in a member of an entry, given what it means as children. -/
def Means (isChildren : Value → List Tree → Prop) : (field : EntryField) → Value → field.Part → Prop
  | text => IsText
  | children => isChildren

end EntryField

mutual

/-- A value is a node, with at most the given number of lists and objects inside of each other. -/
def IsNode : Nat → Value → Tree → Prop
  | 0 => fun _ _ => False
  | depth + 1 =>
    NodeField.schema.IsRecord (NodeField.Means depth (IsNodes depth) (IsEntries depth)) .blank

/-- A value is a list of nodes, with at most the given number of lists and objects inside of each
other. -/
def IsNodes : Nat → Value → List Tree → Prop
  | 0 => fun _ _ => False
  | depth + 1 => IsList (IsNode depth)

/-- A value is an entry, with at most the given number of lists and objects inside of each other. -/
def IsEntry : Nat → Value → Entry → Prop
  | 0 => fun _ _ => False
  | depth + 1 => EntryField.schema.IsRecord (EntryField.Means (IsNodes depth)) .blank

/-- A value is a list of entries, with at most the given number of lists and objects inside of each
other. -/
def IsEntries : Nat → Value → List Entry → Prop
  | 0 => fun _ _ => False
  | depth + 1 => IsList (IsEntry depth)

end

end Typeset
