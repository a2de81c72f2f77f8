import Typeset.Proofs.Dictionary
import Typeset.Proofs.Json.Records
import Typeset.Proofs.Tree.Grammar

/-!
# Parsing source trees

A text is parsed to a tree exactly if it is one value of JSON that is the tree by the grammar of
source trees. Each reader of a part reads what the grammar says of the part, by induction on the
brackets that may still be opened; below the limit, and in what is skipped, nothing is asked of the
nesting.
-/

namespace Typeset

open Json

section Parts

variable {α β : Type}

/-- What stands inside of a bracket is read if one more bracket may be opened. -/
lemma reads_nested {form : β → List Char → Prop} {means : β → α → Prop} {inside : Nat → Reader α}
    (reads : ∀ depth, Reads form means (inside depth)) (depth : Nat) :
    Reads form (fun value x => 0 < depth ∧ means value x) (nested inside depth) := by
  cases depth with
  | zero => exact Reads.refuse.congr fun value x => by simp
  | succ depth => exact (reads depth).congr fun value x => by simp

/-- Lines are lists of texts, one level down. -/
theorem reads_readLines (depth : Nat) :
    Reads Placed (fun value lines => 0 < depth ∧ IsList IsText value lines) (readLines depth) := by
  refine (reads_sequence (reads_nested (fun _ => reads_elements reads_text true) depth)).congr
    fun value lines => ⟨?_, ?_⟩
  · rintro ⟨values, same, room, meant⟩
    exact ⟨room, values, same, meant⟩
  · rintro ⟨room, values, same, meant⟩
    exact ⟨values, same, room, meant⟩

/-- A text is entered in a dictionary. -/
def Enters (name : String) (value : Value) (dictionary dictionary' : Dictionary) : Prop :=
  ∃ text, IsText value text ∧ dictionary.insert name text = dictionary'

/-- An attribute is read into the dictionary, over an earlier one of its name. -/
lemma memberReads_dictionary : MemberReads readDictionary.member Enters where
  reads {name dictionary reader} given := by
    cases given
    exact reads_text.map _
  accepts _ := ⟨_, rfl⟩

/-- Members are taken into a dictionary by entering their texts one after the other. -/
lemma folds_enters_iff {entries : List (String × Value)} {dictionary dictionary' : Dictionary} :
    Folds Enters entries dictionary dictionary' ↔
      ∃ texts : List (String × String),
        List.Forall₂ (fun entry text => entry.1 = text.1 ∧ IsText entry.2 text.2) entries texts ∧
          texts.foldl (fun dictionary text => dictionary.insert text.1 text.2) dictionary =
            dictionary' := by
  induction entries generalizing dictionary with
  | nil =>
    refine ⟨fun folds => ?_, fun ⟨texts, meant, entered⟩ => ?_⟩
    · cases folds
      exact ⟨[], .nil, rfl⟩
    · cases meant
      exact entered ▸ .nil
  | cons entry entries ih =>
    refine ⟨fun folds => ?_, fun ⟨texts, meant, entered⟩ => ?_⟩
    · obtain _ | ⟨⟨text, meant, rfl⟩, folds⟩ := folds
      obtain ⟨texts, meant', entered⟩ := ih.1 folds
      exact ⟨(_, text) :: texts, .cons ⟨rfl, meant⟩ meant', entered⟩
    · obtain _ | @⟨⟨name, value⟩, ⟨_, text⟩, _, texts, ⟨same, meant⟩, meant'⟩ := meant
      obtain rfl : name = _ := same
      exact .cons ⟨text, meant, rfl⟩ (ih.2 ⟨texts, meant', entered⟩)

/-- Attributes are objects of texts, one level down. -/
theorem reads_readDictionary (depth : Nat) :
    Reads Placed (fun value dictionary => 0 < depth ∧ IsDictionary value dictionary)
      (readDictionary depth) := by
  refine (reads_map (reads_nested (fun _ => reads_members memberReads_dictionary true .empty)
    depth)).congr fun value dictionary => ⟨?_, ?_⟩
  · rintro ⟨members, same, room, entries, keyed, folds⟩
    obtain ⟨texts, meant, rfl⟩ := folds_enters_iff.1 folds
    refine ⟨room, entries, texts, ⟨members, same, keyed⟩, meant, fun name => ?_⟩
    rw [Dictionary.find?_foldl_insert]
    exact Option.or_none
  · rintro ⟨room, entries, texts, ⟨members, same, keyed⟩, meant, found⟩
    refine ⟨members, same, room, entries, keyed, folds_enters_iff.2 ⟨texts, meant, ?_⟩⟩
    refine Dictionary.ext_find? fun name => ?_
    rw [Dictionary.find?_foldl_insert, found]
    exact Option.or_none

end Parts

section Nodes

variable {depth : Nat} {isChildren : Value → List Tree → Prop}
  {isEntries : Value → List Entry → Prop} {childrenReader : Reader (List Tree)}
  {entriesReader : Reader (List Entry)}

/-- A text is not null. -/
lemma not_isText_null (text : String) : ¬ IsText .null text := by
  rintro ⟨parts, same, -⟩
  cases same

/-- A section level is not null. -/
lemma not_isLevel_null (level : Nat) : ¬ IsLevel .null level := by
  rintro ⟨digits, same, -⟩
  cases same

/-- The form of nodes follows their schema if the nodes and entries inside are read as they should.
-/
lemma follows_nodeForm (children : Reads Placed isChildren childrenReader)
    (entries : Reads Placed isEntries entriesReader) :
    Follows (nodeForm depth childrenReader entriesReader) NodeField.schema
      (NodeField.Means depth isChildren isEntries) where
  order := rfl
  key := rfl
  reads field tree := by
    have optional := reads_optional reads_text not_isText_null
    cases field with
    | name => exact reads_text.map _
    | level => exact (reads_optional reads_level not_isLevel_null).map _
    | attributes => exact (reads_readDictionary depth).map _
    | lines => exact (reads_readLines depth).map _
    | children => exact children.map _
    | entries => exact entries.map _
    | _ => exact optional.map _

/-- The form of entries follows their schema if the nodes inside are read as they should. -/
lemma follows_entryForm (children : Reads Placed isChildren childrenReader) :
    Follows (entryForm childrenReader) EntryField.schema (EntryField.Means isChildren) where
  order := rfl
  key := rfl
  reads field entry := by
    cases field with
    | text => exact reads_text.map _
    | children => exact children.map _

mutual

/-- Nodes are read as the grammar has them. -/
theorem reads_readNode : ∀ depth, Reads Placed (IsNode depth) (readNode depth)
  | 0 => by
    unfold readNode IsNode
    exact (Json.reads_record .refuse .refuse).congr fun value tree => by simp
  | depth + 1 => by
    unfold readNode IsNode
    exact (follows_nodeForm (reads_readNodes depth) (reads_readEntries depth)).reads_record _ _

/-- Lists of nodes are read as the grammar has them. -/
theorem reads_readNodes : ∀ depth, Reads Placed (IsNodes depth) (readNodes depth)
  | 0 => by
    unfold readNodes IsNodes
    exact (reads_sequence .refuse).congr fun value trees => by simp
  | depth + 1 => by
    unfold readNodes IsNodes
    exact reads_sequence (reads_elements (reads_readNode depth) true)

/-- Entries are read as the grammar has them. -/
theorem reads_readEntry : ∀ depth, Reads Placed (IsEntry depth) (readEntry depth)
  | 0 => by
    unfold readEntry IsEntry
    exact (Json.reads_record .refuse .refuse).congr fun value entry => by simp
  | depth + 1 => by
    unfold readEntry IsEntry
    exact (follows_entryForm (reads_readNodes depth)).reads_record _ _

/-- Lists of entries are read as the grammar has them. -/
theorem reads_readEntries : ∀ depth, Reads Placed (IsEntries depth) (readEntries depth)
  | 0 => by
    unfold readEntries IsEntries
    exact (reads_sequence .refuse).congr fun value entries => by simp
  | depth + 1 => by
    unfold readEntries IsEntries
    exact reads_sequence (reads_elements (reads_readEntry depth) true)

end

/-- A text is parsed to a tree exactly if it is one value of JSON, with blanks around it at most,
that is the tree by the grammar of source trees with at most 127 lists and objects inside of each
other. -/
theorem Tree.parse_eq_ok_iff {text : String} {tree : Tree} :
    Tree.parse text = .ok tree ↔ ∃ value, IsJson text.toList value ∧ IsNode 127 value tree := by
  have reads := reads_readNode 127
  refine readAll_eq_ok_iff.trans ⟨fun ⟨back, read, blanks⟩ => ?_, fun ⟨value, json, meant⟩ => ?_⟩
  · obtain ⟨value, literal, cut, ⟨front, written, rfl, blanks', form⟩, meant⟩ := reads.sound read
    have cut : text.toList = front ++ (written ++ back) := by rw [cut, List.append_assoc]
    exact ⟨value, ⟨front, written, back, cut, blanks', blanks, form⟩, meant⟩
  · obtain ⟨front, written, back, cut, blanks', blanks, form⟩ := json
    refine ⟨back, ?_, blanks⟩
    rw [cut, ← List.append_assoc]
    exact reads.complete ⟨front, written, rfl, blanks', form⟩ meant blanks.ends

/-- What is skipped obeys the form of JSON only, and a list may stand for a record. -/
example :
    let text :=
      "\x7b\"x\": [\"\\ud800\", 1e999], \"n\\u0061me\": \"ulist\", \"items\": [[\"a\"]]\x7d"
    let parsed := (Tree.parse text).toOption
    parsed.map (fun tree => (tree.fields.name, tree.entries.map (·.text))) =
      some ("ulist", ["a"]) := by
  decide +kernel

end Nodes

end Typeset
