import Typeset.Json.Value
import Typeset.Tree

/-!
# Source trees in JSON

A tree is read from one JSON value. A node is a record of its fields, children and entries, all of
which may be missing. Lists and objects that are read nest to a limited depth: each reader below
takes the number of brackets that may still be opened.
-/

namespace Typeset

open Json (Reader RecordForm)

/-- The members of a node, in their order. -/
inductive NodeField where
  | name
  | kind
  | level
  | title
  | text
  | target
  | style
  | source
  | author
  | date
  | attributes
  | lines
  | children
  | entries
  deriving DecidableEq, Repr

namespace NodeField

/-- The members of a node, in the order in which a list gives them. -/
def all : List NodeField :=
  [name, kind, level, title, text, target, style, source, author, date, attributes, lines, children,
    entries]

/-- The key of a member. -/
def key : NodeField → String
  | name => "name"
  | kind => "type"
  | level => "level"
  | title => "title"
  | text => "text"
  | target => "target"
  | style => "style"
  | source => "source"
  | author => "author"
  | date => "date"
  | attributes => "attributes"
  | lines => "lines"
  | children => "children"
  | entries => "items"

end NodeField

/-- The members of an entry, in their order. -/
inductive EntryField where
  | text
  | children
  deriving DecidableEq, Repr

/-- The key of a member. -/
def EntryField.key : EntryField → String
  | text => "text"
  | children => "children"

/-- The reader of what stands inside a bracket, if one more bracket may be opened. -/
def nested {α : Type} (inside : Nat → Reader α) : Nat → Reader α
  | 0 => .refuse .recursionLimit
  | depth + 1 => inside depth

/-- A list of strings. -/
def readLines (depth : Nat) : Reader (List String) :=
  Json.sequence (nested (fun _ => Json.elements Json.text true) depth)

/-- A dictionary. -/
def readDictionary (depth : Nat) : Reader Dictionary :=
  Json.map (nested (fun _ => Json.members member true .empty) depth)
where
  /-- The text under a key takes the place of an earlier one. -/
  member (key : String) (dictionary : Dictionary) : Except Json.Cause (Reader Dictionary) :=
    .ok (Json.text.map (dictionary.insert key))

/-- The form of a node, given the readers of its children and entries. -/
def nodeForm (depth : Nat) (readChildren : Reader (List Tree)) (readEntries : Reader (List Entry)) :
    RecordForm NodeField Tree where
  order := NodeField.all
  key := NodeField.key
  read field tree :=
    match field with
    | .name => Json.text.map fun name => { tree with fields.name := name }
    | .kind => (Json.optional Json.text).map fun kind => { tree with fields.kind := kind }
    | .level => (Json.optional Json.level).map fun level => { tree with fields.level := level }
    | .title => (Json.optional Json.text).map fun title => { tree with fields.title := title }
    | .text => (Json.optional Json.text).map fun text => { tree with fields.text := text }
    | .target => (Json.optional Json.text).map fun target => { tree with fields.target := target }
    | .style => (Json.optional Json.text).map fun style => { tree with fields.style := style }
    | .source => (Json.optional Json.text).map fun source => { tree with fields.source := source }
    | .author => (Json.optional Json.text).map fun author => { tree with fields.author := author }
    | .date => (Json.optional Json.text).map fun date => { tree with fields.date := date }
    | .attributes =>
      (readDictionary depth).map fun attributes => { tree with fields.attributes := attributes }
    | .lines => (readLines depth).map fun lines => { tree with fields.lines := lines }
    | .children => readChildren.map fun children => { tree with children := children }
    | .entries => readEntries.map fun entries => { tree with entries := entries }

/-- The form of an entry, given the reader of its children. -/
def entryForm (readChildren : Reader (List Tree)) : RecordForm EntryField Entry where
  order := [.text, .children]
  key := EntryField.key
  read field entry :=
    match field with
    | .text => Json.text.map fun text => { entry with text := text }
    | .children => readChildren.map fun children => { entry with children := children }

/-- The name that messages give to a node. -/
def nodeRecord : String :=
  "SourceNode"

/-- The name that messages give to an entry. -/
def entryRecord : String :=
  "SourceItem"

mutual

/-- A node. -/
def readNode : Nat → Reader Tree
  | 0 => Json.record nodeRecord (.refuse .recursionLimit) (.refuse .recursionLimit)
  | depth + 1 =>
    let form := nodeForm depth (readNodes depth) (readEntries depth)
    Json.record nodeRecord (form.list .blank) (form.object .blank)

/-- A list of nodes. -/
def readNodes : Nat → Reader (List Tree)
  | 0 => Json.sequence (.refuse .recursionLimit)
  | depth + 1 => Json.sequence (Json.elements (readNode depth) true)

/-- An entry. -/
def readEntry : Nat → Reader Entry
  | 0 => Json.record entryRecord (.refuse .recursionLimit) (.refuse .recursionLimit)
  | depth + 1 =>
    let form := entryForm (readNodes depth)
    Json.record entryRecord (form.list .blank) (form.object .blank)

/-- A list of entries. -/
def readEntries : Nat → Reader (List Entry)
  | 0 => Json.sequence (.refuse .recursionLimit)
  | depth + 1 => Json.sequence (Json.elements (readEntry depth) true)

end

/-- How deep the lists and objects that are read may nest. -/
def depthLimit : Nat :=
  127

/-- The tree that a JSON text holds. -/
def Tree.parse (text : String) : Except Json.Cause Tree :=
  Json.readAll (readNode depthLimit) text.toList

end Typeset
