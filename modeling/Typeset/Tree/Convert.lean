import Typeset.Session
import Typeset.Tree

/-!
# Converting trees

A tree is converted from the leaves up: what a node contains is walked first, and the node is
rendered with the result as its content. Inline siblings run together, others stand on lines of their
own. The walk is the same for whatever renders the nodes; a conversion walks in one session.
-/

namespace Typeset

/-- What becomes of a tree node. -/
inductive NodeClass where
  | leaf
  | document
  | heading
  | itemList
  | block
  | inline
  | unknown
  deriving DecidableEq, Repr

/-- Whether a name is that of an inline node. -/
def isInlineName (name : String) : Bool :=
  "inline_".toList.isPrefixOf name.toList

/-- The names of blocks. -/
def blockNames : List String :=
  ["paragraph", "stem", "admonition", "page_break", "literal", "listing", "pass", "block"]

/-- What becomes of a node by its name. -/
def NodeClass.ofName (name : String) : NodeClass :=
  if name = "text" then leaf
  else if name = "document" then document
  else if name = "section" then heading
  else if name = "ulist" ∨ name = "olist" ∨ name = "list" then itemList
  else if blockNames.contains name then block
  else if isInlineName name then inline
  else unknown

namespace Fields

/-- What becomes of the node. -/
def nodeClass (fields : Fields) : NodeClass :=
  .ofName fields.name

/-- Whether the node runs together with its siblings. -/
def runsOn (fields : Fields) : Bool :=
  fields.nodeClass == .leaf || fields.nodeClass == .inline

/-- The kind of a list: its name, unless that leaves the kind to the field of that name. -/
def listKind (fields : Fields) : ListKind :=
  .ofName (if fields.name = "list" then fields.kind.getD "" else fields.name)

/-- The kind of a block: its name, unless that leaves the kind to the field of that name. -/
def blockKind (fields : Fields) : BlockKind :=
  .ofName (if fields.name = "block" then fields.kind.getD "" else fields.name)

/-- The kind of an inline node. -/
def inlineKind (fields : Fields) : InlineKind :=
  let kind := fields.kind.getD ""
  if fields.name = "inline_quoted" then .quoted (.ofName kind)
  else if fields.name = "inline_anchor" then .anchor (.ofName kind)
  else if fields.name = "inline_break" then .lineBreak
  else .other fields.name

/-- The document with the given body. -/
def document (fields : Fields) (content : String) : Node :=
  .document
    { title := fields.title
      author := fields.author
      date := fields.date
      attributes := fields.attributes
      content }

/-- The section with the given body. -/
def heading (fields : Fields) (content : String) : Node :=
  .heading { level := fields.level.getD 0, title := fields.title.getD "", content }

/-- The list of the given entries. -/
def itemList (fields : Fields) (items : List ListItem) : Node :=
  .itemList { kind := fields.listKind, items }

/-- The block with the given content. -/
def block (fields : Fields) (content : String) : Node :=
  .block { kind := fields.blockKind, style := fields.style, content, lines := fields.lines }

/-- The span with the given text. -/
def inline (fields : Fields) (text : String) : Node :=
  .inline
    { kind := fields.inlineKind
      text
      target := fields.target
      attributes := fields.attributes }

/-- The content that a block brings itself: its source, or its text if it has no children. -/
def ownContent? (fields : Fields) (childless : Bool) : Option String :=
  match fields.source with
  | some source => some source
  | none => if childless then fields.text else none

end Fields

/-- What stands between siblings: nothing if all of them run on, else a line end. -/
def separator (siblings : List Tree) : String :=
  if siblings.all (·.fields.runsOn) then "" else "\n"

/-- The texts of siblings, put together. -/
def joinSiblings (siblings : List Tree) (texts : List String) : String :=
  (separator siblings).intercalate texts

/-- What walks trees: it renders nodes and is told of names that it does not know, one after the
other, and keeps a state on the way. -/
structure Walker (σ : Type) where
  /-- Renders a node; gives its text and the state after it. -/
  render : σ → Node → String × σ
  /-- Takes note of a node that has no variant. -/
  reportUnknown : σ → String → σ

namespace Walker

variable {σ : Type} (walker : Walker σ)

mutual

/-- Walks a tree; gives its text and the state after it. -/
def walk (state : σ) : Tree → String × σ
  | ⟨fields, children, entries⟩ =>
    match fields.nodeClass with
    | .leaf => (fields.text.getD "", state)
    | .unknown => ("", walker.reportUnknown state fields.name)
    | .document =>
      let walked := walkAll state children
      walker.render walked.2 (fields.document (joinSiblings children walked.1))
    | .heading =>
      let walked := walkAll state children
      walker.render walked.2 (fields.heading (joinSiblings children walked.1))
    | .itemList =>
      let walked := walkEntries state entries
      walker.render walked.2 (fields.itemList walked.1)
    | .block =>
      match fields.ownContent? children.isEmpty with
      | some content => walker.render state (fields.block content)
      | none =>
        let walked := walkAll state children
        walker.render walked.2 (fields.block (joinSiblings children walked.1))
    | .inline =>
      match fields.text with
      | some text => walker.render state (fields.inline text)
      | none =>
        let walked := walkAll state children
        walker.render walked.2 (fields.inline (joinSiblings children walked.1))

/-- Walks trees one after the other; gives the text of each and the state after the last. -/
def walkAll (state : σ) : List Tree → List String × σ
  | [] => ([], state)
  | tree :: trees =>
    let walked := walk state tree
    let later := walkAll walked.2 trees
    (walked.1 :: later.1, later.2)

/-- Walks entries one after the other; gives them as they are rendered and the state after the last.
-/
def walkEntries (state : σ) : List Entry → List ListItem × σ
  | [] => ([], state)
  | entry :: entries =>
    let walked := walkEntry state entry
    let later := walkEntries walked.2 entries
    (walked.1 :: later.1, later.2)

/-- Walks the children of an entry; gives the entry as it is rendered and the state after it. -/
def walkEntry (state : σ) : Entry → ListItem × σ
  | ⟨text, children⟩ =>
    let walked := walkAll state children
    (⟨text, joinSiblings children walked.1⟩, walked.2)

end

end Walker

/-- Sessions, as they walk trees. -/
def Session.walker : Walker Session where
  render := render
  reportUnknown := reportUnknown

/-- The rendering of a tree, in a session of its own. -/
def Tree.convert (style : Style) (tree : Tree) : Rendering :=
  let walked := Session.walker.walk (.start style) tree
  ⟨walked.1, walked.2.journal⟩

end Typeset
