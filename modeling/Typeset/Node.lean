import Typeset.Dictionary
import Typeset.Kind

/-!
# Nodes

A node ready to be rendered: its own fields, and its content as finished text.
-/

namespace Typeset

/-- The root of a document. -/
structure Document where
  title : Option String
  author : Option String
  date : Option String
  attributes : Dictionary
  content : String
  deriving DecidableEq, Repr

/-- Whether a table of contents is asked for. -/
def Document.hasContentsTable (document : Document) : Bool :=
  document.attributes.contains "toc"

/-- A section: its depth, its title and its body. -/
structure Heading where
  level : Nat
  title : String
  content : String
  deriving DecidableEq, Repr

/-- An entry of a list: its own text and what is nested in it. -/
structure ListItem where
  text : String
  content : String
  deriving DecidableEq, Repr

/-- A list of entries. -/
structure ItemList where
  kind : ListKind
  items : List ListItem
  deriving DecidableEq, Repr

/-- A block of text. The source lines only serve to point at it. -/
structure Block where
  kind : BlockKind
  style : Option String
  content : String
  lines : List String
  deriving DecidableEq, Repr

/-- A span inside a line. -/
structure Inline where
  kind : InlineKind
  text : String
  target : Option String
  attributes : Dictionary
  deriving DecidableEq, Repr

/-- The role that styles a span. -/
def Inline.role? (inline : Inline) : Option String :=
  inline.attributes.find? "role"

/-- A node of one of the five variants. -/
inductive Node where
  | document (document : Document)
  | heading (heading : Heading)
  | itemList (list : ItemList)
  | block (block : Block)
  | inline (inline : Inline)
  deriving DecidableEq, Repr

/-- The name of a node's variant. -/
def Node.variant : Node → String
  | document _ => "document"
  | heading _ => "section"
  | itemList _ => "list"
  | block _ => "block"
  | inline _ => "inline"

end Typeset
