import Typeset.Dictionary

/-!
# Source trees

The tree of a parsed document, as its parser names the nodes. A node has fields of its own,
children, and the entries of a list with children of theirs.
-/

namespace Typeset

/-- The fields of a node, apart from its children and entries. -/
structure Fields where
  name : String
  /-- The kind of a node whose name leaves it open. -/
  kind : Option String
  level : Option Nat
  title : Option String
  text : Option String
  target : Option String
  style : Option String
  /-- The raw text of a block. -/
  source : Option String
  author : Option String
  date : Option String
  attributes : Dictionary
  lines : List String
  deriving DecidableEq, Repr

/-- The fields of a node that says nothing. -/
def Fields.blank : Fields where
  name := ""
  kind := none
  level := none
  title := none
  text := none
  target := none
  style := none
  source := none
  author := none
  date := none
  attributes := .empty
  lines := []

instance : Inhabited Fields where
  default := .blank

mutual

/-- A node of a source tree. -/
structure Tree where
  fields : Fields
  children : List Tree
  entries : List Entry

/-- An entry of a list: its text and its children. -/
structure Entry where
  text : String
  children : List Tree

end

/-- The node that says nothing. -/
def Tree.blank : Tree where
  fields := .blank
  children := []
  entries := []

/-- The entry that says nothing. -/
def Entry.blank : Entry where
  text := ""
  children := []

instance : Inhabited Tree where
  default := .blank

end Typeset
