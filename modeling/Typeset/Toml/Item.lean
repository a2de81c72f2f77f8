/-!
# Tables and their items

A table holds items under names, each name once. How a table came to be decides what may be added to
it: a table that a longer header only implies may be defined later, a table that dotted keys opened
is added to by dotted keys alone, and a table written out in full is closed.
-/

namespace Typeset.Toml

/-- How a table came to be. -/
inductive Origin where
  /-- By a header of its own, or as an element of a list of tables. -/
  | header
  /-- By a header of a table inside it. -/
  | implied
  /-- By dotted keys. -/
  | dotted
  /-- As a value between braces. -/
  | inline
  deriving DecidableEq, Repr

/-- What stands under a name. A number is not kept, since nothing asks for its value. -/
inductive Item where
  | text (value : String)
  | boolean (value : Bool)
  | number
  | moment (value : String)
  | array (items : List Item)
  | table (origin : Origin) (entries : List (String × Item))
  | tables (all : List (List (String × Item)))
  deriving Inhabited

/-- The items of a table under their names. -/
abbrev Entries : Type :=
  List (String × Item)

/-- Puts an item under a name, in place of what stood there. -/
def put (name : String) (item : Item) : Entries → Entries
  | [] => [(name, item)]
  | entry :: entries =>
    if entry.1 = name then (name, item) :: entries else entry :: put name item entries

/-- Whether a path may lead through a table. Dotted keys do not enter a table written out elsewhere.
-/
def Origin.opens (dotted : Bool) : Origin → Bool
  | .header => !dotted
  | .implied => true
  | .dotted => true
  | .inline => false

/-- The origin of a table that a path calls into being. -/
def Origin.ofPath (dotted : Bool) : Origin :=
  if dotted then .dotted else .implied

/-- Changes the table at the end of a path. Tables on the way that are missing come into being, and
in a list of tables the way leads through the last one. The change is told how the table at the end
came to be. -/
def change (dotted : Bool) (edit : Origin → Entries → Option Entries) :
    List String → Origin → Entries → Option Entries
  | [], origin, entries => edit origin entries
  | name :: path, _, entries =>
    match entries.lookup name with
    | none => do
      let origin := Origin.ofPath dotted
      let inner ← change dotted edit path origin []
      return put name (.table origin inner) entries
    | some (.table origin inner) =>
      if origin.opens dotted then do
        let inner ← change dotted edit path origin inner
        return put name (.table origin inner) entries
      else none
    | some (.tables all) =>
      match all.reverse with
      | [] => none
      | last :: others => do
        let last ← change dotted edit path .header last
        return put name (.tables (last :: others).reverse) entries
    | some _ => none

/-- A key with the path of names before its last one, and its value. -/
structure Pair where
  path : List String
  name : String
  item : Item

/-- Enters a value under a key. A key of several names ends in a table that such keys opened. -/
def Pair.enter (pair : Pair) (entries : Entries) : Option Entries :=
  change true edit pair.path .header entries
where
  /-- Adds the value to the table that the path leads to. -/
  edit (origin : Origin) (entries : Entries) : Option Entries :=
    if (origin == .dotted) == pair.path.isEmpty then none
    else if (entries.lookup pair.name).isSome then none
    else some (put pair.name pair.item entries)

/-- Enters values one after the other. -/
def enterAll (pairs : List Pair) (entries : Entries) : Option Entries :=
  pairs.foldlM (fun entries pair => pair.enter entries) entries

/-- A header and the keys below it. -/
structure Part where
  /-- Whether the header adds an element to a list of tables. -/
  isElement : Bool
  path : List String
  name : String
  pairs : List Pair

/-- Adds a part of a document to the table of the parts before it. -/
def Part.enter (part : Part) (root : Entries) : Option Entries :=
  change false edit part.path .header root
where
  /-- Adds the part's table to the table that holds it. -/
  edit (_ : Origin) (entries : Entries) : Option Entries :=
    match part.isElement, entries.lookup part.name with
    | true, none => do
      return put part.name (.tables [← enterAll part.pairs []]) entries
    | true, some (.tables all) => do
      return put part.name (.tables (all ++ [← enterAll part.pairs []])) entries
    | false, none => do
      return put part.name (.table .header (← enterAll part.pairs [])) entries
    | false, some (.table .implied inner) => do
      return put part.name (.table .header (← enterAll part.pairs inner)) entries
    | _, some _ => none

/-- The table of a whole document: the keys ahead of all headers, and the parts. -/
def assemble (pairs : List Pair) (parts : List Part) : Option Entries := do
  parts.foldlM (fun root part => part.enter root) (← enterAll pairs [])

end Typeset.Toml
