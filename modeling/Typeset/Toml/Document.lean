import Typeset.Toml.Item
import Typeset.Toml.Moment
import Typeset.Toml.Text

/-!
# TOML documents

Keys, values, and the lines of a document. Arrays and inline tables nest to a limited depth, and a
key has a limited number of names.
-/

namespace Typeset.Toml

open Scanner

/-- The depth from which arrays and inline tables are refused, and the number of names from which
keys are. -/
def nestingLimit : Nat :=
  80

/-- Whether a character may stand in a key without quotes. -/
def isBareKey (c : Char) : Bool :=
  c.isAlphanum || c == '_' || c == '-'

/-- One name of a key. -/
def keyName : Scanner String :=
  basicString <|> literalString <|> (do return String.ofList (← someChars isBareKey))

/-- A key: names with dots between them. Gives the names before the last, and the last. -/
def key : Scanner (List String × String) := do
  let names ← separated (word ['.']) (spaces *> keyName <* spaces)
  require (names.length < nestingLimit)
  match names.reverse with
  | [] => failure
  | last :: path => return (path.reverse, last)

/-- A key with its value. -/
def pair (value : Scanner Item) : Scanner Pair := do
  let (path, name) ← key
  word ['=']
  spaces
  let item ← value
  return ⟨path, name, item⟩

/-- An array of values. -/
def array (value : Scanner Item) : Scanner Item := do
  word ['[']
  let items ← separated (word [',']) (filler *> value <* filler) <|> pure []
  if !items.isEmpty then
    let _ ← optional (word [','])
  filler
  word [']']
  return .array items

/-- A table between braces. -/
def inlineTable (value : Scanner Item) : Scanner Item := do
  word ['\x7b']
  let pairs ← separated (word [',']) (pair value <* spaces) <|> pure []
  spaces
  word ['\x7d']
  match enterAll pairs [] with
  | some entries => return .table .inline entries
  | none => failure

/-- A value without values inside. -/
def scalar : Scanner Item :=
  (do return .text (← string)) <|>
  (do word ['t', 'r', 'u', 'e']; return .boolean true) <|>
  (do word ['f', 'a', 'l', 's', 'e']; return .boolean false) <|>
  (do return .moment (← moment)) <|>
  (do number; return .number)

/-- A value with at most the given depth of arrays and inline tables. -/
def value : Nat → Scanner Item
  | 0 => scalar
  | depth + 1 => array (value depth) <|> inlineTable (value depth) <|> scalar

/-- A key with its value on a line. -/
def pairLine : Scanner Pair :=
  pair (value (nestingLimit - 1)) <* lineEnd

/-- Lines that hold neither key nor header. -/
def emptyLines : Scanner Unit := do
  let _ ← many ((do let _ ← someChars isSpace) <|> newline <|> (comment *> (newline <|> finish)))

/-- The keys with their values on the lines up to a header. -/
def pairLines : Scanner (List Pair) :=
  many (pairLine <* emptyLines)

/-- A header, and the keys below it. -/
def part : Scanner Part := do
  let isElement ← (word ['[', '['] *> pure true) <|> (word ['['] *> pure false)
  let (path, name) ← key
  if isElement then word [']', ']'] else word [']']
  lineEnd
  emptyLines
  let pairs ← pairLines
  return ⟨isElement, path, name, pairs⟩

/-- A document. -/
def document : Scanner (Option Entries) := do
  let _ ← optional (word ['\uFEFF'])
  emptyLines
  let pairs ← pairLines
  let parts ← many part
  finish
  return assemble pairs parts

/-- The table that a text describes, unless the text is no such document. -/
def parse (text : String) : Option Entries := do
  let (entries, _) ← document text.toList
  entries

end Typeset.Toml
