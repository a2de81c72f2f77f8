import Typeset.Decimal.Layout
import Typeset.Text.Quoted

/-!
# Causes of refusal

Why a text is not the JSON that was wanted. The cause met first, reading from left to right, is the
one given. The words for a cause do not say where in the text it was met: the line and the column
that stand behind them in the program's messages are not kept track of.
-/

namespace Typeset.Json

/-- What stood where something else was wanted. -/
inductive Found where
  | null
  | boolean (value : Bool)
  | integer (value : Int)
  | floating (value : Float)
  | text (value : String)
  | sequence
  | map
  deriving Repr

/-- What a reader wanted. -/
inductive Wanted where
  | text
  | level
  | map
  | sequence
  | record (name : String)
  deriving DecidableEq, Repr

/-- Why a text is refused. -/
inductive Cause where
  /-- The text ends where a value has to begin or go on. -/
  | endInValue
  | endInList
  | endInObject
  | endInString
  | expectedValue
  | expectedIdent
  | expectedColon
  | expectedCommaOrBrace
  | expectedCommaOrBracket
  | keyMustBeString
  | trailingComma
  | trailingCharacters
  | invalidNumber
  | numberOutOfRange
  | invalidEscape
  | controlCharacter
  /-- A leading surrogate without an escape after it. -/
  | endOfHexEscape
  /-- A surrogate without its other half. -/
  | loneSurrogate
  | recursionLimit
  | duplicateField (name : String)
  | invalidType (found : Found) (wanted : Wanted)
  /-- An integer that is no section level. -/
  | invalidLevel (value : Int)
  deriving Repr

/-- How floating-point numbers are written in messages. -/
def floatLayout : Decimal.Layout where
  lowest := -5
  highest := 15

/-- The words for what was found. -/
def Found.message : Found → String
  | null => "null"
  | boolean value => "boolean `" ++ (if value then "true" else "false") ++ "`"
  | integer value => "integer `" ++ toString value ++ "`"
  | floating value => "floating point `" ++ floatLayout.writeFloat value ++ "`"
  | text value => "string " ++ Text.quoted value
  | sequence => "sequence"
  | map => "map"

/-- The words for what was wanted. -/
def Wanted.message : Wanted → String
  | text => "a string"
  | level => "u32"
  | map => "a map"
  | sequence => "a sequence"
  | record name => "struct " ++ name

/-- The words for a cause, without the line and the column. -/
def Cause.message : Cause → String
  | endInValue => "EOF while parsing a value"
  | endInList => "EOF while parsing a list"
  | endInObject => "EOF while parsing an object"
  | endInString => "EOF while parsing a string"
  | expectedValue => "expected value"
  | expectedIdent => "expected ident"
  | expectedColon => "expected `:`"
  | expectedCommaOrBrace => "expected `,` or `\x7d`"
  | expectedCommaOrBracket => "expected `,` or `]`"
  | keyMustBeString => "key must be a string"
  | trailingComma => "trailing comma"
  | trailingCharacters => "trailing characters"
  | invalidNumber => "invalid number"
  | numberOutOfRange => "number out of range"
  | invalidEscape => "invalid escape"
  | controlCharacter => "control character (\\u0000-\\u001F) found while parsing a string"
  | endOfHexEscape => "unexpected end of hex escape"
  | loneSurrogate => "lone leading surrogate in hex escape"
  | recursionLimit => "recursion limit exceeded"
  | duplicateField name => "duplicate field `" ++ name ++ "`"
  | invalidType found wanted =>
    "invalid type: " ++ found.message ++ ", expected " ++ wanted.message
  | invalidLevel value =>
    "invalid value: " ++ (Found.integer value).message ++ ", expected " ++ Wanted.level.message

/-- Whether the text ended too early. -/
def Cause.isEnd : Cause → Bool
  | endInValue | endInList | endInObject | endInString => true
  | _ => false

end Typeset.Json
