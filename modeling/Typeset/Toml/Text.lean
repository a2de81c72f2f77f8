import Typeset.Text.Digit
import Typeset.Toml.Trivia

/-!
# Strings

Basic strings stand between double quotes and know escapes, literal strings stand between single
quotes and do not. Either may run over several lines between three quotes; then a line end right
after the opening quotes is dropped, and up to two quotes may stand before the closing ones.
-/

namespace Typeset.Toml

open Scanner

/-- A hexadecimal digit. -/
def hexDigit : Scanner Nat := do
  let c ← char fun c => (Text.hexDigit? c).isSome
  return (Text.hexDigit? c).getD 0

/-- The character with a code point that a given count of hexadecimal digits writes. -/
def codePoint (count : Nat) : Scanner Char := do
  let code := Text.ofDigits 16 (← times count hexDigit)
  require (decide code.isValidChar)
  return Char.ofNat code

/-- The character that an escape stands for, after its backslash. -/
def escaped : Scanner Char := do
  match ← char fun _ => true with
  | 'b' => return '\x08'
  | 'f' => return '\x0c'
  | 'n' => return '\n'
  | 'r' => return '\r'
  | 't' => return '\t'
  | '"' => return '"'
  | '\\' => return '\\'
  | 'u' => codePoint 4
  | 'U' => codePoint 8
  | _ => failure

/-- A stretch of a basic string: plain characters, or one escape. -/
def basicStretch : Scanner (List Char) :=
  someChars (fun c => isPrintable c && c != '"' && c != '\\') <|>
  (do word ['\\']; return [← escaped])

/-- A basic string on one line. -/
def basicString : Scanner String := do
  word ['"']
  let content ← many basicStretch
  word ['"']
  return String.ofList content.flatten

/-- A literal string on one line. -/
def literalString : Scanner String := do
  word ['\x27']
  let content ← chars fun c => isPrintable c && c != '\x27'
  word ['\x27']
  return String.ofList content

/-- A line end inside a string. -/
def lineBreak : Scanner (List Char) :=
  newline *> pure ['\n']

/-- A backslash that joins a line with the next text, over all blanks and line ends between. -/
def joinedLines : Scanner (List Char) := do
  word ['\\']
  spaces
  newline
  let _ ← many ((do let _ ← someChars isSpace) <|> newline)
  return []

/-- One quote that does not close a string over several lines: the next two characters are not
quotes too. -/
def innerQuote (quote : Char) : Scanner (List Char)
  | c :: text =>
    if c = quote ∧ text.take 2 ≠ [quote, quote] then some ([c], text) else none
  | [] => none

/-- The closing quotes of a string over several lines, with up to two more before them. -/
def closingQuotes (quote : Char) : Scanner (List Char) := do
  word [quote, quote, quote]
  let one ← optional (word [quote])
  let two ← optional (word [quote])
  return (if one.isSome then [quote] else []) ++ (if two.isSome then [quote] else [])

/-- A string over several lines, made of the given pieces. -/
def multilineString (quote : Char) (piece : Scanner (List Char)) : Scanner String := do
  word [quote, quote, quote]
  let _ ← optional newline
  let content ← many (piece <|> lineBreak <|> innerQuote quote)
  let last ← closingQuotes quote
  return String.ofList (content.flatten ++ last)

/-- A string of any form. -/
def string : Scanner String :=
  multilineString '"' (joinedLines <|> basicStretch) <|> basicString <|>
  multilineString '\x27' (someChars fun c => isPrintable c && c != '\x27') <|> literalString

end Typeset.Toml
