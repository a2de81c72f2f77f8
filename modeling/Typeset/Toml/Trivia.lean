import Typeset.Toml.Scanner

/-!
# Blanks, comments and line ends
-/

namespace Typeset.Toml

open Scanner

/-- Whether a character is a blank inside a line. -/
def isSpace (c : Char) : Bool :=
  c == ' ' || c == '\t'

/-- Whether a character may stand in a line of text: a tab, or any character but a control. -/
def isPrintable (c : Char) : Bool :=
  c == '\t' || (0x20 ≤ c.toNat && c.toNat != 0x7F)

/-- Blanks inside a line. -/
def spaces : Scanner Unit := do
  let _ ← chars isSpace

/-- A line end. -/
def newline : Scanner Unit :=
  word ['\n'] <|> word ['\r', '\n']

/-- A comment, without its line end. -/
def comment : Scanner Unit := do
  word ['#']
  let _ ← chars isPrintable

/-- The end of a line or of the text, with blanks and a comment before it. -/
def lineEnd : Scanner Unit := do
  spaces
  let _ ← optional comment
  newline <|> finish

/-- Blanks, line ends and comments. -/
def filler : Scanner Unit := do
  let _ ← many ((do let _ ← someChars isSpace) <|> (do let _ ← optional comment; newline))

end Typeset.Toml
