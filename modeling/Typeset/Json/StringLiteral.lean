import Typeset.Json.Reader
import Typeset.Text.Digit

/-!
# String literals

A string stands between double quotes. It may hold any character but controls, the quote and the
backslash; escapes stand for the rest, and a character beyond the basic plane may be written as two
surrogate escapes. The readers here start after the opening quote.
-/

namespace Typeset.Json

/-- The number that four hexadecimal digits write. -/
def quadValue? (a b c d : Char) : Option Nat :=
  match Text.hexDigit? a, Text.hexDigit? b, Text.hexDigit? c, Text.hexDigit? d with
  | some a, some b, some c, some d => some (((a * 16 + b) * 16 + c) * 16 + d)
  | _, _, _, _ => none

/-- Whether a text takes fewer than four bytes. -/
def underFourBytes (text : List Char) : Bool :=
  (String.ofList (text.take 4)).utf8ByteSize < 4

/-- Four hexadecimal digits. -/
def readQuad : Reader Nat
  | a :: b :: c :: d :: rest =>
    match quadValue? a b c d with
    | some value => .ok ⟨value, rest, by simp only [List.length_cons]; omega⟩
    | none => .error .invalidEscape
  | text => if underFourBytes text then .error .endInString else .error .invalidEscape

/-- Whether a number is the first half of a surrogate pair. -/
def isLeading (unit : Nat) : Bool :=
  0xD800 ≤ unit && unit ≤ 0xDBFF

/-- Whether a number is the second half of a surrogate pair. -/
def isTrailing (unit : Nat) : Bool :=
  0xDC00 ≤ unit && unit ≤ 0xDFFF

/-- The character that a surrogate pair stands for. -/
def pairChar (leading trailing : Nat) : Char :=
  Char.ofNat ((leading - 0xD800) * 0x400 + (trailing - 0xDC00) + 0x10000)

/-- The second half of a surrogate pair, with its backslash and letter. -/
def readTrailing (leading : Nat) : Reader Char
  | [] => .error .endInString
  | '\\' :: [] => .error .endInString
  | '\\' :: 'u' :: text =>
    match readQuad text with
    | .error cause => .error cause
    | .ok ⟨trailing, rest, shorter⟩ =>
      if isTrailing trailing then
        .ok ⟨pairChar leading trailing, rest, by simp only [List.length_cons]; omega⟩
      else .error .loneSurrogate
  | _ => .error .endOfHexEscape

/-- The character of a numeric escape, after its letter. -/
def readUnicode : Reader Char := fun text =>
  match readQuad text with
  | .error cause => .error cause
  | .ok ⟨unit, rest, shorter⟩ =>
    if isTrailing unit then .error .loneSurrogate
    else if isLeading unit then
      match readTrailing unit rest with
      | .error cause => .error cause
      | .ok ⟨c, rest', shorter'⟩ => .ok ⟨c, rest', shorter_trans shorter' shorter⟩
    else .ok ⟨Char.ofNat unit, rest, shorter⟩

/-- The character that a one-letter escape stands for. -/
def simpleEscape? : Char → Option Char
  | '"' => some '"'
  | '\\' => some '\\'
  | '/' => some '/'
  | 'b' => some '\x08'
  | 'f' => some '\x0c'
  | 'n' => some '\n'
  | 'r' => some '\r'
  | 't' => some '\t'
  | _ => none

/-- The character of an escape, after its backslash. -/
def readEscape : Reader Char
  | [] => .error .endInString
  | c :: text =>
    match simpleEscape? c with
    | some escaped => .ok ⟨escaped, text, Nat.lt_succ_self _⟩
    | none =>
      if c = 'u' then (readUnicode text).map (·.widen (length_le_cons c text)) else .error .invalidEscape

/-- Whether a character may not stand in a string as it is. -/
def isControl (c : Char) : Bool :=
  c.toNat < 0x20

/-- A string up to its closing quote, after the characters already read, last one first. -/
def readStringFrom (whole : List Char) (done : List Char) (text : List Char)
    (within : text.length ≤ whole.length) : Except Cause (Parsed (List Char) whole) :=
  match text with
  | [] => .error .endInString
  | c :: rest =>
    if c = '"' then .ok ⟨done.reverse, rest, within⟩
    else if c = '\\' then
      match readEscape rest with
      | .error cause => .error cause
      | .ok ⟨escaped, rest', shorter⟩ =>
        readStringFrom whole (escaped :: done) rest'
          (le_of_shorter_of_le shorter (le_of_cons_le within))
    else if isControl c then .error .controlCharacter
    else readStringFrom whole (c :: done) rest (le_of_cons_le within)
termination_by text.length

/-- A string up to its closing quote. -/
def readString : Reader String := fun text =>
  (readStringFrom text [] text (length_le_self text)).map (·.map String.ofList)

end Typeset.Json
