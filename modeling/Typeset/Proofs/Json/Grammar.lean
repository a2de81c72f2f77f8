import Mathlib.Data.List.Forall2
import Mathlib.Tactic.Lemma
import Typeset.Json.NumberLiteral

/-!
# The grammar of JSON

Which texts are JSON, and of which value. A value is kept as it is written, short of blanks: numbers
by their digits, strings by their characters and escapes, objects with all their members in order.
So every text that has the form of JSON is one of some value, whether or not its numbers are in
range and its surrogates are paired; what a string denotes is a relation of its own.
-/

namespace Typeset.Json

/-- The characters that may stand between tokens. -/
def AllBlank (text : List Char) : Prop :=
  ∀ c ∈ text, c ∈ [' ', '\t', '\n', '\r']

/-- The decimal digits with their values. -/
def decimalDigits : List (Char × Nat) :=
  [('0', 0), ('1', 1), ('2', 2), ('3', 3), ('4', 4), ('5', 5), ('6', 6), ('7', 7), ('8', 8),
    ('9', 9)]

/-- The hexadecimal digits with their values. -/
def hexDigits : List (Char × Nat) :=
  decimalDigits ++
    [('a', 10), ('b', 11), ('c', 12), ('d', 13), ('e', 14), ('f', 15),
      ('A', 10), ('B', 11), ('C', 12), ('D', 13), ('E', 14), ('F', 15)]

/-- The letters of the escapes of one letter, with the characters that they stand for. -/
def escapeLetters : List (Char × Char) :=
  [('"', '"'), ('\\', '\\'), ('/', '/'), ('b', '\x08'), ('f', '\x0c'), ('n', '\n'), ('r', '\r'),
    ('t', '\t')]

/-- A part of a string literal. -/
inductive StringPart where
  /-- A character as it is. -/
  | plain (c : Char)
  /-- A character by an escape of one letter. -/
  | escaped (c : Char)
  /-- A number by an escape of four hexadecimal digits. -/
  | unit (number : Nat)
  deriving DecidableEq, Repr

/-- How a number is written by four hexadecimal digits. -/
inductive WrittenQuad : Nat → List Char → Prop where
  | mk {a b c d : Char} {i j k l : Nat} :
    (a, i) ∈ hexDigits → (b, j) ∈ hexDigits → (c, k) ∈ hexDigits → (d, l) ∈ hexDigits →
    WrittenQuad (((i * 16 + j) * 16 + k) * 16 + l) [a, b, c, d]

/-- How a part of a string literal is written. -/
inductive StringPart.Written : StringPart → List Char → Prop where
  | plain {c : Char} :
    c ≠ '"' → c ≠ '\\' → 0x20 ≤ c.toNat → Written (.plain c) [c]
  | escaped {letter c : Char} :
    (letter, c) ∈ escapeLetters → Written (.escaped c) ['\\', letter]
  | unit {number : Nat} {digits : List Char} :
    WrittenQuad number digits → Written (.unit number) ('\\' :: 'u' :: digits)

/-- How the parts of a string are written behind its opening quote, with the closing quote. -/
inductive WrittenString : List StringPart → List Char → Prop where
  | close : WrittenString [] ['"']
  | part {part : StringPart} {parts : List StringPart} {text rest : List Char} :
    part.Written text → WrittenString parts rest → WrittenString (part :: parts) (text ++ rest)

/-- The characters that the parts of a string denote. Numbers that are no characters by themselves
denote one in pairs only: a leading and a trailing surrogate. -/
inductive Denotes : List StringPart → List Char → Prop where
  | nil : Denotes [] []
  | plain {c : Char} {parts : List StringPart} {chars : List Char} :
    Denotes parts chars → Denotes (.plain c :: parts) (c :: chars)
  | escaped {c : Char} {parts : List StringPart} {chars : List Char} :
    Denotes parts chars → Denotes (.escaped c :: parts) (c :: chars)
  | unit {number : Nat} {c : Char} {parts : List StringPart} {chars : List Char} :
    c.toNat = number → Denotes parts chars → Denotes (.unit number :: parts) (c :: chars)
  | pair {leading trailing : Nat} {c : Char} {parts : List StringPart} {chars : List Char} :
    0xD800 ≤ leading ∧ leading ≤ 0xDBFF → 0xDC00 ≤ trailing ∧ trailing ≤ 0xDFFF →
    c.toNat = 0x10000 + (leading - 0xD800) * 0x400 + (trailing - 0xDC00) →
    Denotes parts chars → Denotes (.unit leading :: .unit trailing :: parts) (c :: chars)

/-- Digits are written one after the other. -/
def WrittenDigits (digits : List Nat) (text : List Char) : Prop :=
  List.Forall₂ (fun digit c => (c, digit) ∈ decimalDigits) digits text

/-- How the digits in front of the point are written: there is one, or the first one is not zero. -/
structure WrittenWhole (digits : List Nat) (text : List Char) : Prop where
  written : WrittenDigits digits text
  canonical : digits.length = 1 ∨ ∃ first later, digits = first :: later ∧ first ≠ 0

/-- How the digits behind the point are written, with the point. -/
inductive WrittenFraction : List Nat → List Char → Prop where
  | none : WrittenFraction [] []
  | some {digits : List Nat} {text : List Char} :
    digits ≠ [] → WrittenDigits digits text → WrittenFraction digits ('.' :: text)

/-- How an exponent is written, with its letter and its sign. -/
inductive WrittenExponent : Option (Bool × List Nat) → List Char → Prop where
  | none : WrittenExponent none []
  | some {letter : Char} {negative : Bool} {sign text : List Char} {digits : List Nat} :
    letter ∈ ['e', 'E'] → (negative, sign) ∈ [(false, []), (false, ['+']), (true, ['-'])] →
    digits ≠ [] → WrittenDigits digits text →
    WrittenExponent (some (negative, digits)) (letter :: (sign ++ text))

/-- How a number is written behind its sign. -/
inductive Numeral.WrittenUnsigned : Numeral → List Char → Prop where
  | mk {numeral : Numeral} {whole fraction exponent : List Char} :
    WrittenWhole numeral.whole whole → WrittenFraction numeral.fraction fraction →
    WrittenExponent numeral.exponent exponent →
    WrittenUnsigned numeral (whole ++ (fraction ++ exponent))

/-- A value as it is written, short of blanks. -/
inductive Value where
  | null
  | boolean (value : Bool)
  | number (numeral : Numeral)
  | text (parts : List StringPart)
  | list (values : List Value)
  | object (members : List (List StringPart × Value))

mutual

/-- How a value is written. -/
inductive Written : Value → List Char → Prop where
  | null : Written .null ['n', 'u', 'l', 'l']
  | yes : Written (.boolean true) ['t', 'r', 'u', 'e']
  | no : Written (.boolean false) ['f', 'a', 'l', 's', 'e']
  | positive {numeral : Numeral} {text : List Char} :
    numeral.negative = false → numeral.WrittenUnsigned text → Written (.number numeral) text
  | negative {numeral : Numeral} {text : List Char} :
    numeral.negative = true → numeral.WrittenUnsigned text → Written (.number numeral) ('-' :: text)
  | text {parts : List StringPart} {text : List Char} :
    WrittenString parts text → Written (.text parts) ('"' :: text)
  | list {values : List Value} {text : List Char} :
    WrittenList true values text → Written (.list values) ('[' :: text)
  | object {members : List (List StringPart × Value)} {text : List Char} :
    WrittenMembers true members text → Written (.object members) ('\x7b' :: text)

/-- How the values of a list are written up to its closing bracket: behind its opening bracket, or
behind a value, with a comma in front of each further one. -/
inductive WrittenList : Bool → List Value → List Char → Prop where
  | close {first : Bool} {blank : List Char} :
    AllBlank blank → WrittenList first [] (blank ++ [']'])
  | first {blank text rest : List Char} {value : Value} {values : List Value} :
    AllBlank blank → Written value text → WrittenList false values rest →
    WrittenList true (value :: values) (blank ++ (text ++ rest))
  | next {blank blank' text rest : List Char} {value : Value} {values : List Value} :
    AllBlank blank → AllBlank blank' → Written value text → WrittenList false values rest →
    WrittenList false (value :: values) (blank ++ ',' :: (blank' ++ (text ++ rest)))

/-- How the members of an object are written up to its closing brace: behind its opening brace, or
behind a member, with a comma in front of each further one. -/
inductive WrittenMembers : Bool → List (List StringPart × Value) → List Char → Prop where
  | close {first : Bool} {blank : List Char} :
    AllBlank blank → WrittenMembers first [] (blank ++ ['\x7d'])
  | first {blank key colon blank' text rest : List Char} {parts : List StringPart} {value : Value}
      {members : List (List StringPart × Value)} :
    AllBlank blank → WrittenString parts key → AllBlank colon → AllBlank blank' →
    Written value text → WrittenMembers false members rest →
    WrittenMembers true ((parts, value) :: members)
      (blank ++ '"' :: (key ++ (colon ++ ':' :: (blank' ++ (text ++ rest)))))
  | next {blank blank' key colon blank'' text rest : List Char} {parts : List StringPart}
      {value : Value} {members : List (List StringPart × Value)} :
    AllBlank blank → AllBlank blank' → WrittenString parts key → AllBlank colon → AllBlank blank'' →
    Written value text → WrittenMembers false members rest →
    WrittenMembers false ((parts, value) :: members)
      (blank ++ ',' :: (blank' ++ '"' :: (key ++ (colon ++ ':' :: (blank'' ++ (text ++ rest))))))

end

/-- A text is one value with blanks around it at most. -/
def IsJson (text : List Char) (value : Value) : Prop :=
  ∃ front written back, text = front ++ (written ++ back) ∧ AllBlank front ∧ AllBlank back ∧
    Written value written

end Typeset.Json
