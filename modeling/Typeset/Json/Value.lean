import Typeset.Json.Skip

/-!
# Reading values of a known form

Readers for the values that are asked for: strings, section levels, lists, dictionaries and records.
A value of another type is refused as soon as its type is clear. A record may be written as an
object, each field once and in any order, or as a list of its fields in their order, which may stop
early.
-/

namespace Typeset.Json

/-- The cause when a value that begins with the given character is of the wrong type. -/
def mismatch (wanted : Wanted) (c : Char) (rest : List Char) : Cause :=
  if c = 'n' then word ['u', 'l', 'l'] .null
  else if c = 't' then word ['r', 'u', 'e'] (.boolean true)
  else if c = 'f' then word ['a', 'l', 's', 'e'] (.boolean false)
  else if c = '-' then number true rest
  else if Text.isDigit c then number false (c :: rest)
  else if c = '"' then
    match readString rest with
    | .error cause => cause
    | .ok read => .invalidType (.text read.value) wanted
  else if c = '[' then .invalidType .sequence wanted
  else if c = '\x7b' then .invalidType .map wanted
  else .expectedValue
where
  /-- The cause at a word. -/
  word (letters : List Char) (found : Found) : Cause :=
    match keyword letters rest with
    | .error cause => cause
    | .ok _ => .invalidType found wanted
  /-- The cause at a number. -/
  number (negative : Bool) (text : List Char) : Cause :=
    match readNumber negative text with
    | .error cause => cause
    | .ok ⟨.integer value, _, _⟩ => .invalidType (.integer value) wanted
    | .ok ⟨.floating value, _, _⟩ => .invalidType (.floating value) wanted

/-- A string. -/
def text : Reader String := fun text =>
  match peek? text with
  | none => .error .endInValue
  | some ⟨c, rest, shorter⟩ =>
    if c = '"' then (readString rest).map (·.widen (le_of_shorter shorter))
    else .error (mismatch .text c rest)

/-- What `reader` reads, or nothing where `null` stands. -/
def optional {α : Type} (reader : Reader α) : Reader (Option α) := fun text =>
  match peek? text with
  | none => .error .endInValue
  | some ⟨c, rest, shorter⟩ =>
    if c = 'n' then
      (keyword ['u', 'l', 'l'] rest).map fun after =>
        ⟨none, after.1, shorter_of_after after shorter⟩
    else (reader text).map (·.map some)

/-- The largest section level that can be written. -/
def largestLevel : Nat :=
  0xFFFFFFFF

/-- The section level that a number stands for. -/
def levelOf : Number → Except Cause Nat
  | .integer value =>
    if 0 ≤ value ∧ value ≤ largestLevel then .ok value.toNat else .error (.invalidLevel value)
  | .floating value => .error (.invalidType (.floating value) .level)

/-- A section level. -/
def level : Reader Nat := fun text =>
  match peek? text with
  | none => .error .endInValue
  | some ⟨c, rest, shorter⟩ =>
    if c = '-' then
      match readNumber true rest with
      | .error cause => .error cause
      | .ok read =>
        (levelOf read.value).map (⟨·, read.rest, Nat.lt_trans read.shorter shorter⟩)
    else if Text.isDigit c then
      match readNumber false (c :: rest) with
      | .error cause => .error cause
      | .ok read =>
        (levelOf read.value).map (⟨·, read.rest, Nat.lt_of_lt_of_le read.shorter shorter⟩)
    else .error (mismatch .level c rest)

/-- Where a list goes on: at its end, or at its next element. -/
inductive Advance (text : List Char) where
  | closed (rest : List Char) (shorter : rest.length < text.length)
  | element (rest : List Char) (within : rest.length ≤ text.length)

/-- The way to the next element of a list, over the comma unless it is the first. -/
def advance (first : Bool) (text : List Char) : Except Cause (Advance text) :=
  match peek? text with
  | none => .error .endInList
  | some ⟨c, rest, shorter⟩ =>
    if c = ']' then .ok (.closed rest shorter)
    else if first then .ok (.element text (length_le_self text))
    else if c = ',' then
      match peek? rest with
      | none => .error .endInValue
      | some ⟨c', _, _⟩ =>
        if c' = ']' then .error .trailingComma else .ok (.element rest (le_of_shorter shorter))
    else .error .expectedCommaOrBracket

/-- The elements of a list up to its closing bracket. -/
def elements {α : Type} (element : Reader α) (first : Bool) (text : List Char) :
    Except Cause (Parsed (List α) text) :=
  match advance first text with
  | .error cause => .error cause
  | .ok (.closed rest shorter) => .ok ⟨[], rest, shorter⟩
  | .ok (.element start within) =>
    match element start with
    | .error cause => .error cause
    | .ok ⟨value, rest, shorter⟩ =>
      match elements element false rest with
      | .error cause => .error cause
      | .ok ⟨values, rest', shorter'⟩ => .ok ⟨value :: values, rest', by omega⟩
termination_by text.length

/-- A list, read after its bracket by `body`. -/
def sequence {α : Type} (body : Reader α) : Reader α := fun text =>
  match peek? text with
  | none => .error .endInValue
  | some ⟨c, rest, shorter⟩ =>
    if c = '[' then (body rest).map (·.widen (le_of_shorter shorter))
    else .error (mismatch .sequence c rest)

/-- An object, read after its brace by `body`. -/
def map {α : Type} (body : Reader α) : Reader α := fun text =>
  match peek? text with
  | none => .error .endInValue
  | some ⟨c, rest, shorter⟩ =>
    if c = '\x7b' then (body rest).map (·.widen (le_of_shorter shorter))
    else .error (mismatch .map c rest)

/-- Where an object goes on: at its end, or inside its next key. -/
inductive KeyAdvance (text : List Char) where
  | closed (rest : List Char) (shorter : rest.length < text.length)
  | key (rest : List Char) (shorter : rest.length < text.length)

/-- The way into the next key of an object, over the comma unless it is the first. -/
def advanceKey (first : Bool) (text : List Char) : Except Cause (KeyAdvance text) :=
  match peek? text with
  | none => .error .endInObject
  | some ⟨c, rest, shorter⟩ =>
    if c = '\x7d' then .ok (.closed rest shorter)
    else if first then
      if c = '"' then .ok (.key rest shorter) else .error .keyMustBeString
    else if c = ',' then
      match peek? rest with
      | none => .error .endInValue
      | some ⟨c', rest', shorter'⟩ =>
        if c' = '"' then .ok (.key rest' (shorter_trans shorter' shorter))
        else if c' = '\x7d' then .error .trailingComma
        else .error .keyMustBeString
    else .error .expectedCommaOrBrace

/-- The members of an object up to its closing brace, taken into a state one after the other.
`member` says what becomes of a key: it is refused, or the value under it is read into the state. -/
def members {σ : Type} (member : String → σ → Except Cause (Reader σ)) (first : Bool) (state : σ)
    (text : List Char) : Except Cause (Parsed σ text) :=
  match advanceKey first text with
  | .error cause => .error cause
  | .ok (.closed rest shorter) => .ok ⟨state, rest, shorter⟩
  | .ok (.key start shorter₀) =>
    match readString start with
    | .error cause => .error cause
    | .ok ⟨key, rest₁, shorter₁⟩ =>
      match member key state with
      | .error cause => .error cause
      | .ok value =>
        match readColon rest₁ with
        | .error cause => .error cause
        | .ok ⟨(), rest₂, shorter₂⟩ =>
          match value rest₂ with
          | .error cause => .error cause
          | .ok ⟨state', rest₃, shorter₃⟩ =>
            (members member false state' rest₃).map (·.widen (by omega))
termination_by text.length

/-- The end of a list whose elements have all been read. -/
def closeList : Reader Unit := fun text =>
  match peek? text with
  | none => .error .endInList
  | some ⟨c, rest, shorter⟩ =>
    if c = ']' then .ok ⟨(), rest, shorter⟩
    else if c = ',' then
      match peek? rest with
      | some ⟨']', _, _⟩ => .error .trailingComma
      | _ => .error .trailingCharacters
    else .error .trailingCharacters

/-- The form of a record: its fields in order, the name each has as a key, and how its value is
read. -/
structure RecordForm (φ α : Type) where
  order : List φ
  key : φ → String
  read : φ → α → Reader α

namespace RecordForm

variable {φ α : Type}

/-- The field that a key names. -/
def named? (form : RecordForm φ α) (key : String) : Option φ :=
  form.order.find? (form.key · == key)

/-- What becomes of a key of an object: a field is read unless it has been read before, and any
other value is skipped. The state holds the record and the fields read so far. -/
def member [DecidableEq φ] (form : RecordForm φ α) (key : String) (state : α × List φ) :
    Except Cause (Reader (α × List φ)) :=
  match form.named? key with
  | none => .ok (skipValue.map fun _ => state)
  | some field =>
    if field ∈ state.2 then .error (.duplicateField (form.key field))
    else .ok ((form.read field state.1).map (·, field :: state.2))

/-- A record written as an object, after its brace. -/
def object [DecidableEq φ] (form : RecordForm φ α) (blank : α) : Reader α := fun text =>
  (members form.member true (blank, []) text).map (·.map (·.1))

/-- The fields of a record written as a list, from the given ones on. -/
def fieldsFrom (form : RecordForm φ α) (fields : List φ) (first : Bool) (value : α) : Reader α :=
  fun text =>
  match fields with
  | [] => (closeList text).map (·.map fun _ => value)
  | field :: fields =>
    match advance first text with
    | .error cause => .error cause
    | .ok (.closed rest shorter) => .ok ⟨value, rest, shorter⟩
    | .ok (.element start within) =>
      match form.read field value start with
      | .error cause => .error cause
      | .ok ⟨value', rest, shorter⟩ =>
        (form.fieldsFrom fields false value' rest).map (·.widen (by omega))

/-- A record written as a list, after its bracket. -/
def list (form : RecordForm φ α) (blank : α) : Reader α :=
  form.fieldsFrom form.order true blank

end RecordForm

/-- A record: `asList` or `asObject`, read after the bracket or the brace. -/
def record {α : Type} (name : String) (asList asObject : Reader α) : Reader α := fun text =>
  match peek? text with
  | none => .error .endInValue
  | some ⟨c, rest, shorter⟩ =>
    if c = '[' then (asList rest).map (·.widen (le_of_shorter shorter))
    else if c = '\x7b' then (asObject rest).map (·.widen (le_of_shorter shorter))
    else .error (mismatch (.record name) c rest)

/-- One value and nothing but blanks after it. -/
def readAll {α : Type} (reader : Reader α) (text : List Char) : Except Cause α :=
  match reader text with
  | .error cause => .error cause
  | .ok read =>
    match dropBlanks read.rest with
    | [] => .ok read.value
    | _ :: _ => .error .trailingCharacters

end Typeset.Json
