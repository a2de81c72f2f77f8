import Typeset.Json.NumberLiteral
import Typeset.Json.StringLiteral

/-!
# Skipping values

A value nobody asks for is checked for its form only: strings may hold half a surrogate pair,
numbers may be of any size, and lists and objects may nest to any depth. The open lists and objects
around the place that is being read are kept as a list of frames, innermost first.
-/

namespace Typeset.Json

/-- A list or object that has been opened. -/
inductive Frame where
  | list
  | object
  deriving DecidableEq, Repr

/-- What is left of a string, after its closing quote. -/
def skipStringFrom (whole : List Char) (text : List Char) (within : text.length ≤ whole.length) :
    Except Cause (Parsed Unit whole) :=
  match text with
  | [] => .error .endInString
  | c :: rest =>
    if c = '"' then .ok ⟨(), rest, within⟩
    else if c = '\\' then
      match rest with
      | [] => .error .endInString
      | c' :: rest' =>
        if (simpleEscape? c').isSome then
          skipStringFrom whole rest' (le_of_cons_le (le_of_cons_le within))
        else if c' = 'u' then
          match readQuad rest' with
          | .error cause => .error cause
          | .ok ⟨_, rest'', shorter⟩ =>
            skipStringFrom whole rest''
              (le_of_shorter_of_le shorter (le_of_cons_le (le_of_cons_le within)))
        else .error .invalidEscape
    else if isControl c then .error .controlCharacter
    else skipStringFrom whole rest (le_of_cons_le within)
termination_by text.length
decreasing_by all_goals simp only [List.length_cons]; omega

/-- What is left of a string, up to its closing quote. -/
def skipString : Reader Unit := fun text =>
  skipStringFrom text text (length_le_self text)

/-- A number literal of any size, after its sign. A number that breaks off is an invalid one. -/
def skipNumber : Reader Unit := fun text =>
  match readNumeral false text with
  | .error _ => .error .invalidNumber
  | .ok ⟨_, rest, shorter⟩ => .ok ⟨(), rest, shorter⟩

/-- The colon between a key and its value. -/
def readColon : Reader Unit := fun text =>
  match peek? text with
  | none => .error .endInObject
  | some ⟨c, rest, shorter⟩ =>
    if c = ':' then .ok ⟨(), rest, shorter⟩ else .error .expectedColon

/-- What is left of a key, and the colon after it. -/
def skipKey : Reader Unit := fun text =>
  match skipString text with
  | .error cause => .error cause
  | .ok ⟨(), rest, shorter⟩ =>
    (readColon rest).map (·.widen (le_of_shorter shorter))

/-- How a value begins: it may be over at once, or open a frame whose first value comes next. -/
inductive Beginning where
  | complete
  | opens (frame : Frame)
  deriving DecidableEq, Repr

/-- The beginning of a list, after its bracket: its end, or the place of its first value. -/
def beginList (text : List Char) :
    Except Cause (Beginning × { rest : List Char // rest.length ≤ text.length }) :=
  match peek? text with
  | none => .error .endInList
  | some ⟨c, rest, shorter⟩ =>
    if c = ']' then .ok (.complete, ⟨rest, le_of_shorter shorter⟩)
    else .ok (.opens .list, ⟨text, length_le_self text⟩)

/-- The beginning of an object, after its brace: its end, or the place of its first value. -/
def beginObject : Reader Beginning := fun text =>
  match peek? text with
  | none => .error .endInObject
  | some ⟨c, rest, shorter⟩ =>
    if c = '\x7d' then .ok ⟨.complete, rest, shorter⟩
    else if c = '"' then
      (skipKey rest).map fun read => (read.map fun _ => .opens .object).widen (le_of_shorter shorter)
    else .error .keyMustBeString

/-- The beginning of a value: all of it, or its opening bracket, with the first key where it is an
object. -/
def beginValue : Reader Beginning := fun text =>
  match peek? text with
  | none => .error .endInValue
  | some ⟨c, rest, shorter⟩ =>
    if c = 'n' then (keyword ['u', 'l', 'l'] rest).map (word shorter)
    else if c = 't' then (keyword ['r', 'u', 'e'] rest).map (word shorter)
    else if c = 'f' then (keyword ['a', 'l', 's', 'e'] rest).map (word shorter)
    else if c = '"' then (skipString rest).map (complete (le_of_shorter shorter))
    else if c = '-' then (skipNumber rest).map (complete (le_of_shorter shorter))
    else if Text.isDigit c then
      (skipNumber (c :: rest)).map fun read => (read.map fun _ => .complete).widen shorter
    else if c = '[' then
      (beginList rest).map fun begun => ⟨begun.1, begun.2.1, Nat.lt_of_le_of_lt begun.2.2 shorter⟩
    else if c = '\x7b' then (beginObject rest).map (·.widen (le_of_shorter shorter))
    else .error .expectedValue
where
  /-- A value that ends with a word. -/
  word {text rest : List Char} (shorter : rest.length < text.length)
      (after : { rest' : List Char // rest'.length ≤ rest.length }) : Parsed Beginning text :=
    ⟨.complete, after.1, shorter_of_after after shorter⟩
  /-- A value that is over. -/
  complete {text rest : List Char} (within : rest.length ≤ text.length) (read : Parsed Unit rest) :
      Parsed Beginning text :=
    (read.map fun _ => .complete).widen within

/-- What follows a value inside a frame: `true` for a comma and the key after it, `false` for the
close. -/
def afterValue (frame : Frame) : Reader Bool := fun text =>
  match frame, peek? text with
  | .list, none => .error .endInList
  | .object, none => .error .endInObject
  | .list, some ⟨c, rest, shorter⟩ =>
    if c = ',' then .ok ⟨true, rest, shorter⟩
    else if c = ']' then .ok ⟨false, rest, shorter⟩
    else .error .expectedCommaOrBracket
  | .object, some ⟨c, rest, shorter⟩ =>
    if c = ',' then
      match peek? rest with
      | none => .error .endInObject
      | some ⟨c', rest', shorter'⟩ =>
        if c' = '"' then
          (skipKey rest').map fun read =>
            (read.map fun _ => true).widen (le_of_shorter (shorter_trans shorter' shorter))
        else .error .keyMustBeString
    else if c = '\x7d' then .ok ⟨false, rest, shorter⟩
    else .error .expectedCommaOrBrace

/-- What is left of the frames. `atValue` tells whether a value comes next or has just been read. -/
def skipFrames (whole : List Char) (atValue : Bool) (frame : Frame) (outer : List Frame)
    (text : List Char) (within : text.length < whole.length) : Except Cause (Parsed Unit whole) :=
  match atValue with
  | true =>
    match beginValue text with
    | .error cause => .error cause
    | .ok ⟨.complete, rest, shorter⟩ =>
      skipFrames whole false frame outer rest (shorter_trans shorter within)
    | .ok ⟨.opens inner, rest, shorter⟩ =>
      skipFrames whole true inner (frame :: outer) rest (shorter_trans shorter within)
  | false =>
    match afterValue frame text with
    | .error cause => .error cause
    | .ok ⟨true, rest, shorter⟩ =>
      skipFrames whole true frame outer rest (shorter_trans shorter within)
    | .ok ⟨false, rest, shorter⟩ =>
      match outer with
      | [] => .ok ⟨(), rest, shorter_trans shorter within⟩
      | next :: outer => skipFrames whole false next outer rest (shorter_trans shorter within)
termination_by text.length

/-- A value of any form and depth. -/
def skipValue : Reader Unit := fun text =>
  match beginValue text with
  | .error cause => .error cause
  | .ok ⟨.complete, rest, shorter⟩ => .ok ⟨(), rest, shorter⟩
  | .ok ⟨.opens frame, rest, shorter⟩ => skipFrames text true frame [] rest shorter

end Typeset.Json
