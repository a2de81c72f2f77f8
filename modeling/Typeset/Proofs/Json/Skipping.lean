import Typeset.Proofs.Json.Placement
import Typeset.Proofs.Json.Strings

/-!
# Skipped values

A value that nobody asks for is skipped with a stack of the lists and objects that are open. The run
over its parts is set against the form of a value: what is left of the text after a part has to
close all that is open.
-/

namespace Typeset.Json

variable {text rest : List Char} {c : Char}

section Parts

/-- A colon is read behind blanks. -/
lemma run_readColon : readColon.run text = .ok ((), rest) ↔ dropBlanks text = ':' :: rest := by
  obtain ⟨peeked, found⟩ | ⟨c, start, shorter, peeked, found⟩ := peek?_cases text
  · simp [Reader.run, readColon, peeked, found, Except.map]
  · by_cases first : c = ':' <;> simp [Reader.run, readColon, peeked, found, first, Except.map]

/-- A key is passed over with its colon. -/
lemma run_skipKey :
    skipKey.run text = .ok ((), rest) ↔ ∃ parts key colon,
      text = key ++ (colon ++ ':' :: rest) ∧ WrittenString parts key ∧ AllBlank colon := by
  refine ⟨fun read => ?_, fun ⟨parts, key, colon, cut, written, blanks⟩ => ?_⟩
  · obtain ⟨_, read⟩ := Reader.run_eq_ok_iff.1 read
    unfold skipKey at read
    split at read
    · cases read
    · rename_i found
      obtain ⟨parsed, found', eq⟩ := map_eq_ok_iff.1 read
      cases eq
      obtain ⟨parts, key, rfl, written, -⟩ :=
        reads_skipString.sound (Reader.run_eq_ok_iff.2 ⟨_, found⟩)
      have dropped := run_readColon.1 (Reader.run_eq_ok_iff.2 ⟨_, found'⟩)
      obtain ⟨colon, blanks, cut⟩ := exists_blank_cons dropped
      exact ⟨parts, key, colon, congrArg (key ++ ·) cut, written, blanks⟩
  · have ends : Ends (colon ++ ':' :: rest) := blanks.ends_append (ends_cons (by decide))
    have read : skipString.run (key ++ (colon ++ ':' :: rest)) = .ok ((), colon ++ ':' :: rest) :=
      reads_skipString.complete written trivial ends
    obtain ⟨_, found⟩ := Reader.run_eq_ok_iff.1 read
    have dropped := dropBlanks_append_cons blanks (c := ':') (by decide) rest
    obtain ⟨_, found'⟩ := Reader.run_eq_ok_iff.1 (run_readColon.2 dropped)
    rw [cut]
    simp only [Reader.run, skipKey, found, found', Except.map, Parsed.widen]

/-- Numbers are passed over as they are written. -/
theorem reads_skipNumber :
    Reads Numeral.WrittenUnsigned (fun _ _ => True) skipNumber where
  sound {_ text rest} read := by
    obtain ⟨_, read⟩ := Reader.run_eq_ok_iff.1 read
    unfold skipNumber at read
    split at read
    · cases read
    · rename_i found
      cases read
      obtain ⟨numeral, literal, cut, ⟨-, written⟩, -⟩ :=
        (reads_readNumeral false).sound (Reader.run_eq_ok_iff.2 ⟨_, found⟩)
      exact ⟨numeral, literal, cut, written, trivial⟩
  complete {_ numeral literal rest} written _ ends := by
    have read := (reads_readNumeral false).complete ⟨rfl, written.sign false⟩ rfl ends
    obtain ⟨_, found⟩ := Reader.run_eq_ok_iff.1 read
    simp only [Reader.run, skipNumber, found, Except.map]

/-- How a value begins depends on its first character. -/
lemma run_beginValue {start : List Char} (found : dropBlanks text = c :: start) :
    beginValue.run text =
      if c = 'n' then (keyword ['u', 'l', 'l'] start).map fun after => (.complete, after.1)
      else if c = 't' then (keyword ['r', 'u', 'e'] start).map fun after => (.complete, after.1)
      else if c = 'f' then
        (keyword ['a', 'l', 's', 'e'] start).map fun after => (.complete, after.1)
      else if c = '"' then (skipString.run start).map fun read => (.complete, read.2)
      else if c = '-' then (skipNumber.run start).map fun read => (.complete, read.2)
      else if Text.isDigit c then (skipNumber.run (c :: start)).map fun read => (.complete, read.2)
      else if c = '[' then (beginList start).map fun begun => (begun.1, begun.2.1)
      else if c = '\x7b' then beginObject.run start
      else .error .expectedValue := by
  obtain ⟨_, peeked⟩ := peek?_of_cons found
  unfold Reader.run beginValue
  rw [peeked]
  refine map_ite ?_ <| map_ite ?_ <| map_ite ?_ <| map_ite ?_ <| map_ite ?_ <| map_ite ?_ <|
    map_ite ?_ <| map_ite ?_ ?_
  · cases keyword ['u', 'l', 'l'] start <;> rfl
  · cases keyword ['r', 'u', 'e'] start <;> rfl
  · cases keyword ['a', 'l', 's', 'e'] start <;> rfl
  · cases skipString start <;> rfl
  · cases skipNumber start <;> rfl
  · cases skipNumber (c :: start) <;> rfl
  · cases beginList start <;> rfl
  · cases beginObject start <;> rfl
  · rfl

/-- A list begins with its end or with a value. -/
lemma run_beginList {begun : Beginning} :
    (beginList text).map (fun begun => (begun.1, begun.2.1)) = .ok (begun, rest) ↔
      ∃ c later, dropBlanks text = c :: later ∧
        (c = ']' ∧ begun = .complete ∧ rest = later ∨
          c ≠ ']' ∧ begun = .opens .list ∧ rest = text) := by
  obtain ⟨peeked, found⟩ | ⟨c, start, shorter, peeked, found⟩ := peek?_cases text
  · simp [beginList, peeked, found, Except.map]
  · by_cases first : c = ']'
    · simp [beginList, peeked, found, first, Except.map, eq_comm]
    · simp [beginList, peeked, found, first, Except.map, eq_comm]

/-- An object begins with its end or with a key. -/
lemma run_beginObject {begun : Beginning} :
    beginObject.run text = .ok (begun, rest) ↔
      begun = .complete ∧ dropBlanks text = '\x7d' :: rest ∨
        begun = .opens .object ∧ ∃ later, dropBlanks text = '"' :: later ∧
          skipKey.run later = .ok ((), rest) := by
  obtain ⟨peeked, found⟩ | ⟨c, start, shorter, peeked, found⟩ := peek?_cases text
  · simp [Reader.run, beginObject, peeked, found, Except.map]
  · have run : beginObject.run text =
        if c = '\x7d' then .ok (.complete, start)
        else if c = '"' then (skipKey.run start).map fun read => (.opens .object, read.2)
        else .error .keyMustBeString := by
      unfold Reader.run beginObject
      rw [peeked]
      dsimp only
      split_ifs
      · rfl
      · cases skipKey start <;> rfl
      · rfl
    rw [run, found]
    split_ifs with brace quote
    · simp [brace, eq_comm]
    · rw [Reader.map_run_eq_ok_iff]
      simp [quote, eq_comm]
    · simp [brace, quote]

/-- Behind a value in a list comes a comma or the end. -/
lemma run_afterValue_list {more : Bool} :
    (afterValue .list).run text = .ok (more, rest) ↔
      more = true ∧ dropBlanks text = ',' :: rest ∨
        more = false ∧ dropBlanks text = ']' :: rest := by
  obtain ⟨peeked, found⟩ | ⟨c, start, shorter, peeked, found⟩ := peek?_cases text
  · simp [Reader.run, afterValue, peeked, found, Except.map]
  · have run : (afterValue .list).run text =
        if c = ',' then .ok (true, start)
        else if c = ']' then .ok (false, start)
        else .error .expectedCommaOrBracket := by
      unfold Reader.run afterValue
      rw [peeked]
      dsimp only
      split_ifs <;> rfl
    rw [run, found]
    split_ifs with comma bracket
    · simp [comma, eq_comm]
    · simp [bracket, eq_comm]
    · simp [comma, bracket]

/-- Behind a value in an object comes a comma with the next key or the end. -/
lemma run_afterValue_object {more : Bool} :
    (afterValue .object).run text = .ok (more, rest) ↔
      more = true ∧ (∃ start later, dropBlanks text = ',' :: start ∧
          dropBlanks start = '"' :: later ∧ skipKey.run later = .ok ((), rest)) ∨
        more = false ∧ dropBlanks text = '\x7d' :: rest := by
  obtain ⟨peeked, found⟩ | ⟨c, start, shorter, peeked, found⟩ := peek?_cases text
  · simp [Reader.run, afterValue, peeked, found, Except.map]
  · by_cases comma : c = ','
    · obtain ⟨peeked', found'⟩ | ⟨c', start', shorter', peeked', found'⟩ := peek?_cases start
      · simp [Reader.run, afterValue, peeked, found, comma, peeked', found', Except.map]
      · have run : (afterValue .object).run text =
            if c' = '"' then (skipKey.run start').map fun read => (true, read.2)
            else .error .keyMustBeString := by
          unfold Reader.run afterValue
          rw [peeked]
          dsimp only
          rw [if_pos comma, peeked']
          dsimp only
          split_ifs
          · cases skipKey start' <;> rfl
          · rfl
        rw [run, found]
        split_ifs with quote
        · rw [Reader.map_run_eq_ok_iff]
          simp [comma, found', quote, eq_comm]
        · simp [comma, found', quote]
    · have run : (afterValue .object).run text =
          if c = '\x7d' then .ok (false, start) else .error .expectedCommaOrBrace := by
        unfold Reader.run afterValue
        rw [peeked]
        dsimp only
        rw [if_neg comma]
        split_ifs <;> rfl
      rw [run, found]
      split_ifs with brace
      · simp [brace, eq_comm]
      · simp [comma, brace]

end Parts

section Frames

/-- A key as it stands in front of its value, with the colon. -/
inductive WrittenKey : List StringPart → List Char → Prop where
  | mk {parts : List StringPart} {key colon : List Char} :
    WrittenString parts key → AllBlank colon → WrittenKey parts ('"' :: (key ++ (colon ++ [':'])))

/-- What opens a list or an object, up to its first value. -/
inductive Opening : Frame → List Char → Prop where
  | list : Opening .list ['[']
  | object {blank key : List Char} {parts : List StringPart} :
    AllBlank blank → WrittenKey parts key → Opening .object ('\x7b' :: (blank ++ key))

/-- What stands between two values of a list or an object. -/
inductive Joint : Frame → List Char → Prop where
  | list {blank : List Char} : AllBlank blank → Joint .list (blank ++ [','])
  | object {blank blank' key : List Char} {parts : List StringPart} :
    AllBlank blank → AllBlank blank' → WrittenKey parts key →
    Joint .object (blank ++ ',' :: (blank' ++ key))

/-- The character that closes a list or an object. -/
def Frame.closer : Frame → Char
  | .list => ']'
  | .object => '\x7d'

/-- What stands behind a value of a list or an object, up to its end. -/
inductive Closing (frame : Frame) : List Char → Prop where
  | close {blank : List Char} : AllBlank blank → Closing frame (blank ++ [frame.closer])
  | next {joint literal closing : List Char} {value : Value} :
    Joint frame joint → Placed value literal → Closing frame closing →
    Closing frame (joint ++ (literal ++ closing))

variable {frame : Frame} {opening joint literal closing : List Char} {value : Value}

/-- What closes a list are its remaining values. -/
lemma closing_list_iff : Closing .list closing ↔ ∃ values, WrittenList false values closing := by
  refine ⟨fun closes => ?_, ?_⟩
  · induction closes with
    | close blanks => exact ⟨[], .close blanks⟩
    | next joint placed _ ih =>
      obtain ⟨blanks⟩ := joint
      obtain ⟨blank, text, rfl, blanks', written⟩ := placed
      obtain ⟨values, later⟩ := ih
      exact ⟨_, by simpa using WrittenList.next blanks blanks' written later⟩
  · rintro ⟨values, written⟩
    induction values generalizing closing with
    | nil =>
      obtain ⟨blanks⟩ := written
      exact .close blanks
    | cons value values ih =>
      obtain _ | _ | ⟨blanks, blanks', written, later⟩ := written
      have closes := Closing.next (.list blanks) ⟨_, _, rfl, blanks', written⟩ (ih later)
      simpa using closes

/-- What closes an object are its remaining members. -/
lemma closing_object_iff :
    Closing .object closing ↔ ∃ members, WrittenMembers false members closing := by
  refine ⟨fun closes => ?_, ?_⟩
  · induction closes with
    | close blanks => exact ⟨[], .close blanks⟩
    | next joint placed _ ih =>
      obtain _ | ⟨blanks, blanks', ⟨key, colon⟩⟩ := joint
      obtain ⟨blank, text, rfl, blanks'', written⟩ := placed
      obtain ⟨members, later⟩ := ih
      exact ⟨_, by simpa using WrittenMembers.next blanks blanks' key colon blanks'' written later⟩
  · rintro ⟨members, written⟩
    induction members generalizing closing with
    | nil =>
      obtain ⟨blanks⟩ := written
      exact .close blanks
    | cons member members ih =>
      obtain _ | _ | ⟨blanks, blanks', key, colon, blanks'', written, later⟩ := written
      have closes := Closing.next (.object blanks blanks' (.mk key colon))
        ⟨_, _, rfl, blanks'', written⟩ (ih later)
      simpa using closes

/-- What is opened, has a value in it and is closed is a written value. -/
lemma Opening.written (opens : Opening frame opening) (placed : Placed value literal)
    (closes : Closing frame closing) :
    ∃ value', Written value' (opening ++ (literal ++ closing)) := by
  obtain ⟨blank, text, rfl, blanks, written⟩ := placed
  cases opens with
  | list =>
    obtain ⟨values, later⟩ := closing_list_iff.1 closes
    exact ⟨_, by simpa using Written.list (.first blanks written later)⟩
  | object blanks' key =>
    obtain ⟨key, colon⟩ := key
    obtain ⟨members, later⟩ := closing_object_iff.1 closes
    exact ⟨_, by simpa using Written.object (.first blanks' key colon blanks written later)⟩

/-- A key is skipped with its colon. -/
lemma exists_key (dropped : dropBlanks text = '"' :: later)
    (read : skipKey.run later = .ok ((), rest)) :
    ∃ blank parts key, text = blank ++ (key ++ rest) ∧ AllBlank blank ∧ WrittenKey parts key := by
  obtain ⟨blank, blanks, rfl⟩ := exists_blank_cons dropped
  obtain ⟨parts, key, colon, rfl, written, blanks'⟩ := run_skipKey.1 read
  exact ⟨blank, parts, _, by simp, blanks, .mk written blanks'⟩

/-- Where a value begins, it is complete, or it opens a list or an object. -/
lemma beginValue_sound {begun : Beginning} (read : beginValue.run text = .ok (begun, rest)) :
    (begun = .complete ∧ ∃ value literal, text = literal ++ rest ∧ Placed value literal) ∨
      ∃ frame blank opening, begun = .opens frame ∧ text = blank ++ (opening ++ rest) ∧
        AllBlank blank ∧ Opening frame opening := by
  -- A value that is over at once.
  have complete {value : Value} {written : List Char} (form : Written value written)
      (dropped : dropBlanks text = written ++ rest) :
      ∃ value literal, text = literal ++ rest ∧ Placed value literal :=
    ⟨value, form.exists_placed dropped⟩
  obtain ⟨peeked, found⟩ | ⟨c, start, shorter, peeked, found⟩ := peek?_cases text
  · simp [Reader.run, beginValue, peeked, Except.map] at read
  · rw [run_beginValue found] at read
    split at read
    · rename_i null
      obtain ⟨rfl, rfl⟩ := map_keyword_eq_ok_iff.1 read
      exact .inl ⟨rfl, complete .null (null ▸ found)⟩
    split at read
    · rename_i yes
      obtain ⟨rfl, rfl⟩ := map_keyword_eq_ok_iff.1 read
      exact .inl ⟨rfl, complete .yes (yes ▸ found)⟩
    split at read
    · rename_i no
      obtain ⟨rfl, rfl⟩ := map_keyword_eq_ok_iff.1 read
      exact .inl ⟨rfl, complete .no (no ▸ found)⟩
    split at read
    · rename_i quote
      obtain ⟨rfl, skipped⟩ := Reader.map_run_eq_ok_iff.1 read
      obtain ⟨parts, body, rfl, written, -⟩ := reads_skipString.sound skipped
      exact .inl ⟨rfl, complete (.text written) (quote ▸ found)⟩
    split at read
    · rename_i minus
      obtain ⟨rfl, skipped⟩ := Reader.map_run_eq_ok_iff.1 read
      obtain ⟨numeral, literal, rfl, written, -⟩ := reads_skipNumber.sound skipped
      exact .inl ⟨rfl, complete (.negative rfl (written.sign true)) (minus ▸ found)⟩
    split at read
    · obtain ⟨rfl, skipped⟩ := Reader.map_run_eq_ok_iff.1 read
      obtain ⟨numeral, literal, cut, written, -⟩ := reads_skipNumber.sound skipped
      exact .inl ⟨rfl, complete (.positive rfl (written.sign false)) (found.trans cut)⟩
    split at read
    · rename_i bracket
      subst bracket
      obtain ⟨blank, blanks, rfl⟩ := exists_blank_cons found
      obtain ⟨c, later, dropped, ⟨rfl, rfl, rfl⟩ | ⟨-, rfl, rfl⟩⟩ := run_beginList.1 read
      · obtain ⟨blank', blanks', rfl⟩ := exists_blank_cons dropped
        exact .inl ⟨rfl, complete (.list (.close blanks')) (by simpa using found)⟩
      · exact .inr ⟨.list, blank, _, rfl, rfl, blanks, .list⟩
    split at read
    · rename_i brace
      subst brace
      obtain ⟨blank, blanks, rfl⟩ := exists_blank_cons found
      obtain ⟨rfl, dropped⟩ | ⟨rfl, later, dropped, key⟩ := run_beginObject.1 read
      · obtain ⟨blank', blanks', rfl⟩ := exists_blank_cons dropped
        exact .inl ⟨rfl, complete (.object (.close blanks')) (by simpa using found)⟩
      · obtain ⟨blank', parts, key, rfl, blanks', written⟩ := exists_key dropped key
        exact .inr ⟨.object, blank, _, rfl, by simp, blanks, .object blanks' written⟩
    · cases read

/-- Behind a value stands what leads to the next one, or what closes its list or object. -/
lemma afterValue_sound {more : Bool} (read : (afterValue frame).run text = .ok (more, rest)) :
    (more = true ∧ ∃ joint, text = joint ++ rest ∧ Joint frame joint) ∨
      more = false ∧ ∃ blank, text = blank ++ frame.closer :: rest ∧ AllBlank blank := by
  cases frame with
  | list =>
    obtain ⟨rfl, dropped⟩ | ⟨rfl, dropped⟩ := run_afterValue_list.1 read
    · obtain ⟨blank, blanks, rfl⟩ := exists_blank_cons dropped
      exact .inl ⟨rfl, _, by simp, .list blanks⟩
    · obtain ⟨blank, blanks, rfl⟩ := exists_blank_cons dropped
      exact .inr ⟨rfl, blank, rfl, blanks⟩
  | object =>
    obtain ⟨rfl, start, later, dropped, dropped', key⟩ | ⟨rfl, dropped⟩ :=
      run_afterValue_object.1 read
    · obtain ⟨blank, blanks, rfl⟩ := exists_blank_cons dropped
      obtain ⟨blank', parts, key, rfl, blanks', written⟩ := exists_key dropped' key
      exact .inl ⟨rfl, _, by simp, .object blanks blanks' written⟩
    · obtain ⟨blank, blanks, rfl⟩ := exists_blank_cons dropped
      exact .inr ⟨rfl, blank, rfl, blanks⟩

/-- A written key is passed over with its colon, whatever stands behind it. -/
lemma run_skipKey_of_writtenKey {parts : List StringPart} {key : List Char}
    (written : WrittenKey parts key) (rest : List Char) :
    ∃ later, key ++ rest = '"' :: later ∧ skipKey.run later = .ok ((), rest) := by
  obtain ⟨written, blanks⟩ := written
  exact ⟨_, rfl, run_skipKey.2 ⟨_, _, _, by simp, written, blanks⟩⟩

/-- What stands between two values leads to the next one. -/
lemma afterValue_joint (between : Joint frame joint) (rest : List Char) :
    (afterValue frame).run (joint ++ rest) = .ok (true, rest) := by
  cases between with
  | list blanks =>
    rw [List.append_assoc]
    exact run_afterValue_list.2 (.inl ⟨rfl, dropBlanks_append_cons blanks (by decide) rest⟩)
  | @object blank blank' key parts blanks blanks' written =>
    obtain ⟨later, cut, read⟩ := run_skipKey_of_writtenKey written rest
    rw [List.append_assoc, List.cons_append, List.append_assoc, cut]
    exact run_afterValue_object.2 (.inl ⟨rfl, _, later, dropBlanks_append_cons blanks (by decide) _,
      dropBlanks_append_cons blanks' (by decide) _, read⟩)

/-- The closing character ends a list or an object. -/
lemma afterValue_closer {blank : List Char} (blanks : AllBlank blank) (frame : Frame)
    (rest : List Char) :
    (afterValue frame).run (blank ++ frame.closer :: rest) = .ok (false, rest) := by
  cases frame with
  | list =>
    exact run_afterValue_list.2 (.inr ⟨rfl, dropBlanks_append_cons blanks (by decide) rest⟩)
  | object =>
    exact run_afterValue_object.2 (.inr ⟨rfl, dropBlanks_append_cons blanks (by decide) rest⟩)

/-- What opens a list or an object with a value in it is passed over. -/
lemma beginValue_opening (opens : Opening frame opening)
    (dropped : dropBlanks text = opening ++ rest)
    (first : ∃ c later, dropBlanks rest = c :: later ∧ c ≠ ']') :
    beginValue.run text = .ok (.opens frame, rest) := by
  cases opens with
  | list =>
    obtain ⟨c, later, found, full⟩ := first
    rw [run_beginValue dropped]
    exact run_beginList.2 ⟨c, later, found, .inr ⟨full, rfl, rfl⟩⟩
  | @object blank key parts blanks written =>
    obtain ⟨later, cut, read⟩ := run_skipKey_of_writtenKey written rest
    rw [List.cons_append, List.append_assoc, cut] at dropped
    rw [run_beginValue dropped]
    exact run_beginObject.2 (.inr ⟨rfl, later, dropBlanks_append_cons blanks (by decide) _, read⟩)

/-- A value is over at once, or it opens a list or an object whose first value comes next. -/
lemma Written.begins {written : List Char} (form : Written value written) :
    (∀ text rest, dropBlanks text = written ++ rest → Ends rest →
        beginValue.run text = .ok (.complete, rest)) ∨
      ∃ frame opening value' literal closing, written = opening ++ (literal ++ closing) ∧
        Opening frame opening ∧ Placed value' literal ∧ Closing frame closing := by
  cases form with
  | null =>
    refine .inl fun text rest dropped _ => ?_
    rw [run_beginValue dropped, if_pos rfl]
    exact map_keyword_eq_ok_iff.2 ⟨rfl, rfl⟩
  | yes =>
    refine .inl fun text rest dropped _ => ?_
    rw [run_beginValue dropped, if_neg (by decide), if_pos rfl]
    exact map_keyword_eq_ok_iff.2 ⟨rfl, rfl⟩
  | no =>
    refine .inl fun text rest dropped _ => ?_
    rw [run_beginValue dropped, if_neg (by decide), if_neg (by decide), if_pos rfl]
    exact map_keyword_eq_ok_iff.2 ⟨rfl, rfl⟩
  | positive _ number =>
    refine .inl fun text rest dropped ends => ?_
    have skipped : skipNumber.run (written ++ rest) = .ok ((), rest) :=
      reads_skipNumber.complete number trivial ends
    obtain ⟨c, later, rfl, digit⟩ := number.head
    obtain ⟨-, -, null, yes, no, quote, minus⟩ := first_of_isDigit digit
    rw [run_beginValue dropped, if_neg null, if_neg yes, if_neg no, if_neg quote, if_neg minus,
      if_pos digit]
    exact Reader.map_run_eq_ok_iff.2 ⟨rfl, skipped⟩
  | @negative numeral literal _ number =>
    refine .inl fun text rest dropped ends => ?_
    have skipped : skipNumber.run (literal ++ rest) = .ok ((), rest) :=
      reads_skipNumber.complete number trivial ends
    rw [run_beginValue dropped, if_neg (by decide), if_neg (by decide), if_neg (by decide),
      if_neg (by decide), if_pos rfl]
    exact Reader.map_run_eq_ok_iff.2 ⟨rfl, skipped⟩
  | @text parts body written =>
    refine .inl fun text rest dropped ends => ?_
    have skipped : skipString.run (body ++ rest) = .ok ((), rest) :=
      reads_skipString.complete written trivial ends
    rw [run_beginValue dropped, if_neg (by decide), if_neg (by decide), if_neg (by decide),
      if_pos rfl]
    exact Reader.map_run_eq_ok_iff.2 ⟨rfl, skipped⟩
  | list written =>
    cases written with
    | @close _ blank blanks =>
      refine .inl fun text rest dropped _ => ?_
      rw [List.cons_append, List.append_assoc] at dropped
      rw [run_beginValue dropped]
      exact run_beginList.2
        ⟨_, _, dropBlanks_append_cons blanks (by decide) _, .inl ⟨rfl, rfl, rfl⟩⟩
    | first blanks written later =>
      exact .inr ⟨.list, _, _, _, _, by simp, .list, ⟨_, _, rfl, blanks, written⟩,
        closing_list_iff.2 ⟨_, later⟩⟩
  | object written =>
    cases written with
    | @close _ blank blanks =>
      refine .inl fun text rest dropped _ => ?_
      rw [List.cons_append, List.append_assoc] at dropped
      rw [run_beginValue dropped]
      exact run_beginObject.2 (.inl ⟨rfl, dropBlanks_append_cons blanks (by decide) _⟩)
    | first blanks key colon blanks' written later =>
      exact .inr ⟨.object, _, _, _, _, by simp, .object blanks (.mk key colon),
        ⟨_, _, rfl, blanks', written⟩, closing_object_iff.2 ⟨_, later⟩⟩

end Frames

section Runs

/-- The runs over what is left of the open lists and objects, innermost first, where a value comes
next or has just been passed. -/
inductive Skips : Bool → Frame → List Frame → List Char → List Char → Prop where
  | complete {frame : Frame} {outer : List Frame} {text start rest : List Char} :
    beginValue.run text = .ok (.complete, start) → Skips false frame outer start rest →
    Skips true frame outer text rest
  | opens {frame inner : Frame} {outer : List Frame} {text start rest : List Char} :
    beginValue.run text = .ok (.opens inner, start) → Skips true inner (frame :: outer) start rest →
    Skips true frame outer text rest
  | next {frame : Frame} {outer : List Frame} {text start rest : List Char} :
    (afterValue frame).run text = .ok (true, start) → Skips true frame outer start rest →
    Skips false frame outer text rest
  | last {frame : Frame} {text rest : List Char} :
    (afterValue frame).run text = .ok (false, rest) → Skips false frame [] text rest
  | close {frame around : Frame} {outer : List Frame} {text start rest : List Char} :
    (afterValue frame).run text = .ok (false, start) → Skips false around outer start rest →
    Skips false frame (around :: outer) text rest

variable {frame : Frame} {outer : List Frame} {whole final : List Char} {atValue : Bool}

/-- The loop runs as the relation says. -/
lemma skips_of_skipFrames {within : text.length < whole.length}
    {shorter : rest.length < whole.length}
    (read : skipFrames whole atValue frame outer text within = .ok ⟨(), rest, shorter⟩) :
    Skips atValue frame outer text rest := by
  fun_induction skipFrames whole atValue frame outer text within with
  | case1 => cases read
  | case2 frame outer text within start _ begun ih =>
    exact .complete (Reader.run_eq_ok_iff.2 ⟨_, begun⟩) (ih read)
  | case3 frame outer text within inner start _ begun ih =>
    exact .opens (Reader.run_eq_ok_iff.2 ⟨_, begun⟩) (ih read)
  | case4 => cases read
  | case5 frame outer text within start _ followed ih =>
    exact .next (Reader.run_eq_ok_iff.2 ⟨_, followed⟩) (ih read)
  | case6 frame text within start _ followed =>
    obtain ⟨-, rfl⟩ := Parsed.mk.inj (Except.ok.inj read)
    exact .last (Reader.run_eq_ok_iff.2 ⟨_, followed⟩)
  | case7 frame text within start _ followed around outer ih =>
    exact .close (Reader.run_eq_ok_iff.2 ⟨_, followed⟩) (ih read)

/-- What the relation says is what the loop runs. -/
lemma skipFrames_of_skips (skips : Skips atValue frame outer text rest)
    (within : text.length < whole.length) :
    ∃ shorter, skipFrames whole atValue frame outer text within = .ok ⟨(), rest, shorter⟩ := by
  induction skips with
  | complete begun _ ih =>
    obtain ⟨shorter, begun⟩ := Reader.run_eq_ok_iff.1 begun
    obtain ⟨shorter', read⟩ := ih (shorter_trans shorter within)
    exact ⟨shorter', by rw [skipFrames, begun]; exact read⟩
  | opens begun _ ih =>
    obtain ⟨shorter, begun⟩ := Reader.run_eq_ok_iff.1 begun
    obtain ⟨shorter', read⟩ := ih (shorter_trans shorter within)
    exact ⟨shorter', by rw [skipFrames, begun]; exact read⟩
  | next followed _ ih =>
    obtain ⟨shorter, followed⟩ := Reader.run_eq_ok_iff.1 followed
    obtain ⟨shorter', read⟩ := ih (shorter_trans shorter within)
    exact ⟨shorter', by rw [skipFrames, followed]; exact read⟩
  | last followed =>
    obtain ⟨shorter, followed⟩ := Reader.run_eq_ok_iff.1 followed
    exact ⟨shorter_trans shorter within, by rw [skipFrames, followed]⟩
  | close followed _ ih =>
    obtain ⟨shorter, followed⟩ := Reader.run_eq_ok_iff.1 followed
    obtain ⟨shorter', read⟩ := ih (shorter_trans shorter within)
    exact ⟨shorter', by rw [skipFrames, followed]; exact read⟩

/-- A text closes all that is open, innermost first. -/
inductive Closes : List Frame → List Char → Prop where
  | nil : Closes [] []
  | cons {frame : Frame} {outer : List Frame} {closing closings : List Char} :
    Closing frame closing → Closes outer closings → Closes (frame :: outer) (closing ++ closings)

/-- A run passes a value where one comes next, and then all that closes what is open. -/
lemma Skips.sound (skips : Skips atValue frame outer text rest) :
    ∃ front closings, text = front ++ (closings ++ rest) ∧ Closes (frame :: outer) closings ∧
      (if atValue then ∃ value, Placed value front else front = []) := by
  -- A list or an object that was opened here is the value in front, once what closes it is taken
  -- off the innermost end.
  induction skips with
  | complete begun _ ih =>
    obtain ⟨front, closings, rfl, closes, rfl⟩ := ih
    obtain ⟨-, value, literal, rfl, placed⟩ | ⟨_, _, _, eq, -⟩ := beginValue_sound begun
    · exact ⟨literal, closings, rfl, closes, value, placed⟩
    · cases eq
  | opens begun _ ih =>
    obtain ⟨front, _, rfl, _ | ⟨closes, around⟩, value, placed⟩ := ih
    obtain ⟨eq, -⟩ | ⟨inner, blank, opening, eq, rfl, blanks, opens⟩ := beginValue_sound begun
    · cases eq
    · cases eq
      obtain ⟨value', form⟩ := opens.written placed closes
      exact ⟨_, _, by simp, around, value', blank, _, rfl, blanks, form⟩
  | next followed _ ih =>
    obtain ⟨front, _, rfl, _ | ⟨closes, around⟩, value, placed⟩ := ih
    obtain ⟨-, joint, rfl, between⟩ | ⟨eq, -⟩ := afterValue_sound followed
    · exact ⟨[], _, by simp, .cons (.next between placed closes) around, rfl⟩
    · cases eq
  | last followed =>
    obtain ⟨eq, -⟩ | ⟨-, blank, rfl, blanks⟩ := afterValue_sound followed
    · cases eq
    · exact ⟨[], _, by simp, .cons (.close blanks) .nil, rfl⟩
  | close followed _ ih =>
    obtain ⟨_, closings, rfl, around, rfl⟩ := ih
    obtain ⟨eq, -⟩ | ⟨-, blank, rfl, blanks⟩ := afterValue_sound followed
    · cases eq
    · exact ⟨[], _, by simp, .cons (.close blanks) around, rfl⟩

/-- How it goes on once the innermost list or object is closed: behind a value of the one around it,
unless it was the outermost. -/
def Resumes : List Frame → List Char → List Char → Prop
  | [], text, final => text = final
  | frame :: outer, text, final => Skips false frame outer text final

/-- A value is passed up to the rest of the text: at once, or as a list or an object that is closed
there. -/
def Passes (text rest : List Char) : Prop :=
  beginValue.run text = .ok (.complete, rest) ∨
    ∃ frame start, beginValue.run text = .ok (.opens frame, start) ∧
      ∀ outer final, Resumes outer rest final → Skips true frame outer start final

/-- What comes behind a value that is passed over comes behind its start. -/
lemma Passes.skips (passes : Passes text rest) (later : Skips false frame outer rest final) :
    Skips true frame outer text final := by
  obtain begun | ⟨inner, start, begun, run⟩ := passes
  · exact .complete begun later
  · exact .opens begun (run (frame :: outer) final later)

/-- The closing character ends the innermost of what is open. -/
lemma skips_closer {blank : List Char} (blanks : AllBlank blank)
    (resumes : Resumes outer rest final) :
    Skips false frame outer (blank ++ frame.closer :: rest) final := by
  have followed := afterValue_closer blanks frame rest
  cases outer with
  | nil =>
    subst resumes
    exact .last followed
  | cons around outer => exact .close followed resumes

/-- A number ends in front of what closes its list or object. -/
lemma Closing.ends {closing : List Char} (closes : Closing frame closing) (rest : List Char) :
    Ends (closing ++ rest) := by
  cases frame with
  | list =>
    obtain ⟨values, written⟩ := closing_list_iff.1 closes
    exact written.ends rest
  | object =>
    obtain ⟨members, written⟩ := closing_object_iff.1 closes
    exact written.ends rest

/-- What closes a list or an object is passed over if its values are. -/
lemma Closing.skips {closing : List Char} (closes : Closing frame closing)
    (passes : ∀ value literal rest, literal.length < closing.length → Placed value literal →
      Ends rest → Passes (literal ++ rest) rest)
    (resumes : Resumes outer rest final) : Skips false frame outer (closing ++ rest) final := by
  induction closes with
  | close blanks =>
    rw [List.append_assoc]
    exact skips_closer blanks resumes
  | @next joint literal closing value between placed closes ih =>
    have longer : 0 < joint.length := by
      cases between <;> simp only [List.length_append, List.length_cons] <;> omega
    simp only [List.length_append] at passes
    rw [List.append_assoc, List.append_assoc]
    have passed := passes value literal (closing ++ rest) (by omega) placed (closes.ends rest)
    exact .next (afterValue_joint between _)
      (passed.skips (ih fun value literal rest shorter => passes value literal rest (by omega)))

/-- A value is passed wherever it stands. The induction is on its length: the values in a list or an
object are passed one after the other. -/
lemma Placed.passes {value : Value} {literal : List Char} (placed : Placed value literal)
    (ends : Ends rest) : Passes (literal ++ rest) rest := by
  induction length : literal.length using Nat.strongRecOn generalizing value literal rest with
  | _ n ih =>
    obtain ⟨blank, written, rfl, blanks, form⟩ := placed
    have dropped : dropBlanks (blank ++ written ++ rest) = written ++ rest := by
      rw [List.append_assoc, dropBlanks_append blanks, form.dropBlanks_append]
    obtain complete | ⟨frame, opening, value', literal, closing, rfl, opens, placed, closes⟩ :=
      form.begins
    · exact .inl (complete _ _ dropped ends)
    · have longer : 0 < opening.length := by cases opens <;> simp
      simp only [List.length_append] at length
      rw [List.append_assoc opening] at dropped
      refine .inr ⟨frame, literal ++ (closing ++ rest), ?_, fun outer final resumes => ?_⟩
      · refine beginValue_opening opens (by simpa using dropped) ?_
        obtain ⟨written, form, dropped⟩ := placed.exists_written
        obtain ⟨c, later, rfl, -, bracket, -⟩ := form.first
        exact ⟨c, _, dropped _, bracket⟩
      · have passed := ih literal.length (by omega) placed (closes.ends rest) rfl
        exact passed.skips (closes.skips (fun value literal rest shorter placed ends =>
          ih literal.length (by omega) placed ends rfl) resumes)

/-- Values are skipped wherever they stand, and nothing else is. -/
theorem reads_skipValue : Reads Placed (fun _ _ => True) skipValue where
  sound {_ text rest} read := by
    obtain ⟨_, read⟩ := Reader.run_eq_ok_iff.1 read
    unfold skipValue at read
    split at read
    · cases read
    · rename_i begun
      cases read
      obtain ⟨-, value, literal, cut, placed⟩ | ⟨_, _, _, eq, -⟩ :=
        beginValue_sound (Reader.run_eq_ok_iff.2 ⟨_, begun⟩)
      · exact ⟨value, literal, cut, placed, trivial⟩
      · cases eq
    · rename_i begun
      obtain ⟨eq, -⟩ | ⟨frame, blank, opening, eq, cut, blanks, opens⟩ :=
        beginValue_sound (Reader.run_eq_ok_iff.2 ⟨_, begun⟩)
      · cases eq
      · cases eq
        obtain ⟨literal, _, rfl, _ | ⟨closes, ⟨⟩⟩, value, placed⟩ :=
          (skips_of_skipFrames read).sound
        obtain ⟨value', form⟩ := opens.written placed closes
        exact ⟨value', _, by rw [cut]; simp, ⟨blank, _, rfl, blanks, form⟩, trivial⟩
  complete {_ value literal rest} placed _ ends := by
    obtain begun | ⟨frame, start, begun, run⟩ := placed.passes ends
    · obtain ⟨_, begun⟩ := Reader.run_eq_ok_iff.1 begun
      simp only [Reader.run, skipValue, begun, Except.map]
    · obtain ⟨shorter, begun⟩ := Reader.run_eq_ok_iff.1 begun
      obtain ⟨_, read⟩ := skipFrames_of_skips (run [] rest rfl) shorter
      simp only [Reader.run, skipValue, begun, read, Except.map]

end Runs

end Typeset.Json
