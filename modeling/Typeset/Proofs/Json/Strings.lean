import Typeset.Proofs.Json.Reading

/-!
# String literals

A string that is asked for is read where the form of a string stands and its escapes denote
characters; one that nobody asks for is skipped wherever the form of a string stands.
-/

namespace Typeset.Json

variable {text rest whole : List Char} {c : Char} {number : Nat}

/-- The hexadecimal digits are those that the grammar has, in both cases. -/
lemma hexDigit?_eq_some_iff {digit : Nat} :
    Text.hexDigit? c = some digit ↔ (c, digit) ∈ hexDigits := by
  refine ⟨fun found => ?_, fun entry => ?_⟩
  · unfold Text.hexDigit? at found
    split_ifs at found with range range range
    · exact Option.some_inj.1 found ▸ mem_of_range 0 (by decide) range
    · exact Option.some_inj.1 found ▸ mem_of_range 10 (by decide) range
    · exact Option.some_inj.1 found ▸ mem_of_range 10 (by decide) range
  · have table : ∀ entry ∈ hexDigits, Text.hexDigit? entry.1 = some entry.2 := by decide
    exact table _ entry

/-- The letters behind a backslash are those that the grammar has. -/
lemma simpleEscape?_eq_some_iff {letter : Char} :
    simpleEscape? letter = some c ↔ (letter, c) ∈ escapeLetters := by
  refine ⟨fun found => ?_, fun entry => ?_⟩
  · unfold simpleEscape? at found
    split at found <;> cases found <;> decide
  · have table : ∀ entry ∈ escapeLetters, simpleEscape? entry.1 = some entry.2 := by decide
    exact table _ entry

/-- Four characters have a value if they are written hexadecimal digits. -/
lemma quadValue?_eq_some_iff {a b c d : Char} :
    quadValue? a b c d = some number ↔ WrittenQuad number [a, b, c, d] := by
  refine ⟨fun found => ?_, fun written => ?_⟩
  · unfold quadValue? at found
    split at found
    · rename_i first second third fourth
      cases found
      exact .mk (hexDigit?_eq_some_iff.1 first) (hexDigit?_eq_some_iff.1 second)
        (hexDigit?_eq_some_iff.1 third) (hexDigit?_eq_some_iff.1 fourth)
    · cases found
  · cases written with
    | mk first second third fourth =>
      simp only [quadValue?, hexDigit?_eq_some_iff.2 first, hexDigit?_eq_some_iff.2 second,
        hexDigit?_eq_some_iff.2 third, hexDigit?_eq_some_iff.2 fourth]

/-- Four hexadecimal digits are read as the number they are written for. -/
lemma run_readQuad :
    readQuad.run text = .ok (number, rest) ↔
      ∃ digits, text = digits ++ rest ∧ WrittenQuad number digits := by
  refine ⟨fun read => ?_, fun ⟨digits, cut, written⟩ => ?_⟩
  · obtain ⟨_, read⟩ := Reader.run_eq_ok_iff.1 read
    unfold readQuad at read
    split at read
    · split at read
      · rename_i found
        cases read
        exact ⟨_, rfl, quadValue?_eq_some_iff.1 found⟩
      · cases read
    · split at read <;> cases read
  · obtain ⟨a, b, c, d, rfl⟩ : ∃ a b c d, digits = [a, b, c, d] := by
      cases written
      exact ⟨_, _, _, _, rfl⟩
    subst cut
    simp only [Reader.run, readQuad, List.cons_append, List.nil_append,
      quadValue?_eq_some_iff.2 written, Except.map]

/-- Behind a leading surrogate a second escape is read, of a trailing one. -/
lemma run_readTrailing {leading : Nat} :
    (readTrailing leading).run text = .ok (c, rest) ↔
      ∃ trailing digits, text = '\\' :: 'u' :: (digits ++ rest) ∧ WrittenQuad trailing digits ∧
        isTrailing trailing ∧ pairChar leading trailing = c := by
  refine ⟨fun read => ?_, fun ⟨trailing, digits, cut, written, half, same⟩ => ?_⟩
  · obtain ⟨_, read⟩ := Reader.run_eq_ok_iff.1 read
    unfold readTrailing at read
    split at read
    · cases read
    · cases read
    · split at read
      · cases read
      · rename_i found
        split_ifs at read with half
        obtain ⟨same, rfl⟩ := Parsed.mk.inj (Except.ok.inj read)
        obtain ⟨digits, rfl, written⟩ := run_readQuad.1 (Reader.run_eq_ok_iff.2 ⟨_, found⟩)
        exact ⟨_, digits, rfl, written, half, same⟩
    · cases read
  · have read : readQuad.run (digits ++ rest) = .ok (trailing, rest) :=
      run_readQuad.2 ⟨digits, rfl, written⟩
    obtain ⟨_, found⟩ := Reader.run_eq_ok_iff.1 read
    rw [cut]
    simp only [Reader.run, readTrailing, found, half, same, if_true, Except.map]

/-- A numeric escape is a number that is no surrogate, or the two halves of a surrogate pair. -/
lemma run_readUnicode :
    readUnicode.run text = .ok (c, rest) ↔
      ∃ unit digits later, text = digits ++ later ∧ WrittenQuad unit digits ∧
        isTrailing unit = false ∧
          (isLeading unit = false ∧ Char.ofNat unit = c ∧ later = rest ∨
            isLeading unit = true ∧ (readTrailing unit).run later = .ok (c, rest)) := by
  refine ⟨fun read => ?_, fun ⟨unit, digits, later, cut, written, half, kind⟩ => ?_⟩
  · obtain ⟨_, read⟩ := Reader.run_eq_ok_iff.1 read
    unfold readUnicode at read
    split at read
    · cases read
    · rename_i found
      obtain ⟨digits, rfl, written⟩ := run_readQuad.1 (Reader.run_eq_ok_iff.2 ⟨_, found⟩)
      split_ifs at read with half kind
      · split at read
        · cases read
        · rename_i found'
          obtain ⟨rfl, rfl⟩ := Parsed.mk.inj (Except.ok.inj read)
          exact ⟨_, digits, _, rfl, written, by simpa using half,
            .inr ⟨kind, Reader.run_eq_ok_iff.2 ⟨_, found'⟩⟩⟩
      · obtain ⟨same, rfl⟩ := Parsed.mk.inj (Except.ok.inj read)
        exact ⟨_, digits, _, rfl, written, by simpa using half,
          .inl ⟨by simpa using kind, same, rfl⟩⟩
  · have read : readQuad.run (digits ++ later) = .ok (unit, later) :=
      run_readQuad.2 ⟨digits, rfl, written⟩
    obtain ⟨_, found⟩ := Reader.run_eq_ok_iff.1 read
    rw [cut]
    obtain ⟨kind, same, rfl⟩ | ⟨kind, read⟩ := kind
    · simp only [Reader.run, readUnicode, found, half, kind, same, Bool.false_eq_true, if_false,
        Except.map]
    · obtain ⟨_, found'⟩ := Reader.run_eq_ok_iff.1 read
      simp only [Reader.run, readUnicode, found, half, kind, found', Bool.false_eq_true, if_false,
        if_true, Except.map]

/-- An escape is read as its letter says, or as a code unit. -/
lemma run_readEscape :
    readEscape.run text = .ok (c, rest) ↔
      (∃ letter, text = letter :: rest ∧ (letter, c) ∈ escapeLetters) ∨
        ∃ later, text = 'u' :: later ∧ readUnicode.run later = .ok (c, rest) := by
  refine ⟨fun read => ?_, ?_⟩
  · obtain ⟨_, read⟩ := Reader.run_eq_ok_iff.1 read
    unfold readEscape at read
    split at read
    · cases read
    · split at read
      · rename_i found
        cases read
        exact .inl ⟨_, rfl, simpleEscape?_eq_some_iff.1 found⟩
      · split_ifs at read with mark
        obtain ⟨parsed, found, eq⟩ := map_eq_ok_iff.1 read
        cases eq
        exact .inr ⟨_, by rw [mark], Reader.run_eq_ok_iff.2 ⟨_, found⟩⟩
  · rintro (⟨letter, rfl, entry⟩ | ⟨later, rfl, read⟩)
    · simp only [Reader.run, readEscape, simpleEscape?_eq_some_iff.2 entry, Except.map]
    · obtain ⟨_, found⟩ := Reader.run_eq_ok_iff.1 read
      have other : simpleEscape? 'u' = none := by decide
      simp only [Reader.run, readEscape, other, if_true, found, Except.map, Parsed.widen]

/-- The trailing surrogates are a range. -/
lemma isTrailing_iff {unit : Nat} : isTrailing unit = true ↔ 0xDC00 ≤ unit ∧ unit ≤ 0xDFFF := by
  simp [isTrailing]

/-- The leading surrogates are a range. -/
lemma isLeading_iff {unit : Nat} : isLeading unit = true ↔ 0xD800 ≤ unit ∧ unit ≤ 0xDBFF := by
  simp [isLeading]

/-- A number is no half of a surrogate pair if it lies outside of both ranges. -/
lemma not_surrogate_iff {unit : Nat} :
    isTrailing unit = false ∧ isLeading unit = false ↔ unit < 0xD800 ∨ 0xDFFF < unit := by
  rw [← Bool.not_eq_true, ← Bool.not_eq_true, isTrailing_iff, isLeading_iff]
  omega

/-- Four hexadecimal digits write a number of sixteen bits. -/
lemma WrittenQuad.lt {digits : List Char} (written : WrittenQuad number digits) :
    number < 0x10000 := by
  have table : ∀ entry ∈ hexDigits, entry.2 < 16 := by decide
  cases written with
  | mk first second third fourth =>
    have first := table _ first
    have second := table _ second
    have third := table _ third
    have fourth := table _ fourth
    simp only at first second third fourth
    omega

/-- A valid number is that of one character. -/
lemma ofNat_eq_iff (valid : number.isValidChar) : Char.ofNat number = c ↔ c.toNat = number := by
  refine ⟨fun same => ?_, fun same => ?_⟩
  · rw [← same, Char.ofNat, dif_pos valid]
    rfl
  · rw [← same, Char.ofNat_toNat]

/-- A pair of surrogates stands for a character beyond sixteen bits. -/
lemma pairChar_eq_iff {leading trailing : Nat} (first : isLeading leading)
    (second : isTrailing trailing) :
    pairChar leading trailing = c ↔
      c.toNat = 0x10000 + (leading - 0xD800) * 0x400 + (trailing - 0xDC00) := by
  have first := isLeading_iff.1 first
  have second := isTrailing_iff.1 second
  rw [Nat.add_comm 0x10000, Nat.add_right_comm]
  refine ofNat_eq_iff (.inr ⟨?_, ?_⟩) <;> omega

/-- The characters below the space are the control characters. -/
lemma isControl_eq_false_iff : isControl c = false ↔ 0x20 ≤ c.toNat := by
  simp [isControl]

/-- What an escape stands for, in front of a string. -/
lemma WrittenString.escape {parts : List StringPart} {body chars : List Char}
    (read : readEscape.run text = .ok (c, body ++ rest)) (written : WrittenString parts body)
    (denoted : Denotes parts chars) :
    ∃ parts' body', '\\' :: text = body' ++ rest ∧ WrittenString parts' body' ∧
      Denotes parts' (c :: chars) := by
  obtain ⟨letter, rfl, entry⟩ | ⟨later, rfl, unicode⟩ := run_readEscape.1 read
  · exact ⟨_, _, by simp, .part (.escaped entry) written, .escaped denoted⟩
  · obtain ⟨unit, digits, later, rfl, quad, half, kind⟩ := run_readUnicode.1 unicode
    obtain ⟨kind, same, rfl⟩ | ⟨kind, second⟩ := kind
    · have small := quad.lt
      have valid : unit.isValidChar := (not_surrogate_iff.1 ⟨half, kind⟩).imp_right (⟨·, by omega⟩)
      exact ⟨_, _, by simp, .part (.unit quad) written, .unit ((ofNat_eq_iff valid).1 same) denoted⟩
    · obtain ⟨trailing, digits', rfl, quad', half', same⟩ := run_readTrailing.1 second
      exact ⟨_, _, by simp, .part (.unit quad) (.part (.unit quad') written),
        .pair (isLeading_iff.1 kind) (isTrailing_iff.1 half') ((pairChar_eq_iff kind half').1 same)
          denoted⟩

/-- The string that is left to read begins with a character as it is. -/
lemma readStringFrom_plain {done : List Char} (quote : c ≠ '"') (backslash : c ≠ '\\')
    (above : 0x20 ≤ c.toNat) (within : (c :: text).length ≤ whole.length) :
    readStringFrom whole done (c :: text) within =
      readStringFrom whole (c :: done) text (le_of_cons_le within) := by
  rw [readStringFrom]
  simp [quote, backslash, isControl_eq_false_iff.2 above]

/-- The string that is left to read begins with an escape. -/
lemma readStringFrom_escape (read : readEscape.run text = .ok (c, rest)) (done : List Char)
    (within : ('\\' :: text).length ≤ whole.length) :
    ∃ within', readStringFrom whole done ('\\' :: text) within =
      readStringFrom whole (c :: done) rest within' := by
  obtain ⟨shorter, found⟩ := Reader.run_eq_ok_iff.1 read
  refine ⟨le_of_shorter_of_le shorter (le_of_cons_le within), ?_⟩
  rw [readStringFrom]
  simp [found]

/-- What is read of a string is written there, and denotes the characters behind those read before.
-/
lemma readStringFrom_sound {done chars : List Char} {within : text.length ≤ whole.length}
    {shorter : rest.length < whole.length}
    (read : readStringFrom whole done text within = .ok ⟨chars, rest, shorter⟩) :
    ∃ parts body later, text = body ++ rest ∧ WrittenString parts body ∧ Denotes parts later ∧
      chars = done.reverse ++ later := by
  fun_induction readStringFrom whole done text within with
  | case1 => cases read
  | case2 done text within =>
    obtain ⟨rfl, rfl⟩ := Parsed.mk.inj (Except.ok.inj read)
    exact ⟨[], _, [], rfl, .close, .nil, by simp⟩
  | case3 => cases read
  | case4 done text escaped start shorter' found within _ _ ih =>
    obtain ⟨parts, body, later, rfl, written, denoted, rfl⟩ := ih read
    obtain ⟨parts', body', cut, written', denoted'⟩ :=
      written.escape (Reader.run_eq_ok_iff.2 ⟨_, found⟩) denoted
    exact ⟨parts', body', _, cut, written', denoted', by simp⟩
  | case5 => cases read
  | case6 done c text within quote backslash control _ ih =>
    obtain ⟨parts, body, later, rfl, written, denoted, rfl⟩ := ih read
    have above := isControl_eq_false_iff.1 (by simpa using control)
    exact ⟨_, _, _, rfl, .part (.plain quote backslash above) written, .plain denoted, by simp⟩

/-- A string that denotes no characters is its closing quote. -/
lemma WrittenString.of_nil {parts : List StringPart} {body : List Char}
    (written : WrittenString parts body) (denoted : Denotes parts []) : body = ['"'] := by
  cases denoted
  cases written
  rfl

/-- The first character of a string stands there as it is or is what an escape stands for. -/
lemma WrittenString.of_cons {parts : List StringPart} {body chars : List Char}
    (written : WrittenString parts body) (denoted : Denotes parts (c :: chars)) :
    ∃ front parts' body', body = front ++ body' ∧ WrittenString parts' body' ∧
      Denotes parts' chars ∧
      (front = [c] ∧ c ≠ '"' ∧ c ≠ '\\' ∧ 0x20 ≤ c.toNat ∨
        ∃ text, front = '\\' :: text ∧ ∀ rest, readEscape.run (text ++ rest) = .ok (c, rest)) := by
  cases denoted with
  | plain denoted =>
    obtain _ | ⟨part, written⟩ := written
    obtain ⟨quote, backslash, above⟩ := part
    exact ⟨_, _, _, rfl, written, denoted, .inl ⟨rfl, quote, backslash, above⟩⟩
  | escaped denoted =>
    obtain _ | ⟨part, written⟩ := written
    obtain _ | entry := part
    exact ⟨_, _, _, rfl, written, denoted,
      .inr ⟨_, rfl, fun rest => run_readEscape.2 (.inl ⟨_, rfl, entry⟩)⟩⟩
  | unit same denoted =>
    obtain _ | ⟨part, written⟩ := written
    obtain _ | _ | quad := part
    have valid : c.toNat.isValidChar := c.valid
    obtain ⟨half, kind⟩ := not_surrogate_iff.2 (valid.imp_right And.left)
    refine ⟨_, _, _, rfl, written, denoted, .inr ⟨_, rfl, fun rest => ?_⟩⟩
    refine run_readEscape.2 (.inr ⟨_, rfl, run_readUnicode.2 ⟨_, _, _, rfl, quad, ?_⟩⟩)
    exact same ▸ ⟨half, .inl ⟨kind, Char.ofNat_toNat c, rfl⟩⟩
  | pair first second same denoted =>
    obtain _ | ⟨part, _ | ⟨part', written⟩⟩ := written
    obtain _ | _ | quad := part
    obtain _ | _ | quad' := part'
    have kind := isLeading_iff.2 first
    have half := isTrailing_iff.2 second
    refine ⟨_, _, _, (List.append_assoc ..).symm, written, denoted, .inr ⟨_, rfl, fun rest => ?_⟩⟩
    refine run_readEscape.2 (.inr ⟨_, rfl, run_readUnicode.2
      ⟨_, _, _, List.append_assoc .., quad, ?_, .inr ⟨kind, ?_⟩⟩⟩)
    · rw [← Bool.not_eq_true, isTrailing_iff]
      omega
    · exact run_readTrailing.2 ⟨_, _, rfl, quad', half, (pairChar_eq_iff kind half).2 same⟩

/-- A string is read up to its closing quote, behind the characters read before. -/
lemma readStringFrom_complete {parts : List StringPart} {body chars : List Char}
    (written : WrittenString parts body) (denoted : Denotes parts chars) (done : List Char)
    (cut : text = body ++ rest) (within : text.length ≤ whole.length) :
    ∃ shorter, readStringFrom whole done text within =
      .ok ⟨done.reverse ++ chars, rest, shorter⟩ := by
  -- Not along the parts: the two halves of a surrogate pair are one step of the reader.
  induction chars generalizing parts body text done with
  | nil =>
    obtain rfl := written.of_nil denoted
    subst cut
    refine ⟨within, ?_⟩
    simp only [List.cons_append, List.nil_append, readStringFrom, if_true, List.append_nil]
  | cons c chars ih =>
    obtain ⟨front, parts, later, rfl, behind, meant, kind⟩ := written.of_cons denoted
    obtain ⟨rfl, quote, backslash, above⟩ | ⟨escape, rfl, read⟩ := kind
    · obtain rfl : text = c :: (later ++ rest) := cut
      obtain ⟨shorter, read⟩ := ih behind meant (c :: done) rfl (le_of_cons_le within)
      refine ⟨shorter, ?_⟩
      rw [readStringFrom_plain quote backslash above within, read]
      simp
    · obtain rfl : text = '\\' :: (escape ++ (later ++ rest)) := by rw [cut]; simp
      obtain ⟨within', step⟩ := readStringFrom_escape (read _) done within
      obtain ⟨shorter, read⟩ := ih behind meant (c :: done) rfl within'
      refine ⟨shorter, ?_⟩
      rw [step, read]
      simp

/-- The closing quote ends a string, whatever stands behind it. -/
lemma readString_complete {parts : List StringPart} {body : List Char} {string : String}
    (written : WrittenString parts body) (denoted : Denotes parts string.toList) :
    readString.run (body ++ rest) = .ok (string, rest) := by
  obtain ⟨shorter, read⟩ := readStringFrom_complete written denoted [] rfl
    (length_le_self (body ++ rest))
  refine Reader.run_eq_ok_iff.2 ⟨shorter, ?_⟩
  simp [readString, read, Except.map, Parsed.map]

/-- Strings are read as what they denote. -/
theorem reads_readString : Reads WrittenString (fun parts string => Denotes parts string.toList)
    readString where
  sound {string text rest} read := by
    obtain ⟨shorter, read⟩ := Reader.run_eq_ok_iff.1 read
    obtain ⟨⟨chars, rest', shorter'⟩, found, eq⟩ := map_eq_ok_iff.1 read
    obtain ⟨rfl, rfl⟩ := Parsed.mk.inj eq
    obtain ⟨parts, body, later, cut, written, denoted, same⟩ := readStringFrom_sound found
    exact ⟨parts, body, cut, written, by simpa [same] using denoted⟩
  complete written denoted _ := readString_complete written denoted

/-- What is passed over as a string is one. -/
lemma skipStringFrom_sound {within : text.length ≤ whole.length}
    {shorter : rest.length < whole.length}
    (read : skipStringFrom whole text within = .ok ⟨(), rest, shorter⟩) :
    ∃ parts body, text = body ++ rest ∧ WrittenString parts body := by
  fun_induction skipStringFrom whole text within with
  | case1 => cases read
  | case2 text within =>
    obtain ⟨-, rfl⟩ := Parsed.mk.inj (Except.ok.inj read)
    exact ⟨[], _, rfl, .close⟩
  | case3 => cases read
  | case4 letter text simple _ within _ ih =>
    obtain ⟨parts, body, rfl, written⟩ := ih read
    obtain ⟨c, found⟩ := Option.isSome_iff_exists.1 simple
    exact ⟨_, _, by simp, .part (.escaped (simpleEscape?_eq_some_iff.1 found)) written⟩
  | case5 => cases read
  | case6 text number start shorter' found _ _ within _ ih =>
    obtain ⟨parts, body, rfl, written⟩ := ih read
    obtain ⟨digits, rfl, quad⟩ := run_readQuad.1 (Reader.run_eq_ok_iff.2 ⟨_, found⟩)
    exact ⟨_, _, by simp, .part (.unit quad) written⟩
  | case7 => cases read
  | case8 => cases read
  | case9 c text within quote backslash control _ ih =>
    obtain ⟨parts, body, rfl, written⟩ := ih read
    have above := isControl_eq_false_iff.1 (by simpa using control)
    exact ⟨_, _, rfl, .part (.plain quote backslash above) written⟩

/-- A part of a string is passed over to the rest of the string. -/
lemma skipStringFrom_part {part : StringPart} {front later : List Char}
    (written : part.Written front) (cut : text = front ++ later)
    (within : text.length ≤ whole.length) :
    ∃ within', skipStringFrom whole text within = skipStringFrom whole later within' := by
  have within' : later.length ≤ whole.length := by
    rw [cut, List.length_append] at within
    omega
  refine ⟨within', ?_⟩
  cases written with
  | @plain c quote backslash above =>
    obtain rfl : text = c :: later := cut
    rw [skipStringFrom.eq_def]
    simp [quote, backslash, isControl_eq_false_iff.2 above]
  | @escaped letter c entry =>
    obtain rfl : text = '\\' :: letter :: later := cut
    rw [skipStringFrom.eq_def]
    simp [simpleEscape?_eq_some_iff.2 entry]
  | @unit number digits quad =>
    obtain rfl : text = '\\' :: 'u' :: (digits ++ later) := cut
    have read : readQuad.run (digits ++ later) = .ok (number, later) :=
      run_readQuad.2 ⟨digits, rfl, quad⟩
    obtain ⟨_, found⟩ := Reader.run_eq_ok_iff.1 read
    have other : simpleEscape? 'u' = none := by decide
    rw [skipStringFrom.eq_def]
    simp [other, found]

/-- A string is passed over up to its closing quote, whatever it denotes. -/
lemma skipStringFrom_complete {parts : List StringPart} {body : List Char}
    (written : WrittenString parts body) (cut : text = body ++ rest)
    (within : text.length ≤ whole.length) :
    ∃ shorter, skipStringFrom whole text within = .ok ⟨(), rest, shorter⟩ := by
  induction written generalizing text with
  | close =>
    obtain rfl : text = '"' :: rest := cut
    exact ⟨within, by rw [skipStringFrom.eq_def]; simp⟩
  | part written _ ih =>
    rw [List.append_assoc] at cut
    obtain ⟨within', step⟩ := skipStringFrom_part written cut within
    obtain ⟨shorter, read⟩ := ih rfl within'
    exact ⟨shorter, step.trans read⟩

/-- A string is passed over, whatever stands behind it. -/
lemma skipString_complete {parts : List StringPart} {body : List Char}
    (written : WrittenString parts body) : skipString.run (body ++ rest) = .ok ((), rest) :=
  Reader.run_eq_ok_iff.2 (skipStringFrom_complete written rfl (length_le_self (body ++ rest)))

/-- A string that nobody asks for needs the form of one only. -/
theorem reads_skipString : Reads WrittenString (fun _ _ => True) skipString where
  sound {_ text rest} read := by
    obtain ⟨shorter, read⟩ := Reader.run_eq_ok_iff.1 read
    obtain ⟨parts, body, cut, written⟩ := skipStringFrom_sound read
    exact ⟨parts, body, cut, written, trivial⟩
  complete written _ _ := skipString_complete written

end Typeset.Json
