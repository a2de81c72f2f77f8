import Typeset.Proofs.Json.Meaning
import Typeset.Proofs.Json.Skipping

/-!
# Reading what is asked for

The readers of strings, section levels, lists and objects against what they mean. A list is read by
a reader of its values, an object by one that takes its members into a state one after the other.
-/

namespace Typeset.Json

variable {α β σ κ : Type} {text rest : List Char} {c : Char}

section Scalars

variable {means : Value → α → Prop} {reader : Reader α}

/-- A value behind its first character. -/
def opened (mark : Char) (wanted : Wanted) (body : Reader α) : Reader α := fun text =>
  match peek? text with
  | none => .error .endInValue
  | some ⟨c, rest, shorter⟩ =>
    if c = mark then (body rest).map (·.widen (le_of_shorter shorter))
    else .error (mismatch wanted c rest)

/-- What stands behind an opening mark is read behind it. -/
lemma run_opened {mark : Char} (wanted : Wanted) {body : Reader α} {x : α} :
    (opened mark wanted body).run text = .ok (x, rest) ↔
      ∃ start, dropBlanks text = mark :: start ∧ body.run start = .ok (x, rest) := by
  obtain ⟨peeked, found⟩ | ⟨c, start, shorter, peeked, found⟩ := peek?_cases text
  · simp [Reader.run, opened, peeked, found, Except.map]
  · by_cases same : c = mark
    · cases read : body start <;>
        simp [Reader.run, opened, peeked, found, same, read, Except.map, Parsed.widen]
    · simp [Reader.run, opened, peeked, found, same, Except.map]

/-- A text is a string behind its opening quote. -/
lemma run_text {string : String} :
    Json.text.run text = .ok (string, rest) ↔
      ∃ start, dropBlanks text = '"' :: start ∧ readString.run start = .ok (string, rest) :=
  run_opened .text

/-- Texts are read as what their strings denote. -/
theorem reads_text : Reads Placed IsText Json.text := by
  refine reads_placed (fun read => ?_) (fun written meant ends dropped => ?_)
  · obtain ⟨start, dropped, read⟩ := run_text.1 read
    obtain ⟨parts, body, rfl, form, denoted⟩ := reads_readString.sound read
    exact ⟨.text parts, _, dropped, .text form, parts, rfl, denoted⟩
  · obtain ⟨parts, rfl, denoted⟩ := meant
    obtain _ | _ | _ | _ | _ | form := written
    exact run_text.2 ⟨_, dropped, reads_readString.complete form denoted ends⟩

/-- By its first character, an optional value is the keyword or a value. -/
lemma run_optional_of_cons (reader : Reader α) {start : List Char}
    (found : dropBlanks text = c :: start) :
    (Json.optional reader).run text =
      if c = 'n' then (keyword ['u', 'l', 'l'] start).map fun after => (none, after.1)
      else (reader.run text).map fun read => (some read.1, read.2) := by
  obtain ⟨_, peeked⟩ := peek?_of_cons found
  unfold Reader.run Json.optional
  rw [peeked]
  dsimp only
  split_ifs
  · cases keyword ['u', 'l', 'l'] start <;> rfl
  · cases reader text <;> rfl

/-- An optional value is the keyword, which gives none, or a value. -/
lemma run_optional {option : Option α} :
    (optional reader).run text = .ok (option, rest) ↔
      ∃ c start, dropBlanks text = c :: start ∧
        (c = 'n' ∧ option = none ∧ start = ['u', 'l', 'l'] ++ rest ∨
          c ≠ 'n' ∧ ∃ x, option = some x ∧ reader.run text = .ok (x, rest)) := by
  obtain ⟨peeked, found⟩ | ⟨c, start, shorter, peeked, found⟩ := peek?_cases text
  · simp [Reader.run, optional, peeked, found, Except.map]
  · rw [run_optional_of_cons reader found, found]
    by_cases null : c = 'n'
    · rw [if_pos null, map_keyword_eq_ok_iff]
      simp [null, eq_comm]
    · rw [if_neg null, map_eq_ok_iff]
      simp [null, and_comm, eq_comm]

/-- Where `null` is allowed, it is told from all else by its first letter. -/
theorem reads_optional (reads : Reads Placed means reader) (full : ∀ x, ¬ means .null x) :
    Reads Placed (IsNullOr means) (optional reader) where
  sound {option text rest} read := by
    obtain ⟨c, start, dropped, ⟨rfl, rfl, rfl⟩ | ⟨-, x, rfl, later⟩⟩ := run_optional.1 read
    · obtain ⟨literal, cut, placed⟩ := Written.null.exists_placed dropped
      exact ⟨.null, literal, cut, placed, rfl⟩
    · exact reads.sound later
  complete {option value literal rest} placed meant ends := by
    obtain ⟨written, form, dropped⟩ := placed.exists_written
    cases option with
    | none =>
      obtain rfl : value = .null := meant
      obtain ⟨⟩ := form
      exact run_optional.2 ⟨_, _, dropped rest, .inl ⟨rfl, rfl, rfl⟩⟩
    | some x =>
      obtain ⟨c, later, rfl, -, -, null⟩ := form.first
      have other : c ≠ 'n' := by
        intro same
        exact full x (null same ▸ meant)
      exact run_optional.2
        ⟨c, _, dropped rest, .inr ⟨other, x, rfl, reads.complete placed meant ends⟩⟩

/-- Only an integer in range stands for a section level. -/
lemma levelOf_value_iff {numeral : Numeral} {level : Nat} :
    (∃ number, numeral.value = .ok number ∧ levelOf number = .ok level) ↔
      IsLevel (.number numeral) level := by
  obtain ⟨negative, whole, fraction, exponent⟩ := numeral
  refine ⟨fun ⟨number, value, counts⟩ => ?_, fun ⟨digits, same, value, range⟩ => ?_⟩
  · cases number with
    | floating size => cases counts
    | integer integer =>
      simp only [levelOf] at counts
      split_ifs at counts with range
      cases counts
      unfold Numeral.value at value
      split at value
      · rename_i found
        cases value
        simp only [Numeral.integer?, Numeral.isWhole] at found
        split_ifs at found with parts sign size size
        · cases found
          omega
        · cases found
          obtain ⟨rfl, rfl⟩ : fraction = [] ∧ exponent = none := by simpa using parts
          obtain rfl : negative = false := by simpa using sign
          simp only [largestLevel] at range
          exact ⟨whole, rfl, (Int.toNat_natCast _).symm, by omega⟩
      · split at value <;> cases value
  · cases same
    subst value
    have size : Text.ofDigits 10 whole < 0x10000000000000000 := by omega
    refine ⟨.integer (Text.ofDigits 10 whole), ?_, ?_⟩
    · simp [Numeral.value, Numeral.integer?, Numeral.isWhole, size]
    · simp [levelOf, largestLevel]
      omega

/-- A number is read as it is written, and has the value of what is written. -/
lemma run_readNumber {negative : Bool} {number : Number} :
    (readNumber negative).run text = .ok (number, rest) ↔
      ∃ numeral, (readNumeral negative).run text = .ok (numeral, rest) ∧
        numeral.value = .ok number := by
  unfold Reader.run readNumber
  cases readNumeral negative text with
  | error cause => simp [Except.map]
  | ok read => cases value : read.value.value <;> simp [value, Except.map, eq_comm, and_comm]

/-- A section level is a number with or without a sign whose value is a level. -/
lemma run_level {n : Nat} :
    level.run text = .ok (n, rest) ↔
      ∃ c start number, dropBlanks text = c :: start ∧ levelOf number = .ok n ∧
        (c = '-' ∧ (readNumber true).run start = .ok (number, rest) ∨
          Text.isDigit c ∧ (readNumber false).run (c :: start) = .ok (number, rest)) := by
  obtain ⟨peeked, found⟩ | ⟨c, start, shorter, peeked, found⟩ := peek?_cases text
  · simp [Reader.run, level, peeked, found, Except.map]
  · by_cases minus : c = '-'
    · have digit : Text.isDigit '-' = false := by decide
      cases read : readNumber true start with
      | error cause => simp [Reader.run, level, peeked, found, minus, digit, read, Except.map]
      | ok parsed =>
        cases counts : levelOf parsed.value <;>
          simp [Reader.run, level, peeked, found, minus, digit, read, counts, Except.map]
    · cases digit : Text.isDigit c with
      | false => simp [Reader.run, level, peeked, found, minus, digit, Except.map]
      | true =>
        cases read : readNumber false (c :: start) with
        | error cause => simp [Reader.run, level, peeked, found, minus, digit, read, Except.map]
        | ok parsed =>
          cases counts : levelOf parsed.value <;>
            simp [Reader.run, level, peeked, found, minus, digit, read, counts, Except.map]

/-- Section levels are read as the numbers they are written for. -/
theorem reads_level : Reads Placed IsLevel level := by
  refine reads_placed (fun read => ?_) (fun written meant ends dropped => ?_)
  · obtain ⟨c, start, number, dropped, counts, signed⟩ := run_level.1 read
    obtain ⟨rfl, read⟩ | ⟨digit, read⟩ := signed
    · obtain ⟨numeral, read, value⟩ := run_readNumber.1 read
      obtain ⟨_, literal, rfl, ⟨negative, written⟩, rfl⟩ := (reads_readNumeral true).sound read
      exact ⟨.number _, _, dropped, .negative negative written,
        levelOf_value_iff.1 ⟨number, value, counts⟩⟩
    · obtain ⟨numeral, read, value⟩ := run_readNumber.1 read
      obtain ⟨_, literal, cut, ⟨positive, written⟩, rfl⟩ := (reads_readNumeral false).sound read
      exact ⟨.number _, literal, dropped.trans cut, .positive positive written,
        levelOf_value_iff.1 ⟨number, value, counts⟩⟩
  · obtain ⟨digits, rfl, -, -⟩ := id meant
    obtain ⟨number, value, counts⟩ := levelOf_value_iff.2 meant
    cases written with
    | positive _ form =>
      obtain ⟨c, later, rfl, digit⟩ := form.head
      have read := (reads_readNumeral false).complete ⟨rfl, form⟩ rfl ends
      exact run_level.2 ⟨c, _, number, dropped, counts,
        .inr ⟨digit, run_readNumber.2 ⟨_, read, value⟩⟩⟩
    | negative negative => cases negative

end Scalars

section Lists

variable {means : Value → α → Prop} {element : Reader α} {first : Bool}

/-- On the way to a value a list closes, or the value comes first or behind a comma. -/
lemma advance_sound {step : Advance text} (advanced : advance first text = .ok step) :
    match step with
    | .closed rest _ => dropBlanks text = ']' :: rest
    | .element start _ => if first then start = text else dropBlanks text = ',' :: start := by
  obtain ⟨peeked, found⟩ | ⟨c, start, shorter, peeked, found⟩ := peek?_cases text
  · simp [advance, peeked] at advanced
  · simp only [advance, peeked] at advanced
    split_ifs at advanced with bracket first comma
    · cases advanced
      exact bracket ▸ found
    · cases advanced
      simp [first]
    · split at advanced
      · cases advanced
      · split_ifs at advanced
        cases advanced
        simp [first, found, comma]

/-- A list ends at its closing bracket. -/
lemma advance_closed (dropped : dropBlanks text = ']' :: rest) :
    ∃ shorter, advance first text = .ok (.closed rest shorter) := by
  obtain ⟨shorter, peeked⟩ := peek?_of_cons dropped
  exact ⟨shorter, by simp [advance, peeked]⟩

/-- The first value of a list has no comma in front. -/
lemma advance_first (dropped : dropBlanks text = c :: rest) (bracket : c ≠ ']') :
    ∃ within, advance true text = .ok (.element text within) := by
  obtain ⟨shorter, peeked⟩ := peek?_of_cons dropped
  exact ⟨length_le_self text, by simp [advance, peeked, bracket]⟩

/-- A later value of a list stands behind a comma. -/
lemma advance_next {start : List Char} (dropped : dropBlanks text = ',' :: start)
    (dropped' : dropBlanks start = c :: rest) (bracket : c ≠ ']') :
    ∃ within, advance false text = .ok (.element start within) := by
  obtain ⟨shorter, peeked⟩ := peek?_of_cons dropped
  obtain ⟨shorter', peeked'⟩ := peek?_of_cons dropped'
  exact ⟨le_of_shorter shorter, by simp [advance, peeked, peeked', bracket]⟩

/-- The text in front of a value of a list, and the place where the value is read. -/
lemma exists_written_cons {start later : List Char} {value : Value} {values : List Value}
    {literal closing : List Char}
    (place : if first then start = text else dropBlanks text = ',' :: start)
    (cut : start = literal ++ later) (placed : Placed value literal)
    (cut' : later = closing ++ rest) (written : WrittenList false values closing) :
    ∃ literal, text = literal ++ rest ∧ WrittenList first (value :: values) literal := by
  obtain ⟨blank, form, rfl, blanks, value⟩ := placed
  subst cut cut'
  cases first with
  | true =>
    obtain rfl := place
    exact ⟨_, by simp, .first blanks value written⟩
  | false =>
    obtain ⟨blank', blanks', rfl⟩ := exists_blank_cons place
    exact ⟨_, by simp, .next blanks' blanks value written⟩

/-- The values that are read of a list are written there. -/
lemma elements_sound (reads : Reads Placed means element) {xs : List α}
    {shorter : rest.length < text.length}
    (read : elements element first text = .ok ⟨xs, rest, shorter⟩) :
    ∃ values literal, text = literal ++ rest ∧ WrittenList first values literal ∧
      List.Forall₂ means values xs := by
  fun_induction elements element first text generalizing xs rest with
  | case1 => cases read
  | case2 first text start _ advanced =>
    cases read
    obtain ⟨blank, blanks, rfl⟩ := exists_blank_cons (advance_sound advanced)
    exact ⟨[], _, by simp, .close blanks, .nil⟩
  | case3 => cases read
  | case4 => cases read
  | case5 first text start within advanced x later shorter found xs rest' shorter' found' ih =>
    cases read
    obtain ⟨value, literal, cut, placed, meant⟩ := reads.sound (Reader.run_eq_ok_iff.2 ⟨_, found⟩)
    obtain ⟨values, closing, cut', written, meant'⟩ := ih found'
    obtain ⟨literal, cut, written⟩ :=
      exists_written_cons (advance_sound advanced) cut placed cut' written
    exact ⟨value :: values, literal, cut, written, .cons meant meant'⟩

/-- The way to a value of a list leads to the text in front of it. -/
lemma WrittenList.advance {values : List Value} {value : Value} {literal : List Char}
    (written : WrittenList first (value :: values) literal) (rest : List Char) :
    ∃ start within literal' closing,
      Json.advance first (literal ++ rest) = .ok (.element start within) ∧
        start = literal' ++ (closing ++ rest) ∧ Placed value literal' ∧
          WrittenList false values closing := by
  cases written with
  | @first blank text closing _ _ blanks form written =>
    obtain ⟨c, later, rfl, full, bracket, -⟩ := form.first
    rw [List.append_assoc, List.append_assoc]
    obtain ⟨within, advanced⟩ :=
      advance_first (dropBlanks_append_cons blanks full (later ++ (closing ++ rest))) bracket
    exact ⟨_, within, blank ++ c :: later, closing, advanced, by simp,
      ⟨blank, _, rfl, blanks, form⟩, written⟩
  | @next blank blank' text closing _ _ blanks blanks' form written =>
    obtain ⟨c, later, rfl, full, bracket, -⟩ := form.first
    rw [List.append_assoc, List.cons_append, List.append_assoc, List.append_assoc]
    obtain ⟨within, advanced⟩ :=
      advance_next (dropBlanks_append_cons blanks (by decide) _)
        (dropBlanks_append_cons blanks' full (later ++ (closing ++ rest))) bracket
    exact ⟨_, within, blank' ++ c :: later, closing, advanced, by simp,
      ⟨blank', _, rfl, blanks', form⟩, written⟩

/-- A list without further values is over. -/
lemma WrittenList.advance_nil {literal : List Char} (written : WrittenList first [] literal)
    (rest : List Char) :
    ∃ shorter, Json.advance first (literal ++ rest) = .ok (.closed rest shorter) := by
  obtain ⟨blanks⟩ := written
  rw [List.append_assoc]
  exact advance_closed (dropBlanks_append_cons blanks (by decide) rest)

/-- The values of a list are read up to its closing bracket. -/
lemma elements_complete (reads : Reads Placed means element) {values : List Value} {xs : List α}
    {literal : List Char} (written : WrittenList first values literal)
    (meant : List.Forall₂ means values xs) (cut : text = literal ++ rest) :
    ∃ shorter, elements element first text = .ok ⟨xs, rest, shorter⟩ := by
  subst cut
  induction meant generalizing first literal with
  | nil =>
    obtain ⟨shorter, advanced⟩ := written.advance_nil rest
    exact ⟨shorter, by rw [elements, advanced]⟩
  | cons meant _ ih =>
    obtain ⟨start, within, literal', closing, advanced, rfl, placed, written⟩ :=
      written.advance rest
    have read := reads.complete placed meant (written.ends rest)
    obtain ⟨shorter, found⟩ := Reader.run_eq_ok_iff.1 read
    obtain ⟨shorter', found'⟩ := ih written
    refine ⟨by omega, ?_⟩
    rw [elements, advanced]
    simp only [found, found']

/-- The values of a list are read one by one. -/
theorem reads_elements (reads : Reads Placed means element) (first : Bool) :
    Reads (WrittenList first) (List.Forall₂ means) (elements element first) where
  sound read := by
    obtain ⟨_, read⟩ := Reader.run_eq_ok_iff.1 read
    exact elements_sound reads read
  complete written meant _ :=
    Reader.run_eq_ok_iff.2 (elements_complete reads written meant rfl)

/-- A sequence is a list behind its opening bracket. -/
lemma run_sequence {body : Reader α} {x : α} :
    (sequence body).run text = .ok (x, rest) ↔
      ∃ start, dropBlanks text = '[' :: start ∧ body.run start = .ok (x, rest) :=
  run_opened .sequence

/-- Lists are read as their values are. -/
theorem reads_sequence {body : Reader α} {means : List Value → α → Prop}
    (reads : Reads (WrittenList true) means body) :
    Reads Placed (fun value x => ∃ values, value = .list values ∧ means values x)
      (sequence body) := by
  refine reads_placed (fun read => ?_) (fun written meant ends dropped => ?_)
  · obtain ⟨start, dropped, read⟩ := run_sequence.1 read
    obtain ⟨values, literal, rfl, form, meant⟩ := reads.sound read
    exact ⟨.list values, _, dropped, .list form, values, rfl, meant⟩
  · obtain ⟨values, rfl, meant⟩ := meant
    cases written with
    | list form => exact run_sequence.2 ⟨_, dropped, reads.complete form meant ends⟩

end Lists

section Objects

variable {member : String → σ → Except Cause (Reader σ)} {takes : String → Value → σ → σ → Prop}
  {first : Bool}

/-- On the way to a key an object closes, or the key comes first or behind a comma. -/
lemma advanceKey_sound {step : KeyAdvance text} (advanced : advanceKey first text = .ok step) :
    match step with
    | .closed rest _ => dropBlanks text = '\x7d' :: rest
    | .key start _ =>
      if first then dropBlanks text = '"' :: start
      else ∃ later, dropBlanks text = ',' :: later ∧ dropBlanks later = '"' :: start := by
  obtain ⟨peeked, found⟩ | ⟨c, start, shorter, peeked, found⟩ := peek?_cases text
  · simp [advanceKey, peeked] at advanced
  · simp only [advanceKey, peeked] at advanced
    split_ifs at advanced with brace first quote comma
    · cases advanced
      exact brace ▸ found
    · cases advanced
      simp [first, found, quote]
    · obtain ⟨peeked', found'⟩ | ⟨c', start', shorter', peeked', found'⟩ := peek?_cases start
      · simp [peeked'] at advanced
      · simp only [peeked'] at advanced
        split_ifs at advanced with quote
        cases advanced
        simp [first, found, comma, found', quote]

/-- An object ends at its closing brace. -/
lemma advanceKey_closed (dropped : dropBlanks text = '\x7d' :: rest) :
    ∃ shorter, advanceKey first text = .ok (.closed rest shorter) := by
  obtain ⟨shorter, peeked⟩ := peek?_of_cons dropped
  exact ⟨shorter, by simp [advanceKey, peeked]⟩

/-- The first key of an object has no comma in front. -/
lemma advanceKey_first (dropped : dropBlanks text = '"' :: rest) :
    ∃ shorter, advanceKey true text = .ok (.key rest shorter) := by
  obtain ⟨shorter, peeked⟩ := peek?_of_cons dropped
  exact ⟨shorter, by simp [advanceKey, peeked]⟩

/-- A later key of an object stands behind a comma. -/
lemma advanceKey_next {start : List Char} (dropped : dropBlanks text = ',' :: start)
    (dropped' : dropBlanks start = '"' :: rest) :
    ∃ shorter, advanceKey false text = .ok (.key rest shorter) := by
  obtain ⟨shorter, peeked⟩ := peek?_of_cons dropped
  obtain ⟨shorter', peeked'⟩ := peek?_of_cons dropped'
  exact ⟨shorter_trans shorter' shorter, by simp [advanceKey, peeked, peeked']⟩

/-- What entries make of a state, taken into it one after the other. -/
inductive Folds (takes : κ → β → σ → σ → Prop) : List (κ × β) → σ → σ → Prop where
  | nil {state : σ} : Folds takes [] state state
  | cons {key : κ} {value : β} {entries : List (κ × β)} {state state' state'' : σ} :
    takes key value state state' → Folds takes entries state' state'' →
    Folds takes ((key, value) :: entries) state state''

/-- What becomes of each key of an object: the value under it is read as it is taken into the state,
and a key that is refused stands under nothing that is taken. -/
structure MemberReads (member : String → σ → Except Cause (Reader σ))
    (takes : String → Value → σ → σ → Prop) : Prop where
  reads {key : String} {state : σ} {reader : Reader σ} (given : member key state = .ok reader) :
    Reads Placed (fun value => takes key value state) reader
  accepts {key : String} {value : Value} {state state' : σ} (taken : takes key value state state') :
    ∃ reader, member key state = .ok reader

/-- The text in front of a member of an object, and the place inside of its key. -/
lemma exists_writtenMembers_cons {start behind place later literal key closing : List Char}
    {parts : List StringPart} {value : Value} {members : List (List StringPart × Value)}
    (front : if first then dropBlanks text = '"' :: start
      else ∃ later, dropBlanks text = ',' :: later ∧ dropBlanks later = '"' :: start)
    (cut : start = key ++ behind) (string : WrittenString parts key)
    (colon : dropBlanks behind = ':' :: place) (cut' : place = literal ++ later)
    (placed : Placed value literal) (cut'' : later = closing ++ rest)
    (written : WrittenMembers false members closing) :
    ∃ literal, text = literal ++ rest ∧
      WrittenMembers first ((parts, value) :: members) literal := by
  obtain ⟨blank, form, rfl, blanks, value⟩ := placed
  obtain ⟨blank', blanks', rfl⟩ := exists_blank_cons colon
  subst cut cut' cut''
  cases first with
  | true =>
    obtain ⟨front, fronts, rfl⟩ := exists_blank_cons front
    exact ⟨_, by simp, .first fronts string blanks' blanks value written⟩
  | false =>
    obtain ⟨later, comma, quote⟩ := front
    obtain ⟨_, quotes, rfl⟩ := exists_blank_cons quote
    obtain ⟨_, commas, rfl⟩ := exists_blank_cons comma
    exact ⟨_, by simp, .next commas quotes string blanks' blanks value written⟩

/-- The members that are read of an object are written there. -/
lemma members_sound (reads : MemberReads member takes) {state state' : σ}
    {shorter : rest.length < text.length}
    (read : members member first state text = .ok ⟨state', rest, shorter⟩) :
    ∃ members literal, text = literal ++ rest ∧ WrittenMembers first members literal ∧
      ∃ entries, Keyed members entries ∧ Folds takes entries state state' := by
  fun_induction members member first state text generalizing state' rest with
  | case1 => cases read
  | case2 first state text start _ advanced =>
    cases read
    obtain ⟨blank, blanks, rfl⟩ := exists_blank_cons (advanceKey_sound advanced)
    exact ⟨[], _, by simp, .close blanks, [], .nil, .nil⟩
  | case3 => cases read
  | case4 => cases read
  | case5 => cases read
  | case6 => cases read
  | case7 first state text start _ advanced key behind _ string reader given place _ colon state'
      later _ found ih =>
    obtain ⟨parsed, found', eq⟩ := map_eq_ok_iff.1 read
    cases eq
    obtain ⟨parts, key, cut, written, denoted⟩ :=
      reads_readString.sound (Reader.run_eq_ok_iff.2 ⟨_, string⟩)
    have colon := run_readColon.1 (Reader.run_eq_ok_iff.2 ⟨_, colon⟩)
    obtain ⟨value, literal, cut', placed, taken⟩ :=
      (reads.reads given).sound (Reader.run_eq_ok_iff.2 ⟨_, found⟩)
    obtain ⟨members, closing, cut'', written', entries, keyed, folds⟩ := ih found'
    obtain ⟨literal, cut, written⟩ := exists_writtenMembers_cons (advanceKey_sound advanced) cut
      written colon cut' placed cut'' written'
    exact ⟨_, literal, cut, written, _, .cons ⟨denoted, rfl⟩ keyed, .cons taken folds⟩

/-- The way to a member of an object leads inside of its key. -/
lemma WrittenMembers.advanceKey {members : List (List StringPart × Value)} {parts : List StringPart}
    {value : Value} {literal : List Char}
    (written : WrittenMembers first ((parts, value) :: members) literal) (rest : List Char) :
    ∃ start shorter key colon literal' closing,
      Json.advanceKey first (literal ++ rest) = .ok (.key start shorter) ∧
        start = key ++ (colon ++ ':' :: (literal' ++ (closing ++ rest))) ∧ WrittenString parts key ∧
          AllBlank colon ∧ Placed value literal' ∧ WrittenMembers false members closing := by
  cases written with
  | @first blank key colon blank' text closing _ _ _ blanks string colons blanks' form written =>
    rw [List.append_assoc, List.cons_append]
    obtain ⟨shorter, advanced⟩ := advanceKey_first (dropBlanks_append_cons blanks (by decide) _)
    exact ⟨_, shorter, key, colon, blank' ++ text, closing, advanced, by simp, string, colons,
      ⟨blank', text, rfl, blanks', form⟩, written⟩
  | @next blank blank' key colon blank'' text closing _ _ _ blanks blanks' string colons blanks''
      form written =>
    rw [List.append_assoc, List.cons_append, List.append_assoc, List.cons_append]
    obtain ⟨shorter, advanced⟩ := advanceKey_next (dropBlanks_append_cons blanks (by decide) _)
      (dropBlanks_append_cons blanks' (by decide) _)
    exact ⟨_, shorter, key, colon, blank'' ++ text, closing, advanced, by simp, string, colons,
      ⟨blank'', text, rfl, blanks'', form⟩, written⟩

/-- An object without further members is over. -/
lemma WrittenMembers.advanceKey_nil {literal : List Char}
    (written : WrittenMembers first [] literal) (rest : List Char) :
    ∃ shorter, Json.advanceKey first (literal ++ rest) = .ok (.closed rest shorter) := by
  obtain ⟨blanks⟩ := written
  rw [List.append_assoc]
  exact advanceKey_closed (dropBlanks_append_cons blanks (by decide) rest)

/-- The key of a member and the colon behind it are read in turn, each ended by what stands behind
it. -/
lemma run_key_and_colon {parts : List StringPart} {string colon : List Char} {key : String}
    (written : WrittenString parts string) (denoted : Denotes parts key.toList)
    (blanks : AllBlank colon) (later : List Char) :
    readString.run (string ++ (colon ++ ':' :: later)) = .ok (key, colon ++ ':' :: later) ∧
      readColon.run (colon ++ ':' :: later) = .ok ((), later) := by
  have ends : Ends (colon ++ ':' :: later) := blanks.ends_append (ends_cons (by decide))
  have next : dropBlanks (colon ++ ':' :: later) = ':' :: later :=
    dropBlanks_append_cons blanks (by decide) later
  exact ⟨reads_readString.complete written denoted ends, run_readColon.2 next⟩

/-- The members of an object are read up to its closing brace. -/
lemma members_complete (reads : MemberReads member takes)
    {written : List (List StringPart × Value)} {entries : List (String × Value)} {state state' : σ}
    {literal : List Char} (form : WrittenMembers first written literal)
    (keyed : Keyed written entries) (folds : Folds takes entries state state')
    (cut : text = literal ++ rest) :
    ∃ shorter, members member first state text = .ok ⟨state', rest, shorter⟩ := by
  subst cut
  induction folds generalizing first written literal with
  | nil =>
    cases keyed
    obtain ⟨shorter, advanced⟩ := form.advanceKey_nil rest
    exact ⟨shorter, by rw [members, advanced]⟩
  | @cons key value entries state state' state'' taken _ ih =>
    obtain _ | @⟨⟨parts, _⟩, _, written, _, ⟨denoted, rfl⟩, keyed⟩ := keyed
    obtain ⟨_, shorter, string, colon, literal', closing, advanced, rfl, stringForm, blanks, placed,
      later⟩ := form.advanceKey rest
    obtain ⟨reader, given⟩ := reads.accepts taken
    obtain ⟨keyRead, colonRead⟩ :=
      run_key_and_colon stringForm denoted blanks (literal' ++ (closing ++ rest))
    have valueRead := (reads.reads given).complete placed taken (later.ends rest)
    obtain ⟨_, keyRead⟩ := Reader.run_eq_ok_iff.1 keyRead
    obtain ⟨_, colonRead⟩ := Reader.run_eq_ok_iff.1 colonRead
    obtain ⟨_, valueRead⟩ := Reader.run_eq_ok_iff.1 valueRead
    obtain ⟨_, read⟩ := ih later keyed
    refine ⟨by omega, ?_⟩
    rw [members, advanced]
    simp only [keyRead, given, colonRead, valueRead, read, Except.map, Parsed.widen]

/-- The members of an object are taken into the state one by one. -/
theorem reads_members (reads : MemberReads member takes) (first : Bool) (state : σ) :
    Reads (WrittenMembers first)
      (fun members state' => ∃ entries, Keyed members entries ∧ Folds takes entries state state')
      (members member first state) where
  sound read := by
    obtain ⟨_, read⟩ := Reader.run_eq_ok_iff.1 read
    exact members_sound reads read
  complete form meant _ := by
    obtain ⟨entries, keyed, folds⟩ := meant
    exact Reader.run_eq_ok_iff.2 (members_complete reads form keyed folds rfl)

/-- An object is read behind its opening brace. -/
lemma run_map {body : Reader α} {x : α} :
    (Json.map body).run text = .ok (x, rest) ↔
      ∃ start, dropBlanks text = '\x7b' :: start ∧ body.run start = .ok (x, rest) :=
  run_opened .map

/-- Objects are read as their members are. -/
theorem reads_map {body : Reader α} {means : List (List StringPart × Value) → α → Prop}
    (reads : Reads (WrittenMembers true) means body) :
    Reads Placed (fun value x => ∃ members, value = .object members ∧ means members x)
      (Json.map body) := by
  refine reads_placed (fun read => ?_) (fun written meant ends dropped => ?_)
  · obtain ⟨start, dropped, read⟩ := run_map.1 read
    obtain ⟨members, literal, rfl, form, meant⟩ := reads.sound read
    exact ⟨.object members, _, dropped, .object form, members, rfl, meant⟩
  · obtain ⟨members, rfl, meant⟩ := meant
    cases written with
    | object form => exact run_map.2 ⟨_, dropped, reads.complete form meant ends⟩

/-- A record is a list or an object, by its opening mark. -/
lemma run_record {name : String} {asList asObject : Reader α} {x : α} :
    (record name asList asObject).run text = .ok (x, rest) ↔
      (∃ start, dropBlanks text = '[' :: start ∧ asList.run start = .ok (x, rest)) ∨
        ∃ start, dropBlanks text = '\x7b' :: start ∧ asObject.run start = .ok (x, rest) := by
  obtain ⟨peeked, found⟩ | ⟨c, start, shorter, peeked, found⟩ := peek?_cases text
  · simp [Reader.run, record, peeked, found, Except.map]
  · by_cases bracket : c = '['
    · cases read : asList start <;>
        simp [Reader.run, record, peeked, found, bracket, read, Except.map, Parsed.widen]
    · by_cases brace : c = '\x7b'
      · cases read : asObject start <;>
          simp [Reader.run, record, peeked, found, brace, read, Except.map, Parsed.widen]
      · simp [Reader.run, record, peeked, found, bracket, brace, Except.map]

/-- A record is read as a list or as an object. -/
theorem reads_record {name : String} {asList asObject : Reader α}
    {meansList : List Value → α → Prop} {meansObject : List (List StringPart × Value) → α → Prop}
    (list : Reads (WrittenList true) meansList asList)
    (object : Reads (WrittenMembers true) meansObject asObject) :
    Reads Placed
      (fun value x => (∃ values, value = .list values ∧ meansList values x) ∨
        ∃ members, value = .object members ∧ meansObject members x)
      (record name asList asObject) := by
  refine reads_placed (fun read => ?_) (fun written meant ends dropped => ?_)
  · obtain ⟨start, dropped, read⟩ | ⟨start, dropped, read⟩ := run_record.1 read
    · obtain ⟨values, literal, rfl, form, meant⟩ := list.sound read
      exact ⟨.list values, _, dropped, .list form, .inl ⟨values, rfl, meant⟩⟩
    · obtain ⟨members, literal, rfl, form, meant⟩ := object.sound read
      exact ⟨.object members, _, dropped, .object form, .inr ⟨members, rfl, meant⟩⟩
  · obtain ⟨values, rfl, meant⟩ | ⟨members, rfl, meant⟩ := meant
    · cases written with
      | list form => exact run_record.2 (.inl ⟨_, dropped, list.complete form meant ends⟩)
    · cases written with
      | object form => exact run_record.2 (.inr ⟨_, dropped, object.complete form meant ends⟩)

end Objects

end Typeset.Json
