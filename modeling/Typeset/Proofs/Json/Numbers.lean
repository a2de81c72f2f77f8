import Typeset.Proofs.Json.Reading

/-!
# Number literals

A number literal is read as long as it goes, so it is read where its form stands and nothing behind
could be taken for more of it.
-/

namespace Typeset.Json

variable {text rest : List Char} {c : Char}

/-- The digits are the ten that the grammar has. -/
lemma digit?_eq_some_iff {digit : Nat} :
    Text.digit? c = some digit ↔ (c, digit) ∈ decimalDigits := by
  refine ⟨fun found => ?_, fun entry => ?_⟩
  · unfold Text.digit? at found
    split_ifs at found with range
    exact Option.some_inj.1 found ▸ mem_of_range 0 (by decide) range
  · have table : ∀ entry ∈ decimalDigits, Text.digit? entry.1 = some entry.2 := by decide
    exact table _ entry

/-- A character is a digit if it has a value as one. -/
lemma isDigit_iff : Text.isDigit c = true ↔ ∃ digit, (c, digit) ∈ decimalDigits := by
  simp only [Text.isDigit, Option.isSome_iff_exists, digit?_eq_some_iff]

/-- The digits that are taken off a text are written there. -/
lemma spanDigits_sound {digits : List Nat} (span : spanDigits text = (digits, rest)) :
    ∃ literal, text = literal ++ rest ∧ WrittenDigits digits literal := by
  induction text generalizing digits with
  | nil =>
    cases span
    exact ⟨[], rfl, .nil⟩
  | cons c text ih =>
    unfold spanDigits at span
    split at span
    · rename_i digit found
      cases span
      obtain ⟨literal, cut, written⟩ := ih rfl
      exact ⟨c :: literal, by rw [List.cons_append, ← cut],
        .cons (digit?_eq_some_iff.1 found) written⟩
    · cases span
      exact ⟨[], rfl, .nil⟩

/-- Digits are taken off a text up to the first character that is none. -/
lemma spanDigits_complete {digits : List Nat} {literal : List Char}
    (written : WrittenDigits digits literal) (ends : ∀ c ∈ rest.head?, Text.isDigit c = false) :
    spanDigits (literal ++ rest) = (digits, rest) := by
  induction written with
  | nil =>
    cases rest with
    | nil => rfl
    | cons c rest =>
      have none : Text.digit? c = none := by simpa [Text.isDigit] using ends c rfl
      simp [spanDigits, none]
  | cons digit _ ih => simp [spanDigits, digit?_eq_some_iff.2 digit, ih]

/-- Digits are read where there is at least one. -/
lemma run_readDigits {digits : List Nat} :
    readDigits.run text = .ok (digits, rest) ↔ spanDigits text = (digits, rest) ∧ digits ≠ [] := by
  refine ⟨fun read => ?_, fun ⟨span, full⟩ => ?_⟩
  · obtain ⟨_, read⟩ := Reader.run_eq_ok_iff.1 read
    unfold readDigits at read
    split at read
    · cases read
    · cases read
      rename_i span
      exact ⟨span, List.cons_ne_nil _ _⟩
  · obtain ⟨digit, digits, rfl⟩ := List.exists_cons_of_ne_nil full
    refine Reader.run_eq_ok_iff.2 ⟨?_, ?_⟩
    · have := length_spanDigits text
      simp only [span, List.length_cons] at this
      omega
    · unfold readDigits
      split
      · rename_i none
        cases span.symm.trans none
      · rename_i span'
        cases span.symm.trans span'
        rfl

/-- The digits in front of a point are read where there is one, or several without a zero in front.
-/
lemma run_readWhole {digits : List Nat} :
    readWhole.run text = .ok (digits, rest) ↔ spanDigits text = (digits, rest) ∧
      (digits.length = 1 ∨ ∃ first later, digits = first :: later ∧ first ≠ 0) := by
  refine ⟨fun read => ?_, fun ⟨span, canonical⟩ => ?_⟩
  · obtain ⟨_, read⟩ := Reader.run_eq_ok_iff.1 read
    unfold readWhole at read
    split at read
    · cases read
    · rename_i found
      obtain ⟨span, full⟩ := run_readDigits.1 (Reader.run_eq_ok_iff.2 ⟨_, found⟩)
      split at read
      · cases read
      · rename_i canonical
        cases read
        refine ⟨span, ?_⟩
        match digits, full, canonical with
        | [_], _, _ => exact .inl rfl
        | 0 :: _ :: _, _, canonical => exact (canonical _ _ rfl).elim
        | (first + 1) :: second :: later, _, _ => exact .inr ⟨_, _, rfl, Nat.succ_ne_zero first⟩
  · have full : digits ≠ [] := by
      rintro rfl
      simp at canonical
    obtain ⟨shorter, found⟩ := Reader.run_eq_ok_iff.1 (run_readDigits.2 ⟨span, full⟩)
    refine Reader.run_eq_ok_iff.2 ⟨shorter, ?_⟩
    simp only [readWhole, found]
    split
    · simp at canonical
    · rfl

/-- The fraction that is read is written there. -/
lemma readFraction_sound {fraction : List Nat} {within : rest.length ≤ text.length}
    (read : readFraction text = .ok (fraction, ⟨rest, within⟩)) :
    ∃ literal, text = literal ++ rest ∧ WrittenFraction fraction literal := by
  unfold readFraction at read
  split at read
  · split at read
    · cases read
    · rename_i found
      cases read
      obtain ⟨span, full⟩ := run_readDigits.1 (Reader.run_eq_ok_iff.2 ⟨_, found⟩)
      obtain ⟨literal, rfl, written⟩ := spanDigits_sound span
      exact ⟨_, rfl, .some full written⟩
  · cases read
    exact ⟨[], rfl, .none⟩

/-- A fraction is read up to a character that is neither a digit nor a point. -/
lemma readFraction_complete {fraction : List Nat} {literal : List Char}
    (written : WrittenFraction fraction literal) (cut : text = literal ++ rest)
    (ends : ∀ c ∈ rest.head?, Text.isDigit c = false ∧ c ≠ '.') :
    ∃ within, readFraction text = .ok (fraction, ⟨rest, within⟩) := by
  cases written with
  | none =>
    obtain rfl : text = rest := cut
    refine ⟨length_le_self text, ?_⟩
    unfold readFraction
    split
    · exact ((ends _ rfl).2 rfl).elim
    · rfl
  | @some _ literal full written =>
    obtain rfl : text = '.' :: (literal ++ rest) := cut
    have span := spanDigits_complete written fun c first => (ends c first).1
    obtain ⟨shorter, found⟩ := Reader.run_eq_ok_iff.1 (run_readDigits.2 ⟨span, full⟩)
    refine ⟨Nat.le_succ_of_le (Nat.le_of_lt shorter), ?_⟩
    simp only [readFraction, found]

/-- The sign that is read is written there, if there is one. -/
lemma exponentSign_sound {negative : Bool} {within : rest.length ≤ text.length}
    (signed : exponentSign text = (negative, ⟨rest, within⟩)) :
    ∃ sign, (negative, sign) ∈ [(false, []), (false, ['+']), (true, ['-'])] ∧
      text = sign ++ rest := by
  unfold exponentSign at signed
  split at signed <;> cases signed
  · exact ⟨['+'], by decide, rfl⟩
  · exact ⟨['-'], by decide, rfl⟩
  · exact ⟨[], by decide, rfl⟩

/-- A sign is read in front of a digit, and so is its absence. -/
lemma exponentSign_complete {negative : Bool} {sign : List Char}
    (signed : (negative, sign) ∈ [(false, []), (false, ['+']), (true, ['-'])])
    (cut : text = sign ++ rest) (digit : ∃ c ∈ rest.head?, Text.isDigit c = true) :
    ∃ within, exponentSign text = (negative, ⟨rest, within⟩) := by
  obtain ⟨rfl, rfl⟩ | ⟨rfl, rfl⟩ | ⟨rfl, rfl⟩ :
      (negative = false ∧ sign = []) ∨ (negative = false ∧ sign = ['+']) ∨
        (negative = true ∧ sign = ['-']) := by
    simpa using signed
  · obtain rfl : text = rest := cut
    obtain ⟨c, first, digit⟩ := digit
    refine ⟨length_le_self text, ?_⟩
    unfold exponentSign
    split
    · cases first
      cases digit
    · cases first
      cases digit
    · rfl
  · obtain rfl : text = '+' :: rest := cut
    exact ⟨_, rfl⟩
  · obtain rfl : text = '-' :: rest := cut
    exact ⟨_, rfl⟩

/-- The exponent that is read is written there. -/
lemma readExponent_sound {exponent : Option (Bool × List Nat)} {within : rest.length ≤ text.length}
    (read : readExponent text = .ok (exponent, ⟨rest, within⟩)) :
    ∃ literal, text = literal ++ rest ∧ WrittenExponent exponent literal := by
  unfold readExponent at read
  split at read
  · cases read
    exact ⟨[], rfl, .none⟩
  · split_ifs at read with mark
    · split at read
      rename_i signed
      split at read
      · cases read
      · rename_i found
        cases read
        obtain ⟨sign, mem, rfl⟩ := exponentSign_sound signed
        obtain ⟨span, full⟩ := run_readDigits.1 (Reader.run_eq_ok_iff.2 ⟨_, found⟩)
        obtain ⟨literal, rfl, written⟩ := spanDigits_sound span
        refine ⟨_, ?_, .some (by simpa using mark) mem full written⟩
        rw [List.cons_append, List.append_assoc]
    · cases read
      exact ⟨[], rfl, .none⟩

/-- Digits start with a digit. -/
lemma WrittenDigits.head {digits : List Nat} {literal : List Char}
    (written : WrittenDigits digits literal) (full : digits ≠ []) (rest : List Char) :
    ∃ c ∈ (literal ++ rest).head?, Text.isDigit c = true := by
  cases written with
  | nil => exact (full rfl).elim
  | cons digit _ => exact ⟨_, rfl, isDigit_iff.2 ⟨_, digit⟩⟩

/-- An exponent is read up to where a number ends. -/
lemma readExponent_complete {exponent : Option (Bool × List Nat)} {literal : List Char}
    (written : WrittenExponent exponent literal) (cut : text = literal ++ rest) (ends : Ends rest) :
    ∃ within, readExponent text = .ok (exponent, ⟨rest, within⟩) := by
  cases written with
  | none =>
    obtain rfl : text = rest := cut
    refine ⟨length_le_self text, ?_⟩
    unfold readExponent
    split
    · rfl
    · obtain ⟨-, -, small, capital⟩ := ends _ rfl
      rw [if_neg (by simp [small, capital])]
  | @some letter negative sign literal digits mark signed full written =>
    obtain rfl : text = letter :: (sign ++ (literal ++ rest)) := by rw [cut]; simp
    have span := spanDigits_complete written fun c first => (ends c first).1
    obtain ⟨_, signed⟩ := exponentSign_complete signed rfl (written.head full rest)
    obtain ⟨shorter, found⟩ := Reader.run_eq_ok_iff.1 (run_readDigits.2 ⟨span, full⟩)
    have mark : letter = 'e' ∨ letter = 'E' := by simpa using mark
    refine ⟨by simp only [List.length_cons, List.length_append]; omega, ?_⟩
    rw [readExponent, if_pos mark]
    split
    rename_i signed'
    cases signed.symm.trans signed'
    simp only [found]

/-- Neither a digit nor a point comes where an exponent may. -/
lemma WrittenExponent.behind {exponent : Option (Bool × List Nat)} {literal : List Char}
    (written : WrittenExponent exponent literal) (ends : Ends rest) :
    ∀ c ∈ (literal ++ rest).head?, Text.isDigit c = false ∧ c ≠ '.' := by
  cases written with
  | none =>
    intro c first
    obtain ⟨digit, point, -⟩ := ends c first
    exact ⟨digit, point⟩
  | @some letter _ _ _ _ mark =>
    intro c first
    obtain rfl : letter = c := Option.some_inj.1 first
    obtain rfl | rfl : letter = 'e' ∨ letter = 'E' := by simpa using mark
    · exact ⟨by decide, by decide⟩
    · exact ⟨by decide, by decide⟩

/-- No digit comes where a fraction may. -/
lemma WrittenFraction.behind {fraction : List Nat} {literal : List Char}
    (written : WrittenFraction fraction literal)
    (ends : ∀ c ∈ rest.head?, Text.isDigit c = false ∧ c ≠ '.') :
    ∀ c ∈ (literal ++ rest).head?, Text.isDigit c = false := by
  cases written with
  | none => exact fun c first => (ends c first).1
  | some =>
    intro c first
    obtain rfl : '.' = c := Option.some_inj.1 first
    decide

/-- Numbers are read as they are written, digit by digit. -/
theorem reads_readNumeral (negative : Bool) :
    Reads (fun numeral literal => numeral.negative = negative ∧ numeral.WrittenUnsigned literal)
      (fun numeral read => numeral = read) (readNumeral negative) where
  sound {numeral text rest} read := by
    obtain ⟨_, read⟩ := Reader.run_eq_ok_iff.1 read
    unfold readNumeral at read
    split at read
    · cases read
    · rename_i wholeFound
      split at read
      · cases read
      · rename_i fractionFound
        split at read
        · cases read
        · rename_i exponentFound
          cases read
          obtain ⟨span, canonical⟩ := run_readWhole.1 (Reader.run_eq_ok_iff.2 ⟨_, wholeFound⟩)
          obtain ⟨whole, rfl, written⟩ := spanDigits_sound span
          obtain ⟨fraction, rfl, written'⟩ := readFraction_sound fractionFound
          obtain ⟨exponent, rfl, written''⟩ := readExponent_sound exponentFound
          exact ⟨_, _, by simp, ⟨rfl, .mk ⟨written, canonical⟩ written' written''⟩, rfl⟩
  complete {read numeral literal rest} form same ends := by
    obtain ⟨rfl, ⟨⟨written, canonical⟩, written', written''⟩⟩ := form
    subst same
    have ends' := written''.behind ends
    have ends'' := written'.behind ends'
    have span := spanDigits_complete written ends''
    obtain ⟨_, wholeFound⟩ := Reader.run_eq_ok_iff.1 (run_readWhole.2 ⟨span, canonical⟩)
    obtain ⟨_, fractionFound⟩ := readFraction_complete written' rfl ends'
    obtain ⟨_, exponentFound⟩ := readExponent_complete written'' rfl ends
    rw [List.append_assoc, List.append_assoc]
    simp only [Reader.run, readNumeral, wholeFound, fractionFound, exponentFound, Except.map]

/-- A number without its sign starts with a digit. -/
lemma Numeral.WrittenUnsigned.head {numeral : Numeral} {literal : List Char}
    (written : numeral.WrittenUnsigned literal) :
    ∃ c later, literal = c :: later ∧ Text.isDigit c = true := by
  obtain @⟨whole, _, _, ⟨written, canonical⟩, -, -⟩ := written
  have full : numeral.whole ≠ [] := by
    intro none
    simp [none] at canonical
  obtain ⟨c, first, digit⟩ := written.head full []
  cases whole with
  | nil => cases first
  | cons c' later =>
    obtain rfl : c' = c := Option.some_inj.1 first
    exact ⟨_, _, rfl, digit⟩

/-- What stands behind a sign is the same for both signs. -/
lemma Numeral.WrittenUnsigned.sign {numeral : Numeral} {literal : List Char}
    (written : numeral.WrittenUnsigned literal) (negative : Bool) :
    ({ numeral with negative } : Numeral).WrittenUnsigned literal := by
  obtain ⟨whole, fraction, exponent⟩ := written
  exact .mk whole fraction exponent

end Typeset.Json
