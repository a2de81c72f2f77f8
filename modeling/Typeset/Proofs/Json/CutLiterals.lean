import Typeset.Proofs.Json.Tokens

/-!
# Literals that are cut

Words and strings that are cut apart end too early. A number that is cut apart may be read as
another number, so it is told from the others.
-/

namespace Typeset.Json

variable {α : Type} {text rest front back whole : List Char} {c : Char}

section Words

/-- A text that ends in a word. -/
lemma keyword_of_front {more : List Char} (full : more ≠ []) :
    keyword (front ++ more) front = .error .endInValue := by
  induction front with
  | nil =>
    obtain ⟨c, more, rfl⟩ := List.exists_cons_of_ne_nil full
    rfl
  | cons c front ih => simp [keyword, ih, Except.map]

/-- A keyword that is cut ends too early. -/
lemma cutAt_keyword {letters : List Char} {x : α} (word : Tokens (c :: letters)) :
    CutAt [c] (fun text => (keyword letters text).map fun after => (x, after.1)) front back := by
  intro y rest ran
  obtain ⟨rfl, cut⟩ := map_keyword_eq_ok_iff.1 ran
  obtain ⟨left, rfl, after⟩ | ⟨more, full, rfl, -⟩ := cut_cases cut
  · exact .behind rfl word after (map_keyword_eq_ok_iff.2 ⟨rfl, rfl⟩)
  · refine .early ⟨.endInValue, ?_, rfl⟩
    dsimp only
    rw [keyword_of_front full]
    rfl

end Words

section Strings

/-- A reader is refused alike with and without the proof that it got on. -/
lemma Reader.run_eq_error_iff {reader : Reader α} {cause : Cause} :
    reader.run text = .error cause ↔ reader text = .error cause :=
  map_eq_error_iff

/-- A reading of a part of a string goes on in front of the cut as it does in the whole text, or ends
too early. -/
def StopsAt (read : List Char → Except Cause (α × List Char)) (front back : List Char) : Prop :=
  ∀ x rest, read (front ++ back) = .ok (x, rest) →
    (∃ left, rest = left ++ back ∧ read front = .ok (x, left)) ∨ read front = .error .endInString

/-- A hexadecimal digit takes one byte. -/
lemma utf8ByteSize_of_hexDigits (digits : ∀ c ∈ text, ∃ digit, (c, digit) ∈ hexDigits) :
    (String.ofList text).utf8ByteSize = text.length := by
  have size : ∀ entry ∈ hexDigits, entry.1.utf8Size = 1 := by decide
  induction text with
  | nil => rfl
  | cons c text ih =>
    obtain ⟨⟨digit, entry⟩, later⟩ := List.forall_mem_cons.1 digits
    have first := size _ entry
    simp only at first
    simp [String.ofList_cons, first, ih later, Nat.add_comm]

/-- Too few digits end the text. -/
lemma readQuad_of_front {number : Nat} {more : List Char}
    (written : WrittenQuad number (front ++ more)) (full : more ≠ []) :
    readQuad front = .error .endInString := by
  have four : (front ++ more).length = 4 ∧ ∀ c ∈ front ++ more, ∃ digit, (c, digit) ∈ hexDigits := by
    generalize front ++ more = digits at written
    obtain ⟨first, second, third, fourth⟩ := written
    refine ⟨rfl, ?_⟩
    simp only [List.forall_mem_cons]
    exact ⟨⟨_, first⟩, ⟨_, second⟩, ⟨_, third⟩, ⟨_, fourth⟩, by simp⟩
  have short : front.length < 4 := by
    have longer := List.length_pos_of_ne_nil full
    rw [List.length_append] at four
    omega
  have under : underFourBytes front = true := by
    rw [underFourBytes, List.take_of_length_le (by omega), decide_eq_true_iff,
      utf8ByteSize_of_hexDigits fun c mem => four.2 c (List.mem_append_left more mem)]
    exact short
  unfold readQuad
  split
  · simp only [List.length_cons] at short
    omega
  · rw [if_pos under]

/-- The second escape of a pair of surrogates. -/
lemma stopsAt_readTrailing {leading : Nat} : StopsAt (readTrailing leading).run front back := by
  intro c rest ran
  obtain ⟨trailing, digits, cut, written, half, same⟩ := run_readTrailing.1 ran
  match front with
  | [] => exact .inr rfl
  | [c'] =>
    obtain ⟨rfl, -⟩ := List.cons.inj cut
    exact .inr rfl
  | c₁ :: c₂ :: front =>
    simp only [List.cons_append, List.cons.injEq] at cut
    obtain ⟨rfl, rfl, cut⟩ := cut
    obtain ⟨left, rfl, after⟩ | ⟨more, full, rfl, -⟩ := cut_cases cut
    · exact .inl ⟨left, after, run_readTrailing.2 ⟨_, digits, rfl, written, half, same⟩⟩
    · exact .inr (by simp [Reader.run, readTrailing, readQuad_of_front written full, Except.map])

/-- A code unit, with the second escape if it needs one. -/
lemma stopsAt_readUnicode : StopsAt readUnicode.run front back := by
  intro c rest ran
  obtain ⟨unit, digits, later, cut, written, half, kind⟩ := run_readUnicode.1 ran
  obtain ⟨left, rfl, rfl⟩ | ⟨more, full, rfl, -⟩ := cut_cases cut
  · obtain ⟨kind, same, rfl⟩ | ⟨kind, ran'⟩ := kind
    · exact .inl ⟨left, rfl, run_readUnicode.2 ⟨_, _, _, rfl, written, half, .inl ⟨kind, same, rfl⟩⟩⟩
    · obtain ⟨left', after, ran'⟩ | early := stopsAt_readTrailing c rest ran'
      · exact .inl ⟨left', after,
          run_readUnicode.2 ⟨_, _, _, rfl, written, half, .inr ⟨kind, ran'⟩⟩⟩
      · have read : readQuad.run (digits ++ left) = .ok (unit, left) :=
          run_readQuad.2 ⟨digits, rfl, written⟩
        obtain ⟨_, found⟩ := Reader.run_eq_ok_iff.1 read
        have early := Reader.run_eq_error_iff.1 early
        exact .inr (by simp [Reader.run, readUnicode, found, half, kind, early, Except.map])
  · exact .inr (by simp [Reader.run, readUnicode, readQuad_of_front written full, Except.map])

/-- What stands behind a backslash. -/
lemma stopsAt_readEscape : StopsAt readEscape.run front back := by
  intro c rest ran
  cases front with
  | nil => exact .inr rfl
  | cons c' front =>
    obtain ⟨letter, same, entry⟩ | ⟨later, same, ran'⟩ := run_readEscape.1 ran
    · obtain ⟨rfl, rfl⟩ := List.cons.inj same
      exact .inl ⟨front, rfl, run_readEscape.2 (.inl ⟨_, rfl, entry⟩)⟩
    · obtain ⟨rfl, rfl⟩ := List.cons.inj same
      obtain ⟨left, after, ran''⟩ | early := stopsAt_readUnicode c rest ran'
      · exact .inl ⟨left, after, run_readEscape.2 (.inr ⟨_, rfl, ran''⟩)⟩
      · have early := Reader.run_eq_error_iff.1 early
        have other : simpleEscape? 'u' = none := by decide
        exact .inr (by simp [Reader.run, readEscape, other, early, Except.map])

/-- A string that is cut apart ends too early. The induction is on what it denotes: the two halves of
a surrogate pair are one step of the reader. -/
lemma readStringFrom_of_front {parts : List StringPart} {chars more : List Char}
    (written : WrittenString parts (front ++ more)) (denoted : Denotes parts chars)
    (full : more ≠ []) (done : List Char) (within : front.length ≤ whole.length) :
    readStringFrom whole done front within = .error .endInString := by
  induction chars generalizing parts front done with
  | nil =>
    have single := written.of_nil denoted
    cases front with
    | nil => rw [readStringFrom]
    | cons c front =>
      obtain ⟨-, none⟩ := List.cons.inj single
      exact (full (List.append_eq_nil_iff.1 none).2).elim
  | cons c chars ih =>
    obtain ⟨step, parts, later, cut, behind, meant, kind⟩ := written.of_cons denoted
    cases front with
    | nil => rw [readStringFrom]
    | cons c' front =>
      obtain ⟨rfl, quote, backslash, above⟩ | ⟨escape, rfl, read⟩ := kind
      · obtain ⟨rfl, rfl⟩ := List.cons.inj cut
        rw [readStringFrom_plain quote backslash above within]
        exact ih behind meant _ _
      · simp only [List.cons_append, List.cons.injEq] at cut
        obtain ⟨rfl, cut⟩ := cut
        -- The cut is behind the escape, or the escape itself is cut apart.
        obtain ⟨left, rfl, rfl⟩ | ⟨more', full', rfl, -⟩ := cut_cases cut
        · obtain ⟨within', same⟩ := readStringFrom_escape (read left) done within
          rw [same]
          exact ih behind meant _ _
        · have whole := read []
          rw [List.append_assoc] at whole
          obtain ⟨left, after, -⟩ | early := stopsAt_readEscape c [] whole
          · exact (full' (by simpa using (List.append_eq_nil_iff.1 after.symm).2)).elim
          · rw [readStringFrom]
            simp [Reader.run_eq_error_iff.1 early]

/-- Where a part of a string is cut, the string ends too early. -/
lemma skipStringFrom_of_part {part : StringPart} {more : List Char}
    (written : part.Written (front ++ more)) (full : more ≠ [])
    (within : front.length ≤ whole.length) :
    skipStringFrom whole front within = .error .endInString := by
  generalize same : front ++ more = literal at written
  cases front with
  | nil => rw [skipStringFrom.eq_def]
  | cons c front =>
    cases written with
    | plain => simp [full] at same
    | escaped =>
      cases front with
      | nil =>
        obtain ⟨rfl, -⟩ := List.cons.inj same
        rw [skipStringFrom.eq_def]
        simp
      | cons c' front => simp [full] at same
    | unit quad =>
      cases front with
      | nil =>
        obtain ⟨rfl, -⟩ := List.cons.inj same
        rw [skipStringFrom.eq_def]
        simp
      | cons c' front =>
        simp only [List.cons_append, List.cons.injEq] at same
        obtain ⟨rfl, rfl, rfl⟩ := same
        have other : simpleEscape? 'u' = none := by decide
        rw [skipStringFrom.eq_def]
        simp [other, readQuad_of_front quad full]

/-- A string that nobody asks for ends too early as well. -/
lemma skipStringFrom_of_front {parts : List StringPart} {more : List Char}
    (written : WrittenString parts (front ++ more)) (full : more ≠ [])
    (within : front.length ≤ whole.length) :
    skipStringFrom whole front within = .error .endInString := by
  generalize same : front ++ more = body at written
  induction written generalizing front with
  | close =>
    cases front with
    | nil => rw [skipStringFrom.eq_def]
    | cons c front =>
      obtain ⟨-, none⟩ := List.cons.inj same
      exact (full (List.append_eq_nil_iff.1 none).2).elim
  | @part part parts text rest form _ ih =>
    obtain ⟨left, rfl, after⟩ | ⟨more', full', rfl, -⟩ := cut_cases same
    · obtain ⟨within', passed⟩ := skipStringFrom_part form rfl within
      rw [passed]
      exact ih within' after.symm
    · exact skipStringFrom_of_part form full' within

/-- What reads strings, whatever stands behind them, and finds out where they are cut apart. -/
lemma cutAt_string {means : List StringPart → α → Prop} {reader : Reader α}
    (reads : Reads WrittenString means reader)
    (ends : ∀ {x parts front more}, WrittenString parts (front ++ more) → means parts x →
      more ≠ [] → reader.run front = .error .endInString)
    (complete : ∀ {x parts body rest}, WrittenString parts body → means parts x →
      reader.run (body ++ rest) = .ok (x, rest)) :
    CutAt ['"'] reader.run front back := by
  intro x rest ran
  obtain ⟨parts, body, cut, written, meant⟩ := reads.sound ran
  obtain ⟨left, rfl, after⟩ | ⟨more, full, rfl, -⟩ := cut_cases cut
  · exact .behind rfl (Token.text written).tokens after (complete written meant)
  · exact .early ⟨.endInString, ends written meant full, rfl⟩

/-- A string that is cut ends too early. -/
lemma cutAt_readString : CutAt ['"'] readString.run front back := by
  refine cutAt_string reads_readString (fun {string parts front more} written denoted full => ?_)
    readString_complete
  rw [Reader.run_eq_error_iff, readString, readStringFrom_of_front written denoted full]
  rfl

/-- A string that is cut while it is passed over ends too early. -/
lemma cutAt_skipString : CutAt ['"'] skipString.run front back := by
  refine cutAt_string reads_skipString (fun {_ parts front more} written _ full => ?_)
    fun written _ => skipString_complete written
  rw [Reader.run_eq_error_iff, skipString, skipStringFrom_of_front written full]

end Strings

section Numbers

/-- Where something is left in front of the cut, that is where the reading has ended. -/
def Keeps (read : List Char → Except Cause (α × List Char)) : Prop :=
  ∀ {front back left x}, left ≠ [] → read (front ++ back) = .ok (x, left ++ back) →
    read front = .ok (x, left)

/-- What is left is the end of the text. -/
def Consumes (read : List Char → Except Cause (α × List Char)) : Prop :=
  ∀ {text x rest}, read text = .ok (x, rest) → ∃ literal, text = literal ++ rest

variable {β : Type} {left : List Char}

/-- A reading keeps where it ended if both readings it consists of do. -/
lemma Keeps.andThen {read : List Char → Except Cause (α × List Char)}
    {next : α → List Char → Except Cause (β × List Char)} (keeps : Keeps read)
    (keeps' : ∀ x, Keeps (next x)) (consumes : ∀ x, Consumes (next x)) :
    Keeps (andThen read next) := by
  intro front back left y full ran
  unfold Json.andThen at ran ⊢
  cases found : read (front ++ back) with
  | error cause =>
    rw [found] at ran
    cases ran
  | ok given =>
    obtain ⟨x, between⟩ := given
    rw [found] at ran
    obtain ⟨literal, rfl⟩ := consumes x ran
    have first := @keeps front back (literal ++ left) x (by simp [full]) (by simpa using found)
    rw [first]
    exact keeps' x full (by simpa using ran)

/-- A reading leaves the end of the text if both readings it consists of do. -/
lemma Consumes.andThen {read : List Char → Except Cause (α × List Char)}
    {next : α → List Char → Except Cause (β × List Char)} (consumes : Consumes read)
    (consumes' : ∀ x, Consumes (next x)) : Consumes (andThen read next) := by
  intro text y rest ran
  unfold Json.andThen at ran
  cases found : read text with
  | error cause =>
    rw [found] at ran
    cases ran
  | ok given =>
    obtain ⟨x, between⟩ := given
    rw [found] at ran
    obtain ⟨literal, rfl⟩ := consumes found
    obtain ⟨literal', rfl⟩ := consumes' x ran
    exact ⟨literal ++ literal', by simp⟩

/-- Reading nothing ends where it began. -/
lemma keeps_value {f : α} : Keeps fun text => .ok (f, text) := by
  intro front back left x full ran
  obtain ⟨rfl, same⟩ := Prod.mk.inj (Except.ok.inj ran)
  rw [List.append_cancel_right same]

/-- Reading nothing leaves all of the text. -/
lemma consumes_value {f : α} : Consumes fun text => .ok (f, text) := by
  intro text x rest ran
  obtain ⟨rfl, rfl⟩ := Prod.mk.inj (Except.ok.inj ran)
  exact ⟨[], rfl⟩

/-- The front of a text is not empty if something is left of it. -/
lemma exists_cons_of_left {literal : List Char} (full : left ≠ [])
    (cut : front ++ back = literal ++ (left ++ back)) : ∃ c later, front = c :: later := by
  rw [← List.append_assoc, List.append_cancel_right_eq] at cut
  rw [cut]
  exact List.exists_cons_of_ne_nil (by simp [full])

/-- Digits that end in front of the cut are the same without what is behind it. -/
lemma spanDigits_of_front {digits : List Nat}
    (span : spanDigits (front ++ back) = (digits, left ++ back)) (full : left ≠ []) :
    spanDigits front = (digits, left) := by
  induction front generalizing digits with
  | nil =>
    obtain ⟨literal, cut, -⟩ := spanDigits_sound span
    obtain ⟨c, later, none⟩ := exists_cons_of_left full cut
    cases none
  | cons c front ih =>
    rw [List.cons_append, spanDigits] at span
    rw [spanDigits]
    cases found : Text.digit? c with
    | none =>
      rw [found] at span
      obtain ⟨rfl, same⟩ := Prod.mk.inj span
      rw [← List.cons_append, List.append_cancel_right_eq] at same
      rw [same]
    | some digit =>
      rw [found] at span
      obtain ⟨rfl, same⟩ := Prod.mk.inj span
      rw [ih (Prod.ext rfl same)]

/-- Digits that end in front of the cut. -/
lemma keeps_readDigits : Keeps readDigits.run := by
  intro front back left digits full ran
  obtain ⟨span, some⟩ := run_readDigits.1 ran
  exact run_readDigits.2 ⟨spanDigits_of_front span full, some⟩

/-- The digits in front of a point, where they end in front of the cut. -/
lemma keeps_readWhole : Keeps readWhole.run := by
  intro front back left digits full ran
  obtain ⟨span, canonical⟩ := run_readWhole.1 ran
  exact run_readWhole.2 ⟨spanDigits_of_front span full, canonical⟩

/-- A fraction, without the proof that it got on. -/
def runFraction (text : List Char) : Except Cause (List Nat × List Char) :=
  (readFraction text).map fun read => (read.1, read.2.1)

/-- An exponent, without the proof that it got on. -/
def runExponent (text : List Char) : Except Cause (Option (Bool × List Nat) × List Char) :=
  (readExponent text).map fun read => (read.1, read.2.1)

/-- Behind a point come the digits of a fraction. -/
lemma runFraction_point : runFraction ('.' :: text) = readDigits.run text := by
  cases found : readDigits text <;> simp [runFraction, readFraction, Reader.run, found, Except.map]

/-- Without a point there is no fraction. -/
lemma runFraction_of_ne (other : c ≠ '.') : runFraction (c :: text) = .ok ([], c :: text) := by
  generalize same : c :: text = start
  unfold runFraction readFraction
  split
  · exact (other (List.cons.inj same).1).elim
  · rfl

/-- Without its mark there is no exponent. -/
lemma runExponent_of_ne (other : ¬(c = 'e' ∨ c = 'E')) :
    runExponent (c :: text) = .ok (none, c :: text) := by
  unfold runExponent readExponent
  dsimp only
  rw [if_neg other]
  rfl

/-- The sign of an exponent, without the proof that it got on. -/
def runSign (text : List Char) : Except Cause (Bool × List Char) :=
  .ok ((exponentSign text).1, (exponentSign text).2.1)

/-- Behind the mark of an exponent come its sign, if it has one, and its digits. -/
lemma runExponent_mark (mark : c = 'e' ∨ c = 'E') :
    runExponent (c :: text) =
      andThen runSign (fun negative => andThen readDigits.run fun digits rest =>
        .ok (some (negative, digits), rest)) text := by
  unfold runExponent readExponent andThen runSign Reader.run
  dsimp only
  rw [if_pos mark]
  cases readDigits (exponentSign text).2.1 <;> rfl

/-- A number is its whole part, its fraction and its exponent, one after the other. -/
lemma run_readNumeral {negative : Bool} :
    (readNumeral negative).run =
      andThen readWhole.run fun whole => andThen runFraction fun fraction =>
        andThen runExponent fun exponent rest =>
          .ok (⟨negative, whole, fraction, exponent⟩, rest) := by
  funext text
  unfold Reader.run readNumeral andThen
  dsimp only
  cases readWhole text with
  | error cause => rfl
  | ok whole =>
    dsimp only [Except.map, runFraction]
    cases readFraction whole.rest with
    | error cause => rfl
    | ok fraction =>
      dsimp only [Except.map, runExponent]
      cases readExponent fraction.2.1 with
      | error cause => rfl
      | ok exponent => rfl

/-- Behind digits the end of the text is left. -/
lemma consumes_readDigits : Consumes readDigits.run := by
  intro text digits rest ran
  obtain ⟨literal, cut, -⟩ := spanDigits_sound (run_readDigits.1 ran).1
  exact ⟨literal, cut⟩

/-- Behind a fraction the end of the text is left. -/
lemma consumes_runFraction : Consumes runFraction := by
  intro text fraction rest ran
  obtain ⟨⟨_, _, within⟩, read, same⟩ := map_eq_ok_iff.1 ran
  cases same
  obtain ⟨literal, cut, -⟩ := readFraction_sound read
  exact ⟨literal, cut⟩

/-- Behind an exponent the end of the text is left. -/
lemma consumes_runExponent : Consumes runExponent := by
  intro text exponent rest ran
  obtain ⟨⟨_, _, within⟩, read, same⟩ := map_eq_ok_iff.1 ran
  cases same
  obtain ⟨literal, cut, -⟩ := readExponent_sound read
  exact ⟨literal, cut⟩

/-- A fraction that ends in front of the cut. -/
lemma keeps_runFraction : Keeps runFraction := by
  intro front back left fraction full ran
  obtain ⟨literal, cut⟩ := consumes_runFraction ran
  obtain ⟨c, later, rfl⟩ := exists_cons_of_left full cut
  by_cases point : c = '.'
  · subst point
    rw [List.cons_append, runFraction_point] at ran
    rw [runFraction_point]
    exact keeps_readDigits full ran
  · rw [List.cons_append, runFraction_of_ne point, ← List.cons_append] at ran
    rw [runFraction_of_ne point]
    exact keeps_value full ran

/-- Without a sign an exponent is not negative. -/
lemma runSign_of_ne (plus : c ≠ '+') (minus : c ≠ '-') :
    runSign (c :: text) = .ok (false, c :: text) := by
  generalize same : c :: text = start
  unfold runSign exponentSign
  split
  · exact (plus (List.cons.inj same).1).elim
  · exact (minus (List.cons.inj same).1).elim
  · rfl

/-- Behind a sign the end of the text is left. -/
lemma consumes_runSign : Consumes runSign := by
  intro text negative rest ran
  cases signed : exponentSign text with
  | mk negative' signed' =>
    obtain ⟨rest', within⟩ := signed'
    obtain ⟨sign, -, cut⟩ := exponentSign_sound signed
    rw [runSign, signed] at ran
    cases ran
    exact ⟨sign, cut⟩

/-- A sign in front of the cut. -/
lemma keeps_runSign : Keeps runSign := by
  intro front back left negative full ran
  obtain ⟨literal, cut⟩ := consumes_runSign ran
  obtain ⟨c, later, rfl⟩ := exists_cons_of_left full cut
  rw [List.cons_append] at ran
  by_cases plus : c = '+'
  · subst plus
    exact keeps_value full ran
  · by_cases minus : c = '-'
    · subst minus
      exact keeps_value full ran
    · rw [runSign_of_ne plus minus, ← List.cons_append] at ran
      rw [runSign_of_ne plus minus]
      exact keeps_value full ran

/-- An exponent that ends in front of the cut. -/
lemma keeps_runExponent : Keeps runExponent := by
  intro front back left exponent full ran
  obtain ⟨literal, cut⟩ := consumes_runExponent ran
  obtain ⟨c, later, rfl⟩ := exists_cons_of_left full cut
  by_cases mark : c = 'e' ∨ c = 'E'
  · rw [List.cons_append, runExponent_mark mark] at ran
    rw [runExponent_mark mark]
    have digits (negative : Bool) : Keeps (andThen readDigits.run fun digits rest =>
        .ok (some (negative, digits), rest)) :=
      keeps_readDigits.andThen (fun _ => keeps_value) fun _ => consumes_value
    have digits' (negative : Bool) : Consumes (andThen readDigits.run fun digits rest =>
        .ok (some (negative, digits), rest)) :=
      consumes_readDigits.andThen fun _ => consumes_value
    exact keeps_runSign.andThen digits digits' full ran
  · rw [List.cons_append, runExponent_of_ne mark, ← List.cons_append] at ran
    rw [runExponent_of_ne mark]
    exact keeps_value full ran

/-- A number that ends in front of the cut. -/
lemma keeps_readNumeral (negative : Bool) : Keeps (readNumeral negative).run := by
  rw [run_readNumeral]
  refine keeps_readWhole.andThen (fun _ => ?_) fun _ => ?_
  · refine keeps_runFraction.andThen (fun _ => ?_) fun _ => ?_
    · exact keeps_runExponent.andThen (fun _ => keeps_value) fun _ => consumes_value
    · exact consumes_runExponent.andThen fun _ => consumes_value
  · exact consumes_runFraction.andThen fun _ =>
      consumes_runExponent.andThen fun _ => consumes_value

/-- A number is read up to its end in front of the cut, or it is cut apart. -/
lemma readNumeral_of_cut {negative : Bool} {numeral : Numeral}
    (ran : (readNumeral negative).run (front ++ back) = .ok (numeral, rest)) :
    numeral.negative = negative ∧
      ((∃ literal left, front = literal ++ left ∧ rest = left ++ back ∧
          numeral.WrittenUnsigned literal ∧ (readNumeral negative).run front = .ok (numeral, left)) ∨
        ∃ more after, more ≠ [] ∧ back = more ++ after ∧ numeral.WrittenUnsigned (front ++ more)) := by
  obtain ⟨_, literal, cut, ⟨sign, written⟩, rfl⟩ := (reads_readNumeral negative).sound ran
  refine ⟨sign, ?_⟩
  obtain ⟨left, rfl, rfl⟩ | ⟨more, full, rfl, after⟩ := cut_cases cut
  · refine .inl ⟨literal, left, rfl, rfl, written, ?_⟩
    -- At the end of a text a number ends in any case; elsewhere what is left tells that it did.
    by_cases full : left = []
    · subst full
      exact (reads_readNumeral negative).complete ⟨sign, written⟩ rfl allBlank_nil.ends
    · exact keeps_readNumeral negative full ran
  · exact .inr ⟨more, rest, full, after, written⟩

/-- What is read by a number alone, behind its sign or without one. -/
lemma cut_numeral {negative : Bool} {numeral : Numeral} {sign : List Char} {x : α}
    {result : Except Cause (α × List Char)}
    (ran : (readNumeral negative).run (front ++ back) = .ok (numeral, rest))
    (signed : ∀ literal, numeral.negative = negative → numeral.WrittenUnsigned literal →
      ∃ numeral, Written (.number numeral) (sign ++ literal))
    (begun : sign ++ front ≠ [])
    (given : ∀ left, (readNumeral negative).run front = .ok (numeral, left) →
      result = .ok (x, left)) :
    Cut sign front back x rest result := by
  obtain ⟨negative, ⟨literal, left, rfl, rfl, written, ran'⟩ | ⟨more, after, full, rfl, written⟩⟩ :=
    readNumeral_of_cut ran
  · obtain ⟨_, whole⟩ := signed literal negative written
    exact .behind rfl (Token.number whole).tokens rfl (given left ran')
  · obtain ⟨numeral, whole⟩ := signed (front ++ more) negative written
    rw [← List.append_assoc] at whole
    exact .number ⟨[], sign ++ front, more, after, numeral, rfl, rfl, .nil, begun, full, whole⟩

end Numbers

end Typeset.Json
