import Typeset.Proofs.Json.Placement
import Typeset.Proofs.Json.Strings

/-!
# Texts that are cut

What comes of reading the front of a text when the whole text can be read. A text is cut into
tokens, and if a number is not cut apart then reading the front goes the way of reading the whole
text: either the value ends in front of the cut, or the text ends too early. This carries over from
readers to what they are put together to.
-/

namespace Typeset.Json

section Tokens

/-- A token: a mark, a word, a number or a string. Blanks are tokens of their own. -/
inductive Token : List Char → Prop where
  | blank {c : Char} : c ∈ [' ', '\t', '\n', '\r'] → Token [c]
  | mark {c : Char} : c ∈ ['[', ']', '\x7b', '\x7d', ',', ':'] → Token [c]
  | word {letters : List Char} :
    letters ∈ [['n', 'u', 'l', 'l'], ['t', 'r', 'u', 'e'], ['f', 'a', 'l', 's', 'e']] → Token letters
  | number {numeral : Numeral} {literal : List Char} :
    Written (.number numeral) literal → Token literal
  | text {parts : List StringPart} {body : List Char} :
    WrittenString parts body → Token ('"' :: body)

/-- A text of whole tokens. -/
inductive Tokens : List Char → Prop where
  | nil : Tokens []
  | cons {token text : List Char} : Token token → Tokens text → Tokens (token ++ text)

/-- A number is cut apart: it stands behind whole tokens, and ends behind the cut only. -/
def CutsNumber (front back : List Char) : Prop :=
  ∃ before left right after numeral, front = before ++ left ∧ back = right ++ after ∧
    Tokens before ∧ left ≠ [] ∧ right ≠ [] ∧ Written (.number numeral) (left ++ right)

variable {token text text' front back : List Char}

/-- A token is a text of whole tokens. -/
lemma Token.tokens (token : Token text) : Tokens text := by
  have alone := Tokens.cons token .nil
  rwa [List.append_nil] at alone

/-- Whole tokens behind whole tokens are whole. -/
lemma Tokens.append (tokens : Tokens text) (tokens' : Tokens text') : Tokens (text ++ text') := by
  induction tokens with
  | nil => exact tokens'
  | cons token _ ih =>
    rw [List.append_assoc]
    exact .cons token ih

/-- Blanks are whole tokens. -/
lemma AllBlank.tokens (blanks : AllBlank text) : Tokens text := by
  induction text with
  | nil => exact .nil
  | cons c text ih =>
    obtain ⟨first, later⟩ := List.forall_mem_cons.1 blanks
    exact .cons (.blank first) (ih later)

/-- A number that is cut is cut as well behind whole tokens. -/
lemma CutsNumber.behind (tokens : Tokens text) (cuts : CutsNumber front back) :
    CutsNumber (text ++ front) back := by
  obtain ⟨before, left, right, after, numeral, rfl, rfl, tokens', full, full', written⟩ := cuts
  exact ⟨text ++ before, left, right, after, numeral, by rw [List.append_assoc], rfl,
    tokens.append tokens', full, full', written⟩

/-- The characters of numbers. -/
def numberChars : List Char :=
  decimalDigits.map Prod.fst ++ ['-', '+', '.', 'e', 'E']

/-- Digits are characters of numbers. -/
lemma WrittenDigits.mem_numberChars {digits : List Nat} (written : WrittenDigits digits text) :
    ∀ c ∈ text, c ∈ numberChars := by
  induction written with
  | nil => simp
  | cons entry _ ih =>
    refine List.forall_mem_cons.2 ⟨List.mem_append_left _ ?_, ih⟩
    exact List.mem_map.2 ⟨_, entry, rfl⟩

/-- Fractions have characters of numbers. -/
lemma WrittenFraction.mem_numberChars {digits : List Nat} (written : WrittenFraction digits text) :
    ∀ c ∈ text, c ∈ numberChars := by
  cases written with
  | none => simp
  | some _ digits => exact List.forall_mem_cons.2 ⟨by decide, digits.mem_numberChars⟩

/-- Exponents have characters of numbers. -/
lemma WrittenExponent.mem_numberChars {exponent : Option (Bool × List Nat)}
    (written : WrittenExponent exponent text) : ∀ c ∈ text, c ∈ numberChars := by
  cases written with
  | none => simp
  | some letter sign _ digits =>
    have letters : ['e', 'E'] ⊆ numberChars := by decide
    have signs : ∀ entry ∈ [(false, []), (false, ['+']), (true, ['-'])],
        entry.2 ⊆ numberChars := by
      decide
    refine List.forall_mem_cons.2 ⟨letters letter, List.forall_mem_append.2 ⟨?_, ?_⟩⟩
    · exact signs _ sign
    · exact digits.mem_numberChars

/-- Numbers have characters of numbers. -/
lemma Written.mem_numberChars {numeral : Numeral} (written : Written (.number numeral) text) :
    ∀ c ∈ text, c ∈ numberChars := by
  have unsigned {text : List Char} (form : numeral.WrittenUnsigned text) :
      ∀ c ∈ text, c ∈ numberChars := by
    obtain ⟨whole, fraction, exponent⟩ := form
    refine List.forall_mem_append.2 ⟨whole.written.mem_numberChars, ?_⟩
    exact List.forall_mem_append.2 ⟨fraction.mem_numberChars, exponent.mem_numberChars⟩
  cases written with
  | positive _ form => exact unsigned form
  | negative _ form => exact List.forall_mem_cons.2 ⟨by decide, unsigned form⟩

/-- A number is cut apart between two of its characters. -/
lemma CutsNumber.between (cuts : CutsNumber front back) :
    (∃ c ∈ front.getLast?, c ∈ numberChars) ∧ ∃ c ∈ back.head?, c ∈ numberChars := by
  obtain ⟨before, left, right, after, numeral, rfl, rfl, -, full, full', written⟩ := cuts
  obtain ⟨lefts, rights⟩ := List.forall_mem_append.1 written.mem_numberChars
  refine ⟨⟨left.getLast full, ?_, lefts _ (left.getLast_mem full)⟩,
    right.head full', ?_, rights _ (right.head_mem full')⟩
  · simp [List.getLast?_append, List.getLast?_eq_some_getLast full]
  · simp [List.head?_append, List.head?_eq_some_head full']

end Tokens

/-- The cut lies behind what a text begins with, or in it. -/
lemma cut_cases {front back token rest : List Char} (cut : front ++ back = token ++ rest) :
    (∃ left, front = token ++ left ∧ rest = left ++ back) ∨
      ∃ more, more ≠ [] ∧ token = front ++ more ∧ back = more ++ rest := by
  obtain ⟨more, rfl, rfl⟩ | ⟨left, rfl, rfl⟩ := List.append_eq_append_iff.1 cut
  · cases more with
    | nil => exact .inl ⟨[], by simp, rfl⟩
    | cons c more => exact .inr ⟨c :: more, List.cons_ne_nil c more, rfl, rfl⟩
  · exact .inl ⟨left, rfl, rfl⟩

/-- The text ends before what is read does. -/
def EndsEarly {α : Type} (result : Except Cause α) : Prop :=
  ∃ cause, result = .error cause ∧ cause.isEnd = true

/-- The messages about a text that ends too early are four. -/
lemma Cause.message_of_isEnd {cause : Cause} (ends : cause.isEnd = true) :
    cause.message ∈ ["EOF while parsing a value", "EOF while parsing a list",
      "EOF while parsing an object", "EOF while parsing a string"] := by
  cases cause with
  | endInValue | endInList | endInObject | endInString =>
    unfold message
    simp only [List.mem_cons, eq_self, true_or, or_true]
  | _ => cases ends

/-- What comes of the front of a text that is cut, if the whole text is read to a value. `done` is
the beginning of a token in front of the text. -/
inductive Cut {α : Type} (done front back : List Char) (x : α) (rest : List Char)
    (result : Except Cause (α × List Char)) : Prop where
  | behind {consumed left : List Char} :
    front = consumed ++ left → Tokens (done ++ consumed) → rest = left ++ back →
    result = .ok (x, left) → Cut done front back x rest result
  | early : EndsEarly result → Cut done front back x rest result
  | number : CutsNumber (done ++ front) back → Cut done front back x rest result

/-- What is read of the front of a text goes the way of what is read of the whole text. -/
def CutAt {α : Type} (done : List Char) (read : List Char → Except Cause (α × List Char))
    (front back : List Char) : Prop :=
  ∀ x rest, read (front ++ back) = .ok (x, rest) → Cut done front back x rest (read front)

/-- The same behind a first character that decides how it goes on. -/
def CutBehind {α : Type} (c : Char) (read : List Char → Except Cause (α × List Char))
    (front back : List Char) : Prop :=
  ∀ x rest, read (front ++ back) = .ok (x, rest) → Cut [] (c :: front) back x rest (read front)

section Readings

variable {α β : Type} {text front back done : List Char} {c : Char}
  {read : List Char → Except Cause (α × List Char)}

/-- One reading after the other. -/
def andThen (read : List Char → Except Cause (α × List Char))
    (next : α → List Char → Except Cause (β × List Char)) (text : List Char) :
    Except Cause (β × List Char) :=
  match read text with
  | .error cause => .error cause
  | .ok (x, rest) => next x rest

/-- A reading that goes by the first character that is not blank. -/
def atFirst (cause : Cause) (step : Char → List Char → Except Cause (α × List Char))
    (text : List Char) : Except Cause (α × List Char) :=
  match dropBlanks text with
  | [] => .error cause
  | c :: start => step c start

/-- Where a token is over, a value may be given. -/
lemma CutAt.value {x : α} (tokens : Tokens done) :
    CutAt done (fun text => .ok (x, text)) front back := by
  intro x' rest ran
  cases ran
  exact .behind (List.nil_append front).symm (by rwa [List.append_nil]) rfl rfl

/-- Whole tokens in front of a reading may be counted to what was read before. -/
lemma CutAt.ofTokens (tokens : Tokens done) (cut : CutAt [] read front back) :
    CutAt done read front back := by
  intro x rest ran
  cases cut x rest ran with
  | behind same tokens' after ran' => exact .behind same (tokens.append tokens') after ran'
  | early ends => exact .early ends
  | number cuts => exact .number (cuts.behind tokens)

/-- Where the whole text is refused, nothing is asked of its front. -/
lemma CutAt.refused {cause : Cause} (refused : read (front ++ back) = .error cause) :
    CutAt done read front back := by
  intro x rest ran
  cases refused.symm.trans ran

/-- If one reading ends in front of the cut, the next one is cut there. -/
lemma CutAt.andThen {next : α → List Char → Except Cause (β × List Char)}
    (first : CutAt done read front back)
    (second : ∀ x consumed left, front = consumed ++ left → read front = .ok (x, left) →
      CutAt [] (next x) left back) :
    CutAt done (andThen read next) front back := by
  intro y rest ran
  unfold Json.andThen at ran ⊢
  cases found : read (front ++ back) with
  | error cause =>
    rw [found] at ran
    cases ran
  | ok given =>
    obtain ⟨x, between⟩ := given
    rw [found] at ran
    cases first x between found with
    | @behind consumed left same tokens after ran' =>
      subst after
      rw [ran']
      -- The next reading begins in front of the cut, behind what the first one has consumed.
      cases second x consumed left same ran' y rest ran with
      | @behind consumed' left' same' tokens' after' ran'' =>
        have together : front = (consumed ++ consumed') ++ left' := by
          rw [same, same', List.append_assoc]
        refine .behind together ?_ after' ran''
        rw [← List.append_assoc]
        exact tokens.append tokens'
      | early ends => exact .early ends
      | number cuts =>
        refine .number ?_
        rw [same, ← List.append_assoc]
        exact cuts.behind tokens
    | early ends =>
      obtain ⟨cause, refused, ends⟩ := ends
      exact .early ⟨cause, by rw [refused], ends⟩
    | number cuts => exact .number cuts

/-- Only what is read of the front and of the whole text matters. -/
lemma CutAt.congr {read' : List Char → Except Cause (α × List Char)}
    (cut : CutAt done read' front back) (same : read front = read' front)
    (same' : read (front ++ back) = read' (front ++ back)) : CutAt done read front back := by
  intro x rest ran
  rw [same'] at ran
  rw [same]
  exact cut x rest ran

/-- A cut reading goes the same way when what it reads is changed. -/
lemma CutAt.map (f : α → β) (cut : CutAt done read front back) :
    CutAt done (fun text => (read text).map fun read => (f read.1, read.2)) front back := by
  intro y rest ran
  obtain ⟨⟨x, between⟩, ran', same⟩ := map_eq_ok_iff.1 ran
  cases same
  dsimp only
  cases cut x between ran' with
  | behind same tokens after ran'' => exact .behind same tokens after (by rw [ran'']; rfl)
  | early ends =>
    obtain ⟨cause, refused, ends⟩ := ends
    exact .early ⟨cause, by rw [refused]; rfl, ends⟩
  | number cuts => exact .number cuts

/-- What is left behind blanks is read behind them. -/
lemma dropBlanks_append_of_cons {start : List Char} (found : dropBlanks front = c :: start)
    (back : List Char) : dropBlanks (front ++ back) = c :: (start ++ back) := by
  induction front with
  | nil => cases found
  | cons c' front ih =>
    rw [dropBlanks] at found
    rw [List.cons_append, dropBlanks]
    by_cases first : isBlank c' = true
    · rw [if_pos first] at found ⊢
      exact ih found
    · rw [if_neg first] at found ⊢
      cases found
      rfl

/-- A reading that has begun with a character goes the same way behind it. -/
lemma CutAt.behind (cut : CutAt [c] read front back) : CutBehind c read front back := by
  intro x rest ran
  cases cut x rest ran with
  | behind same tokens after ran' =>
    exact .behind (congrArg (c :: ·) same) tokens after ran'
  | early ends => exact .early ends
  | number cuts => exact .number cuts

/-- Behind a token of one character, reading goes on as from the beginning. -/
lemma CutAt.behindToken (token : Token [c]) (cut : CutAt [] read front back) :
    CutBehind c read front back :=
  (cut.ofTokens token.tokens).behind

/-- Behind a character that is a token of its own, a value is there at once. -/
lemma CutBehind.value {x : α} (token : Token [c]) :
    CutBehind c (fun text => .ok (x, text)) front back :=
  CutAt.behindToken token (.value .nil)

/-- What is refused in the whole text has no way to go. -/
lemma CutBehind.error {cause : List Char → Cause} :
    CutBehind c (fun text => (.error (cause text) : Except Cause (α × List Char))) front back :=
  CutAt.behind (.refused rfl)

/-- Behind a character, a choice goes the way of each of its readings. -/
lemma CutBehind.ite {condition : Prop} [Decidable condition]
    {read' : List Char → Except Cause (α × List Char)}
    (yes : condition → CutBehind c read front back)
    (no : ¬condition → CutBehind c read' front back) :
    CutBehind c (fun text => if condition then read text else read' text) front back := by
  by_cases holds : condition
  · simpa only [if_pos holds] using yes holds
  · simpa only [if_neg holds] using no holds

/-- Nothing but blanks ends too early. -/
lemma CutAt.unlessBlank (cause : Cause) (ends : cause.isEnd = true)
    (blank : dropBlanks front = [] → read front = .error cause)
    (full : ∀ c left, dropBlanks front = c :: left → CutAt done read front back) :
    CutAt done read front back := by
  intro x rest ran
  cases found : dropBlanks front with
  | nil => exact .early ⟨cause, blank found, ends⟩
  | cons c left => exact full c left found x rest ran

/-- Behind blanks, the first character decides. -/
lemma CutBehind.blanks {step : List Char → Except Cause (α × List Char)} {left : List Char}
    (cut : CutBehind c step left back) (found : dropBlanks front = c :: left)
    (same : read front = step left) (same' : read (front ++ back) = step (left ++ back)) :
    CutAt [] read front back := by
  intro x rest ran
  obtain ⟨blank, blanks, together⟩ := exists_blank_cons found
  rw [same'] at ran
  rw [same]
  cases cut x rest ran with
  | behind together' tokens after ran' =>
    rw [together', ← List.append_assoc] at together
    exact .behind together (blanks.tokens.append tokens) after ran'
  | early ends => exact .early ends
  | number cuts =>
    refine .number ?_
    rw [List.nil_append, together]
    exact cuts.behind blanks.tokens

/-- Either nothing is left of the front, or its first character decides. -/
lemma CutAt.atFirst {cause : Cause} {step : Char → List Char → Except Cause (α × List Char)}
    (ends : cause.isEnd = true) (steps : ∀ c left, CutBehind c (step c) left back) :
    CutAt [] (atFirst cause step) front back := by
  refine .unlessBlank cause ends (fun found => ?_) fun c left found => ?_
  · rw [Json.atFirst, found]
  · refine (steps c left).blanks found ?_ ?_
    · rw [Json.atFirst, found]
    · rw [Json.atFirst, dropBlanks_append_of_cons found]

/-- What looks at the first character that is not blank goes by it. -/
lemma eq_atFirst {cause : Cause} {step : Char → List Char → Except Cause (α × List Char)}
    (nothing : ∀ {text}, peek? text = none → read text = .error cause)
    (first : ∀ {text c start shorter}, peek? text = some ⟨c, start, shorter⟩ →
      read text = step c start) :
    read = Json.atFirst cause step := by
  funext text
  unfold Json.atFirst
  obtain ⟨peeked, found⟩ | ⟨c, start, shorter, peeked, found⟩ := peek?_cases text
  · rw [found, nothing peeked]
  · rw [found, first peeked]

end Readings

end Typeset.Json
