import Typeset.Proofs.Json.CutLiterals
import Typeset.Proofs.Json.Skipping

/-!
# Skipped values that are cut

Each step over a skipped value goes the way that it goes in the whole text, or finds that the text
ends too early. So does the run over the lists and objects that are open, by induction on what is in
front of the cut.
-/

namespace Typeset.Json

variable {α : Type} {text rest front back : List Char} {c : Char}

/-- Wherever a text is cut, the reader goes the way that it goes in the whole text. -/
def CutsOff (reader : Reader α) : Prop :=
  ∀ front back, CutAt [] reader.run front back

section Steps

/-- A colon is decided on by the first character. -/
lemma run_readColon_eq : readColon.run =
    atFirst .endInObject fun c start =>
      if c = ':' then .ok ((), start) else .error .expectedColon := by
  refine eq_atFirst (fun peeked => ?_) fun peeked => ?_
  · unfold Reader.run readColon
    rw [peeked]
    rfl
  · unfold Reader.run readColon
    rw [peeked]
    dsimp only
    split_ifs <;> rfl

/-- In front of a colon an object ends too early. -/
lemma cutsOff_readColon : CutsOff readColon := by
  intro front back
  rw [run_readColon_eq]
  refine .atFirst rfl fun c left => .ite (fun colon => ?_) fun _ => .error
  subst colon
  exact .value (.mark (by decide))

/-- A key is a string, and then its colon. -/
lemma run_skipKey_eq : skipKey.run = andThen skipString.run fun _ => readColon.run := by
  funext text
  unfold Reader.run skipKey andThen
  dsimp only
  cases skipString text with
  | error cause => rfl
  | ok parsed =>
    dsimp only [Except.map]
    cases readColon parsed.rest <;> rfl

/-- A key goes its way behind the opening quote, and so does its colon. -/
lemma cutAt_skipKey : CutAt ['"'] skipKey.run front back := by
  rw [run_skipKey_eq]
  exact cutAt_skipString.andThen fun _ _ left _ _ => cutsOff_readColon left back

/-- The beginning of a list, without the proof that it got on. -/
def runBeginList (text : List Char) : Except Cause (Beginning × List Char) :=
  (beginList text).map fun begun => (begun.1, begun.2.1)

/-- An empty list is over; any other list is left as it is, to be read from its first value on. -/
lemma runBeginList_of_cons {start : List Char} (found : dropBlanks text = c :: start) :
    runBeginList text =
      if c = ']' then .ok (.complete, start) else .ok (.opens .list, text) := by
  obtain ⟨_, peeked⟩ := peek?_of_cons found
  unfold runBeginList beginList
  rw [peeked]
  dsimp only
  split_ifs <;> rfl

/-- The beginning of a list goes by the next character, which it leaves. -/
lemma cutAt_runBeginList : CutAt [] runBeginList front back := by
  refine .unlessBlank .endInList rfl (fun found => ?_) fun c left found => ?_
  · unfold runBeginList beginList
    rw [peek?_of_nil found]
    rfl
  · have same := runBeginList_of_cons found
    have same' := runBeginList_of_cons (dropBlanks_append_of_cons found back)
    by_cases bracket : c = ']'
    · rw [if_pos bracket] at same same'
      subst bracket
      exact (CutBehind.value (.mark (by decide))).blanks found same same'
    · rw [if_neg bracket] at same same'
      exact (CutAt.value .nil).congr same same'

/-- The beginning of an object is its end or its first key. -/
lemma run_beginObject_eq : beginObject.run =
    atFirst .endInObject fun c start =>
      if c = '\x7d' then .ok (.complete, start)
      else if c = '"' then (andThen skipKey.run fun _ rest => .ok (.opens .object, rest)) start
      else .error .keyMustBeString := by
  refine eq_atFirst (fun peeked => ?_) fun {_ _ start _} peeked => ?_
  · unfold Reader.run beginObject
    rw [peeked]
    rfl
  · unfold andThen Reader.run beginObject
    rw [peeked]
    dsimp only
    split_ifs
    · rfl
    · cases skipKey start <;> rfl
    · rfl

/-- An object that is cut at its beginning ends too early. -/
lemma cutsOff_beginObject : CutsOff beginObject := by
  intro front back
  rw [run_beginObject_eq]
  refine .atFirst rfl fun c left => .ite (fun brace => ?_) fun _ =>
    .ite (fun quote => ?_) fun _ => .error
  · subst brace
    exact .value (.mark (by decide))
  · subst quote
    exact (cutAt_skipKey.andThen fun _ _ _ _ _ => .value .nil).behind

/-- How a value begins is decided by its first character. -/
lemma run_beginValue_eq : beginValue.run =
    atFirst .endInValue fun c start =>
      if c = 'n' then (keyword ['u', 'l', 'l'] start).map fun after => (.complete, after.1)
      else if c = 't' then (keyword ['r', 'u', 'e'] start).map fun after => (.complete, after.1)
      else if c = 'f' then
        (keyword ['a', 'l', 's', 'e'] start).map fun after => (.complete, after.1)
      else if c = '"' then (skipString.run start).map fun read => (.complete, read.2)
      else if c = '-' then (skipNumber.run start).map fun read => (.complete, read.2)
      else if Text.isDigit c then (skipNumber.run (c :: start)).map fun read => (.complete, read.2)
      else if c = '[' then runBeginList start
      else if c = '\x7b' then beginObject.run start
      else .error .expectedValue := by
  funext text
  unfold atFirst
  cases found : dropBlanks text with
  | nil =>
    unfold Reader.run beginValue
    rw [peek?_of_nil found]
    rfl
  | cons c start => exact run_beginValue found

/-- A number behind its sign goes its way, or is itself cut. -/
lemma cutAt_skipNumber {sign : List Char} (begun : sign ++ front ≠ [])
    (signed : ∀ {numeral : Numeral} {literal}, numeral.negative = false →
      numeral.WrittenUnsigned literal → ∃ numeral, Written (.number numeral) (sign ++ literal)) :
    CutAt sign skipNumber.run front back := by
  intro x rest ran
  obtain ⟨_, read⟩ := Reader.run_eq_ok_iff.1 ran
  unfold skipNumber at read
  split at read
  · cases read
  · rename_i found
    cases read
    have ran' := Reader.run_eq_ok_iff.2 ⟨_, found⟩
    refine cut_numeral ran' (fun _ => signed) begun fun left ran'' => ?_
    obtain ⟨_, found'⟩ := Reader.run_eq_ok_iff.1 ran''
    simp only [Reader.run, skipNumber, found', Except.map]

/-- A value that is cut at its beginning ends too early, or is a number that is cut. -/
lemma cutsOff_beginValue : CutsOff beginValue := by
  intro front back
  rw [run_beginValue_eq]
  refine .atFirst rfl fun c left => .ite (fun null => ?_) fun _ => .ite (fun yes => ?_)
    fun _ => .ite (fun no => ?_) fun _ => .ite (fun quote => ?_) fun _ => .ite (fun minus => ?_)
    fun _ => .ite (fun digit => ?_) fun _ => .ite (fun bracket => ?_) fun _ =>
    .ite (fun brace => ?_) fun _ => .error
  · subst null
    exact (cutAt_keyword (Token.word (by decide)).tokens).behind
  · subst yes
    exact (cutAt_keyword (Token.word (by decide)).tokens).behind
  · subst no
    exact (cutAt_keyword (Token.word (by decide)).tokens).behind
  · subst quote
    exact (cutAt_skipString.map fun _ => Beginning.complete).behind
  · subst minus
    have cut : CutAt ['-'] skipNumber.run left back :=
      cutAt_skipNumber (by simp) fun _ written => ⟨_, .negative rfl (written.sign true)⟩
    exact (cut.map fun _ => Beginning.complete).behind
  -- A digit belongs to the number, which is read from it on.
  · have cut : CutAt [] skipNumber.run (c :: left) back :=
      cutAt_skipNumber (by simp) fun sign written => ⟨_, .positive sign written⟩
    exact cut.map fun _ => Beginning.complete
  · subst bracket
    exact cutAt_runBeginList.behindToken (.mark (by decide))
  · subst brace
    exact (cutsOff_beginObject left back).behindToken (.mark (by decide))

end Steps

section Frames

variable {frame : Frame} {outer : List Frame}

/-- Behind a value of a list comes a comma or the closing bracket. -/
lemma run_afterValue_list_eq : (afterValue .list).run =
    atFirst .endInList fun c start =>
      if c = ',' then .ok (true, start)
      else if c = ']' then .ok (false, start)
      else .error .expectedCommaOrBracket := by
  refine eq_atFirst (fun peeked => ?_) fun peeked => ?_
  · unfold Reader.run afterValue
    rw [peeked]
    rfl
  · unfold Reader.run afterValue
    rw [peeked]
    dsimp only
    split_ifs <;> rfl

/-- The next key of an object, with its colon. -/
def nextKey : List Char → Except Cause (Bool × List Char) :=
  atFirst .endInObject fun c start =>
    if c = '"' then (skipKey.run start).map fun read => (true, read.2)
    else .error .keyMustBeString

/-- Behind a value of an object comes a comma with the next key, or the closing brace. -/
lemma run_afterValue_object_eq : (afterValue .object).run =
    atFirst .endInObject fun c start =>
      if c = ',' then nextKey start
      else if c = '\x7d' then .ok (false, start)
      else .error .expectedCommaOrBrace := by
  refine eq_atFirst (fun peeked => ?_) fun {_ _ start _} peeked => ?_
  · unfold Reader.run afterValue
    rw [peeked]
    rfl
  · unfold Reader.run afterValue
    rw [peeked]
    dsimp only
    split_ifs
    · unfold nextKey atFirst Reader.run
      obtain ⟨peeked', found'⟩ | ⟨c', start', shorter', peeked', found'⟩ := peek?_cases start
      · rw [peeked', found']
        rfl
      · rw [peeked', found']
        dsimp only
        split_ifs
        · cases skipKey start' <;> rfl
        · rfl
    · rfl
    · rfl

/-- In front of the next key an object ends too early. -/
lemma cutAt_nextKey : CutAt [] nextKey front back := by
  refine .atFirst rfl fun c left => .ite (fun quote => ?_) fun _ => .error
  subst quote
  exact (cutAt_skipKey.map fun _ => true).behind

/-- What stands behind a value goes its way in front of the cut. -/
lemma cutsOff_afterValue : CutsOff (afterValue frame) := by
  intro front back
  cases frame with
  | list =>
    rw [run_afterValue_list_eq]
    refine .atFirst rfl fun c left => .ite (fun comma => ?_) fun _ =>
      .ite (fun bracket => ?_) fun _ => .error
    · subst comma
      exact .value (.mark (by decide))
    · subst bracket
      exact .value (.mark (by decide))
  | object =>
    rw [run_afterValue_object_eq]
    refine .atFirst rfl fun c left => .ite (fun comma => ?_) fun _ =>
      .ite (fun brace => ?_) fun _ => .error
    · subst comma
      exact cutAt_nextKey.behindToken (.mark (by decide))
    · subst brace
      exact .value (.mark (by decide))

/-- A text is shorter than with a blank in front. -/
lemma shorter_of_blank (text : List Char) : text.length < (' ' :: text).length :=
  Nat.lt_succ_self text.length

/-- The run over what is left of the frames, without the proof that it got on. -/
def runFrames (atValue : Bool) (frame : Frame) (outer : List Frame) (text : List Char) :
    Except Cause (Unit × List Char) :=
  (skipFrames (' ' :: text) atValue frame outer text (shorter_of_blank text)).map fun read =>
    (read.value, read.rest)

/-- The whole text bounds what is left, and does not matter otherwise. -/
lemma map_skipFrames {whole : List Char} {atValue : Bool} (within : text.length < whole.length) :
    (skipFrames whole atValue frame outer text within).map (fun read => (read.value, read.rest)) =
      runFrames atValue frame outer text := by
  have same (whole' : List Char) (within' : text.length < whole'.length) :
      (skipFrames whole atValue frame outer text within).map (fun read => (read.value, read.rest)) =
        (skipFrames whole' atValue frame outer text within').map fun read =>
          (read.value, read.rest) := by
    fun_induction skipFrames whole atValue frame outer text within with
    | case1 frame outer text within cause begun =>
      rw [skipFrames, begun]
      rfl
    | case2 frame outer text within rest shorter begun ih =>
      rw [skipFrames.eq_def whole' true, begun]
      exact ih _
    | case3 frame outer text within inner rest shorter begun ih =>
      rw [skipFrames.eq_def whole' true, begun]
      exact ih _
    | case4 frame outer text within cause followed =>
      rw [skipFrames, followed]
      rfl
    | case5 frame outer text within rest shorter followed ih =>
      rw [skipFrames.eq_def whole' false, followed]
      exact ih _
    | case6 frame text within rest shorter followed =>
      rw [skipFrames, followed]
      rfl
    | case7 frame text within rest shorter followed around outer ih =>
      rw [skipFrames.eq_def whole' false, followed]
      exact ih _
  exact same _ _

/-- Where a value comes next, it is passed over, or opens a list or an object inside. -/
lemma runFrames_true : runFrames true frame outer =
    andThen beginValue.run fun begun =>
      match begun with
      | .complete => runFrames false frame outer
      | .opens inner => runFrames true inner (frame :: outer) := by
  funext text
  unfold andThen Reader.run
  rw [runFrames, skipFrames]
  dsimp only
  cases beginValue text with
  | error cause => rfl
  | ok read =>
    obtain ⟨begun, rest, shorter⟩ := read
    cases begun with
    | complete => exact map_skipFrames _
    | opens inner => exact map_skipFrames _

/-- Behind a value comes the next one, or what is open is closed. -/
lemma runFrames_false : runFrames false frame outer =
    andThen (afterValue frame).run fun more =>
      match more, outer with
      | true, outer => runFrames true frame outer
      | false, [] => fun rest => .ok ((), rest)
      | false, next :: outer => runFrames false next outer := by
  funext text
  unfold andThen Reader.run
  rw [runFrames, skipFrames]
  dsimp only
  cases afterValue frame text with
  | error cause => rfl
  | ok read =>
    obtain ⟨more, rest, shorter⟩ := read
    cases more with
    | true => exact map_skipFrames _
    | false =>
      cases outer with
      | nil => rfl
      | cons next outer => exact map_skipFrames _

/-- What is left in front of the cut after a reading is shorter. -/
lemma Reader.length_of_run {reader : Reader α} {x : α} (ran : reader.run text = .ok (x, rest)) :
    rest.length < text.length := by
  obtain ⟨shorter, -⟩ := run_eq_ok_iff.1 ran
  exact shorter

/-- A run over what is open goes its way in front of the cut, from value to value. -/
lemma cutAt_runFrames {atValue : Bool} : CutAt [] (runFrames atValue frame outer) front back := by
  -- Each step takes something off the text in front of the cut, while frames come and go.
  induction length : front.length using Nat.strongRecOn generalizing front atValue frame outer with
  | _ n ih =>
    subst length
    cases atValue with
    | true =>
      rw [runFrames_true]
      refine (cutsOff_beginValue front back).andThen fun begun _ left _ ran => ?_
      cases begun with
      | complete => exact ih left.length (Reader.length_of_run ran) rfl
      | opens inner => exact ih left.length (Reader.length_of_run ran) rfl
    | false =>
      rw [runFrames_false]
      refine (cutsOff_afterValue front back).andThen fun more _ left _ ran => ?_
      cases more with
      | true => exact ih left.length (Reader.length_of_run ran) rfl
      | false =>
        cases outer with
        | nil => exact .value .nil
        | cons next outer => exact ih left.length (Reader.length_of_run ran) rfl

/-- A value is passed over at once, or by a run over what it opens. -/
lemma run_skipValue_eq : skipValue.run =
    andThen beginValue.run fun begun =>
      match begun with
      | .complete => fun rest => .ok ((), rest)
      | .opens frame => runFrames true frame [] := by
  funext text
  unfold andThen Reader.run skipValue
  dsimp only
  cases beginValue text with
  | error cause => rfl
  | ok read =>
    obtain ⟨begun, rest, shorter⟩ := read
    cases begun with
    | complete => rfl
    | opens frame => exact map_skipFrames shorter

/-- A value that is passed over goes its way wherever the text is cut. -/
theorem cutsOff_skipValue : CutsOff skipValue := by
  intro front back
  rw [run_skipValue_eq]
  refine (cutsOff_beginValue front back).andThen fun begun _ left _ _ => ?_
  cases begun with
  | complete => exact .value .nil
  | opens frame => exact cutAt_runFrames

end Frames

end Typeset.Json
