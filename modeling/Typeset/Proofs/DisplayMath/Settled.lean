import Typeset.Proofs.DisplayMath.Declaration
import Typeset.Proofs.DisplayMath.Splice
import Typeset.Template

/-!
# Settled texts

A text is settled if stripping leaves it alone and goes on to do so whatever settled text is put
around it. It is not enough that every region of it keeps its markers: the pass pairs an opener with
the nearest closer, so what stands between display markers loses its own first closer to the opener
in front. The region that arises still keeps its markers, since something is declared before each
closer and the first declaration is not changed by where the region stops.
-/

namespace Typeset.DisplayMath

/-- A text whose markers stay where they are when the text is put between other texts. -/
structure Settled (text : List Char) : Prop where
  /-- Something is declared before each closer, and the line ends behind it. -/
  closed : ∀ before after, text = before ++ '\\' :: ']' :: after →
    (declared? before).isSome ∧ after.head? = some '\n'
  /-- Each opener finds a closer, and what is declared between them is to be displayed. -/
  opened : ∀ before after, text = before ++ '\\' :: '[' :: after →
    ∃ inner rest, cut? ']' after = some (inner, rest) ∧
      isSelfDelimiting (environment (String.ofList inner)) = false
  /-- The end of the text cannot be the first half of a marker. -/
  ended : text.getLast? ≠ some '\\'

/-- A text without markers that does not end in a backslash is settled. -/
lemma settled_of_not_hasMarker {text : List Char} (unopened : ¬ HasMarker '[' text)
    (unclosed : ¬ HasMarker ']' text) (ended : text.getLast? ≠ some '\\') : Settled text := by
  refine ⟨fun before after eq => ?_, fun before after eq => ?_, ended⟩
  · exact absurd (hasMarker_iff.2 ⟨before, after, eq⟩) unclosed
  · exact absurd (hasMarker_iff.2 ⟨before, after, eq⟩) unopened

namespace Settled

/-- Settled texts can be put together: no marker stands across the seam. -/
lemma append {left right : List Char} (l : Settled left) (r : Settled right) :
    Settled (left ++ right) := by
  refine ⟨fun before after eq => ?_, fun before after eq => ?_, fun last => ?_⟩
  · obtain ⟨rest, eqL, rfl⟩ | ⟨rest, rfl, eqR⟩ := append_eq_marker_cases l.ended eq
    · obtain ⟨declared, line⟩ := l.closed before rest eqL
      exact ⟨declared, by rw [List.head?_append, line, Option.some_or]⟩
    · obtain ⟨declared, line⟩ := r.closed rest after eqR
      exact ⟨declared?_isSome_append left declared, line⟩
  · obtain ⟨rest, eqL, rfl⟩ | ⟨rest, rfl, eqR⟩ := append_eq_marker_cases l.ended eq
    · obtain ⟨inner, behind, found, display⟩ := l.opened before rest eqL
      exact ⟨inner, behind ++ right, cut?_append (by decide) found right, display⟩
    · exact r.opened rest after eqR
  · rw [List.getLast?_append] at last
    cases eqLast : right.getLast? with
    | none =>
      rw [eqLast, Option.none_or] at last
      exact l.ended last
    | some c =>
      rw [eqLast, Option.some_or] at last
      exact r.ended (eqLast.trans last)

/-- A character in front that is no backslash can be dropped. -/
lemma of_cons {c : Char} {text : List Char} (ne : c ≠ '\\') (whole : Settled (c :: text)) :
    Settled text := by
  refine ⟨fun before after eq => ?_, fun before after eq => ?_, fun last => ?_⟩
  · obtain ⟨declared, line⟩ := whole.closed (c :: before) after (congrArg (c :: ·) eq)
    rw [declared?_cons_of_ne ne] at declared
    exact ⟨declared, line⟩
  · exact whole.opened (c :: before) after (congrArg (c :: ·) eq)
  · apply whole.ended
    rw [List.getLast?_cons, last, Option.getD_some]

/-- A bracket at the end can be dropped: it belongs to no marker, since the line ends behind each
closer and each opener finds one. -/
lemma of_concat {c : Char} {text : List Char} (bracket : isBracket c = true)
    (whole : Settled (text ++ [c])) : Settled text := by
  have apart : c = '[' ∨ c = ']' := by
    rw [isBracket, Bool.or_eq_true, beq_iff_eq, beq_iff_eq] at bracket
    exact bracket
  have ended : text.getLast? ≠ some '\\' := by
    intro last
    obtain ⟨before, rfl⟩ := List.getLast?_eq_some_iff.1 last
    obtain rfl | rfl := apart
    · obtain ⟨inner, rest, found, -⟩ := whole.opened before [] (by simp)
      cases found
    · obtain ⟨-, line⟩ := whole.closed before [] (by simp)
      cases line
  refine ⟨fun before after eq => ?_, fun before after eq => ?_, ended⟩
  · obtain ⟨declared, line⟩ := whole.closed before (after ++ [c]) (by simp [eq])
    refine ⟨declared, ?_⟩
    cases after with
    | nil =>
      cases Option.some.inj line
      cases bracket
    | cons d after => exact line
  · obtain ⟨inner, rest, found, display⟩ := whole.opened before (after ++ [c]) (by simp [eq])
    obtain ⟨split, unclosed⟩ := (cut?_eq_some_iff (by decide)).1 found
    obtain ⟨behind, eqA, -⟩ | ⟨behind, -, eqC⟩ | ⟨eqA, -⟩ := append_eq_pair_cases split
    · rw [eqA]
      exact ⟨inner, behind, cut?_append_marker (by decide) unclosed, display⟩
    · have short := congrArg List.length eqC
      simp only [List.length_append, List.length_cons, List.length_nil] at short
      omega
    -- The closer would have the dropped bracket, and the text would end in its backslash.
    · refine absurd ?_ ended
      rw [eq, eqA]
      simp [List.getLast?_append, List.getLast?_cons]

/-- A backslash can be put in front of anything but a bracket. -/
lemma backslash {c : Char} {text : List Char} (plain : isBracket c = false)
    (rest : Settled (c :: text)) : Settled ('\\' :: c :: text) := by
  have split {mark : Char} {before after : List Char} (bracket : isBracket mark = true)
      (eq : '\\' :: c :: text = before ++ '\\' :: mark :: after) :
      ∃ front, before = '\\' :: front ∧ c :: text = front ++ '\\' :: mark :: after := by
    cases before with
    | nil =>
      cases eq
      rw [bracket] at plain
      cases plain
    | cons d front =>
      obtain ⟨rfl, later⟩ := List.cons.inj eq
      exact ⟨front, rfl, later⟩
  refine ⟨fun before after eq => ?_, fun before after eq => ?_, ?_⟩
  · obtain ⟨front, rfl, later⟩ := split rfl eq
    obtain ⟨declared, line⟩ := rest.closed front after later
    exact ⟨declared?_isSome_append ['\\'] declared, line⟩
  · obtain ⟨front, rfl, later⟩ := split rfl eq
    exact rest.opened front after later
  · rw [List.getLast?_cons_cons]
    exact rest.ended

/-- A closer on a line of its own can follow what declares something. -/
lemma closer {content : List Char} (settled : Settled content)
    (declared : (declared? content).isSome) :
    Settled (content ++ ['\n', '\\', ']', '\n']) := by
  refine ⟨fun before after eq => ?_, fun before after eq => ?_, ?_⟩
  · obtain ⟨rest, eqL, rfl⟩ | ⟨rest, rfl, eqR⟩ := append_eq_marker_cases settled.ended eq
    · obtain ⟨declared, line⟩ := settled.closed before rest eqL
      exact ⟨declared, by rw [List.head?_append, line, Option.some_or]⟩
    -- The closer is the new one: only the line end stands between it and the content.
    · match rest with
      | [] => cases eqR
      | [_] =>
        cases eqR
        obtain ⟨name, found⟩ := Option.isSome_iff_exists.1 declared
        exact ⟨by rw [declared?_append found]; rfl, rfl⟩
      | _ :: _ :: rest =>
        have behind : [']', '\n'] = rest ++ '\\' :: ']' :: after :=
          (List.cons.inj (List.cons.inj eqR).2).2
        have none : ¬ HasMarker ']' [']', '\n'] := by decide
        exact absurd (hasMarker_iff.2 ⟨rest, after, behind⟩) none
  · obtain ⟨rest, eqL, rfl⟩ | ⟨rest, rfl, eqR⟩ := append_eq_marker_cases settled.ended eq
    · obtain ⟨inner, behind, found, display⟩ := settled.opened before rest eqL
      exact ⟨inner, _, cut?_append (by decide) found _, display⟩
    · have none : ¬ HasMarker '[' ['\n', '\\', ']', '\n'] := by decide
      exact absurd (hasMarker_iff.2 ⟨rest, after, eqR⟩) none
  · simp [List.getLast?_append]

/-- An opener can stand in front of what declares a displayed environment before its first closer. -/
lemma opener {text inner rest : List Char} (settled : Settled text)
    (found : cut? ']' text = some (inner, rest))
    (display : isSelfDelimiting (environment (String.ofList inner)) = false) :
    Settled ('\\' :: '[' :: text) := by
  refine ⟨fun before after eq => ?_, fun before after eq => ?_, ?_⟩
  · match before with
    | [] => cases eq
    | [_] => cases eq
    | c :: d :: front =>
      cases eq
      obtain ⟨declared, line⟩ := settled.closed front after rfl
      exact ⟨declared?_isSome_append [_, _] declared, line⟩
  · match before with
    | [] =>
      cases eq
      exact ⟨inner, rest, found, display⟩
    | [_] => cases eq
    | c :: d :: front =>
      cases eq
      exact settled.opened front after rfl
  · intro last
    rw [List.getLast?_cons_cons, List.getLast?_cons] at last
    cases eqLast : text.getLast? with
    | none =>
      rw [eqLast] at last
      cases last
    | some c =>
      rw [eqLast] at last
      exact settled.ended (eqLast.trans last)

/-- The first closer of what stands between display markers is its own first one, or the new one
behind it. Before both stands its first declaration. -/
lemma wrap {content : List Char} (settled : Settled content)
    (display : isSelfDelimiting (environment (String.ofList content)) = false) :
    Settled ('\\' :: '[' :: '\n' :: (content ++ ['\n', '\\', ']', '\n'])) := by
  obtain ⟨name, declared, environment_eq⟩ := declared?_of_not_isSelfDelimiting display
  rw [String.toList_ofList] at declared
  have line : Settled ['\n'] :=
    settled_of_not_hasMarker (by decide) (by decide) (by decide)
  have body : Settled ('\n' :: (content ++ ['\n', '\\', ']', '\n'])) :=
    line.append (settled.closer (by rw [declared]; rfl))
  have shown {inner : List Char} (found : declared? inner = some name) :
      isSelfDelimiting (environment (String.ofList ('\n' :: inner))) = false := by
    rw [environment, String.toList_ofList, declared?_cons_of_ne (by decide), found]
    rw [environment_eq] at display
    exact display
  cases found : cut? ']' content with
  | some parts =>
    obtain ⟨inner, rest⟩ := parts
    obtain ⟨eq, unclosed⟩ := (cut?_eq_some_iff (by decide)).1 found
    obtain ⟨before, -⟩ := settled.closed inner rest eq
    obtain ⟨name', found'⟩ := Option.isSome_iff_exists.1 before
    -- What is declared in front of the first closer is the first declaration of the content.
    have same : name' = name := by
      have whole := declared?_append found' ('\\' :: ']' :: rest)
      rw [← eq, declared] at whole
      exact (Option.some.inj whole).symm
    have first : cut? ']' ('\n' :: (content ++ ['\n', '\\', ']', '\n'])) =
        some ('\n' :: inner, rest ++ ['\n', '\\', ']', '\n']) := by
      refine (cut?_eq_some_iff (by decide)).2 ⟨by simp [eq], fun marker => unclosed ?_⟩
      exact (hasMarker_cons_of_ne (by decide)).1 marker
    exact body.opener first (shown (same ▸ found'))
  | none =>
    -- The content has no closer of its own, so the opener is paired with the new one.
    have unclosed : ¬ HasMarker ']' (content ++ ['\n']) := by
      rw [hasMarker_append (fun seam => settled.ended seam.1)]
      exact not_or.2 ⟨cut?_eq_none_iff.1 found, by decide⟩
    have first : cut? ']' ('\n' :: (content ++ ['\n', '\\', ']', '\n'])) =
        some ('\n' :: (content ++ ['\n']), ['\n']) := by
      refine (cut?_eq_some_iff (by decide)).2 ⟨by simp, fun marker => unclosed ?_⟩
      exact (hasMarker_cons_of_ne (by decide)).1 marker
    exact body.opener first (shown (declared?_append declared _))

/-- The regions of a settled body keep their markers. -/
lemma strip_eq {body : String} (settled : Settled body.toList) : strip body = body := by
  have whole : body.toList = [] ++ body.toList := rfl
  have scan := (isScan_at whole).2 rfl
  refine strip_eq_self_iff.2 fun region mem => ?_
  obtain ⟨before, after, eq, -, -⟩ := slice?_eq_some_iff.1 (scan.marked region mem)
  rw [toList_marked, marked] at eq
  obtain ⟨inner, rest, found, display⟩ :=
    settled.opened before (region.inner.toList ++ '\\' :: ']' :: after) (by simp [eq])
  rw [cut?_append_marker (by decide) (scan.nearest region mem)] at found
  cases found
  rw [String.ofList_toList, ← scan.environments region mem] at display
  exact display

end Settled

end Typeset.DisplayMath
