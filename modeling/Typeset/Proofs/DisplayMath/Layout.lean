import Typeset.Proofs.DisplayMath.Marker

/-!
# Layouts

What the first region of a text is, and when there is none. A text is taken apart in one way only:
its first opener opens the first region, the nearest closer after it closes that region, and the scan
goes on behind the closer.
-/

namespace Typeset.DisplayMath

/-- No opener in the text is followed by a closer. -/
def Unpaired (text : List Char) : Prop :=
  ∀ before after, text = before ++ '\\' :: '[' :: after → ¬ HasMarker ']' after

/-- A text has no first region where none of its openers is followed by a closer. -/
lemma firstPiece?_eq_none_iff {text : List Char} : firstPiece? text = none ↔ Unpaired text := by
  unfold firstPiece?
  constructor
  · intro nothing before after eq closed
    split at nothing
    · next first =>
      exact cut?_eq_none_iff.1 first (hasMarker_iff.2 ⟨before, after, eq⟩)
    · next first =>
      split at nothing
      · next second =>
        have sub := suffix_of_cut? (by decide) first eq
        exact cut?_eq_none_iff.1 second (closed.mono sub.isInfix)
      · cases nothing
  · intro unpaired
    split
    · rfl
    · next before opened first =>
      have unclosed := unpaired before opened (eq_of_cut? first)
      rw [cut?_eq_none_iff.2 unclosed]

/-- The first region stands behind the first opener and in front of the nearest closer. -/
lemma firstPiece?_eq_some_iff {text rest : List Char} {piece : Piece} :
    firstPiece? text = some (piece, rest) ↔
      text = piece.text ++ rest ∧ ¬ HasMarker '[' piece.before ∧ ¬ HasMarker ']' piece.inner := by
  constructor
  · intro found
    refine ⟨eq_of_firstPiece? found, ?_⟩
    unfold firstPiece? at found
    split at found
    · cases found
    · next first =>
      split at found
      · cases found
      · next second =>
        cases found
        exact ⟨not_hasMarker_of_cut? first, not_hasMarker_of_cut? second⟩
  · obtain ⟨before, inner⟩ := piece
    rintro ⟨rfl, unopened, unclosed⟩
    have first : cut? '[' (before ++ '\\' :: '[' :: (inner ++ '\\' :: ']' :: rest)) = _ :=
      cut?_append_marker (by decide) unopened
    have second : cut? ']' (inner ++ '\\' :: ']' :: rest) = _ :=
      cut?_append_marker (by decide) unclosed
    have shape : Piece.text ⟨before, inner⟩ ++ rest =
        before ++ '\\' :: '[' :: (inner ++ '\\' :: ']' :: rest) := by
      simp [Piece.text, marked]
    simp only [firstPiece?, shape, first, second]

/-- A text without a region is all tail. -/
lemma layout_of_none {text : List Char} (none : firstPiece? text = none) :
    layout text = ⟨[], text⟩ := by
  rw [layout]
  split
  · rfl
  · next found =>
    rw [none] at found
    cases found

/-- Behind its first region a text is laid out anew. -/
lemma layout_of_some {text rest : List Char} {piece : Piece}
    (first : firstPiece? text = some (piece, rest)) :
    layout text = ⟨piece :: (layout rest).pieces, (layout rest).tail⟩ := by
  rw [layout]
  split
  · next nothing =>
    rw [first] at nothing
    cases nothing
  · next found =>
    rw [first] at found
    cases found
    rfl

end Typeset.DisplayMath
