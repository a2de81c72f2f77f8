import Typeset.Proofs.DisplayMath.Splice

/-!
# Locality

Text in front of a body and text behind it have no part in what is found in it, as long as no marker
arises where they meet and no opener in front waits for a closer. A front without openers only goes
in front of the first region, and a body whose openers are all closed is taken apart by itself, so
the regions of two texts put together are those of the first and, moved behind it, those of the
second.
-/

namespace Typeset.DisplayMath

open String (utf8Len)

/-- A backslash ends the first text and the mark begins the second. -/
def Straddles (mark : Char) (left right : List Char) : Prop :=
  left.getLast? = some '\\' ∧ right.head? = some mark

instance (mark : Char) (left right : List Char) : Decidable (Straddles mark left right) :=
  inferInstanceAs (Decidable (_ ∧ _))

/-- A marker at a seam stays there when more stands in front. -/
lemma Straddles.of_append {mark : Char} {front left right : List Char}
    (straddles : Straddles mark left right) : Straddles mark (front ++ left) right := by
  obtain ⟨last, head⟩ := straddles
  exact ⟨by rw [List.getLast?_append, last, Option.some_or], head⟩

/-- No marker straddles a seam in front of which there is no backslash. -/
lemma not_straddles_of_getLast?_ne {mark : Char} {left right : List Char}
    (ended : left.getLast? ≠ some '\\') : ¬ Straddles mark left right :=
  fun straddles => ended straddles.1

/-- More text behind leaves the first region where it is. -/
lemma firstPiece?_append {text rest : List Char} {piece : Piece}
    (first : firstPiece? text = some (piece, rest)) (more : List Char) :
    firstPiece? (text ++ more) = some (piece, rest ++ more) := by
  obtain ⟨rfl, unopened, unclosed⟩ := firstPiece?_eq_some_iff.1 first
  exact firstPiece?_eq_some_iff.2 ⟨List.append_assoc .., unopened, unclosed⟩

namespace Layout

/-- A layout with more text in front of all. -/
def behind (front : List Char) : Layout → Layout
  | ⟨[], tail⟩ => ⟨[], front ++ tail⟩
  | ⟨piece :: pieces, tail⟩ => ⟨{ piece with before := front ++ piece.before } :: pieces, tail⟩

/-- The text that stripping leaves of a layout. -/
def stripped (parts : Layout) : List Char :=
  stripPieces parts.pieces ++ parts.tail

/-- Stripping leaves alone what stands in front of all regions. -/
lemma stripped_behind (front : List Char) (parts : Layout) :
    (parts.behind front).stripped = front ++ parts.stripped := by
  match parts with
  | ⟨[], tail⟩ => rfl
  | ⟨piece :: pieces, tail⟩ => simp [behind, stripped, stripPieces]

/-- A text in front of all regions moves them by its length. -/
lemma regionsFrom_behind (position : Nat) (front : List Char) (parts : Layout) :
    regionsFrom position (parts.behind front).pieces =
      regionsFrom (position + utf8Len front) parts.pieces := by
  match parts with
  | ⟨[], tail⟩ => rfl
  | ⟨piece :: pieces, tail⟩ =>
    simp only [behind, regionsFrom, String.utf8ByteSize_ofList, String.utf8Len_append,
      Nat.add_assoc]

end Layout

section Front

variable {front text : List Char}

/-- A front without openers goes in front of the first region. -/
lemma firstPiece?_of_unopened {rest : List Char} {piece : Piece} (unopened : ¬ HasMarker '[' front)
    (seam : ¬ Straddles '[' front text) (first : firstPiece? text = some (piece, rest)) :
    firstPiece? (front ++ text) = some ({ piece with before := front ++ piece.before }, rest) := by
  obtain ⟨rfl, unopened', unclosed⟩ := firstPiece?_eq_some_iff.1 first
  refine firstPiece?_eq_some_iff.2 ⟨by simp [Piece.text], ?_, unclosed⟩
  have seam' : ¬ Straddles '[' front piece.before := by
    rintro ⟨last, head⟩
    refine seam ⟨last, ?_⟩
    rw [Piece.text, List.append_assoc, List.head?_append, head, Option.some_or]
  rw [hasMarker_append seam']
  exact not_or.2 ⟨unopened, unopened'⟩

/-- What is unpaired stays so behind a text without openers. -/
lemma unpaired_of_unopened (unopened : ¬ HasMarker '[' front) (seam : ¬ Straddles '[' front text)
    (unpaired : Unpaired text) : Unpaired (front ++ text) := by
  intro before after eq
  obtain ⟨rest, eqF, -⟩ | ⟨rest, -, eqT⟩ | ⟨eqF, eqT⟩ := append_eq_pair_cases eq
  · exact absurd (hasMarker_iff.2 ⟨before, rest, eqF⟩) unopened
  · exact unpaired rest after eqT
  · exact absurd ⟨by rw [eqF, List.getLast?_concat], by rw [eqT, List.head?_cons]⟩ seam

/-- A front without openers changes nothing in how the text behind it is taken apart. -/
lemma layout_of_unopened (unopened : ¬ HasMarker '[' front) (seam : ¬ Straddles '[' front text) :
    layout (front ++ text) = (layout text).behind front := by
  cases first : firstPiece? text with
  | none =>
    have unpaired := unpaired_of_unopened unopened seam (firstPiece?_eq_none_iff.1 first)
    rw [layout_of_none first, layout_of_none (firstPiece?_eq_none_iff.2 unpaired), Layout.behind]
  | some found =>
    rw [layout_of_some first, layout_of_some (firstPiece?_of_unopened unopened seam first),
      Layout.behind]

end Front

/-- A text whose openers are all closed is taken apart by itself, whatever comes behind it. -/
lemma layout_append {left right : List Char} (closed : ¬ HasMarker '[' (layout left).tail)
    (seam : ¬ Straddles '[' left right) :
    layout (left ++ right) =
      ⟨(layout left).pieces ++ ((layout right).behind (layout left).tail).pieces,
        ((layout right).behind (layout left).tail).tail⟩ := by
  induction left using layout.induct with
  | case1 left nothing =>
    rw [layout_of_none nothing] at closed ⊢
    rw [layout_of_unopened closed seam, List.nil_append]
  | case2 left piece rest first ih =>
    rw [layout_of_some first] at closed ⊢
    have seam' : ¬ Straddles '[' rest right := by
      intro straddles
      rw [eq_of_firstPiece? first] at seam
      exact seam straddles.of_append
    rw [layout_of_some (firstPiece?_append first right), ih closed seam', List.cons_append]

/-- The regions of pieces and of later pieces, which start where the first ones end. -/
lemma regionsFrom_append (done : List Char) (pieces later : List Piece) :
    regionsFrom (utf8Len done) (pieces ++ later) =
      regionsFrom (utf8Len done) pieces ++
        regionsFrom (utf8Len (done ++ pieces.flatMap Piece.text)) later := by
  induction pieces generalizing done with
  | nil => rw [List.nil_append, regionsFrom, List.nil_append, List.flatMap_nil, List.append_nil]
  | cons piece pieces ih =>
    rw [List.cons_append, regionsFrom_cons, regionsFrom_cons, ih, List.cons_append,
      List.flatMap_cons, List.append_assoc]

/-- Pieces are stripped one by one. -/
lemma stripPieces_append (pieces later : List Piece) :
    stripPieces (pieces ++ later) = stripPieces pieces ++ stripPieces later := by
  induction pieces with
  | nil => rfl
  | cons piece pieces ih => simp only [List.cons_append, stripPieces, ih, List.append_assoc]

/-- The last region of pieces stops where their text ends. -/
lemma lastStop_regionsFrom (done : List Char) (pieces : List Piece) :
    lastStop (utf8Len done) (regionsFrom (utf8Len done) pieces) =
      utf8Len (done ++ pieces.flatMap Piece.text) := by
  induction pieces generalizing done with
  | nil => rw [List.flatMap_nil, List.append_nil]; rfl
  | cons piece pieces ih =>
    rw [regionsFrom_cons, lastStop_cons, stop_of_piece, ih, List.flatMap_cons, List.append_assoc]

/-- What stands behind the last region of a body is the tail of its layout. -/
lemma slice?_behind_last (body : String) :
    slice? body (lastStop 0 (regions body)) body.utf8ByteSize =
      some (String.ofList (layout body.toList).tail) := by
  have split : body.toList =
      ([] ++ (layout body.toList).pieces.flatMap Piece.text) ++ (layout body.toList).tail := by
    rw [List.nil_append, ← Layout.text, text_layout]
  have stop : lastStop 0 (regions body) = _ := lastStop_regionsFrom [] (layout body.toList).pieces
  rw [stop]
  exact slice?_to_end split

/-- A region moved on by some bytes. -/
def Region.shift (distance : Nat) (region : Region) : Region :=
  { region with start := region.start + distance, stop := region.stop + distance }

/-- Pieces that start later have their regions later by as much. -/
lemma regionsFrom_shift (position distance : Nat) (pieces : List Piece) :
    regionsFrom (position + distance) pieces =
      (regionsFrom position pieces).map (·.shift distance) := by
  induction pieces generalizing position with
  | nil => rfl
  | cons piece pieces ih =>
    have start : position + distance + (String.ofList piece.before).utf8ByteSize =
        position + (String.ofList piece.before).utf8ByteSize + distance := by omega
    have moved (start : Nat) (inner : String) :
        Region.of (start + distance) inner = (Region.of start inner).shift distance := by
      simp only [Region.of, Region.shift, Region.mk.injEq, and_true, true_and]
      omega
    rw [regionsFrom, regionsFrom, List.map_cons, start, moved, ← ih, Region.shift]

/-- The regions of two texts put together are those of the first and, moved behind it, those of the
second, and each text is stripped by itself, if no opener of the first waits for a closer and no
opener arises where the texts meet. -/
theorem regions_append_and_strip_append {left right : String}
    (closed : ∃ tail, slice? left (lastStop 0 (regions left)) left.utf8ByteSize = some tail ∧
      ¬ HasMarker '[' tail.toList)
    (seam : ¬ (left.toList.getLast? = some '\\' ∧ right.toList.head? = some '[')) :
    regions (left ++ right) =
        regions left ++ (regions right).map (·.shift left.utf8ByteSize) ∧
      strip (left ++ right) = strip left ++ strip right := by
  obtain ⟨tail, behind, unopened⟩ := closed
  rw [slice?_behind_last, Option.some.injEq] at behind
  rw [← behind, String.toList_ofList] at unopened
  have parts := layout_append unopened seam
  rw [← String.toList_append] at parts
  refine ⟨?_, ?_⟩
  · have front : utf8Len ((layout left.toList).pieces.flatMap Piece.text) +
        utf8Len (layout left.toList).tail = left.utf8ByteSize := by
      rw [← String.utf8Len_append, ← Layout.text, text_layout, ← String.utf8ByteSize_ofList,
        String.ofList_toList]
    have apart : regionsFrom 0 _ = _ := regionsFrom_append [] (layout left.toList).pieces
      ((layout right.toList).behind (layout left.toList).tail).pieces
    rw [regions, parts, apart, List.nil_append, Layout.regionsFrom_behind, front,
      ← Nat.zero_add left.utf8ByteSize, regionsFrom_shift, Nat.zero_add]
    rfl
  · have stripped := Layout.stripped_behind (layout left.toList).tail (layout right.toList)
    rw [Layout.stripped, Layout.stripped] at stripped
    rw [strip, parts, strip, strip, ← String.ofList_append, stripPieces_append, List.append_assoc,
      stripped, List.append_assoc]

/-- Closers that close nothing, on both sides of the seam. -/
theorem regions_append_of_stray_closers :
    let left := "\\] \\[\\begin\x7bcases\x7d1\\end\x7bcases\x7d\\]é\\]"
    let right := "[\\] \\[x\\]"
    regions (left ++ right) =
        regions left ++ (regions right).map (·.shift left.utf8ByteSize) ∧
      strip (left ++ right) = strip left ++ strip right := by
  intro left right
  have closed : slice? left (lastStop 0 (regions left)) left.utf8ByteSize = some "é\\]" := by
    decide +kernel
  exact regions_append_and_strip_append ⟨"é\\]", closed, by decide⟩ (by decide)

end Typeset.DisplayMath
