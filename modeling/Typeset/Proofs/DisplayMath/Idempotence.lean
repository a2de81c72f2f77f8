import Typeset.Proofs.DisplayMath.Locality

/-!
# Stripping twice

What a second scan finds in a stripped body. Where a region has lost its markers, its inner text
runs together with what stands around it; if no opener arises from that, the text goes in front of
the next region as if it had always stood there. So the regions that keep their markers are found
again, four bytes nearer to the front for each region that lost its own, and nothing is left to
strip.
-/

namespace Typeset.DisplayMath

open String (utf8Len)

/-- No opener stands in the region of a piece, or arises where its markers go. -/
structure Piece.IsPlain (piece : Piece) : Prop where
  flush : piece.before.getLast? ≠ some '\\'
  unopened : ¬ HasMarker '[' piece.inner
  ended : piece.inner.getLast? ≠ some '\\'

/-- Without markers a plain region has no opener behind the text in front of it. -/
lemma Piece.IsPlain.not_hasMarker {piece : Piece} (plain : piece.IsPlain)
    (unopened : ¬ HasMarker '[' piece.before) : ¬ HasMarker '[' (piece.before ++ piece.inner) := by
  rw [hasMarker_append (not_straddles_of_getLast?_ne plain.flush)]
  exact not_or.2 ⟨unopened, plain.unopened⟩

/-- A plain piece leaves no backslash at its end, so no marker arises where the next piece begins.
-/
lemma Piece.IsPlain.getLast?_ne {piece : Piece} (plain : piece.IsPlain) :
    (piece.before ++ piece.inner).getLast? ≠ some '\\' := by
  rw [List.getLast?_append]
  cases last : piece.inner.getLast? with
  | none =>
    rw [Option.none_or]
    exact plain.flush
  | some c =>
    rw [Option.some_or, ← last]
    exact plain.ended

/-- What stripping makes of pieces with a tail: a region without markers is text in front of what
follows. -/
def keptLayout : List Piece → List Char → Layout
  | [], tail => ⟨[], tail⟩
  | piece :: pieces, tail =>
    if isSelfDelimiting (environment (String.ofList piece.inner)) then
      (keptLayout pieces tail).behind (piece.before ++ piece.inner)
    else ⟨piece :: (keptLayout pieces tail).pieces, (keptLayout pieces tail).tail⟩

/-- What stripping leaves is taken apart into the regions that keep their markers. -/
lemma layout_stripped {text : List Char}
    (plain : ∀ piece ∈ (layout text).pieces,
      isSelfDelimiting (environment (String.ofList piece.inner)) = true → piece.IsPlain) :
    layout (layout text).stripped = keptLayout (layout text).pieces (layout text).tail := by
  induction text using layout.induct with
  | case1 text nothing =>
    rw [layout_of_none nothing, keptLayout, Layout.stripped, stripPieces, List.nil_append,
      layout_of_none nothing]
  | case2 text piece rest first ih =>
    rw [layout_of_some first] at plain ⊢
    obtain ⟨here, later⟩ := List.forall_mem_cons.1 plain
    obtain ⟨-, unopened, unclosed⟩ := firstPiece?_eq_some_iff.1 first
    have ih := ih later
    rw [Layout.stripped, stripPieces, stripInner, keptLayout]
    split
    · next bare =>
      have seam : ¬ Straddles '[' (piece.before ++ piece.inner) (layout rest).stripped :=
        not_straddles_of_getLast?_ne (here bare).getLast?_ne
      rw [List.append_assoc, ← Layout.stripped,
        layout_of_unopened ((here bare).not_hasMarker unopened) seam, ih]
    · have again : firstPiece? (piece.text ++ (layout rest).stripped) = some (piece, _) :=
        firstPiece?_eq_some_iff.2 ⟨rfl, unopened, unclosed⟩
      rw [← Piece.text, List.append_assoc, ← Layout.stripped, layout_of_some again, ih]

/-- The regions that keep their markers, each with the number of regions before it that lose theirs,
counted on from the given one. -/
def keptFrom (stripped : Nat) : List Region → List (Region × Nat)
  | [] => []
  | region :: later =>
    if region.environment ∈ ["array", "matrix", "none"] then keptFrom (stripped + 1) later
    else (region, stripped) :: keptFrom stripped later

/-- The regions that are kept are those whose environment is not among the three. -/
lemma kept_of_mem_keptFrom (stripped : Nat) (found : List Region) :
    ∀ entry ∈ keptFrom stripped found, entry.1.environment ∉ ["array", "matrix", "none"] := by
  induction found generalizing stripped with
  | nil => exact fun entry mem => absurd mem List.not_mem_nil
  | cons region later ih =>
    unfold keptFrom
    split
    · exact ih _
    · next keeps => exact List.forall_mem_cons.2 ⟨keeps, ih _⟩

/-- A region as it was, but for four bytes less in front of it for each of the given number. -/
structure Region.MovedBy (stripped : Nat) (old new : Region) : Prop where
  inner : new.inner = old.inner
  environment : new.environment = old.environment
  length : new.stop - new.start = old.stop - old.start
  start : new.start + 4 * stripped = old.start

/-- What is found again are regions that keep their markers. -/
lemma kept_of_mem_of_forall₂ {kept : List (Region × Nat)} {found : List Region}
    (moved : List.Forall₂ (fun old new => old.1.MovedBy old.2 new) kept found)
    (keeps : ∀ entry ∈ kept, entry.1.environment ∉ ["array", "matrix", "none"]) :
    ∀ region ∈ found, region.environment ∉ ["array", "matrix", "none"] := by
  induction moved with
  | nil => exact fun region mem => absurd mem List.not_mem_nil
  | cons here _ ih =>
    obtain ⟨first, later⟩ := List.forall_mem_cons.1 keeps
    refine List.forall_mem_cons.2 ⟨?_, ih later⟩
    rw [here.environment]
    exact first

/-- The regions that keep their markers stand where the bytes of the markers before them are
gone. -/
lemma forall₂_regionsFrom_keptLayout (position stripped : Nat) (pieces : List Piece)
    (tail : List Char) :
    List.Forall₂ (fun old new => old.1.MovedBy old.2 new)
      (keptFrom stripped (regionsFrom (position + 4 * stripped) pieces))
      (regionsFrom position (keptLayout pieces tail).pieces) := by
  induction pieces generalizing position stripped with
  | nil => exact .nil
  | cons piece pieces ih =>
    have here (start : Nat) : (Region.of start (String.ofList piece.inner)).environment ∈
          ["array", "matrix", "none"] ↔
        isSelfDelimiting (environment (String.ofList piece.inner)) = true :=
      isStripped_iff.symm
    rw [regionsFrom, keptFrom, keptLayout]
    simp only [here]
    split
    -- The inner text of a stripped region moves on, but for its markers.
    · have next := ih (position + utf8Len (piece.before ++ piece.inner)) (stripped + 1)
      rw [Layout.regionsFrom_behind]
      convert next using 3
      simp only [Region.of, String.utf8ByteSize_ofList, String.utf8Len_append]
      omega
    · have next := ih (Region.of (position + (String.ofList piece.before).utf8ByteSize)
        (String.ofList piece.inner)).stop stripped
      rw [regionsFrom]
      refine .cons ⟨rfl, rfl, ?_, ?_⟩ ?_
      · simp only [Region.of]
        omega
      · simp only [Region.of]
        omega
      · convert next using 3
        simp only [Region.of]
        omega

section Plain

variable {body : String}

/-- Where a text is split behind a backslash, the slice in front of the split is that backslash. -/
lemma slice?_backslash {front rest : List Char} (split : body.toList = (front ++ ['\\']) ++ rest) :
    slice? body (utf8Len (front ++ ['\\']) - 1) (utf8Len (front ++ ['\\'])) = some "\\" := by
  have size : utf8Len (front ++ ['\\']) - 1 = utf8Len front := by
    rw [String.utf8Len_append]
    exact Nat.add_sub_cancel ..
  rw [List.append_assoc] at split
  rw [size]
  exact (slice?_at split).2 ⟨rest, rfl, rfl⟩

/-- What is known of the regions of a body tells of its pieces that no opener arises from them. -/
lemma isPlain_of_mem {done tail : List Char} {pieces : List Piece}
    (split : body.toList = done ++ (pieces.flatMap Piece.text ++ tail))
    (plain : ∀ region ∈ regionsFrom (utf8Len done) pieces,
      region.environment ∈ ["array", "matrix", "none"] →
        slice? body (region.start - 1) region.start ≠ some "\\" ∧
        ¬ HasMarker '[' region.inner.toList ∧ region.inner.toList.getLast? ≠ some '\\') :
    ∀ piece ∈ pieces,
      isSelfDelimiting (environment (String.ofList piece.inner)) = true → piece.IsPlain := by
  induction pieces generalizing done with
  | nil => exact fun piece mem => absurd mem List.not_mem_nil
  | cons piece pieces ih =>
    rw [regionsFrom_cons] at plain
    obtain ⟨here, later⟩ := List.forall_mem_cons.1 plain
    rw [List.flatMap_cons, List.append_assoc] at split
    have split' : body.toList = (done ++ piece.text) ++ (pieces.flatMap Piece.text ++ tail) := by
      rw [split, List.append_assoc]
    refine List.forall_mem_cons.2 ⟨fun bare => ?_, ih split' later⟩
    obtain ⟨apart, unopened, ended⟩ := here (isStripped_iff.1 bare)
    rw [Region.of, String.toList_ofList] at unopened ended
    refine ⟨fun last => apart ?_, unopened, ended⟩
    obtain ⟨front, eq⟩ := List.getLast?_eq_some_iff.1 last
    have upTo : body.toList = ((done ++ front) ++ ['\\']) ++
        (marked piece.inner ++ (pieces.flatMap Piece.text ++ tail)) := by
      simp [split, Piece.text, eq]
    rw [Region.of, eq, ← List.append_assoc]
    exact slice?_backslash upTo

end Plain

/-- A second scan finds the regions that keep their markers and no others, each where it was but for
the markers that are gone in front of it, and stripping once more changes nothing, if no region that
is stripped has a backslash in front of it, holds an opener or ends in a backslash. -/
theorem regions_strip_and_strip_strip {body : String}
    (plain : ∀ region ∈ regions body, region.environment ∈ ["array", "matrix", "none"] →
      slice? body (region.start - 1) region.start ≠ some "\\" ∧
      ¬ HasMarker '[' region.inner.toList ∧ region.inner.toList.getLast? ≠ some '\\') :
    List.Forall₂ (fun old new => old.1.MovedBy old.2 new)
        (keptFrom 0 (regions body)) (regions (strip body)) ∧
      strip (strip body) = strip body := by
  have split : body.toList =
      [] ++ ((layout body.toList).pieces.flatMap Piece.text ++ (layout body.toList).tail) := by
    rw [List.nil_append, ← Layout.text, text_layout]
  have parts : layout (strip body).toList =
      keptLayout (layout body.toList).pieces (layout body.toList).tail := by
    rw [strip, String.toList_ofList]
    exact layout_stripped (isPlain_of_mem split plain)
  have found : List.Forall₂ (fun old new => old.1.MovedBy old.2 new)
      (keptFrom 0 (regions body)) (regions (strip body)) := by
    rw [regions, regions, parts]
    exact forall₂_regionsFrom_keptLayout 0 0 _ _
  refine ⟨found, strip_eq_self_iff.2 fun region mem => ?_⟩
  rw [← Bool.not_eq_true, isStripped_iff]
  exact kept_of_mem_of_forall₂ found (kept_of_mem_keptFrom 0 (regions body)) region mem

/-- A region with an opener inside is found again behind two that were stripped, one of them
empty. -/
theorem regions_strip_of_adjacent_regions :
    let body := "é \\[x\\]\\[\\]\\[\\begin\x7bcases\x7d\\[2\\] \\] \\[\\begin\x7bmatrix\x7d1\\]"
    List.Forall₂ (fun old new => old.1.MovedBy old.2 new)
        (keptFrom 0 (regions body)) (regions (strip body)) ∧
      strip (strip body) = strip body :=
  regions_strip_and_strip_strip (by decide +kernel)

end Typeset.DisplayMath
