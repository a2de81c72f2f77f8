import Typeset.DisplayMath.Strip
import Typeset.Proofs.DisplayMath.Scan

/-!
# Stripping as a splice

What stripping does to the bytes of a body. The bytes that it drops are those of the markers of the
regions that lay themselves out, two at the front and two at the end of each; all others stay, in
their order. Putting the result together from slices of the body, one behind the other, never asks
for a slice that does not exist.

All of this is shown of pieces laid out from some byte position on, by induction on the pieces: the
invariant is that the position is the length of what is done, and that the regions still to come start
there or later.
-/

namespace Typeset.DisplayMath

open String (utf8Len)

/-- The environments that need no markers are three. -/
lemma isSelfDelimiting_iff {environment : String} :
    isSelfDelimiting environment = true ↔ environment ∈ ["array", "matrix", "none"] := by
  simp [isSelfDelimiting, selfDelimiting, noEnvironment]

/-- A region is stripped exactly if its environment is among the three. -/
lemma isStripped_iff {region : Region} :
    region.isStripped = true ↔ region.environment ∈ ["array", "matrix", "none"] :=
  isSelfDelimiting_iff

/-- A byte position is on a marker of a region that lays itself out. -/
def OnStrippedMarker (found : List Region) (position : Nat) : Prop :=
  ∃ region ∈ found, region.environment ∈ ["array", "matrix", "none"] ∧
    (region.start ≤ position ∧ position < region.start + 2 ∨
      region.stop - 2 ≤ position ∧ position < region.stop)

instance (found : List Region) (position : Nat) : Decidable (OnStrippedMarker found position) :=
  inferInstanceAs (Decidable (∃ region ∈ found, _ ∧ _))

/-- The bytes, counted from a position on, whose positions are not dropped. -/
def keepFrom (dropped : Nat → Prop) [DecidablePred dropped] (position : Nat) (bytes : List UInt8) :
    List UInt8 :=
  ((bytes.zipIdx position).filter fun byte => ¬ dropped byte.2).map Prod.fst

section KeepFrom

variable {dropped dropped' : Nat → Prop} [DecidablePred dropped] [DecidablePred dropped']
variable {position : Nat}

/-- The bytes of two texts are kept or dropped text by text, the second one from where the first one
ends. -/
lemma keepFrom_append (left right : List UInt8) :
    keepFrom dropped position (left ++ right) =
      keepFrom dropped position left ++ keepFrom dropped (position + left.length) right := by
  simp only [keepFrom, List.zipIdx_append, List.filter_append, List.map_append]

/-- A byte is kept unless it is dropped at its position. -/
lemma keepFrom_cons (byte : UInt8) (bytes : List UInt8) :
    keepFrom dropped position (byte :: bytes) =
      (if dropped position then [] else [byte]) ++ keepFrom dropped (position + 1) bytes := by
  by_cases here : dropped position <;> simp [keepFrom, here]

/-- Where no position is dropped, all bytes are kept. -/
lemma keepFrom_of_not {bytes : List UInt8}
    (kept : ∀ i, position ≤ i → i < position + bytes.length → ¬ dropped i) :
    keepFrom dropped position bytes = bytes := by
  induction bytes generalizing position with
  | nil => rfl
  | cons byte bytes ih =>
    rw [List.length_cons] at kept
    have here : ¬ dropped position := kept position le_rfl (by omega)
    have later : keepFrom dropped (position + 1) bytes = bytes := by
      apply ih
      intro i lower upper
      exact kept i (by omega) (by omega)
    rw [keepFrom_cons, if_neg here, later, List.singleton_append]

/-- Where every position is dropped, no byte is kept. -/
lemma keepFrom_of_all {bytes : List UInt8}
    (gone : ∀ i, position ≤ i → i < position + bytes.length → dropped i) :
    keepFrom dropped position bytes = [] := by
  induction bytes generalizing position with
  | nil => rfl
  | cons byte bytes ih =>
    rw [List.length_cons] at gone
    have here : dropped position := gone position le_rfl (by omega)
    have later : keepFrom dropped (position + 1) bytes = [] := by
      apply ih
      intro i lower upper
      exact gone i (by omega) (by omega)
    rw [keepFrom_cons, if_pos here, later, List.append_nil]

/-- What is kept depends on the positions from the start on only. -/
lemma keepFrom_congr {bytes : List UInt8} (same : ∀ i, position ≤ i → (dropped i ↔ dropped' i)) :
    keepFrom dropped position bytes = keepFrom dropped' position bytes := by
  induction bytes generalizing position with
  | nil => rfl
  | cons byte bytes ih =>
    have here := same position le_rfl
    have later : keepFrom dropped (position + 1) bytes = keepFrom dropped' (position + 1) bytes :=
      ih fun i lower => same i (by omega)
    simp only [keepFrom_cons, here, later]

end KeepFrom

/-- The bytes of a text in its UTF-8 form. -/
def bytes (text : String) : List UInt8 :=
  text.toByteArray.data.toList

/-- The bytes of two texts stand one behind the other. -/
lemma bytes_append (left right : String) : bytes (left ++ right) = bytes left ++ bytes right := by
  simp [bytes]

/-- A text has as many bytes as its encoding takes. -/
lemma length_bytes (text : String) : (bytes text).length = text.utf8ByteSize := by
  rw [← String.size_toByteArray]
  rfl

/-- What stays of a region: its inner text if it lays itself out, else the slice that it takes up. -/
def keptSlice? (body : String) (region : Region) : Option String :=
  if region.isStripped then some region.inner else slice? body region.start region.stop

/-- Puts a body together from its slices: the text in front of each region, what stays of the region,
and the text behind the last one. There is no result where one of the slices does not exist. -/
def splice? (body : String) (last : Nat) : List Region → Option String
  | [] => slice? body last body.utf8ByteSize
  | region :: later => do
    let before ← slice? body last region.start
    let kept ← keptSlice? body region
    let rest ← splice? body region.stop later
    return before ++ kept ++ rest

/-- A region starts where its pieces do or later, and its markers take four bytes. -/
lemma le_start_of_mem_regionsFrom {position : Nat} {pieces : List Piece} {region : Region}
    (mem : region ∈ regionsFrom position pieces) :
    position ≤ region.start ∧ region.start + 4 ≤ region.stop := by
  induction pieces generalizing position with
  | nil => cases mem
  | cons piece pieces ih =>
    cases mem with
    | head =>
      simp only [Region.of]
      omega
    | tail _ mem =>
      have later := ih mem
      simp only [Region.of] at later
      omega

/-- Behind a region its markers do not matter. -/
lemma onStrippedMarker_cons_behind {region : Region} {found : List Region} {i : Nat}
    (apart : region.start + 4 ≤ region.stop) (behind : region.stop ≤ i) :
    OnStrippedMarker (region :: found) i ↔ OnStrippedMarker found i := by
  refine ⟨?_, ?_⟩
  · rintro ⟨other, mem, stripped, place⟩
    cases mem with
    | head => omega
    | tail _ mem => exact ⟨other, mem, stripped, place⟩
  · rintro ⟨other, mem, rest⟩
    exact ⟨other, List.mem_cons_of_mem _ mem, rest⟩

/-- In front of where a region stops, the markers of the regions behind it do not matter. -/
lemma onStrippedMarker_cons_before {region : Region} {found : List Region} {i : Nat}
    (apart : ∀ later ∈ found, region.stop ≤ later.start ∧ later.start + 4 ≤ later.stop)
    (before : i < region.stop) :
    OnStrippedMarker (region :: found) i ↔
      region.isStripped = true ∧
        (region.start ≤ i ∧ i < region.start + 2 ∨ region.stop - 2 ≤ i) := by
  rw [isStripped_iff]
  refine ⟨?_, ?_⟩
  · rintro ⟨other, mem, stripped, place⟩
    cases mem with
    | head => exact ⟨stripped, by omega⟩
    | tail _ mem =>
      have := apart other mem
      omega
  · rintro ⟨stripped, place⟩
    exact ⟨region, List.mem_cons_self .., stripped, by omega⟩

/-- The bytes of a piece: those in front of the region, and those of the region between the bytes of
the markers. -/
lemma bytes_text (before inner : List Char) :
    bytes (String.ofList (Piece.text ⟨before, inner⟩)) =
      bytes (String.ofList before) ++
        (bytes "\\[" ++ (bytes (String.ofList inner) ++ bytes "\\]")) := by
  simp only [← bytes_append]
  congr 1
  rw [← String.toList_inj]
  simp [Piece.text, marked]

/-- A piece takes four bytes more than what is in front of the region and in it. -/
lemma length_bytes_text (before inner : List Char) :
    (bytes (String.ofList (Piece.text ⟨before, inner⟩))).length =
      (String.ofList before).utf8ByteSize + (2 + (String.ofList inner).utf8ByteSize + 2) := by
  have opener : (bytes "\\[").length = 2 := rfl
  have closer : (bytes "\\]").length = 2 := rfl
  simp only [bytes_text, List.length_append, length_bytes, opener, closer]
  omega

section Piece

variable {region : Region} {found : List Region} {position : Nat} {text : String}

/-- A text that touches neither marker of the region in which it stops stays. -/
lemma keepFrom_off_marker
    (apart : ∀ later ∈ found, region.stop ≤ later.start ∧ later.start + 4 ≤ later.stop)
    (within : position + text.utf8ByteSize ≤ region.stop)
    (off : ∀ i, position ≤ i → i < position + text.utf8ByteSize →
      ¬(region.start ≤ i ∧ i < region.start + 2 ∨ region.stop - 2 ≤ i)) :
    keepFrom (OnStrippedMarker (region :: found)) position (bytes text) = bytes text := by
  apply keepFrom_of_not
  intro i lower upper
  rw [length_bytes] at upper
  rw [onStrippedMarker_cons_before apart (by omega)]
  exact fun on => off i lower upper on.2

/-- A text that lies on a marker of a region to strip goes. -/
lemma keepFrom_on_marker
    (apart : ∀ later ∈ found, region.stop ≤ later.start ∧ later.start + 4 ≤ later.stop)
    (stripped : region.isStripped = true) (within : position + text.utf8ByteSize ≤ region.stop)
    (on : ∀ i, position ≤ i → i < position + text.utf8ByteSize →
      region.start ≤ i ∧ i < region.start + 2 ∨ region.stop - 2 ≤ i) :
    keepFrom (OnStrippedMarker (region :: found)) position (bytes text) = [] := by
  apply keepFrom_of_all
  intro i lower upper
  rw [length_bytes] at upper
  rw [onStrippedMarker_cons_before apart (by omega)]
  exact ⟨stripped, on i lower upper⟩

/-- Dropping the bytes of its markers from one piece leaves what stripping leaves of it. -/
lemma keepFrom_piece {before inner : List Char}
    (eq : region = .of (position + (String.ofList before).utf8ByteSize) (String.ofList inner))
    (apart : ∀ later ∈ found, region.stop ≤ later.start ∧ later.start + 4 ≤ later.stop) :
    keepFrom (OnStrippedMarker (region :: found)) position
        (bytes (String.ofList (Piece.text ⟨before, inner⟩))) =
      bytes (String.ofList (before ++ stripInner inner)) := by
  have opener : "\\[".utf8ByteSize = 2 := rfl
  have closer : "\\]".utf8ByteSize = 2 := rfl
  have start : region.start = position + (String.ofList before).utf8ByteSize := by rw [eq]; rfl
  have stop : region.stop = region.start + 2 + (String.ofList inner).utf8ByteSize + 2 := by
    rw [eq]
    rfl
  have stripped : isSelfDelimiting (environment (String.ofList inner)) = region.isStripped := by
    rw [eq]
    rfl
  cases keeps : region.isStripped with
  | false =>
    have all : stripInner inner = marked inner := by
      rw [stripInner, stripped, keeps, if_neg Bool.false_ne_true]
    rw [all]
    apply keepFrom_of_not
    intro i _ upper
    rw [length_bytes_text] at upper
    rw [onStrippedMarker_cons_before apart (by omega), keeps]
    exact fun on => absurd on.1 Bool.false_ne_true
  -- The markers at both ends go; the text in front of the region and inside it stays.
  | true =>
    have bare : stripInner inner = inner := by rw [stripInner, stripped, keeps, if_pos rfl]
    have front : keepFrom (OnStrippedMarker (region :: found)) position
        (bytes (String.ofList before)) = bytes (String.ofList before) :=
      keepFrom_off_marker apart (by omega) (by omega)
    have opens : keepFrom (OnStrippedMarker (region :: found)) region.start (bytes "\\[") = [] :=
      keepFrom_on_marker apart keeps (by omega) (by omega)
    have inside : keepFrom (OnStrippedMarker (region :: found)) (region.start + 2)
        (bytes (String.ofList inner)) = bytes (String.ofList inner) :=
      keepFrom_off_marker apart (by omega) (by omega)
    have closes : keepFrom (OnStrippedMarker (region :: found))
        (region.start + 2 + (String.ofList inner).utf8ByteSize) (bytes "\\]") = [] :=
      keepFrom_on_marker apart keeps (by omega) (by omega)
    rw [bytes_text, keepFrom_append, keepFrom_append, keepFrom_append, front, length_bytes, ← start,
      opens, length_bytes, opener, inside, length_bytes, closes, bare, String.ofList_append,
      bytes_append, List.nil_append, List.append_nil]

end Piece

/-- Dropping the bytes of the markers from pieces with a tail leaves what stripping leaves. -/
lemma keepFrom_pieces (position : Nat) (pieces : List Piece) (tail : List Char) :
    keepFrom (OnStrippedMarker (regionsFrom position pieces)) position
        (bytes (String.ofList (pieces.flatMap Piece.text ++ tail))) =
      bytes (String.ofList (stripPieces pieces ++ tail)) := by
  induction pieces generalizing position with
  | nil =>
    rw [List.flatMap_nil, stripPieces, List.nil_append]
    apply keepFrom_of_not
    rintro i _ _ ⟨region, mem, _⟩
    cases mem
  | cons piece pieces ih =>
    obtain ⟨before, inner⟩ := piece
    obtain ⟨region, eq⟩ : ∃ region, region =
        Region.of (position + (String.ofList before).utf8ByteSize) (String.ofList inner) := ⟨_, rfl⟩
    have size : position + (bytes (String.ofList (Piece.text ⟨before, inner⟩))).length =
        region.stop := by
      simp only [eq, length_bytes_text, Region.of]
      omega
    have apart : region.start + 4 ≤ region.stop := by
      simp only [eq, Region.of]
      omega
    have later : ∀ later ∈ regionsFrom region.stop pieces, region.stop ≤ later.start ∧ _ :=
      fun later mem => le_start_of_mem_regionsFrom mem
    have rest : keepFrom (OnStrippedMarker (region :: regionsFrom region.stop pieces)) region.stop
          (bytes (String.ofList (pieces.flatMap Piece.text ++ tail))) =
        bytes (String.ofList (stripPieces pieces ++ tail)) := by
      rw [← ih]
      exact keepFrom_congr fun i behind => onStrippedMarker_cons_behind apart behind
    rw [List.flatMap_cons, List.append_assoc, String.ofList_append, bytes_append, keepFrom_append,
      size, regionsFrom, ← eq, keepFrom_piece eq later, rest, stripPieces]
    simp only [String.ofList_append, bytes_append, List.append_assoc]

/-- A body is the text of its layout, and stripping acts on the pieces. -/
lemma bytes_strip (body : String) :
    bytes (strip body) = keepFrom (OnStrippedMarker (regions body)) 0 (bytes body) := by
  have whole : String.ofList (layout body.toList).text = body := by
    rw [text_layout, String.ofList_toList]
  have pieces := keepFrom_pieces 0 (layout body.toList).pieces (layout body.toList).tail
  rw [← Layout.text, whole] at pieces
  rw [regions, pieces, strip]

/-- A piece loses four bytes if its environment needs no markers, and none otherwise. -/
lemma utf8Len_stripInner (before inner : List Char) :
    utf8Len (before ++ stripInner inner) +
        4 * (if isSelfDelimiting (environment (String.ofList inner)) then 1 else 0) =
      utf8Len (Piece.text ⟨before, inner⟩) := by
  unfold stripInner
  split <;> simp only [Piece.text, String.utf8Len_append, utf8Len_marked] <;> omega

/-- Stripping takes four bytes for each region that lays itself out. -/
lemma utf8Len_stripPieces (position : Nat) (pieces : List Piece) :
    utf8Len (stripPieces pieces) + 4 * (regionsFrom position pieces).countP Region.isStripped =
      utf8Len (pieces.flatMap Piece.text) := by
  induction pieces generalizing position with
  | nil => rfl
  | cons piece pieces ih =>
    obtain ⟨before, inner⟩ := piece
    have here := utf8Len_stripInner before inner
    have later := ih (Region.of (position + (String.ofList before).utf8ByteSize)
      (String.ofList inner)).stop
    have stripped (start : Nat) : (Region.of start (String.ofList inner)).isStripped =
        isSelfDelimiting (environment (String.ofList inner)) := rfl
    simp only [regionsFrom, List.countP_cons, stripPieces, List.flatMap_cons, String.utf8Len_append,
      stripped] at here ⊢
    omega

/-- Pieces whose regions are all kept are left as they are. -/
lemma stripPieces_of_kept {position : Nat} {pieces : List Piece}
    (kept : ∀ region ∈ regionsFrom position pieces, region.isStripped = false) :
    stripPieces pieces = pieces.flatMap Piece.text := by
  induction pieces generalizing position with
  | nil => rfl
  | cons piece pieces ih =>
    obtain ⟨here, later⟩ := List.forall_mem_cons.1 kept
    have whole : stripInner piece.inner = marked piece.inner := by
      rw [stripInner, if_neg]
      exact Bool.eq_false_iff.1 here
    rw [stripPieces, ih later, whole, List.flatMap_cons, Piece.text]

/-- A body loses four bytes for each region that is stripped. -/
lemma utf8ByteSize_strip (body : String) :
    (strip body).utf8ByteSize + 4 * (regions body).countP Region.isStripped =
      body.utf8ByteSize := by
  have pieces := utf8Len_stripPieces 0 (layout body.toList).pieces
  have whole : body.utf8ByteSize = utf8Len (layout body.toList).text := by
    rw [text_layout, ← String.utf8ByteSize_ofList, String.ofList_toList]
  simp only [strip, regions, String.utf8ByteSize_ofList, whole, Layout.text, String.utf8Len_append]
  omega

/-- Stripping changes a body exactly if one of its regions lays itself out. -/
lemma strip_eq_self_iff {body : String} :
    strip body = body ↔ ∀ region ∈ regions body, region.isStripped = false := by
  refine ⟨?_, ?_⟩
  · intro same
    have size := utf8ByteSize_strip body
    rw [same] at size
    have none : (regions body).countP Region.isStripped = 0 := by omega
    intro region mem
    exact Bool.eq_false_iff.2 (List.countP_eq_zero.1 none region mem)
  · intro kept
    rw [strip, stripPieces_of_kept kept, ← Layout.text, text_layout, String.ofList_toList]

/-- What stays of the region of a piece is what stripping leaves of it. -/
lemma keptSlice?_of_piece {body : String} {done after : List Char} {piece : Piece}
    (split : body.toList = done ++ (piece.text ++ after)) :
    keptSlice? body (.of (utf8Len (done ++ piece.before)) (String.ofList piece.inner)) =
      some (String.ofList (stripInner piece.inner)) := by
  have span := slice?_marked split
  have whole : "\\[" ++ String.ofList piece.inner ++ "\\]" = String.ofList (marked piece.inner) := by
    rw [← String.toList_inj, toList_marked, String.toList_ofList, String.toList_ofList]
  have same (start : Nat) : (Region.of start (String.ofList piece.inner)).isStripped =
      isSelfDelimiting (environment (String.ofList piece.inner)) := rfl
  rw [← stop_of_piece, whole] at span
  rw [keptSlice?, stripInner, same]
  cases isSelfDelimiting (environment (String.ofList piece.inner)) with
  | true => rfl
  | false => exact span

/-- The slices from which the pieces of a body are put together exist, and they make up what
stripping leaves. -/
lemma splice?_regionsFrom {body : String} {done tail : List Char} {pieces : List Piece}
    (split : body.toList = done ++ (pieces.flatMap Piece.text ++ tail)) :
    splice? body (utf8Len done) (regionsFrom (utf8Len done) pieces) =
      some (String.ofList (stripPieces pieces ++ tail)) := by
  induction pieces generalizing done with
  | nil => exact slice?_to_end split
  | cons piece pieces ih =>
    rw [List.flatMap_cons, List.append_assoc] at split
    have split' : body.toList = (done ++ piece.text) ++ (pieces.flatMap Piece.text ++ tail) := by
      rw [split, List.append_assoc]
    have start : (Region.of (utf8Len (done ++ piece.before)) (String.ofList piece.inner)).start =
        utf8Len (done ++ piece.before) := rfl
    rw [regionsFrom_cons, splice?, start, slice?_before split, keptSlice?_of_piece split,
      stop_of_piece, ih split']
    simp [stripPieces, String.ofList_append, String.append_assoc]

/-- What stripping leaves of a body: all bytes but those of the markers of the regions that lay
themselves out. It is shorter by four bytes for each of them, it is the body itself exactly if there
is none, and it is put together from slices of the body that all exist. -/
theorem strip_splices (body : String) :
    bytes (strip body) =
        (((bytes body).zipIdx.filter fun byte => ¬ OnStrippedMarker (regions body) byte.2).map
          Prod.fst) ∧
      (strip body).utf8ByteSize +
          4 * (regions body).countP (·.environment ∈ ["array", "matrix", "none"]) =
        body.utf8ByteSize ∧
      (strip body = body ↔
        ∀ region ∈ regions body, region.environment ∉ ["array", "matrix", "none"]) ∧
      splice? body 0 (regions body) = some (strip body) := by
  have split : body.toList =
      [] ++ ((layout body.toList).pieces.flatMap Piece.text ++ (layout body.toList).tail) := by
    rw [List.nil_append, ← Layout.text, text_layout]
  have same : (fun region : Region => decide (region.environment ∈ ["array", "matrix", "none"])) =
      Region.isStripped := by
    funext region
    exact Bool.eq_iff_iff.2 (decide_eq_true_iff.trans isStripped_iff.symm)
  refine ⟨bytes_strip body, ?_, ?_, splice?_regionsFrom split⟩
  · rw [same]
    exact utf8ByteSize_strip body
  · simp only [← isStripped_iff, Bool.not_eq_true]
    exact strip_eq_self_iff

end Typeset.DisplayMath
