import Typeset.DisplayMath.Environment

/-!
# Display-math regions

A region runs from `\[` to the nearest `\]` after it. Regions do not nest: inside one, a further
`\[` is plain text. A body is the text before each region, the regions, and a tail in which no `\[`
finds a `\]`.
-/

namespace Typeset.DisplayMath

/-- The text before the first `\` followed by `mark`, and the text after the two. -/
def cut? (mark : Char) : List Char → Option (List Char × List Char)
  | [] => none
  | [_] => none
  | c :: d :: text =>
    if c = '\\' ∧ d = mark then some ([], text)
    else (cut? mark (d :: text)).map fun (before, rest) => (c :: before, rest)

/-- A text that is cut is the two parts with the marker between them. -/
theorem eq_of_cut? {mark : Char} {text before rest : List Char}
    (found : cut? mark text = some (before, rest)) : text = before ++ '\\' :: mark :: rest := by
  fun_induction cut? mark text generalizing before with
  | case1 => cases found
  | case2 => cases found
  | case3 c d text same =>
    cases found
    rw [same.1, same.2, List.nil_append]
  | case4 c d text _ ih =>
    obtain ⟨⟨before', rest'⟩, inner, same⟩ := Option.map_eq_some_iff.1 found
    cases same
    rw [ih inner, List.cons_append]

/-- A text between display markers. -/
def marked (inner : List Char) : List Char :=
  '\\' :: '[' :: (inner ++ ['\\', ']'])

/-- The text before a region, and the text between its markers. -/
structure Piece where
  before : List Char
  inner : List Char
  deriving DecidableEq, Repr

/-- The text that a piece was taken from. -/
def Piece.text (piece : Piece) : List Char :=
  piece.before ++ marked piece.inner

/-- The first region of a text with what stands before it, and the text after its closing marker. -/
def firstPiece? (text : List Char) : Option (Piece × List Char) :=
  match cut? '[' text with
  | none => none
  | some (before, opened) =>
    match cut? ']' opened with
    | none => none
    | some (inner, rest) => some (⟨before, inner⟩, rest)

/-- A text with a region is the region's piece and what follows it. -/
theorem eq_of_firstPiece? {text rest : List Char} {piece : Piece}
    (found : firstPiece? text = some (piece, rest)) : text = piece.text ++ rest := by
  unfold firstPiece? at found
  split at found
  · cases found
  · rename_i before opened first
    split at found
    · cases found
    · rename_i inner rest' second
      cases found
      rw [eq_of_cut? first, eq_of_cut? second]
      simp [Piece.text, marked]

/-- What follows a region is shorter than the whole. -/
theorem length_of_firstPiece? {text rest : List Char} {piece : Piece}
    (found : firstPiece? text = some (piece, rest)) : rest.length < text.length := by
  rw [eq_of_firstPiece? found]
  simp only [Piece.text, marked, List.length_append, List.length_cons]
  omega

/-- A body taken apart: its regions, each with the text before it, and the text after the last. -/
structure Layout where
  pieces : List Piece
  tail : List Char
  deriving DecidableEq, Repr

/-- Takes a body apart, from left to right. -/
def layout (text : List Char) : Layout :=
  match _found : firstPiece? text with
  | none => ⟨[], text⟩
  | some (piece, rest) =>
    let later := layout rest
    ⟨piece :: later.pieces, later.tail⟩
termination_by text.length
decreasing_by exact length_of_firstPiece? _found

/-- The text that a layout was taken from. -/
def Layout.text (parts : Layout) : List Char :=
  parts.pieces.flatMap Piece.text ++ parts.tail

/-- Taking a body apart loses nothing. -/
theorem text_layout (text : List Char) : (layout text).text = text := by
  fun_induction layout text with
  | case1 => rfl
  | case2 text piece rest found later ih =>
    rw [eq_of_firstPiece? found]
    simpa [Layout.text] using ih

/-- A display-math region of a body. Positions count bytes of the body's UTF-8 form. -/
structure Region where
  start : Nat
  stop : Nat
  inner : String
  environment : String
  deriving DecidableEq, Repr

namespace Region

/-- The region with the given inner text that starts at a byte position. -/
def of (start : Nat) (inner : String) : Region where
  start
  stop := start + 2 + inner.utf8ByteSize + 2
  inner
  environment := DisplayMath.environment inner

/-- Whether the region loses its markers. -/
def isStripped (region : Region) : Bool :=
  isSelfDelimiting region.environment

end Region

/-- The regions of pieces laid out from a byte position on. -/
def regionsFrom (position : Nat) : List Piece → List Region
  | [] => []
  | piece :: pieces =>
    let start := position + (String.ofList piece.before).utf8ByteSize
    let region := Region.of start (String.ofList piece.inner)
    region :: regionsFrom region.stop pieces

/-- The display-math regions of a body, from left to right. -/
def regions (body : String) : List Region :=
  regionsFrom 0 (layout body.toList).pieces

end Typeset.DisplayMath
