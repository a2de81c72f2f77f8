import Typeset.DisplayMath.Region

/-!
# Stripping display-math markers

A region whose environment lays itself out loses its `\[` and `\]`. All other text stays as it is.
-/

namespace Typeset.DisplayMath

/-- A region's inner text, between markers unless its environment lays itself out. -/
def stripInner (inner : List Char) : List Char :=
  if isSelfDelimiting (environment (String.ofList inner)) then inner
  else marked inner

/-- The text of the pieces, each region stripped or kept. -/
def stripPieces : List Piece → List Char
  | [] => []
  | piece :: pieces => piece.before ++ stripInner piece.inner ++ stripPieces pieces

/-- A body without the markers of the regions that lay themselves out. -/
def strip (body : String) : String :=
  let parts := layout body.toList
  String.ofList (stripPieces parts.pieces ++ parts.tail)

/-- A body stripped several times over. -/
def stripTimes : Nat → String → String
  | 0, body => body
  | n + 1, body => stripTimes n (strip body)

/-- What a body becomes with each of several passes. -/
def passes (body : String) : Nat → List String
  | 0 => []
  | n + 1 => strip body :: passes (strip body) n

end Typeset.DisplayMath
