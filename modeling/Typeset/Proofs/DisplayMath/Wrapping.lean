import Typeset.Proofs.DisplayMath.Settled
import Typeset.Renderer

/-!
# Wrapped content

A stem is written between display markers unless its environment lays itself out; the pass over a
body takes the markers away from such an environment again. The two go by different texts: the stem
by its content alone, the pass by what stands between the markers it finds. As long as no closer
stands in the content they agree, so a stem could as well be wrapped always and left to the pass.
-/

namespace Typeset.DisplayMath

/-- A content on lines of its own between display markers, as a stem is written. -/
def wrapped (content : String) : String :=
  "\\[\n" ++ content ++ "\n\\]\n"

/-- A wrapped stem is its content between line breaks, marked, and a line break. -/
lemma toList_wrapped (content : String) :
    (wrapped content).toList = marked ('\n' :: (content.toList ++ ['\n'])) ++ ['\n'] := by
  simp [wrapped, marked]

section Content

variable {content : String}

/-- What a wrapped stem has between its markers is its content between line breaks. -/
lemma ofList_lines (content : String) :
    String.ofList ('\n' :: (content.toList ++ ['\n'])) = "\n" ++ content ++ "\n" := by
  rw [← String.toList_inj, String.toList_ofList]
  simp

/-- The lines that a content is put on declare nothing. -/
lemma environment_lines (content : String) :
    environment ("\n" ++ content ++ "\n") = environment content := by
  rw [← ofList_lines, environment, environment, String.toList_ofList,
    declared?_cons_of_ne (by decide), declared?_concat_line]

/-- The opener of a wrapped content finds the closer behind it, if there is none in the content. -/
lemma layout_wrapped (unclosed : ¬ HasMarker ']' content.toList) :
    layout (wrapped content).toList = ⟨[⟨[], '\n' :: (content.toList ++ ['\n'])⟩], ['\n']⟩ := by
  have inside : ¬ HasMarker ']' ('\n' :: (content.toList ++ ['\n'])) := by
    rw [hasMarker_cons_of_ne (by decide), hasMarker_append (by simp)]
    exact not_or.2 ⟨unclosed, by decide⟩
  have first : firstPiece? (wrapped content).toList =
      some (⟨[], '\n' :: (content.toList ++ ['\n'])⟩, ['\n']) := by
    refine firstPiece?_eq_some_iff.2 ⟨?_, not_hasMarker_nil, inside⟩
    rw [toList_wrapped, Piece.text, List.nil_append]
  have behind : layout ['\n'] = ⟨[], ['\n']⟩ := layout_of_none (by decide)
  rw [layout_of_some first, behind]

/-- A wrapped stem is one region, which starts at its start, if its content has no closer. -/
lemma regions_wrapped (unclosed : ¬ HasMarker ']' content.toList) :
    regions (wrapped content) = [Region.of 0 ("\n" ++ content ++ "\n")] := by
  rw [regions, layout_wrapped unclosed, regionsFrom, regionsFrom, ofList_lines]
  rfl

/-- The pass takes the markers away where the content lays itself out, and nothing else. -/
lemma strip_wrapped (unclosed : ¬ HasMarker ']' content.toList) :
    strip (wrapped content) =
      if isSelfDelimiting (environment content) then "\n" ++ content ++ "\n\n"
      else wrapped content := by
  rw [strip, layout_wrapped unclosed, ← String.toList_inj, String.toList_ofList, stripPieces,
    stripPieces, stripInner, ofList_lines, environment_lines]
  split
  · simp
  · rw [toList_wrapped]
    simp

/-- Without a closer there is no region. -/
lemma strip_of_unclosed (unclosed : ¬ HasMarker ']' content.toList) : strip content = content := by
  have unpaired : Unpaired content.toList := by
    intro before after eq closed
    have behind : after <:+ content.toList := ⟨before ++ ['\\', '['], by simp [eq]⟩
    exact unclosed (closed.mono behind.isInfix)
  rw [strip, layout_of_none (firstPiece?_eq_none_iff.2 unpaired), stripPieces, List.nil_append,
    String.ofList_toList]

end Content

/-- A renderer writes a stem bare or wrapped, by the environment of its content. -/
lemma render_stem (renderer : Renderer) {block : Block} (stem : block.kind = .stem) :
    (renderer.render (.block block)).1 =
      if isSelfDelimiting (environment block.content) then block.content
      else wrapped block.content := by
  rw [Renderer.render, Block.text?, stem]
  rfl

/-- The pass over a wrapped content does what a stem of that content does, line ends apart: it takes
the markers away where the stem has none, and leaves the text of the stem else. It leaves each stem
as it is, and finds one region in a wrapped content, with the environment that the content has by
itself. -/
theorem strip_wrapped_and_strip_stem {block : Block} (stem : block.kind = .stem)
    (unclosed : ¬ HasMarker ']' block.content.toList) (renderer : Renderer) :
    let rendered := (renderer.render (.block block)).1
    strip (wrapped block.content) =
        (if environment block.content ∈ ["array", "matrix", "none"] then
          "\n" ++ block.content ++ "\n\n"
        else rendered) ∧
      strip rendered = rendered ∧
      ∃ region, regions (wrapped block.content) = [region] ∧
        region.inner = "\n" ++ block.content ++ "\n" ∧
        region.environment = environment block.content := by
  intro rendered
  have written : rendered = _ := render_stem renderer stem
  refine ⟨?_, ?_, _, regions_wrapped unclosed, rfl, environment_lines _⟩
  · rw [strip_wrapped unclosed, written]
    simp only [← isSelfDelimiting_iff]
    split <;> rfl
  · rw [written]
    split
    · exact strip_of_unclosed unclosed
    · next display =>
      rw [strip_wrapped unclosed, if_neg display]

/-- A content that begins with a bracket, opens a region of its own, breaks off a declaration at its
end, and ends in a backslash. -/
theorem strip_wrapped_of_broken_declaration :
    let content := "]é \\[ \\begin\x7bcases\x7d \\begin\x7barray\\"
    let block : Block := ⟨.stem, none, content, []⟩
    let renderer := Renderer.start ⟨⟨true, false⟩, ⟨.empty, .default⟩⟩
    let rendered := (renderer.render (.block block)).1
    strip (wrapped content) =
        (if environment content ∈ ["array", "matrix", "none"] then "\n" ++ content ++ "\n\n"
        else rendered) ∧
      strip rendered = rendered ∧
      ∃ region, regions (wrapped content) = [region] ∧ region.inner = "\n" ++ content ++ "\n" ∧
        region.environment = environment content := by
  intro content block renderer rendered
  have stem : block.kind = .stem := rfl
  have unclosed : ¬ HasMarker ']' content.toList := by decide
  exact strip_wrapped_and_strip_stem stem unclosed renderer

end Typeset.DisplayMath
