import Typeset.Proofs.Json.Integers
import Typeset.Proofs.Renderer.Answers
import Typeset.Proofs.Tree.Exchanges

/-!
# Section levels

A number literal that stands for the level of a section, from the text to the command of the section.
The level may be exchanged wherever the section stands in a tree. So what the literal is refused for,
the whole text is refused for, and what it counts as, the section gets.
-/

namespace Typeset

open Json (Cause Exchanges IsJson IsLevel IsNullOr Numeral Value)

/-- The node with a level. -/
def Tree.withLevel (tree : Tree) (level : Nat) : Tree :=
  { tree with fields.level := some level }

section Rendering

/-- The commands of sections, from the outermost level to the innermost. -/
def sectionLadder : List (Nat × String) :=
  [(1, "section"), (2, "subsection"), (3, "subsubsection"), (4, "paragraph"), (5, "subparagraph")]

/-- Each rung of the ladder has its command. -/
lemma sectionCommand?_of_mem {level : Nat} {name : String} (rung : (level, name) ∈ sectionLadder) :
    sectionCommand? level = some name := by
  have commands : ∀ entry ∈ sectionLadder, sectionCommand? entry.1 = some entry.2 := by decide
  exact commands _ rung

variable (style : Style) {part : Tree} {level : Nat}

/-- What a heading raises itself comes behind what its children raise. -/
lemma Tree.convert_of_heading {tree : Tree} (kind : tree.fields.nodeClass = .heading) :
    let own := (tree.fields.heading (siblingText style tree.children)).render style
    (tree.convert style).output = own.output ∧
      (tree.convert style).diagnostics =
        (tree.children.flatMap fun child => (child.convert style).diagnostics) ++
          own.diagnostics := by
  intro own
  have rendered : tree.ownRendering style (siblingText style) = own := by
    rw [ownRendering, kind]
  rw [diagnostics_convert, convert_eq, rendered,
    visitedChildren_of_walksChildren (walksChildren_of_heading kind)]
  exact ⟨rfl, rfl⟩

/-- A section is a heading at any level. -/
lemma nodeClass_of_section (named : part.fields.name = "section") :
    (part.withLevel level).fields.nodeClass = .heading := by
  have same : (part.withLevel level).fields.name = "section" := named
  rw [Fields.nodeClass, same]
  rfl

/-- A section with a command is written with it, and raises nothing itself. -/
lemma Tree.convert_section (named : part.fields.name = "section") {name : String}
    (rung : (level, name) ∈ sectionLadder) :
    ((part.withLevel level).convert style).output =
        "\\" ++ name ++ "\x7b" ++ part.fields.title.getD "" ++ "\x7d" ++ "\n\n" ++
          siblingText style part.children ++ "\n\n" ∧
      ((part.withLevel level).convert style).diagnostics =
        part.children.flatMap fun child => (child.convert style).diagnostics := by
  obtain ⟨output, diagnostics⟩ := Tree.convert_of_heading style (nodeClass_of_section named)
  have written : ((part.withLevel level).fields.heading
        (siblingText style (part.withLevel level).children)).text? style =
      .ok (Latex.command name [part.fields.title.getD ""] ++ "\n\n" ++
        siblingText style part.children ++ "\n\n") := by
    change Heading.text? ⟨level, _, _⟩ = _
    rw [Heading.text?, sectionCommand?_of_mem rung]
    rfl
  obtain ⟨own, silent⟩ := Node.render_of_ok written
  rw [output, own, diagnostics, silent, List.append_nil, Latex.command_singleton]
  exact ⟨rfl, rfl⟩

/-- A section of any other level is left out, and raises that. -/
lemma Tree.convert_section_of_none (named : part.fields.name = "section")
    (outside : ¬(1 ≤ level ∧ level ≤ 5)) :
    ((part.withLevel level).convert style).output = "" ∧
      ((part.withLevel level).convert style).diagnostics =
        (part.children.flatMap fun child => (child.convert style).diagnostics) ++
          [.unsupportedSectionLevel level (part.fields.title.getD "")] := by
  obtain ⟨output, diagnostics⟩ := Tree.convert_of_heading style (nodeClass_of_section named)
  have answered : ((part.withLevel level).fields.heading
        (siblingText style (part.withLevel level).children)).text? style =
      .error (.unsupportedSectionLevel level (part.fields.title.getD "")) :=
    Heading.text?_eq_error_iff.2 ⟨outside, rfl⟩
  obtain ⟨own, raised⟩ := Node.render_of_error answered
  rw [output, own, diagnostics, raised]
  exact ⟨rfl, rfl⟩

end Rendering

section Levels

variable {fill node : Value → Value} {place : Tree → Tree} {part : Tree} {numeral : Numeral}
  {text : String} (encloses : Encloses fill place) (asks : NodeField.schema.Asks .level node)
  (isNode : IsNode 127 (fill (node .null)) (place part))

include encloses asks isNode

/-- The level of a node that stands in a tree may be exchanged. -/
lemma exchanges_level :
    Exchanges (IsNode 127) (readNode 127) (IsNullOr IsLevel) (Json.optional Json.level)
      (fill ∘ node) fun level => place { part with fields.level := level } := by
  obtain ⟨_, inside, exchanges⟩ := encloses.exchanges isNode
  obtain ⟨_, rfl, -⟩ := inside.exists_lists
  obtain ⟨-, exchanges'⟩ := inside.exchanges asks fun _ => rfl
  exact exchanges.comp exchanges'

variable (json : IsJson text.toList (fill (node (.number numeral))))

include json

/-- A tree with a number that is no section level in it is refused as the number is. -/
lemma Tree.parse_of_level_eq_error {cause : Cause} (refused : numeral.level = .error cause) :
    Tree.parse text = .error cause := by
  have full : Value.number numeral ≠ .null := by
    rintro ⟨⟩
  have exchanges := exchanges_level encloses asks isNode
  exact Tree.parse_of_refuses json (exchanges.refuses ((Json.refuses_level refused).optional full))

/-- A tree with a section level in it is parsed with the level in its place. -/
lemma Tree.parse_of_writes {level : Nat} (writes : numeral.Writes level)
    (range : level ≤ 4294967295) : Tree.parse text = .ok (place (part.withLevel level)) := by
  have meant : IsNullOr IsLevel (.number numeral) (some level) := Json.isLevel_iff.2 ⟨writes, range⟩
  exact Tree.parse_eq_ok_iff.2 ⟨_, json, (exchanges_level encloses asks isNode).means meant⟩

end Levels

/-- The level of a section comes unchanged from the text to the command. Where the level of a
section that stands in a tree is left open, and the rest can be read, a number literal in its place
is read exactly if it writes an integer from zero to the largest number of 32 bits, and then as this
integer. Another integer of 64 bits is refused as such, and any other literal as a floating-point
number or as too large. A section whose level is from one to five gets the command of the level; with
any other level it is left out, and what it raises, behind what its children raise, carries the level
as it was written. -/
theorem Tree.parse_section_level {fill node : Value → Value} {place : Tree → Tree} {part : Tree}
    (encloses : Encloses fill place) (asks : NodeField.schema.Asks .level node)
    (isNode : IsNode 127 (fill (node .null)) (place part)) (named : part.fields.name = "section") :
    (∀ (numeral : Numeral) (text : String), IsJson text.toList (fill (node (.number numeral))) →
      ((∃ tree, Tree.parse text = .ok tree) ↔
        ∃ level : Nat, numeral.Writes level ∧ level ≤ 4294967295) ∧
      (∀ level : Nat, numeral.Writes level → level ≤ 4294967295 →
        Tree.parse text = .ok (place (part.withLevel level))) ∧
      (∀ v : Int, numeral.Writes v → -2 ^ 63 ≤ v ∧ v < 2 ^ 64 → ¬(0 ≤ v ∧ v ≤ 4294967295) →
        Tree.parse text = .error (.invalidLevel v)) ∧
      ((∀ v : Int, numeral.Writes v → ¬(-2 ^ 63 ≤ v ∧ v < 2 ^ 64)) →
        Tree.parse text = .error .numberOutOfRange ∨
          ∃ size, Tree.parse text = .error (.invalidType (.floating size) .level))) ∧
    (∀ v, (Cause.invalidLevel v).message =
      "invalid value: integer `" ++ toString v ++ "`, expected u32") ∧
    ∀ (style : Style) (level : Nat),
      let converted := (part.withLevel level).convert style
      let raised := part.children.flatMap fun child => (child.convert style).diagnostics
      (∀ name, (level, name) ∈ sectionLadder →
        converted.output =
            "\\" ++ name ++ "\x7b" ++ part.fields.title.getD "" ++ "\x7d" ++ "\n\n" ++
              siblingText style part.children ++ "\n\n" ∧
          converted.diagnostics = raised) ∧
        (¬(1 ≤ level ∧ level ≤ 5) →
          converted.output = "" ∧
            converted.diagnostics =
              raised ++ [.unsupportedSectionLevel level (part.fields.title.getD "")]) := by
  refine ⟨fun numeral text json => ?_, fun v => ?_, fun style level => ⟨fun name rung => ?_, ?_⟩⟩
  · have accepted : ∀ level : Nat, numeral.Writes level → level ≤ 4294967295 →
        Tree.parse text = .ok (place (part.withLevel level)) :=
      fun level => Tree.parse_of_writes encloses asks isNode json
    have refused : ∀ cause, numeral.level = .error cause → Tree.parse text = .error cause :=
      fun cause => Tree.parse_of_level_eq_error encloses asks isNode json
    refine ⟨⟨fun ⟨tree, parsed⟩ => ?_, fun ⟨level, writes, range⟩ => ?_⟩,
      accepted, fun v writes range outside => ?_, fun other => ?_⟩
    · cases counts : numeral.level with
      | error cause => cases parsed.symm.trans (refused cause counts)
      | ok level => exact ⟨level, Numeral.level_eq_ok_iff.1 counts⟩
    · exact ⟨_, accepted level writes range⟩
    · exact refused _ (writes.level_eq_error range outside)
    · obtain tooLarge | ⟨size, floating⟩ := Numeral.level_of_forall_not other
      · exact .inl (refused _ tooLarge)
      · exact .inr ⟨size, refused _ floating⟩
  · exact Cause.message_invalidLevel v
  · exact Tree.convert_section style named rung
  · exact Tree.convert_section_of_none style named

/-- The largest number of 32 bits is a level still, though none with a command, and the next one is
refused. -/
theorem Tree.parse_section_level_at_largest :
    let part : Tree := { Tree.blank with fields.name := "section" }
    let written (literal : String) :=
      "\x7b\"name\":\"section\",\"level\":" ++ literal ++ "\x7d"
    Tree.parse (written "4294967295") = .ok (part.withLevel 4294967295) ∧
      Tree.parse (written "4294967296") = .error (.invalidLevel 4294967296) ∧
      ∀ style, ((part.withLevel 4294967295).convert style).output = "" ∧
        ((part.withLevel 4294967295).convert style).diagnostics =
          [.unsupportedSectionLevel 4294967295 ""] := by
  intro part written
  obtain ⟨nameKey, nameDenoted, nameWritten⟩ := @exists_writtenString "name".toList (by decide)
  obtain ⟨name, denoted, writtenName⟩ := @exists_writtenString "section".toList (by decide)
  obtain ⟨levelKey, levelDenoted, levelWritten⟩ := @exists_writtenString "level".toList (by decide)
  let node (value : Value) : Value := .object ([(nameKey, .text name)] ++ [(levelKey, value)])
  have asks : NodeField.schema.Asks .level node := .object levelDenoted
  have isNode : IsNode 127 (node .null) part := by
    have keyed : Json.Keyed ([(nameKey, .text name)] ++ [(levelKey, .null)])
        [("name", .text name), ("level", .null)] :=
      .cons ⟨nameDenoted, rfl⟩ (.cons ⟨levelDenoted, rfl⟩ .nil)
    have once : ["name", "level"].Nodup := by decide
    unfold IsNode
    refine ⟨_, .object ⟨_, rfl, keyed⟩ fun field => List.nodup_iff_count_le_one.1 once _,
      fun field => ?_⟩
    cases field with
    | name => exact ⟨name, rfl, denoted⟩
    | _ => rfl
  have json {digits : List Nat} {literal : String}
      (ran : (Json.readNumeral false).run literal.toList = .ok (⟨false, digits, [], none⟩, [])) :
      IsJson (written literal).toList (node (.number ⟨false, digits, [], none⟩)) := by
    obtain ⟨_, _, cut, ⟨-, form⟩, rfl⟩ := (Json.reads_readNumeral false).sound ran
    have behind := Json.WrittenMembers.next Json.allBlank_nil Json.allBlank_nil levelWritten
      Json.allBlank_nil Json.allBlank_nil (.positive rfl form) (.close Json.allBlank_nil)
    have members := Json.WrittenMembers.first Json.allBlank_nil nameWritten Json.allBlank_nil
      Json.allBlank_nil (.text writtenName) behind
    refine ⟨[], _, [], ?_, Json.allBlank_nil, Json.allBlank_nil, .object members⟩
    simp [written, cut]
  obtain ⟨levels, -, converted⟩ := Tree.parse_section_level .self asks isNode rfl
  obtain ⟨-, accepted, -, -⟩ := levels _ _ (@json [4, 2, 9, 4, 9, 6, 7, 2, 9, 5] "4294967295" rfl)
  obtain ⟨-, -, refused, -⟩ := levels _ _ (@json [4, 2, 9, 4, 9, 6, 7, 2, 9, 6] "4294967296" rfl)
  refine ⟨accepted 4294967295 .positive (by decide),
    refused 4294967296 .positive (by decide) (by decide), fun style => ?_⟩
  exact (converted style 4294967295).2 (by decide)

end Typeset
