import Typeset.Proofs.Renderer.Replay
import Typeset.Proofs.Tree.Composition

/-!
# Nodes without a template

No node is dropped without a word. A renderer answers a node that lacks a template with one
diagnostic, which carries the data of the node, and any other node with a text, which is empty only
if the template adds nothing to a content that is empty.
-/

namespace Typeset

namespace Node

/-- A node lacks a template, and a diagnostic says so by the node's own data. -/
inductive Lacks (roles : Dictionary) : Node → Diagnostic → Prop where
  | level {part : Heading} :
    ¬(1 ≤ part.level ∧ part.level ≤ 5) →
    Lacks roles (.heading part) (.unsupportedSectionLevel part.level part.title)
  | listKind {list : ItemList} {name : String} :
    list.kind = .other name → Lacks roles (.itemList list) (.unrecognizedKind "list" name none)
  | blockKind {body : Block} {name : String} :
    body.kind = .other name →
    Lacks roles (.block body) (.unrecognizedKind "block" name body.lines.head?)
  | quotedKind {span : Inline} {name : String} :
    span.kind = .quoted (.other name) →
    Lacks roles (.inline span) (.unrecognizedKind "inline" ("quoted:" ++ name) none)
  | anchorKind {span : Inline} {name : String} :
    span.kind = .anchor (.other name) →
    Lacks roles (.inline span) (.unrecognizedKind "inline" ("anchor:" ++ name) none)
  | inlineKind {span : Inline} {name : String} :
    span.kind = .other name → Lacks roles (.inline span) (.unrecognizedKind "inline" name none)
  /-- A role that is neither configured nor a colour. -/
  | role {span : Inline} {role : String} :
    span.kind = .quoted .plain → span.attributes.find? "role" = some role →
    roles.find? role = none → role ∉ colourRoles →
    Lacks roles (.inline span) (.unrecognizedRole role span.text)

/-- A node whose template adds nothing to its content, which is empty. -/
inductive IsVoid : Node → Prop where
  | block {body : Block} :
    body.kind = .pass ∨ body.kind = .stem → body.content = "" → IsVoid (.block body)
  | plain {span : Inline} :
    span.kind = .quoted .plain → span.attributes.find? "role" = none → span.text = "" →
    IsVoid (.inline span)

end Node

section Templates

variable {style : Style} {diagnostic : Diagnostic}

/-- Five levels have a sectioning command. -/
lemma sectionCommand?_eq_none_iff {level : Nat} :
    sectionCommand? level = none ↔ ¬(1 ≤ level ∧ level ≤ 5) := by
  cases level with
  | zero => simp [sectionCommand?]
  | succ level =>
    rw [sectionCommand?, List.getElem?_eq_none_iff, sectionCommands]
    simp only [List.length_cons, List.length_nil]
    omega

/-- A role has no rule if it is neither configured nor a colour. -/
lemma applyRole?_eq_none_iff {roles : Dictionary} {role text : String} :
    applyRole? roles role text = none ↔ roles.find? role = none ∧ role ∉ colourRoles := by
  unfold applyRole?
  cases roles.find? role with
  | some macroName => simp
  | none => simp

/-- A heading is refused exactly if its level is outside of the ladder. -/
lemma Heading.text?_eq_error_iff {part : Heading} :
    part.text? = .error diagnostic ↔
      ¬(1 ≤ part.level ∧ part.level ≤ 5) ∧
        diagnostic = .unsupportedSectionLevel part.level part.title := by
  rw [← sectionCommand?_eq_none_iff]
  unfold text?
  cases sectionCommand? part.level with
  | some name => simp
  | none => simp [eq_comm]

/-- A list is refused exactly if its kind is not known. -/
lemma ItemList.text?_eq_error_iff {list : ItemList} :
    list.text? = .error diagnostic ↔
      ∃ name, list.kind = .other name ∧ diagnostic = .unrecognizedKind "list" name none := by
  unfold text?
  cases list.kind with
  | other name => simp [ListKind.environment?, ListKind.name, eq_comm]
  | _ => simp [ListKind.environment?]

/-- A block is refused exactly if its kind is not known; the diagnostic has its first line. -/
lemma Block.text?_eq_error_iff {body : Block} :
    body.text? = .error diagnostic ↔
      ∃ name, body.kind = .other name ∧
        diagnostic = .unrecognizedKind "block" name body.lines.head? := by
  unfold text?
  cases body.kind with
  | other name => simp [eq_comm]
  | _ => simp

/-- A quoted span is refused exactly if its kind is not known, or if it is plain and its role has no
rule. -/
lemma Inline.quotedText?_eq_error_iff {span : Inline} {kind : QuotedKind} :
    span.quotedText? style kind = .error diagnostic ↔
      (∃ name, kind = .other name ∧
        diagnostic = .unrecognizedKind "inline" ("quoted:" ++ name) none) ∨
        kind = .plain ∧ ∃ role, span.attributes.find? "role" = some role ∧
          style.roles.find? role = none ∧ role ∉ colourRoles ∧
            diagnostic = .unrecognizedRole role span.text := by
  unfold quotedText? role?
  cases kind with
  | plain =>
    cases span.attributes.find? "role" with
    | none => simp
    | some role =>
      dsimp only
      cases applied : applyRole? style.roles role span.text with
      | some styled =>
        have ruled : ¬(style.roles.find? role = none ∧ role ∉ colourRoles) := by
          rw [← applyRole?_eq_none_iff, applied]
          exact Option.some_ne_none styled
        simp only [reduceCtorEq, false_iff]
        rintro (⟨_, ⟨⟩, _⟩ | ⟨-, _, same, unset, colourless, -⟩)
        cases same
        exact ruled ⟨unset, colourless⟩
      | none =>
        obtain ⟨unset, colourless⟩ := applyRole?_eq_none_iff.1 applied
        simp [unset, colourless, eq_comm]
  | other name => simp [unrecognizedInline, InlineKind.name, QuotedKind.name, eq_comm]
  | _ => simp

/-- An anchor is refused exactly if its kind is not known. -/
lemma Inline.anchorText?_eq_error_iff {span : Inline} {kind : AnchorKind} :
    span.anchorText? kind = .error diagnostic ↔
      ∃ name, kind = .other name ∧
        diagnostic = .unrecognizedKind "inline" ("anchor:" ++ name) none := by
  unfold anchorText?
  cases kind with
  | other name => simp [unrecognizedInline, InlineKind.name, AnchorKind.name, eq_comm]
  | _ => simp

/-- A node is answered by a diagnostic exactly if it lacks a template. -/
theorem Node.text?_eq_error_iff {node : Node} :
    node.text? style = .error diagnostic ↔ node.Lacks style.roles diagnostic := by
  refine ⟨fun answered => ?_, fun lacks => ?_⟩
  · cases node with
    | document root => cases answered
    | heading part =>
      obtain ⟨level, rfl⟩ := Heading.text?_eq_error_iff.1 answered
      exact .level level
    | itemList list =>
      obtain ⟨name, kind, rfl⟩ := ItemList.text?_eq_error_iff.1 answered
      exact .listKind kind
    | block body =>
      obtain ⟨name, kind, rfl⟩ := Block.text?_eq_error_iff.1 answered
      exact .blockKind kind
    | inline span =>
      simp only [text?, Inline.text?] at answered
      cases kind : span.kind with
      | quoted quoted =>
        rw [kind] at answered
        obtain ⟨name, rfl, rfl⟩ | ⟨rfl, role, styled, unset, colourless, rfl⟩ :=
          Inline.quotedText?_eq_error_iff.1 answered
        · exact .quotedKind kind
        · exact .role kind styled unset colourless
      | anchor anchor =>
        rw [kind] at answered
        obtain ⟨name, rfl, rfl⟩ := Inline.anchorText?_eq_error_iff.1 answered
        exact .anchorKind kind
      | lineBreak =>
        rw [kind] at answered
        cases answered
      | other name =>
        rw [kind] at answered
        cases answered
        exact .inlineKind kind
  · cases lacks with
    | level level => exact Heading.text?_eq_error_iff.2 ⟨level, rfl⟩
    | listKind kind => exact ItemList.text?_eq_error_iff.2 ⟨_, kind, rfl⟩
    | blockKind kind => exact Block.text?_eq_error_iff.2 ⟨_, kind, rfl⟩
    | quotedKind kind =>
      simp only [text?, Inline.text?, kind]
      exact Inline.quotedText?_eq_error_iff.2 (.inl ⟨_, rfl, rfl⟩)
    | anchorKind kind =>
      simp only [text?, Inline.text?, kind]
      exact Inline.anchorText?_eq_error_iff.2 ⟨_, rfl, rfl⟩
    | inlineKind kind =>
      simp only [text?, Inline.text?, kind]
      rfl
    | role kind styled unset colourless =>
      simp only [text?, Inline.text?, kind]
      exact Inline.quotedText?_eq_error_iff.2 (.inr ⟨rfl, _, styled, unset, colourless, rfl⟩)

/-- A command with one argument has it in braces. -/
lemma Latex.command_singleton (name argument : String) :
    command name [argument] = "\\" ++ name ++ "\x7b" ++ argument ++ "\x7d" := by
  simp only [command, braced, List.map_cons, List.map_nil, String.join_cons, String.join_nil,
    String.append_empty, String.append_assoc]

section Empty

/-- A command is never the empty text. -/
@[simp]
lemma Latex.command_ne_empty (name : String) (arguments : List String) :
    command name arguments ≠ "" := by
  rw [command, Ne, String.append_eq_empty_iff, String.append_eq_empty_iff]
  exact fun empty => absurd empty.1.1 (by decide)

/-- A stem is empty exactly if its content is. -/
lemma stemText_eq_empty_iff {content : String} : stemText content = "" ↔ content = "" := by
  unfold stemText
  split_ifs with bare
  · rfl
  · refine ⟨fun empty => ?_, fun empty => ?_⟩
    · rw [String.append_assoc, String.append_eq_empty_iff] at empty
      exact absurd empty.1 (by decide)
    · subst empty
      exact absurd (by decide) bare

/-- A document is never the empty text. -/
lemma Document.text_ne_empty (root : Document) : root.text style ≠ "" := by
  simp [text]

/-- A heading is never the empty text. -/
lemma Heading.text?_ne_empty (part : Heading) : part.text? ≠ .ok "" := by
  unfold text?
  cases sectionCommand? part.level <;> simp

/-- A list is never the empty text. -/
lemma ItemList.text?_ne_empty (list : ItemList) : list.text? ≠ .ok "" := by
  unfold text? text?.written Latex.environment
  cases list.kind.environment? <;> simp

/-- A block is the empty text exactly if it is passed through or a stem, without content. -/
lemma Block.text?_eq_empty_iff {body : Block} :
    body.text? = .ok "" ↔ (body.kind = .pass ∨ body.kind = .stem) ∧ body.content = "" := by
  unfold text?
  cases body.kind with
  | stem => simp [stemText_eq_empty_iff]
  | literal => simp [Latex.environment]
  | _ => simp

/-- A role never gives the empty text. -/
lemma applyRole?_ne_empty {roles : Dictionary} {role text : String} :
    applyRole? roles role text ≠ some "" := by
  unfold applyRole?
  cases roles.find? role with
  | some macroName => simp
  | none => simp

/-- A quoted span is the empty text exactly if it is plain, without a role and without text. -/
lemma Inline.quotedText?_eq_empty_iff {span : Inline} {kind : QuotedKind} :
    span.quotedText? style kind = .ok "" ↔
      kind = .plain ∧ span.attributes.find? "role" = none ∧ span.text = "" := by
  unfold quotedText? role?
  cases kind with
  | plain =>
    cases span.attributes.find? "role" with
    | none => simp
    | some role =>
      dsimp only
      cases applied : applyRole? style.roles role span.text with
      | some styled =>
        have full : styled ≠ "" := by
          rintro rfl
          exact applyRole?_ne_empty applied
        simp [full]
      | none => simp
  | _ => simp

/-- An anchor is never the empty text. -/
lemma Inline.anchorText?_ne_empty (span : Inline) (kind : AnchorKind) :
    span.anchorText? kind ≠ .ok "" := by
  unfold anchorText?
  cases kind <;> simp

/-- A node is answered by an empty text exactly if its template adds nothing to an empty content. -/
theorem Node.text?_eq_empty_iff {node : Node} : node.text? style = .ok "" ↔ node.IsVoid := by
  refine ⟨fun answered => ?_, fun void => ?_⟩
  · cases node with
    | document root => exact absurd (Except.ok.inj answered) root.text_ne_empty
    | heading part => exact absurd answered part.text?_ne_empty
    | itemList list => exact absurd answered list.text?_ne_empty
    | block body =>
      obtain ⟨kind, empty⟩ := Block.text?_eq_empty_iff.1 answered
      exact .block kind empty
    | inline span =>
      simp only [text?, Inline.text?] at answered
      cases kind : span.kind with
      | quoted quoted =>
        rw [kind] at answered
        obtain ⟨rfl, unstyled, empty⟩ := Inline.quotedText?_eq_empty_iff.1 answered
        exact .plain kind unstyled empty
      | anchor anchor =>
        rw [kind] at answered
        exact absurd answered (span.anchorText?_ne_empty anchor)
      | lineBreak =>
        rw [kind] at answered
        simp at answered
      | other name =>
        rw [kind] at answered
        cases answered
  · cases void with
    | block kind empty => exact Block.text?_eq_empty_iff.2 ⟨kind, empty⟩
    | plain kind unstyled empty =>
      simp only [text?, Inline.text?, kind]
      exact Inline.quotedText?_eq_empty_iff.2 ⟨rfl, unstyled, empty⟩

end Empty

end Templates

section Rendering

variable {style : Style} {node : Node} {text : String} {diagnostic : Diagnostic}

/-- A node with a text is rendered to it, without a diagnostic. -/
lemma Node.render_of_ok (written : node.text? style = .ok text) :
    (node.render style).output = text ∧ (node.render style).diagnostics = [] := by
  rw [diagnostics_render, written, render, written]
  exact ⟨rfl, rfl⟩

/-- A node that is refused is rendered to nothing, with one diagnostic. -/
lemma Node.render_of_error (answered : node.text? style = .error diagnostic) :
    (node.render style).output = "" ∧ (node.render style).diagnostics = [diagnostic] := by
  rw [diagnostics_render, answered, render, answered]
  exact ⟨rfl, rfl⟩

end Rendering

namespace Renderer

variable (renderer : Renderer) {node : Node} {text : String} {diagnostic : Diagnostic}

/-- A renderer gives the text of a node and keeps its diagnostics. -/
lemma render_of_ok (written : node.text? renderer.settings.style = .ok text) :
    (renderer.render node).1 = text ∧
      (renderer.render node).2.diagnostics = renderer.diagnostics := by
  obtain ⟨output, silent⟩ := Node.render_of_ok written
  rw [render_eq]
  exact ⟨output, (congrArg _ silent).trans (List.append_nil _)⟩

/-- A renderer gives no text for a node that is refused, and adds the diagnostic to its own. -/
lemma render_of_error (answered : node.text? renderer.settings.style = .error diagnostic) :
    (renderer.render node).1 = "" ∧
      (renderer.render node).2.diagnostics = renderer.diagnostics ++ [diagnostic] := by
  obtain ⟨output, raised⟩ := Node.render_of_error answered
  rw [render_eq]
  exact ⟨output, congrArg _ raised⟩

/-- Whatever a renderer has done before, it drops no node without a word. Of a node that lacks a
template it writes nothing and raises the one diagnostic that carries the node's data. For every
other node it raises nothing, and what it writes is only empty if the template adds nothing to an
empty content. -/
theorem render_answers (renderer : Renderer) (node : Node) :
    let roles := renderer.settings.style.roles
    let rendered := renderer.render node
    (∀ diagnostic, node.Lacks roles diagnostic →
      rendered.1 = "" ∧ rendered.2.diagnostics = renderer.diagnostics ++ [diagnostic]) ∧
      ((∀ diagnostic, ¬node.Lacks roles diagnostic) →
        rendered.2.diagnostics = renderer.diagnostics ∧ (rendered.1 = "" ↔ node.IsVoid)) := by
  intro roles rendered
  refine ⟨fun diagnostic lacks => ?_, fun ruled => ?_⟩
  · exact renderer.render_of_error (Node.text?_eq_error_iff.2 lacks)
  · cases answered : node.text? renderer.settings.style with
    | error diagnostic => exact absurd (Node.text?_eq_error_iff.1 answered) (ruled diagnostic)
    | ok text =>
      obtain ⟨output, silent⟩ := renderer.render_of_ok answered
      refine ⟨silent, ?_⟩
      rw [← Node.text?_eq_empty_iff, answered, Except.ok.injEq]
      exact Eq.congr_left output

end Renderer

end Typeset
