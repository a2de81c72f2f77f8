import Typeset.Proofs.Tree.Composition

/-!
# Unknown nodes

A node whose name says nothing renders empty, but it still stands among its siblings: it is no span,
so they are put on lines of their own, and it takes a line itself. It reads as a block without text
would in its place, and the siblings read less without it. What the other nodes raise does not
depend on it, but for the text that an unrecognized role quotes.
-/

namespace Typeset

/-- Some siblings replaced by others, anywhere in the children that a conversion visits. A tree is
taken as a list of one. -/
inductive Edits (old new : List Tree) : List Tree → List Tree → Prop where
  | here (before after : List Tree) : before ++ after ≠ [] →
    Edits old new (before ++ old ++ after) (before ++ new ++ after)
  | children (before after : List Tree) {children children' : List Tree} {fields : Fields}
      {entries : List Entry} :
    Tree.walksChildren ⟨fields, children, entries⟩ = true → Edits old new children children' →
    Edits old new (before ++ ⟨fields, children, entries⟩ :: after)
      (before ++ ⟨fields, children', entries⟩ :: after)
  | entry (before after : List Tree) {children children' unread : List Tree} {fields : Fields}
      {text : String} {first last : List Entry} :
    Tree.walksEntries ⟨fields, unread, first ++ ⟨text, children⟩ :: last⟩ = true →
    Edits old new children children' →
    Edits old new (before ++ ⟨fields, unread, first ++ ⟨text, children⟩ :: last⟩ :: after)
      (before ++ ⟨fields, unread, first ++ ⟨text, children'⟩ :: last⟩ :: after)

/-- A block without text. -/
def Tree.emptyBlock : Tree where
  fields := { Fields.blank with name := "pass", source := "" }
  children := []
  entries := []

/-- A diagnostic without the text that it quotes of a span. -/
def Diagnostic.subject : Diagnostic → Diagnostic
  | unrecognizedRole role _ => unrecognizedRole role ""
  | diagnostic => diagnostic

/-- What the trees raise, one after the other. -/
def siblingDiagnostics (style : Style) (siblings : List Tree) : List Diagnostic :=
  siblings.flatMap fun tree => (tree.convert style).diagnostics

/-- One diagnostic goes, and the others stay in their order, as far as the given view shows. -/
def Drops (view : Diagnostic → Diagnostic) (dropped : Diagnostic) (old new : List Diagnostic) :
    Prop :=
  ∃ before after, old = before ++ dropped :: after ∧ new.map view = (before ++ after).map view

/-- A diagnostic is dropped as well between others. -/
lemma Drops.within {view : Diagnostic → Diagnostic} {dropped : Diagnostic}
    {old new back back' : List Diagnostic} (front : List Diagnostic)
    (drops : Drops view dropped old new) (backs : back'.map view = back.map view) :
    Drops view dropped (front ++ old ++ back) (front ++ new ++ back') := by
  obtain ⟨before, after, rfl, same⟩ := drops
  refine ⟨front ++ before, after ++ back, by simp, ?_⟩
  simp only [List.map_append, backs, same, List.append_assoc]

/-- The diagnostics of siblings are those of the front and those of the back. -/
lemma siblingDiagnostics_append (style : Style) (left right : List Tree) :
    siblingDiagnostics style (left ++ right) =
      siblingDiagnostics style left ++ siblingDiagnostics style right :=
  List.flatMap_append

/-- The diagnostics of siblings are those of the first one and those of the others. -/
lemma siblingDiagnostics_cons (style : Style) (tree : Tree) (trees : List Tree) :
    siblingDiagnostics style (tree :: trees) =
      (tree.convert style).diagnostics ++ siblingDiagnostics style trees :=
  List.flatMap_cons

/-- A single sibling has the diagnostics of its conversion. -/
lemma siblingDiagnostics_singleton (style : Style) (tree : Tree) :
    siblingDiagnostics style [tree] = (tree.convert style).diagnostics :=
  List.flatMap_singleton ..

/-- A single sibling has the text of its conversion. -/
lemma siblingText_singleton (style : Style) (tree : Tree) :
    siblingText style [tree] = (tree.convert style).output := by
  rw [siblingText, joinSiblings, List.map_singleton, String.intercalate_singleton]

/-- A sibling can be replaced by one that runs on like it and converts to the same text. -/
lemma siblingText_replace {style : Style} {before after : List Tree} {tree tree' : Tree}
    (runs : tree'.fields.runsOn = tree.fields.runsOn)
    (output : (tree'.convert style).output = (tree.convert style).output) :
    siblingText style (before ++ tree' :: after) = siblingText style (before ++ tree :: after) := by
  simp only [siblingText, joinSiblings, separator, List.all_append, List.all_cons, List.map_append,
    List.map_cons, runs, output]

section Own

variable {style : Style} {content : List Tree → String} {fields : Fields}

/-- Of its children a node reads what they read, and whether there are any. -/
lemma Tree.ownRendering_children {children children' : List Tree} {entries : List Entry}
    (reads : content children' = content children)
    (empty : children'.isEmpty = children.isEmpty) :
    Tree.ownRendering style content ⟨fields, children', entries⟩ =
      Tree.ownRendering style content ⟨fields, children, entries⟩ := by
  simp only [ownRendering, reads, empty]

/-- Of the children of an entry a node reads what they read. -/
lemma Tree.ownRendering_entries {children children' unread : List Tree} {first last : List Entry}
    {text : String} (reads : content children' = content children) :
    Tree.ownRendering style content ⟨fields, unread, first ++ ⟨text, children'⟩ :: last⟩ =
      Tree.ownRendering style content ⟨fields, unread, first ++ ⟨text, children⟩ :: last⟩ := by
  simp only [ownRendering, reads, List.map_append, List.map_cons]

/-- What a span raises depends on its text only where it is quoted. -/
lemma Fields.subjects_inline (text other : String) :
    ((fields.inline other).render style).diagnostics.map Diagnostic.subject =
      ((fields.inline text).render style).diagnostics.map Diagnostic.subject := by
  rw [Node.diagnostics_render, Node.diagnostics_render]
  simp only [inline, Node.text?, Inline.text?]
  cases fields.inlineKind with
  | quoted kind =>
    cases kind with
    | plain =>
      simp only [Inline.quotedText?, Inline.role?]
      cases fields.attributes.find? "role" with
      | none => rfl
      | some role =>
        simp only [applyRole?]
        cases style.roles.find? role with
        | some macroName => rfl
        | none => cases colourRoles.contains role <;> rfl
    | _ => rfl
  | anchor kind => cases kind <;> rfl
  | lineBreak => rfl
  | other name => rfl

/-- What a node raises itself depends on its content only where the text of a span is quoted. -/
lemma Tree.subjects_ownRendering {content' : List Tree → String} {tree tree' : Tree}
    (same : tree'.fields = tree.fields) :
    (tree'.ownRendering style content').diagnostics.map Diagnostic.subject =
      (tree.ownRendering style content).diagnostics.map Diagnostic.subject := by
  unfold ownRendering
  rw [same]
  cases tree.fields.nodeClass with
  | leaf => rfl
  | unknown => rfl
  | document =>
    simp only [Node.diagnostics_render]
    rfl
  | heading =>
    simp only [Node.diagnostics_render, Fields.heading, Node.text?, Heading.text?]
    cases sectionCommand? (tree.fields.level.getD 0) <;> rfl
  | itemList =>
    simp only [Node.diagnostics_render, Fields.itemList, Node.text?, ItemList.text?]
    cases tree.fields.listKind.environment? <;> rfl
  | block =>
    simp only [Node.diagnostics_render, Fields.block, Node.text?, Block.text?]
    cases tree.fields.blockKind <;> rfl
  | inline => exact Fields.subjects_inline _ _

end Own

/-- What siblings raise, with the part of one of them spelled out. -/
lemma siblingDiagnostics_around (style : Style) (before after : List Tree) (tree : Tree) :
    siblingDiagnostics style (before ++ tree :: after) =
      siblingDiagnostics style before ++ siblingDiagnostics style tree.visitedChildren ++
        ((tree.ownRendering style (siblingText style)).diagnostics ++
          siblingDiagnostics style after) := by
  rw [siblingDiagnostics_append, siblingDiagnostics_cons, Tree.diagnostics_convert]
  simp only [siblingDiagnostics, List.append_assoc]

/-- Whatever is replaced below it, a node itself raises the same, as far as the given view shows. -/
structure Steady (style : Style) (view : Diagnostic → Diagnostic) (old new : List Tree) :
    Prop where
  children : ∀ {fields : Fields} {children children' : List Tree} {entries : List Entry},
    Edits old new children children' →
    (Tree.ownRendering style (siblingText style)
        ⟨fields, children', entries⟩).diagnostics.map view =
      (Tree.ownRendering style (siblingText style)
        ⟨fields, children, entries⟩).diagnostics.map view
  entry : ∀ {fields : Fields} {children children' unread : List Tree} {first last : List Entry}
    {text : String}, Edits old new children children' →
    (Tree.ownRendering style (siblingText style)
        ⟨fields, unread, first ++ ⟨text, children'⟩ :: last⟩).diagnostics.map view =
      (Tree.ownRendering style (siblingText style)
        ⟨fields, unread, first ++ ⟨text, children⟩ :: last⟩).diagnostics.map view

/-- What a node raises itself never depends on what stands below it but for the text of a span. -/
lemma Steady.subject (style : Style) (old new : List Tree) :
    Steady style Diagnostic.subject old new where
  children _ := Tree.subjects_ownRendering rfl
  entry _ := Tree.subjects_ownRendering rfl

namespace Edits

variable {old new siblings siblings' : List Tree} {style : Style}

/-- Siblings are not edited away. -/
lemma isEmpty_eq (edits : Edits old new siblings siblings') :
    siblings'.isEmpty = siblings.isEmpty := by
  have other (before middle after : List Tree) (others : before ++ after ≠ []) :
      (before ++ middle ++ after).isEmpty = false := by
    rw [List.isEmpty_eq_false_iff]
    intro none
    simp only [List.append_eq_nil_iff] at none
    exact others (List.append_eq_nil_iff.2 ⟨none.1.1, none.2⟩)
  cases edits with
  | here before after others => rw [other _ _ _ others, other _ _ _ others]
  | children before after =>
    cases before with
    | nil => rfl
    | cons tree before => rfl
  | entry before after =>
    cases before with
    | nil => rfl
    | cons tree before => rfl

/-- What reads the same among any siblings reads the same deeper in a tree. -/
lemma siblingText_eq (edits : Edits old new siblings siblings')
    (reads : ∀ before after, before ++ after ≠ [] →
      siblingText style (before ++ new ++ after) = siblingText style (before ++ old ++ after)) :
    siblingText style siblings' = siblingText style siblings := by
  induction edits with
  | here before after others => exact reads before after others
  | children before after walks edits ih =>
    refine siblingText_replace rfl ?_
    rw [Tree.convert_eq, Tree.convert_eq, Tree.ownRendering_children ih edits.isEmpty_eq]
  | entry before after walks edits ih =>
    refine siblingText_replace rfl ?_
    rw [Tree.convert_eq, Tree.convert_eq, Tree.ownRendering_entries ih]

/-- Nodes raise the very same above what reads the same among any siblings. -/
lemma steady (reads : ∀ before after, before ++ after ≠ [] →
      siblingText style (before ++ new ++ after) = siblingText style (before ++ old ++ after)) :
    Steady style id old new where
  children edits := by
    rw [Tree.ownRendering_children (edits.siblingText_eq reads) edits.isEmpty_eq]
  entry edits := by
    rw [Tree.ownRendering_entries (edits.siblingText_eq reads)]

/-- Children are walked as before, since none of them were edited away. -/
lemma walksChildren_eq {fields : Fields} {entries : List Entry}
    (edits : Edits old new siblings siblings') :
    Tree.walksChildren ⟨fields, siblings', entries⟩ =
      Tree.walksChildren ⟨fields, siblings, entries⟩ := by
  simp only [Tree.walksChildren, edits.isEmpty_eq]

/-- A diagnostic that goes among any siblings goes deeper in a tree, if the nodes above raise what
they raised. -/
lemma drops {view : Diagnostic → Diagnostic} {dropped : Diagnostic}
    (edits : Edits old new siblings siblings') (above : Steady style view old new)
    (raises : siblingDiagnostics style old = [dropped])
    (silent : siblingDiagnostics style new = []) :
    Drops view dropped (siblingDiagnostics style siblings)
      (siblingDiagnostics style siblings') := by
  induction edits with
  | here before after others =>
    simp only [siblingDiagnostics_append, raises, silent, List.append_nil]
    exact ⟨_, _, List.append_assoc .., rfl⟩
  | children before after walks edits ih =>
    rw [siblingDiagnostics_around, siblingDiagnostics_around,
      Tree.visitedChildren_of_walksChildren walks,
      Tree.visitedChildren_of_walksChildren (edits.walksChildren_eq.trans walks)]
    refine ih.within _ ?_
    rw [List.map_append, List.map_append, above.children edits]
  | @entry before after nested nested' unread fields text first last walks edits ih =>
    have listed (given : List Tree) :
        (first ++ ⟨text, given⟩ :: last).flatMap Entry.children =
          first.flatMap Entry.children ++ given ++ last.flatMap Entry.children := by
      simp only [List.flatMap_append, List.flatMap_cons, List.append_assoc]
    have unlisted := Tree.visitedChildren_of_walksEntries walks
    have unlisted' : Tree.visitedChildren ⟨fields, unread, first ++ ⟨text, nested'⟩ :: last⟩ = _ :=
      Tree.visitedChildren_of_walksEntries walks
    rw [siblingDiagnostics_around, siblingDiagnostics_around, unlisted, unlisted', listed, listed]
    simp only [siblingDiagnostics_append]
    refine (ih.within _ rfl).within _ ?_
    rw [List.map_append, List.map_append, above.entry edits]

end Edits

/-- How long texts are with something between them. -/
lemma length_intercalate {texts : List String} (between : String) (given : texts ≠ []) :
    (between.intercalate texts).length + between.length =
      (String.join texts).length + texts.length * between.length := by
  induction texts with
  | nil => exact absurd rfl given
  | cons text texts ih =>
    cases texts with
    | nil => simp
    | cons next texts =>
      have later := ih (List.cons_ne_nil _ _)
      rw [String.intercalate_cons_cons, String.join_cons, String.length_append,
        String.length_append, String.length_append, List.length_cons, Nat.succ_mul]
      omega

namespace Tree

variable {style : Style} {unknown : Tree}

/-- An unknown node has no text. -/
lemma convert_output_of_unknown (kind : unknown.fields.nodeClass = .unknown) :
    (unknown.convert style).output = "" := by
  rw [convert_eq, ownRendering, kind]

/-- An unknown node has one diagnostic, about its name. -/
lemma convert_diagnostics_of_unknown (kind : unknown.fields.nodeClass = .unknown) :
    (unknown.convert style).diagnostics = [.unrecognizedVariant unknown.fields.name] := by
  have unvisited : unknown.visitedChildren = [] := by
    simp only [visitedChildren, walksChildren, walksEntries, kind]
    rfl
  rw [diagnostics_convert, unvisited, ownRendering, kind]
  rfl

/-- An unknown node does not run on in a line. -/
lemma runsOn_of_unknown (kind : unknown.fields.nodeClass = .unknown) :
    unknown.fields.runsOn = false := by
  rw [Fields.runsOn, kind]
  rfl

/-- An unknown node takes a line among its siblings, and puts them on lines of their own. -/
lemma siblingText_of_unknown (kind : unknown.fields.nodeClass = .unknown)
    (before after : List Tree) :
    siblingText style (before ++ unknown :: after) =
      "\n".intercalate ((before.map fun tree => (tree.convert style).output) ++
        "" :: after.map fun tree => (tree.convert style).output) := by
  have apart : separator (before ++ unknown :: after) = "\n" := by
    rw [separator, List.all_append, List.all_cons, runsOn_of_unknown kind, Bool.false_and,
      Bool.and_false, if_neg Bool.false_ne_true]
  rw [siblingText, joinSiblings, apart, List.map_append, List.map_cons,
    convert_output_of_unknown kind]

/-- Without the unknown node its siblings read one line end less, or one less for each of them if
they run together. -/
lemma length_siblingText_of_unknown (kind : unknown.fields.nodeClass = .unknown)
    {before after : List Tree} (others : before ++ after ≠ []) :
    (siblingText style (before ++ unknown :: after)).length =
      (siblingText style (before ++ after)).length +
        if (before ++ after).all (·.fields.runsOn) then (before ++ after).length else 1 := by
  have outputs : (before ++ after).map (fun tree => (tree.convert style).output) ≠ [] :=
    mt List.map_eq_nil_iff.1 others
  have length_line : "\n".length = 1 := rfl
  have length_empty : "".length = 0 := rfl
  have whole := @length_intercalate ((before.map fun tree => (tree.convert style).output) ++
    "" :: after.map fun tree => (tree.convert style).output) "\n" (by simp)
  have rest := length_intercalate (separator (before ++ after)) outputs
  have count := List.length_pos_iff.2 others
  rw [siblingText_of_unknown kind, siblingText, joinSiblings]
  simp only [List.map_append, String.join_append, String.join_cons, String.empty_append,
    List.length_append, List.length_cons, List.length_map, length_line] at whole rest count ⊢
  unfold separator at rest ⊢
  split at rest
  · next run =>
    rw [if_pos run, if_pos run]
    simp only [length_empty] at rest
    omega
  · next apart =>
    rw [if_neg apart, if_neg apart]
    simp only [length_line] at rest
    omega

end Tree

/-- An unknown node reads as a block without text would in its place, but for the diagnostic that it
raises. Without it the tree raises one diagnostic less, and otherwise the same but for the texts
that unrecognized roles quote. The siblings never read the same without it: they lose a line end, or
one for each of them if they run together. -/
theorem Tree.convert_of_unknown {style : Style} {unknown : Tree}
    (kind : unknown.fields.nodeClass = .unknown) :
    (∀ tree tree', Edits [unknown] [emptyBlock] [tree] [tree'] →
      (tree'.convert style).output = (tree.convert style).output ∧
        Drops id (.unrecognizedVariant unknown.fields.name)
          (tree.convert style).diagnostics (tree'.convert style).diagnostics) ∧
    (∀ tree tree', Edits [unknown] [] [tree] [tree'] →
      Drops Diagnostic.subject (.unrecognizedVariant unknown.fields.name)
        (tree.convert style).diagnostics (tree'.convert style).diagnostics) ∧
    ∀ before after, before ++ after ≠ [] →
      siblingText style (before ++ unknown :: after) =
          "\n".intercalate ((before.map fun tree => (tree.convert style).output) ++
            "" :: after.map fun tree => (tree.convert style).output) ∧
        (siblingText style (before ++ unknown :: after)).length =
          (siblingText style (before ++ after)).length +
            if (before ++ after).all (·.fields.runsOn) then (before ++ after).length else 1 := by
  have raises :
      siblingDiagnostics style [unknown] = [.unrecognizedVariant unknown.fields.name] := by
    rw [siblingDiagnostics_singleton, convert_diagnostics_of_unknown kind]
  refine ⟨fun tree tree' edits => ?_, fun tree tree' edits => ?_, fun before after others => ?_⟩
  · have reads (before after : List Tree) (_ : before ++ after ≠ []) :
        siblingText style (before ++ [emptyBlock] ++ after) =
          siblingText style (before ++ [unknown] ++ after) := by
      rw [List.append_assoc, List.append_assoc]
      exact siblingText_replace (runsOn_of_unknown kind).symm (convert_output_of_unknown kind).symm
    have text := edits.siblingText_eq reads
    have dropped := edits.drops (Edits.steady reads) raises rfl
    rw [siblingText_singleton, siblingText_singleton] at text
    rw [siblingDiagnostics_singleton, siblingDiagnostics_singleton] at dropped
    exact ⟨text, dropped⟩
  · have dropped := edits.drops (.subject style _ _) raises rfl
    rw [siblingDiagnostics_singleton, siblingDiagnostics_singleton] at dropped
    exact dropped
  · exact ⟨siblingText_of_unknown kind before after, length_siblingText_of_unknown kind others⟩

/-- A table in a paragraph puts the texts around it on lines of their own. -/
theorem convert_of_table_in_paragraph :
    let text (given : String) : Tree :=
      ⟨{ Fields.blank with name := "text", text := given }, [], []⟩
    let table : Tree := ⟨{ Fields.blank with name := "table" }, [], []⟩
    let paragraph (children : List Tree) : Tree :=
      ⟨{ Fields.blank with name := "paragraph" }, children, []⟩
    let style : Style := ⟨.empty, .default⟩
    ((paragraph [text "a", Tree.emptyBlock, text "b"]).convert style).output =
        ((paragraph [text "a", table, text "b"]).convert style).output ∧
      Drops Diagnostic.subject (.unrecognizedVariant "table")
        ((paragraph [text "a", table, text "b"]).convert style).diagnostics
        ((paragraph [text "a", text "b"]).convert style).diagnostics ∧
      (siblingText style [text "a", table, text "b"]).length =
        (siblingText style [text "a", text "b"]).length + 2 := by
  intro text table paragraph style
  obtain ⟨replaced, removed, read⟩ :=
    @Tree.convert_of_unknown style table (by decide)
  have within (new : List Tree) : Edits [table] new [paragraph [text "a", table, text "b"]]
      [paragraph ([text "a"] ++ new ++ [text "b"])] :=
    .children [] [] (by decide) (.here [text "a"] [text "b"] (List.cons_ne_nil _ _))
  exact ⟨(replaced _ _ (within _)).1, removed _ _ (within _),
    (read [text "a"] [text "b"] (List.cons_ne_nil _ _)).2⟩

/-- A table in a paragraph contributes two line ends: the texts around it would run together. -/
theorem table_parts_texts :
    let text (given : String) : Tree :=
      ⟨{ Fields.blank with name := "text", text := given }, [], []⟩
    let table : Tree := ⟨{ Fields.blank with name := "table" }, [], []⟩
    let paragraph (children : List Tree) : Tree :=
      ⟨{ Fields.blank with name := "paragraph" }, children, []⟩
    let style : Style := ⟨.empty, .default⟩
    Edits [table] [] [paragraph [text "a", table, text "b"]] [paragraph [text "a", text "b"]] ∧
      ((paragraph [text "a", table, text "b"]).convert style).output = "a\n\nb\n\n" ∧
      ((paragraph [text "a", text "b"]).convert style).output = "ab\n\n" := by
  intro text table paragraph style
  refine ⟨?_, by decide +kernel, by decide +kernel⟩
  exact .children [] [] (by decide) (.here [text "a"] [text "b"] (List.cons_ne_nil _ _))

end Typeset
