import Typeset.Proofs.Tree.Composition
import Typeset.Proofs.Tree.Wrappers

/-!
# No text is lost

What a conversion writes is woven from the texts of its tree, each of them once and in the order of
the document, and from what the templates put around them. A node without a template would lose what
it contains, but it raises a diagnostic; a document could lose display markers of its body, but it
finds none to strip if no text brings in a marker.
-/

namespace Typeset

open DisplayMath

/-- A text put together from pieces of a frame and from the texts of a list, each once and in order.
-/
inductive Woven (Piece : String → Prop) : String → List String → Prop where
  | nil : Woven Piece "" []
  | piece {piece rest : String} {texts : List String} :
    Piece piece → Woven Piece rest texts → Woven Piece (piece ++ rest) texts
  | text {text rest : String} {texts : List String} :
    Woven Piece rest texts → Woven Piece (text ++ rest) (text :: texts)

/-- What the conversion of a tree writes around the texts that it selects. -/
inductive Frame (style : Style) (tree : Tree) : String → Prop where
  | fixed {text : String} : text ∈ templateTexts → Frame style tree text
  | brace {text : String} : text ∈ ["\x7b", "\x7d"] → Frame style tree text
  | marker {text : String} : text ∈ ["\\[\n", "\n\\]\n"] → Frame style tree text
  | command {name : String} : name ∈ commandNames → Frame style tree ("\\" ++ name)
  | roleMacro {role macroName : String} : style.roles.find? role = some macroName →
    Frame style tree ("\\" ++ macroName)
  | preamble : Frame style tree style.fragments.preamble
  | frameworkMacros : Frame style tree style.fragments.frameworkMacros
  | userMacros : Frame style tree style.fragments.userMacros
  | label {node : Tree} {look : String} : tree.Visits node →
    node.fields.nodeClass = .block → node.fields.blockKind = .admonition →
    node.fields.style = some look → Frame style tree (Text.upperCase look)

mutual

/-- The texts of a tree that its conversion selects, in the order of the document. -/
def Tree.selected : Tree → List String
  | ⟨fields, children, entries⟩ =>
    match fields.nodeClass with
    | .leaf => fields.text.toList
    | .unknown => []
    | .document =>
      fields.title.toList ++ fields.author.toList ++ fields.date.toList ++ selectedTexts children
    | .heading => fields.title.toList ++ selectedTexts children
    | .itemList => selectedEntries entries
    | .block =>
      match fields.ownContent? children.isEmpty with
      | some content => [content]
      | none => selectedTexts children
    | .inline =>
      match fields.text with
      | some text => [text]
      | none => selectedTexts children

/-- The selected texts of trees, one tree after the other. -/
def selectedTexts : List Tree → List String
  | [] => []
  | tree :: trees => tree.selected ++ selectedTexts trees

/-- The selected texts of entries, one entry after the other. -/
def selectedEntries : List Entry → List String
  | [] => []
  | entry :: entries => entry.selected ++ selectedEntries entries

/-- The text of an entry, and then the selected texts of its children. -/
def Entry.selected : Entry → List String
  | ⟨text, children⟩ => text :: selectedTexts children

end

/-- The selected texts of several trees are those of each, in order. -/
lemma selectedTexts_eq (trees : List Tree) : selectedTexts trees = trees.flatMap Tree.selected := by
  induction trees with
  | nil => rfl
  | cons tree trees ih => rw [selectedTexts, ih, List.flatMap_cons]

/-- The selected texts of several entries are those of each, in order. -/
lemma selectedEntries_eq (entries : List Entry) :
    selectedEntries entries = entries.flatMap Entry.selected := by
  induction entries with
  | nil => rfl
  | cons entry entries ih => rw [selectedEntries, ih, List.flatMap_cons]

/-- The selected texts of an entry are its own and those of its children. -/
lemma Entry.selected_eq (entry : Entry) :
    entry.selected = entry.text :: selectedTexts entry.children := by
  cases entry
  rfl

namespace Woven

section Pieces

variable {Piece : String → Prop}

/-- Two woven texts one after the other are woven of the texts of both. -/
lemma append {left right : String} {front back : List String} (l : Woven Piece left front)
    (r : Woven Piece right back) : Woven Piece (left ++ right) (front ++ back) := by
  induction l with
  | nil =>
    rw [String.empty_append]
    exact r
  | piece frame _ ih =>
    rw [String.append_assoc]
    exact .piece frame ih
  | text _ ih =>
    rw [String.append_assoc]
    exact .text ih

/-- A piece is woven of no texts. -/
lemma of_piece {text : String} (frame : Piece text) : Woven Piece text [] := by
  have alone := Woven.piece frame .nil
  rw [String.append_empty] at alone
  exact alone

/-- A text is woven of itself. -/
lemma of_text (text : String) : Woven Piece text [text] := by
  have alone : Woven Piece (text ++ "") [text] := .text .nil
  rw [String.append_empty] at alone
  exact alone

/-- A piece of the frame can come behind. -/
lemma behind {text piece : String} {texts : List String} (woven : Woven Piece text texts)
    (frame : Piece piece) : Woven Piece (text ++ piece) texts := by
  have more := woven.append (of_piece frame)
  rw [List.append_nil] at more
  exact more

/-- A text that is given is woven of itself, and one that is not is woven of nothing. -/
lemma getD {text : Option String} (empty : Piece "") : Woven Piece (text.getD "") text.toList := by
  cases text with
  | none => exact of_piece empty
  | some given => exact of_text given

variable {α : Type} {items : List α} {text : α → String} {select : α → List String}

/-- Woven texts one after the other are woven of all their texts. -/
lemma join (woven : ∀ item ∈ items, Woven Piece (text item) (select item)) :
    Woven Piece (String.join (items.map text)) (items.flatMap select) := by
  induction items with
  | nil => exact .nil
  | cons item items ih =>
    obtain ⟨here, later⟩ := List.forall_mem_cons.1 woven
    rw [List.map_cons, String.join_cons, List.flatMap_cons]
    exact here.append (ih later)

/-- Woven texts with a piece between them are woven of all their texts. -/
lemma intercalate {between : String} (sep : Piece between)
    (woven : ∀ item ∈ items, Woven Piece (text item) (select item)) :
    Woven Piece (between.intercalate (items.map text)) (items.flatMap select) := by
  induction items with
  | nil => exact .nil
  | cons item items ih =>
    obtain ⟨here, later⟩ := List.forall_mem_cons.1 woven
    cases items with
    | nil =>
      rw [List.map_singleton, String.intercalate_singleton, List.flatMap_singleton]
      exact here
    | cons next items =>
      rw [List.map_cons, List.map_cons, String.intercalate_cons_cons, List.flatMap_cons]
      exact (here.behind sep).append (ih later)

end Pieces

variable {style : Style} {tree : Tree} {texts front back : List String}

/-- Braces around a woven text are part of the frame. -/
lemma braced {argument : String} (woven : Woven (Frame style tree) argument texts) :
    Woven (Frame style tree) (Latex.braced argument) texts :=
  ((of_piece (.brace (by decide))).append woven).behind (.brace (by decide))

/-- A command around a woven text is part of the frame. -/
lemma command {name argument : String} (named : Frame style tree ("\\" ++ name))
    (woven : Woven (Frame style tree) argument texts) :
    Woven (Frame style tree) (Latex.command name [argument]) texts := by
  rw [Latex.command, List.map_singleton, String.join_cons, String.join_nil, String.append_empty]
  exact (of_piece named).append woven.braced

/-- A command whose first argument belongs to the frame. -/
lemma command_of_frame {name label argument : String} (named : Frame style tree ("\\" ++ name))
    (frame : Frame style tree label) (woven : Woven (Frame style tree) argument texts) :
    Woven (Frame style tree) (Latex.command name [label, argument]) texts := by
  rw [Latex.command, List.map_cons, List.map_singleton, String.join_cons, String.join_cons,
    String.join_nil, String.append_empty]
  exact (of_piece named).append ((of_piece frame).braced.append woven.braced)

/-- An environment around a woven text is part of the frame. -/
lemma environment {name body : String} (mem : name ∈ templateTexts)
    (woven : Woven (Frame style tree) body texts) :
    Woven (Frame style tree) (Latex.environment name body) texts := by
  have begins := command (.command (by decide : "begin" ∈ commandNames))
    (of_piece (Frame.fixed mem : Frame style tree name))
  have ends := command (.command (by decide : "end" ∈ commandNames))
    (of_piece (Frame.fixed mem : Frame style tree name))
  have whole := (begins.append woven).append ends
  rw [List.append_nil] at whole
  exact whole

/-- A text of the templates can come behind. -/
lemma fixed {text given : String} (woven : Woven (Frame style tree) text texts)
    (mem : given ∈ templateTexts) : Woven (Frame style tree) (text ++ given) texts :=
  woven.behind (.fixed mem)

/-- A command that the templates put a field of a document in. -/
lemma entitled {name : String} (mem : name ∈ commandNames) (field : Option String) :
    Woven (Frame style tree) (Latex.command name [field.getD ""]) field.toList :=
  command (.command mem) (getD (.fixed (by decide)))

/-- A document is woven of its title, author and date and the texts of its content, which is not
stripped. -/
lemma document {root : Document} (woven : Woven (Frame style tree) root.content texts)
    (stripped : strip root.content = root.content) :
    Woven (Frame style tree) (root.text style)
      (root.title.toList ++ root.author.toList ++ root.date.toList ++ texts) := by
  have fragments : Woven (Frame style tree) style.fragments.concat [] :=
    ((of_piece .preamble).behind .frameworkMacros).behind .userMacros
  have gap : Woven (Frame style tree) "\n\n" [] := of_piece (.fixed (by decide))
  have titled := (gap.append (entitled (by decide : "title" ∈ commandNames) root.title)).fixed
    (by decide : "\n" ∈ templateTexts)
  have authored := (titled.append
    (entitled (by decide : "author" ∈ commandNames) root.author)).fixed
    (by decide : "\n" ∈ templateTexts)
  have dated := (authored.append (entitled (by decide : "date" ∈ commandNames) root.date)).fixed
    (by decide : "\n\n\n" ∈ templateTexts)
  have header := dated.append gap
  have contents : Woven (Frame style tree)
      (if root.hasContentsTable then "\\tableofcontents\n\n\n" else "") [] := by
    split
    · exact of_piece (.fixed (by decide))
    · exact of_piece (.fixed (by decide))
  have line : Woven (Frame style tree) "\n" [] := of_piece (.fixed (by decide))
  have begun := (line.fixed (by decide : "\\maketitle\n\n\n" ∈ templateTexts)).append contents
  have body := (begun.append woven).append gap
  have enclosed := environment (by decide : "document" ∈ templateTexts) body
  have whole := ((fragments.append header).append enclosed).append gap
  simp only [List.append_nil, List.nil_append] at whole
  rw [Document.text_eq_environment, stripped]
  exact whole

/-- A heading is woven of the texts of its title and of its content. -/
lemma heading {part : Heading} {text : String} (title : Woven (Frame style tree) part.title front)
    (woven : Woven (Frame style tree) part.content back) (ok : part.text? = .ok text) :
    Woven (Frame style tree) text (front ++ back) := by
  unfold Heading.text? at ok
  cases found : sectionCommand? part.level with
  | none =>
    rw [found] at ok
    cases ok
  | some name =>
    rw [found] at ok
    cases ok
    have known : ∀ name ∈ sectionCommands, name ∈ commandNames := by decide
    have mem : name ∈ commandNames := known name (sectionCommand?_mem found)
    have titled := (command (.command mem) title).fixed (by decide : "\n\n" ∈ templateTexts)
    exact (titled.append woven).fixed (by decide)

/-- A list is woven of the texts of its items. -/
lemma itemList {list : ItemList} {text : String}
    (woven : Woven (Frame style tree) (String.join (list.items.map ListItem.written)) texts)
    (ok : list.text? = .ok text) : Woven (Frame style tree) text texts := by
  obtain ⟨name, known, rfl⟩ := ItemList.exists_environment ok
  have listed : ∀ name ∈ ["enumerate", "itemize"], name ∈ templateTexts := by decide
  have mem : name ∈ templateTexts := listed name (ListKind.mem_of_environment? known)
  exact (environment mem ((of_piece (.fixed (by decide))).append woven)).fixed (by decide)

/-- An item is woven of its own text and those of its content. -/
lemma item {entry : ListItem} (woven : Woven (Frame style tree) entry.content texts) :
    Woven (Frame style tree) entry.written (entry.text :: texts) := by
  have mark : Woven (Frame style tree) "\\item " [] := of_piece (.fixed (by decide))
  exact ((mark.append (of_text entry.text)).fixed (by decide)).append woven

/-- A stem is woven of the texts of its content. -/
lemma stemText {content : String} (woven : Woven (Frame style tree) content texts) :
    Woven (Frame style tree) (stemText content) texts := by
  unfold Typeset.stemText
  split
  · exact woven
  · exact ((of_piece (.marker (by decide))).append woven).behind (.marker (by decide))

/-- A block is woven of the texts of its content, if its label is part of the frame. -/
lemma block {body : Block} {text : String} (woven : Woven (Frame style tree) body.content texts)
    (label : body.kind = .admonition → Frame style tree (Text.upperCase (body.style.getD "note")))
    (apart : body.kind ≠ .pageBreak) (ok : body.text? = .ok text) :
    Woven (Frame style tree) text texts := by
  obtain ⟨kind, look, inner, lines⟩ := body
  cases kind with
  | paragraph =>
    cases ok
    exact woven.fixed (by decide)
  | stem =>
    cases ok
    exact woven.stemText
  | admonition =>
    cases ok
    exact (command_of_frame (.command (by decide)) (label rfl) woven).fixed (by decide)
  | pageBreak => exact absurd rfl apart
  | literal =>
    cases ok
    have line : Woven (Frame style tree) "\n" [] := of_piece (.fixed (by decide))
    have lines := (line.append woven).fixed (by decide : "\n" ∈ templateTexts)
    exact (environment (by decide) lines).fixed (by decide)
  | pass =>
    cases ok
    exact woven
  | other name => cases ok

/-- A role around a woven text is part of the frame. -/
lemma applyRole? {role text styled : String} (woven : Woven (Frame style tree) text texts)
    (found : applyRole? style.roles role text = some styled) :
    Woven (Frame style tree) styled texts := by
  unfold Typeset.applyRole? at found
  split at found
  · next macroName configured =>
    cases found
    exact command (.roleMacro configured) woven
  · split at found
    · next colour =>
      cases found
      have known : ∀ role ∈ colourRoles, role ∈ templateTexts := by decide
      have mem : role ∈ templateTexts := known role (List.contains_iff_mem.1 colour)
      exact command_of_frame (.command (by decide)) (.fixed mem) woven
    · cases found

/-- A span is woven of the texts of its own, unless it is an anchor. -/
lemma inline {span : Inline} {text : String} (woven : Woven (Frame style tree) span.text texts)
    (apart : ∀ kind, span.kind ≠ .anchor kind) (ok : span.text? style = .ok text) :
    Woven (Frame style tree) text texts := by
  obtain ⟨kind, words, address, attributes⟩ := span
  cases kind with
  | quoted kind =>
    cases kind with
    | strong =>
      cases ok
      exact command (.command (by decide)) woven
    | emphasis =>
      cases ok
      exact command (.command (by decide)) woven
    | math =>
      cases ok
      exact ((of_piece (.fixed (by decide : "$" ∈ templateTexts))).append woven).fixed (by decide)
    | monospace =>
      cases ok
      exact command (.command (by decide)) woven
    | plain =>
      simp only [Inline.text?, Inline.quotedText?] at ok
      split at ok
      · cases ok
        exact woven
      · split at ok
        · next styled found =>
          cases ok
          exact woven.applyRole? found
        · cases ok
    | other name => cases ok
  | anchor kind => exact absurd rfl (apart kind)
  | lineBreak =>
    cases ok
    exact woven.fixed (by decide)
  | other name => cases ok

/-- A node that raises nothing has a template. -/
lemma render {node : Node} (quiet : (node.render style).diagnostics = [])
    (woven : ∀ text, node.text? style = .ok text → Woven (Frame style tree) text texts) :
    Woven (Frame style tree) (node.render style).output texts := by
  rw [Node.diagnostics_render] at quiet
  unfold Node.render
  cases ok : node.text? style with
  | ok text => exact woven text ok
  | error diagnostic =>
    rw [ok] at quiet
    cases quiet

/-- Siblings read what they select, if each of them does. -/
lemma siblingText {siblings : List Tree}
    (woven : ∀ sibling ∈ siblings,
      Woven (Frame style tree) (sibling.convert style).output sibling.selected) :
    Woven (Frame style tree) (siblingText style siblings) (selectedTexts siblings) := by
  rw [selectedTexts_eq]
  refine intercalate ?_ woven
  unfold separator
  split
  · exact .fixed (by decide)
  · exact .fixed (by decide)

end Woven

/-- The names of nodes that keep their texts, if they have a template. An anchor writes one of two
texts, and a page break none. -/
def keptNames : List String :=
  ["document", "section", "ulist", "olist", "list", "paragraph", "stem", "admonition", "literal",
    "listing", "pass", "text", "inline_quoted", "inline_break"]

namespace Fields

variable {fields : Fields}

/-- The names that keep their texts are known. -/
lemma nodeClass_ne_unknown (mem : fields.name ∈ keptNames) : fields.nodeClass ≠ .unknown := by
  have known : ∀ name ∈ keptNames, NodeClass.ofName name ≠ .unknown := by decide
  exact known _ mem

/-- The names that keep their texts are not those of page breaks. -/
lemma blockKind_ne_pageBreak (mem : fields.name ∈ keptNames) : fields.blockKind ≠ .pageBreak := by
  have kept : ∀ name ∈ keptNames, name ≠ "block" ∧ BlockKind.ofName name ≠ .pageBreak := by decide
  obtain ⟨named, apart⟩ := kept _ mem
  rw [blockKind, if_neg named]
  exact apart

/-- The names that keep their texts are not those of anchors. -/
lemma inlineKind_ne_anchor (mem : fields.name ∈ keptNames) (kind : AnchorKind) :
    fields.inlineKind ≠ .anchor kind := by
  have kept : ∀ name ∈ keptNames, name ≠ "inline_anchor" := by decide
  intro anchor
  simp only [inlineKind, if_neg (kept _ mem)] at anchor
  split_ifs at anchor

end Fields

namespace Tree

variable {style : Style}

/-- A node that raises nothing itself is woven of what it selects. -/
lemma woven_ownRendering {root tree : Tree} (visits : root.Visits tree)
    (named : tree.fields.name ∈ keptNames)
    (quiet : (tree.ownRendering style (siblingText style)).diagnostics = [])
    (children : tree.walksChildren = true →
      Woven (Frame style root) (siblingText style tree.children) (selectedTexts tree.children) ∧
        strip (siblingText style tree.children) = siblingText style tree.children)
    (entries : tree.walksEntries = true → ∀ entry ∈ tree.entries,
      Woven (Frame style root) (siblingText style entry.children) (selectedTexts entry.children)) :
    Woven (Frame style root) (tree.ownRendering style (siblingText style)).output
      tree.selected := by
  obtain ⟨fields, below, listed⟩ := tree
  unfold ownRendering at quiet ⊢
  unfold selected
  cases kind : fields.nodeClass with
  | leaf => exact .getD (.fixed (by decide))
  | unknown => exact absurd kind (Fields.nodeClass_ne_unknown named)
  | document =>
    simp only [kind] at quiet ⊢
    obtain ⟨woven, stripped⟩ := children (walksChildren_of_document kind)
    refine .render quiet fun text ok => ?_
    cases ok
    exact .document woven stripped
  | heading =>
    simp only [kind] at quiet ⊢
    obtain ⟨woven, -⟩ := children (walksChildren_of_heading kind)
    exact .render quiet fun text ok => .heading (.getD (.fixed (by decide))) woven ok
  | itemList =>
    simp only [kind] at quiet ⊢
    refine .render quiet fun text ok => .itemList ?_ ok
    rw [selectedEntries_eq, List.map_map]
    refine .join fun entry mem => ?_
    rw [Entry.selected_eq]
    exact .item (entries (walksEntries_of_itemList kind) entry mem)
  | block =>
    simp only [kind] at quiet ⊢
    refine .render quiet fun text ok => .block ?_ ?_ (Fields.blockKind_ne_pageBreak named) ok
    · cases brought : fields.ownContent? below.isEmpty with
      | some content => exact .of_text content
      | none => exact (children (walksChildren_of_block_of_none kind brought)).1
    · intro admonition
      cases look : fields.style with
      | some label => exact .label visits kind admonition look
      | none => exact upperCase_note ▸ .fixed (by decide : "NOTE" ∈ templateTexts)
  | inline =>
    simp only [kind] at quiet ⊢
    refine .render quiet fun text ok => .inline ?_ (Fields.inlineKind_ne_anchor named) ok
    cases brought : fields.text with
    | some text => exact .of_text text
    | none => exact (children (walksChildren_of_inline_of_none kind brought)).1

/-- What visited nodes raise, the tree raises. -/
lemma quiet_of_visits {tree node : Tree} (visits : tree.Visits node)
    (quiet : (tree.convert style).diagnostics = []) : (node.convert style).diagnostics = [] := by
  induction visits with
  | self => exact quiet
  | child mem _ ih =>
    rw [diagnostics_convert, List.append_eq_nil_iff, List.flatMap_eq_nil_iff] at quiet
    exact ih (quiet.1 _ mem)

/-- A conversion that raises nothing loses no text. If the visited nodes go by names that keep their
texts, and no text brings in a marker, it is woven of the selected texts. -/
theorem woven_convert {style : Style} {tree : Tree}
    (named : ∀ node, tree.Visits node → node.fields.name ∈ keptNames)
    (texts : ∀ node, tree.Visits node → ∀ text ∈ node.ownTexts style, IsClean text)
    (preamble : IsClean style.fragments.preamble)
    (frameworkMacros : IsClean style.fragments.frameworkMacros)
    (userMacros : IsClean style.fragments.userMacros)
    (macros : ∀ role macroName, style.roles.find? role = some macroName → IsCleanName macroName)
    (quiet : (tree.convert style).diagnostics = []) :
    Woven (Frame style tree) (tree.convert style).output tree.selected := by
  have obeys : style.Obeys (fun text => Settled text.toList) IsCleanName :=
    ⟨preamble.settled, frameworkMacros.settled, userMacros.settled, macros⟩
  have below : ∀ node, tree.Visits node →
      Woven (Frame style tree) (node.convert style).output node.selected := by
    intro node visits
    induction node using visitInduction with
    | step node ih =>
      have woven : ∀ child ∈ node.visitedChildren,
          Woven (Frame style tree) (child.convert style).output child.selected :=
        fun child mem => ih child mem (visits.trans (.child mem .self))
      have own := quiet_of_visits visits quiet
      rw [diagnostics_convert, List.append_eq_nil_iff] at own
      rw [convert_eq]
      refine woven_ownRendering visits (named node visits) own.2 (fun walks => ?_) ?_
      · have stripped := strip_siblingText_of_visits obeys texts visits walks
        refine ⟨.siblingText fun child mem => ?_, stripped⟩
        exact woven child (mem_visitedChildren_of_mem_children walks mem)
      · refine fun walks entry listed => .siblingText fun child mem => ?_
        exact woven child (mem_visitedChildren_of_mem_entries walks listed mem)
  exact below tree .self

end Tree

/-- A document with a span, a list with a stem in it, and an admonition. -/
theorem woven_convert_of_list_and_admonition :
    let words : Tree := ⟨{ Fields.blank with name := "text", text := "a" }, [], []⟩
    let span : Tree :=
      ⟨{ Fields.blank with name := "inline_quoted", kind := "strong", text := "b" }, [], []⟩
    let paragraph : Tree := ⟨{ Fields.blank with name := "paragraph" }, [words, span], []⟩
    let stem : Tree := ⟨{ Fields.blank with name := "stem", source := "x" }, [], []⟩
    let list : Tree := ⟨{ Fields.blank with name := "ulist" }, [], [⟨"c", [stem]⟩, ⟨"d", []⟩]⟩
    let tip : Tree :=
      ⟨{ Fields.blank with name := "admonition", style := "tip", text := "e" }, [], []⟩
    let tree : Tree :=
      ⟨{ Fields.blank with name := "document", title := "T" }, [paragraph, list, tip], []⟩
    let style : Style := ⟨.empty, ⟨"\\usepackage\x7bamsmath\x7d\n", "", ""⟩⟩
    Woven (Frame style tree) (tree.convert style).output ["T", "a", "b", "c", "x", "d", "e"] := by
  intro words span paragraph stem list tip tree style
  have inParagraph : ∀ node, paragraph.Visits node → node.fields.name ∈ keptNames ∧
      ∀ text ∈ node.ownTexts style, IsClean text :=
    Tree.forall_visits (by decide) (List.forall_mem_cons.2
      ⟨Tree.forall_visits_of_isEmpty (by decide) (by decide), List.forall_mem_singleton.2
        (Tree.forall_visits_of_isEmpty (by decide) (by decide))⟩)
  have inList : ∀ node, list.Visits node → node.fields.name ∈ keptNames ∧
      ∀ text ∈ node.ownTexts style, IsClean text :=
    Tree.forall_visits (by decide) (List.forall_mem_singleton.2
      (Tree.forall_visits_of_isEmpty (by decide) (by decide)))
  have kept : ∀ node, tree.Visits node → node.fields.name ∈ keptNames ∧
      ∀ text ∈ node.ownTexts style, IsClean text :=
    Tree.forall_visits (by decide) (List.forall_mem_cons.2
      ⟨inParagraph, List.forall_mem_cons.2 ⟨inList, List.forall_mem_singleton.2
        (Tree.forall_visits_of_isEmpty (by decide) (by decide))⟩⟩)
  have selected : tree.selected = ["T", "a", "b", "c", "x", "d", "e"] := by decide +kernel
  rw [← selected]
  exact Tree.woven_convert (fun node visits => (kept node visits).1)
    (fun node visits => (kept node visits).2) (by decide) (by decide) (by decide) nofun
    (by decide +kernel)

end Typeset
