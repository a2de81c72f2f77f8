import Mathlib.Data.List.Basic
import Mathlib.Tactic.SplitIfs
import Typeset.Proofs.Tree.Visit

/-!
# Conversions compose

A node's conversion is its own template filled with the conversions of the children that it visits,
and raises what they raise followed by at most one diagnostic of its own. Whatever is not visited has
no influence: `visitedPart` cuts it away, together with the lines that no diagnostic quotes, and two
trees with the same visited part convert to the same text and raise the same diagnostics.
-/

namespace Typeset

/-- A node runs together with its siblings if it is a text or a span. -/
def Fields.IsInline (fields : Fields) : Prop :=
  fields.name = "text" ∨ "inline_".toList <+: fields.name.toList

instance (fields : Fields) : Decidable fields.IsInline :=
  inferInstanceAs (Decidable (_ ∨ _))

/-- No name that has a class of its own starts like that of a span. -/
lemma NodeClass.ofName_eq_inline_iff {name : String} :
    ofName name = .inline ↔ isInlineName name = true := by
  refine ⟨fun same => ?_, fun starts => ?_⟩
  · unfold ofName at same
    split_ifs at same
    assumption
  -- All other names are compared in full, and none of them starts like that of a span.
  · have named : ∀ other ∈ ["text", "document", "section", "ulist", "olist", "list"] ++ blockNames,
        name ≠ other := by
      intro other mem same
      have none : ∀ other ∈ ["text", "document", "section", "ulist", "olist", "list"] ++ blockNames,
          isInlineName other = false := by decide
      exact Bool.false_ne_true ((none other mem).symm.trans (same ▸ starts))
    have block : name ∉ blockNames := fun mem => named name (List.mem_append_right _ mem) rfl
    simp [ofName, named, block, starts]

/-- The leaves are the texts. -/
lemma NodeClass.ofName_eq_leaf_iff {name : String} : ofName name = .leaf ↔ name = "text" := by
  refine ⟨fun same => ?_, fun same => same ▸ rfl⟩
  unfold ofName at same
  split_ifs at same
  assumption

/-- The nodes that run on in a line are texts and spans. -/
lemma Fields.runsOn_iff {fields : Fields} : fields.runsOn = true ↔ fields.IsInline := by
  rw [runsOn, Bool.or_eq_true, beq_iff_eq, beq_iff_eq, nodeClass, NodeClass.ofName_eq_leaf_iff,
    NodeClass.ofName_eq_inline_iff, isInlineName, List.isPrefixOf_iff_prefix, IsInline]

namespace Fields

/-- The lines that a diagnostic quotes: the first one of a block of an unknown kind. -/
def quotedLines (fields : Fields) : List String :=
  match fields.blockKind with
  | .other _ => fields.lines.take 1
  | _ => []

/-- The fields that a conversion reads. -/
def visitedPart (fields : Fields) : Fields :=
  match fields.nodeClass with
  | .leaf => { blank with name := fields.name, text := fields.text }
  | .unknown => { blank with name := fields.name }
  | .document =>
    { blank with
      name := fields.name
      title := fields.title
      author := fields.author
      date := fields.date
      attributes := fields.attributes }
  | .heading => { blank with name := fields.name, level := fields.level, title := fields.title }
  | .itemList => { blank with name := fields.name, kind := fields.kind }
  | .block =>
    { blank with
      name := fields.name
      kind := fields.kind
      text := fields.text
      style := fields.style
      source := fields.source
      lines := fields.quotedLines }
  | .inline =>
    { blank with
      name := fields.name
      kind := fields.kind
      text := fields.text
      target := fields.target
      attributes := fields.attributes }

/-- What is visited of a node has its name. -/
@[simp]
lemma name_visitedPart (fields : Fields) : fields.visitedPart.name = fields.name := by
  unfold visitedPart
  cases fields.nodeClass <;> rfl

/-- What is visited of a node is of its class. -/
@[simp]
lemma nodeClass_visitedPart (fields : Fields) :
    fields.visitedPart.nodeClass = fields.nodeClass := by
  rw [nodeClass, name_visitedPart, nodeClass]

end Fields

mutual

/-- The part of a tree that a conversion reads. -/
def Tree.visitedPart : Tree → Tree
  | ⟨fields, children, entries⟩ =>
    ⟨fields.visitedPart,
      if Tree.walksChildren ⟨fields, children, entries⟩ then visitedParts children else [],
      if Tree.walksEntries ⟨fields, children, entries⟩ then visitedEntries entries else []⟩

/-- The parts of trees that a conversion reads. -/
def visitedParts : List Tree → List Tree
  | [] => []
  | tree :: trees => tree.visitedPart :: visitedParts trees

/-- The entries with the parts of their children that a conversion reads. -/
def visitedEntries : List Entry → List Entry
  | [] => []
  | entry :: entries => entry.visitedPart :: visitedEntries entries

/-- An entry with the parts of its children that a conversion reads. -/
def Entry.visitedPart : Entry → Entry
  | ⟨text, children⟩ => ⟨text, visitedParts children⟩

end

/-- Of several trees, the visited part of each is visited. -/
lemma visitedParts_eq (trees : List Tree) : visitedParts trees = trees.map Tree.visitedPart := by
  induction trees with
  | nil => rfl
  | cons tree trees ih => rw [visitedParts, ih, List.map_cons]

/-- Of several entries, the visited part of each is visited. -/
lemma visitedEntries_eq (entries : List Entry) :
    visitedEntries entries = entries.map Entry.visitedPart := by
  induction entries with
  | nil => rfl
  | cons entry entries ih => rw [visitedEntries, ih, List.map_cons]

/-- What is visited of an entry has its text. -/
lemma Entry.text_visitedPart (entry : Entry) : entry.visitedPart.text = entry.text := by
  cases entry
  rfl

/-- What is visited of an entry has the visited parts of its children. -/
lemma Entry.children_visitedPart (entry : Entry) :
    entry.visitedPart.children = visitedParts entry.children := by
  cases entry
  rfl

/-- A block is rendered the same, and raises the same, if only the lines that are quoted are left. -/
lemma render_block_quotedLines {style : Style} {kind : BlockKind} {look : Option String}
    {content : String} {lines quoted : List String}
    (first : ∀ name, kind = .other name → quoted.head? = lines.head?) :
    ((Node.block ⟨kind, look, content, quoted⟩).render style).output =
        ((Node.block ⟨kind, look, content, lines⟩).render style).output ∧
      ((Node.block ⟨kind, look, content, quoted⟩).render style).diagnostics =
        ((Node.block ⟨kind, look, content, lines⟩).render style).diagnostics := by
  cases kind with
  | other name =>
    simp only [Node.render, Node.text?, Block.text?, first name rfl]
    exact ⟨trivial, rfl⟩
  | _ => exact ⟨rfl, rfl⟩

/-- A block is rendered as what is visited of it. -/
lemma Fields.render_visitedPart_block {style : Style} {fields : Fields} (content : String)
    (kind : fields.nodeClass = .block) :
    ((fields.visitedPart.block content).render style).output =
        ((fields.block content).render style).output ∧
      ((fields.visitedPart.block content).render style).diagnostics =
        ((fields.block content).render style).diagnostics := by
  have same : fields.visitedPart.block content =
      .block ⟨fields.blockKind, fields.style, content, fields.quotedLines⟩ := by
    simp only [visitedPart, kind]
    rfl
  rw [same, block]
  refine render_block_quotedLines fun name other => ?_
  rw [quotedLines, other]
  exact List.head?_take.trans (if_neg Nat.one_ne_zero)

namespace Tree

/-- The fields of what is visited of a tree are what is visited of its fields. -/
lemma fields_visitedPart (tree : Tree) : tree.visitedPart.fields = tree.fields.visitedPart := by
  cases tree
  rfl

/-- The children of a tree are visited where they are walked. -/
lemma children_visitedPart (tree : Tree) :
    tree.visitedPart.children = if tree.walksChildren then visitedParts tree.children else [] := by
  cases tree
  rfl

/-- The entries of a tree are visited where they are walked. -/
lemma entries_visitedPart (tree : Tree) :
    tree.visitedPart.entries = if tree.walksEntries then visitedEntries tree.entries else [] := by
  cases tree
  rfl

/-- A block brings its own content as before: its children are only cut away if it has some. -/
lemma ownContent?_visitedPart {tree : Tree} (kind : tree.fields.nodeClass = .block) :
    tree.visitedPart.fields.ownContent? tree.visitedPart.children.isEmpty =
      tree.fields.ownContent? tree.children.isEmpty := by
  have source : tree.visitedPart.fields.source = tree.fields.source := by
    simp only [fields_visitedPart, Fields.visitedPart, kind]
  have text : tree.visitedPart.fields.text = tree.fields.text := by
    simp only [fields_visitedPart, Fields.visitedPart, kind]
  rw [children_visitedPart, walksChildren_of_block kind]
  unfold Fields.ownContent?
  rw [source, text]
  cases tree.fields.source with
  | some raw => rfl
  | none =>
    cases tree.children with
    | nil => cases tree.fields.text <;> rfl
    | cons child children => rfl

/-- Whether children are walked shows in what is visited. -/
lemma walksChildren_visitedPart (tree : Tree) :
    tree.visitedPart.walksChildren = tree.walksChildren := by
  have same : tree.visitedPart.fields.nodeClass = tree.fields.nodeClass := by
    rw [fields_visitedPart, Fields.nodeClass_visitedPart]
  cases kind : tree.fields.nodeClass with
  | block =>
    rw [walksChildren_of_block (same.trans kind), walksChildren_of_block kind,
      ownContent?_visitedPart kind]
  | inline =>
    have text : tree.visitedPart.fields.text = tree.fields.text := by
      simp only [fields_visitedPart, Fields.visitedPart, kind]
    rw [walksChildren_of_inline (same.trans kind), walksChildren_of_inline kind, text]
  | _ => simp only [walksChildren, same, kind]

/-- Whether entries are walked shows in what is visited. -/
lemma walksEntries_visitedPart (tree : Tree) :
    tree.visitedPart.walksEntries = tree.walksEntries := by
  rw [walksEntries, fields_visitedPart, Fields.nodeClass_visitedPart, walksEntries]

/-- The visited children of what is visited are the visited parts of the visited children. -/
lemma visitedChildren_visitedPart (tree : Tree) :
    tree.visitedPart.visitedChildren = tree.visitedChildren.map visitedPart := by
  have nested : (visitedEntries tree.entries).flatMap Entry.children =
      (tree.entries.flatMap Entry.children).map visitedPart := by
    rw [visitedEntries_eq, List.flatMap_map, List.map_flatMap]
    refine List.flatMap_congr fun entry _ => ?_
    rw [Entry.children_visitedPart, visitedParts_eq]
  rw [visitedChildren, visitedChildren, walksChildren_visitedPart, walksEntries_visitedPart,
    children_visitedPart, entries_visitedPart, List.map_append]
  congr 1
  · cases tree.walksChildren with
    | true => exact visitedParts_eq tree.children
    | false => rfl
  · cases tree.walksEntries with
    | true => exact nested
    | false => rfl

end Tree

/-- Trees that read the same as siblings, and raise the same. -/
def Alike (style : Style) (tree other : Tree) : Prop :=
  other.fields.nodeClass = tree.fields.nodeClass ∧
    (other.convert style).output = (tree.convert style).output ∧
    (other.convert style).diagnostics = (tree.convert style).diagnostics

/-- Siblings have the text of their visited parts if each is like its own. -/
lemma siblingText_visitedParts {style : Style} {trees : List Tree}
    (alike : ∀ tree ∈ trees, Alike style tree tree.visitedPart) :
    siblingText style (visitedParts trees) = siblingText style trees := by
  have runs : (visitedParts trees).all (·.fields.runsOn) = trees.all (·.fields.runsOn) := by
    rw [visitedParts_eq, List.all_map]
    rw [Bool.eq_iff_iff, List.all_eq_true, List.all_eq_true]
    refine forall₂_congr fun tree mem => ?_
    obtain ⟨same, -, -⟩ := alike tree mem
    simp only [Function.comp, Fields.runsOn, same]
  have texts : (visitedParts trees).map (fun tree => (tree.convert style).output) =
      trees.map fun tree => (tree.convert style).output := by
    rw [visitedParts_eq, List.map_map]
    exact List.map_congr_left fun tree mem => (alike tree mem).2.1
  rw [siblingText, siblingText, joinSiblings, joinSiblings, separator, separator, runs, texts]

/-- The diagnostics of occurrences are those of the front and those of the back. -/
lemma diagnosticsOf_append (first second : List Occurrence) :
    diagnosticsOf (first ++ second) = diagnosticsOf first ++ diagnosticsOf second :=
  List.filterMap_append

/-- The diagnostics of siblings are those of each conversion, in order. -/
lemma diagnosticsOf_siblingJournal (style : Style) (siblings : List Tree) :
    diagnosticsOf (siblingJournal style siblings) =
      siblings.flatMap fun tree => (tree.convert style).diagnostics := by
  rw [diagnosticsOf, siblingJournal, List.filterMap_flatMap]
  rfl

namespace Tree

variable {style : Style}

/-- The diagnostics of a tree are those of its visited children and then its own. -/
lemma diagnostics_convert (tree : Tree) :
    (tree.convert style).diagnostics =
      (tree.visitedChildren.flatMap fun child => (child.convert style).diagnostics) ++
        (tree.ownRendering style (siblingText style)).diagnostics := by
  rw [Rendering.diagnostics, convert_eq, diagnosticsOf_append, diagnosticsOf_siblingJournal]
  rfl

section Alike

variable {tree : Tree} (alike : ∀ child ∈ tree.visitedChildren, Alike style child child.visitedPart)

include alike

/-- Where children are walked, their text is that of their visited parts. -/
lemma siblingText_children_visitedPart (walks : tree.walksChildren = true) :
    siblingText style tree.visitedPart.children = siblingText style tree.children := by
  rw [children_visitedPart, if_pos walks]
  apply siblingText_visitedParts
  intro child mem
  exact alike child (mem_visitedChildren_of_mem_children walks mem)

/-- Where entries are walked, their items are those of their visited parts. -/
lemma items_visitedPart (walks : tree.walksEntries = true) :
    (tree.visitedPart.entries.map fun entry =>
        ListItem.mk entry.text (siblingText style entry.children)) =
      tree.entries.map fun entry => ListItem.mk entry.text (siblingText style entry.children) := by
  rw [entries_visitedPart, if_pos walks, visitedEntries_eq, List.map_map]
  apply List.map_congr_left
  intro entry listed
  have nested : siblingText style (visitedParts entry.children) =
      siblingText style entry.children := by
    apply siblingText_visitedParts
    intro child mem
    exact alike child (mem_visitedChildren_of_mem_entries walks listed mem)
  rw [Function.comp, Entry.text_visitedPart, Entry.children_visitedPart, nested]

/-- A node renders to the same, and raises the same, if nothing but its visited part is left. -/
lemma ownRendering_visitedPart :
    (tree.visitedPart.ownRendering style (siblingText style)).output =
        (tree.ownRendering style (siblingText style)).output ∧
      (tree.visitedPart.ownRendering style (siblingText style)).diagnostics =
        (tree.ownRendering style (siblingText style)).diagnostics := by
  unfold ownRendering
  rw [fields_visitedPart, Fields.nodeClass_visitedPart]
  cases kind : tree.fields.nodeClass with
  | leaf => simp only [Fields.visitedPart, kind, and_self]
  | unknown => simp only [Fields.name_visitedPart, and_self]
  | document =>
    have same (content : String) : tree.fields.visitedPart.document content =
        tree.fields.document content := by
      simp only [Fields.visitedPart, kind, Fields.document]
    have content := siblingText_children_visitedPart alike (walksChildren_of_document kind)
    simp only [same, content, and_self]
  | heading =>
    have same (content : String) : tree.fields.visitedPart.heading content =
        tree.fields.heading content := by
      simp only [Fields.visitedPart, kind, Fields.heading]
    have content := siblingText_children_visitedPart alike (walksChildren_of_heading kind)
    simp only [same, content, and_self]
  | itemList =>
    have same (items : List ListItem) : tree.fields.visitedPart.itemList items =
        tree.fields.itemList items := by
      simp only [Fields.visitedPart, kind, Fields.itemList, Fields.listKind]
    simp only [same, items_visitedPart alike (walksEntries_of_itemList kind), and_self]
  | block =>
    have own := ownContent?_visitedPart kind
    rw [fields_visitedPart] at own
    simp only [own]
    cases brought : tree.fields.ownContent? tree.children.isEmpty with
    | some content => exact Fields.render_visitedPart_block content kind
    | none =>
      have walks := walksChildren_of_block_of_none kind brought
      rw [Option.getD_none, Option.getD_none, siblingText_children_visitedPart alike walks]
      exact Fields.render_visitedPart_block _ kind
  | inline =>
    have same (text : String) : tree.fields.visitedPart.inline text = tree.fields.inline text := by
      simp only [Fields.visitedPart, kind, Fields.inline, Fields.inlineKind]
    have text : tree.fields.visitedPart.text = tree.fields.text := by
      simp only [Fields.visitedPart, kind]
    simp only [same, text]
    cases brought : tree.fields.text with
    | some own => exact ⟨rfl, rfl⟩
    | none =>
      have walks := walksChildren_of_inline_of_none kind brought
      simp only [Option.getD_none, siblingText_children_visitedPart alike walks, and_self]

end Alike

/-- Cutting away what is not visited changes neither the text of a tree nor what it raises. -/
lemma alike_visitedPart (tree : Tree) : Alike style tree tree.visitedPart := by
  induction tree using Tree.visitInduction with
  | step tree visited =>
    obtain ⟨output, diagnostics⟩ := ownRendering_visitedPart visited
    have raised : (tree.visitedPart.visitedChildren.flatMap
          fun child => (child.convert style).diagnostics) =
        tree.visitedChildren.flatMap fun child => (child.convert style).diagnostics := by
      rw [visitedChildren_visitedPart, List.flatMap_map]
      exact List.flatMap_congr fun child mem => (visited child mem).2.2
    refine ⟨tree.fields.nodeClass_visitedPart ▸ by rw [fields_visitedPart], ?_, ?_⟩
    · rw [convert_eq, convert_eq, output]
    · rw [diagnostics_convert, diagnostics_convert, raised, diagnostics]

end Tree

/-- A node raises the one diagnostic that answers it if it has no template, else none. -/
lemma Node.diagnostics_render (style : Style) (node : Node) :
    (node.render style).diagnostics =
      match node.text? style with
      | .ok _ => []
      | .error diagnostic => [diagnostic] := by
  have silent : diagnosticsOf node.occurrences = [] := by
    refine List.filterMap_eq_nil_iff.2 fun occurrence mem => ?_
    cases node with
    | document root =>
      obtain ⟨region, -, rfl⟩ := List.mem_map.1 mem
      rfl
    | itemList list =>
      obtain ⟨item, -, rfl⟩ := List.mem_map.1 mem
      rfl
    | heading part => cases mem
    | block body => cases mem
    | inline span => cases mem
  unfold render
  cases node.text? style with
  | error diagnostic => rfl
  | ok text => exact silent

/-- A node raises at most one diagnostic of its own. -/
lemma Node.length_diagnostics_render (style : Style) (node : Node) :
    (node.render style).diagnostics.length ≤ 1 := by
  rw [diagnostics_render]
  cases node.text? style with
  | error diagnostic => exact Nat.le_refl 1
  | ok text => exact Nat.zero_le 1

/-- A tree has at most one diagnostic of its own. -/
lemma Tree.length_diagnostics_ownRendering (style : Style) (content : List Tree → String)
    (tree : Tree) : (tree.ownRendering style content).diagnostics.length ≤ 1 := by
  unfold ownRendering
  cases tree.fields.nodeClass with
  | leaf => exact Nat.zero_le 1
  | unknown => exact Nat.le_refl 1
  | _ => exact Node.length_diagnostics_render style _

/-- Siblings stand on lines of their own unless all of them run on. -/
lemma separator_eq (siblings : List Tree) :
    separator siblings = if ∀ sibling ∈ siblings, sibling.fields.IsInline then "" else "\n" := by
  rw [separator]
  refine if_congr ?_ rfl rfl
  rw [List.all_eq_true]
  exact forall₂_congr fun sibling _ => Fields.runsOn_iff

/-- A conversion is the node's own template, filled with what the visited children convert to
separately. It raises what these raise, in order, and at most one diagnostic after them. What is not
visited has no part in it. -/
theorem Tree.convert_composes (style : Style) (tree : Tree) :
    let content := fun siblings : List Tree =>
      (if ∀ sibling ∈ siblings, sibling.fields.IsInline then "" else "\n").intercalate
        (siblings.map fun sibling => (sibling.convert style).output)
    let own := tree.ownRendering style content
    (tree.convert style).output = own.output ∧
      (tree.convert style).diagnostics =
        (tree.visitedChildren.flatMap fun child => (child.convert style).diagnostics) ++
          own.diagnostics ∧
      own.diagnostics.length ≤ 1 ∧
      ∀ other : Tree, other.visitedPart = tree.visitedPart →
        (other.convert style).output = (tree.convert style).output ∧
          (other.convert style).diagnostics = (tree.convert style).diagnostics := by
  intro content own
  have reads : siblingText style = content := by
    funext siblings
    rw [siblingText, joinSiblings, separator_eq]
  have rendered : own = tree.ownRendering style (siblingText style) := by rw [reads]
  refine ⟨?_, ?_, length_diagnostics_ownRendering style content tree, fun other same => ?_⟩
  · rw [rendered, convert_eq]
  · rw [rendered, diagnostics_convert]
  -- Both trees are alike to the visited part that they share.
  · obtain ⟨-, output, diagnostics⟩ := (alike_visitedPart tree : Alike style tree _)
    obtain ⟨-, output', diagnostics'⟩ := (alike_visitedPart other : Alike style other _)
    rw [same] at output' diagnostics'
    exact ⟨output'.symm.trans output, diagnostics'.symm.trans diagnostics⟩

/-- A span that brings its text converts the same with children as without. -/
theorem convert_span_of_text :
    let fields := { Fields.blank with name := "inline_quoted", kind := "strong", text := "a" }
    let child : Tree := ⟨{ Fields.blank with name := "text", text := "b" }, [], []⟩
    let style : Style := ⟨.empty, .default⟩
    ((⟨fields, [child], []⟩ : Tree).convert style).output =
        ((⟨fields, [], []⟩ : Tree).convert style).output ∧
      ((⟨fields, [child], []⟩ : Tree).convert style).diagnostics =
        ((⟨fields, [], []⟩ : Tree).convert style).diagnostics := by
  intro fields child style
  obtain ⟨-, -, -, same⟩ := Tree.convert_composes style ⟨fields, [], []⟩
  refine same ⟨fields, [child], []⟩ ?_
  have span : fields.nodeClass = .inline := by decide
  have unread (children : List Tree) : Tree.walksChildren ⟨fields, children, []⟩ = false := by
    rw [Tree.walksChildren, span]
    rfl
  have unlisted (children : List Tree) : Tree.walksEntries ⟨fields, children, []⟩ = false := by
    rw [Tree.walksEntries, span]
    rfl
  simp only [Tree.visitedPart, unread, unlisted, Bool.false_eq_true, ↓reduceIte]

end Typeset
