import Mathlib.Tactic.Lemma
import Typeset.Tree.Convert

/-!
# What a conversion visits

The children that a conversion walks into, and what a node adds to what its children give. One
session goes through the whole tree, but no step depends on the session before it: by `independent`,
walking a tree gives what a session of its own gives and appends to the journal. This is a case of
`Walker.Maps.walk`: a map of states that goes along with every step goes along with the walk. With it,
`convert_eq` makes a conversion of the conversions of the visited children and of the node's own
rendering.
-/

namespace Typeset

/-- A property of trees holds if it passes from what a tree contains to the tree. -/
theorem Tree.induction {motive : Tree → Prop}
    (step : ∀ tree : Tree, (∀ child ∈ tree.children, motive child) →
      (∀ entry ∈ tree.entries, ∀ child ∈ entry.children, motive child) → motive tree)
    (tree : Tree) : motive tree := by
  refine @Tree.rec motive (fun entry => ∀ child ∈ entry.children, motive child)
    (fun trees => ∀ tree ∈ trees, motive tree)
    (fun entries => ∀ entry ∈ entries, ∀ child ∈ entry.children, motive child)
    ?_ ?_ ?_ ?_ ?_ ?_ tree
  · exact fun fields children entries ihC ihE => step ⟨fields, children, entries⟩ ihC ihE
  · exact fun text children ih => ih
  · exact fun tree mem => absurd mem List.not_mem_nil
  · exact fun tree trees here later => List.forall_mem_cons.2 ⟨here, later⟩
  · exact fun entry mem => absurd mem List.not_mem_nil
  · exact fun entry entries here later => List.forall_mem_cons.2 ⟨here, later⟩

namespace Tree

/-- Whether a conversion walks into the children of a node: those of a document or section always,
those of a block only if it has no source and no text that stands for them, those of a span only if
it has no text. -/
def walksChildren (tree : Tree) : Bool :=
  match tree.fields.nodeClass with
  | .document => true
  | .heading => true
  | .block =>
    tree.fields.source.isNone && (tree.fields.text.isNone || !tree.children.isEmpty)
  | .inline => tree.fields.text.isNone
  | .leaf => false
  | .itemList => false
  | .unknown => false

/-- Whether a conversion walks into the entries of a node: only those of a list. -/
def walksEntries (tree : Tree) : Bool :=
  tree.fields.nodeClass == .itemList

/-- The trees that a conversion walks into from a node, in the order of the document. -/
def visitedChildren (tree : Tree) : List Tree :=
  (if tree.walksChildren then tree.children else []) ++
    if tree.walksEntries then tree.entries.flatMap Entry.children else []

/-- A visited child is a child of the tree or of one of its entries. -/
lemma mem_visitedChildren {tree child : Tree} (mem : child ∈ tree.visitedChildren) :
    child ∈ tree.children ∨ ∃ entry ∈ tree.entries, child ∈ entry.children := by
  obtain within | within := List.mem_append.1 mem
  · split at within
    · exact .inl within
    · cases within
  · split at within
    · exact .inr (List.mem_flatMap.1 within)
    · cases within

/-- Where the children are walked, each child is visited. -/
lemma mem_visitedChildren_of_mem_children {tree child : Tree} (walks : tree.walksChildren = true)
    (mem : child ∈ tree.children) : child ∈ tree.visitedChildren := by
  rw [visitedChildren, if_pos walks]
  exact List.mem_append_left _ mem

/-- Where the entries are walked, each child of an entry is visited. -/
lemma mem_visitedChildren_of_mem_entries {tree child : Tree} {entry : Entry}
    (walks : tree.walksEntries = true) (listed : entry ∈ tree.entries)
    (mem : child ∈ entry.children) : child ∈ tree.visitedChildren := by
  rw [visitedChildren, if_pos walks]
  exact List.mem_append_right _ (List.mem_flatMap_of_mem listed mem)

/-- A property of trees holds if it passes from the visited children of a tree to the tree. -/
theorem visitInduction {motive : Tree → Prop}
    (step : ∀ tree : Tree, (∀ child ∈ tree.visitedChildren, motive child) → motive tree)
    (tree : Tree) : motive tree := by
  induction tree using Tree.induction with
  | step tree children entries =>
    refine step tree fun child mem => ?_
    obtain within | ⟨entry, listed, inside⟩ := mem_visitedChildren mem
    · exact children child within
    · exact entries entry listed child inside

/-- A conversion of a tree visits the tree and what it visits from there. -/
inductive Visits : Tree → Tree → Prop where
  | self {tree : Tree} : Visits tree tree
  | child {tree child node : Tree} :
    child ∈ tree.visitedChildren → Visits child node → Visits tree node

/-- What is visited below a visited node is visited. -/
lemma Visits.trans {tree node inner : Tree} (outer : tree.Visits node) (below : node.Visits inner) :
    tree.Visits inner := by
  induction outer with
  | self => exact below
  | child mem _ ih => exact .child mem (ih below)

/-- What holds of a tree and of all that is visited below its children holds of all that is visited.
-/
lemma forall_visits {p : Tree → Prop} {tree : Tree} (here : p tree)
    (below : ∀ child ∈ tree.visitedChildren, ∀ node, child.Visits node → p node) :
    ∀ node, tree.Visits node → p node := by
  intro node visits
  cases visits with
  | self => exact here
  | child mem later => exact below _ mem node later

/-- A tree without visited children visits itself only. -/
lemma forall_visits_of_isEmpty {p : Tree → Prop} {tree : Tree} (here : p tree)
    (bare : tree.visitedChildren.isEmpty = true) : ∀ node, tree.Visits node → p node := by
  refine forall_visits here fun child mem => ?_
  rw [List.isEmpty_iff.1 bare] at mem
  cases mem

/-- A block whose children are not walked brings its own content. -/
lemma ownContent?_isNone (tree : Tree) :
    (tree.fields.ownContent? tree.children.isEmpty).isNone =
      (tree.fields.source.isNone && (tree.fields.text.isNone || !tree.children.isEmpty)) := by
  unfold Fields.ownContent?
  cases tree.fields.source with
  | some source => rfl
  | none => cases tree.children.isEmpty <;> cases tree.fields.text <;> rfl

section Walks

variable {tree : Tree}

/-- The children of a document are walked. -/
lemma walksChildren_of_document (kind : tree.fields.nodeClass = .document) :
    tree.walksChildren = true := by
  rw [walksChildren, kind]

/-- The children of a heading are walked. -/
lemma walksChildren_of_heading (kind : tree.fields.nodeClass = .heading) :
    tree.walksChildren = true := by
  rw [walksChildren, kind]

/-- The entries of a list are walked. -/
lemma walksEntries_of_itemList (kind : tree.fields.nodeClass = .itemList) :
    tree.walksEntries = true := by
  rw [walksEntries, kind, beq_self_eq_true]

/-- The children of a block are walked if it has no content of its own. -/
lemma walksChildren_of_block (kind : tree.fields.nodeClass = .block) :
    tree.walksChildren = (tree.fields.ownContent? tree.children.isEmpty).isNone := by
  rw [ownContent?_isNone, walksChildren, kind]

/-- The children of a span are walked if it has no text. -/
lemma walksChildren_of_inline (kind : tree.fields.nodeClass = .inline) :
    tree.walksChildren = tree.fields.text.isNone := by
  rw [walksChildren, kind]

/-- A block without content of its own has its children walked. -/
lemma walksChildren_of_block_of_none (kind : tree.fields.nodeClass = .block)
    (bare : tree.fields.ownContent? tree.children.isEmpty = none) : tree.walksChildren = true := by
  rw [walksChildren_of_block kind, bare, Option.isNone_none]

/-- A span without a text of its own has its children walked. -/
lemma walksChildren_of_inline_of_none (kind : tree.fields.nodeClass = .inline)
    (bare : tree.fields.text = none) : tree.walksChildren = true := by
  rw [walksChildren_of_inline kind, bare, Option.isNone_none]

/-- Of a node whose children are walked nothing else is visited. -/
lemma visitedChildren_of_walksChildren (walks : tree.walksChildren = true) :
    tree.visitedChildren = tree.children := by
  have unlisted : tree.walksEntries = false := by
    rw [walksEntries, beq_eq_false_iff_ne]
    intro kind
    rw [walksChildren, kind] at walks
    cases walks
  rw [visitedChildren, if_pos walks, unlisted, if_neg Bool.false_ne_true, List.append_nil]

/-- Of a list only what its entries contain is visited. -/
lemma visitedChildren_of_walksEntries (walks : tree.walksEntries = true) :
    tree.visitedChildren = tree.entries.flatMap Entry.children := by
  have unwalked : tree.walksChildren = false := by
    rw [walksChildren, beq_iff_eq.1 walks]
  rw [visitedChildren, if_pos walks, unwalked, if_neg Bool.false_ne_true, List.nil_append]

end Walks

/-- What a node renders to by itself, once it is known what each list of siblings in it reads. -/
def ownRendering (style : Style) (content : List Tree → String) (tree : Tree) : Rendering :=
  match tree.fields.nodeClass with
  | .leaf => ⟨tree.fields.text.getD "", []⟩
  | .unknown => ⟨"", [.raised (.unrecognizedVariant tree.fields.name)]⟩
  | .document => (tree.fields.document (content tree.children)).render style
  | .heading => (tree.fields.heading (content tree.children)).render style
  | .itemList =>
    let items := tree.entries.map fun entry => ListItem.mk entry.text (content entry.children)
    (tree.fields.itemList items).render style
  | .block =>
    let own := tree.fields.ownContent? tree.children.isEmpty
    (tree.fields.block (own.getD (content tree.children))).render style
  | .inline => (tree.fields.inline (tree.fields.text.getD (content tree.children))).render style

end Tree

/-- What siblings read when each is converted in a session of its own. -/
def siblingText (style : Style) (siblings : List Tree) : String :=
  joinSiblings siblings (siblings.map fun tree => (tree.convert style).output)

/-- The journals of siblings, each converted in a session of its own. -/
def siblingJournal (style : Style) (siblings : List Tree) : List Occurrence :=
  siblings.flatMap fun tree => (tree.convert style).journal

namespace Walker

variable {σ τ : Type} {walker : Walker σ} {walker' : Walker τ} {f : σ → τ}

/-- A map of states goes along with the steps of two walkers: the second one writes what the first
one writes, and its states are those that the map makes of the first one's. -/
structure Maps (walker : Walker σ) (walker' : Walker τ) (f : σ → τ) : Prop where
  render (state : σ) (node : Node) :
    walker'.render (f state) node = ((walker.render state node).1, f (walker.render state node).2)
  reportUnknown (state : σ) (name : String) :
    walker'.reportUnknown (f state) name = f (walker.reportUnknown state name)

namespace Maps

mutual

/-- A map that goes along with every step goes along with the walk through a tree. -/
theorem walk (maps : Maps walker walker' f) (state : σ) : ∀ tree : Tree,
    walker'.walk (f state) tree = ((walker.walk state tree).1, f (walker.walk state tree).2)
  | ⟨fields, children, entries⟩ => by
    have walked := walkAll maps state children
    have listed := walkEntries maps state entries
    unfold Walker.walk
    cases fields.nodeClass with
    | leaf => rfl
    | unknown => simp only [maps.reportUnknown]
    | document => simp only [walked, maps.render]
    | heading => simp only [walked, maps.render]
    | itemList => simp only [listed, maps.render]
    | block =>
      cases fields.ownContent? children.isEmpty with
      | some content => simp only [maps.render]
      | none => simp only [walked, maps.render]
    | inline =>
      cases fields.text with
      | some text => simp only [maps.render]
      | none => simp only [walked, maps.render]

/-- It goes along with the walk through trees one after the other. -/
theorem walkAll (maps : Maps walker walker' f) (state : σ) : ∀ trees : List Tree,
    walker'.walkAll (f state) trees =
      ((walker.walkAll state trees).1, f (walker.walkAll state trees).2)
  | [] => rfl
  | tree :: trees => by
    have here := walk maps state tree
    have later := walkAll maps (walker.walk state tree).2 trees
    simp only [Walker.walkAll, here, later]

/-- It goes along with the walk through entries one after the other. -/
theorem walkEntries (maps : Maps walker walker' f) (state : σ) : ∀ entries : List Entry,
    walker'.walkEntries (f state) entries =
      ((walker.walkEntries state entries).1, f (walker.walkEntries state entries).2)
  | [] => rfl
  | entry :: entries => by
    have here := walkEntry maps state entry
    have later := walkEntries maps (walker.walkEntry state entry).2 entries
    simp only [Walker.walkEntries, here, later]

/-- It goes along with the walk through the children of an entry. -/
theorem walkEntry (maps : Maps walker walker' f) (state : σ) : ∀ entry : Entry,
    walker'.walkEntry (f state) entry =
      ((walker.walkEntry state entry).1, f (walker.walkEntry state entry).2)
  | ⟨text, children⟩ => by
    have walked := walkAll maps state children
    simp only [Walker.walkEntry, walked]

end

end Maps

/-- What every step of a walker keeps, a walk keeps: the walker can be had with states that carry it. -/
theorem keeps {p : σ → Prop} (render : ∀ state node, p state → p (walker.render state node).2)
    (reportUnknown : ∀ state name, p state → p (walker.reportUnknown state name)) {state : σ}
    (holds : p state) (tree : Tree) : p (walker.walk state tree).2 := by
  let inside : Walker { state // p state } :=
    { render := fun state node => ((walker.render state.1 node).1, ⟨_, render _ node state.2⟩)
      reportUnknown := fun state name => ⟨_, reportUnknown _ name state.2⟩ }
  have maps : Maps inside walker Subtype.val := ⟨fun _ _ => rfl, fun _ _ => rfl⟩
  have walked := maps.walk ⟨state, holds⟩ tree
  rw [walked]
  exact (inside.walk ⟨state, holds⟩ tree).2.2

end Walker

namespace Session

/-- A session with more of a journal. -/
def extend (session : Session) (journal : List Occurrence) : Session :=
  { session with journal := session.journal ++ journal }

/-- Noting occurrences leaves the style. -/
@[simp]
lemma style_extend (session : Session) (journal : List Occurrence) :
    (session.extend journal).style = session.style :=
  rfl

/-- Occurrences that are noted one after the other are noted together. -/
lemma extend_extend (session : Session) (first second : List Occurrence) :
    (session.extend first).extend second = session.extend (first ++ second) := by
  simp only [extend, List.append_assoc]

/-- Noting nothing leaves a session as it is. -/
lemma extend_nil (session : Session) : session.extend [] = session := by
  simp only [extend, List.append_nil]

/-- A session renders a node in its style, and notes what occurs. -/
lemma render_eq (session : Session) (node : Node) :
    session.render node =
      ((node.render session.style).output, session.extend (node.render session.style).journal) :=
  rfl

/-- A walk does not change the style. -/
lemma style_walk (session : Session) (tree : Tree) :
    (walker.walk session tree).2.style = session.style :=
  walker.keeps (p := fun state => state.style = session.style) (fun _ _ kept => kept)
    (fun _ _ kept => kept) rfl tree

/-- Putting a journal in front goes along with every step, which only ever appends. -/
lemma maps_behind (journal : List Occurrence) :
    walker.Maps walker fun session => ⟨session.style, journal ++ session.journal⟩ where
  render session node := by
    refine congrArg (Prod.mk _) (congrArg (Session.mk session.style) ?_)
    exact List.append_assoc journal session.journal _
  reportUnknown session name := by
    refine congrArg (Session.mk session.style) ?_
    exact List.append_assoc journal session.journal _

/-- No step of a walk depends on the session before it: walking a tree gives its own conversion's text
and appends the journal of that conversion. -/
lemma independent (session : Session) (tree : Tree) :
    walker.walk session tree =
      ((tree.convert session.style).output,
        session.extend (tree.convert session.style).journal) := by
  have walked := (maps_behind session.journal).walk (start session.style) tree
  rw [style_walk, start, List.append_nil] at walked
  exact walked

/-- Trees walked one after the other give what their own conversions give. -/
lemma walkAll_eq (session : Session) (trees : List Tree) :
    walker.walkAll session trees =
      (trees.map fun tree => (tree.convert session.style).output,
        session.extend (siblingJournal session.style trees)) := by
  induction trees generalizing session with
  | nil => rw [Walker.walkAll, siblingJournal, List.flatMap_nil, extend_nil, List.map_nil]
  | cons tree trees ih =>
    simp only [Walker.walkAll, independent, ih, style_extend, extend_extend, siblingJournal,
      List.map_cons, List.flatMap_cons]

/-- Entries walked one after the other give what the conversions of their children give. -/
lemma walkEntries_eq (session : Session) (entries : List Entry) :
    walker.walkEntries session entries =
      (entries.map fun entry => ⟨entry.text, siblingText session.style entry.children⟩,
        session.extend (siblingJournal session.style (entries.flatMap Entry.children))) := by
  induction entries generalizing session with
  | nil =>
    rw [Walker.walkEntries, List.flatMap_nil, siblingJournal, List.flatMap_nil, extend_nil,
      List.map_nil]
  | cons entry entries ih =>
    obtain ⟨text, children⟩ := entry
    simp only [Walker.walkEntries, Walker.walkEntry, walkAll_eq, ih, style_extend, extend_extend,
      siblingJournal, siblingText, List.map_cons, List.flatMap_cons, List.flatMap_append]

/-- One step of a walk: the visited children are walked, and the node is rendered behind them. -/
lemma walk_eq (session : Session) (tree : Tree) :
    walker.walk session tree =
      ((tree.ownRendering session.style (siblingText session.style)).output,
        session.extend (siblingJournal session.style tree.visitedChildren ++
          (tree.ownRendering session.style (siblingText session.style)).journal)) := by
  obtain ⟨fields, trees, items⟩ := tree
  have texts := walkAll_eq session trees
  have listed := walkEntries_eq session items
  have own := Tree.ownContent?_isNone ⟨fields, trees, items⟩
  -- Only a list has its entries walked: elsewhere nothing comes behind the children.
  have others (kind : NodeClass) (ne : (kind == .itemList) = false) :
      trees ++ (if (kind == .itemList) = true then items.flatMap Entry.children else []) = trees := by
    rw [ne, if_neg Bool.false_ne_true, List.append_nil]
  have renders (session : Session) (node : Node) : walker.render session node =
      ((node.render session.style).output, session.extend (node.render session.style).journal) :=
    render_eq session node
  unfold Walker.walk Tree.ownRendering Tree.visitedChildren Tree.walksChildren Tree.walksEntries
  cases fields.nodeClass with
  | leaf => exact congrArg (Prod.mk _) (extend_nil session).symm
  | unknown => rfl
  | document =>
    simp only [texts, renders, style_extend, extend_extend, ↓reduceIte, others .document rfl]
    rfl
  | heading =>
    simp only [texts, renders, style_extend, extend_extend, ↓reduceIte, others .heading rfl]
    rfl
  | itemList =>
    simp only [listed, renders, style_extend, extend_extend]
    rfl
  | block =>
    simp only [← own]
    cases fields.ownContent? trees.isEmpty with
    | some content => rfl
    | none =>
      simp only [texts, renders, style_extend, extend_extend, Option.isNone_none, ↓reduceIte,
        others .block rfl]
      rfl
  | inline =>
    cases fields.text with
    | some text => rfl
    | none =>
      simp only [texts, renders, style_extend, extend_extend, Option.isNone_none, ↓reduceIte,
        others .inline rfl]
      rfl

end Session

/-- A conversion is made of those of the visited children and of the node's own rendering. -/
lemma Tree.convert_eq (style : Style) (tree : Tree) :
    tree.convert style =
      ⟨(tree.ownRendering style (siblingText style)).output,
        siblingJournal style tree.visitedChildren ++
          (tree.ownRendering style (siblingText style)).journal⟩ := by
  rw [Tree.convert, Session.walk_eq]
  rfl

/-- A node notes down that it is itself rendered, and no other. -/
lemma Node.eq_of_visited_mem_render {style : Style} {node other : Node}
    (mem : .visited other ∈ (node.render style).journal) : other = node := by
  have silent : Occurrence.visited other ∉ node.occurrences := by
    intro within
    cases node with
    | document root =>
      obtain ⟨region, -, eq⟩ := List.mem_map.1 within
      cases eq
    | itemList list =>
      obtain ⟨item, -, eq⟩ := List.mem_map.1 within
      cases eq
    | _ => cases within
  unfold render at mem
  split at mem
  · obtain eq | within := List.mem_cons.1 mem
    · exact Occurrence.visited.inj eq
    · exact absurd within silent
  · obtain eq | within := List.mem_cons.1 mem
    · exact Occurrence.visited.inj eq
    · cases List.mem_singleton.1 within

/-- What a conversion notes down, one of the visited nodes does. -/
lemma Tree.exists_visits_of_mem_journal {style : Style} {tree : Tree} {occurrence : Occurrence}
    (mem : occurrence ∈ (tree.convert style).journal) :
    ∃ node, tree.Visits node ∧
      occurrence ∈ (node.ownRendering style (siblingText style)).journal := by
  induction tree using Tree.visitInduction with
  | step tree ih =>
    rw [convert_eq] at mem
    obtain below | own := List.mem_append.1 mem
    · obtain ⟨child, visited, within⟩ := List.mem_flatMap.1 below
      obtain ⟨node, visits, noted⟩ := ih child visited within
      exact ⟨node, .child visited visits, noted⟩
    · exact ⟨tree, .self, own⟩

/-- The body of a document that is rendered is what the children of a visited node read. -/
lemma Tree.exists_visits_of_document_mem {style : Style} {tree : Tree} {root : Document}
    (mem : .visited (.document root) ∈ (tree.convert style).journal) :
    ∃ node, tree.Visits node ∧ node.walksChildren = true ∧
      root.content = siblingText style node.children := by
  obtain ⟨node, visits, noted⟩ := exists_visits_of_mem_journal mem
  refine ⟨node, visits, ?_⟩
  unfold ownRendering at noted
  cases kind : node.fields.nodeClass with
  | document =>
    rw [kind] at noted
    cases Node.eq_of_visited_mem_render noted
    exact ⟨walksChildren_of_document kind, rfl⟩
  | leaf =>
    rw [kind] at noted
    cases noted
  | unknown =>
    rw [kind] at noted
    cases List.mem_singleton.1 noted
  | _ =>
    rw [kind] at noted
    cases Node.eq_of_visited_mem_render noted

end Typeset
