import Typeset.Proofs.Json.Exchanges
import Typeset.Proofs.Tree.Levels

/-!
# Nodes that may be exchanged

A node stands in a tree with a value of its own in the value of the tree. The tree with another node
in its place is read from the value with that of the other node in its place, and what the other
value is refused for, the whole is refused for. Each step down is one into a member of a node or an
entry and one into a list.
-/

namespace Typeset

open Json (Cause Exchanges Follows IsJson Placed Reader Refuses Value)

/-- A node stands in a tree: it is the tree, or stands below a child of a node or of an entry. The
value of the node is left open in that of the tree. -/
inductive Encloses : (Value → Value) → (Tree → Tree) → Prop where
  | self : Encloses id id
  | child {outer fill : Value → Value} {place : Tree → Tree} {front back : List Value} {parent : Tree}
      {before after : List Tree} :
    NodeField.schema.Asks .children outer → front.length = before.length → Encloses fill place →
    Encloses (fun value => outer (.list (front ++ fill value :: back)))
      fun node => { parent with children := before ++ place node :: after }
  | entryChild {outer inner fill : Value → Value} {place : Tree → Tree}
      {front back front' back' : List Value} {parent : Tree} {entry : Entry}
      {before after : List Entry} {before' after' : List Tree} :
    NodeField.schema.Asks .entries outer → front.length = before.length →
    EntryField.schema.Asks .children inner → front'.length = before'.length → Encloses fill place →
    Encloses
      (fun value => outer (.list (front ++ inner (.list (front' ++ fill value :: back')) :: back)))
      fun node => { parent with
        entries := before ++ { entry with children := before' ++ place node :: after' } :: after }

section Places

variable {depth : Nat} {value : Value} {fill : Value → Value} {place : Tree → Tree} {node : Tree}

/-- What a member of a node holds may be exchanged, if a reader of its own reads it. -/
lemma IsNode.exchanges {field : NodeField} {reader : Reader field.Part}
    (isNode : IsNode (depth + 1) (fill value) node) (asks : NodeField.schema.Asks field fill)
    (reads : ∀ node, (nodeForm depth (readNodes depth) (readEntries depth)).read field node =
      reader.map fun part => field.put part node) :
    field.Means depth (IsNodes depth) (IsEntries depth) value (field.get node) ∧
      Exchanges (IsNode (depth + 1)) (readNode (depth + 1))
        (field.Means depth (IsNodes depth) (IsEntries depth)) reader fill
        fun part => field.put part node := by
  unfold IsNode at isNode ⊢
  unfold readNode
  have follows : Follows (nodeForm depth (readNodes depth) (readEntries depth)) NodeField.schema _ :=
    follows_nodeForm (reads_readNodes depth) (reads_readEntries depth)
  exact follows.exchanges nodeRecord asks isNode reads

/-- One of several nodes may be exchanged. -/
lemma IsNodes.exchanges {front back : List Value} {before after : List Tree}
    (isNodes : IsNodes depth (.list (front ++ value :: back)) (before ++ node :: after))
    (same : front.length = before.length) :
    ∃ depth', IsNode depth' value node ∧
      Exchanges (IsNodes depth) (readNodes depth) (IsNode depth') (readNode depth')
        (fun value => .list (front ++ value :: back)) fun node => before ++ node :: after := by
  obtain _ | depth := depth
  · unfold IsNodes at isNodes
    exact isNodes.elim
  · unfold IsNodes at isNodes ⊢
    unfold readNodes
    exact ⟨depth, Json.exchanges_elements (reads_readNode depth) same isNodes⟩

/-- The children of an entry may be exchanged. -/
lemma IsEntry.exchanges {entry : Entry} (isEntry : IsEntry depth (fill value) entry)
    (asks : EntryField.schema.Asks .children fill) :
    ∃ depth', IsNodes depth' value entry.children ∧
      Exchanges (IsEntry depth) (readEntry depth) (IsNodes depth') (readNodes depth') fill
        fun children => { entry with children } := by
  obtain ⟨depth, rfl, -⟩ := isEntry.exists_list
  unfold IsEntry at isEntry ⊢
  unfold readEntry
  have follows := follows_entryForm (reads_readNodes depth)
  exact ⟨depth, follows.exchanges entryRecord asks isEntry fun _ => rfl⟩

/-- One of several entries may be exchanged. -/
lemma IsEntries.exchanges {front back : List Value} {before after : List Entry} {entry : Entry}
    (isEntries : IsEntries depth (.list (front ++ value :: back)) (before ++ entry :: after))
    (same : front.length = before.length) :
    ∃ depth', IsEntry depth' value entry ∧
      Exchanges (IsEntries depth) (readEntries depth) (IsEntry depth') (readEntry depth')
        (fun value => .list (front ++ value :: back)) fun entry => before ++ entry :: after := by
  obtain _ | depth := depth
  · unfold IsEntries at isEntries
    exact isEntries.elim
  · unfold IsEntries at isEntries ⊢
    unfold readEntries
    exact ⟨depth, Json.exchanges_elements (reads_readEntry depth) same isEntries⟩

/-- A node that stands in a tree may be exchanged. -/
theorem Encloses.exchanges (encloses : Encloses fill place)
    (isNode : IsNode depth (fill value) (place node)) :
    ∃ depth', IsNode depth' value node ∧
      Exchanges (IsNode depth) (readNode depth) (IsNode depth') (readNode depth') fill place := by
  induction encloses generalizing depth with
  | self => exact ⟨depth, isNode, .refl⟩
  | child asks same _ ih =>
    obtain ⟨depth, rfl, -⟩ := isNode.exists_lists
    obtain ⟨list, exchanges⟩ := isNode.exchanges asks fun _ => rfl
    obtain ⟨_, inside, exchanges'⟩ := IsNodes.exchanges list same
    obtain ⟨_, here, exchanges''⟩ := ih inside
    exact ⟨_, here, exchanges.comp (exchanges'.comp exchanges'')⟩
  | entryChild asks same asks' same' _ ih =>
    obtain ⟨depth, rfl, -⟩ := isNode.exists_lists
    obtain ⟨list, outer⟩ := isNode.exchanges asks fun _ => rfl
    obtain ⟨_, isEntry, outer'⟩ := IsEntries.exchanges list same
    obtain ⟨_, list', inner⟩ := isEntry.exchanges asks'
    obtain ⟨_, inside, inner'⟩ := IsNodes.exchanges list' same'
    obtain ⟨_, here, exchanges⟩ := ih inside
    exact ⟨_, here, outer.comp (outer'.comp (inner.comp (inner'.comp exchanges)))⟩

/-- What a node is refused for, a text that is the node is refused for. -/
lemma Tree.parse_of_refuses {text : String} (json : IsJson text.toList value)
    (refuses : Refuses Placed (readNode depthLimit) value cause) :
    Tree.parse text = .error cause := by
  obtain ⟨front, written, back, cut, blanks, blanks', form⟩ := json
  have refused := refuses (front ++ written) back ⟨front, written, rfl, blanks, form⟩ blanks'.ends
  rw [List.append_assoc, ← cut] at refused
  exact Json.readAll_of_error refused

end Places

end Typeset
