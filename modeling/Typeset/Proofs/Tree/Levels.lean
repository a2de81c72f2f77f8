import Typeset.Proofs.Json.Limits
import Typeset.Proofs.Tree.Truncation
import Typeset.Proofs.Tree.Visit

/-!
# The levels of parsed trees

How deep a tree is that has been parsed. A level costs two of the brackets that may be opened where
the node is a child, and four where it stands in an entry, so a bound on the brackets is one on the
levels. Towers of nodes show that it is exact: they are read if enough brackets may be opened, and
refused for nothing but their nesting otherwise, since a lower limit changes nothing else.
-/

namespace Typeset

open Json

/-- A node stands on a level of a tree: the tree itself on the first one, and on the next one the
children of a node and those of its entries. -/
inductive Tree.HasAt : Tree → Nat → Tree → Prop where
  | root {tree : Tree} : HasAt tree 1 tree
  | child {tree child node : Tree} {level : Nat} :
    child ∈ tree.children → HasAt child level node → HasAt tree (level + 1) node
  | entryChild {tree child node : Tree} {entry : Entry} {level : Nat} :
    entry ∈ tree.entries → child ∈ entry.children → HasAt child level node →
    HasAt tree (level + 1) node

section Bounds

variable {α : Type} {depth level : Nat} {value : Value} {tree child node : Tree} {entry : Entry}

/-- What is in a list that a value means is meant by a value. -/
lemma exists_of_mem_isList {means : Value → α → Prop} {x : α} {xs : List α}
    (isList : IsList means value xs) (mem : x ∈ xs) : ∃ value, means value x := by
  obtain ⟨values, -, meant⟩ := isList
  induction meant with
  | nil => cases mem
  | cons here _ ih =>
    obtain rfl | mem := List.mem_cons.1 mem
    · exact ⟨_, here⟩
    · exact ih mem

/-- A list of nodes takes one bracket more than each of them. -/
lemma IsNodes.exists_isNode {trees : List Tree} (nodes : IsNodes depth value trees)
    (mem : child ∈ trees) : ∃ depth' value', depth = depth' + 1 ∧ IsNode depth' value' child := by
  cases depth with
  | zero =>
    unfold IsNodes at nodes
    exact nodes.elim
  | succ depth' =>
    unfold IsNodes at nodes
    obtain ⟨value', meant⟩ := exists_of_mem_isList nodes mem
    exact ⟨depth', value', rfl, meant⟩

/-- A list of entries takes one bracket more than each of them. -/
lemma IsEntries.exists_isEntry {entries : List Entry} (isEntries : IsEntries depth value entries)
    (mem : entry ∈ entries) :
    ∃ depth' value', depth = depth' + 1 ∧ IsEntry depth' value' entry := by
  cases depth with
  | zero =>
    unfold IsEntries at isEntries
    exact isEntries.elim
  | succ depth' =>
    unfold IsEntries at isEntries
    obtain ⟨value', meant⟩ := exists_of_mem_isList isEntries mem
    exact ⟨depth', value', rfl, meant⟩

/-- A node takes one bracket more than the lists of its children and of its entries. -/
lemma IsNode.exists_lists (isNode : IsNode depth value tree) :
    ∃ depth', depth = depth' + 1 ∧
      (tree.children ≠ [] → ∃ list, IsNodes depth' list tree.children) ∧
        (tree.entries ≠ [] → ∃ list, IsEntries depth' list tree.entries) := by
  cases depth with
  | zero =>
    unfold IsNode at isNode
    exact isNode.elim
  | succ depth' =>
    unfold IsNode at isNode
    exact ⟨depth', rfl, (isNode.held .children).resolve_right, (isNode.held .entries).resolve_right⟩

/-- An entry takes one bracket more than the list of its children. -/
lemma IsEntry.exists_list (isEntry : IsEntry depth value entry) :
    ∃ depth', depth = depth' + 1 ∧
      (entry.children ≠ [] → ∃ list, IsNodes depth' list entry.children) := by
  cases depth with
  | zero =>
    unfold IsEntry at isEntry
    exact isEntry.elim
  | succ depth' =>
    unfold IsEntry at isEntry
    exact ⟨depth', rfl, (isEntry.held .children).resolve_right⟩

/-- A node takes two brackets more than each child of it. -/
lemma IsNode.exists_child (isNode : IsNode depth value tree) (mem : child ∈ tree.children) :
    ∃ depth' value', depth = depth' + 2 ∧ IsNode depth' value' child := by
  obtain ⟨_, rfl, lists, -⟩ := isNode.exists_lists
  obtain ⟨list, nodes⟩ := lists (List.ne_nil_of_mem mem)
  obtain ⟨depth', value', rfl, meant⟩ := nodes.exists_isNode mem
  exact ⟨depth', value', rfl, meant⟩

/-- A node takes four brackets more than each child of an entry of it. -/
lemma IsNode.exists_entryChild (isNode : IsNode depth value tree) (listed : entry ∈ tree.entries)
    (mem : child ∈ entry.children) :
    ∃ depth' value', depth = depth' + 4 ∧ IsNode depth' value' child := by
  obtain ⟨_, rfl, -, lists⟩ := isNode.exists_lists
  obtain ⟨list, entries⟩ := lists (List.ne_nil_of_mem listed)
  obtain ⟨_, _, rfl, isEntry⟩ := entries.exists_isEntry listed
  obtain ⟨_, rfl, lists'⟩ := isEntry.exists_list
  obtain ⟨list', nodes⟩ := lists' (List.ne_nil_of_mem mem)
  obtain ⟨depth', value', rfl, meant⟩ := nodes.exists_isNode mem
  exact ⟨depth', value', rfl, meant⟩

/-- Each level takes two brackets at least, but for the last one, which takes one. -/
lemma IsNode.two_mul_level_le (isNode : IsNode depth value tree) (stands : tree.HasAt level node) :
    2 * level ≤ depth + 1 := by
  induction stands generalizing depth value with
  | root =>
    obtain ⟨depth', rfl, -⟩ := isNode.exists_lists
    omega
  | child mem _ ih =>
    obtain ⟨depth', value', rfl, meant⟩ := isNode.exists_child mem
    have within := ih meant
    omega
  | entryChild listed mem _ ih =>
    obtain ⟨depth', value', rfl, meant⟩ := isNode.exists_entryChild listed mem
    have within := ih meant
    omega

/-- A walk down a tree comes one level deeper with each node that it visits. -/
lemma Tree.exists_hasAt_of_isChain {path : List Tree}
    (chain : (tree :: path).IsChain fun node child => child ∈ node.visitedChildren) :
    ∃ node, tree.HasAt (tree :: path).length node := by
  induction path generalizing tree with
  | nil => exact ⟨tree, .root⟩
  | cons child path ih =>
    obtain ⟨visited, chain⟩ := List.isChain_cons_cons.1 chain
    obtain ⟨node, stands⟩ := ih chain
    obtain mem | ⟨entry, listed, mem⟩ := Tree.mem_visitedChildren visited
    · exact ⟨node, .child mem stands⟩
    · exact ⟨node, .entryChild listed mem stands⟩

end Bounds

section Limits

variable {depth depth' : Nat}

/-- What is nested is read alike with one level more, short of what is refused for its nesting. -/
lemma limits_nested {α : Type} {inside : Nat → Reader α}
    (same : ∀ depth, inside depth = inside (depth + 1)) (depth : Nat) :
    Limits (nested inside depth) (nested inside (depth + 1)) := by
  cases depth with
  | zero => exact .refuse
  | succ depth =>
    change Limits (inside depth) (inside (depth + 1))
    rw [same depth]
    exact .refl

/-- Lines are read alike with one level more. -/
lemma limits_readLines (depth : Nat) : Limits (readLines depth) (readLines (depth + 1)) :=
  (limits_nested (fun _ => rfl) depth).sequence

/-- Attributes are read alike with one level more. -/
lemma limits_readDictionary (depth : Nat) :
    Limits (readDictionary depth) (readDictionary (depth + 1)) :=
  (limits_nested (fun _ => rfl) depth).object

/-- The fields of a node are read alike with one level more if the nodes and entries inside are. -/
lemma limits_nodeForm {childrenReader childrenReader' : Reader (List Tree)}
    {entriesReader entriesReader' : Reader (List Entry)}
    (children : Limits childrenReader childrenReader')
    (entries : Limits entriesReader entriesReader') :
    FormLimits (nodeForm depth childrenReader entriesReader)
      (nodeForm (depth + 1) childrenReader' entriesReader') where
  order := rfl
  key := rfl
  read field tree := by
    cases field with
    | attributes => exact (limits_readDictionary depth).map _
    | lines => exact (limits_readLines depth).map _
    | children => exact children.map _
    | entries => exact entries.map _
    | _ => exact .refl

/-- The fields of an entry are read alike if the nodes inside are. -/
lemma limits_entryForm {childrenReader childrenReader' : Reader (List Tree)}
    (children : Limits childrenReader childrenReader') :
    FormLimits (entryForm childrenReader) (entryForm childrenReader') where
  order := rfl
  key := rfl
  read field entry := by
    cases field with
    | text => exact .refl
    | children => exact children.map _

mutual

/-- A node is read alike with one level more. -/
theorem limits_readNode : ∀ depth, Limits (readNode depth) (readNode (depth + 1))
  | 0 => by
    unfold readNode
    exact Limits.record .refuse .refuse
  | depth + 1 => by
    unfold readNode
    exact (limits_nodeForm (limits_readNodes depth) (limits_readEntries depth)).record _ _

/-- Nodes are read alike with one level more. -/
theorem limits_readNodes : ∀ depth, Limits (readNodes depth) (readNodes (depth + 1))
  | 0 => by
    unfold readNodes
    exact Limits.refuse.sequence
  | depth + 1 => by
    unfold readNodes
    exact (limits_readNode depth).elements.sequence

/-- An entry is read alike with one level more. -/
theorem limits_readEntry : ∀ depth, Limits (readEntry depth) (readEntry (depth + 1))
  | 0 => by
    unfold readEntry
    exact Limits.record .refuse .refuse
  | depth + 1 => by
    unfold readEntry
    exact (limits_entryForm (limits_readNodes depth)).record _ _

/-- Entries are read alike with one level more. -/
theorem limits_readEntries : ∀ depth, Limits (readEntries depth) (readEntries (depth + 1))
  | 0 => by
    unfold readEntries
    exact Limits.refuse.sequence
  | depth + 1 => by
    unfold readEntries
    exact (limits_readEntry depth).elements.sequence

end

/-- A lower limit changes nothing but what is refused for its nesting. -/
theorem limits_readNode_of_le (le : depth ≤ depth') :
    Limits (readNode depth) (readNode depth') := by
  induction le with
  | refl => exact .refl
  | step _ ih => exact ih.trans (limits_readNode _)

variable {text : String} {value : Value} {tree : Tree}

/-- A text that is a node is read with as many brackets as the node takes. -/
lemma exists_run_readNode (json : IsJson text.toList value) (isNode : IsNode depth value tree) :
    ∃ back, (readNode depth).run text.toList = .ok (tree, back) ∧ AllBlank back := by
  obtain ⟨front, written, back, cut, blanks, blanks', form⟩ := json
  refine ⟨back, ?_, blanks'⟩
  rw [cut, ← List.append_assoc]
  exact readNode_complete ⟨front, written, rfl, blanks, form⟩ isNode back

/-- A node that nests no deeper than the limit is parsed. -/
lemma Tree.parse_of_isNode_of_le (json : IsJson text.toList value)
    (isNode : IsNode depth value tree) (le : depth ≤ depthLimit) : Tree.parse text = .ok tree := by
  obtain ⟨back, ran, blanks⟩ := exists_run_readNode json isNode
  obtain refused | same := limits_readNode_of_le le text.toList
  · cases refused.symm.trans ran
  · exact readAll_eq_ok_iff.2 ⟨back, same.symm.trans ran, blanks⟩

/-- What is a node with any number of brackets is parsed, or refused for its nesting. -/
lemma Tree.parse_of_isNode (json : IsJson text.toList value) (isNode : IsNode depth value tree) :
    Tree.parse text = .ok tree ∨ Tree.parse text = .error .recursionLimit := by
  obtain le | le := Nat.le_total depth depthLimit
  · exact .inl (Tree.parse_of_isNode_of_le json isNode le)
  · obtain ⟨back, ran, blanks⟩ := exists_run_readNode json isNode
    obtain refused | same := limits_readNode_of_le le text.toList
    · exact .inr (readAll_of_error refused)
    · exact .inl (readAll_eq_ok_iff.2 ⟨back, same.trans ran, blanks⟩)

/-- No node of a parsed tree stands below the level 64. -/
lemma Tree.level_le_of_parse {level : Nat} {node : Tree} (parsed : Tree.parse text = .ok tree)
    (stands : tree.HasAt level node) : level ≤ 64 := by
  obtain ⟨rest, ran, -⟩ := readAll_eq_ok_iff.1 parsed
  obtain ⟨value, _, -, -, isNode⟩ := (reads_readNode depthLimit).sound ran
  have within := isNode.two_mul_level_le stands
  unfold depthLimit at within
  omega

end Limits

section Towers

variable {n : Nat} {value inner : Value} {tree child : Tree}

/-- A value is a node in which no list or object is read, but for its children. What is skipped in it
may be of any depth. -/
def IsBareNode (isChildren : Value → List Tree → Prop) : Value → Tree → Prop :=
  NodeField.schema.IsRecord (NodeField.Means 0 isChildren fun _ _ => False) .blank

/-- A value is a tower of as many nodes, each the only child of the one before, in which no other
list or object is read. -/
inductive IsTower : Nat → Value → Tree → Prop where
  | last {value : Value} {tree : Tree} :
    IsBareNode (fun _ _ => False) value tree → IsTower 1 value tree
  | above {n : Nat} {value inner : Value} {tree child : Tree} :
    IsTower n inner child →
    IsBareNode (fun list children => list = .list [inner] ∧ children = [child]) value tree →
    tree.children = [child] → IsTower (n + 1) value tree

/-- A field that means something without nesting means the same at any depth, and with more
children. -/
lemma NodeField.Means.imp {depth : Nat} {isChildren isChildren' : Value → List Tree → Prop}
    {isEntries : Value → List Entry → Prop} {field : NodeField} {part : field.Part}
    (meant : field.Means 0 isChildren (fun _ _ => False) value part)
    (imp : ∀ list children, isChildren list children → isChildren' list children) :
    field.Means depth isChildren' isEntries value part := by
  cases field with
  | children => exact imp _ _ meant
  | entries => exact meant.elim
  | attributes => exact absurd meant.1 (Nat.lt_irrefl 0)
  | lines => exact absurd meant.1 (Nat.lt_irrefl 0)
  | _ => exact meant

/-- A tower takes two brackets for each of its nodes, but for the last one, which takes one. -/
lemma IsTower.isNode (tower : IsTower n value tree) :
    ∃ depth, depth + 1 = 2 * n ∧ IsNode depth value tree := by
  induction tower with
  | last bare =>
    refine ⟨1, rfl, ?_⟩
    unfold IsNode
    exact bare.imp fun _ _ _ meant => meant.imp fun _ _ => False.elim
  | above _ bare _ ih =>
    obtain ⟨depth, brackets, isNode⟩ := ih
    refine ⟨depth + 2, by omega, ?_⟩
    unfold IsNode
    refine bare.imp fun _ _ _ meant => meant.imp ?_
    rintro _ _ ⟨rfl, rfl⟩
    unfold IsNodes
    exact ⟨_, rfl, .cons isNode .nil⟩

/-- A tower has as many levels as nodes. -/
lemma IsTower.hasAt (tower : IsTower n value tree) : ∃ node, tree.HasAt n node := by
  induction tower with
  | last => exact ⟨_, .root⟩
  | above _ _ only ih =>
    obtain ⟨node, stands⟩ := ih
    exact ⟨node, .child (only ▸ List.mem_singleton_self _) stands⟩

/-- Characters that need no escape are written as they are. -/
lemma exists_writtenString {chars : List Char}
    (plain : chars.all fun c => c != '"' && c != '\\' && !isControl c) :
    ∃ parts, Denotes parts chars ∧ WrittenString parts (chars ++ ['"']) := by
  induction chars with
  | nil => exact ⟨[], .nil, .close⟩
  | cons c chars ih =>
    simp only [List.all_cons, Bool.and_eq_true, bne_iff_ne, Bool.not_eq_true'] at plain
    obtain ⟨⟨⟨quote, backslash⟩, control⟩, later⟩ := plain
    obtain ⟨parts, denoted, written⟩ := ih later
    have here := StringPart.Written.plain quote backslash (isControl_eq_false_iff.1 control)
    have whole := WrittenString.part here written
    exact ⟨_, .plain denoted, whole⟩

/-- There are towers of any height. -/
lemma exists_tower (n : Nat) :
    ∃ text value tree, Written value text ∧ IsTower (n + 1) value tree := by
  induction n with
  | zero =>
    refine ⟨_, .object [], .blank, .object (.close allBlank_nil), .last ?_⟩
    exact ⟨_, .object ⟨[], rfl, .nil⟩ fun _ => Nat.zero_le 1, fun _ => rfl⟩
  | succ n ih =>
    obtain ⟨text, inner, child, written, tower⟩ := ih
    obtain ⟨parts, denoted, key⟩ := @exists_writtenString "children".toList (by decide)
    have list : Written (.list [inner]) ('[' :: ([] ++ (text ++ ([] ++ [']'])))) :=
      .list (.first allBlank_nil written (.close allBlank_nil))
    refine ⟨_, .object [(parts, .list [inner])], { Tree.blank with children := [child] },
      .object (.first allBlank_nil key allBlank_nil allBlank_nil list (.close allBlank_nil)),
      .above tower ?_ rfl⟩
    have keyed : Keyed [(parts, .list [inner])] [("children", .list [inner])] :=
      .cons ⟨denoted, rfl⟩ .nil
    refine ⟨_, .object ⟨_, rfl, keyed⟩ fun _ => List.count_le_length, fun field => ?_⟩
    cases field with
    | children => exact ⟨rfl, rfl⟩
    | _ => rfl

variable {text : String} (json : IsJson text.toList value) (tower : IsTower n value tree)

include json tower

/-- A tower of at most 64 levels is parsed. -/
lemma Tree.parse_of_isTower (low : n ≤ 64) : Tree.parse text = .ok tree := by
  obtain ⟨depth, brackets, isNode⟩ := tower.isNode
  have le : depth ≤ depthLimit := by
    unfold depthLimit
    omega
  exact Tree.parse_of_isNode_of_le json isNode le

/-- A tower of more than 64 levels is refused for its nesting. -/
lemma Tree.parse_of_isTower_of_lt (high : 64 < n) : Tree.parse text = .error .recursionLimit := by
  obtain ⟨depth, -, isNode⟩ := tower.isNode
  obtain parsed | refused := Tree.parse_of_isNode json isNode
  -- It would be the same tree, which has a level for each node.
  · obtain ⟨node, stands⟩ := tower.hasAt
    exact absurd (Tree.level_le_of_parse parsed stands) (Nat.not_le.2 high)
  · exact refused

end Towers

/-- A tree that has been parsed has at most 64 levels, and a conversion walks down through at most as
many nodes. The bound is exact: there are towers of any height, and those of at most 64 nodes are
parsed, whatever is skipped in them, while all others are refused for their nesting. What is skipped
in a node or an entry, as its key names no field, is never refused for its nesting, and leaves all
as it was. -/
theorem Tree.parse_levels :
    (∀ text tree, Tree.parse text = .ok tree →
      (∀ level node, tree.HasAt level node → level ≤ 64) ∧
        ∀ path, (tree :: path).IsChain (fun node child => child ∈ node.visitedChildren) →
          (tree :: path).length ≤ 64) ∧
    (∀ n, 1 ≤ n → ∃ (text : String) (value : Value) (tree : Tree),
      IsJson text.toList value ∧ IsTower n value tree) ∧
    (∀ n text value tree, IsJson (String.toList text) value → IsTower n value tree →
      (n ≤ 64 → Tree.parse text = .ok tree) ∧
        (64 < n → Tree.parse text = .error .recursionLimit)) ∧
    Cause.recursionLimit.message = "recursion limit exceeded" ∧
    (∀ depth children entries, SkipsUnknown (nodeForm depth children entries)) ∧
    ∀ children, SkipsUnknown (entryForm children) := by
  refine ⟨fun text tree parsed => ⟨fun level node => Tree.level_le_of_parse parsed,
    fun path chain => ?_⟩, fun n positive => ?_, fun n text value tree json tower =>
    ⟨Tree.parse_of_isTower json tower, Tree.parse_of_isTower_of_lt json tower⟩, rfl,
    fun _ _ _ => skipsUnknown _, fun _ => skipsUnknown _⟩
  · obtain ⟨node, stands⟩ := Tree.exists_hasAt_of_isChain chain
    exact Tree.level_le_of_parse parsed stands
  · obtain ⟨text, value, tree, written, tower⟩ := exists_tower (n - 1)
    rw [Nat.sub_add_cancel positive] at tower
    have json : IsJson (String.ofList text).toList value := by
      refine ⟨[], text, [], ?_, allBlank_nil, allBlank_nil, written⟩
      rw [String.toList_ofList, List.append_nil, List.nil_append]
    exact ⟨_, value, tree, json, tower⟩

end Typeset
