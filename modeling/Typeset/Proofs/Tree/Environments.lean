import Mathlib.Data.List.Forall2
import Typeset.Proofs.Latex.Marks
import Typeset.Proofs.Tree.Wrappers

/-!
# Environments nest

What a conversion of texts without backslashes begins, it ends, and in the right order. The proof
follows a text with the entries that stand outside of its environments: none in a finished node, one
for each entry in the body of a list, and none again once the environment of the list is around it.
-/

namespace Typeset

open DisplayMath Latex

/-- A sealed text whose environments nest. Outside of them are as many entries as there are heads,
and each entry starts with its head. -/
structure Enclosed (heads : List (List Char)) (text : List Char) : Prop where
  finished : Sealed text
  nested : Nested (marks text)
  items : ∀ level, List.Forall₂ (· <+: ·) heads (itemsAt level level (marks text))

namespace Enclosed

variable {heads front back : List (List Char)} {left right text : List Char}

/-- But for its seal, a text is enclosed by its marks. -/
lemma of_marks_eq {other : List Char} (whole : Enclosed heads text) (finished : Sealed other)
    (same : marks other = marks text) : Enclosed heads other := by
  refine ⟨finished, ?_, fun level => ?_⟩
  · rw [same]
    exact whole.nested
  · rw [same]
    exact whole.items level

/-- A finished text without marks stands in no environment and has no items. -/
lemma of_marks_eq_nil (finished : Sealed text) (unmarked : marks text = []) : Enclosed [] text := by
  have empty : Enclosed [] [] := ⟨trivial, rfl, fun _ => .nil⟩
  exact empty.of_marks_eq finished unmarked

/-- A text without backslashes has no marks. -/
lemma of_not_mem (plain : '\\' ∉ text) : Enclosed [] text :=
  of_marks_eq_nil (sealed_of_not_mem plain) (marks_of_not_mem plain)

/-- Of two texts one after the other the environments and items are those of each. -/
lemma append (l : Enclosed front left) (r : Enclosed back right) :
    Enclosed (front ++ back) (left ++ right) := by
  have extended := (Nested.map_extend_iff right).2 l.nested
  refine ⟨l.finished.append r.finished, ?_, fun level => ?_⟩
  · rw [marks_append l.finished]
    exact extended.append r.nested
  · rw [marks_append l.finished, extended.itemsAt_append, itemsAt_map_extend]
    refine List.rel_append (List.forall₂_map_right_iff.2 ?_) (r.items level)
    exact (l.items level).imp fun head behind start => start.trans (List.prefix_append behind right)

/-- A backslash that starts no mark, and a brace that closes behind it. -/
lemma backslash (rest : Enclosed [] text) (closed : '\x7d' ∈ text)
    (unmarked : mark? ('\\' :: text) = none) : Enclosed [] ('\\' :: text) := by
  refine rest.of_marks_eq ⟨fun _ => .inl (List.mem_cons_of_mem _ closed), rest.finished⟩ ?_
  rw [marks, unmarked]
  rfl

/-- Braces around a text are no marks. -/
lemma braced {argument : String} (inner : Enclosed [] argument.toList) :
    Enclosed [] (Latex.braced argument).toList := by
  rw [Latex.braced, String.toList_append, String.toList_append]
  exact ((of_not_mem (by decide)).append inner).append (of_not_mem (by decide))

/-- Texts in braces one after the other have the marks of none if each has none. -/
lemma join_braced {arguments : List String}
    (inner : ∀ argument ∈ arguments, Enclosed [] argument.toList) :
    Enclosed [] (String.join (arguments.map Latex.braced)).toList := by
  refine join_of (P := fun text => Enclosed [] text.toList) (of_not_mem (by decide))
    (fun l r => ?_) (List.forall_mem_map.2 fun argument mem => (inner argument mem).braced)
  rw [String.toList_append]
  exact l.append r

end Enclosed

/-- The commands of the templates, but for those of environments, make no marks. A name differs
from each mark before it ends, so it does not matter what stands behind it. -/
lemma mark?_command {name : String} (mem : name ∈ plainCommands) (rest : List Char) :
    mark? ('\\' :: (name.toList ++ rest)) = none := by
  have apart : ∀ name ∈ plainCommands, ∀ lead ∈ [opening, ending, itemMark],
      name.toList.any (· ∉ lead) = true ∧ after? lead ('\\' :: name.toList) = none := by
    decide
  have fails : ∀ lead ∈ [opening, ending, itemMark],
      after? lead ('\\' :: (name.toList ++ rest)) = none := by
    intro lead known
    obtain ⟨other, fails⟩ := apart name mem lead known
    obtain ⟨c, within, lacks⟩ := List.any_eq_true.1 other
    exact after?_append_of_none (List.mem_cons_of_mem _ within) (of_decide_eq_true lacks) fails rest
  rw [mark?, fails opening (by decide), fails ending (by decide), fails itemMark (by decide)]
  rfl

/-- A command that is no mark has no marks if its arguments have none. -/
lemma Enclosed.command {name : String} {arguments : List String} (mem : name ∈ plainCommands)
    (given : arguments ≠ []) (inner : ∀ argument ∈ arguments, Enclosed [] argument.toList) :
    Enclosed [] (Latex.command name arguments).toList := by
  have shape : (Latex.command name arguments).toList =
      '\\' :: (name.toList ++ (String.join (arguments.map Latex.braced)).toList) := by
    simp [Latex.command]
  have plain : ∀ name ∈ plainCommands, '\\' ∉ name.toList := by decide
  have closed : '\x7d' ∈ (String.join (arguments.map Latex.braced)).toList := by
    obtain ⟨argument, later, rfl⟩ := List.exists_cons_of_ne_nil given
    simp [Latex.braced]
  rw [shape]
  exact ((of_not_mem (plain name mem)).append (join_braced inner)).backslash
    (List.mem_append_right _ closed) (mark?_command mem _)

/-- The names of the environments that templates use. -/
def environmentNames : List String :=
  ["document", "verbatim", "enumerate", "itemize"]

/-- What begins an environment, and what ends it, is one mark. -/
lemma marks_borders {name : String} (mem : name ∈ environmentNames) :
    (Sealed (Latex.command "begin" [name]).toList ∧
        marks (Latex.command "begin" [name]).toList = [.opens name.toList]) ∧
      Sealed (Latex.command "end" [name]).toList ∧
        marks (Latex.command "end" [name]).toList = [.closes name.toList] := by
  have borders : ∀ name ∈ environmentNames,
      (Sealed (Latex.command "begin" [name]).toList ∧
        marks (Latex.command "begin" [name]).toList = [.opens name.toList]) ∧
      Sealed (Latex.command "end" [name]).toList ∧
        marks (Latex.command "end" [name]).toList = [.closes name.toList] := by
    decide +kernel
  exact borders name mem

namespace Enclosed

variable {heads : List (List Char)} {name body : String}

/-- The marks of an environment are those of its body, between its own. -/
lemma exists_marks_environment (inner : Enclosed heads body.toList) (mem : name ∈ environmentNames)
    {rest : List Char} (plain : '\\' ∉ rest) :
    ∃ read, marks ((Latex.environment name body).toList ++ rest) =
        .opens name.toList :: read ++ [.closes name.toList] ∧
      Nested read ∧ ∀ level, List.Forall₂ (· <+: ·) heads (itemsAt level level read) := by
  obtain ⟨⟨sealedB, begins⟩, sealedE, ends⟩ := marks_borders mem
  refine ⟨(marks body.toList).map (Mark.extend ((Latex.command "end" [name]).toList ++ rest)),
    ?_, ?_, fun level => ?_⟩
  · rw [Latex.environment, String.toList_append, String.toList_append, List.append_assoc,
      List.append_assoc, marks_append sealedB, marks_append inner.finished, marks_append sealedE,
      begins, ends, marks_of_not_mem plain]
    rfl
  · rw [Nested.map_extend_iff]
    exact inner.nested
  · rw [itemsAt_map_extend, List.forall₂_map_right_iff]
    exact (inner.items level).imp fun head behind start =>
      start.trans (List.prefix_append behind _)

/-- An environment encloses all that its body has. -/
lemma environment (inner : Enclosed heads body.toList) (mem : name ∈ environmentNames) :
    Enclosed [] (Latex.environment name body).toList := by
  obtain ⟨⟨sealedB, -⟩, sealedE, -⟩ := marks_borders mem
  obtain ⟨read, whole, nested, -⟩ := inner.exists_marks_environment mem List.not_mem_nil
  rw [List.append_nil] at whole
  refine ⟨?_, ?_, fun level => ?_⟩
  · rw [Latex.environment, String.toList_append, String.toList_append]
    exact (sealedB.append inner.finished).append sealedE
  · rw [whole]
    exact nested.environment name.toList
  · rw [whole, nested.itemsAt_environment, nested.itemsAt_of_lt (Nat.lt_succ_self level)]
    exact .nil

end Enclosed

/-- What an entry starts with, behind its mark. -/
def ListItem.head (item : ListItem) : List Char :=
  (" " ++ item.text).toList

/-- An entry is a mark in front of its text and its content. -/
lemma ListItem.toList_written (item : ListItem) :
    item.written.toList =
      '\\' :: ("item".toList ++ (item.head ++ ("\n\n".toList ++ item.content.toList))) := by
  simp [written, head]

/-- An item is one mark in front of what its content encloses. -/
lemma Enclosed.item {item : ListItem} (own : Enclosed [] item.text.toList)
    (content : Enclosed [] item.content.toList) : Enclosed [item.head] item.written.toList := by
  have behind : Enclosed [] (item.head ++ ("\n\n".toList ++ item.content.toList)) := by
    rw [ListItem.head, String.toList_append]
    exact ((of_not_mem (by decide)).append own).append ((of_not_mem (by decide)).append content)
  rw [ListItem.toList_written]
  generalize eq : item.head ++ ("\n\n".toList ++ item.content.toList) = rest at behind
  have line : '\n' ∈ rest := by
    rw [← eq]
    simp
  have start : item.head <+: rest := ⟨_, eq⟩
  have plain : '\\' ∉ "item".toList := by decide
  have here : marks ('\\' :: ("item".toList ++ rest)) = .item rest :: marks rest := by
    rw [marks, marks_append (sealed_of_not_mem plain), marks_of_not_mem plain]
    rfl
  refine ⟨⟨fun _ => .inr ⟨?_, rfl, rfl⟩, ?_⟩, ?_, fun level => ?_⟩
  · exact List.mem_cons_of_mem _ (List.mem_append_right _ line)
  · exact (sealed_of_not_mem plain).append behind.finished
  · rw [here]
    exact behind.nested
  · rw [here, itemsAt, if_pos rfl]
    exact .cons start (behind.items level)

/-- The body of a list has one entry for each item, and each starts with the text of its item. -/
lemma Enclosed.listBody {items : List ListItem}
    (inner : ∀ item ∈ items, Enclosed [] item.text.toList ∧ Enclosed [] item.content.toList) :
    Enclosed (items.map ListItem.head) (listBody items).toList := by
  have entries : Enclosed (items.map ListItem.head)
      (String.join (items.map ListItem.written)).toList := by
    induction items with
    | nil => exact of_not_mem (by decide)
    | cons item items ih =>
      obtain ⟨⟨own, content⟩, later⟩ := List.forall_mem_cons.1 inner
      rw [List.map_cons, List.map_cons, String.join_cons, String.toList_append]
      exact (Enclosed.item own content).append (ih later)
  rw [Typeset.listBody, String.toList_append]
  exact (of_not_mem (by decide)).append entries

namespace Enclosed

variable {text : List Char}

/-- Any other character in front than a backslash can be dropped. -/
lemma of_cons {c : Char} (ne : c ≠ '\\') (whole : Enclosed [] (c :: text)) : Enclosed [] text := by
  refine whole.of_marks_eq whole.finished.2 ?_
  rw [marks, mark?_cons_of_ne ne]
  rfl

/-- A bracket at the end can be dropped. -/
lemma of_concat {c : Char} (bracket : isBracket c = true) (whole : Enclosed [] (text ++ [c])) :
    Enclosed [] text := by
  have apart (d : Char) (other : isBracket d = false) : c ≠ d := by
    rintro rfl
    rw [bracket] at other
    cases other
  have finished := whole.finished.of_concat (apart _ rfl) (apart _ rfl)
  have same : marks (text ++ [c]) = (marks text).map (Mark.extend [c]) := by
    have last : '\\' ∉ [c] := fun mem => apart '\\' rfl (List.mem_singleton.1 mem).symm
    rw [marks_append finished, marks_of_not_mem last, List.append_nil]
  refine ⟨finished, ?_, fun level => ?_⟩
  · rw [← Nested.map_extend_iff, ← same]
    exact whole.nested
  · have items := whole.items level
    rw [same, itemsAt_map_extend, List.forall₂_nil_left_iff, List.map_eq_nil_iff] at items
    rw [items]
    exact .nil

end Enclosed

/-- Templates make settled texts whose environments nest of texts of that kind. -/
lemma enclosedLaw :
    TemplateLaw (fun text => Settled text.toList ∧ Enclosed [] text.toList)
      (· ∈ plainCommands) where
  fixed text mem := by
    have unmarked : ∀ text ∈ plainTexts, Sealed text.toList ∧ marks text.toList = [] := by
      decide +kernel
    obtain ⟨finished, none⟩ := unmarked text mem
    exact ⟨settledLaw.toTemplateLaw.fixed text mem, .of_marks_eq_nil finished none⟩
  names name mem := mem
  append l r := by
    rw [String.toList_append]
    exact ⟨l.1.append r.1, l.2.append r.2⟩
  command mem given inner := by
    have clean : ∀ name ∈ plainCommands, IsCleanName name := by decide
    exact ⟨Settled.command (clean _ mem) given fun argument within => (inner argument within).1,
      .command mem given fun argument within => (inner argument within).2⟩
  environment mem inner := by
    have known : ∀ name ∈ ["document", "verbatim"], name ∈ environmentNames := by decide
    exact ⟨settledLaw.toTemplateLaw.environment mem inner.1, .environment inner.2 (known _ mem)⟩
  entries mem inner := by
    have known : ∀ name ∈ ["enumerate", "itemize"], name ∈ environmentNames := by decide
    have settled := settledLaw.toTemplateLaw.entries mem fun item within =>
      ⟨(inner item within).1.1, (inner item within).2.1⟩
    have entries := Enclosed.listBody fun item within =>
      ⟨(inner item within).1.2, (inner item within).2.2⟩
    exact ⟨settled, .environment entries (known _ mem)⟩
  stem inner := by
    refine ⟨settledLaw.stem inner.1, ?_⟩
    unfold stemText
    split
    · exact inner.2
    · rw [String.toList_append, String.toList_append]
      exact ((Enclosed.of_marks_eq_nil (by decide) (by decide)).append inner.2).append
        (.of_marks_eq_nil (by decide) (by decide))
  strip inner := by
    rw [inner.1.strip_eq]
    exact inner
  trimBrackets inner := by
    refine ⟨settledLaw.trimBrackets inner.1, trimBrackets_of (fun bracket whole => whole.of_cons ?_)
      (fun bracket whole => whole.of_concat bracket) inner.2⟩
    rintro rfl
    cases bracket
  dropHash inner :=
    ⟨settledLaw.dropHash inner.1, dropHash_of (fun whole => whole.of_cons (by decide)) inner.2⟩

namespace Tree

variable {style : Style} {tree : Tree}

/-- The entries of a node as they are rendered: the text of each, and what its children read. -/
def items (style : Style) (tree : Tree) : List ListItem :=
  tree.entries.map fun entry => ⟨entry.text, siblingText style entry.children⟩

/-- A list of a kind that has an environment is that environment around its entries. -/
lemma output_of_itemList {name : String} (kind : tree.fields.nodeClass = .itemList)
    (known : tree.fields.listKind.environment? = some name) :
    (tree.convert style).output =
      Latex.environment name (listBody (tree.items style)) ++ "\n\n" := by
  rw [convert_eq, ownRendering, kind]
  simp only [Node.render, Fields.itemList, Node.text?, ItemList.text?_eq, known, items]

/-- All texts that a list of such a kind lists are written. -/
lemma ownTexts_of_itemList {name : String} (kind : tree.fields.nodeClass = .itemList)
    (known : tree.fields.listKind.environment? = some name) :
    tree.ownTexts style = tree.entries.map Entry.text := by
  simp only [ownTexts, kind, Node.written, Fields.itemList, Node.text?, ItemList.text?_eq, known]
  rfl

/-- A text without backslashes is settled, and encloses no mark. -/
lemma enclosed_of_plain {text : String} (plain : '\\' ∉ text.toList) :
    Settled text.toList ∧ Enclosed [] text.toList := by
  have unmarked (mark : Char) : ¬ HasMarker mark text.toList := by
    rw [hasMarker_iff]
    rintro ⟨before, after, eq⟩
    rw [eq] at plain
    exact plain (List.mem_append_right _ List.mem_cons_self)
  refine ⟨settled_of_not_hasMarker (unmarked '[') (unmarked ']') fun last => ?_, .of_not_mem plain⟩
  exact plain (List.mem_of_getLast? last)

/-- The default fragments obey the law, and there are no macros to obey it. -/
lemma obeys_default :
    Style.Obeys (fun text => Settled text.toList ∧ Enclosed [] text.toList) (· ∈ plainCommands)
      ⟨.empty, .default⟩ := by
  have obeys (text : String)
      (unmarked : IsClean text ∧ Sealed text.toList ∧ marks text.toList = []) :
      Settled text.toList ∧ Enclosed [] text.toList :=
    ⟨unmarked.1.settled, .of_marks_eq_nil unmarked.2.1 unmarked.2.2⟩
  exact ⟨obeys _ (by decide +kernel), obeys _ (by decide +kernel), obeys _ (by decide), nofun⟩

/-- In a conversion without macros, and of texts without backslashes, environments nest. If it is
that of a list, the environment of the list stands around all others, and directly in it are as many
entries as the list has, each with its own text behind the mark. -/
theorem environments_convert {tree : Tree}
    (plain : ∀ node, tree.Visits node → ∀ text ∈ node.ownTexts ⟨.empty, .default⟩,
      '\\' ∉ text.toList) :
    let read := marks (tree.convert ⟨.empty, .default⟩).output.toList
    Nested read ∧
      ∀ name, tree.fields.nodeClass = .itemList →
        tree.fields.listKind.environment? = some name →
        (∃ inner, Nested inner ∧ read = .opens name.toList :: inner ++ [.closes name.toList]) ∧
          List.Forall₂ (fun entry behind => (" " ++ entry.text).toList <+: behind) tree.entries
            (itemsAt 1 0 read) := by
  intro read
  have texts : ∀ node, tree.Visits node → ∀ text ∈ node.ownTexts ⟨.empty, .default⟩,
      Settled text.toList ∧ Enclosed [] text.toList :=
    fun node visits text mem => enclosed_of_plain (plain node visits text mem)
  refine ⟨(enclosedLaw.convert obeys_default texts).2.nested, fun name kind known => ?_⟩
  have body : Enclosed ((tree.items ⟨.empty, .default⟩).map ListItem.head)
      (listBody (tree.items ⟨.empty, .default⟩)).toList := by
    refine Enclosed.listBody (List.forall_mem_map.2 fun entry listed => ⟨?_, ?_⟩)
    · have mem : entry.text ∈ tree.ownTexts ⟨.empty, .default⟩ := by
        rw [ownTexts_of_itemList kind known]
        exact List.mem_map_of_mem listed
      exact (texts tree .self entry.text mem).2
    · refine (enclosedLaw.siblingText fun child within => ?_).2
      have walks := walksEntries_of_itemList kind
      have visited := mem_visitedChildren_of_mem_entries walks listed within
      exact enclosedLaw.convert obeys_default fun node visits => texts node (.child visited visits)
  have environment : name ∈ environmentNames := by
    have listed : ∀ name ∈ ["enumerate", "itemize"], name ∈ environmentNames := by decide
    exact listed name (ListKind.mem_of_environment? known)
  obtain ⟨inner, whole, nested, heads⟩ :=
    body.exists_marks_environment environment (by decide : '\\' ∉ "\n\n".toList)
  rw [← String.toList_append, ← output_of_itemList kind known] at whole
  refine ⟨⟨inner, nested, whole⟩, ?_⟩
  have behind := heads 1
  rw [items, List.map_map, List.forall₂_map_left_iff, ← nested.itemsAt_environment name.toList,
    ← whole] at behind
  exact behind

end Tree

/-- A list with a numbered list and a verbatim block in its entries, which speak of environments
themselves. -/
theorem environments_convert_of_nested_lists :
    let block : Tree :=
      ⟨{ Fields.blank with name := "literal", source := "end\x7bitemize\x7d" }, [], []⟩
    let nested : Tree := ⟨{ Fields.blank with name := "olist" }, [], [⟨"item", [block]⟩]⟩
    let tree : Tree := ⟨{ Fields.blank with name := "ulist" }, [], [⟨"a", [nested]⟩, ⟨"b", []⟩]⟩
    let read := marks (tree.convert ⟨.empty, .default⟩).output.toList
    Nested read ∧
      (∃ inner, Nested inner ∧
        read = .opens "itemize".toList :: inner ++ [.closes "itemize".toList]) ∧
      List.Forall₂ (fun entry behind => (" " ++ entry.text).toList <+: behind) tree.entries
        (itemsAt 1 0 read) := by
  intro block nested tree read
  have inNested : ∀ node, nested.Visits node → ∀ text ∈ node.ownTexts ⟨.empty, .default⟩,
      '\\' ∉ text.toList :=
    Tree.forall_visits (by decide) (List.forall_mem_singleton.2
      (Tree.forall_visits_of_isEmpty (by decide) (by decide)))
  have plain : ∀ node, tree.Visits node → ∀ text ∈ node.ownTexts ⟨.empty, .default⟩,
      '\\' ∉ text.toList :=
    Tree.forall_visits (by decide) (List.forall_mem_singleton.2 inNested)
  obtain ⟨whole, outer⟩ := Tree.environments_convert plain
  exact ⟨whole, outer "itemize" (by decide) (by decide)⟩

end Typeset
