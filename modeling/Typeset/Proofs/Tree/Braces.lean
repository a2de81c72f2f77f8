import Typeset.Proofs.DisplayMath.Layout
import Typeset.Proofs.Tree.Texts

/-!
# Braces stay balanced

A conversion of balanced texts is balanced, whatever else the texts hold. Each template closes the
braces that it opens. What is taken away on the way, the display markers of a body, the brackets
around a label and the number sign of a reference, holds no brace, and `Balanced.of_filter_eq` says
that nothing else counts.
-/

namespace Typeset

open DisplayMath

/-- No brace of the text closes before it was opened, and none stays open. -/
structure Balanced (text : List Char) : Prop where
  /-- No front of the text closes more braces than it opens. -/
  opened : ∀ front, front <+: text → front.count '\x7d' ≤ front.count '\x7b'
  /-- The whole text closes as many braces as it opens. -/
  closed : text.count '\x7d' = text.count '\x7b'

/-- Whether a character is a brace. -/
def isBrace (c : Char) : Bool :=
  c == '\x7b' || c == '\x7d'

/-- A text has the braces that are left of it without all other characters. -/
lemma count_filter_isBrace (text : List Char) :
    (text.filter isBrace).count '\x7b' = text.count '\x7b' ∧
      (text.filter isBrace).count '\x7d' = text.count '\x7d' :=
  ⟨List.count_filter rfl, List.count_filter rfl⟩

/-- Whether a text is balanced depends on its braces only. -/
lemma balanced_filter_iff {text : List Char} :
    Balanced (text.filter isBrace) ↔ Balanced text := by
  obtain ⟨opens, closes⟩ := count_filter_isBrace text
  constructor
  · intro balanced
    refine ⟨fun front pre => ?_, ?_⟩
    · have counts := balanced.opened _ (pre.filter isBrace)
      rw [(count_filter_isBrace front).1, (count_filter_isBrace front).2] at counts
      exact counts
    · rw [← opens, ← closes]
      exact balanced.closed
  · intro balanced
    refine ⟨fun front pre => ?_, ?_⟩
    · obtain ⟨whole, start, rfl⟩ := List.prefix_filter_iff.1 pre
      rw [(count_filter_isBrace whole).1, (count_filter_isBrace whole).2]
      exact balanced.opened whole start
    · rw [opens, closes]
      exact balanced.closed

/-- Only the braces are read, so that long texts can be tested. -/
instance (text : List Char) : Decidable (Balanced text) :=
  decidable_of_iff ((∀ front ∈ (text.filter isBrace).inits,
        front.count '\x7d' ≤ front.count '\x7b') ∧
      (text.filter isBrace).count '\x7d' = (text.filter isBrace).count '\x7b') <| by
    rw [← balanced_filter_iff]
    simp only [List.mem_inits]
    exact ⟨fun ⟨opened, closed⟩ => ⟨opened, closed⟩, fun ⟨opened, closed⟩ => ⟨opened, closed⟩⟩

namespace Balanced

/-- A text with the same braces is balanced as well. -/
lemma of_filter_eq {text other : List Char} (balanced : Balanced text)
    (same : other.filter isBrace = text.filter isBrace) : Balanced other := by
  rw [← balanced_filter_iff, same, balanced_filter_iff]
  exact balanced

/-- A front of two texts put together is a front of the first, or the first with a front of the
second. -/
lemma append {left right : List Char} (l : Balanced left) (r : Balanced right) :
    Balanced (left ++ right) := by
  refine ⟨fun front pre => ?_, ?_⟩
  · obtain short | ⟨rest, rfl⟩ :=
      List.prefix_or_prefix_of_prefix pre (List.prefix_append left right)
    · exact l.opened front short
    · have counts := r.opened rest ((List.prefix_append_right_inj left).1 pre)
      rw [List.count_append, List.count_append, l.closed]
      exact Nat.add_le_add_left counts _
  · rw [List.count_append, List.count_append, l.closed, r.closed]

/-- A balanced text in braces is balanced. -/
lemma braced {argument : String} (balanced : Balanced argument.toList) :
    Balanced (Latex.braced argument).toList := by
  have shape : (Latex.braced argument).toList = '\x7b' :: (argument.toList ++ ['\x7d']) := by
    simp [Latex.braced]
  rw [shape]
  refine ⟨fun front pre => ?_, ?_⟩
  · obtain rfl | ⟨rest, rfl, behind⟩ := List.prefix_cons_iff.1 pre
    · exact Nat.le_refl _
    · obtain rfl | inside := List.prefix_concat_iff.1 behind
      · simp [balanced.closed]
      · have counts := balanced.opened rest inside
        rw [List.count_cons_self, List.count_cons_of_ne (by decide)]
        exact Nat.le_succ_of_le counts
  · simp [balanced.closed]

/-- Balanced texts in braces one after the other are balanced. -/
lemma join_braced {arguments : List String}
    (balanced : ∀ argument ∈ arguments, Balanced argument.toList) :
    Balanced (String.join (arguments.map Latex.braced)).toList := by
  refine join_of (P := fun text => Balanced text.toList) (by decide) (fun l r => ?_)
    (List.forall_mem_map.2 fun argument mem => (balanced argument mem).braced)
  rw [String.toList_append]
  exact l.append r

/-- A command is balanced if its name and its arguments are. -/
lemma command {name : String} {arguments : List String} (named : Balanced name.toList)
    (balanced : ∀ argument ∈ arguments, Balanced argument.toList) :
    Balanced (Latex.command name arguments).toList := by
  have backslash : Balanced "\\".toList := by decide
  rw [Latex.command, String.toList_append, String.toList_append]
  exact (backslash.append named).append (join_braced balanced)

/-- A stem is balanced if its content is. -/
lemma stemText {content : String} (balanced : Balanced content.toList) :
    Balanced (stemText content).toList := by
  unfold Typeset.stemText
  split
  · exact balanced
  · have opener : Balanced "\\[\n".toList := by decide
    have closer : Balanced "\n\\]\n".toList := by decide
    rw [String.toList_append, String.toList_append]
    exact (opener.append balanced).append closer

end Balanced

/-- A region holds the same braces with its markers and without them. -/
lemma filter_isBrace_stripPieces (pieces : List Piece) :
    (stripPieces pieces).filter isBrace = (pieces.flatMap Piece.text).filter isBrace := by
  have bare (inner : List Char) : (marked inner).filter isBrace = inner.filter isBrace := by
    simp [marked, isBrace]
  induction pieces with
  | nil => rfl
  | cons piece pieces ih =>
    have inner : (stripInner piece.inner).filter isBrace = piece.inner.filter isBrace := by
      unfold stripInner
      split
      · rfl
      · exact bare piece.inner
    simp only [stripPieces, List.flatMap_cons, Piece.text, List.filter_append, ih, inner, bare]

/-- Stripping a body takes no brace from it. -/
lemma filter_isBrace_strip (body : String) :
    (strip body).toList.filter isBrace = body.toList.filter isBrace := by
  have whole := congrArg (List.filter isBrace) (text_layout body.toList)
  rw [Layout.text, List.filter_append] at whole
  rw [strip, String.toList_ofList, List.filter_append, filter_isBrace_stripPieces, whole]

/-- Square brackets are no braces. -/
lemma filter_isBrace_dropWhile (text : List Char) :
    (text.dropWhile isBracket).filter isBrace = text.filter isBrace := by
  induction text with
  | nil => rfl
  | cons c text ih =>
    rw [List.dropWhile_cons]
    split
    · next bracket =>
      rw [isBracket, Bool.or_eq_true, beq_iff_eq, beq_iff_eq] at bracket
      have plain : ¬ isBrace c = true := by
        obtain rfl | rfl := bracket
        · decide
        · decide
      rw [ih, List.filter_cons_of_neg plain]
    · rfl

/-- Trimming brackets leaves the braces. -/
lemma filter_isBrace_trimBrackets (text : String) :
    (trimBrackets text).toList.filter isBrace = text.toList.filter isBrace := by
  rw [trimBrackets, String.toList_ofList, List.filter_reverse, filter_isBrace_dropWhile,
    List.filter_reverse, List.reverse_reverse, filter_isBrace_dropWhile]

/-- Dropping a hash leaves the braces. -/
lemma filter_isBrace_dropHash (text : String) :
    (dropHash text).toList.filter isBrace = text.toList.filter isBrace := by
  unfold dropHash
  split
  · next rest eq =>
    rw [eq, String.toList_ofList]
    rfl
  · rfl

/-- Templates make balanced texts of balanced texts. -/
lemma balancedLaw :
    TextLaw (fun text => Balanced text.toList) (fun name => Balanced name.toList) where
  fixed := by decide
  names := by decide
  append l r := by
    rw [String.toList_append]
    exact l.append r
  command named _ balanced := Balanced.command named balanced
  stem balanced := balanced.stemText
  strip balanced := balanced.of_filter_eq (filter_isBrace_strip _)
  trimBrackets balanced := balanced.of_filter_eq (filter_isBrace_trimBrackets _)
  dropHash balanced := balanced.of_filter_eq (filter_isBrace_dropHash _)

/-- A conversion closes every brace that it opens, and none before it is opened, if each of the
texts that it writes does. -/
theorem Tree.balanced_convert {style : Style} {tree : Tree}
    (texts : ∀ node, tree.Visits node → ∀ text ∈ node.ownTexts style, Balanced text.toList)
    (preamble : Balanced style.fragments.preamble.toList)
    (frameworkMacros : Balanced style.fragments.frameworkMacros.toList)
    (userMacros : Balanced style.fragments.userMacros.toList)
    (macros : ∀ role macroName, style.roles.find? role = some macroName →
      Balanced macroName.toList) :
    Balanced (tree.convert style).output.toList :=
  balancedLaw.convert ⟨preamble, frameworkMacros, userMacros, macros⟩ texts

/-- A document in a document: the inner one loses the markers of a region that ends in a backslash,
the outer one trims a label, and leaves out a node that it does not know. -/
theorem balanced_convert_of_nested_documents :
    let formula : Tree :=
      ⟨{ Fields.blank with name := "pass", source := "\\[\\begin\x7barray\x7d\\\\]" }, [], []⟩
    let inner : Tree :=
      ⟨{ Fields.blank with name := "document", title := "\x7bé\x7d" }, [formula], []⟩
    let label : Tree :=
      ⟨{ Fields.blank with name := "inline_anchor", kind := "ref", text := "[a\\]]" }, [], []⟩
    let table : Tree := ⟨{ Fields.blank with name := "table" }, [], []⟩
    let tree : Tree := ⟨{ Fields.blank with name := "document" }, [inner, label, table], []⟩
    let style : Style :=
      ⟨Dictionary.empty.insert "mark" "hl", ⟨"\\usepackage\x7bamsmath\x7d\n", "", ""⟩⟩
    Balanced (tree.convert style).output.toList := by
  intro formula inner label table tree style
  have formulas : ∀ node, formula.Visits node → ∀ text ∈ node.ownTexts style,
      Balanced text.toList :=
    Tree.forall_visits_of_isEmpty (by decide) (by decide)
  have inners : ∀ node, inner.Visits node → ∀ text ∈ node.ownTexts style, Balanced text.toList :=
    Tree.forall_visits (by decide) (List.forall_mem_singleton.2 formulas)
  have labels : ∀ node, label.Visits node → ∀ text ∈ node.ownTexts style, Balanced text.toList :=
    Tree.forall_visits_of_isEmpty (by decide) (by decide)
  have tables : ∀ node, table.Visits node → ∀ text ∈ node.ownTexts style, Balanced text.toList :=
    Tree.forall_visits_of_isEmpty (by decide) (by decide)
  have texts : ∀ node, tree.Visits node → ∀ text ∈ node.ownTexts style, Balanced text.toList :=
    Tree.forall_visits (by decide) (List.forall_mem_cons.2
      ⟨inners, List.forall_mem_cons.2 ⟨labels, List.forall_mem_singleton.2 tables⟩⟩)
  refine Tree.balanced_convert texts (by decide) (by decide) (by decide) ?_
  intro role macroName found
  rw [Dictionary.find?_insert] at found
  split at found
  · cases found
    decide
  · cases found

end Typeset
