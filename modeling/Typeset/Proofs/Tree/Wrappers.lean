import Typeset.Proofs.DisplayMath.Settled
import Typeset.Proofs.Tree.Texts

/-!
# Display wrappers survive

Display math is put between markers by the template of a stem, and a document strips markers from
its body. The two decide apart from each other, and from different texts. If no marker is brought in
from outside, they agree: what a conversion writes is settled, so stripping finds nothing to do.
-/

namespace Typeset

open DisplayMath

/-- A text that brings in no marker and cannot complete one. -/
def IsClean (text : String) : Prop :=
  ¬ HasMarker '[' text.toList ∧ ¬ HasMarker ']' text.toList ∧ text.toList.getLast? ≠ some '\\'

instance (text : String) : Decidable (IsClean text) :=
  inferInstanceAs (Decidable (_ ∧ _ ∧ _))

/-- A clean name that does not make a marker of the backslash in front of it. -/
def IsCleanName (name : String) : Prop :=
  IsClean name ∧ name.toList.head?.any isBracket = false

instance (name : String) : Decidable (IsCleanName name) :=
  inferInstanceAs (Decidable (_ ∧ _))

/-- A clean text is settled. -/
lemma IsClean.settled {text : String} (clean : IsClean text) : Settled text.toList := by
  obtain ⟨unopened, unclosed, ended⟩ := clean
  exact settled_of_not_hasMarker unopened unclosed ended

namespace DisplayMath.Settled

/-- A settled text in braces is settled. -/
lemma braced {argument : String} (settled : Settled argument.toList) :
    Settled (Latex.braced argument).toList := by
  have opening : IsClean "\x7b" := by decide
  have closing : IsClean "\x7d" := by decide
  rw [Latex.braced, String.toList_append, String.toList_append]
  exact (opening.settled.append settled).append closing.settled

/-- Settled texts in braces one after the other are settled. -/
lemma join_braced {arguments : List String}
    (settled : ∀ argument ∈ arguments, Settled argument.toList) :
    Settled (String.join (arguments.map Latex.braced)).toList := by
  have empty : IsClean "" := by decide
  refine join_of (P := fun text => Settled text.toList) empty.settled (fun l r => ?_)
    (List.forall_mem_map.2 fun argument mem => (settled argument mem).braced)
  rw [String.toList_append]
  exact l.append r

/-- A command is settled with its arguments: its backslash stands in front of its name, or of the
brace behind an empty one. -/
lemma command {name : String} {arguments : List String} (clean : IsCleanName name)
    (given : arguments ≠ []) (settled : ∀ argument ∈ arguments, Settled argument.toList) :
    Settled (Latex.command name arguments).toList := by
  obtain ⟨clean, plain⟩ := clean
  have rest := clean.settled.append (join_braced settled)
  have shape : (Latex.command name arguments).toList =
      '\\' :: (name.toList ++ (String.join (arguments.map Latex.braced)).toList) := by
    simp [Latex.command]
  rw [shape]
  cases letters : name.toList with
  | cons c letters =>
    rw [letters] at rest plain
    exact rest.backslash plain
  | nil =>
    obtain ⟨argument, later, rfl⟩ := List.exists_cons_of_ne_nil given
    have brace : (String.join ((argument :: later).map Latex.braced)).toList =
        '\x7b' :: (argument.toList ++
          '\x7d' :: (String.join (later.map Latex.braced)).toList) := by
      simp [Latex.braced]
    rw [letters, brace] at rest
    rw [brace]
    exact rest.backslash rfl

/-- A stem is settled whether or not it puts its content between markers. -/
lemma stemText {content : String} (settled : Settled content.toList) :
    Settled (stemText content).toList := by
  unfold Typeset.stemText
  split
  · exact settled
  · next display =>
    rw [Bool.not_eq_true, ← String.ofList_toList (s := content)] at display
    have shape : ("\\[\n" ++ content ++ "\n\\]\n").toList =
        '\\' :: '[' :: '\n' :: (content.toList ++ ['\n', '\\', ']', '\n']) := by
      simp
    rw [shape]
    exact settled.wrap display

end DisplayMath.Settled

/-- Templates make settled texts of settled texts. -/
lemma settledLaw : TextLaw (fun text => Settled text.toList) IsCleanName where
  fixed := by
    have clean : ∀ text ∈ templateTexts, IsClean text := by decide
    exact fun text mem => (clean text mem).settled
  names := by decide
  append left right := by
    rw [String.toList_append]
    exact left.append right
  command clean given settled := Settled.command clean given settled
  stem settled := settled.stemText
  strip settled := by
    rw [settled.strip_eq]
    exact settled
  trimBrackets := by
    refine trimBrackets_of (fun bracket settled => settled.of_cons ?_)
      (fun bracket settled => settled.of_concat bracket)
    rintro rfl
    cases bracket
  dropHash := dropHash_of fun settled => settled.of_cons (by decide)

section Settles

variable {style : Style} {tree node : Tree}

/-- What a visited node converts to is settled, if no text brings in a marker. -/
lemma Tree.settled_of_visits
    (obeys : style.Obeys (fun text => Settled text.toList) IsCleanName)
    (texts : ∀ node, tree.Visits node → ∀ text ∈ node.ownTexts style, IsClean text)
    (visits : tree.Visits node) : Settled (node.convert style).output.toList := by
  apply settledLaw.convert obeys
  intro inner below text mem
  exact (texts inner (visits.trans below) text mem).settled

/-- There is nothing to strip from what the children of a visited node read. -/
lemma Tree.strip_siblingText_of_visits
    (obeys : style.Obeys (fun text => Settled text.toList) IsCleanName)
    (texts : ∀ node, tree.Visits node → ∀ text ∈ node.ownTexts style, IsClean text)
    (visits : tree.Visits node) (walks : node.walksChildren = true) :
    strip (siblingText style node.children) = siblingText style node.children := by
  apply Settled.strip_eq
  apply settledLaw.siblingText
  intro child within
  have visited := mem_visitedChildren_of_mem_children walks within
  exact settled_of_visits obeys texts (visits.trans (.child visited .self))

end Settles

/-- The display markers that a conversion writes survive. If no text that it writes brings in a
marker, each document that it renders keeps its body as it was walked, and stripping what it gives
once more changes nothing. -/
theorem Tree.convert_keeps_markers {style : Style} {tree : Tree}
    (texts : ∀ node, tree.Visits node → ∀ text ∈ node.ownTexts style, IsClean text)
    (preamble : IsClean style.fragments.preamble)
    (frameworkMacros : IsClean style.fragments.frameworkMacros)
    (userMacros : IsClean style.fragments.userMacros)
    (macros : ∀ role macroName, style.roles.find? role = some macroName → IsCleanName macroName) :
    (∀ root, .visited (.document root) ∈ (tree.convert style).journal →
        strip root.content = root.content) ∧
      strip (tree.convert style).output = (tree.convert style).output := by
  have obeys : style.Obeys (fun text => Settled text.toList) IsCleanName :=
    ⟨preamble.settled, frameworkMacros.settled, userMacros.settled, macros⟩
  refine ⟨fun root mem => ?_, (settled_of_visits obeys texts .self).strip_eq⟩
  obtain ⟨node, visits, walks, body⟩ := exists_visits_of_document_mem mem
  rw [body]
  exact strip_siblingText_of_visits obeys texts visits walks

/-- A document with a stem in a stem: the outer opener is paired with the inner closer. -/
theorem convert_keeps_markers_of_nested_stems :
    let equation : Tree :=
      ⟨{ Fields.blank with name := "text", text := "\\begin\x7bequation\x7dx" }, [], []⟩
    let inner : Tree := ⟨{ Fields.blank with name := "stem" }, [equation], []⟩
    let outer : Tree := ⟨{ Fields.blank with name := "stem" }, [equation, inner], []⟩
    let tree : Tree := ⟨{ Fields.blank with name := "document" }, [outer], []⟩
    let style : Style := ⟨.empty, .default⟩
    (∀ root, .visited (.document root) ∈ (tree.convert style).journal →
        strip root.content = root.content) ∧
      strip (tree.convert style).output = (tree.convert style).output := by
  intro equation inner outer tree style
  have equations : ∀ node, equation.Visits node → ∀ text ∈ node.ownTexts style, IsClean text :=
    Tree.forall_visits (by decide) nofun
  have inners : ∀ node, inner.Visits node → ∀ text ∈ node.ownTexts style, IsClean text :=
    Tree.forall_visits (by decide) (List.forall_mem_singleton.2 equations)
  have outers : ∀ node, outer.Visits node → ∀ text ∈ node.ownTexts style, IsClean text :=
    Tree.forall_visits (by decide)
      (List.forall_mem_cons.2 ⟨equations, List.forall_mem_singleton.2 inners⟩)
  have texts : ∀ node, tree.Visits node → ∀ text ∈ node.ownTexts style, IsClean text :=
    Tree.forall_visits (by decide) (List.forall_mem_singleton.2 outers)
  exact Tree.convert_keeps_markers texts (by decide +kernel) (by decide +kernel) (by decide) nofun

end Typeset
