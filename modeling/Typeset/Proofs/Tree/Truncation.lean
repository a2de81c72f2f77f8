import Typeset.Proofs.Json.CutCollections
import Typeset.Proofs.Tree.Parsing

/-!
# Source trees that are cut or padded

A text that holds a tree is told from every other beginning of it, and from every longer text that
is not the same up to blanks. Each reader of a part goes on in front of the cut as it does in the
whole text, by induction on the brackets that may still be opened; the bracket that closes a tree
ends it.
-/

namespace Typeset

open Json

section Parts

variable {α : Type}

/-- What is nested goes its way if it does at every depth. -/
lemma cutsOff_nested {inside : Nat → Reader α} (cuts : ∀ depth, CutsOff (inside depth))
    (depth : Nat) : CutsOff (nested inside depth) := by
  cases depth with
  | zero => exact .refuse
  | succ depth => exact cuts depth

/-- Lines go their way wherever they are cut. -/
lemma cutsOff_readLines (depth : Nat) : CutsOff (readLines depth) :=
  (cutsOff_nested (fun _ => cutsOff_text.elements) depth).sequence

/-- Attributes go their way wherever they are cut. -/
lemma cutsOff_readDictionary (depth : Nat) : CutsOff (readDictionary depth) := by
  refine (cutsOff_nested (fun _ => .members fun name dictionary reader given => ?_) depth).object
  cases given
  exact cutsOff_text.map _

variable {childrenReader : Reader (List Tree)} {entriesReader : Reader (List Entry)}

/-- Each field of a node goes its way if the nodes and entries in it do. -/
lemma cutsOff_nodeForm {depth : Nat} (children : CutsOff childrenReader)
    (entries : CutsOff entriesReader) (field : NodeField) (tree : Tree) :
    CutsOff ((nodeForm depth childrenReader entriesReader).read field tree) := by
  cases field with
  | name => exact cutsOff_text.map _
  | level => exact cutsOff_level.optional.map _
  | attributes => exact (cutsOff_readDictionary depth).map _
  | lines => exact (cutsOff_readLines depth).map _
  | children => exact children.map _
  | entries => exact entries.map _
  | _ => exact cutsOff_text.optional.map _

/-- Each field of an entry goes its way if the nodes in it do. -/
lemma cutsOff_entryForm (children : CutsOff childrenReader) (field : EntryField) (entry : Entry) :
    CutsOff ((entryForm childrenReader).read field entry) := by
  cases field with
  | text => exact cutsOff_text.map _
  | children => exact children.map _

end Parts

mutual

/-- A node goes its way wherever it is cut. -/
theorem cutsOff_readNode : ∀ depth, CutsOff (readNode depth)
  | 0 => by
    unfold readNode
    exact CutsOff.record .refuse .refuse
  | depth + 1 => by
    unfold readNode
    exact .ofForm (cutsOff_nodeForm (cutsOff_readNodes depth) (cutsOff_readEntries depth)) _ _

/-- Nodes go their way wherever they are cut. -/
theorem cutsOff_readNodes : ∀ depth, CutsOff (readNodes depth)
  | 0 => by
    unfold readNodes
    exact CutsOff.sequence .refuse
  | depth + 1 => by
    unfold readNodes
    exact (cutsOff_readNode depth).elements.sequence

/-- An entry goes its way wherever it is cut. -/
theorem cutsOff_readEntry : ∀ depth, CutsOff (readEntry depth)
  | 0 => by
    unfold readEntry
    exact CutsOff.record .refuse .refuse
  | depth + 1 => by
    unfold readEntry
    exact .ofForm (cutsOff_entryForm (cutsOff_readNodes depth)) _ _

/-- Entries go their way wherever they are cut. -/
theorem cutsOff_readEntries : ∀ depth, CutsOff (readEntries depth)
  | 0 => by
    unfold readEntries
    exact CutsOff.sequence .refuse
  | depth + 1 => by
    unfold readEntries
    exact (cutsOff_readEntry depth).elements.sequence

end

section Padding

variable {depth : Nat} {tree : Tree} {text rest blank : List Char}

/-- The bracket that closes a node ends it, whatever stands behind it. -/
lemma readNode_complete {value : Value} {literal : List Char} (placed : Placed value literal)
    (meant : IsNode depth value tree) (rest : List Char) :
    (readNode depth).run (literal ++ rest) = .ok (tree, rest) := by
  cases depth with
  | zero =>
    unfold IsNode at meant
    exact meant.elim
  | succ depth =>
    unfold IsNode at meant
    unfold readNode
    exact (follows_nodeForm (reads_readNodes depth) (reads_readEntries depth)).record_complete
      placed meant

/-- Neither blanks in front of a node nor what stands behind it change what is read. -/
lemma readNode_padded (ran : (readNode depth).run text = .ok (tree, rest)) (blanks : AllBlank blank)
    (more : List Char) : (readNode depth).run (blank ++ text ++ more) = .ok (tree, rest ++ more) := by
  obtain ⟨value, _, rfl, ⟨blank', written, rfl, blanks', form⟩, meant⟩ :=
    (reads_readNode depth).sound ran
  have placed : Placed value (blank ++ blank' ++ written) :=
    ⟨blank ++ blank', written, rfl, allBlank_append_iff.2 ⟨blanks, blanks'⟩, form⟩
  have complete := readNode_complete placed meant (rest ++ more)
  simpa using complete

end Padding

section Texts

variable {text : String} {tree : Tree} (parsed : Tree.parse text = .ok tree)

include parsed

/-- Blanks around a tree change nothing. -/
lemma Tree.parse_padded {before after : String} (blanks : AllBlank before.toList)
    (blanks' : AllBlank after.toList) : Tree.parse (before ++ text ++ after) = .ok tree := by
  obtain ⟨rest, ran, blank⟩ := readAll_eq_ok_iff.1 parsed
  refine readAll_eq_ok_iff.2 ⟨rest ++ after.toList, ?_, allBlank_append_iff.2 ⟨blank, blanks'⟩⟩
  rw [String.toList_append, String.toList_append]
  exact readNode_padded ran blanks after.toList

/-- What stands behind a tree is refused, if it is not blank. -/
lemma Tree.parse_trailing {more : String} (full : ¬AllBlank more.toList) :
    Tree.parse (text ++ more) = .error .trailingCharacters := by
  obtain ⟨rest, ran, -⟩ := readAll_eq_ok_iff.1 parsed
  have ran' : (readNode depthLimit).run (text ++ more).toList =
      .ok (tree, rest ++ more.toList) := by
    rw [String.toList_append]
    exact readNode_padded ran allBlank_nil more.toList
  exact readAll_of_more ran' fun blanks => full (allBlank_append_iff.1 blanks).2

/-- The front of a tree ends too early, unless a number is cut apart. -/
lemma Tree.parse_front {front back : String} (cut : text = front ++ back)
    (full : ¬AllBlank back.toList) :
    ∃ cause, Tree.parse front = .error cause ∧
      (cause.isEnd = true ∨ CutsNumber front.toList back.toList) := by
  subst cut
  obtain ⟨rest, ran, blank⟩ := readAll_eq_ok_iff.1 parsed
  rw [String.toList_append] at ran
  cases cutsOff_readNode depthLimit front.toList back.toList tree rest ran with
  | behind _ _ after =>
    subst after
    exact (full (allBlank_append_iff.1 blank).2).elim
  | early ends =>
    obtain ⟨cause, refused, ends⟩ := ends
    exact ⟨cause, readAll_of_error refused, .inl ends⟩
  | number cuts =>
    cases read : Tree.parse front with
    | error cause => exact ⟨cause, rfl, .inr cuts⟩
    -- A number is not cut apart behind a whole tree, as what follows would have been refused.
    | ok tree' => cases (Tree.parse_trailing read full).symm.trans parsed

/-- A text that holds a tree cannot be cut or padded unnoticed. Without its end, unless that is
blank, it is refused for ending too early, or a number has been cut apart; blanks around it change
nothing; and whatever else stands behind it is refused. -/
theorem Tree.parse_of_cut_or_padded :
    (∀ front back : String, text = front ++ back → ¬AllBlank back.toList →
      ∃ cause, Tree.parse front = .error cause ∧
        (cause.message ∈ ["EOF while parsing a value", "EOF while parsing a list",
          "EOF while parsing an object", "EOF while parsing a string"] ∨
            CutsNumber front.toList back.toList)) ∧
      (∀ before after : String, AllBlank before.toList → AllBlank after.toList →
        Tree.parse (before ++ text ++ after) = .ok tree) ∧
      ∀ more : String, ¬AllBlank more.toList →
        ∃ cause, Tree.parse (text ++ more) = .error cause ∧
          cause.message = "trailing characters" := by
  refine ⟨fun front back cut full => ?_, fun before after blanks blanks' => ?_, fun more full => ?_⟩
  · obtain ⟨cause, refused, ends | cuts⟩ := Tree.parse_front parsed cut full
    · exact ⟨cause, refused, .inl (Cause.message_of_isEnd ends)⟩
    · exact ⟨cause, refused, .inr cuts⟩
  · exact Tree.parse_padded parsed blanks blanks'
  · exact ⟨_, Tree.parse_trailing parsed full, rfl⟩

omit parsed

/-- A section that is cut behind a colon, padded, and closed twice. -/
theorem Tree.parse_section_cut_or_padded :
    ∃ tree, Tree.parse "\x7b\"level\": 12\x7d" = .ok tree ∧ tree.fields.level = some 12 ∧
      (∃ cause, Tree.parse "\x7b\"level\":" = .error cause ∧
        cause.message ∈ ["EOF while parsing a value", "EOF while parsing a list",
          "EOF while parsing an object", "EOF while parsing a string"]) ∧
      Tree.parse ("\n" ++ "\x7b\"level\": 12\x7d" ++ " \t") = .ok tree ∧
      ∃ cause, Tree.parse ("\x7b\"level\": 12\x7d" ++ " \x7d") = .error cause ∧
        cause.message = "trailing characters" := by
  have level : (Tree.parse "\x7b\"level\": 12\x7d").toOption.map (·.fields.level) =
      some (some 12) := by
    decide +kernel
  cases parsed : Tree.parse "\x7b\"level\": 12\x7d" with
  | error cause =>
    rw [parsed] at level
    cases level
  | ok tree =>
    rw [parsed] at level
    obtain ⟨front, padded, trailing⟩ := Tree.parse_of_cut_or_padded parsed
    refine ⟨tree, rfl, Option.some_inj.1 level, ?_, padded "\n" " \t" (by decide) (by decide),
      trailing " \x7d" (by decide)⟩
    obtain ⟨cause, refused, early | cuts⟩ := front "\x7b\"level\":" " 12\x7d" rfl (by decide)
    · exact ⟨cause, refused, early⟩
    · obtain ⟨-, c, first, number⟩ := cuts.between
      obtain rfl : ' ' = c := Option.some_inj.1 first
      exact absurd number (by decide)

/-- A number that nobody asks for does not end too early if it is cut apart: it is broken. -/
example :
    (match Tree.parse "\x7b\"x\": 1." with
      | .error cause => cause.message
      | .ok _ => "") = "invalid number" := by
  decide +kernel

end Texts

end Typeset
