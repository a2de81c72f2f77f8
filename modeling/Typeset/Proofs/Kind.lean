import Mathlib.Data.List.Basic
import Mathlib.Tactic.Lemma
import Typeset.Kind

/-!
# Names of kinds

For every type of kinds one table says which kind a name is read as, and another one which name a
kind is called by. They bear each other out: a kind that is read goes by the name it is read from,
and is read back from the name it is called by, with the colon of a symbol or without. A name is
kept as a kind of its own only if no kind with a template goes by it. All this follows, in the same
way for every type, from three facts about its tables.
-/

namespace Typeset

/-- A text stands for the name behind the colon that it begins with, or for itself without one. -/
def StandsFor (text bare : String) : Prop :=
  text = ":" ++ bare ∨ text = bare ∧ text.toList.head? ≠ some ':'

section Colon

variable {text bare : String}

/-- One colon in front of a name is dropped. -/
lemma bareName_colon (bare : String) : bareName (":" ++ bare) = bare := by
  have colon : (":" ++ bare).toList = ':' :: bare.toList := String.toList_append
  rw [bareName, colon]
  exact String.ofList_toList

/-- A name without a colon in front is bare. -/
lemma bareName_of_ne (plain : text.toList.head? ≠ some ':') : bareName text = text := by
  unfold bareName
  split
  · next rest eq =>
    rw [eq] at plain
    exact absurd rfl plain
  · rfl

/-- A name with a colon in front is the colon and its bare name. -/
lemma eq_colon_of_head? (marked : text.toList.head? = some ':') : text = ":" ++ bareName text := by
  obtain ⟨rest, eq⟩ := List.head?_eq_some_iff.1 marked
  have colon : text = ":" ++ String.ofList rest := by
    rw [← String.toList_inj, eq]
    simp
  rw [colon, bareName_colon]

/-- A name stands for its bare name. -/
lemma standsFor_bareName (text : String) : StandsFor text (bareName text) := by
  by_cases marked : text.toList.head? = some ':'
  · exact .inl (eq_colon_of_head? marked)
  · exact .inr ⟨(bareName_of_ne marked).symm, marked⟩

/-- A name stands for its bare name only. -/
lemma standsFor_iff : StandsFor text bare ↔ bareName text = bare := by
  constructor
  · rintro (rfl | ⟨rfl, plain⟩)
    · exact bareName_colon bare
    · exact bareName_of_ne plain
  · rintro rfl
    exact standsFor_bareName text

/-- A name that is marked twice is still marked after the first colon is gone. -/
lemma head?_bareName_iff :
    (bareName text).toList.head? = some ':' ↔ [':', ':'] <+: text.toList := by
  constructor
  · intro marked
    obtain eq | ⟨eq, plain⟩ := standsFor_bareName text
    · obtain ⟨rest, eq'⟩ := List.head?_eq_some_iff.1 marked
      rw [eq, String.toList_append, eq']
      exact List.prefix_append [':', ':'] rest
    · rw [← eq] at marked
      exact absurd marked plain
  · rintro ⟨rest, eq⟩
    rw [bareName, ← eq]
    exact congrArg List.head? (String.toList_ofList (l := ':' :: rest))

end Colon

section Tables

variable {Kind : Type} {ofBareName : String → Kind} {name : Kind → String}
  {aliases : Kind → List String} {other : String → Kind} {kind : Kind} {text bare : String}

/-- A kind goes by its canonical name and by its aliases. -/
def GoesBy (name : Kind → String) (aliases : Kind → List String) (kind : Kind) (bare : String) :
    Prop :=
  bare ∈ name kind :: aliases kind

/-- The tables of a type of kinds bear each other out. A kind that is kept under a name goes by no
other name, and the kind that is read goes by the name it is read from. A kind that goes by a name
is kept under it, or else is read from it; then the name does not begin with a colon. -/
structure Consistent (ofBareName : String → Kind) (name : Kind → String)
    (aliases : Kind → List String) (other : String → Kind) : Prop where
  eq_of_goesBy_other {text bare : String} : GoesBy name aliases (other bare) text → text = bare
  goesBy_ofBareName (bare : String) : GoesBy name aliases (ofBareName bare) bare
  eq_or_of_goesBy {kind : Kind} {bare : String} : GoesBy name aliases kind bare →
    kind = other bare ∨ kind = ofBareName bare ∧ bare.toList.head? ≠ some ':'

/-- Reading a name and giving the name of a kind agree on a text. The kind that is read goes by the
name that the text stands for. It is read back from its canonical name behind a colon, and from the
name alone unless the text begins with two colons. It is kept under a name if the text stands for
that name and no other kind goes by it, and only then. -/
structure NamesAgree (ofName : String → Kind) (name : Kind → String)
    (aliases : Kind → List String) (other : String → Kind) (text : String) : Prop where
  goesBy : ∃ bare, StandsFor text bare ∧ GoesBy name aliases (ofName text) bare
  ofName_name : ofName (name (ofName text)) = ofName text ↔ ¬[':', ':'] <+: text.toList
  ofName_symbol : ofName (":" ++ name (ofName text)) = ofName text
  eq_other_iff (bare : String) : ofName text = other bare ↔
    StandsFor text bare ∧ ∀ kind, GoesBy name aliases kind bare → kind = other bare

/-- A kind goes by its own name. -/
lemma goesBy_name (name : Kind → String) (aliases : Kind → List String) (kind : Kind) :
    GoesBy name aliases kind (name kind) :=
  List.mem_cons_self

namespace Consistent

variable (consistent : Consistent ofBareName name aliases other)

include consistent

/-- A name that is kept is the name of its kind. -/
lemma name_other (bare : String) : name (other bare) = bare :=
  consistent.eq_of_goesBy_other (goesBy_name name aliases (other bare))

/-- A name is kept if no other kind goes by it, and only then. -/
lemma ofBareName_eq_other_iff : ofBareName text = other bare ↔
    text = bare ∧ ∀ kind, GoesBy name aliases kind bare → kind = other bare := by
  constructor
  · intro unknown
    have goes := consistent.goesBy_ofBareName text
    rw [unknown] at goes
    obtain rfl := consistent.eq_of_goesBy_other goes
    refine ⟨rfl, fun kind goes => ?_⟩
    obtain rfl | ⟨rfl, -⟩ := consistent.eq_or_of_goesBy goes
    · rfl
    · exact unknown
  · rintro ⟨rfl, alone⟩
    exact alone _ (consistent.goesBy_ofBareName text)

/-- A name that begins with a colon is kept. -/
lemma ofBareName_of_head? (marked : bare.toList.head? = some ':') :
    ofBareName bare = other bare := by
  obtain unknown | ⟨-, plain⟩ := consistent.eq_or_of_goesBy (consistent.goesBy_ofBareName bare)
  · exact unknown
  · exact absurd marked plain

/-- The canonical name of a kind that is read is read as the same kind. -/
lemma ofBareName_name (bare : String) : ofBareName (name (ofBareName bare)) = ofBareName bare := by
  obtain unknown | ⟨same, -⟩ :=
    consistent.eq_or_of_goesBy (goesBy_name name aliases (ofBareName bare))
  · obtain ⟨eq, -⟩ := consistent.ofBareName_eq_other_iff.1 unknown
    rw [← eq]
  · exact same.symm

/-- The canonical name of a kind that is read from a name without a colon begins with no colon. -/
lemma head?_name_ne (plain : bare.toList.head? ≠ some ':') :
    (name (ofBareName bare)).toList.head? ≠ some ':' := by
  obtain unknown | ⟨-, plain'⟩ :=
    consistent.eq_or_of_goesBy (goesBy_name name aliases (ofBareName bare))
  · obtain ⟨eq, -⟩ := consistent.ofBareName_eq_other_iff.1 unknown
    rwa [← eq]
  · exact plain'

/-- A name that begins with a colon is not read again, as its colon then marks it as a symbol. -/
lemma ofBareName_bareName_ne (marked : bare.toList.head? = some ':') :
    ofBareName (bareName bare) ≠ other bare := by
  intro unknown
  obtain ⟨eq, -⟩ := consistent.ofBareName_eq_other_iff.1 unknown
  have longer := congrArg String.length (eq_colon_of_head? marked)
  rw [eq, String.length_append] at longer
  have one : ":".length = 1 := rfl
  omega

/-- The names of a consistent table agree on every text, with and without a colon. -/
lemma namesAgree (text : String) :
    NamesAgree (fun text => ofBareName (bareName text)) name aliases other text where
  goesBy := ⟨bareName text, standsFor_bareName text, consistent.goesBy_ofBareName (bareName text)⟩
  ofName_name := by
    rw [← head?_bareName_iff]
    constructor
    · intro back marked
      rw [consistent.ofBareName_of_head? marked, consistent.name_other] at back
      exact consistent.ofBareName_bareName_ne marked back
    · intro plain
      rw [bareName_of_ne (consistent.head?_name_ne plain), consistent.ofBareName_name]
  ofName_symbol := by
    rw [bareName_colon, consistent.ofBareName_name]
  eq_other_iff bare := by
    rw [consistent.ofBareName_eq_other_iff, standsFor_iff]

end Consistent

end Tables

namespace ListKind

/-- The names of a kind besides its canonical one. -/
def aliases : ListKind → List String
  | ordered => ["olist"]
  | unordered => ["ulist"]
  | other _ => []

/-- The tables of list kinds bear each other out. -/
lemma consistent : Consistent ofBareName name aliases other where
  eq_of_goesBy_other := List.mem_singleton.1
  goesBy_ofBareName bare := by
    unfold ofBareName
    split <;> simp [GoesBy, name, aliases]
  eq_or_of_goesBy {kind bare} goes := by
    cases kind with
    | other text => exact .inl (congrArg other (List.mem_singleton.1 goes).symm)
    -- A kind with a template goes by finitely many names, which are read one by one.
    | ordered | unordered =>
      revert bare
      unfold GoesBy
      decide

end ListKind

namespace BlockKind

/-- The names of a kind besides its canonical one. -/
def aliases : BlockKind → List String
  | literal => ["listing"]
  | _ => []

/-- The tables of block kinds bear each other out. -/
lemma consistent : Consistent ofBareName name aliases other where
  eq_of_goesBy_other := List.mem_singleton.1
  goesBy_ofBareName bare := by
    unfold ofBareName
    split <;> simp [GoesBy, name, aliases]
  eq_or_of_goesBy {kind bare} goes := by
    cases kind with
    | other text => exact .inl (congrArg other (List.mem_singleton.1 goes).symm)
    | paragraph | stem | admonition | pageBreak | literal | pass =>
      revert bare
      unfold GoesBy
      decide

end BlockKind

namespace QuotedKind

/-- The names of a kind besides its canonical one. -/
def aliases : QuotedKind → List String
  | math => ["asciimath", "latexmath"]
  | monospace => ["monospaced"]
  | plain => ["unquoted"]
  | _ => []

/-- The tables of quoted kinds bear each other out. -/
lemma consistent : Consistent ofBareName name aliases other where
  eq_of_goesBy_other := List.mem_singleton.1
  goesBy_ofBareName bare := by
    unfold ofBareName
    split <;> simp [GoesBy, name, aliases]
  eq_or_of_goesBy {kind bare} goes := by
    cases kind with
    | other text => exact .inl (congrArg other (List.mem_singleton.1 goes).symm)
    | strong | emphasis | math | monospace | plain =>
      revert bare
      unfold GoesBy
      decide

end QuotedKind

namespace AnchorKind

/-- The names of a kind besides its canonical one. -/
def aliases : AnchorKind → List String
  | label => ["ref"]
  | crossReference => ["xref"]
  | _ => []

/-- The tables of anchor kinds bear each other out. -/
lemma consistent : Consistent ofBareName name aliases other where
  eq_of_goesBy_other := List.mem_singleton.1
  goesBy_ofBareName bare := by
    unfold ofBareName
    split <;> simp [GoesBy, name, aliases]
  eq_or_of_goesBy {kind bare} goes := by
    cases kind with
    | other text => exact .inl (congrArg other (List.mem_singleton.1 goes).symm)
    | link | label | crossReference =>
      revert bare
      unfold GoesBy
      decide

end AnchorKind

/-- Reading names and giving them agree on every text: for lists, for blocks, for quoted spans and
for anchors. -/
theorem kind_names_agree (text : String) :
    NamesAgree ListKind.ofName ListKind.name ListKind.aliases ListKind.other text ∧
      NamesAgree BlockKind.ofName BlockKind.name BlockKind.aliases BlockKind.other text ∧
      NamesAgree QuotedKind.ofName QuotedKind.name QuotedKind.aliases QuotedKind.other text ∧
      NamesAgree AnchorKind.ofName AnchorKind.name AnchorKind.aliases AnchorKind.other text :=
  ⟨ListKind.consistent.namesAgree text, BlockKind.consistent.namesAgree text,
    QuotedKind.consistent.namesAgree text, AnchorKind.consistent.namesAgree text⟩

/-- A second colon is part of the name, but marks that name when it is read again. -/
example : BlockKind.ofName "::pass" = .other ":pass" ∧ BlockKind.ofName ":pass" = .pass := by
  decide

end Typeset
