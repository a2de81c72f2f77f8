import Mathlib.Logic.Basic
import Mathlib.Tactic.Lemma
import Typeset.Config

/-!
# What a table describes

A table sets a value by the item under its name, and a value without an item keeps its default.
Which items mean a value depends on the value alone: truth values and paths have one form, and the
paths of the fragments and the roles have several. A table is read as a configuration exactly if it
sets each value of it, and refused exactly if an item under one of the four names means nothing
there. The items under other names do not matter.
-/

namespace Typeset.Config

open Toml (Item Entries)

section Settings

variable {α : Type} {entries : Entries} {name : String} {blank value : α} {means : Item → α → Prop}
  {item : Item}

/-- What a table sets a value to: what the item under its name means, or the default if there is no
item. -/
inductive Sets (entries : Entries) (name : String) (blank : α) (means : Item → α → Prop) :
    α → Prop where
  | absent (missing : entries.lookup name = none) : Sets entries name blank means blank
  | present {item : Item} {value : α} (found : entries.lookup name = some item)
      (meant : means item value) : Sets entries name blank means value

/-- The item under a name means nothing that may stand there. -/
def Refuses (entries : Entries) (name : String) (means : Item → α → Prop) : Prop :=
  ∃ item, entries.lookup name = some item ∧ ∀ value, ¬means item value

/-- Without an item only the default is set. -/
lemma sets_of_lookup_eq_none (missing : entries.lookup name = none) :
    Sets entries name blank means value ↔ blank = value := by
  refine ⟨fun sets => ?_, fun same => same ▸ .absent missing⟩
  cases sets with
  | absent => rfl
  | present found => cases missing.symm.trans found

/-- An item sets what it means. -/
lemma sets_of_lookup_eq_some (found : entries.lookup name = some item) :
    Sets entries name blank means value ↔ means item value := by
  refine ⟨fun sets => ?_, .present found⟩
  cases sets with
  | absent missing => cases missing.symm.trans found
  | present found' meant =>
    cases found.symm.trans found'
    exact meant

/-- A table that sets a value to nothing refuses the item under its name. -/
lemma not_exists_sets_iff :
    (¬∃ value, Sets entries name blank means value) ↔ Refuses entries name means := by
  unfold Refuses
  cases found : entries.lookup name with
  | none => simp [sets_of_lookup_eq_none found]
  | some item => simp [sets_of_lookup_eq_some found]

end Settings

/-- A truth value. -/
inductive MeansFlag : Item → Bool → Prop where
  | boolean (value : Bool) : MeansFlag (.boolean value) value

/-- A text is a path that is set. -/
inductive MeansPath : Item → Option String → Prop where
  | text (path : String) : MeansPath (.text path) (some path)

/-- The paths of the fragments: a table that may set each of them, or an array that has all of them
at its front. A moment sets none. -/
inductive MeansPaths : Item → FragmentPaths → Prop where
  | table {origin : Toml.Origin} {entries : Entries} {paths : FragmentPaths}
      (preamble : Sets entries "preamble" none MeansPath paths.preamble)
      (macros : Sets entries "macros" none MeansPath paths.macros)
      (userMacros : Sets entries "user_macros" none MeansPath paths.userMacros) :
      MeansPaths (.table origin entries) paths
  | array (preamble macros userMacros : String) (rest : List Item) :
      MeansPaths (.array (.text preamble :: .text macros :: .text userMacros :: rest))
        ⟨some preamble, some macros, some userMacros⟩
  | moment (text : String) : MeansPaths (.moment text) .unset

/-- The roles: a table of texts, or a moment as the text under a name of its own. -/
inductive MeansRoles : Item → Dictionary → Prop where
  | table (origin : Toml.Origin) (texts : List (String × String)) :
      MeansRoles (.table origin (texts.map (Prod.map id .text))) (.ofList texts)
  | moment (text : String) : MeansRoles (.moment text) (.ofList [(momentName, text)])

/-- A table describes a configuration: it sets each value of it. -/
structure Describes (entries : Entries) (config : Config) : Prop where
  verbose : Sets entries "verbose" false MeansFlag config.verbosity.verbose
  quiet : Sets entries "quiet" false MeansFlag config.verbosity.quiet
  fragments : Sets entries "fragments" .unset MeansPaths config.fragments
  roles : Sets entries "roles" .empty MeansRoles config.roles

variable {entries : Entries} {name : String}

/-- Truth values are read as the table sets them. -/
lemma flag?_eq_some_iff {value : Bool} :
    flag? entries name = some value ↔ Sets entries name false MeansFlag value := by
  unfold flag?
  cases found : entries.lookup name with
  | none => rw [sets_of_lookup_eq_none found, Option.some_inj]
  | some item =>
    rw [sets_of_lookup_eq_some found]
    refine ⟨fun read => ?_, fun meant => ?_⟩
    · cases item <;> cases read
      exact .boolean value
    · cases meant
      rfl

/-- Paths are read as the table sets them. -/
lemma path?_eq_some_iff {path : Option String} :
    path? entries name = some path ↔ Sets entries name none MeansPath path := by
  unfold path?
  cases found : entries.lookup name with
  | none => rw [sets_of_lookup_eq_none found, Option.some_inj]
  | some item =>
    rw [sets_of_lookup_eq_some found]
    refine ⟨fun read => ?_, fun meant => ?_⟩
    · cases item <;> cases read
      exact .text _
    · cases meant
      rfl

/-- The paths of the fragments are read as the table sets them. -/
lemma fragmentPaths?_eq_some_iff {paths : FragmentPaths} :
    fragmentPaths? entries = some paths ↔ Sets entries "fragments" .unset MeansPaths paths := by
  unfold fragmentPaths?
  cases found : entries.lookup "fragments" with
  | none => rw [sets_of_lookup_eq_none found, Option.some_inj]
  | some item =>
    rw [sets_of_lookup_eq_some found]
    refine ⟨fun read => ?_, fun meant => ?_⟩
    · -- An array is read by the three texts at its front, whatever stands behind them.
      split at read <;> rename_i same <;> cases same
      · simp only [bind, pure, Option.bind_eq_some_iff, Option.some_inj] at read
        obtain ⟨preamble, first, macros, second, userMacros, third, rfl⟩ := read
        exact .table (path?_eq_some_iff.1 first) (path?_eq_some_iff.1 second)
          (path?_eq_some_iff.1 third)
      · cases read
        exact .array ..
      · cases read
        exact .moment _
      · cases read
    · cases meant with
      | table preamble macros userMacros =>
        simp only [path?_eq_some_iff.2 preamble, path?_eq_some_iff.2 macros,
          path?_eq_some_iff.2 userMacros, bind, pure, Option.bind_some]
      | array => rfl
      | moment => rfl

/-- The entries of a table are texts exactly if all its items are texts. -/
lemma texts?_eq_some_iff {texts : List (String × String)} :
    texts? entries = some texts ↔ entries = texts.map (Prod.map id .text) := by
  induction entries generalizing texts with
  | nil => cases texts <;> simp [texts?]
  | cons entry entries ih =>
    obtain ⟨name, item⟩ := entry
    refine ⟨fun read => ?_, fun same => ?_⟩
    · cases item with
      | text value =>
        obtain ⟨texts', read', rfl⟩ := Option.map_eq_some_iff.1 read
        rw [ih.1 read']
        rfl
      | _ => cases read
    · cases texts with
      | nil => cases same
      | cons text texts =>
        obtain ⟨first, rfl⟩ := List.cons.inj same
        cases first
        exact Option.map_eq_some_iff.2 ⟨texts, ih.2 rfl, rfl⟩

/-- The roles are read as the table sets them. -/
lemma roles?_eq_some_iff {roles : Dictionary} :
    roles? entries = some roles ↔ Sets entries "roles" .empty MeansRoles roles := by
  unfold roles?
  cases found : entries.lookup "roles" with
  | none => rw [sets_of_lookup_eq_none found, Option.some_inj]
  | some item =>
    rw [sets_of_lookup_eq_some found]
    refine ⟨fun read => ?_, fun meant => ?_⟩
    · cases item with
      | table origin roles' =>
        obtain ⟨texts, read', rfl⟩ := Option.map_eq_some_iff.1 read
        obtain rfl := texts?_eq_some_iff.1 read'
        exact .table origin texts
      | moment text =>
        cases read
        exact .moment text
      | _ => cases read
    · cases meant with
      | table origin texts =>
        exact Option.map_eq_some_iff.2 ⟨texts, texts?_eq_some_iff.2 rfl, rfl⟩
      | moment => rfl

/-- A table is read as the configuration that it describes. -/
theorem ofEntries?_eq_some_iff {config : Config} :
    ofEntries? entries = some config ↔ Describes entries config := by
  simp only [ofEntries?, bind, pure, Option.bind_eq_some_iff, Option.some_inj, flag?_eq_some_iff,
    fragmentPaths?_eq_some_iff, roles?_eq_some_iff]
  refine ⟨?_, fun described => ?_⟩
  · rintro ⟨verbose, first, quiet, second, fragments, third, roles, fourth, rfl⟩
    exact ⟨first, second, third, fourth⟩
  · exact ⟨_, described.verbose, _, described.quiet, _, described.fragments, _, described.roles,
      rfl⟩

/-- A table is refused exactly if an item under one of the four names means nothing there. -/
theorem ofEntries?_eq_none_iff :
    ofEntries? entries = none ↔
      Refuses entries "verbose" MeansFlag ∨ Refuses entries "quiet" MeansFlag ∨
        Refuses entries "fragments" MeansPaths ∨ Refuses entries "roles" MeansRoles := by
  -- The values are set one by one, so a configuration is missing only if a value is.
  have given : (∃ config, Describes entries config) ↔
      (∃ value, Sets entries "verbose" false MeansFlag value) ∧
        (∃ value, Sets entries "quiet" false MeansFlag value) ∧
          (∃ paths, Sets entries "fragments" .unset MeansPaths paths) ∧
            ∃ roles, Sets entries "roles" .empty MeansRoles roles := by
    refine ⟨fun ⟨config, described⟩ => ?_, ?_⟩
    · exact ⟨⟨_, described.verbose⟩, ⟨_, described.quiet⟩, ⟨_, described.fragments⟩,
        ⟨_, described.roles⟩⟩
    · rintro ⟨⟨verbose, first⟩, ⟨quiet, second⟩, ⟨fragments, third⟩, ⟨roles, fourth⟩⟩
      exact ⟨⟨⟨verbose, quiet⟩, fragments, roles⟩, first, second, third, fourth⟩
  have none_iff : ofEntries? entries = none ↔ ¬∃ config, Describes entries config := by
    simp only [Option.eq_none_iff_forall_ne_some, Ne, ofEntries?_eq_some_iff, not_exists]
  rw [none_iff, given, not_and_or, not_and_or, not_and_or, not_exists_sets_iff, not_exists_sets_iff,
    not_exists_sets_iff, not_exists_sets_iff]

/-- A configuration depends on the items under its four names only. -/
theorem ofEntries?_congr {entries' : Entries}
    (same : ∀ name ∈ ["verbose", "quiet", "fragments", "roles"],
      entries.lookup name = entries'.lookup name) :
    ofEntries? entries = ofEntries? entries' := by
  simp only [List.forall_mem_cons] at same
  obtain ⟨verbose, quiet, fragments, roles, -⟩ := same
  simp only [ofEntries?, flag?, fragmentPaths?, roles?, verbose, quiet, fragments, roles]

/-- A text describes a configuration exactly if it is a document whose table describes it. -/
theorem parse?_eq_some_iff {text : String} {config : Config} :
    parse? text = some config ↔
      ∃ entries, Toml.parse text = some entries ∧ Describes entries config := by
  simp only [parse?, Option.bind_eq_some_iff, ofEntries?_eq_some_iff]

/-- One value is set, and one name is not known. -/
example : ofEntries? [("colour", .number), ("quiet", .boolean true)] =
    some { default with verbosity := ⟨false, true⟩ } := by
  decide

end Typeset.Config
