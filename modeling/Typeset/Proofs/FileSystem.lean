import Mathlib.Tactic.Lemma
import Typeset.FileSystem

/-!
# Reading and writing files

A file that is written stands at the place that its path leads to, and everything else stands where
it stood. Since a path only leads through folders and no folder is written over, the path still
leads to the same place afterwards, so the text that was written is read back.
-/

namespace Typeset.FileSystem

variable {files written : FileSystem} {place start : List String} {path text : String}

/-- The root is a folder. -/
lemma node?_nil : files.node? [] = some .folder :=
  rfl

/-- What is put at a place is found there. -/
lemma node?_put_self {node : FileNode} (below : place ≠ []) :
    (files.put place node).node? place = some node := by
  rw [node?, if_neg (by rwa [List.isEmpty_iff]), put, List.lookup_cons_self]

/-- What is at other places stays as it was. -/
lemma node?_put_of_ne {node : FileNode} {other : List String} (elsewhere : other ≠ place) :
    (files.put place node).node? other = files.node? other := by
  have differ : (other == place) = false := by
    rwa [beq_eq_false_iff_ne]
  rw [node?, node?, put, List.lookup_cons, differ]

/-- Where no folder stands no path leads through, so a file that is put there does not change where
paths lead. -/
lemma walk_put {bytes : ByteArray} (free : files.node? place ≠ some .folder) {names : List String}
    {target : List String} (walked : files.walk start names = .ok target) :
    (files.put place (.file bytes)).walk start names = .ok target := by
  induction names generalizing start with
  | nil => exact walked
  | cons name names ih =>
    unfold walk at walked ⊢
    cases found : files.node? start with
    | none =>
      rw [found] at walked
      cases walked
    | some node =>
      have elsewhere : start ≠ place := by
        rintro rfl
        cases node with
        | file bytes =>
          rw [found] at walked
          cases walked
        | folder => exact free found
      rw [node?_put_of_ne elsewhere, found]
      rw [found] at walked
      cases node with
      | file bytes => cases walked
      | folder =>
        dsimp only at walked ⊢
        by_cases here : name = "."
        · rw [if_pos here] at walked ⊢
          exact ih walked
        · rw [if_neg here] at walked ⊢
          by_cases up : name = ".."
          · rw [if_pos up] at walked ⊢
            exact ih walked
          · rw [if_neg up] at walked ⊢
            exact ih walked

/-- A path resolves as before when a file is put where no folder is. -/
lemma resolve_put {bytes : ByteArray} (free : files.node? place ≠ some .folder)
    {target : List String} (resolved : files.resolve path = .ok target) :
    (files.put place (.file bytes)).resolve path = .ok target := by
  unfold resolve at resolved ⊢
  by_cases empty : path.isEmpty = true
  · rw [if_pos empty] at resolved
    cases resolved
  · rw [if_neg empty] at resolved ⊢
    exact walk_put free resolved

/-- A path that leads to a file is read from there. -/
lemma read_of_resolve {bytes : ByteArray} (resolved : files.resolve path = .ok place)
    (found : files.node? place = some (.file bytes)) (plain : asksFolder path = false) :
    files.read path =
      match String.fromUTF8? bytes with
      | some text => .ok text
      | none => .error .notText := by
  rw [read, resolved]
  dsimp only [bind, Except.bind]
  rw [found, plain]
  rfl

/-- Nothing but the file at a path has changed, which holds a text. -/
structure Replaces (files : FileSystem) (path text : String) (written : FileSystem) : Prop where
  replaced : ∃ place, files.resolve path = .ok place ∧
    written.node? place = some (.file text.toUTF8) ∧
    ∀ other, other ≠ place → written.node? other = files.node? other
  home : written.home = files.home
  readBack : written.read path = .ok text

/-- A file that could be written stands at the place of its path, and nothing else has changed. -/
theorem replaces_of_write (succeeded : files.write path text = .ok written) :
    files.Replaces path text written := by
  unfold write at succeeded
  cases resolved : files.resolve path with
  | error error =>
    rw [resolved] at succeeded
    cases succeeded
  | ok place =>
    rw [resolved] at succeeded
    dsimp only [bind, Except.bind] at succeeded
    split at succeeded
    · cases succeeded
    · rename_i allowed
      cases succeeded
      obtain ⟨plain, noFolder⟩ : asksFolder path = false ∧ files.node? place ≠ some .folder := by
        rw [Bool.or_eq_true, not_or, Bool.not_eq_true] at allowed
        refine ⟨allowed.1, fun folder => allowed.2 ?_⟩
        rw [folder]
        rfl
      have below : place ≠ [] := by
        rintro rfl
        exact noFolder node?_nil
      have stands : (files.put place (.file text.toUTF8)).node? place = some (.file text.toUTF8) :=
        node?_put_self below
      refine ⟨⟨place, resolved, stands, fun other => node?_put_of_ne⟩, rfl, ?_⟩
      have decoded : String.fromUTF8? text.toUTF8 = some text := by
        unfold String.fromUTF8?
        rw [String.toUTF8_eq_toByteArray, dif_pos text.isValidUTF8]
        rfl
      rw [read_of_resolve (resolve_put noFolder resolved) stands plain, decoded]

end Typeset.FileSystem
