import Mathlib.Data.List.Basic
import Mathlib.Data.List.Forall2
import Mathlib.Tactic.Lemma
import Mathlib.Tactic.SplitIfs
import Typeset.Config

/-!
# Joining paths

Paths that are seen from a base, and from a base of that base. Joining puts a slash behind the base
where one is needed. Whether one is needed behind a joined path, and whether the path is absolute, is
already decided before it is joined. So joining is associative, and paths may be moved from base to
base in one step or in several.
-/

namespace Typeset

namespace Path

/-- The slash that joining puts behind a base, if the base needs one. -/
def slashBehind (base : String) : String :=
  if base.isEmpty || base.toList.getLast? == some '/' then "" else "/"

variable {base path : String}

/-- An absolute path is kept. -/
lemma join_of_isAbsolute (absolute : isAbsolute path = true) (base : String) :
    join base path = path := by
  rw [join, if_pos absolute]

/-- A relative path is put behind the base and the slash that the base needs. -/
lemma join_of_not_isAbsolute (relative : isAbsolute path = false) (base : String) :
    join base path = base ++ slashBehind base ++ path := by
  rw [join, relative, if_neg Bool.false_ne_true, slashBehind]
  split_ifs
  · rw [String.append_empty]
  · rfl

/-- A base needs one slash or none. -/
lemma slashBehind_cases (base : String) : slashBehind base = "" ∨ slashBehind base = "/" := by
  unfold slashBehind
  split_ifs
  · exact .inl rfl
  · exact .inr rfl

/-- Whether a slash is needed depends on the end of a path. -/
lemma slashBehind_append (full : path ≠ "") (front : String) :
    slashBehind (front ++ path) = slashBehind path := by
  have last : (front ++ path).toList.getLast? = path.toList.getLast? := by
    rw [String.toList_append, List.getLast?_append_of_ne_nil]
    rwa [Ne, String.toList_eq_nil_iff]
  have full' : (front ++ path).isEmpty = path.isEmpty := by
    rw [String.isEmpty_eq_false_iff.2 full, String.isEmpty_eq_false_iff, Ne,
      String.append_eq_empty_iff]
    exact fun empty => full empty.2
  rw [slashBehind, slashBehind, last, full']

/-- A slash that has been put behind a base is not put there again. -/
lemma slashBehind_slashBehind (base : String) : slashBehind (base ++ slashBehind base) = "" := by
  obtain none | one := slashBehind_cases base
  · rw [none, String.append_empty, none]
  · rw [one, slashBehind_append (by decide)]
    decide

/-- Behind a relative path that has been joined a slash is needed if it was before. -/
lemma slashBehind_join (relative : isAbsolute path = false) (base : String) :
    slashBehind (join base path) = slashBehind path := by
  rw [join_of_not_isAbsolute relative]
  by_cases empty : path = ""
  · rw [empty, String.append_empty, slashBehind_slashBehind]
    decide
  · exact slashBehind_append empty _

/-- Whether a path is absolute depends on its start. -/
lemma isAbsolute_append (full : base ≠ "") (back : String) :
    isAbsolute (base ++ back) = isAbsolute base := by
  have first : (base ++ back).toList.head? = base.toList.head? := by
    rw [String.toList_append, List.head?_append_of_ne_nil]
    rwa [Ne, String.toList_eq_nil_iff]
  rw [isAbsolute, isAbsolute, first]

/-- A relative path that is joined to a base is as absolute as the base. -/
lemma isAbsolute_join (relative : isAbsolute path = false) (base : String) :
    isAbsolute (join base path) = isAbsolute base := by
  rw [join_of_not_isAbsolute relative]
  by_cases empty : base = ""
  · have bare : slashBehind "" = "" := by decide
    have rootless : isAbsolute "" = false := by decide
    rw [empty, bare, String.append_empty, String.empty_append, relative, rootless]
  · rw [String.append_assoc]
    exact isAbsolute_append empty _

/-- To see a path from a base, and that from another base, is to see it from the one base as seen from
the other. -/
theorem join_assoc (outer base path : String) :
    join outer (join base path) = join (join outer base) path := by
  cases absolute : isAbsolute path with
  | true => rw [join_of_isAbsolute absolute, join_of_isAbsolute absolute, join_of_isAbsolute absolute]
  | false =>
    cases rooted : isAbsolute base with
    | true =>
      have rooted' : isAbsolute (join base path) = true := (isAbsolute_join absolute base).trans rooted
      rw [join_of_isAbsolute rooted', join_of_isAbsolute rooted]
    | false =>
      have relative : isAbsolute (join base path) = false :=
        (isAbsolute_join absolute base).trans rooted
      calc join outer (join base path)
          = outer ++ slashBehind outer ++ (base ++ slashBehind base ++ path) := by
            rw [join_of_not_isAbsolute relative, join_of_not_isAbsolute absolute]
        _ = join outer base ++ slashBehind base ++ path := by
            simp only [join_of_not_isAbsolute rooted, String.append_assoc]
        _ = join (join outer base) path := by
            rw [join_of_not_isAbsolute absolute, slashBehind_join rooted]

end Path

namespace FragmentPaths

/-- The paths one by one. -/
def members (paths : FragmentPaths) : List (Option String) :=
  [paths.preamble, paths.macros, paths.userMacros]

/-- Paths that are changed twice are changed by the composition. -/
lemma map_map (f g : String → String) (paths : FragmentPaths) :
    (paths.map f).map g = paths.map (g ∘ f) := by
  simp only [map, Option.map_map]

/-- From a base each path that is set is seen as joined to it. -/
theorem members_relativeTo (base : String) (paths : FragmentPaths) :
    (paths.relativeTo base).members = paths.members.map (Option.map (Path.join base)) :=
  rfl

/-- Paths may be moved from base to base in one step or in several: what is seen from a base, and
then from another, is seen from the one base as joined to the other. No base sets a path that is not
set or changes one that is absolute, and an absolute base does not apply twice. -/
theorem relativeTo_composes (paths : FragmentPaths) (first second : String) :
    (paths.relativeTo first).relativeTo second = paths.relativeTo (Path.join second first) ∧
      (∀ base, List.Forall₂
        (fun path seen => (path = none → seen = none) ∧
          ∀ text, path = some text → text.toList.head? = some '/' → seen = some text)
        paths.members (paths.relativeTo base).members) ∧
      (first.toList.head? = some '/' →
        (paths.relativeTo first).relativeTo first = paths.relativeTo first) := by
  have composes (first second : String) : (paths.relativeTo first).relativeTo second =
      paths.relativeTo (Path.join second first) := by
    have joined : Path.join second ∘ Path.join first = Path.join (Path.join second first) :=
      funext (Path.join_assoc second first)
    rw [relativeTo, relativeTo, map_map, joined, relativeTo]
  have absolute {text : String} (rooted : text.toList.head? = some '/') :
      Path.isAbsolute text = true := by
    rw [Path.isAbsolute, rooted, beq_self_eq_true]
  refine ⟨composes first second, fun base => ?_, fun rooted => ?_⟩
  · rw [members_relativeTo, List.forall₂_map_right_iff, List.forall₂_same]
    refine fun path _ => ⟨fun unset => ?_, fun text set rooted => ?_⟩
    · rw [unset, Option.map_none]
    · rw [set, Option.map_some, Path.join_of_isAbsolute (absolute rooted)]
  · rw [composes, Path.join_of_isAbsolute (absolute rooted)]

/-- A base without a name, and one that ends in a slash. -/
example :
    let paths : FragmentPaths := ⟨some "", some "a.tex", some "/b.tex"⟩
    (paths.relativeTo "").relativeTo "c" = ⟨some "c/", some "c/a.tex", some "/b.tex"⟩ ∧
      (paths.relativeTo "d/").relativeTo "c" = ⟨some "c/d/", some "c/d/a.tex", some "/b.tex"⟩ := by
  decide

end FragmentPaths

end Typeset
