import Typeset.Proofs.DisplayMath.Declaration
import Typeset.Proofs.DisplayMath.Scan

/-!
# Searching for the first declaration

A declaration is said here by byte positions: at one of them the text reads `\begin{`, a name on one
line, and `}`. The environment of a text is what the first position declares. `seek?` looks for it
from one `\begin{` to the next, each time in a slice of what is left; that it always finds the same
shows that it comes to an end and that all of its slices exist.

The induction is on what is left of the text. No declaration starts in what is done, and the next one
starts where what is left does, or behind its first character.
-/

namespace Typeset.DisplayMath

open String (utf8Len)

/-- The text declares an environment at a byte position, in full and on one line. -/
structure DeclaresAt (text : String) (position : Nat) (name : String) : Prop where
  reads : ∃ stop, slice? text position stop = some ("\\begin\x7b" ++ name ++ "\x7d")
  unclosed : '\x7d' ∉ name.toList
  oneLine : '\n' ∉ name.toList

/-- The first declaration of a text from a byte position on. -/
structure IsFirst (text : String) (start position : Nat) (name : String) : Prop where
  behind : start ≤ position
  declares : DeclaresAt text position name
  first : ∀ earlier, start ≤ earlier → earlier < position → ∀ other,
    ¬ DeclaresAt text earlier other

section Declared

variable {text rest name : List Char}

/-- What is behind a lead is found behind it. -/
lemma after?_self (lead rest : List Char) : after? lead (lead ++ rest) = some rest := by
  induction lead with
  | nil => rfl
  | cons l lead ih => rw [List.cons_append, after?, if_pos rfl, ih]

/-- A name ends at the first closing brace, and no line ends before. -/
lemma name?_eq_some_iff :
    name? text = some name ↔ (∃ rest, text = name ++ '\x7d' :: rest) ∧ '\x7d' ∉ name ∧ '\n' ∉ name := by
  fun_induction name? text generalizing name with
  | case1 => simp
  | case2 text =>
    constructor
    · rintro ⟨⟩
      exact ⟨⟨text, rfl⟩, List.not_mem_nil, List.not_mem_nil⟩
    · rintro ⟨⟨rest, eq⟩, unclosed, -⟩
      cases name with
      | nil => rfl
      | cons d name =>
        obtain ⟨rfl, -⟩ := List.cons.inj eq
        exact absurd List.mem_cons_self unclosed
  | case3 text _ =>
    constructor
    · rintro ⟨⟩
    · rintro ⟨⟨rest, eq⟩, -, oneLine⟩
      cases name with
      | nil => cases eq
      | cons d name =>
        obtain ⟨rfl, -⟩ := List.cons.inj eq
        exact absurd List.mem_cons_self oneLine
  | case4 c text brace line ih =>
    rw [Option.map_eq_some_iff]
    constructor
    · rintro ⟨later, found, rfl⟩
      obtain ⟨⟨rest, rfl⟩, unclosed, oneLine⟩ := ih.1 found
      exact ⟨⟨rest, rfl⟩, List.not_mem_cons_of_ne_of_not_mem (Ne.symm brace) unclosed,
        List.not_mem_cons_of_ne_of_not_mem (Ne.symm line) oneLine⟩
    · rintro ⟨⟨rest, eq⟩, unclosed, oneLine⟩
      cases name with
      | nil => exact absurd (List.cons.inj eq).1 brace
      | cons d name =>
        obtain ⟨rfl, rfl⟩ := List.cons.inj eq
        refine ⟨name, ih.2 ⟨⟨rest, rfl⟩, ?_, ?_⟩, rfl⟩
        · exact List.not_mem_of_not_mem_cons unclosed
        · exact List.not_mem_of_not_mem_cons oneLine

/-- A text declares a name at its start if the opening stands there, the name behind it, and then
the nearest brace, all on one line. -/
lemma declaredHere?_eq_some_iff :
    declaredHere? text = some name ↔
      (∃ rest, text = opening ++ (name ++ '\x7d' :: rest)) ∧ '\x7d' ∉ name ∧ '\n' ∉ name := by
  rw [declaredHere?, Option.bind_eq_some_iff]
  constructor
  · rintro ⟨behind, opened, named⟩
    obtain ⟨⟨rest, rfl⟩, plain⟩ := name?_eq_some_iff.1 named
    exact ⟨⟨rest, eq_of_after? opened⟩, plain⟩
  · rintro ⟨⟨rest, rfl⟩, plain⟩
    exact ⟨_, after?_self _ _, name?_eq_some_iff.2 ⟨⟨rest, rfl⟩, plain⟩⟩

end Declared

section Positions

variable {text name : String} {done rest : List Char} {position : Nat}

/-- What a text declares where a part of it ends is what the rest declares at its front. -/
lemma declaresAt_iff (split : text.toList = done ++ rest) :
    DeclaresAt text (utf8Len done) name ↔ declaredHere? rest = some name.toList := by
  have written : ("\\begin\x7b" ++ name ++ "\x7d").toList = opening ++ (name.toList ++ ['\x7d']) := by
    rw [String.toList_append, String.toList_append, List.append_assoc]
    rfl
  rw [declaredHere?_eq_some_iff]
  constructor
  · rintro ⟨⟨stop, found⟩, unclosed, oneLine⟩
    obtain ⟨after, eq, -⟩ := (slice?_at split).1 found
    exact ⟨⟨after, by simpa [written] using eq⟩, unclosed, oneLine⟩
  · rintro ⟨⟨after, eq⟩, unclosed, oneLine⟩
    exact ⟨⟨_, (slice?_at split).2 ⟨after, by simpa [written] using eq, rfl⟩⟩, unclosed, oneLine⟩

/-- A declaration starts where a character does. -/
lemma DeclaresAt.exists_split (declares : DeclaresAt text position name) :
    ∃ done rest, text.toList = done ++ rest ∧ position = utf8Len done := by
  obtain ⟨⟨stop, found⟩, -⟩ := declares
  obtain ⟨before, after, eq, start, -⟩ := slice?_eq_some_iff.1 found
  exact ⟨before, _, eq.trans (List.append_assoc ..), start⟩

/-- No declaration stands behind the end of a text. -/
lemma DeclaresAt.lt_utf8Len (declares : DeclaresAt text position name) :
    position < utf8Len text.toList := by
  obtain ⟨done, rest, split, rfl⟩ := declares.exists_split
  obtain ⟨⟨after, rfl⟩, -⟩ := declaredHere?_eq_some_iff.1 ((declaresAt_iff split).1 declares)
  have size : utf8Len opening = 7 := rfl
  simp only [split, String.utf8Len_append, size]
  omega

/-- Behind a place the next declaration starts there, or behind the next character. -/
lemma DeclaresAt.eq_or_le {c : Char} (declares : DeclaresAt text position name)
    (split : text.toList = done ++ c :: rest) (behind : utf8Len done ≤ position) :
    position = utf8Len done ∨ utf8Len (done ++ [c]) ≤ position := by
  obtain ⟨before, after, eq, rfl⟩ := declares.exists_split
  obtain ⟨between, rfl⟩ := prefix_of_utf8Len_le (split.symm.trans eq) behind
  cases between with
  | nil => exact .inl (by rw [List.append_nil])
  | cons d between =>
    have same : c :: rest = d :: (between ++ after) := by
      rw [split, List.append_assoc, List.append_cancel_left_eq] at eq
      exact eq
    obtain ⟨rfl, -⟩ := List.cons.inj same
    refine .inr ?_
    simp only [String.utf8Len_append, String.utf8Len_cons, String.utf8Len_nil]
    omega

/-- Where nothing is declared right here, the first declaration is the first one behind the next
character. -/
lemma isFirst_concat_iff {c : Char} (split : text.toList = done ++ c :: rest)
    (fails : declaredHere? (c :: rest) = none) :
    IsFirst text (utf8Len (done ++ [c])) position name ↔
      IsFirst text (utf8Len done) position name := by
  have passed {place : Nat} {other : String} (behind : utf8Len done ≤ place)
      (declares : DeclaresAt text place other) : utf8Len (done ++ [c]) ≤ place := by
    obtain rfl | later := declares.eq_or_le split behind
    · rw [declaresAt_iff split, fails] at declares
      cases declares
    · exact later
  have near : utf8Len done ≤ utf8Len (done ++ [c]) := by
    rw [String.utf8Len_append]
    exact Nat.le_add_right ..
  constructor
  · rintro ⟨behind, declares, first⟩
    refine ⟨near.trans behind, declares, fun earlier start before other here => ?_⟩
    exact first earlier (passed start here) before other here
  · rintro ⟨behind, declares, first⟩
    refine ⟨passed behind declares, declares, fun earlier start before other here => ?_⟩
    exact first earlier (near.trans start) before other here

/-- What is left of a text declares what is declared first from there on. -/
lemma declared?_eq_some_iff (split : text.toList = done ++ rest) :
    declared? rest = some name.toList ↔ ∃ position, IsFirst text (utf8Len done) position name := by
  induction rest generalizing done with
  | nil =>
    refine iff_of_false (by simp [declared?]) ?_
    rintro ⟨position, behind, declares, -⟩
    have before := declares.lt_utf8Len
    rw [split, List.append_nil] at before
    omega
  | cons c rest ih =>
    rw [declared?]
    split
    · next found here =>
      have declares : DeclaresAt text (utf8Len done) (String.ofList found) := by
        rw [declaresAt_iff split, here, String.toList_ofList]
      constructor
      · rintro ⟨⟩
        rw [String.ofList_toList] at declares
        exact ⟨_, le_rfl, declares, fun earlier start before => by omega⟩
      · rintro ⟨position, behind, declares', first⟩
        obtain rfl | before := behind.eq_or_lt
        · rw [← here]
          exact (declaresAt_iff split).1 declares'
        · exact absurd declares (first _ le_rfl before _)
    · next fails =>
      have split' : text.toList = (done ++ [c]) ++ rest := by simp [split]
      rw [ih split']
      exact exists_congr fun position => isFirst_concat_iff split fails

/-- Where something is declared, something is declared first. -/
lemma DeclaresAt.exists_isFirst (declares : DeclaresAt text position name) :
    ∃ position name, IsFirst text 0 position name := by
  induction position using Nat.strong_induction_on generalizing name with
  | _ position ih =>
    by_cases later : ∃ earlier < position, ∃ other, DeclaresAt text earlier other
    · obtain ⟨earlier, before, other, declares'⟩ := later
      exact ih earlier before declares'
    · refine ⟨position, name, Nat.zero_le _, declares, fun earlier _ before other here => ?_⟩
      exact later ⟨earlier, before, other, here⟩

end Positions

/-- The byte position of the first `\begin{` of a text. -/
def openingAt? : List Char → Option Nat
  | [] => none
  | c :: text =>
    if (after? opening (c :: text)).isSome then some 0
    else (openingAt? text).map (c.utf8Size + ·)

/-- Nothing is declared in front of the first `\begin{`. -/
lemma openingAt?_eq_some {text : List Char} {position : Nat}
    (found : openingAt? text = some position) :
    ∃ before rest, text = before ++ (opening ++ rest) ∧ position = utf8Len before ∧
      declared? text = declared? (opening ++ rest) := by
  fun_induction openingAt? text generalizing position with
  | case1 => cases found
  | case2 c text opened =>
    cases found
    obtain ⟨rest, opened⟩ := Option.isSome_iff_exists.1 opened
    have eq := eq_of_after? opened
    exact ⟨[], rest, eq, rfl, by rw [eq]⟩
  | case3 c text unopened ih =>
    obtain ⟨later, inner, rfl⟩ := Option.map_eq_some_iff.1 found
    obtain ⟨before, rest, rfl, rfl, same⟩ := ih inner
    refine ⟨c :: before, rest, rfl, ?_, ?_⟩
    · rw [String.utf8Len_cons, Nat.add_comm]
    · rw [declared?, declaredHere?, Option.not_isSome_iff_eq_none.1 unopened, Option.bind_none, ← same]

/-- A text without an opening declares nothing. -/
lemma declared?_of_openingAt?_eq_none {text : List Char} (nothing : openingAt? text = none) :
    declared? text = none := by
  fun_induction openingAt? text with
  | case1 => rfl
  | case2 => cases nothing
  | case3 c text unopened ih =>
    have later := ih (Option.map_eq_none_iff.1 nothing)
    rw [declared?, declaredHere?, Option.not_isSome_iff_eq_none.1 unopened, Option.bind_none, later]

/-- A slice ends within its text. -/
lemma utf8ByteSize_add_le_of_slice? {text slice : String} {start stop : Nat}
    (found : slice? text start stop = some slice) :
    slice.utf8ByteSize + start ≤ text.utf8ByteSize := by
  obtain ⟨before, after, eq, rfl, -⟩ := slice?_eq_some_iff.1 found
  rw [← String.ofList_toList (s := text), eq, ← String.ofList_toList (s := slice)]
  simp only [String.utf8ByteSize_ofList, String.toList_ofList, String.utf8Len_append]
  omega

/-- Looks for the environment of a text from one `\begin{` to the next: where it declares nothing,
the search goes on one byte behind. No result where a slice does not exist. -/
def seek? (text : String) : Option String :=
  match openingAt? text.toList with
  | none => some noEnvironment
  | some position =>
    match _found : slice? text position text.utf8ByteSize with
    | none => none
    | some candidate =>
      match declaredHere? candidate.toList with
      | some name => some (String.ofList name)
      | none =>
        match _next : slice? candidate 1 candidate.utf8ByteSize with
        | none => none
        | some rest => seek? rest
termination_by text.utf8ByteSize
decreasing_by
  have here := utf8ByteSize_add_le_of_slice? _found
  have later := utf8ByteSize_add_le_of_slice? _next
  omega

/-- The search finds what is declared first, and none of its slices is missing. -/
lemma seek?_eq (text : String) : seek? text = some (environment text) := by
  have lead : ∃ letters, opening = '\\' :: letters := ⟨_, rfl⟩
  obtain ⟨letters, lead⟩ := lead
  fun_induction seek? text with
  | case1 text nothing => rw [environment, declared?_of_openingAt?_eq_none nothing]
  | case2 text position opened missing =>
    obtain ⟨before, rest, split, rfl, -⟩ := openingAt?_eq_some opened
    cases missing.symm.trans (slice?_to_end split)
  | case3 text position opened candidate found name here =>
    obtain ⟨before, rest, split, rfl, same⟩ := openingAt?_eq_some opened
    cases found.symm.trans (slice?_to_end split)
    rw [String.toList_ofList, lead, List.cons_append] at here
    rw [environment, same, lead, List.cons_append, declared?, here]
  | case4 text position opened candidate found fails missing =>
    obtain ⟨before, rest, split, rfl, -⟩ := openingAt?_eq_some opened
    cases found.symm.trans (slice?_to_end split)
    have next : (String.ofList (opening ++ rest)).toList = ['\\'] ++ (letters ++ rest) := by
      rw [String.toList_ofList, lead]
      rfl
    cases missing.symm.trans (slice?_to_end next)
  | case5 text position opened candidate found fails rest next ih =>
    obtain ⟨before, behind, split, rfl, same⟩ := openingAt?_eq_some opened
    cases found.symm.trans (slice?_to_end split)
    have cut : (String.ofList (opening ++ behind)).toList = ['\\'] ++ (letters ++ behind) := by
      rw [String.toList_ofList, lead]
      rfl
    cases next.symm.trans (slice?_to_end cut)
    rw [String.toList_ofList, lead, List.cons_append] at fails
    rw [ih, environment, environment, same, lead, List.cons_append, declared?, fails,
      String.toList_ofList]

/-- The environment of a text is the name that stands in its first declaration, or `none` where the
text declares nothing, and looking for it from one `\begin{` to the next finds it. -/
theorem environment_eq_iff_isFirst (text name : String) :
    (environment text = name ↔
        (∃ position, IsFirst text 0 position name) ∨
          name = "none" ∧ ∀ position other, ¬ DeclaresAt text position other) ∧
      seek? text = some (environment text) := by
  have whole : text.toList = [] ++ text.toList := rfl
  refine ⟨?_, seek?_eq text⟩
  rw [environment]
  cases found : declared? text.toList with
  | none =>
    have nowhere : ∀ position other, ¬ DeclaresAt text position other := by
      intro position other declares
      obtain ⟨position, other, isFirst⟩ := declares.exists_isFirst
      have found' := (declared?_eq_some_iff whole).2 ⟨position, isFirst⟩
      cases found.symm.trans found'
    constructor
    · rintro rfl
      exact .inr ⟨rfl, nowhere⟩
    · rintro (⟨position, isFirst⟩ | ⟨rfl, -⟩)
      · exact absurd isFirst.declares (nowhere _ _)
      · rfl
  | some letters =>
    obtain ⟨position, isFirst⟩ : ∃ position, IsFirst text 0 position (String.ofList letters) := by
      refine (declared?_eq_some_iff whole).1 ?_
      rw [found, String.toList_ofList]
    constructor
    · rintro rfl
      exact .inl ⟨position, isFirst⟩
    · rintro (⟨position', isFirst'⟩ | ⟨-, nowhere⟩)
      · have found' := (declared?_eq_some_iff whole).2 ⟨position', isFirst'⟩
        cases found.symm.trans found'
        exact String.ofList_toList
      · exact absurd isFirst.declares (nowhere _ _)

/-- A declaration that the line end breaks off, around one that is whole. -/
example : environment "é\\begin\x7ba\\begin\x7bb\n\x7d \\begin\x7bcases\x7d" = "cases" := by
  decide

end Typeset.DisplayMath
