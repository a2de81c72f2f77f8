import Mathlib.Tactic.Lemma
import Typeset.DisplayMath.Environment

/-!
# Declarations in longer texts

What a declaration becomes when text is put around it. Text behind a declaration leaves it the first
one, since a declaration that breaks off before it stays broken; text in front of it may declare
something itself, but never leaves the whole without a declaration.
-/

namespace Typeset.DisplayMath

/-- What is found behind a lead is the text without it. -/
lemma eq_of_after? {lead text rest : List Char} (found : after? lead text = some rest) :
    text = lead ++ rest := by
  fun_induction after? lead text with
  | case1 => exact Option.some.inj found
  | case2 => cases found
  | case3 l lead text ih => rw [ih found, List.cons_append]
  | case4 => cases found

/-- A lead is found as well if more stands at the end. -/
lemma after?_append {lead text rest : List Char} (found : after? lead text = some rest)
    (more : List Char) : after? lead (text ++ more) = some (rest ++ more) := by
  fun_induction after? lead text with
  | case1 => cases found; exact after?.eq_1 _
  | case2 => cases found
  | case3 l lead text ih =>
    rw [List.cons_append, after?, if_pos rfl]
    exact ih found
  | case4 => cases found

/-- A text with a character that the lead lacks is long enough to tell that it starts otherwise. -/
lemma after?_append_of_none {lead text : List Char} {c : Char} (mem : c ∈ text) (lacks : c ∉ lead)
    (fails : after? lead text = none) (more : List Char) : after? lead (text ++ more) = none := by
  fun_induction after? lead text with
  | case1 => cases fails
  | case2 => cases mem
  | case3 l lead text ih =>
    have apart := List.ne_of_not_mem_cons lacks
    have lacks := List.not_mem_of_not_mem_cons lacks
    rw [List.cons_append, after?, if_pos rfl]
    exact ih (List.mem_of_ne_of_mem apart mem) lacks fails
  | case4 l lead d text ne => rw [List.cons_append, after?, if_neg ne]

/-- A text with a character that the lead lacks tells by itself whether it starts with the lead. -/
lemma after?_append_eq {lead text : List Char} {c : Char} (mem : c ∈ text) (lacks : c ∉ lead)
    (more : List Char) : after? lead (text ++ more) = (after? lead text).map (· ++ more) := by
  cases found : after? lead text with
  | none => exact after?_append_of_none mem lacks found more
  | some rest => exact after?_append found more

/-- What the lead lacks stands behind it. -/
lemma mem_of_after? {lead text rest : List Char} {c : Char} (mem : c ∈ text) (lacks : c ∉ lead)
    (found : after? lead text = some rest) : c ∈ rest := by
  rw [eq_of_after? found] at mem
  exact (List.mem_append.1 mem).resolve_left lacks

/-- A name ends at a closing brace. -/
lemma brace_mem_of_name? {text name : List Char} (found : name? text = some name) :
    '\x7d' ∈ text := by
  fun_induction name? text generalizing name with
  | case1 => cases found
  | case2 => exact List.mem_cons_self
  | case3 => cases found
  | case4 c text _ _ ih =>
    obtain ⟨rest, inner, -⟩ := Option.map_eq_some_iff.1 found
    exact List.mem_cons_of_mem c (ih inner)

/-- A name is read as well if more stands at the end. -/
lemma name?_append {text name : List Char} (found : name? text = some name) (more : List Char) :
    name? (text ++ more) = some name := by
  fun_induction name? text generalizing name with
  | case1 => cases found
  | case2 text => rw [List.cons_append, name?, if_pos rfl, found]
  | case3 => cases found
  | case4 c text brace line ih =>
    obtain ⟨rest, inner, eq⟩ := Option.map_eq_some_iff.1 found
    rw [List.cons_append, name?, if_neg brace, if_neg line, ih inner, Option.map_some, eq]

/-- A name that the line end cuts off stays cut off. -/
lemma name?_append_of_none {text : List Char} (mem : '\x7d' ∈ text) (fails : name? text = none)
    (more : List Char) : name? (text ++ more) = none := by
  fun_induction name? text with
  | case1 => cases mem
  | case2 => cases fails
  | case3 text brace => rw [List.cons_append, name?, if_neg brace, if_pos rfl]
  | case4 c text brace line ih =>
    have later : '\x7d' ∈ text := List.mem_of_ne_of_mem (Ne.symm brace) mem
    rw [Option.map_eq_none_iff] at fails
    rw [List.cons_append, name?, if_neg brace, if_neg line, ih later fails, Option.map_none]

/-- What is declared at the start of a text ends at a closing brace. -/
lemma brace_mem_of_declaredHere? {text name : List Char} (found : declaredHere? text = some name) :
    '\x7d' ∈ text := by
  obtain ⟨rest, opened, named⟩ := Option.bind_eq_some_iff.1 found
  rw [eq_of_after? opened]
  exact List.mem_append_right _ (brace_mem_of_name? named)

/-- A declaration at the start of a text is found as well if more stands at the end. -/
lemma declaredHere?_append {text name : List Char} (found : declaredHere? text = some name)
    (more : List Char) : declaredHere? (text ++ more) = some name := by
  obtain ⟨rest, opened, named⟩ := Option.bind_eq_some_iff.1 found
  rw [declaredHere?, after?_append opened, Option.bind_some, name?_append named]

/-- Where no declaration starts, none does with more text, if a brace closes further on. -/
lemma declaredHere?_append_of_none {text : List Char} (mem : '\x7d' ∈ text)
    (fails : declaredHere? text = none) (more : List Char) : declaredHere? (text ++ more) = none := by
  have lacks : '\x7d' ∉ opening := by decide
  unfold declaredHere? at fails ⊢
  cases opened : after? opening text with
  | none => rw [after?_append_of_none mem lacks opened, Option.bind_none]
  | some rest =>
    rw [opened] at fails
    rw [after?_append opened, Option.bind_some,
      name?_append_of_none (mem_of_after? mem lacks opened) fails]

/-- A text that declares a name has a closing brace. -/
lemma brace_mem_of_declared? {text name : List Char} (found : declared? text = some name) :
    '\x7d' ∈ text := by
  fun_induction declared? text with
  | case1 => cases found
  | case2 c text here eq => exact brace_mem_of_declaredHere? eq
  | case3 c text _ ih => exact List.mem_cons_of_mem c (ih found)

/-- The first declaration stays the first one with more text behind it. -/
lemma declared?_append {text name : List Char} (found : declared? text = some name)
    (more : List Char) : declared? (text ++ more) = some name := by
  fun_induction declared? text with
  | case1 => cases found
  | case2 c text here eq =>
    have later := declaredHere?_append eq more
    rw [List.cons_append] at later ⊢
    rw [declared?, later, found]
  | case3 c text fails ih =>
    -- The later declaration closes with a brace, so it is settled already that none starts here.
    have mem : '\x7d' ∈ c :: text := List.mem_cons_of_mem c (brace_mem_of_declared? found)
    have later := declaredHere?_append_of_none mem fails more
    rw [List.cons_append] at later ⊢
    rw [declared?, later, ih found]

/-- Behind more text, a text that declares something still does. -/
lemma declared?_isSome_append {text : List Char} (front : List Char)
    (found : (declared? text).isSome) : (declared? (front ++ text)).isSome := by
  induction front with
  | nil => exact found
  | cons c front ih =>
    rw [List.cons_append, declared?]
    split
    · rfl
    · exact ih

/-- A declaration starts with a backslash. -/
lemma declared?_cons_of_ne {c : Char} (ne : c ≠ '\\') (text : List Char) :
    declared? (c :: text) = declared? text := by
  have fails : declaredHere? (c :: text) = none := by
    rw [declaredHere?]
    have lead : opening = '\\' :: "begin\x7b".toList := by decide
    rw [lead, after?, if_neg (Ne.symm ne), Option.bind_none]
  rw [declared?, fails]

/-- One more character that the lead lacks does not complete the lead. -/
lemma after?_concat_of_none {lead text : List Char} {c : Char} (lacks : c ∉ lead)
    (fails : after? lead text = none) : after? lead (text ++ [c]) = none := by
  fun_induction after? lead text with
  | case1 => cases fails
  | case2 l lead =>
    have apart : l ≠ c := (List.ne_of_not_mem_cons lacks).symm
    rw [List.nil_append, after?, if_neg apart]
  | case3 l lead text ih =>
    rw [List.cons_append, after?, if_pos rfl]
    exact ih (List.not_mem_of_not_mem_cons lacks) fails
  | case4 l lead d text ne => rw [List.cons_append, after?, if_neg ne]

/-- A name that breaks off at the end of the text breaks off where the line ends there. -/
lemma name?_concat_line (text : List Char) : name? (text ++ ['\n']) = name? text := by
  fun_induction name? text with
  | case1 => decide
  | case2 text => rw [List.cons_append, name?, if_pos rfl]
  | case3 text brace => rw [List.cons_append, name?, if_neg brace, if_pos rfl]
  | case4 c text brace line ih => rw [List.cons_append, name?, if_neg brace, if_neg line, ih]

/-- A line break at the end completes no declaration. -/
lemma declaredHere?_concat_line (text : List Char) :
    declaredHere? (text ++ ['\n']) = declaredHere? text := by
  unfold declaredHere?
  cases opened : after? opening text with
  | none => rw [after?_concat_of_none (by decide) opened]
  | some rest => rw [after?_append opened, Option.bind_some, Option.bind_some, name?_concat_line]

/-- A line end behind a text changes nothing about what it declares. -/
lemma declared?_concat_line (text : List Char) : declared? (text ++ ['\n']) = declared? text := by
  induction text with
  | nil => exact declared?_cons_of_ne (by decide) []
  | cons c text ih =>
    have here := declaredHere?_concat_line (c :: text)
    rw [List.cons_append] at here ⊢
    rw [declared?, declared?, here, ih]

/-- A text lays itself out if it declares nothing. -/
lemma declared?_of_not_isSelfDelimiting {text : String}
    (display : isSelfDelimiting (environment text) = false) :
    ∃ name, declared? text.toList = some name ∧ environment text = String.ofList name := by
  unfold environment at display ⊢
  cases found : declared? text.toList with
  | none =>
    rw [found] at display
    exact absurd display (by decide)
  | some name => exact ⟨name, rfl, rfl⟩

end Typeset.DisplayMath
