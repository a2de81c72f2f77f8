import Typeset.Proofs.DisplayMath.Declaration

/-!
# Marks in a text

Where environments begin and end in a text, and where entries of a list start, read from the text
alone. A text is sealed if it finishes the commands that it starts: what stands behind a sealed text
makes no other marks of it, so the marks of texts put together are those of the first and then those
of the second.
-/

namespace Typeset.Latex

open DisplayMath

/-- A mark in a text. -/
inductive Mark where
  /-- An environment begins. -/
  | opens (name : List Char)
  /-- An environment ends. -/
  | closes (name : List Char)
  /-- An entry starts; `behind` is all the text after the mark. -/
  | item (behind : List Char)
  deriving DecidableEq, Repr

/-- What ends an environment. -/
def ending : List Char :=
  "\\end\x7b".toList

/-- What starts an entry. -/
def itemMark : List Char :=
  "\\item".toList

/-- The text up to the closing brace. -/
def braceName (text : List Char) : List Char :=
  text.takeWhile (· ≠ '\x7d')

/-- The mark at the very start of a text. -/
def mark? (text : List Char) : Option Mark :=
  match after? opening text with
  | some rest => some (.opens (braceName rest))
  | none =>
    match after? ending text with
    | some rest => some (.closes (braceName rest))
    | none => (after? itemMark text).map .item

/-- The marks of a text, from left to right. -/
def marks : List Char → List Mark
  | [] => []
  | c :: text => (mark? (c :: text)).toList ++ marks text

/-- A mark in front of more text. -/
def Mark.extend (more : List Char) : Mark → Mark
  | opens name => opens name
  | closes name => closes name
  | item behind => item (behind ++ more)

/-- Reads marks from left to right, with the names of the open environments on a stack; gives the
stack after them, unless an environment ends that is not the last one to begin. -/
def nest? : (stack : List (List Char)) → List Mark → Option (List (List Char))
  | stack, [] => some stack
  | stack, .opens name :: marks => nest? (name :: stack) marks
  | stack, .item _ :: marks => nest? stack marks
  | [], .closes _ :: _ => none
  | top :: stack, .closes name :: marks => if name = top then nest? stack marks else none

/-- Each environment ends by the name under which it began, the last one to begin first, and none
stays open. -/
def Nested (marks : List Mark) : Prop :=
  nest? [] marks = some []

instance (marks : List Mark) : Decidable (Nested marks) :=
  inferInstanceAs (Decidable (_ = _))

example : Nested (marks "\\begin\x7ba\x7d\\item b\\end\x7ba\x7d".toList) := by
  decide

example :
    ¬ Nested (marks "\\begin\x7ba\x7d\\begin\x7bb\x7d\\end\x7ba\x7d\\end\x7bb\x7d".toList) := by
  decide

/-- What stands behind the entries that are inside as many environments as `depth` says, of which
`level` are open at the start. -/
def itemsAt (depth : Nat) : (level : Nat) → List Mark → List (List Char)
  | _, [] => []
  | level, .opens _ :: marks => itemsAt depth (level + 1) marks
  | level, .closes _ :: marks => itemsAt depth (level - 1) marks
  | level, .item behind :: marks =>
    (if level = depth then [behind] else []) ++ itemsAt depth level marks

/-- What starts with a backslash is finished if a brace closes behind it, or if the line ends and it
neither begins nor ends an environment. -/
def Finished (text : List Char) : Prop :=
  '\x7d' ∈ text ∨ '\n' ∈ text ∧ after? opening text = none ∧ after? ending text = none

instance (text : List Char) : Decidable (Finished text) :=
  inferInstanceAs (Decidable (_ ∨ _))

/-- A text that finishes what each of its backslashes starts. -/
def Sealed : List Char → Prop
  | [] => True
  | c :: text => (c = '\\' → Finished (c :: text)) ∧ Sealed text

instance decidableSealed : (text : List Char) → Decidable (Sealed text)
  | [] => inferInstanceAs (Decidable True)
  | _ :: text =>
    have := decidableSealed text
    inferInstanceAs (Decidable (_ ∧ _))

section Reading

variable {text : List Char} {c : Char}

/-- A name up to a closing brace is the same with more behind it. -/
lemma braceName_append (mem : '\x7d' ∈ text) (more : List Char) :
    braceName (text ++ more) = braceName text := by
  unfold braceName
  induction text with
  | nil => cases mem
  | cons c text ih =>
    rw [List.cons_append, List.takeWhile_cons, List.takeWhile_cons]
    split
    · next apart =>
      have ne : c ≠ '\x7d' := of_decide_eq_true apart
      rw [ih (List.mem_of_ne_of_mem ne.symm mem)]
    · rfl

/-- What is finished makes the same mark whatever stands behind it. -/
lemma mark?_append (finished : Finished text) (more : List Char) :
    mark? (text ++ more) = (mark? text).map (Mark.extend more) := by
  have items (line : '\x7d' ∈ text ∨ '\n' ∈ text) :
      after? itemMark (text ++ more) = (after? itemMark text).map (· ++ more) := by
    obtain mem | mem := line
    · exact after?_append_eq mem (by decide) more
    · exact after?_append_eq mem (by decide) more
  unfold mark?
  obtain closed | ⟨line, unopened, unclosed⟩ := finished
  · rw [after?_append_eq closed (by decide), after?_append_eq closed (by decide),
      items (.inl closed)]
    cases begins : after? opening text with
    | some rest =>
      simp [braceName_append (mem_of_after? closed (by decide) begins), Mark.extend]
    | none =>
      cases ends : after? ending text with
      | some rest =>
        simp [braceName_append (mem_of_after? closed (by decide) ends), Mark.extend]
      | none => cases after? itemMark text <;> rfl
  · rw [after?_append_eq line (by decide), after?_append_eq line (by decide), items (.inr line),
      unopened, unclosed]
    cases after? itemMark text <;> rfl

/-- A character other than a backslash starts no mark. -/
lemma mark?_cons_of_ne (ne : c ≠ '\\') (text : List Char) : mark? (c :: text) = none := by
  have fails (lead : List Char) : after? ('\\' :: lead) (c :: text) = none := by
    rw [after?, if_neg (Ne.symm ne)]
  have begins : opening = '\\' :: "begin\x7b".toList := by decide
  have ends : ending = '\\' :: "end\x7b".toList := by decide
  have items : itemMark = '\\' :: "item".toList := by decide
  rw [mark?, begins, fails, ends, fails, items, fails]
  rfl

end Reading

section Sealing

variable {left right text : List Char} {c : Char}

/-- A text without backslashes is sealed. -/
lemma sealed_of_not_mem (plain : '\\' ∉ text) : Sealed text := by
  induction text with
  | nil => exact trivial
  | cons c text ih =>
    refine ⟨fun eq => absurd eq.symm (List.ne_of_not_mem_cons plain), ?_⟩
    exact ih (List.not_mem_of_not_mem_cons plain)

/-- A finished text stays so with more behind it. -/
lemma Finished.append (finished : Finished left) (right : List Char) :
    Finished (left ++ right) := by
  obtain closed | ⟨line, unopened, unclosed⟩ := finished
  · exact .inl (List.mem_append_left right closed)
  · refine .inr ⟨List.mem_append_left right line, ?_, ?_⟩
    · exact after?_append_of_none line (by decide) unopened right
    · exact after?_append_of_none line (by decide) unclosed right

/-- Two sealed texts one after the other are sealed. -/
lemma Sealed.append (l : Sealed left) (r : Sealed right) : Sealed (left ++ right) := by
  induction left with
  | nil => exact r
  | cons c left ih =>
    obtain ⟨finished, later⟩ := l
    exact ⟨fun eq => (finished eq).append right, ih later⟩

/-- A last character can be dropped that finishes nothing. -/
lemma Finished.of_concat (brace : c ≠ '\x7d') (line : c ≠ '\n')
    (finished : Finished (text ++ [c])) : Finished text := by
  have within {d : Char} (apart : c ≠ d) (mem : d ∈ text ++ [c]) : d ∈ text :=
    (List.mem_append.1 mem).resolve_right fun last => apart (List.mem_singleton.1 last).symm
  have fails {lead : List Char} (none : after? lead (text ++ [c]) = none) :
      after? lead text = Option.none := by
    cases found : after? lead text with
    | none => rfl
    | some rest =>
      rw [after?_append found] at none
      cases none
  obtain closed | ⟨ended, unopened, unclosed⟩ := finished
  · exact .inl (within brace closed)
  · exact .inr ⟨within line ended, fails unopened, fails unclosed⟩

/-- A text is sealed if it is with a character behind it that ends no mark. -/
lemma Sealed.of_concat (brace : c ≠ '\x7d') (line : c ≠ '\n') (whole : Sealed (text ++ [c])) :
    Sealed text := by
  induction text with
  | nil => exact trivial
  | cons d text ih =>
    obtain ⟨finished, later⟩ := whole
    exact ⟨fun eq => (finished eq).of_concat brace line, ih later⟩

/-- The marks of a sealed text do not depend on what stands behind it. -/
lemma marks_append (l : Sealed left) (right : List Char) :
    marks (left ++ right) = (marks left).map (Mark.extend right) ++ marks right := by
  induction left with
  | nil => rfl
  | cons c left ih =>
    obtain ⟨finished, later⟩ := l
    have here : mark? (c :: (left ++ right)) = (mark? (c :: left)).map (Mark.extend right) := by
      by_cases backslash : c = '\\'
      · exact mark?_append (finished backslash) right
      · rw [mark?_cons_of_ne backslash, mark?_cons_of_ne backslash]
        rfl
    rw [List.cons_append, marks, marks, here, ih later, List.map_append, List.append_assoc]
    cases mark? (c :: left) <;> rfl

/-- A text without backslashes has no marks. -/
lemma marks_of_not_mem (plain : '\\' ∉ text) : marks text = [] := by
  induction text with
  | nil => rfl
  | cons c text ih =>
    rw [marks, mark?_cons_of_ne (Ne.symm (List.ne_of_not_mem_cons plain)),
      ih (List.not_mem_of_not_mem_cons plain)]
    rfl

end Sealing

section Nesting

variable {stack out : List (List Char)} {left right read : List Mark} {depth level : Nat}

/-- What stands behind the marks is not read. -/
lemma nest?_map_extend (more : List Char) :
    nest? stack (read.map (Mark.extend more)) = nest? stack read := by
  induction read generalizing stack with
  | nil => rfl
  | cons mark read ih =>
    cases mark with
    | opens name => exact ih
    | item behind => exact ih
    | closes name =>
      cases stack with
      | nil => rfl
      | cons top stack =>
        rw [List.map_cons, Mark.extend, nest?, nest?, ih]

/-- Marks are nested behind what the marks in front have left open. -/
lemma nest?_append (left right : List Mark) :
    nest? stack (left ++ right) = (nest? stack left).bind fun out => nest? out right := by
  induction left generalizing stack with
  | nil => rfl
  | cons mark left ih =>
    cases mark with
    | opens name => exact ih
    | item behind => exact ih
    | closes name =>
      cases stack with
      | nil => rfl
      | cons top stack =>
        rw [List.cons_append, nest?, nest?]
        split
        · exact ih
        · rfl

/-- Marks that can be read can be read inside of more environments. -/
lemma nest?_inside (ran : nest? stack read = some out) (outer : List (List Char)) :
    nest? (stack ++ outer) read = some (out ++ outer) := by
  induction read generalizing stack with
  | nil =>
    cases ran
    rfl
  | cons mark read ih =>
    cases mark with
    | opens name => exact ih ran
    | item behind => exact ih ran
    | closes name =>
      cases stack with
      | nil => cases ran
      | cons top stack =>
        rw [nest?] at ran
        rw [List.cons_append, nest?]
        split at ran
        · next same =>
          rw [if_pos same]
          exact ih ran
        · cases ran

/-- With more behind a text, the text behind each of its items has more at its end. -/
lemma itemsAt_map_extend (more : List Char) :
    itemsAt depth level (read.map (Mark.extend more)) =
      (itemsAt depth level read).map (· ++ more) := by
  induction read generalizing level with
  | nil => rfl
  | cons mark read ih =>
    cases mark with
    | opens name => exact ih
    | closes name => exact ih
    | item behind =>
      rw [List.map_cons, Mark.extend, itemsAt, itemsAt, ih, List.map_append]
      split <;> rfl

/-- Reading goes on at the level that the first marks lead to. -/
lemma itemsAt_append (ran : nest? stack left = some out) (right : List Mark) :
    itemsAt depth (level + stack.length) (left ++ right) =
      itemsAt depth (level + stack.length) left ++ itemsAt depth (level + out.length) right := by
  induction left generalizing stack with
  | nil =>
    cases ran
    rfl
  | cons mark left ih =>
    cases mark with
    | opens name => exact ih ran
    | item behind =>
      rw [List.cons_append, itemsAt, itemsAt, ih ran, List.append_assoc]
    | closes name =>
      cases stack with
      | nil => cases ran
      | cons top stack =>
        rw [nest?] at ran
        split at ran
        · exact ih ran
        · cases ran

/-- Further in than an entry can be seen from, none is seen. -/
lemma itemsAt_of_lt (ran : nest? stack read = some out) (deep : depth < level) :
    itemsAt depth (level + stack.length) read = [] := by
  induction read generalizing stack with
  | nil => rfl
  | cons mark read ih =>
    cases mark with
    | opens name => exact ih ran
    | item behind =>
      rw [itemsAt, if_neg (by omega), ih ran]
      rfl
    | closes name =>
      cases stack with
      | nil => cases ran
      | cons top stack =>
        rw [nest?] at ran
        split at ran
        · exact ih ran
        · cases ran

namespace Nested

/-- Marks nest alike with more text behind them. -/
lemma map_extend_iff (more : List Char) :
    Nested (read.map (Mark.extend more)) ↔ Nested read := by
  rw [Nested, nest?_map_extend, Nested]

/-- Nested marks behind nested marks are nested. -/
lemma append (l : Nested left) (r : Nested right) : Nested (left ++ right) := by
  rw [Nested, nest?_append, l, Option.bind_some]
  exact r

/-- The items of nested marks one after the other are those of each. -/
lemma itemsAt_append (l : Nested left) (right : List Mark) :
    itemsAt depth level (left ++ right) = itemsAt depth level left ++ itemsAt depth level right :=
  Latex.itemsAt_append l right

/-- An environment around nested marks. -/
lemma environment (inner : Nested read) (name : List Char) :
    Nested (.opens name :: read ++ [.closes name]) := by
  have inside : nest? [name] read = some [name] := nest?_inside inner [name]
  rw [Nested, List.cons_append, nest?, nest?_append, inside, Option.bind_some, nest?, if_pos rfl,
    nest?]

/-- Around the entries of an environment stands one environment more. -/
lemma itemsAt_environment (inner : Nested read) (name : List Char) :
    itemsAt depth level (.opens name :: read ++ [.closes name]) =
      itemsAt depth (level + 1) read := by
  rw [List.cons_append, itemsAt, inner.itemsAt_append]
  exact List.append_nil _

/-- Nested marks have no items at a level outside of them. -/
lemma itemsAt_of_lt (inner : Nested read) (deep : depth < level) : itemsAt depth level read = [] :=
  Latex.itemsAt_of_lt inner deep

end Nested

end Nesting

end Typeset.Latex
