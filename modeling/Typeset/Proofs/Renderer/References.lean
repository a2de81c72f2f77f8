import Typeset.Proofs.Renderer.Answers

/-!
# Labels and references

A label and the references to it are written alike, however they are marked up. A label goes by what
stands between the brackets around it, a reference by what stands behind its number sign; each of
them falls back on what the other one goes by first.
-/

namespace Typeset

section Marking

variable {id : String}

/-- Dropping stops at the seam if all of the front is dropped and the back starts with what is not.
-/
lemma dropWhile_append_of_head? {α : Type} {p : α → Bool} {front back : List α}
    (passed : ∀ x ∈ front, p x = true) (first : ∀ x ∈ back.head?, p x = false) :
    (front ++ back).dropWhile p = back := by
  rw [List.dropWhile_append_of_pos passed]
  cases back with
  | nil => rfl
  | cons x back => rw [List.dropWhile_cons, first x rfl, if_neg Bool.false_ne_true]

/-- Trimming leaves what stands between brackets, unless that begins or ends with one itself. -/
lemma trimBrackets_append {left right : String} (opening : ∀ c ∈ left.toList, isBracket c = true)
    (closing : ∀ c ∈ right.toList, isBracket c = true)
    (first : ∀ c ∈ id.toList.head?, isBracket c = false)
    (last : ∀ c ∈ id.toList.getLast?, isBracket c = false) :
    trimBrackets (left ++ id ++ right) = id := by
  have trimmed : (((left ++ id ++ right).toList.dropWhile isBracket).reverse.dropWhile
      isBracket).reverse = id.toList := by
    rw [String.toList_append, String.toList_append, List.append_assoc]
    by_cases empty : id.toList = []
    -- Nothing stands between the brackets, so all of them are dropped in front.
    · have all : ∀ c ∈ left.toList ++ right.toList, isBracket c = true :=
        List.forall_mem_append.2 ⟨opening, closing⟩
      have dropped : (left.toList ++ right.toList ++ []).dropWhile isBracket = [] :=
        dropWhile_append_of_head? all nofun
      rw [List.append_nil] at dropped
      rw [empty, List.nil_append, dropped]
      rfl
    · have first' : ∀ c ∈ (id.toList ++ right.toList).head?, isBracket c = false := by
        rwa [List.head?_append_of_ne_nil _ empty]
      have closing' : ∀ c ∈ right.toList.reverse, isBracket c = true := fun c mem =>
        closing c (List.mem_reverse.1 mem)
      have last' : ∀ c ∈ id.toList.reverse.head?, isBracket c = false := by
        rwa [List.head?_reverse]
      rw [dropWhile_append_of_head? opening first', List.reverse_append,
        dropWhile_append_of_head? closing' last', List.reverse_reverse]
  rw [trimBrackets, trimmed, String.ofList_toList]

/-- The hash in front of an id is dropped. -/
lemma dropHash_of_hash (id : String) : dropHash ("#" ++ id) = id := by
  have hash : ("#" ++ id).toList = '#' :: id.toList := String.toList_append
  rw [dropHash, hash]
  exact String.ofList_toList

/-- An id without a hash in front is kept. -/
lemma dropHash_of_ne (plain : id.toList.head? ≠ some '#') : dropHash id = id := by
  unfold dropHash
  split
  · next rest eq =>
    rw [eq] at plain
    exact absurd rfl plain
  · rfl

/-- A text that is not empty is taken. -/
lemma orElse_of_ne {first : String} (full : first ≠ "") (second : String) :
    orElse first second = first := by
  rw [orElse, if_neg (by rwa [String.isEmpty_iff])]

/-- In place of the empty text the second one is taken. -/
lemma orElse_empty (second : String) : orElse "" second = second :=
  rfl

end Marking

namespace Renderer

variable (renderer : Renderer) {text id : String} {target : Option String} {attributes : Dictionary}

/-- A label goes by its text, or by its target if it has no text. -/
lemma render_label (marked : trimBrackets (orElse text (target.getD "")) = id) :
    (renderer.render (.inline ⟨.anchor .label, text, target, attributes⟩)).1 =
      "\\label\x7b" ++ id ++ "\x7d" := by
  apply (renderer.render_of_ok ?_).1
  subst marked
  exact congrArg Except.ok (Latex.command_singleton "label" _)

/-- A reference goes by its target, or by its text if it has no target. -/
lemma render_reference (marked : dropHash (orElse (target.getD "") text) = id) :
    (renderer.render (.inline ⟨.anchor .crossReference, text, target, attributes⟩)).1 =
      "\\ref\x7b" ++ id ++ "\x7d" := by
  apply (renderer.render_of_ok ?_).1
  subst marked
  exact congrArg Except.ok (Latex.command_singleton "ref" _)

/-- A label and the references to it are written alike. A label goes by its text whatever its target
is, and by its target if it has no text; of either it takes what stands between the brackets around
it. A reference goes by its target whatever its text is, and by its text if it has no target; of
either it takes what stands behind a number sign, or all of a target without one. -/
theorem render_references (renderer : Renderer) {id left right : String} (attributes : Dictionary)
    (opening : ∀ c ∈ left.toList, c = '[' ∨ c = ']')
    (closing : ∀ c ∈ right.toList, c = '[' ∨ c = ']')
    (first : ∀ c ∈ id.toList.head?, c ≠ '[' ∧ c ≠ ']')
    (last : ∀ c ∈ id.toList.getLast?, c ≠ '[' ∧ c ≠ ']') :
    let marked := left ++ id ++ right
    let rendered (kind : AnchorKind) (text : String) (target : Option String) : String :=
      (renderer.render (.inline ⟨.anchor kind, text, target, attributes⟩)).1
    (marked ≠ "" →
        (∀ target, rendered .label marked target = "\\label\x7b" ++ id ++ "\x7d") ∧
          rendered .label "" (some marked) = "\\label\x7b" ++ id ++ "\x7d") ∧
      (∀ text, rendered .crossReference text (some ("#" ++ id)) = "\\ref\x7b" ++ id ++ "\x7d") ∧
      (∀ target, target = none ∨ target = some "" →
        rendered .crossReference ("#" ++ id) target = "\\ref\x7b" ++ id ++ "\x7d") ∧
      (id ≠ "" → id.toList.head? ≠ some '#' →
        ∀ text, rendered .crossReference text (some id) = "\\ref\x7b" ++ id ++ "\x7d") := by
  intro marked rendered
  have trimmed : trimBrackets marked = id := by
    apply trimBrackets_append
    · simpa [isBracket] using opening
    · simpa [isBracket] using closing
    · simpa [isBracket] using first
    · simpa [isBracket] using last
  have hashed : "#" ++ id ≠ "" := by
    rw [Ne, String.append_eq_empty_iff]
    exact fun empty => absurd empty.1 (by decide)
  refine ⟨fun full => ⟨fun target => ?_, ?_⟩, fun text => ?_, fun target missing => ?_,
    fun full plain text => ?_⟩
  · apply renderer.render_label
    rw [orElse_of_ne full, trimmed]
  · apply renderer.render_label
    rw [orElse_empty, Option.getD_some, trimmed]
  · apply renderer.render_reference
    rw [Option.getD_some, orElse_of_ne hashed, dropHash_of_hash]
  · apply renderer.render_reference
    have none : target.getD "" = "" := by
      obtain rfl | rfl := missing
      · rfl
      · rfl
    rw [none, orElse_empty, dropHash_of_hash]
  · apply renderer.render_reference
    rw [Option.getD_some, orElse_of_ne full, dropHash_of_ne plain]

/-- Brackets and number signs inside of a name are kept, and neither marking needs to be even. -/
theorem render_references_to_bracketed_name :
    let renderer := start ⟨⟨false, false⟩, ⟨.empty, .default⟩⟩
    let rendered (kind : AnchorKind) (text : String) (target : Option String) : String :=
      (renderer.render (.inline ⟨.anchor kind, text, target, .empty⟩)).1
    rendered .label "[[]a#[1].b]" (some "c") = "\\label\x7ba#[1].b\x7d" ∧
      rendered .label "" (some "[[]a#[1].b]") = "\\label\x7ba#[1].b\x7d" ∧
      rendered .crossReference "c" (some "#a#[1].b") = "\\ref\x7ba#[1].b\x7d" ∧
      rendered .crossReference "#a#[1].b" none = "\\ref\x7ba#[1].b\x7d" ∧
      rendered .crossReference "c" (some "a#[1].b") = "\\ref\x7ba#[1].b\x7d" := by
  intro renderer rendered
  obtain ⟨labels, targets, texts, plain⟩ := render_references renderer .empty
    (by simp : ∀ c ∈ "[[]".toList, c = '[' ∨ c = ']')
    (by simp : ∀ c ∈ "]".toList, c = '[' ∨ c = ']')
    (by simp : ∀ c ∈ "a#[1].b".toList.head?, c ≠ '[' ∧ c ≠ ']')
    (by simp : ∀ c ∈ "a#[1].b".toList.getLast?, c ≠ '[' ∧ c ≠ ']')
  obtain ⟨label, fallback⟩ := labels (by decide)
  exact ⟨label (some "c"), fallback, targets "c", texts none (.inl rfl),
    plain (by decide) (by decide) "c"⟩

end Renderer

end Typeset
