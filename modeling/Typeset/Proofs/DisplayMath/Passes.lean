import Mathlib.Order.Basic
import Typeset.Proofs.DisplayMath.Splice

/-!
# Passes over a body

Stripping once may leave regions to strip: an opener inside of a region is free once the markers
around it are gone, and markers may arise where others go. But a pass that changes a body takes four
bytes at least, so the passes come to an end. The run lemma is that after each number of passes
either nothing is left to strip or that many times four bytes are gone.
-/

namespace Typeset.DisplayMath

/-- Nothing is left to strip. -/
def IsBare (body : String) : Prop :=
  strip body = body

/-- A bare body has no region whose environment is among the three. -/
lemma isBare_iff {body : String} :
    IsBare body ↔ ∀ region ∈ regions body, region.environment ∉ ["array", "matrix", "none"] := by
  simp only [IsBare, strip_eq_self_iff, ← isStripped_iff, Bool.not_eq_true]

/-- A pass that changes a body takes four bytes at least. -/
lemma utf8ByteSize_strip_add_le {body : String} (changes : ¬ IsBare body) :
    (strip body).utf8ByteSize + 4 ≤ body.utf8ByteSize := by
  have size := utf8ByteSize_strip body
  have found : (regions body).countP Region.isStripped ≠ 0 := by
    intro none
    refine changes (strip_eq_self_iff.2 fun region mem => ?_)
    exact Bool.eq_false_iff.2 (List.countP_eq_zero.1 none region mem)
  omega

variable (body : String) (n : Nat)

/-- One more pass comes behind the others. -/
lemma stripTimes_succ : stripTimes (n + 1) body = strip (stripTimes n body) := by
  induction n generalizing body with
  | zero => rfl
  | succ n ih => rw [stripTimes, ih, stripTimes]

/-- What is listed pass by pass are the bodies after one pass, after two, and so on. -/
lemma passes_eq_map : passes body n = (List.range n).map fun pass => stripTimes (pass + 1) body := by
  induction n generalizing body with
  | zero => rfl
  | succ n ih => rw [passes, ih, List.range_succ_eq_map, List.map_cons, List.map_map]; rfl

/-- After each pass that still finds something to strip, four more bytes are gone. -/
lemma isBare_or_utf8ByteSize_add_le :
    IsBare (stripTimes n body) ∨
      (stripTimes n body).utf8ByteSize + 4 * n ≤ body.utf8ByteSize := by
  induction n with
  | zero => exact .inr le_rfl
  | succ n ih =>
    rw [stripTimes_succ]
    by_cases bare : IsBare (stripTimes n body)
    · refine .inl ?_
      have same : strip (stripTimes n body) = stripTimes n body := bare
      rwa [same]
    · have step := utf8ByteSize_strip_add_le bare
      have run := ih.resolve_left bare
      exact .inr (by omega)

variable {body n}

/-- A quarter of the bytes is passes enough. -/
lemma isBare_of_le (enough : body.utf8ByteSize / 4 ≤ n) : IsBare (stripTimes n body) := by
  by_contra changes
  have step := utf8ByteSize_strip_add_le changes
  have run := (isBare_or_utf8ByteSize_add_le body n).resolve_left changes
  omega

/-- Once a body is bare, further passes change nothing. -/
lemma stripTimes_of_isBare {later : Nat} (bare : IsBare (stripTimes n body)) (behind : n ≤ later) :
    stripTimes later body = stripTimes n body := by
  induction later, behind using Nat.le_induction with
  | base => rfl
  | succ later _ ih =>
    rw [stripTimes_succ, ih]
    exact bare

/-- A pass takes a multiple of four bytes, none exactly if no region lays itself out, and after as
many passes as a body has bytes, divided by four, none of its regions does and no pass changes
anything. -/
theorem stripTimes_settles (body : String) (n : Nat) :
    (∃ stripped, (stripTimes (n + 1) body).utf8ByteSize + 4 * stripped =
        (stripTimes n body).utf8ByteSize) ∧
      (stripTimes (n + 1) body = stripTimes n body ↔
        ∀ region ∈ regions (stripTimes n body),
          region.environment ∉ ["array", "matrix", "none"]) ∧
      (body.utf8ByteSize / 4 ≤ n →
        (∀ region ∈ regions (stripTimes n body),
          region.environment ∉ ["array", "matrix", "none"]) ∧
        ∀ later, n ≤ later → stripTimes later body = stripTimes n body) := by
  rw [stripTimes_succ]
  refine ⟨⟨_, utf8ByteSize_strip (stripTimes n body)⟩, isBare_iff, fun enough => ?_⟩
  have bare := isBare_of_le enough
  exact ⟨isBare_iff.1 bare, fun later behind => stripTimes_of_isBare bare behind⟩

/-- A region around another takes two passes, which is a quarter of its nine bytes. -/
theorem stripTimes_settles_of_nested_regions :
    let body := "\\[\\[x\\]\\]"
    body.utf8ByteSize / 4 = 2 ∧ stripTimes 1 body = "\\[x\\]" ∧
      ∀ later, 2 ≤ later → stripTimes later body = stripTimes 2 body := by
  intro body
  have quarter : body.utf8ByteSize / 4 = 2 := by decide
  obtain ⟨-, -, settled⟩ := stripTimes_settles body 2
  exact ⟨quarter, by decide +kernel, (settled quarter.le).2⟩

end Typeset.DisplayMath
