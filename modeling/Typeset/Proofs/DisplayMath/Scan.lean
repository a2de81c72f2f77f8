import Typeset.Proofs.DisplayMath.Layout
import Typeset.Proofs.DisplayMath.Slice

/-!
# What the regions of a body are

The scan of a body is determined by what stands where: `IsScan` says of a list of regions that they
stand in order, that each runs from a first opener to the nearest closer, and that nothing is left
out between them or behind them. `isScan_iff` shows that one list only has these properties and that
it is the one that `regions` finds.

The proof walks along the body. What is done of it and what is left are two lists of characters, and
the byte position is the length of the part that is done; the first region of the part that is left
is the next one of the list.
-/

namespace Typeset.DisplayMath

open String (utf8Len)

/-- The stretches in front of the regions: each runs from where the region before stops, the first
one from a given position. -/
def gaps (position : Nat) (found : List Region) : List (Nat × Nat) :=
  (position :: found.map (·.stop)).zip (found.map (·.start))

/-- Where the last region stops: the given position where there is none. -/
def lastStop (position : Nat) (found : List Region) : Nat :=
  (found.map (·.stop)).getLastD position

/-- The regions are those of the body from a byte position on. -/
structure IsScan (body : String) (position : Nat) (found : List Region) : Prop where
  /-- The regions stand in order and do not overlap. -/
  ordered : found.Pairwise fun earlier later => earlier.stop ≤ later.start
  /-- A region is its inner text between markers, from boundary to boundary of characters. -/
  marked : ∀ region ∈ found,
    slice? body region.start region.stop = some ("\\[" ++ region.inner ++ "\\]")
  /-- The closer of a region is the nearest one. -/
  nearest : ∀ region ∈ found, ¬ HasMarker ']' region.inner.toList
  /-- The opener of a region is the first one. -/
  first : ∀ gap ∈ gaps position found,
    ∃ text, slice? body gap.1 gap.2 = some text ∧ ¬ HasMarker '[' text.toList
  /-- Behind the last region no opener finds a closer. -/
  complete : ∃ text,
    slice? body (lastStop position found) body.utf8ByteSize = some text ∧ Unpaired text.toList
  /-- The environment of a region is the one that its inner text declares. -/
  environments : ∀ region ∈ found, region.environment = environment region.inner

/-- A slice that starts where a part of the text ends is the front of what follows that part. -/
lemma slice?_at {text slice : String} {done rest : List Char} {stop : Nat}
    (split : text.toList = done ++ rest) :
    slice? text (utf8Len done) stop = some slice ↔
      ∃ after, rest = slice.toList ++ after ∧ stop = utf8Len (done ++ slice.toList) := by
  rw [slice?_eq_some_iff, String.utf8Len_append]
  constructor
  · rintro ⟨before, after, eq, size, rfl⟩
    rw [split, List.append_assoc] at eq
    obtain ⟨between, rfl⟩ := prefix_of_utf8Len_le eq size.le
    rw [String.utf8Len_append] at size
    have none : between = [] := String.utf8Len_eq_zero.1 (by omega)
    subst none
    rw [List.append_nil] at eq
    exact ⟨after, List.append_cancel_left eq, rfl⟩
  · rintro ⟨after, rfl, rfl⟩
    exact ⟨done, after, by simpa using split, rfl, rfl⟩

/-- What follows a part of a text is a slice of it, up to its end. -/
lemma slice?_to_end {text : String} {done rest : List Char} (split : text.toList = done ++ rest) :
    slice? text (utf8Len done) text.utf8ByteSize = some (String.ofList rest) := by
  have size : text.utf8ByteSize = utf8Len (done ++ rest) := by
    rw [← split, ← String.utf8ByteSize_ofList, String.ofList_toList]
  refine (slice?_at split).2 ⟨[], ?_, ?_⟩
  · rw [String.toList_ofList, List.append_nil]
  · rw [String.toList_ofList, size]

/-- The characters of a text between markers. -/
lemma toList_marked (inner : String) :
    ("\\[" ++ inner ++ "\\]").toList = marked inner.toList := by
  simp [marked]

/-- Each of the two markers takes two bytes. -/
lemma utf8Len_marked (inner : List Char) : utf8Len (marked inner) = 2 + utf8Len inner + 2 := by
  have backslash : '\\'.utf8Size = 1 := rfl
  have opener : '['.utf8Size = 1 := rfl
  have closer : ']'.utf8Size = 1 := rfl
  simp only [marked, String.utf8Len_cons, String.utf8Len_append, String.utf8Len_nil, backslash,
    opener, closer]
  omega

/-- Behind a region, the last region ends where that of the remaining ones does. -/
lemma lastStop_cons (position : Nat) (region : Region) (found : List Region) :
    lastStop position (region :: found) = lastStop region.stop found := by
  simp only [lastStop, List.map_cons, List.getLastD_cons]

/-- A slice starts before it ends. -/
lemma le_of_slice? {text slice : String} {start stop : Nat}
    (found : slice? text start stop = some slice) : start ≤ stop := by
  obtain ⟨_, _, _, _, rfl⟩ := slice?_eq_some_iff.1 found
  exact Nat.le_add_right _ _

/-- A scan with a region is that region behind a first stretch, and a scan from where it stops. -/
lemma isScan_cons {body : String} {position : Nat} {region : Region} {found : List Region} :
    IsScan body position (region :: found) ↔
      (∃ text, slice? body position region.start = some text ∧ ¬ HasMarker '[' text.toList) ∧
      slice? body region.start region.stop = some ("\\[" ++ region.inner ++ "\\]") ∧
      ¬ HasMarker ']' region.inner.toList ∧
      region.environment = environment region.inner ∧
      (∀ later ∈ found, region.stop ≤ later.start) ∧
      IsScan body region.stop found := by
  constructor
  · intro scan
    have here : region ∈ region :: found := List.mem_cons_self ..
    obtain ⟨above, ordered⟩ := List.pairwise_cons.1 scan.ordered
    have complete := scan.complete
    rw [lastStop_cons] at complete
    refine ⟨scan.first _ (List.mem_cons_self ..), scan.marked _ here, scan.nearest _ here,
      scan.environments _ here, above, ordered, ?_, ?_, ?_, complete, ?_⟩
    · exact fun later mem => scan.marked later (List.mem_cons_of_mem _ mem)
    · exact fun later mem => scan.nearest later (List.mem_cons_of_mem _ mem)
    · exact fun gap mem => scan.first gap (List.mem_cons_of_mem _ mem)
    · exact fun later mem => scan.environments later (List.mem_cons_of_mem _ mem)
  · rintro ⟨first, span, nearest, declared, above, scan⟩
    have complete := scan.complete
    rw [← lastStop_cons position] at complete
    refine ⟨List.pairwise_cons.2 ⟨above, scan.ordered⟩, ?_, ?_, ?_, complete, ?_⟩
    · exact List.forall_mem_cons.2 ⟨span, scan.marked⟩
    · exact List.forall_mem_cons.2 ⟨nearest, scan.nearest⟩
    · exact List.forall_mem_cons.2 ⟨first, scan.first⟩
    · exact List.forall_mem_cons.2 ⟨declared, scan.environments⟩

/-- No region starts before the position from which a body is scanned. -/
lemma IsScan.le_start {body : String} {position : Nat} {found : List Region}
    (scan : IsScan body position found) : ∀ region ∈ found, position ≤ region.start := by
  induction found generalizing position with
  | nil => exact fun region mem => absurd mem List.not_mem_nil
  | cons region found ih =>
    obtain ⟨⟨_, gap, _⟩, span, _, _, _, rest⟩ := isScan_cons.1 scan
    have start := le_of_slice? gap
    have stop := le_of_slice? span
    intro later mem
    cases mem with
    | head => exact start
    | tail _ mem => exact start.trans (stop.trans (ih rest later mem))

/-- Nothing is found in what is left of a body exactly if no opener there finds a closer. -/
lemma isScan_nil_at {body : String} {done rest : List Char} (split : body.toList = done ++ rest) :
    IsScan body (utf8Len done) [] ↔ Unpaired rest := by
  have left := slice?_to_end split
  constructor
  · intro scan
    obtain ⟨text, slice, unpaired⟩ := scan.complete
    cases slice.symm.trans left
    rw [String.toList_ofList] at unpaired
    exact unpaired
  · intro unpaired
    refine ⟨List.Pairwise.nil, ?_, ?_, ?_, ⟨_, left, ?_⟩, ?_⟩
    · exact fun region mem => absurd mem List.not_mem_nil
    · exact fun region mem => absurd mem List.not_mem_nil
    · exact fun gap mem => absurd mem List.not_mem_nil
    · rw [String.toList_ofList]
      exact unpaired
    · exact fun region mem => absurd mem List.not_mem_nil

/-- The region of a piece ends where the piece does. -/
lemma stop_of_piece (done : List Char) (piece : Piece) :
    (Region.of (utf8Len (done ++ piece.before)) (String.ofList piece.inner)).stop =
      utf8Len (done ++ piece.text) := by
  simp [Region.of, Piece.text, utf8Len_marked, String.utf8ByteSize_ofList, Nat.add_assoc]

/-- The regions of pieces that are laid out behind what is done. -/
lemma regionsFrom_cons (done : List Char) (piece : Piece) (pieces : List Piece) :
    regionsFrom (utf8Len done) (piece :: pieces) =
      .of (utf8Len (done ++ piece.before)) (String.ofList piece.inner) ::
        regionsFrom (utf8Len (done ++ piece.text)) pieces := by
  rw [← stop_of_piece, String.utf8Len_append, ← String.utf8ByteSize_ofList piece.before]
  rfl

section Piece

variable {body : String} {done after : List Char} {piece : Piece}

/-- What a piece has in front of its region, as a slice of the body. -/
lemma slice?_before (split : body.toList = done ++ (piece.text ++ after)) :
    slice? body (utf8Len done) (utf8Len (done ++ piece.before)) =
      some (String.ofList piece.before) := by
  refine (slice?_at split).2 ⟨marked piece.inner ++ after, ?_, ?_⟩ <;> simp [Piece.text]

/-- The region of a piece with its markers, as a slice of the body. -/
lemma slice?_marked (split : body.toList = done ++ (piece.text ++ after)) :
    slice? body (utf8Len (done ++ piece.before)) (utf8Len (done ++ piece.text)) =
      some ("\\[" ++ String.ofList piece.inner ++ "\\]") := by
  have split' : body.toList = (done ++ piece.before) ++ (marked piece.inner ++ after) := by
    simp [split, Piece.text]
  refine (slice?_at split').2 ⟨after, ?_, ?_⟩ <;>
    rw [toList_marked, String.toList_ofList]
  rw [Piece.text, List.append_assoc]

end Piece

/-- The first region found in what is left of a body is the first region of that part. -/
lemma isScan_cons_at {body : String} {done rest : List Char} {region : Region}
    {found : List Region} (split : body.toList = done ++ rest) :
    IsScan body (utf8Len done) (region :: found) ↔
      ∃ piece after, firstPiece? rest = some (piece, after) ∧
        region = .of (utf8Len (done ++ piece.before)) (String.ofList piece.inner) ∧
        IsScan body (utf8Len (done ++ piece.text)) found := by
  constructor
  · intro scan
    obtain ⟨⟨gap, before, unopened⟩, span, unclosed, declared, _, later⟩ := isScan_cons.1 scan
    obtain ⟨opened, rfl, start⟩ := (slice?_at split).1 before
    rw [← List.append_assoc] at split
    rw [start] at span
    obtain ⟨after, rfl, stop⟩ := (slice?_at split).1 span
    rw [toList_marked] at stop ⊢
    rw [stop, List.append_assoc] at later
    refine ⟨⟨gap.toList, region.inner.toList⟩, after, firstPiece?_eq_some_iff.2 ⟨?_, ?_, ?_⟩, ?_, ?_⟩
    · simp [Piece.text]
    · exact unopened
    · exact unclosed
    · rw [String.utf8Len_append, utf8Len_marked] at stop
      cases region
      simp only at start stop declared
      simp [Region.of, start, stop, declared, Nat.add_assoc]
    · exact later
  · rintro ⟨piece, after, first, rfl, later⟩
    obtain ⟨rfl, unopened, unclosed⟩ := firstPiece?_eq_some_iff.1 first
    have span := slice?_marked split
    rw [← stop_of_piece] at later span
    refine isScan_cons.2 ⟨⟨_, slice?_before split, ?_⟩, span, ?_, rfl, later.le_start, later⟩
    · rw [String.toList_ofList]
      exact unopened
    · rw [Region.of, String.toList_ofList]
      exact unclosed

/-- In what is left of a body, only the regions of its layout are found. -/
lemma isScan_at {body : String} {done rest : List Char} {found : List Region}
    (split : body.toList = done ++ rest) :
    IsScan body (utf8Len done) found ↔
      found = regionsFrom (utf8Len done) (layout rest).pieces := by
  induction rest using layout.induct generalizing done found with
  | case1 rest nothing =>
    have unpaired := firstPiece?_eq_none_iff.1 nothing
    rw [layout_of_none nothing]
    cases found with
    | nil => exact iff_of_true ((isScan_nil_at split).2 unpaired) rfl
    | cons region found =>
      refine iff_of_false ?_ (List.cons_ne_nil _ _)
      intro scan
      obtain ⟨piece, after, first, _⟩ := (isScan_cons_at split).1 scan
      rw [nothing] at first
      cases first
  | case2 rest piece after first ih =>
    have split' : body.toList = (done ++ piece.text) ++ after := by
      rw [split, eq_of_firstPiece? first, List.append_assoc]
    rw [layout_of_some first, regionsFrom_cons]
    cases found with
    | nil =>
      refine iff_of_false ?_ (List.cons_ne_nil _ _).symm
      intro scan
      have nothing := firstPiece?_eq_none_iff.2 ((isScan_nil_at split).1 scan)
      rw [nothing] at first
      cases first
    | cons region found =>
      rw [isScan_cons_at split, List.cons.injEq, ← ih split']
      constructor
      · rintro ⟨piece', after', first', rfl, scan⟩
        rw [first] at first'
        cases first'
        exact ⟨rfl, scan⟩
      · rintro ⟨rfl, scan⟩
        exact ⟨piece, after, first, rfl, scan⟩

/-- The regions that are found are a scan of the whole body. -/
lemma isScan_regions (body : String) : IsScan body 0 (regions body) := by
  have whole : body.toList = [] ++ body.toList := rfl
  exact (isScan_at whole).2 rfl

/-- The regions of a body are the one list of regions that stand in order and apart, each from a first
opener to the nearest closer, with nothing left out between them or behind the last. -/
theorem isScan_iff (body : String) (found : List Region) :
    IsScan body 0 found ↔ found = regions body := by
  have whole : body.toList = [] ++ body.toList := rfl
  exact isScan_at whole

end Typeset.DisplayMath
