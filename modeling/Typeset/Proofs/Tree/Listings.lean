import Typeset.Proofs.DisplayMath.Locality
import Typeset.Proofs.Tree.Visit

/-!
# Listings in documents

A literal block writes its source between the lines of a `verbatim` environment, but the document
strips its whole body and knows nothing of listings. So a source that holds display markers can lose
some of them: those of the regions of the body that lay themselves out, whether such a region stands
in the listing or only begins or ends there. All other bytes of the source, and the lines around it,
reach the output.
-/

namespace Typeset

open String (utf8Len)

namespace DisplayMath

/-- Of three texts put together, no marker has a character in the middle one. -/
structure NoMarkerIn (before text after : List Char) : Prop where
  inside : ∀ mark ∈ ['[', ']'], ¬ HasMarker mark text
  front : ∀ mark ∈ ['[', ']'], ¬ Straddles mark before text
  back : ∀ mark ∈ ['[', ']'], ¬ Straddles mark text after

/-- The byte at a position on a dropped marker is that of a backslash with a bracket behind it, or
that of the bracket. -/
lemma exists_marker_of_onStrippedMarker {body : String} {i : Nat}
    (on : OnStrippedMarker (regions body) i) :
    ∃ mark ∈ ['[', ']'], ∃ front back, body.toList = front ++ '\\' :: mark :: back ∧
      utf8Len front ≤ i ∧ i < utf8Len front + 2 := by
  obtain ⟨region, mem, -, place⟩ := on
  obtain ⟨before, after, eq, start, stop⟩ :=
    slice?_eq_some_iff.1 ((isScan_regions body).marked region mem)
  rw [toList_marked, utf8Len_marked] at stop
  rw [toList_marked, marked] at eq
  obtain atOpener | atCloser := place
  · refine ⟨'[', by decide, before, region.inner.toList ++ '\\' :: ']' :: after, by simp [eq], ?_⟩
    omega
  · have opener : utf8Len ['\\', '['] = 2 := rfl
    refine ⟨']', by decide, before ++ (['\\', '['] ++ region.inner.toList), after, by simp [eq], ?_⟩
    simp only [String.utf8Len_append, opener]
    omega

/-- Where no marker has a character, none is dropped. -/
lemma NoMarkerIn.not_onStrippedMarker {body : String} {before text after : List Char} {i : Nat}
    (free : NoMarkerIn before text after) (split : body.toList = before ++ (text ++ after))
    (lower : utf8Len before ≤ i) (upper : i < utf8Len before + utf8Len text) :
    ¬ OnStrippedMarker (regions body) i := by
  intro on
  obtain ⟨mark, bracket, front, back, eq, above, below⟩ := exists_marker_of_onStrippedMarker on
  have backslash : '\\'.utf8Size = 1 := rfl
  have single : mark.utf8Size = 1 := by
    obtain rfl | rfl : mark = '[' ∨ mark = ']' := by simpa using bracket
    · rfl
    · rfl
  obtain ⟨rest, rfl, -⟩ | ⟨rest, rfl, eqT⟩ | ⟨rfl, eqT⟩ :=
    append_eq_pair_cases (split.symm.trans eq)
  -- The marker ends where the text begins, or before.
  · simp only [String.utf8Len_append, String.utf8Len_cons, backslash, single] at lower
    omega
  · obtain ⟨rest', eqT', -⟩ | ⟨rest', rfl, -⟩ | ⟨rfl, eqA⟩ := append_eq_pair_cases eqT
    · exact free.inside mark bracket (hasMarker_iff.2 ⟨rest, rest', eqT'⟩)
    · simp only [String.utf8Len_append] at above
      omega
    · exact free.back mark bracket ⟨List.getLast?_concat, by rw [eqA, List.head?_cons]⟩
  -- The marker stands across the beginning of the text.
  · cases text with
    | nil =>
      rw [String.utf8Len_nil] at upper
      omega
    | cons c text =>
      obtain ⟨rfl, -⟩ := List.cons.inj eqT
      exact free.front c bracket ⟨List.getLast?_concat, List.head?_cons⟩

/-- Where no marker has a character, all stays when the body is stripped. -/
lemma NoMarkerIn.keepFrom_eq {before text after : String}
    (free : NoMarkerIn before.toList text.toList after.toList) :
    keepFrom (OnStrippedMarker (regions (before ++ text ++ after))) before.utf8ByteSize
      (bytes text) = bytes text := by
  have size (part : String) : part.utf8ByteSize = utf8Len part.toList := by
    rw [← String.utf8ByteSize_ofList, String.ofList_toList]
  apply keepFrom_of_not
  intro i lower upper
  rw [length_bytes, size, size] at upper
  rw [size] at lower
  exact free.not_onStrippedMarker (by simp) lower upper

/-- The bytes of two texts are kept or dropped text by text. -/
lemma keepFrom_bytes_append {dropped : Nat → Prop} [DecidablePred dropped] (position : Nat)
    (left right : String) :
    keepFrom dropped position (bytes (left ++ right)) =
      keepFrom dropped position (bytes left) ++
        keepFrom dropped (position + left.utf8ByteSize) (bytes right) := by
  rw [bytes_append, keepFrom_append, length_bytes]

/-- All bytes are kept exactly if no position among them is dropped. -/
lemma keepFrom_eq_self_iff {dropped : Nat → Prop} [DecidablePred dropped] {position : Nat}
    {bytes : List UInt8} :
    keepFrom dropped position bytes = bytes ↔
      ∀ i, position ≤ i → i < position + bytes.length → ¬ dropped i := by
  refine ⟨fun same i lower upper => ?_, keepFrom_of_not⟩
  have count := congrArg List.length same
  rw [keepFrom, List.length_map, ← List.length_zipIdx (l := bytes) (i := position),
    List.length_filter_eq_length_iff] at count
  obtain ⟨k, rfl⟩ := Nat.exists_eq_add_of_le lower
  have within : k < bytes.length := by omega
  have mem : (bytes[k], position + k) ∈ bytes.zipIdx position := by
    rw [List.mem_zipIdx_iff_le_and_getElem?_sub]
    simp [within]
  exact of_decide_eq_true (count _ mem)

end DisplayMath

open DisplayMath

/-- What a listing writes in front of its source. -/
def listingBegin : String :=
  "\\begin\x7bverbatim\x7d\n"

/-- What a listing writes behind its source. -/
def listingEnd : String :=
  "\n\\end\x7bverbatim\x7d"

/-- A literal block with a source writes it as it is. -/
lemma Tree.output_of_listing {style : Style} {tree : Tree} {code : String}
    (listing : tree.fields.name ∈ ["literal", "listing"])
    (source : tree.fields.source = some code) :
    (tree.convert style).output = listingBegin ++ code ++ listingEnd ++ "\n\n" := by
  have kind : tree.fields.nodeClass = .block ∧ tree.fields.blockKind = .literal := by
    obtain name | name : tree.fields.name = "literal" ∨ tree.fields.name = "listing" := by
      simpa using listing
    · rw [Fields.nodeClass, Fields.blockKind, name, if_neg (by decide)]
      decide
    · rw [Fields.nodeClass, Fields.blockKind, name, if_neg (by decide)]
      decide
  have own : tree.fields.ownContent? tree.children.isEmpty = some code := by
    rw [Fields.ownContent?, source]
  rw [convert_eq, ownRendering, kind.1]
  simp only [own, Option.getD_some, Fields.block, kind.2, Node.render, Node.text?, Block.text?]
  rw [← String.toList_inj]
  simp [Latex.environment, Latex.command, Latex.braced, listingBegin, listingEnd]

/-- What a sibling converts to stands in what the siblings read. -/
lemma siblingText_of_mem (style : Style) {siblings : List Tree} {sibling : Tree}
    (mem : sibling ∈ siblings) :
    ∃ before after,
      siblingText style siblings = before ++ (sibling.convert style).output ++ after := by
  unfold siblingText joinSiblings
  generalize separator siblings = between
  induction siblings with
  | nil => cases mem
  | cons first siblings ih =>
    cases siblings with
    | nil =>
      obtain rfl := List.mem_singleton.1 mem
      exact ⟨"", "", by simp⟩
    | cons second siblings =>
      rw [List.map_cons, List.map_cons, String.intercalate_cons_cons]
      cases mem with
      | head => exact ⟨"", _, by rw [String.empty_append, String.append_assoc]⟩
      | tail _ mem =>
        obtain ⟨before, after, eq⟩ := ih mem
        rw [List.map_cons] at eq
        exact ⟨_, after, by rw [eq, ← String.append_assoc, ← String.append_assoc]⟩

/-- A document writes its stripped body between other texts. -/
lemma Document.text_eq (style : Style) (root : Document) :
    ∃ front back, root.text style = front ++ strip root.content ++ back := by
  refine ⟨style.fragments.concat ++ root.frontMatter,
    "\n\n" ++ Latex.command "end" ["document"] ++ "\n\n", ?_⟩
  simp only [text, String.append_assoc]

/-- A document puts the stripped text of its children between a front and a back. -/
lemma Tree.output_of_document (style : Style) {tree : Tree}
    (document : tree.fields.name = "document") :
    ∃ front back, (tree.convert style).output =
      front ++ strip (siblingText style tree.children) ++ back := by
  have kind : tree.fields.nodeClass = .document := by
    rw [Fields.nodeClass, document]
    decide
  rw [convert_eq, ownRendering, kind]
  exact Document.text_eq style _

section Lines

variable {before code after : String}

/-- A line without markers has no part in one around it if it neither begins with a bracket nor ends
in a backslash. -/
lemma noMarkerIn_line {line : String}
    (free : ∀ mark ∈ ['[', ']'],
      ¬ HasMarker mark line.toList ∧ line.toList.head? ≠ some mark)
    (last : line.toList.getLast? ≠ some '\\') :
    NoMarkerIn before.toList line.toList after.toList where
  inside mark bracket := (free mark bracket).1
  front mark bracket straddles := (free mark bracket).2 straddles.2
  back _ _ straddles := last straddles.1

/-- No marker meets the opening of a listing. -/
lemma noMarkerIn_listingBegin : NoMarkerIn before.toList listingBegin.toList after.toList :=
  noMarkerIn_line (List.forall_mem_cons.2 ⟨by decide, List.forall_mem_singleton.2 (by decide)⟩)
    (by decide)

/-- No marker meets the closing of a listing. -/
lemma noMarkerIn_listingEnd : NoMarkerIn before.toList listingEnd.toList after.toList :=
  noMarkerIn_line (List.forall_mem_cons.2 ⟨by decide, List.forall_mem_singleton.2 (by decide)⟩)
    (by decide)

/-- Between its lines a source without markers is part of none. -/
lemma noMarkerIn_code (before after : String) (unopened : ¬ HasMarker '[' code.toList)
    (unclosed : ¬ HasMarker ']' code.toList) :
    NoMarkerIn (before ++ listingBegin).toList code.toList (listingEnd ++ after).toList where
  inside := List.forall_mem_cons.2 ⟨unopened, List.forall_mem_singleton.2 unclosed⟩
  front := by
    rintro mark - ⟨last, -⟩
    rw [String.toList_append, List.getLast?_append] at last
    exact absurd last (by simp [listingBegin])
  back := by
    rintro mark bracket ⟨-, head⟩
    have lineEnd : (listingEnd ++ after).toList.head? = some '\n' := by
      simp [listingEnd]
    rw [lineEnd, Option.some.injEq] at head
    subst head
    exact absurd bracket (by decide)

end Lines

/-- A document writes a listing with the lines around its source, and of the source all bytes but
those of the markers of the regions of its body that lay themselves out. Nothing is lost exactly if
no such marker lies in the source, and so if the source holds no display marker at all. -/
theorem Tree.convert_of_listing {style : Style} {tree child : Tree} {code : String}
    (document : tree.fields.name = "document") (mem : child ∈ tree.children)
    (listing : child.fields.name ∈ ["literal", "listing"])
    (source : child.fields.source = some code) :
    ∃ before after : String,
      let body := before ++ listingBegin ++ code ++ listingEnd ++ after
      let start := (before ++ listingBegin).utf8ByteSize
      let kept := keepFrom (OnStrippedMarker (regions body)) start (bytes code)
      siblingText style tree.children = body ∧
        bytes listingBegin ++ kept ++ bytes listingEnd <:+: bytes (tree.convert style).output ∧
        (kept = bytes code ↔
          ∀ i, start ≤ i → i < start + code.utf8ByteSize → ¬ OnStrippedMarker (regions body) i) ∧
        (¬ HasMarker '[' code.toList → ¬ HasMarker ']' code.toList → kept = bytes code) := by
  obtain ⟨before, after, sibling⟩ := siblingText_of_mem style mem
  obtain ⟨front, back, output⟩ := output_of_document style document
  refine ⟨before, "\n\n" ++ after, ?_⟩
  intro body start kept
  have whole : siblingText style tree.children = body := by
    rw [sibling, output_of_listing listing source]
    simp only [body, String.append_assoc]
  have begins : keepFrom (OnStrippedMarker (regions body)) before.utf8ByteSize
      (bytes listingBegin) = bytes listingBegin := by
    have shape : body = before ++ listingBegin ++ (code ++ listingEnd ++ ("\n\n" ++ after)) := by
      simp only [body, String.append_assoc]
    rw [shape]
    exact noMarkerIn_listingBegin.keepFrom_eq
  have ends : keepFrom (OnStrippedMarker (regions body))
      (before ++ listingBegin ++ code).utf8ByteSize (bytes listingEnd) = bytes listingEnd :=
    noMarkerIn_listingEnd.keepFrom_eq
  refine ⟨whole, ?_, ?_, fun unopened unclosed => ?_⟩
  -- What is kept of the body is what is kept of its parts.
  · have parts : bytes (strip body) =
        keepFrom (OnStrippedMarker (regions body)) 0 (bytes before) ++
          (bytes listingBegin ++ kept ++ bytes listingEnd) ++
          keepFrom (OnStrippedMarker (regions body))
            (before ++ listingBegin ++ code ++ listingEnd).utf8ByteSize
            (bytes ("\n\n" ++ after)) := by
      rw [bytes_strip, keepFrom_bytes_append, keepFrom_bytes_append, keepFrom_bytes_append,
        keepFrom_bytes_append]
      simp only [Nat.zero_add, begins, ends, kept, start, List.append_assoc]
    rw [output, whole, bytes_append, bytes_append, parts]
    exact (List.infix_append ..).trans (List.infix_append ..)
  · rw [keepFrom_eq_self_iff, length_bytes]
  · have shape : body = before ++ listingBegin ++ code ++ (listingEnd ++ ("\n\n" ++ after)) := by
      simp only [body, String.append_assoc]
    have same := (noMarkerIn_code before ("\n\n" ++ after) unopened unclosed).keepFrom_eq
    rw [← shape] at same
    exact same

/-- A listing whose closer ends a region that an array declares in front of it. -/
theorem convert_of_listing_behind_array :
    let opener : Tree :=
      ⟨{ Fields.blank with name := "pass", source := "\\[\\begin\x7barray\x7d" }, [], []⟩
    let listing : Tree := ⟨{ Fields.blank with name := "listing", source := "é\\]" }, [], []⟩
    let tree : Tree := ⟨{ Fields.blank with name := "document" }, [opener, listing], []⟩
    let style : Style := ⟨.empty, .default⟩
    ∃ before after : String,
      let body := before ++ listingBegin ++ "é\\]" ++ listingEnd ++ after
      let start := (before ++ listingBegin).utf8ByteSize
      let kept := keepFrom (OnStrippedMarker (regions body)) start (bytes "é\\]")
      siblingText style tree.children = body ∧
        bytes listingBegin ++ kept ++ bytes listingEnd <:+: bytes (tree.convert style).output ∧
        (kept = bytes "é\\]" ↔
          ∀ i, start ≤ i → i < start + "é\\]".utf8ByteSize →
            ¬ OnStrippedMarker (regions body) i) ∧
        (¬ HasMarker '[' "é\\]".toList → ¬ HasMarker ']' "é\\]".toList → kept = bytes "é\\]") := by
  intro opener listing tree style
  have mem : listing ∈ tree.children := List.mem_cons_of_mem _ List.mem_cons_self
  exact Tree.convert_of_listing rfl mem (by decide) rfl

/-- A listing of one region that declares nothing does not arrive as it is. -/
theorem listing_loses_markers :
    let listing : Tree := ⟨{ Fields.blank with name := "listing", source := "\\[x\\]" }, [], []⟩
    let tree : Tree := ⟨{ Fields.blank with name := "document" }, [listing], []⟩
    let style : Style := ⟨.empty, ⟨"", "", ""⟩⟩
    ¬ (listingBegin ++ "\\[x\\]" ++ listingEnd).toList <:+: (tree.convert style).output.toList := by
  decide +kernel

end Typeset
