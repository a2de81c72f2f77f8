import Mathlib.Data.List.Basic
import Typeset.Proofs.Renderer.Replay

/-!
# The log of a conversion

What a conversion logs is read off its journal, so the verbosity decides on the log alone. The
journal goes through the visited nodes in the order in which they are rendered: each one behind all
that is visited from it. Nodes show in the log if it is verbose, diagnostics unless it is quiet, and
the regions of the documents always.
-/

namespace Typeset

/-- The variant of the nodes of a class, if it has one. -/
def NodeClass.variant? : NodeClass → Option String
  | leaf => none
  | document => some "document"
  | heading => some "section"
  | itemList => some "list"
  | block => some "block"
  | inline => some "inline"
  | unknown => none

/-- The children that are visited are smaller than their tree. -/
lemma Tree.sizeOf_lt_of_mem_visitedChildren {tree child : Tree}
    (mem : child ∈ tree.visitedChildren) : sizeOf child < sizeOf tree := by
  obtain ⟨fields, children, entries⟩ := tree
  obtain within | ⟨⟨text, nested⟩, listed, inside⟩ := mem_visitedChildren mem
  · have smaller := List.sizeOf_lt_of_mem within
    simp only [Tree.mk.sizeOf_spec] at smaller ⊢
    omega
  · have smaller := List.sizeOf_lt_of_mem listed
    have smaller' := List.sizeOf_lt_of_mem inside
    simp only [Tree.mk.sizeOf_spec, Entry.mk.sizeOf_spec] at smaller smaller' ⊢
    omega

/-- The nodes that a conversion visits, each one behind all that it visits from there. -/
def Tree.postorder (tree : Tree) : List Tree :=
  (tree.visitedChildren.attach.flatMap fun child => child.1.postorder) ++ [tree]
termination_by sizeOf tree
decreasing_by exact Tree.sizeOf_lt_of_mem_visitedChildren child.2

/-- The event of a diagnostic. -/
def Diagnostic.event (diagnostic : Diagnostic) : Event :=
  ⟨.warn, diagnostic.message, []⟩

/-- The event that a node of a variant is rendered. -/
def renderingEvent (variant : String) : Event :=
  ⟨.trace, "Rendering node", [("variant", .text variant)]⟩

/-- The event of a region of a body. -/
def DisplayMath.Region.event (region : DisplayMath.Region) : Event :=
  ⟨.trace, "Display math region",
    [("environment", .text region.environment), ("start", .number region.start),
      ("strip", .flag (DisplayMath.isSelfDelimiting region.environment))]⟩

namespace Event

/-- Whether an event is a warning. -/
def isWarning (event : Event) : Bool :=
  event.severity == .warn

/-- Whether an event says that a node is rendered. -/
def isRendering (event : Event) : Bool :=
  event.severity == .trace && event.message == "Rendering node"

/-- Whether an event is about a region of a body. -/
def isRegion (event : Event) : Bool :=
  event.severity == .trace && event.message == "Display math region"

/-- Whether an event is about a node or an entry of a list. -/
def isAboutNode (event : Event) : Bool :=
  !event.isWarning &&
    ["Rendering node", "Node: document", "Node: section", "Node: list", "Node: block",
      "Node: inline", "  item"].contains event.message

end Event

/-- A tree comes after all that is visited below it. -/
lemma Tree.postorder_eq (tree : Tree) :
    tree.postorder = tree.visitedChildren.flatMap postorder ++ [tree] := by
  rw [postorder]
  simp only [List.flatMap_subtype, List.unattach_attach]

namespace Occurrence

/-- The variant of the node that is rendered. -/
def variant? : Occurrence → Option String
  | visited node => some node.variant
  | _ => none

/-- The region that is dealt with. -/
def region? : Occurrence → Option DisplayMath.Region
  | region math => some math
  | _ => none

variable (verbose quiet : Bool) (verbosity : Verbosity) (occurrence : Occurrence)

/-- The warning of an occurrence is its diagnostic. -/
lemma filter_isWarning :
    (occurrence.events ⟨verbose, false⟩).filter Event.isWarning =
      (occurrence.diagnostic?.map Diagnostic.event).toList := by
  cases occurrence with
  | visited node => cases verbose <;> cases node <;> rfl
  | item text => cases verbose <;> rfl
  | _ => rfl

/-- Under quiet settings nothing warns. -/
lemma filter_isWarning_of_quiet :
    (occurrence.events ⟨verbose, true⟩).filter Event.isWarning = [] := by
  cases occurrence with
  | visited node => cases verbose <;> cases node <;> rfl
  | item text => cases verbose <;> rfl
  | _ => rfl

/-- Under verbose settings the rendering of a node is logged with its variant. -/
lemma filter_isRendering :
    (occurrence.events ⟨true, quiet⟩).filter Event.isRendering =
      (occurrence.variant?.map renderingEvent).toList := by
  cases occurrence with
  | visited node => cases node <;> rfl
  | raised diagnostic => cases quiet <;> rfl
  | _ => rfl

/-- Without verbose settings nothing is logged about nodes. -/
lemma filter_isAboutNode :
    (occurrence.events ⟨false, quiet⟩).filter Event.isAboutNode = [] := by
  cases occurrence with
  | raised diagnostic => cases quiet <;> rfl
  | _ => rfl

/-- A region is logged under any settings. -/
lemma filter_isRegion :
    (occurrence.events verbosity).filter Event.isRegion =
      (occurrence.region?.map DisplayMath.Region.event).toList := by
  obtain ⟨verbose, quiet⟩ := verbosity
  cases occurrence with
  | visited node => cases verbose <;> cases node <;> rfl
  | item text => cases verbose <;> rfl
  | raised diagnostic => cases quiet <;> rfl
  | _ => rfl

end Occurrence

section Logs

variable {verbosity : Verbosity} {keep : Event → Bool}

/-- The events of a kind that a log holds, if each occurrence has at most one of them. -/
lemma filter_log_eq_map {α : Type} {view : Occurrence → Option α} {event : α → Event}
    (here : ∀ occurrence : Occurrence, (occurrence.events verbosity).filter keep =
      ((view occurrence).map event).toList) (journal : List Occurrence) :
    (log verbosity journal).filter keep = (journal.filterMap view).map event := by
  rw [log, List.filter_flatMap, List.map_filterMap, List.filterMap_eq_flatMap_toList]
  exact List.flatMap_congr fun occurrence _ => here occurrence

/-- A log has no event of a sort that no occurrence causes. -/
lemma filter_log_eq_nil
    (here : ∀ occurrence : Occurrence, (occurrence.events verbosity).filter keep = [])
    (journal : List Occurrence) : (log verbosity journal).filter keep = [] := by
  rw [log, List.filter_flatMap, List.flatMap_eq_nil_iff]
  exact fun occurrence _ => here occurrence

end Logs

section Journals

variable (style : Style)

/-- A node that is rendered is noted down once, with or without a template. -/
lemma Node.variant?_render (node : Node) :
    (node.render style).journal.filterMap Occurrence.variant? = [node.variant] := by
  have silent : node.occurrences.filterMap Occurrence.variant? = [] := by
    cases node <;> simp [occurrences, Occurrence.variant?]
  unfold render
  cases node.text? style with
  | ok text =>
    exact congrArg (node.variant :: ·) silent
  | error diagnostic => rfl

/-- Only a document deals with regions: with those of its body. -/
lemma Node.region?_render (node : Node) :
    (node.render style).journal.filterMap Occurrence.region? =
      match node with
      | .document root => DisplayMath.regions root.content
      | _ => [] := by
  cases node with
  | document root =>
    have regions (found : List DisplayMath.Region) :
        (found.map Occurrence.region).filterMap Occurrence.region? = found := by
      rw [List.filterMap_map]
      exact List.filterMap_some
    exact regions (DisplayMath.regions root.content)
  | _ =>
    unfold render
    split
    · simp [occurrences, Occurrence.region?]
    · rfl

/-- The variant of a node, if it has one, is noted down by the node itself. -/
lemma Tree.variant?_ownRendering (content : List Tree → String) (tree : Tree) :
    (tree.ownRendering style content).journal.filterMap Occurrence.variant? =
      tree.fields.nodeClass.variant?.toList := by
  unfold ownRendering
  cases tree.fields.nodeClass with
  | leaf => rfl
  | unknown => rfl
  | _ => exact Node.variant?_render style _

/-- The own rendering of a tree comes upon the regions of its content if it is a document, and upon
none otherwise. -/
lemma Tree.region?_ownRendering (content : List Tree → String) (tree : Tree) :
    (tree.ownRendering style content).journal.filterMap Occurrence.region? =
      if tree.fields.nodeClass = .document then DisplayMath.regions (content tree.children)
      else [] := by
  unfold ownRendering
  cases tree.fields.nodeClass with
  | leaf => rfl
  | unknown => rfl
  | _ => exact Node.region?_render style _

/-- The journal of a conversion is made of what the visited nodes note down by themselves. -/
lemma Tree.journal_convert (tree : Tree) :
    (tree.convert style).journal = tree.postorder.flatMap fun node =>
      (node.ownRendering style (siblingText style)).journal := by
  induction tree using Tree.visitInduction with
  | step tree visited =>
    rw [convert_eq, postorder_eq, List.flatMap_append, List.flatMap_singleton, List.flatMap_assoc]
    exact congrArg (· ++ _) (List.flatMap_congr visited)

end Journals

/-- The log of a conversion is that of its journal. -/
lemma Tree.convertLogged_eq (settings : Settings) (tree : Tree) :
    let rendering := tree.convert settings.style
    tree.convertLogged settings = (rendering.output,
      ⟨settings, rendering.diagnostics, log settings.verbosity rendering.journal⟩) := by
  intro rendering
  rw [convertLogged, Renderer.walk_eq]
  simp only [Session.replay, Renderer.start, List.nil_append]
  rfl

/-- The verbosity decides on the log alone. Unless it is quiet, the log warns of each diagnostic, and
of nothing else. If it is verbose, the log tells of each visited node that has a variant, behind all
that is visited from the node; otherwise it does not tell of nodes. It tells of the regions of each
visited document's body in any case, and of whether they lose their markers. -/
theorem Tree.convertLogged_log (style : Style) (tree : Tree) :
    let converted (verbose quiet : Bool) := tree.convertLogged ⟨⟨verbose, quiet⟩, style⟩
    let events (verbose quiet : Bool) := (converted verbose quiet).2.events
    (∀ verbose quiet verbose' quiet',
        (converted verbose quiet).1 = (converted verbose' quiet').1 ∧
          (converted verbose quiet).2.diagnostics = (converted verbose' quiet').2.diagnostics) ∧
      (∀ verbose, (events verbose false).filter Event.isWarning =
        (converted verbose false).2.diagnostics.map Diagnostic.event) ∧
      (∀ verbose, (events verbose true).filter Event.isWarning = []) ∧
      (∀ quiet, (events false quiet).filter Event.isAboutNode = []) ∧
      (∀ quiet, (events true quiet).filter Event.isRendering =
        (tree.postorder.filterMap fun node => node.fields.nodeClass.variant?).map renderingEvent) ∧
      ∀ verbose quiet, (events verbose quiet).filter Event.isRegion =
        (tree.postorder.flatMap fun node =>
          if node.fields.nodeClass = .document then
            DisplayMath.regions (siblingText style node.children)
          else []).map DisplayMath.Region.event := by
  intro converted events
  have logged (verbose quiet : Bool) :
      events verbose quiet = log ⟨verbose, quiet⟩ (tree.convert style).journal := by
    simp only [events, converted, convertLogged_eq]
  have same (verbose quiet : Bool) : (converted verbose quiet).1 = (tree.convert style).output ∧
      (converted verbose quiet).2.diagnostics = (tree.convert style).diagnostics := by
    simp only [converted, convertLogged_eq, and_self]
  refine ⟨fun verbose quiet verbose' quiet' => ?_, fun verbose => ?_, fun verbose => ?_,
    fun quiet => ?_, fun quiet => ?_, fun verbose quiet => ?_⟩
  · obtain ⟨output, diagnostics⟩ := same verbose quiet
    obtain ⟨output', diagnostics'⟩ := same verbose' quiet'
    exact ⟨output.trans output'.symm, diagnostics.trans diagnostics'.symm⟩
  · rw [logged, (same verbose false).2, filter_log_eq_map (Occurrence.filter_isWarning verbose)]
    rfl
  · rw [logged, filter_log_eq_nil (Occurrence.filter_isWarning_of_quiet verbose)]
  · rw [logged, filter_log_eq_nil (Occurrence.filter_isAboutNode quiet)]
  · rw [logged, filter_log_eq_map (Occurrence.filter_isRendering quiet), journal_convert,
      List.filterMap_flatMap, List.filterMap_eq_flatMap_toList]
    simp only [variant?_ownRendering]
  · rw [logged, filter_log_eq_map (Occurrence.filter_isRegion _), journal_convert,
      List.filterMap_flatMap]
    simp only [region?_ownRendering]

end Typeset
