import Mathlib.Tactic.Lemma
import Typeset.Proofs.Tree.Visit
import Typeset.Tree.Logged

/-!
# Renderers replay journals

What a renderer adds to its diagnostics and to its log is what it makes of the journal that a
session keeps of the same steps. So a renderer that walks a tree behaves like a session that walks
it, whatever its settings are and whatever it has rendered before.
-/

namespace Typeset

/-- The renderer that a renderer becomes where the session goes from its start: the journal is
replayed behind what the renderer holds. -/
def Session.replay (base : Renderer) (session : Session) : Renderer where
  settings := ⟨base.settings.verbosity, session.style⟩
  diagnostics := base.diagnostics ++ diagnosticsOf session.journal
  events := base.events ++ log base.settings.verbosity session.journal

namespace Session

variable (base : Renderer) (session : Session)

/-- A session that has just started changes nothing when it is replayed. -/
lemma replay_start : (start base.settings.style).replay base = base := by
  simp [replay, start, diagnosticsOf, log]

/-- What a session notes down without a diagnostic is logged. -/
lemma noteAll_replay {occurrences : List Occurrence}
    (silent : ∀ occurrence ∈ occurrences, occurrence.diagnostic? = none) :
    (session.replay base).noteAll occurrences = (session.extend occurrences).replay base := by
  induction occurrences generalizing session with
  | nil => rw [extend_nil, Renderer.noteAll, List.foldl_nil]
  | cons occurrence occurrences ih =>
    obtain ⟨here, later⟩ := List.forall_mem_cons.1 silent
    have noted : (session.replay base).note occurrence =
        (session.extend [occurrence]).replay base := by
      simp [Renderer.note, replay, extend, diagnosticsOf, log, here]
    rw [Renderer.noteAll, List.foldl_cons, noted, ← Renderer.noteAll, ih _ later, extend_extend,
      List.singleton_append]

/-- Reporting to a replayed session is replaying the report. -/
lemma report_replay (diagnostic : Diagnostic) :
    (session.replay base).report diagnostic = (session.report diagnostic).replay base := by
  simp [Renderer.report, Renderer.note, replay, report, diagnosticsOf, log,
    Occurrence.diagnostic?]

/-- Reporting an unknown name to a replayed session is replaying the report. -/
lemma reportUnknown_replay (name : String) :
    (session.replay base).reportUnknown name = (session.reportUnknown name).replay base :=
  report_replay base session _

/-- Rendering a node adds what the node notes down. -/
lemma render_replay (node : Node) :
    (session.replay base).render node =
      ((session.render node).1, (session.render node).2.replay base) := by
  have noted : (session.replay base).note (.visited node) =
      (session.extend [.visited node]).replay base := by
    exact noteAll_replay base session (List.forall_mem_singleton.2 rfl)
  -- A template that answers with a diagnostic has it raised.
  have settled (diagnostic : Diagnostic) :
      ((session.extend [.visited node]).replay base).settle (.error diagnostic) =
        ("", (session.extend [.visited node, .raised diagnostic]).replay base) := by
    rw [Renderer.settle, report_replay, report, ← extend, extend_extend, List.singleton_append]
  rw [render_eq]
  unfold Renderer.render Node.render
  rw [noted]
  cases node with
  | document root =>
    simp only [Renderer.renderDocument, Node.text?, Node.occurrences]
    rw [noteAll_replay, extend_extend, List.singleton_append]
    · rfl
    · intro occurrence mem
      obtain ⟨region, -, rfl⟩ := List.mem_map.1 mem
      rfl
  | itemList list =>
    simp only [Renderer.renderList, Node.text?, Node.occurrences]
    cases list.text? with
    | ok text =>
      dsimp only
      rw [noteAll_replay, extend_extend, List.singleton_append]
      intro occurrence mem
      obtain ⟨item, -, rfl⟩ := List.mem_map.1 mem
      rfl
    | error diagnostic =>
      dsimp only
      rw [report_replay, report, ← extend, extend_extend, List.singleton_append]
  | heading part =>
    simp only [Node.text?, Node.occurrences]
    cases part.text? with
    | ok text => rfl
    | error diagnostic => exact settled diagnostic
  | block body =>
    simp only [Node.text?, Node.occurrences]
    cases body.text? with
    | ok text => rfl
    | error diagnostic => exact settled diagnostic
  | inline span =>
    have style : ((session.extend [.visited (.inline span)]).replay base).settings.style =
        session.style := rfl
    simp only [style, Node.text?, Node.occurrences]
    cases span.text? session.style with
    | ok text => rfl
    | error diagnostic => exact settled diagnostic

/-- Replaying behind a renderer goes along with every step. -/
lemma maps_replay : walker.Maps Renderer.walker (replay base) where
  render session node := render_replay base session node
  reportUnknown session name := reportUnknown_replay base session name

end Session

/-- Whatever a renderer has done before, it renders a node to the text of the node's own rendering, and
adds the journal of that. -/
theorem Renderer.render_eq (renderer : Renderer) (node : Node) :
    let rendering := node.render renderer.settings.style
    renderer.render node =
      (rendering.output, (⟨renderer.settings.style, rendering.journal⟩ : Session).replay renderer) := by
  intro rendering
  have rendered := Session.render_replay renderer (.start renderer.settings.style) node
  rw [Session.replay_start] at rendered
  exact rendered

/-- Whatever a renderer has done before, it walks a tree to the text of the tree's own conversion, and
adds the journal of that. -/
theorem Renderer.walk_eq (renderer : Renderer) (tree : Tree) :
    let rendering := tree.convert renderer.settings.style
    walker.walk renderer tree =
      (rendering.output, (⟨renderer.settings.style, rendering.journal⟩ : Session).replay renderer) := by
  intro rendering
  have walked := (Session.maps_replay renderer).walk (.start renderer.settings.style) tree
  rw [Session.replay_start, Session.independent] at walked
  exact walked

end Typeset
