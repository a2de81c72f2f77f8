import Mathlib.Data.List.Infix
import Typeset.Proofs.Renderer.Replay
import Typeset.Proofs.Tree.Composition

/-!
# Renderers and their steps

The steps that one renderer takes do not interfere. By `step_eq` a step renders what it renders with
a renderer of its own and adds what it raises there, whatever the renderer has done before; by
induction the diagnostics after any number of steps are those of the steps, one after the other.
-/

namespace Typeset.Renderer

/-- What a step raises with a renderer of its own. -/
def Step.raised (settings : Settings) (step : Step) : List Diagnostic :=
  ((start settings).step step).2.diagnostics

variable (renderer : Renderer) (settings : Settings)

/-- A step depends on nothing but the settings, and changes nothing but what has been collected and
logged. -/
lemma step_eq (step : Step) :
    (renderer.step step).1 = ((start renderer.settings).step step).1 ∧
      (renderer.step step).2.settings = renderer.settings ∧
      (renderer.step step).2.diagnostics =
        renderer.diagnostics ++ step.raised renderer.settings := by
  cases step with
  | render node =>
    simp only [Renderer.step, Step.raised, render_eq]
    exact ⟨rfl, rfl, rfl⟩
  | reportUnknown name => exact ⟨rfl, rfl, rfl⟩

/-- Reporting an unknown name raises that one diagnostic. -/
lemma raised_reportUnknown (name : String) :
    (Step.reportUnknown name).raised settings = [.unrecognizedVariant name] :=
  rfl

/-- A renderer collects what the node's own rendering raises. -/
lemma raised_render (node : Node) :
    (Step.render node).raised settings = (node.render settings.style).diagnostics := by
  simp only [Step.raised, step, render_eq]
  rfl

/-- What the steps render, each by itself. -/
lemma map_fst_run (steps : List Step) :
    (renderer.run steps).map Prod.fst =
      steps.map fun step => ((start renderer.settings).step step).1 := by
  induction steps generalizing renderer with
  | nil => rfl
  | cons step steps ih =>
    obtain ⟨output, settings, -⟩ := step_eq renderer step
    rw [run, List.map_cons, List.map_cons, output, ih, settings]

/-- What has been collected after each of the steps. -/
lemma map_diagnostics_run (steps : List Step) :
    (renderer :: (renderer.run steps).map Prod.snd).map diagnostics =
      steps.inits.map fun before =>
        renderer.diagnostics ++ before.flatMap (Step.raised renderer.settings) := by
  induction steps generalizing renderer with
  | nil => simp [run]
  | cons step steps ih =>
    obtain ⟨-, settings, diagnostics⟩ := step_eq renderer step
    have later := ih (renderer.step step).2
    rw [settings, diagnostics] at later
    rw [run, List.map_cons, List.map_cons, later, List.inits_cons, List.map_cons, List.map_map]
    simp [Function.comp_def]

/-- After a run a renderer has the diagnostics from before and those of each step. -/
lemma diagnostics_getLast_run (steps : List Step) :
    ((renderer :: (renderer.run steps).map Prod.snd).getLast (List.cons_ne_nil _ _)).diagnostics =
      renderer.diagnostics ++ steps.flatMap (Step.raised renderer.settings) := by
  induction steps generalizing renderer with
  | nil => simp [run]
  | cons step steps ih =>
    obtain ⟨-, settings, diagnostics⟩ := step_eq renderer step
    have later := ih (renderer.step step).2
    rw [settings, diagnostics, List.append_assoc] at later
    exact later

/-- Nothing that has been collected is given up. -/
lemma pairwise_count_run (steps : List Step) :
    ((renderer :: (renderer.run steps).map Prod.snd).map count).Pairwise (· ≤ ·) := by
  rw [← List.isChain_iff_pairwise]
  induction steps generalizing renderer with
  | nil => exact .singleton _
  | cons step steps ih =>
    obtain ⟨-, -, diagnostics⟩ := step_eq renderer step
    refine List.isChain_cons_cons.2 ⟨?_, ih (renderer.step step).2⟩
    rw [count, count, diagnostics, List.length_append]
    exact Nat.le_add_right _ _

/-- Steps that one renderer takes do not interfere. Each of them renders what it renders with a
renderer of its own; the diagnostics after each number of steps are those that the steps raise with
renderers of their own, in order. A report raises one diagnostic and a rendering at most one. The
count is that of the diagnostics so far, never falls, and is zero as long as nothing is raised. -/
theorem run_independent (steps : List Step) :
    let fresh := start settings
    let taken := fresh.run steps
    let renderers := fresh :: taken.map Prod.snd
    (taken.map Prod.fst = steps.map fun step => (fresh.step step).1) ∧
      (∀ (used : Renderer) (step : Step),
        (used.step step).1 = ((start used.settings).step step).1) ∧
      (renderers.getLast (List.cons_ne_nil _ _)).diagnostics =
        steps.flatMap (Step.raised settings) ∧
      (∀ name, (Step.reportUnknown name).raised settings = [.unrecognizedVariant name]) ∧
      (∀ node, ((Step.render node).raised settings).length ≤ 1) ∧
      (renderers.map diagnostics =
        steps.inits.map fun before => before.flatMap (Step.raised settings)) ∧
      (renderers.map count =
        steps.inits.map fun before => (before.flatMap (Step.raised settings)).length) ∧
      (renderers.map count).Pairwise (· ≤ ·) ∧
      ∀ reached : Renderer, reached.isClean = true ↔ reached.count = 0 := by
  intro fresh taken renderers
  have collected : renderers.map diagnostics =
      steps.inits.map fun before => before.flatMap (Step.raised settings) :=
    map_diagnostics_run fresh steps
  refine ⟨map_fst_run fresh steps, fun used step => (step_eq used step).1,
    diagnostics_getLast_run fresh steps, raised_reportUnknown settings, fun node => ?_, collected,
    ?_, pairwise_count_run fresh steps, fun reached => ?_⟩
  · rw [raised_render]
    exact Node.length_diagnostics_render settings.style node
  · have counts := congrArg (List.map List.length) collected
    rw [List.map_map, List.map_map] at counts
    exact counts
  · rw [isClean, count, List.isEmpty_iff, List.length_eq_zero_iff]

end Typeset.Renderer
