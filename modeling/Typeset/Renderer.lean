import Typeset.Rendering

/-!
# Renderers

A renderer renders one node after the other, collects the diagnostics, and writes its log as it
goes. Its verbosity is asked whenever there is something to log; a quiet renderer does not log its
diagnostics, but it collects them.
-/

namespace Typeset

/-- The settings of a renderer. -/
structure Settings where
  verbosity : Verbosity
  style : Style
  deriving DecidableEq, Repr

/-- The settings of a renderer, the diagnostics that it has collected, and its log so far. -/
structure Renderer where
  settings : Settings
  diagnostics : List Diagnostic
  events : List Event
  deriving DecidableEq, Repr

namespace Renderer

/-- A renderer that has rendered nothing. -/
def start (settings : Settings) : Renderer where
  settings
  diagnostics := []
  events := []

/-- Logs an occurrence, as far as it is to be logged. -/
def note (renderer : Renderer) (occurrence : Occurrence) : Renderer :=
  { renderer with
    events := renderer.events ++ occurrence.events renderer.settings.verbosity }

/-- Logs occurrences one after the other. -/
def noteAll (renderer : Renderer) (occurrences : List Occurrence) : Renderer :=
  occurrences.foldl note renderer

/-- Raises a diagnostic. -/
def report (renderer : Renderer) (diagnostic : Diagnostic) : Renderer :=
  let noted := renderer.note (.raised diagnostic)
  { noted with diagnostics := noted.diagnostics ++ [diagnostic] }

/-- Reports a node that has no variant. -/
def reportUnknown (renderer : Renderer) (name : String) : Renderer :=
  renderer.report (.unrecognizedVariant name)

/-- The text of a template; where there is none, nothing, and the diagnostic is raised. -/
def settle (renderer : Renderer) : Except Diagnostic String → String × Renderer
  | .ok text => (text, renderer)
  | .error diagnostic => ("", renderer.report diagnostic)

/-- Renders a document. Each region of its body is logged as it is dealt with. -/
def renderDocument (renderer : Renderer) (root : Document) : String × Renderer :=
  (root.text renderer.settings.style,
    renderer.noteAll ((DisplayMath.regions root.content).map .region))

/-- Renders a list. Each entry is logged as it is written. -/
def renderList (renderer : Renderer) (list : ItemList) : String × Renderer :=
  match list.text? with
  | .ok text => (text, renderer.noteAll (list.items.map (.item ·.text)))
  | .error diagnostic => ("", renderer.report diagnostic)

/-- Renders a node. -/
def render (renderer : Renderer) (node : Node) : String × Renderer :=
  let noted := renderer.note (.visited node)
  match node with
  | .document root => noted.renderDocument root
  | .heading part => noted.settle part.text?
  | .itemList list => noted.renderList list
  | .block body => noted.settle body.text?
  | .inline span => noted.settle (span.text? noted.settings.style)

/-- What a renderer is asked to do next. -/
inductive Step where
  /-- To render a node. -/
  | render (node : Node)
  /-- To report a node that has no variant. -/
  | reportUnknown (name : String)
  deriving DecidableEq, Repr

/-- Takes a step; gives the text that it renders, if any, and the renderer after it. -/
def step (renderer : Renderer) : Step → Option String × Renderer
  | .render node =>
    let (output, next) := renderer.render node
    (some output, next)
  | .reportUnknown name => (none, renderer.reportUnknown name)

/-- Takes steps one after the other; gives what each renders and the renderer after each. -/
def run (renderer : Renderer) : List Step → List (Option String × Renderer)
  | [] => []
  | next :: steps =>
    let taken := renderer.step next
    taken :: run taken.2 steps

/-- How many diagnostics have been collected. -/
def count (renderer : Renderer) : Nat :=
  renderer.diagnostics.length

/-- Whether no diagnostic has been collected. -/
def isClean (renderer : Renderer) : Bool :=
  renderer.diagnostics.isEmpty

end Renderer

end Typeset
