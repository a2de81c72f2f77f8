import Typeset.Config
import Typeset.Failure
import Typeset.Fragments
import Typeset.Journal
import Typeset.Tree.Json

/-!
# Jobs

A job works with files, may fail, and notes in its journal what it does. Here are the jobs that load
a configuration, fragments and a tree.
-/

namespace Typeset

/-- Work with files that may fail. The journal survives a failure. -/
abbrev Job (m : Type → Type) (α : Type) : Type :=
  ExceptT Failure (StateT (List Occurrence) m) α

namespace Job

variable {m : Type → Type} [Monad m]

/-- Notes an occurrence. -/
def note (occurrence : Occurrence) : Job m Unit :=
  modify (· ++ [occurrence])

/-- The text of a file, or the failure that the file error amounts to. -/
def readFile (files : FileAccess m) (path : String) (failure : FileError → Failure) :
    Job m String := do
  match ← files.read path with
  | .ok text => return text
  | .error error => throw (failure error)

/-- Does a job with an empty journal; gives its result and its journal. -/
def perform {α : Type} (job : Job m α) : m (Except Failure α × List Occurrence) :=
  StateT.run (ExceptT.run job) []

end Job

variable {m : Type → Type} [Monad m]

/-- Loads a configuration. Its fragment paths become relative to the folder of its file. -/
def Config.load (files : FileAccess m) (path : String) : Job m Config := do
  let text ← Job.readFile files path (.unreadableConfig path)
  match Config.parse? text with
  | none => throw .invalidConfig
  | some config =>
    match Path.parent? path with
    | none => return config
    | some folder => return { config with fragments := config.fragments.relativeTo folder }

/-- Loads one fragment, unless it is built in. -/
def loadFragment (files : FileAccess m) (name : String) (path : Option String) (builtIn : String) :
    Job m String := do
  match path with
  | none => return builtIn
  | some path =>
    Job.note (.loading name path)
    Job.readFile files path (.unreadableFragment name path)

/-- Loads the fragments. -/
def Fragments.load (files : FileAccess m) (paths : FragmentPaths) : Job m Fragments := do
  let preamble ← loadFragment files "preamble" paths.preamble defaultPreamble
  let frameworkMacros ← loadFragment files "framework macros" paths.macros defaultMacros
  let userMacros ← loadFragment files "user macros" paths.userMacros ""
  return { preamble, frameworkMacros, userMacros }

/-- Loads a tree. -/
def Tree.load (files : FileAccess m) (path : String) : Job m Tree := do
  let text ← Job.readFile files path (.unreadableTree path)
  match Tree.parse text with
  | .ok tree => return tree
  | .error cause => throw (.invalidTree cause)

end Typeset
