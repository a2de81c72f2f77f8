import Typeset.Command.Arguments
import Typeset.Job
import Typeset.Tree.Convert

/-!
# Running commands

A command first does all its reading and converting, and only then writes. Whatever fails before
that leaves every file as it is and shows nothing but the failure.
-/

namespace Typeset.Command

/-- What a run shows: its exit code, its output, its own lines on the error channel, and its log. -/
structure Report where
  exitCode : Nat
  output : String
  errorLines : List String
  log : List Event
  deriving DecidableEq, Repr

/-- The name and version of the program. -/
def versionLine : String :=
  "tex-converter 0.1.0\n"

/-- The line that shows a failure. -/
def failureLine (failure : Failure) : String :=
  "Error: " ++ failure.message

/-- The report of a run that fails, after the given lines. -/
def failed (lines : List String) (failure : Failure) (log : List Event) : Report where
  exitCode := 1
  output := ""
  errorLines := lines ++ [failureLine failure]
  log

/-- The configuration in effect: the arguments go before the configuration file. -/
def Conversion.override (conversion : Conversion) (config : Config) : Config where
  verbosity :=
    if conversion.verbose then ⟨true, false⟩
    else if conversion.quiet then ⟨false, true⟩
    else config.verbosity
  fragments :=
    { preamble := conversion.preamble <|> config.fragments.preamble
      macros := conversion.macros <|> config.fragments.macros
      userMacros := conversion.userMacros <|> config.fragments.userMacros }
  roles := config.roles

/-- The summary of a conversion: how many nodes raised a diagnostic, unless none did or nobody asks.
-/
def summary (input : String) (verbosity : Verbosity) (diagnostics : List Diagnostic) :
    List String :=
  if diagnostics.isEmpty || verbosity.quiet then []
  else [input ++ ": " ++ toString diagnostics.length ++ " node(s) could not be rendered"]

/-- The events of a journal that show: all but traces when verbose, none when quiet, else warnings.
-/
def shown (verbosity : Verbosity) (journal : List Occurrence) : List Event :=
  (log verbosity journal).filter fun event =>
    match event.severity with
    | .trace => false
    | .debug => verbosity.verbose
    | .warn => verbosity.verbose || !verbosity.quiet

variable {m : Type → Type} [Monad m]

/-- The configuration of a conversion. -/
def loadConfig (files : FileAccess m) (conversion : Conversion) : Job m Config := do
  match conversion.config with
  | none => return conversion.override .default
  | some path => return conversion.override (← Config.load files path)

/-- Loads the fragments and the tree of a conversion, and converts. -/
def prepare (files : FileAccess m) (config : Config) (input : String) : Job m Rendering := do
  let fragments ← Fragments.load files config.fragments
  let tree ← Tree.load files input
  return tree.convert { roles := config.roles, fragments }

/-- Writes a text to a file, or shows it where no file is named. -/
def deliver (files : FileAccess m) (output : Option String) (text : String) (lines : List String)
    (log : List Event) : m Report := do
  match output with
  | none => return { exitCode := 0, output := text, errorLines := lines, log }
  | some path =>
    match ← files.write path text with
    | .ok () => return { exitCode := 0, output := "", errorLines := lines, log }
    | .error error => return failed lines (.file error) log

/-- Converts a tree file. Without a configuration nothing is known of what the log should show. -/
def runConversion (files : FileAccess m) (conversion : Conversion) : m Report := do
  match ← (loadConfig files conversion).perform with
  | (.error failure, _) => return failed [] failure []
  | (.ok config, _) =>
    match ← (prepare files config conversion.input).perform with
    | (.error failure, journal) => return failed [] failure (shown config.verbosity journal)
    | (.ok rendering, journal) =>
      deliver files conversion.output rendering.output
        (summary conversion.input config.verbosity rendering.diagnostics)
        (shown config.verbosity (journal ++ rendering.journal))

/-- Strips the display-math markers of a text file. -/
def runEnvironments (files : FileAccess m) (input : String) (output : Option String) :
    m Report := do
  match ← files.read input with
  | .error error => return failed [] (.file error) []
  | .ok text => deliver files output (DisplayMath.strip text) [] []

/-- Runs a command line. -/
def run (files : FileAccess m) (arguments : List String) : m Report := do
  match Request.read arguments with
  | .error .usage => return { exitCode := 2, output := "", errorLines := [], log := [] }
  | .error .help => return { exitCode := 0, output := "", errorLines := [], log := [] }
  | .error .version => return { exitCode := 0, output := versionLine, errorLines := [], log := [] }
  | .ok (.convert conversion) => runConversion files conversion
  | .ok (.environments input output) => runEnvironments files input output

end Typeset.Command
