import Mathlib.Tactic.Lemma
import Typeset.Command.Run
import Typeset.Proofs.FileSystem
import Typeset.Proofs.Renderer.Log

/-!
# Running a conversion

A conversion reads and parses what it needs in seven stages, and only then shows or writes its text.
`Job.Does` says what a job comes to on given files: its first failure or its result, with the files
as they were. Jobs done one after the other fail with the first failure among them, so a conversion
does what its stages say. The files are a `FileSystem`, so the failures are those that it has: what
only a machine objects to (`FileError.other`) is left out. What a configuration file says is
`Config.parse?_eq_some_iff`.
-/

namespace Typeset

namespace Job

variable {α β : Type} {files : FileSystem}

/-- Runs a job on a file system. -/
def onFiles (job : Job (StateM FileSystem) α) (journal : List Occurrence) (files : FileSystem) :
    (Except Failure α × List Occurrence) × FileSystem :=
  ((ExceptT.run job).run journal).run files

/-- Work on files, and what is done with its outcome. -/
lemma run_bind {work : StateM FileSystem α} {next : α → StateM FileSystem β} {value : α}
    {left : FileSystem} (ran : work.run files = (value, left)) :
    (work >>= next).run files = (next value).run left := by
  rw [StateT.run_bind, ran]
  rfl

/-- Reading a file leaves the files and the journal as they are. -/
lemma onFiles_read (path : String) (journal : List Occurrence) (files : FileSystem) :
    onFiles (liftM (FileSystem.access.read path)) journal files =
      ((.ok (files.read path), journal), files) :=
  rfl

/-- A job goes on where it has been done, and stops where it has failed. -/
lemma onFiles_bind (job : Job (StateM FileSystem) α) (next : α → Job (StateM FileSystem) β)
    (journal : List Occurrence) (files : FileSystem) :
    (job >>= next).onFiles journal files =
      match job.onFiles journal files with
      | ((.ok value, noted), left) => (next value).onFiles noted left
      | ((.error failure, noted), left) => ((.error failure, noted), left) := by
  unfold onFiles ExceptT.run StateT.run
  simp only [bind, ExceptT.bind, ExceptT.mk, StateT.bind]
  obtain ⟨⟨result, noted⟩, left⟩ := job journal files
  cases result with
  | ok value => rfl
  | error failure => rfl

/-- What a job comes to on given files: the failure that stops it, or a good value. The files stay
as they are. -/
def Does (files : FileSystem) (job : Job (StateM FileSystem) α) (stop : Option Failure)
    (good : α → Prop) : Prop :=
  ∀ journal, ∃ result noted, job.onFiles journal files = ((result, noted), files) ∧
    match stop with
    | some failure => result = .error failure
    | none => ∃ value, result = .ok value ∧ good value

namespace Does

variable {job : Job (StateM FileSystem) α} {stop : Option Failure} {good : α → Prop}

/-- A job that only gives a value is done. -/
lemma ofValue {value : α} (holds : good value) : Does files (pure value) none good :=
  fun journal => ⟨.ok value, journal, rfl, value, rfl, holds⟩

/-- A job that only fails has failed. -/
lemma ofFailure {failure : Failure} : Does files (throw failure) (some failure) good :=
  fun journal => ⟨.error failure, journal, rfl, rfl⟩

/-- Noting an occurrence is done. -/
lemma note (occurrence : Occurrence) : Does files (Job.note occurrence) none fun _ => True :=
  fun journal => ⟨.ok (), journal ++ [occurrence], rfl, (), rfl, trivial⟩

/-- Jobs one after the other: the first failure stops them. -/
lemma andThen {next : α → Job (StateM FileSystem) β} {stop' : Option Failure} {good' : β → Prop}
    (first : Does files job stop good)
    (second : ∀ value, good value → Does files (next value) stop' good') :
    Does files (job >>= next) (stop.or stop') good' := by
  intro journal
  obtain ⟨result, noted, ran, said⟩ := first journal
  rw [onFiles_bind, ran]
  cases stop with
  | some failure =>
    obtain rfl := said
    exact ⟨.error failure, noted, rfl, rfl⟩
  | none =>
    obtain ⟨value, rfl, holds⟩ := said
    exact second value holds noted

/-- A job that has failed is performed to its failure. -/
lemma perform_of_some {failure : Failure} (stopped : Does files job (some failure) good) :
    ∃ noted, job.perform.run files = ((.error failure, noted), files) := by
  obtain ⟨result, noted, ran, said⟩ := stopped []
  obtain rfl : result = .error failure := said
  exact ⟨noted, ran⟩

/-- A job that is done is performed to a good value. -/
lemma perform_of_none (done : Does files job none good) :
    ∃ value noted, good value ∧ job.perform.run files = ((.ok value, noted), files) := by
  obtain ⟨result, noted, ran, value, said, holds⟩ := done []
  obtain rfl : result = .ok value := said
  exact ⟨value, noted, holds, ran⟩

/-- A job in which only the value is done something with. -/
lemma andReturn {value : α → β} {good' : β → Prop} (first : Does files job stop good)
    (turned : ∀ a, good a → good' (value a)) :
    Does files (job >>= fun a => pure (value a)) stop good' := by
  have both : Does files (job >>= fun a => pure (value a)) (stop.or none) good' :=
    first.andThen fun a holds => ofValue (turned a holds)
  rwa [Option.or_none] at both

end Does

end Job

namespace Command

/-- The stages of a conversion before its text is shown or written. -/
inductive Stage where
  | readConfig
  | parseConfig
  | preamble
  | frameworkMacros
  | userMacros
  | readTree
  | parseTree
  deriving DecidableEq, Repr

/-- The stages, first one first. -/
def Stage.inOrder : List Stage :=
  [.readConfig, .parseConfig, .preamble, .frameworkMacros, .userMacros, .readTree, .parseTree]

/-- The configuration that a conversion is given: that of the file that it names, with the paths as
seen from the folder of the file. Where it names none, nothing is set. -/
def Conversion.configuration (files : FileSystem) (conversion : Conversion) : Config :=
  match conversion.config with
  | none => .default
  | some path =>
    match (files.read path).toOption.bind Config.parse? with
    | none => .default
    | some config =>
      match Path.parent? path with
      | none => config
      | some folder => { config with fragments := config.fragments.relativeTo folder }

/-- The configuration in effect: the arguments go before the configuration that is given. -/
def Conversion.inEffect (files : FileSystem) (conversion : Conversion) : Config :=
  conversion.override (conversion.configuration files)

/-- The failure to read a file, if one is to be read and cannot be. -/
def unreadable? (files : FileSystem) (failure : String → FileError → Failure) :
    Option String → Option Failure
  | none => none
  | some path =>
    match files.read path with
    | .ok _ => none
    | .error error => some (failure path error)

/-- How a stage fails, looked at by itself. What cannot be read is not parsed. -/
def Stage.failure? (files : FileSystem) (conversion : Conversion) : Stage → Option Failure
  | readConfig => unreadable? files .unreadableConfig conversion.config
  | parseConfig =>
    match conversion.config.map files.read with
    | some (.ok text) => if (Config.parse? text).isNone then some .invalidConfig else none
    | _ => none
  | preamble =>
    unreadable? files (.unreadableFragment "preamble") (conversion.inEffect files).fragments.preamble
  | frameworkMacros =>
    unreadable? files (.unreadableFragment "framework macros")
      (conversion.inEffect files).fragments.macros
  | userMacros =>
    unreadable? files (.unreadableFragment "user macros")
      (conversion.inEffect files).fragments.userMacros
  | readTree => unreadable? files .unreadableTree (some conversion.input)
  | parseTree =>
    match files.read conversion.input with
    | .error _ => none
    | .ok text =>
      match Tree.parse text with
      | .ok _ => none
      | .error cause => some (.invalidTree cause)

/-- The failure of the first stage that fails. -/
def firstFailure? (files : FileSystem) (conversion : Conversion) (stages : List Stage) :
    Option Failure :=
  stages.findSome? (Stage.failure? files conversion)

/-- A fragment is the text of its file, or the text that is built in where no file is set. -/
def IsFragment (files : FileSystem) (path : Option String) (builtIn text : String) : Prop :=
  match path with
  | none => text = builtIn
  | some path => files.read path = .ok text

/-- The fragments of a conversion. -/
structure HasFragments (files : FileSystem) (conversion : Conversion) (fragments : Fragments) :
    Prop where
  preamble : IsFragment files (conversion.inEffect files).fragments.preamble
    Fragments.defaultPreamble fragments.preamble
  frameworkMacros : IsFragment files (conversion.inEffect files).fragments.macros
    Fragments.defaultMacros fragments.frameworkMacros
  userMacros : IsFragment files (conversion.inEffect files).fragments.userMacros ""
    fragments.userMacros

/-- A fragment has one text. -/
lemma IsFragment.unique {files : FileSystem} {path : Option String} {builtIn text text' : String}
    (here : IsFragment files path builtIn text) (there : IsFragment files path builtIn text') :
    text = text' := by
  cases path with
  | none => exact Eq.trans here (Eq.symm there)
  | some path => exact Except.ok.inj (Eq.trans (Eq.symm here) there)

/-- A conversion has one set of fragments. -/
lemma HasFragments.unique {files : FileSystem} {conversion : Conversion}
    {fragments fragments' : Fragments} (here : HasFragments files conversion fragments)
    (there : HasFragments files conversion fragments') : fragments = fragments' := by
  obtain ⟨preamble, frameworkMacros, userMacros⟩ := fragments
  obtain ⟨preamble', frameworkMacros', userMacros'⟩ := fragments'
  obtain rfl := here.preamble.unique there.preamble
  obtain rfl := here.frameworkMacros.unique there.frameworkMacros
  obtain rfl := here.userMacros.unique there.userMacros
  rfl

/-- The tree of a conversion: that in the text of its input. -/
def HasTree (files : FileSystem) (conversion : Conversion) (tree : Tree) : Prop :=
  ∃ text, files.read conversion.input = .ok text ∧ Tree.parse text = .ok tree

section Stages

open FileSystem (access)

variable (files : FileSystem) (conversion : Conversion)

/-- A single stage fails first if it fails. -/
lemma firstFailure?_singleton (stage : Stage) :
    firstFailure? files conversion [stage] = stage.failure? files conversion :=
  List.findSome?_singleton

/-- The first failure is that of the first stage, or else that of the later ones. -/
lemma firstFailure?_cons (stage : Stage) (stages : List Stage) :
    firstFailure? files conversion (stage :: stages) =
      (stage.failure? files conversion).or (firstFailure? files conversion stages) := by
  rw [firstFailure?, List.findSome?_cons]
  cases stage.failure? files conversion <;> rfl

/-- The first failure is that of the early stages, or else that of the late ones. -/
lemma firstFailure?_append (early late : List Stage) :
    firstFailure? files conversion (early ++ late) =
      (firstFailure? files conversion early).or (firstFailure? files conversion late) :=
  List.findSome?_append

/-- A file that cannot be read fails its job. -/
lemma does_readFile (failure : String → FileError → Failure) (path : String) :
    Job.Does files (Job.readFile access path (failure path))
      (unreadable? files failure (some path)) fun text => files.read path = .ok text := by
  intro journal
  rw [Job.readFile, Job.onFiles_bind, Job.onFiles_read]
  dsimp only [unreadable?]
  cases files.read path with
  | ok text =>
    exact ⟨.ok text, journal, rfl, text, rfl, rfl⟩
  | error error =>
    refine ⟨.error (failure path error), journal, rfl, ?_⟩
    rfl

/-- A fragment is built in, or read from its path. -/
lemma does_loadFragment (name builtIn : String) (path : Option String) :
    Job.Does files (loadFragment access name path builtIn)
      (unreadable? files (.unreadableFragment name) path) (IsFragment files path builtIn) := by
  cases path with
  | none => exact .ofValue rfl
  | some path => exact (Job.Does.note _).andThen fun _ _ => does_readFile files _ path

/-- The configuration is read and parsed, and the arguments go before it. -/
lemma does_loadConfig :
    Job.Does files (loadConfig access conversion)
      (firstFailure? files conversion [.readConfig, .parseConfig])
      (· = conversion.inEffect files) := by
  rw [firstFailure?_cons, firstFailure?_singleton]
  unfold loadConfig Conversion.inEffect Conversion.configuration Stage.failure?
  cases conversion.config with
  | none => exact .ofValue rfl
  | some path =>
    refine Job.Does.andReturn ?_ fun config loaded => congrArg conversion.override loaded
    refine (does_readFile files .unreadableConfig path).andThen fun text read => ?_
    simp only [Option.map_some, read, Except.toOption, Option.bind_some]
    cases Config.parse? text with
    | none => exact .ofFailure
    | some config =>
      cases Path.parent? path with
      | none => exact .ofValue rfl
      | some folder => exact .ofValue rfl

/-- The fragments are loaded one after the other, and the first that cannot be read fails. -/
lemma does_loadFragments :
    Job.Does files (Fragments.load access (conversion.inEffect files).fragments)
      (firstFailure? files conversion [.preamble, .frameworkMacros, .userMacros])
      (HasFragments files conversion) := by
  rw [firstFailure?_cons, firstFailure?_cons, firstFailure?_singleton]
  refine (does_loadFragment files _ _ _).andThen fun preamble first => ?_
  refine (does_loadFragment files _ _ _).andThen fun macros second => ?_
  exact (does_loadFragment files _ _ _).andReturn fun userMacros third => ⟨first, second, third⟩

/-- The tree is read and parsed. -/
lemma does_loadTree :
    Job.Does files (Tree.load access conversion.input)
      (firstFailure? files conversion [.readTree, .parseTree]) (HasTree files conversion) := by
  rw [firstFailure?_cons, firstFailure?_singleton]
  refine (does_readFile files .unreadableTree conversion.input).andThen fun text read => ?_
  simp only [Stage.failure?, read]
  cases parsed : Tree.parse text with
  | ok tree => exact .ofValue ⟨text, read, parsed⟩
  | error cause => exact .ofFailure

/-- Up to the output, a conversion is done stage by stage. -/
lemma does_prepare :
    Job.Does files (prepare access (conversion.inEffect files) conversion.input)
      (firstFailure? files conversion
        [.preamble, .frameworkMacros, .userMacros, .readTree, .parseTree])
      fun rendering => ∃ fragments tree, HasFragments files conversion fragments ∧
        HasTree files conversion tree ∧
        rendering = tree.convert ⟨(conversion.inEffect files).roles, fragments⟩ := by
  have stages := firstFailure?_append files conversion [.preamble, .frameworkMacros, .userMacros]
    [.readTree, .parseTree]
  rw [List.cons_append, List.cons_append, List.singleton_append] at stages
  rw [stages]
  refine (does_loadFragments files conversion).andThen fun fragments texts => ?_
  exact (does_loadTree files conversion).andReturn fun tree parsed =>
    ⟨fragments, tree, texts, parsed, rfl⟩

/-- A text is shown, or written to the file that is named for it. -/
lemma deliver_run (output : Option String) (text : String) (lines : List String)
    (log : List Event) :
    (deliver access output text lines log).run files =
      match output with
      | none => (⟨0, text, lines, log⟩, files)
      | some path =>
        match files.write path text with
        | .ok written => (⟨0, "", lines, log⟩, written)
        | .error error => (failed lines (.file error) log, files) := by
  cases output with
  | none => rfl
  | some path =>
    have wrote : (access.write path text).run files =
        match files.write path text with
        | .ok written => (.ok (), written)
        | .error error => (.error error, files) := by
      have got : (get : StateM FileSystem FileSystem).run files = (files, files) := rfl
      refine (Job.run_bind got).trans ?_
      cases files.write path text <;> rfl
    unfold deliver
    dsimp only
    cases written : files.write path text with
    | ok left =>
      rw [written] at wrote
      rw [Job.run_bind wrote]
      rfl
    | error error =>
      rw [written] at wrote
      rw [Job.run_bind wrote]
      rfl

/-- A conversion stops with its first failure, or delivers what it has converted. -/
lemma runConversion_run :
    match firstFailure? files conversion Stage.inOrder with
    | some failure =>
      ∃ log, (runConversion access conversion).run files = (failed [] failure log, files)
    | none =>
      ∃ fragments tree log, HasFragments files conversion fragments ∧
        HasTree files conversion tree ∧
        let effective := conversion.inEffect files
        let rendering := tree.convert ⟨effective.roles, fragments⟩
        (runConversion access conversion).run files =
          (deliver access conversion.output rendering.output
            (summary conversion.input effective.verbosity rendering.diagnostics) log).run files := by
  have stages := firstFailure?_append files conversion [.readConfig, .parseConfig]
    [.preamble, .frameworkMacros, .userMacros, .readTree, .parseTree]
  rw [List.cons_append, List.singleton_append] at stages
  rw [Stage.inOrder, stages]
  unfold runConversion
  have configured := does_loadConfig files conversion
  -- Before the configuration is in effect nothing is noted, so a failure there leaves no log.
  cases early : firstFailure? files conversion [.readConfig, .parseConfig] with
  | some failure =>
    rw [early] at configured
    obtain ⟨noted, performed⟩ := configured.perform_of_some
    exact ⟨[], Job.run_bind performed⟩
  | none =>
    rw [early] at configured
    obtain ⟨config, noted, rfl, performed⟩ := configured.perform_of_none
    have prepared := does_prepare files conversion
    rw [Option.none_or]
    cases late : firstFailure? files conversion
        [.preamble, .frameworkMacros, .userMacros, .readTree, .parseTree] with
    | some failure =>
      rw [late] at prepared
      obtain ⟨journal, stopped⟩ := prepared.perform_of_some
      exact ⟨_, (Job.run_bind performed).trans (Job.run_bind stopped)⟩
    | none =>
      rw [late] at prepared
      obtain ⟨rendering, journal, ⟨fragments, tree, texts, parsed, rfl⟩, done⟩ :=
        prepared.perform_of_none
      exact ⟨fragments, tree, _, texts, parsed,
        (Job.run_bind performed).trans (Job.run_bind done)⟩

end Stages

/-- Arguments that ask for both much and little to be logged are not accepted. -/
lemma not_verbose_and_quiet_of_readConversion {arguments : List String} {conversion : Conversion}
    (accepted : readConversion arguments = .ok (.convert conversion)) :
    ¬(conversion.verbose = true ∧ conversion.quiet = true) := by
  unfold readConversion at accepted
  cases sorted : sortOut conversionForms none .empty arguments with
  | error interruption =>
    rw [sorted] at accepted
    cases accepted
  | ok given =>
    rw [sorted] at accepted
    dsimp only [bind, Except.bind] at accepted
    cases plain : given.input with
    | error interruption =>
      rw [plain] at accepted
      cases accepted
    | ok input =>
      rw [plain] at accepted
      dsimp only at accepted
      split at accepted
      · cases accepted
      · rename_i notBoth
        cases accepted
        rwa [Bool.and_eq_true] at notBoth

/-- A conversion is not verbose and quiet at once. -/
lemma not_verbose_and_quiet {arguments : List String} {conversion : Conversion}
    (accepted : Request.read arguments = .ok (.convert conversion)) :
    ¬(conversion.verbose = true ∧ conversion.quiet = true) := by
  unfold Request.read at accepted
  split at accepted
  case h_2 rest => exact not_verbose_and_quiet_of_readConversion accepted
  case h_3 rest =>
    unfold readEnvironments at accepted
    cases sorted : sortOut environmentsForms none .empty rest with
    | error interruption =>
      rw [sorted] at accepted
      cases accepted
    | ok given =>
      rw [sorted] at accepted
      dsimp only [bind, Except.bind] at accepted
      cases plain : given.input with
      | error interruption =>
        rw [plain] at accepted
        cases accepted
      | ok input =>
        rw [plain] at accepted
        cases accepted
  case h_9 => split at accepted <;> cases accepted
  all_goals cases accepted

/-- What is in effect of the arguments and of the configuration that is given. -/
structure Conversion.Overrides (conversion : Conversion) (given effective : Config) : Prop where
  verbose : conversion.verbose = true → effective.verbosity = ⟨true, false⟩
  quiet : conversion.quiet = true → effective.verbosity = ⟨false, true⟩
  neither : conversion.verbose = false → conversion.quiet = false →
    effective.verbosity = given.verbosity
  preamble : effective.fragments.preamble = conversion.preamble.or given.fragments.preamble
  macros : effective.fragments.macros = conversion.macros.or given.fragments.macros
  userMacros : effective.fragments.userMacros = conversion.userMacros.or given.fragments.userMacros
  roles : effective.roles = given.roles

/-- What the arguments say comes before what the configuration says. -/
lemma overrides_override {conversion : Conversion} (given : Config)
    (notBoth : ¬(conversion.verbose = true ∧ conversion.quiet = true)) :
    conversion.Overrides given (conversion.override given) where
  verbose verbose := if_pos verbose
  quiet quiet := by
    have notVerbose : ¬conversion.verbose = true := fun verbose => notBoth ⟨verbose, quiet⟩
    exact (if_neg notVerbose).trans (if_pos quiet)
  neither notVerbose notQuiet := by
    rw [Conversion.override, notVerbose, notQuiet]
    rfl
  preamble := (congrFun (congrFun Option.orElse_eq_orElse _) _).trans Option.orElse_eq_or
  macros := (congrFun (congrFun Option.orElse_eq_orElse _) _).trans Option.orElse_eq_or
  userMacros := (congrFun (congrFun Option.orElse_eq_orElse _) _).trans Option.orElse_eq_or
  roles := rfl

/-- A run that fails shows its lines and the failure, and nothing else. -/
structure Report.Fails (report : Report) (lines : List String) (failure : Failure) : Prop where
  exitCode : report.exitCode = 1
  output : report.output = ""
  errorLines : report.errorLines = lines ++ [failureLine failure]

/-- A run that succeeds shows its output and its lines. -/
structure Report.Succeeds (report : Report) (output : String) (lines : List String) : Prop where
  exitCode : report.exitCode = 0
  output : report.output = output
  errorLines : report.errorLines = lines

/-- A text is shown, or it is written to the file that is named; if that fails no file is changed. -/
def Report.Delivers (report : Report) (files left : FileSystem) (output : Option String)
    (text : String) (lines : List String) : Prop :=
  match output with
  | none => report.Succeeds text lines ∧ left = files
  | some path =>
    match files.write path text with
    | .error error => report.Fails lines (.file error) ∧ left = files
    | .ok _ => report.Succeeds "" lines ∧ files.Replaces path text left

/-- The output is put where it belongs, and the log is printed. -/
lemma delivers_deliver (files : FileSystem) (output : Option String) (text : String)
    (lines : List String) (log : List Event) :
    let delivered := (deliver FileSystem.access output text lines log).run files
    delivered.1.Delivers files delivered.2 output text lines := by
  rw [deliver_run]
  unfold Report.Delivers
  cases output with
  | none => exact ⟨⟨rfl, rfl, rfl⟩, rfl⟩
  | some path =>
    dsimp only
    cases wrote : files.write path text with
    | error error => exact ⟨⟨rfl, rfl, rfl⟩, rfl⟩
    | ok written => exact ⟨⟨rfl, rfl, rfl⟩, FileSystem.replaces_of_write wrote⟩

/-- The summary counts the diagnostics, if there are any and the settings are not quiet. -/
lemma summary_eq (input : String) (verbosity : Verbosity) (diagnostics : List Diagnostic) :
    summary input verbosity diagnostics =
      if diagnostics.length ≠ 0 ∧ verbosity.quiet = false then
        [input ++ ": " ++ toString diagnostics.length ++ " node(s) could not be rendered"]
      else [] := by
  unfold summary
  cases diagnostics with
  | nil => rfl
  | cons diagnostic diagnostics =>
    cases verbosity.quiet with
    | true => rfl
    | false => rfl

/-- A conversion either stops with the failure of the first stage that fails, or it shows what it has
converted, or writes it to the file that is named. Nothing but that file is changed, and it only if it
can be written. The number of diagnostics is shown if there are any, unless the conversion is quiet. -/
theorem run_convert (files : FileSystem) (arguments : List String) {conversion : Conversion}
    (accepted : Request.read arguments = .ok (.convert conversion)) :
    let given := conversion.configuration files
    let effective := conversion.inEffect files
    let ran := (run FileSystem.access arguments).run files
    conversion.Overrides given effective ∧
      match firstFailure? files conversion Stage.inOrder with
      | some failure => ran.1.Fails [] failure ∧ ran.2 = files
      | none =>
        ∃ fragments tree, HasFragments files conversion fragments ∧
          HasTree files conversion tree ∧
          let converted := tree.convertLogged ⟨effective.verbosity, effective.roles, fragments⟩
          let lines :=
            if converted.2.count ≠ 0 ∧ effective.verbosity.quiet = false then
              [conversion.input ++ ": " ++ toString converted.2.count ++
                " node(s) could not be rendered"]
            else []
          ran.1.Delivers files ran.2 conversion.output converted.1 lines := by
  intro given effective ran
  refine ⟨overrides_override given (not_verbose_and_quiet accepted), ?_⟩
  have same : ran = (runConversion FileSystem.access conversion).run files := by
    dsimp only [ran, run]
    rw [accepted]
  have conversionRan := runConversion_run files conversion
  rw [← same] at conversionRan
  cases stop : firstFailure? files conversion Stage.inOrder with
  | some failure =>
    rw [stop] at conversionRan
    obtain ⟨log, stopped⟩ := conversionRan
    rw [stopped]
    exact ⟨⟨rfl, rfl, rfl⟩, rfl⟩
  | none =>
    rw [stop] at conversionRan
    obtain ⟨fragments, tree, log, texts, parsed, delivered⟩ := conversionRan
    refine ⟨fragments, tree, texts, parsed, ?_⟩
    dsimp only at delivered ⊢
    rw [Tree.convertLogged_eq, Renderer.count, delivered, ← summary_eq]
    exact delivers_deliver files _ _ _ log

/-- The settings are read from a file in a folder of its own: they are verbose, and name a file beside
them from which the author's macros are read. The output, with these macros, goes over the input. -/
theorem run_convert_over_its_input :
    let settings := "verbose = true\n[fragments]\nuser_macros = \"own.tex\"\n"
    let input := "\x7b\"name\":\"document\",\"children\":[\x7b\"name\":\"table\"\x7d]\x7d"
    let files := (FileSystem.blank ["home"])
      |>.install "setup/settings.toml" (.file settings.toUTF8)
      |>.install "setup/own.tex" (.file "%own\n".toUTF8)
      |>.install "a.json" (.file input.toUTF8)
    let arguments := ["convert", "-c", "setup/settings.toml", "a.json", "-oa.json"]
    let conversion : Conversion := {
      input := "a.json"
      output := some "a.json"
      config := some "setup/settings.toml"
      preamble := none
      macros := none
      userMacros := none
      verbose := false
      quiet := false }
    let fragments : Fragments := ⟨Fragments.defaultPreamble, Fragments.defaultMacros, "%own\n"⟩
    let output := Fragments.defaultPreamble ++ Fragments.defaultMacros ++ "%own\n" ++
      "\n\n\\title\x7b\x7d\n\\author\x7b\x7d\n\\date\x7b\x7d\n\n\n\n\n" ++
      "\\begin\x7bdocument\x7d\n\\maketitle\n\n\n\n\n\\end\x7bdocument\x7d\n\n"
    let ran := (run FileSystem.access arguments).run files
    Request.read arguments = .ok (.convert conversion) ∧
      (conversion.inEffect files).verbosity = ⟨true, false⟩ ∧
      (conversion.inEffect files).fragments.userMacros = some "setup/own.tex" ∧
      HasFragments files conversion fragments ∧
      ran.1.Succeeds "" ["a.json: 1 node(s) could not be rendered"] ∧
      files.Replaces "a.json" output ran.2 := by
  intro settings input files arguments conversion fragments output ran
  have accepted : Request.read arguments = .ok (.convert conversion) := rfl
  obtain ⟨-, outcome⟩ := run_convert files arguments accepted
  have clear : firstFailure? files conversion Stage.inOrder = none :=
    Option.isNone_iff_eq_none.1 (by decide +kernel)
  have effective : conversion.inEffect files =
      ⟨⟨true, false⟩, ⟨none, none, some "setup/own.tex"⟩, .empty⟩ := by
    decide +kernel
  have macros : files.read "setup/own.tex" = .ok "%own\n" := by decide +kernel
  have texts : HasFragments files conversion fragments := by
    refine ⟨?_, ?_, ?_⟩
    · rw [effective]
      rfl
    · rw [effective]
      rfl
    · rw [effective]
      exact macros
  rw [clear] at outcome
  obtain ⟨fragments', tree, texts', ⟨text, read, parsed⟩, delivered⟩ := outcome
  obtain rfl := texts.unique texts'
  have converted : (tree.convertLogged ⟨⟨true, false⟩, .empty, fragments⟩).1 = output ∧
      (tree.convertLogged ⟨⟨true, false⟩, .empty, fragments⟩).2.count = 1 := by
    have known : ((files.read "a.json").toOption.bind fun text =>
        (Tree.parse text).toOption.map fun tree =>
          let converted := tree.convertLogged ⟨⟨true, false⟩, .empty, fragments⟩
          (converted.1, converted.2.count)) = some (output, 1) := by
      decide +kernel
    rw [read] at known
    dsimp only [Except.toOption, Option.bind_some] at known
    rw [parsed] at known
    exact Prod.mk.inj (Option.some.inj known)
  have writable : (files.write "a.json" output).toOption.isSome = true := by decide +kernel
  rw [effective] at delivered ⊢
  dsimp only at delivered
  rw [converted.1, converted.2] at delivered
  refine ⟨accepted, rfl, rfl, texts, ?_⟩
  unfold Report.Delivers at delivered
  dsimp only [conversion] at delivered
  cases wrote : files.write "a.json" output with
  | error error =>
    rw [wrote] at writable
    cases writable
  | ok written =>
    rw [wrote] at delivered
    exact delivered

end Command

end Typeset
