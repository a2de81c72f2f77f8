/-!
# Command-line arguments

A command line is a list of arguments: options with or without a value, in long or short form, and
plain arguments. Short options may share one dash, and a value may stand in the same argument as its
option. After `--` every argument is plain. Each option may be given once, and one plain argument.
The first argument that is wrong or asks for help decides, whatever follows it.
-/

namespace Typeset.Command

/-- An option of a command: its long name, its letter if it has one, and whether it takes a value.
-/
structure OptionForm where
  long : String
  letter : Option Char
  takesValue : Bool
  deriving DecidableEq, Repr

/-- Why arguments are refused, or what they ask for instead of a run. -/
inductive Interruption where
  | usage
  | help
  | version
  deriving DecidableEq, Repr

/-- The arguments of a command, sorted out: its options by their long names, and the plain
argument. -/
structure Given where
  flags : List String
  values : List (String × String)
  plain : Option String
  deriving DecidableEq, Repr

namespace Given

/-- No arguments at all. -/
def empty : Given where
  flags := []
  values := []
  plain := none

/-- Whether an option has been given. -/
def has (given : Given) (long : String) : Bool :=
  given.flags.contains long || (given.values.lookup long).isSome

/-- Takes up an option without a value. -/
def addFlag (given : Given) (long : String) : Except Interruption Given :=
  if given.has long then .error .usage else .ok { given with flags := given.flags ++ [long] }

/-- Takes up an option with its value, which may not be empty. -/
def addValue (given : Given) (long value : String) : Except Interruption Given :=
  if given.has long || value.isEmpty then .error .usage
  else .ok { given with values := given.values ++ [(long, value)] }

/-- Takes up the plain argument, which may not be empty. -/
def addPlain (given : Given) (argument : String) : Except Interruption Given :=
  if given.plain.isSome || argument.isEmpty then .error .usage
  else .ok { given with plain := some argument }

end Given

/-- The option with a long name. -/
def longForm? (forms : List OptionForm) (long : List Char) : Option OptionForm :=
  forms.find? (·.long.toList == long)

/-- The option with a letter. -/
def shortForm? (forms : List OptionForm) (letter : Char) : Option OptionForm :=
  forms.find? (·.letter == some letter)

/-- Whether an argument is one or more options rather than a value. -/
def isOption : List Char → Bool
  | ['-'] => false
  | '-' :: _ => true
  | _ => false

/-- What an argument amounts to. -/
inductive Step where
  /-- It has been taken up. -/
  | taken (given : Given)
  /-- It ends in an option whose value is the next argument. -/
  | awaits (long : String) (given : Given)
  /-- It makes all arguments after it plain ones. -/
  | endsOptions

/-- Takes up a long option, after its dashes. -/
def takeLong (forms : List OptionForm) (given : Given) (argument : List Char) :
    Except Interruption Step :=
  let name := argument.takeWhile (· != '=')
  let attached := argument.dropWhile (· != '=')
  if name = "help".toList && attached.isEmpty then .error .help
  else
    match longForm? forms name, attached with
    | none, _ => .error .usage
    | some form, [] =>
      if form.takesValue then .ok (.awaits form.long given)
      else (given.addFlag form.long).map .taken
    | some form, _ :: value =>
      if form.takesValue then (given.addValue form.long (String.ofList value)).map .taken
      else .error .usage

/-- The value that shares an argument with the letter of its option; a sign of equality may part
them. -/
def attachedValue : List Char → List Char
  | '=' :: value => value
  | value => value

/-- Takes up the options of an argument with one dash, letter by letter. -/
def takeShort (forms : List OptionForm) : Given → List Char → Except Interruption Step
  | given, [] => .ok (.taken given)
  | given, letter :: others =>
    if letter = 'h' then .error .help
    else
      match shortForm? forms letter with
      | none => .error .usage
      | some form =>
        if form.takesValue then
          match others with
          | [] => .ok (.awaits form.long given)
          | _ => (given.addValue form.long (String.ofList (attachedValue others))).map .taken
        else
          match given.addFlag form.long with
          | .error interruption => .error interruption
          | .ok given => takeShort forms given others

/-- Takes up an argument. -/
def takeArgument (forms : List OptionForm) (given : Given) (argument : String) :
    Except Interruption Step :=
  match argument.toList with
  | ['-', '-'] => .ok .endsOptions
  | '-' :: '-' :: long => takeLong forms given long
  | ['-'] => (given.addPlain argument).map .taken
  | '-' :: letters => takeShort forms given letters
  | _ => (given.addPlain argument).map .taken

/-- Sorts out arguments one after the other. `awaiting` names the option whose value comes next, if
any. -/
def sortOut (forms : List OptionForm) (awaiting : Option String) (given : Given) :
    List String → Except Interruption Given
  | [] => if awaiting.isSome then .error .usage else .ok given
  | argument :: arguments =>
    match awaiting with
    | some long =>
      if isOption argument.toList then .error .usage
      else
        match given.addValue long argument with
        | .error interruption => .error interruption
        | .ok given => sortOut forms none given arguments
    | none =>
      match takeArgument forms given argument with
      | .error interruption => .error interruption
      | .ok (.taken given) => sortOut forms none given arguments
      | .ok (.awaits long given) => sortOut forms (some long) given arguments
      | .ok .endsOptions => arguments.foldlM Given.addPlain given

/-- The arguments of a conversion. -/
structure Conversion where
  input : String
  output : Option String
  config : Option String
  preamble : Option String
  macros : Option String
  userMacros : Option String
  verbose : Bool
  quiet : Bool
  deriving DecidableEq, Repr

/-- What a command line asks for. -/
inductive Request where
  /-- Converts a tree file. -/
  | convert (conversion : Conversion)
  /-- Strips the display-math markers of a text file. -/
  | environments (input : String) (output : Option String)
  deriving DecidableEq, Repr

/-- The options of a conversion. -/
def conversionForms : List OptionForm := [
  ⟨"output", some 'o', true⟩, ⟨"config", some 'c', true⟩, ⟨"preamble", none, true⟩,
  ⟨"macros", none, true⟩, ⟨"user-macros", none, true⟩, ⟨"verbose", some 'v', false⟩,
  ⟨"quiet", some 'q', false⟩]

/-- The options of stripping a text file. -/
def environmentsForms : List OptionForm := [
  ⟨"output", some 'o', true⟩]

/-- The plain argument of a command, which has to be given. -/
def Given.input (given : Given) : Except Interruption String :=
  match given.plain with
  | some input => .ok input
  | none => .error .usage

/-- Reads the arguments of a conversion. A conversion is not verbose and quiet at once. -/
def readConversion (arguments : List String) : Except Interruption Request := do
  let given ← sortOut conversionForms none .empty arguments
  let input ← given.input
  let verbose := given.has "verbose"
  let quiet := given.has "quiet"
  if verbose && quiet then throw .usage
  return .convert
    { input
      output := given.values.lookup "output"
      config := given.values.lookup "config"
      preamble := given.values.lookup "preamble"
      macros := given.values.lookup "macros"
      userMacros := given.values.lookup "user-macros"
      verbose
      quiet }

/-- Reads the arguments of stripping a text file. -/
def readEnvironments (arguments : List String) : Except Interruption Request := do
  let given ← sortOut environmentsForms none .empty arguments
  let input ← given.input
  return .environments input (given.values.lookup "output")

/-- The names of the commands that help may be asked for. -/
def commandNames : List String :=
  ["convert", "environments", "help"]

/-- Reads a command line. -/
def Request.read : List String → Except Interruption Request
  | [] => .error .usage
  | "convert" :: arguments => readConversion arguments
  | "environments" :: arguments => readEnvironments arguments
  | ["help"] => .error .help
  | ["help", name] => .error (if commandNames.contains name then .help else .usage)
  | "help" :: _ => .error .usage
  | "--version" :: _ => .error .version
  | "--help" :: _ => .error .help
  | argument :: _ =>
    match argument.toList with
    | '-' :: 'V' :: _ => .error .version
    | '-' :: 'h' :: _ => .error .help
    | _ => .error .usage

end Typeset.Command
