import Typeset.Command.Run

/-!
# The program

Runs a command line on the files of the machine.
-/

namespace Typeset

/-- The failure that an error of the machine amounts to. -/
def FileError.ofMachine : IO.Error → FileError
  | .noFileOrDirectory .. => .notFound
  | .inappropriateType _ code details =>
    if code == 20 then .notDirectory
    else if code == 21 then .isDirectory
    else .other (details ++ " (os error " ++ toString code ++ ")")
  | .permissionDenied _ code details =>
    .other (details ++ " (os error " ++ toString code ++ ")")
  | error => .other (toString error)

/-- The files of the machine. -/
def machineFiles : FileAccess IO where
  read path := do
    try
      let bytes ← IO.FS.readBinFile path
      match String.fromUTF8? bytes with
      | some text => return .ok text
      | none => return .error .notText
    catch error => return .error (.ofMachine error)
  write path text := do
    try
      IO.FS.writeFile path text
      return .ok ()
    catch error => return .error (.ofMachine error)

/-- How a field of an event is shown. -/
def FieldValue.show : FieldValue → String
  | .text value => value
  | .number value => toString value
  | .flag value => toString value

/-- How loud an event is, in words. -/
def Severity.show : Severity → String
  | .warn => "WARN"
  | .debug => "DEBUG"
  | .trace => "TRACE"

/-- An event as a line. -/
def Event.show (event : Event) : String :=
  let fields := event.fields.map fun field => field.1 ++ "=" ++ field.2.show
  " ".intercalate (event.severity.show :: event.message :: fields)

end Typeset

/-- Runs a command line; the exit code tells how it went. -/
def main (arguments : List String) : IO UInt32 := do
  let report ← Typeset.Command.run Typeset.machineFiles arguments
  for event in report.log do
    IO.eprintln event.show
  for line in report.errorLines do
    IO.eprintln line
  if report.exitCode == 2 then
    IO.eprintln "usage: (convert | environments) INPUT [OPTIONS]"
  IO.print report.output
  return report.exitCode.toUInt32
