import Minim.CommandLine

/-!
The program: what its arguments ask for, done with the files and the streams that there are. No
decision is taken here. Graphs are not drawn; what a drawing program would read is saved instead.
-/

namespace Minim.Main

/-- The number of an error of the system, which comes with either sign. -/
def errorNumber : IO.Error → Nat
  | .noFileOrDirectory _ number _ | .permissionDenied _ number _ | .inappropriateType _ number _
  | .invalidArgument _ number _ | .resourceExhausted _ number _ | .noSuchThing _ number _
  | .alreadyExists _ number _ | .otherError number _ | .illegalOperation number _ =>
    number.toInt32.toInt.natAbs
  | _ => 0

/-- What is said of an error about a path. -/
def problem (path : String) (error : IO.Error) : String :=
  ((AccessError.ofNumber? (errorNumber error)).map (·.message path)).getD error.toString

/-- Write to the standard output at once. -/
def say (text : String) : IO Unit := do
  let out ← IO.getStdout
  out.putStr text
  out.flush

/-- Do what an action says. -/
def perform : Action → IO Unit
  | .out text => say text
  | .err text => IO.eprint text
  | .save path contents => do
    try
      IO.FS.writeFile path contents
      say (savedText path)
    catch error => say (notSavedText path (problem path error))
  | .draw path none _ => say (Drawing.failedText path Drawing.noFormat)
  | .draw path (some _) dot => do
    try
      IO.FS.writeFile path dot
      say (Drawing.failedText path "there is nothing to draw with, so the graph is saved as it is")
    catch error => say (Drawing.failedText path (problem path error))

/-- The exit code after an interruption. -/
def interruptionCode : UInt32 := 1

/-- What is done about an interruption. -/
def breakOff (cause : Interruption) : IO UInt32 := do
  IO.eprintln cause.message
  return interruptionCode

/-- Take the turns of a dialogue as the lines come in. -/
partial def converse (request : Request) : IO UInt32 := do
  say Dialogue.prompt
  let line ← (← IO.getStdin).getLine
  if line.isEmpty then
    say Dialogue.endOfInput
    return 0
  match Dialogue.turn request line with
  | .error error => breakOff (.numeral error)
  | .ok .leave =>
    say Dialogue.farewell
    return 0
  | .ok .skip => converse request
  | .ok (.report report) =>
    report.actions.forM perform
    converse request

/-- The contents of a file, unless it cannot be read. -/
def contents (path : String) : IO (Except String String) := do
  try
    return .ok (← IO.FS.readFile path)
  catch error => return .error (problem path error)

/-- Do what a command line asks for. -/
def run : CommandLine.Task → IO UInt32
  | .explain => do
    say CommandLine.help
    return 0
  | .refuse error => do
    IO.eprint (CommandLine.usageText error)
    return CommandLine.usageCode.toUInt32
  | .converse request => do
    say Dialogue.banner
    converse request
  | .examine path request => do
    match CommandLine.examination path request (← contents path) with
    | .error cause => breakOff cause
    | .ok (actions, code) =>
      actions.forM perform
      return code.toUInt32

end Minim.Main

/-- Run the program. -/
def main (args : List String) : IO UInt32 := Minim.Main.run (Minim.CommandLine.task args)
