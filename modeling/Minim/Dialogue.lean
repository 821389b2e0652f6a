import Minim.Report

/-!
Dialogues: programs entered one to a line and reported at once, until the user leaves or the input
ends.
-/

namespace Minim.Dialogue

/-- What is shown first. -/
def banner : String :=
  "\nInteractive Name Analysis Mode (type 'quit' to exit)\n" ++
    String.ofList (List.replicate 80 '=') ++ "\n"

/-- What is shown before each line. -/
def prompt : String := "\nEnter program: "

/-- What is shown when the user leaves. -/
def farewell : String := "Goodbye!\n"

/-- What is shown when the input ends. -/
def endOfInput : String := "\n\nExiting...\n"

/-- The words that end a dialogue, in lower case. -/
def leavingWords : List String := ["quit", "exit", "q"]

/-- What to do about a line. -/
inductive Turn
  | leave
  | skip
  | report (report : Report)
  deriving DecidableEq, Repr

/-- What a dialogue reports about a program: always its annotated source. -/
def request (tokens tree : Bool) : Request := { tokens, tree, source := true }

/-- The turn after a line. The blanks around what was entered do not count, nor, in the words that
end the dialogue, does the case of letters. -/
def turn (request : Request) (line : String) : Except NumeralError Turn :=
  let entered := String.ofList (Unicode.trimBlanks line.toList)
  if leavingWords.contains (entered.map Char.toLower) then .ok .leave
  else if entered = "" then .ok .skip
  else (Report.ofText request entered).map .report

/-- The actions of a dialogue over the lines that are entered. -/
def actions (request : Request) : List String → Except NumeralError (List Action)
  | [] => .ok [.out prompt, .out endOfInput]
  | line :: lines => do
    match ← turn request line with
    | .leave => return [.out prompt, .out farewell]
    | .skip => return .out prompt :: (← actions request lines)
    | .report report => return .out prompt :: (report.actions ++ (← actions request lines))

/-- The lines of an input; a last one need not be ended. -/
def linesOf (input : String) : List String :=
  let pieces := input.splitOn "\n"
  if pieces.getLast? = some "" then pieces.dropLast else pieces

/-- The actions of a whole dialogue. -/
def run (request : Request) (input : String) : Except NumeralError (List Action) := do
  return .out banner :: (← actions request (linesOf input))

end Minim.Dialogue
