import Minim.Json.Value
import Minim.Position
import Minim.Sequence

/-!
Diagnostics: the faults that name analysis finds, in the order in which it finds them. A fault does
not stop the analysis.
-/

namespace Minim

/-- The kinds of faults. -/
inductive DiagnosticKind
  | voidVariable | duplicateName | invalidStructType | undeclaredIdentifier | dotAccessNonStruct
  | invalidFieldName
  deriving DecidableEq, Repr, Inhabited

namespace DiagnosticKind

/-- The standard message of a kind. -/
def message : DiagnosticKind → String
  | voidVariable => "Non-function declared void"
  | duplicateName => "Identifier multiply-declared"
  | invalidStructType => "Name of struct type invalid"
  | undeclaredIdentifier => "Identifier undeclared"
  | dotAccessNonStruct => "Dot-access of non-struct type"
  | invalidFieldName => "Struct field name invalid"

/-- The name of a kind in exported reports. -/
def label : DiagnosticKind → String
  | voidVariable => "VoidVariableError"
  | duplicateName => "DuplicateNameError"
  | invalidStructType => "InvalidStructTypeError"
  | undeclaredIdentifier => "UndeclaredIdentifierError"
  | dotAccessNonStruct => "DotAccessOnNonStructError"
  | invalidFieldName => "InvalidFieldNameError"

end DiagnosticKind

/-- A fault at a position. -/
structure Diagnostic where
  pos : Position
  kind : DiagnosticKind
  message : String
  deriving DecidableEq, Repr, Inhabited

namespace Diagnostic

/-- The line of a fault. -/
def text (diagnostic : Diagnostic) : String :=
  Text.decimal diagnostic.pos.line ++ ":" ++ Text.decimal diagnostic.pos.column ++
    " ***ERROR*** " ++ diagnostic.message

/-- A fault as JSON. -/
def toJson (diagnostic : Diagnostic) : Json.Value :=
  .object [("line", .int diagnostic.pos.line), ("column", .int diagnostic.pos.column),
    ("kind", .string diagnostic.kind.label), ("message", .string diagnostic.message)]

end Diagnostic

/-- Faults in the order in which they were found. -/
structure Log where
  entries : List Diagnostic := []
  deriving DecidableEq, Repr, Inhabited

namespace Log

/-- The fault with a message, or with the standard one if the message is empty or missing. -/
def entry (pos : Position) (kind : DiagnosticKind) (message : Option String := none) :
    Diagnostic :=
  match message with
  | none | some "" => { pos, kind, message := kind.message }
  | some message => { pos, kind, message }

/-- Add a fault at the end. -/
def report (log : Log) (diagnostic : Diagnostic) : Log := ⟨log.entries ++ [diagnostic]⟩

/-- Whether nothing was found. -/
def isClean (log : Log) : Bool := log.entries.isEmpty

/-- The number of faults. -/
def size (log : Log) : Nat := log.entries.length

/-- The faults of a kind. -/
def ofKind (log : Log) (kind : DiagnosticKind) : List Diagnostic :=
  log.entries.filter (·.kind = kind)

/-- The fault at a place, which counts from the end if negative. -/
def get? (log : Log) (place : Int) : Option Diagnostic := itemAt? log.entries place

/-- The faults one to a line, without a newline at the end. -/
def text (log : Log) : String := "\n".intercalate (log.entries.map Diagnostic.text)

/-- The faults one to a line, each ended by a newline. -/
def lines (log : Log) : String := String.join (log.entries.map fun entry => entry.text ++ "\n")

/-- The faults as JSON. -/
def toJson (log : Log) : Json.Value := .array (log.entries.map Diagnostic.toJson)

@[simp] theorem entries_report (log : Log) (diagnostic : Diagnostic) :
    (log.report diagnostic).entries = log.entries ++ [diagnostic] := rfl

theorem isClean_iff (log : Log) : log.isClean = true ↔ log.entries = [] := by
  simp [isClean]

end Log

end Minim
