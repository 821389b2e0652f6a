import Minim.Folder
import Minim.Resolution
import Minim.Symbol.Json
import Minim.Syntax.Dump
import Minim.Syntax.Graph
import Minim.Syntax.Json
import Minim.Syntax.Parser

/-!
Reports: what is said about a program text, as a list of actions in the order in which they happen,
and the status it ends with. Each section is there exactly when it is asked for, and says the same
whatever else is asked for.
-/

namespace Minim

/-- What to report about a program. -/
structure Request where
  tokens : Bool := false
  tree : Bool := true
  source : Bool := false
  scope : Bool := false
  exportPath : Option String := none
  graphPath : Option String := none
  graphFormat : Option String := some "svg"
  deriving DecidableEq, Repr, Inhabited

/-- Something a report does: write to one of the two outputs, save an exported file, or draw a
graph. Saving and drawing say on the standard output how they went. -/
inductive Action
  | out (text : String)
  | err (text : String)
  | save (path contents : String)
  | draw (path : String) (format : Option String) (dot : String)
  deriving DecidableEq, Repr

/-- How a program was found to be. -/
inductive Status
  | clean | unreadable | faulty
  deriving DecidableEq, Repr, Inhabited

/-- The exit code of a status. -/
def Status.code : Status → Nat
  | clean => 0
  | unreadable => 1
  | faulty => 2

/-- The actions of a report and its status. -/
structure Report where
  actions : List Action
  status : Status
  deriving DecidableEq, Repr, Inhabited

namespace Report

/-! ## Sections -/

/-- The most tokens that are listed. -/
def listedTokens : Nat := 50

/-- The line of a listed token. -/
def tokenLine (index : Nat) (token : Token) : String :=
  "  " ++ Text.padLeft 3 (Text.decimalNat index) ++ ": " ++ token.describe ++ "\n"

/-- The first tokens, and how many more there are. -/
def tokenSection (tokens : List Token) : String :=
  "Tokens (" ++ Text.decimalNat tokens.length ++ "):\n" ++
    String.join ((tokens.take listedTokens).mapIdx tokenLine) ++
    if listedTokens < tokens.length then
      "  ... and " ++ Text.decimalNat (tokens.length - listedTokens) ++ " more\n"
    else ""

/-- The dump of a resolved program. -/
def treeSection (resolution : Resolution) : String :=
  "\nAST:\n" ++ (Node.program resolution.program).dumpText resolution.state.legend 0 "" ++ "\n"

/-- The annotated source of a resolved program. -/
def sourceSection (resolution : Resolution) : String :=
  "\nAnnotated source:\n" ++ resolution.program.source resolution.state.legend

/-- The scopes that are open after the analysis. -/
def scopeSection (resolution : Resolution) : String :=
  "\nGlobal scope:\n" ++ resolution.state.store.tableText resolution.state.table ++ "\n"

/-- The outcome of an analysis as JSON. -/
def exportJson (resolution : Resolution) : Json.Value :=
  .object [("ast", resolution.program.toJson .full),
    ("symbols", resolution.state.arena.toJson resolution.state.store),
    ("diagnostics", resolution.state.log.toJson)]

/-- The verdict on a resolved program: a line, and the faults on the other output. -/
def verdict (resolution : Resolution) : List Action :=
  if resolution.isClean then [.out "\n✓ Name analysis passed\n"]
  else
    [.out ("\n✗ Name analysis found " ++ Text.decimalNat resolution.state.log.size ++
        " error(s):\n"),
      .err resolution.state.log.lines]

/-- An action that is taken only if it is asked for, and is not even worked out if not. -/
@[macro_inline] def when (asked : Bool) (action : Action) : List Action :=
  if asked then [action] else []

/-- The path to write to, if there is one; an empty one counts as none. -/
def givenPath (path : Option String) : List String := path.toList.filter (· ≠ "")

/-- What is said about a resolved program. -/
def sections (request : Request) (resolution : Resolution) : List Action :=
  when request.tree (.out (treeSection resolution)) ++
    when request.source (.out (sourceSection resolution)) ++
    when request.scope (.out (scopeSection resolution)) ++
    (givenPath request.exportPath).map (.save · ((exportJson resolution).render 0)) ++
    (givenPath request.graphPath).map
      (.draw · request.graphFormat
        (Graph.dot resolution.state.legend (.program resolution.program))) ++
    verdict resolution

/-- The line about an unreadable program. -/
def unreadable (message : String) : Action := .out ("Syntax Error: " ++ message ++ "\n")

/-- The report on a text whose tokens were read. -/
def ofTokens (request : Request) (tokens : List Token) : Report :=
  let listing := when request.tokens (.out (tokenSection tokens))
  match parseTokens tokens with
  | .error error => ⟨listing ++ [unreadable error.message], .unreadable⟩
  | .ok program =>
    let resolution := program.analyze
    ⟨listing ++ sections request resolution,
      if resolution.isClean then .clean else .faulty⟩

/-- The report on a text. A numeral without a value is no matter of the text's form, and there is
no report on it. -/
def ofText (request : Request) (text : String) : Except NumeralError Report :=
  match tokenize text with
  | .ok tokens => .ok (ofTokens request tokens)
  | .error error =>
    match error.fault with
    | .numeral fault => .error fault
    | _ => .ok ⟨[unreadable error.message], .unreadable⟩

end Report

/-! ## Effects -/

/-- What breaks a run off in the middle: a numeral without a value, or a path that no file can have.
-/
inductive Interruption
  | numeral (error : NumeralError)
  | nullInPath
  deriving DecidableEq, Repr

/-- The wording of an interruption. -/
def Interruption.message : Interruption → String
  | numeral error => error.message
  | nullInPath => "embedded null byte"

/-- A graph that was asked for. -/
structure Drawing where
  path : String
  format : String
  dot : String
  deriving DecidableEq, Repr

namespace Drawing

/-- The sign of the unit of temperature, which counts as a letter. -/
def kelvinSign : Char := '\u212a'

/-- The name of a format is known in lower case. Beside the letters of names only one more character
has one of them as its small letter. -/
def lowerCase (format : String) : String :=
  format.map fun c => if c = kelvinSign then 'k' else c.toLower

/-- The line about a graph that was drawn. -/
def doneText (path format : String) : String :=
  "Wrote AST visualization to " ++ path ++ "." ++ format ++ "\n"

/-- The line about a graph that could not be drawn. -/
def failedText (path problem : String) : String :=
  "Failed to render AST visualization to " ++ path ++ ": " ++ problem ++ "\n"

/-- The problem with a graph that is to have no format. -/
def noFormat : String := "'list' object has no attribute 'lower'"

end Drawing

/-- The line about an exported file. -/
def savedText (path : String) : String := "Wrote AST+symbols JSON to " ++ path ++ "\n"

/-- The line about a file that could not be exported. -/
def notSavedText (path problem : String) : String :=
  "Failed to write JSON to " ++ path ++ ": " ++ problem ++ "\n"

/-- What actions have brought about: the texts of the two outputs, the files and the drawings. -/
structure Transcript where
  out : String := ""
  err : String := ""
  folder : Folder := {}
  drawings : List Drawing := []
  deriving DecidableEq, Repr, Inhabited

namespace Transcript

/-- The effect of an export. -/
def save (t : Transcript) (path contents : String) : Transcript :=
  match t.folder.write path contents with
  | .ok folder => { t with folder, out := t.out ++ savedText path }
  | .error error => { t with out := t.out ++ notSavedText path (error.message path) }

/-- The effect of a drawing. -/
def draw (t : Transcript) (path : String) (format : Option String) (dot : String) : Transcript :=
  match format with
  | some format =>
    { t with
      out := t.out ++ Drawing.doneText path format
      drawings := t.drawings ++ [{ path, format := Drawing.lowerCase format, dot }] }
  | none => { t with out := t.out ++ Drawing.failedText path Drawing.noFormat }

/-- The effect of an action. -/
def perform (t : Transcript) : Action → Except Interruption Transcript
  | .out text => .ok { t with out := t.out ++ text }
  | .err text => .ok { t with err := t.err ++ text }
  | .save path contents =>
    if Path.holdsNull path then .error .nullInPath else .ok (t.save path contents)
  | .draw path format dot => .ok (t.draw path format dot)

/-- The effect of actions one after the other. -/
def performAll (t : Transcript) (actions : List Action) : Except Interruption Transcript :=
  actions.foldlM perform t

end Transcript

end Minim
