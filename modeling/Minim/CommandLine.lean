import Minim.CommandLine.Options
import Minim.Dialogue

/-!
The command line: what a run of the program is asked to do, and what it then does.
-/

namespace Minim.CommandLine

/-! ## Settings -/

/-- What the options of a command line ask for. -/
structure Settings where
  file : Option String := none
  interactive : Bool := false
  request : Request := {}
  deriving DecidableEq, Repr, Inhabited

/-- How the reading of a command line ends, if it is not refused: with a wish for help or with
settings. -/
inductive Wish
  | help
  | settings (settings : Settings)
  deriving DecidableEq, Repr

/-- The state of reading a command line: the settings so far, and the words that no option takes. -/
structure Reading where
  settings : Settings := {}
  leftOver : List String := []
  deriving Inhabited

/-- The option that an option excludes. -/
def exclusion? : OptionKind → Option OptionKind
  | .file => some .interactive
  | .interactive => some .file
  | _ => none

/-- Whether an option has been given that excludes others. -/
def Settings.has (settings : Settings) : OptionKind → Bool
  | .file => settings.file.isSome
  | .interactive => settings.interactive
  | _ => false

/-- The settings after an option and its value. -/
def Settings.apply (settings : Settings) (kind : OptionKind) (value : Argument) : Settings :=
  let request := settings.request
  match kind with
  | .help => settings
  | .file => { settings with file := some value.textOrEmpty }
  | .interactive => { settings with interactive := true }
  | .printTokens => { settings with request := { request with tokens := true } }
  | .noTree => { settings with request := { request with tree := false } }
  | .unparse => { settings with request := { request with source := true } }
  | .symbols => { settings with request := { request with scope := true } }
  | .exportJson =>
    { settings with request := { request with exportPath := some value.textOrEmpty } }
  | .drawGraph =>
    { settings with request := { request with graphPath := some value.textOrEmpty } }
  | .graphFormat => { settings with request := { request with graphFormat := value.text? } }

/-- The settings after an option, unless one was given that excludes it. -/
def Settings.apply? (settings : Settings) (kind : OptionKind) (value : Argument) :
    Except UsageError Settings :=
  match exclusion? kind with
  | some other =>
    if settings.has other then .error (.excluded kind other) else .ok (settings.apply kind value)
  | none => .ok (settings.apply kind value)

/-- The options that a word holds, each with its value if that is in the word too. What is attached
to a one-letter option without a value, behind an equals sign or not, is read as more letters. -/
def optionsIn (kind : OptionKind) (spelling : String) :
    Option (List Char) → Except UsageError (List (OptionKind × Argument))
  | none => .ok [(kind, .absent)]
  | some attached =>
    if kind.takesValue then .ok [(kind, .ofAttached attached)]
    else
      match attached with
      | [] => .error (.valueRefused kind "")
      | letter :: rest =>
        let next := String.ofList ['-', letter]
        match spelling.startsWith "--", OptionKind.ofSpelling? next with
        | false, some nextKind => do
          -- A last letter has nothing attached, so its value may be the next word.
          let others ← optionsIn nextKind next (if rest.isEmpty then none else some rest)
          return (kind, .absent) :: others
        | _, _ => .error (.valueRefused kind (String.ofList attached))
termination_by attached => attached.elim 0 (·.length + 1)
decreasing_by
  split <;> simp_all [Option.elim]

/-- Read options one after the other; the last one may take the word after it as its value. The
answer is a wish for help as soon as there is one. -/
def applyAll (settings : Settings) :
    List (OptionKind × Argument) → Except UsageError (Option Settings)
  | [] => .ok (some settings)
  | (kind, value) :: rest =>
    if kind = .help then .ok none
    else do
      let settings ← settings.apply? kind value
      applyAll settings rest

/-- The options with the value of the last one, which may be the word after them, and the words that
are left. -/
def withValue (options : List (OptionKind × Argument)) (rest : List Word) :
    Except UsageError (List (OptionKind × Argument) × List Word) :=
  match options.getLast? with
  | some (kind, .absent) =>
    if kind.takesValue then
      match rest with
      | .plain text :: rest => .ok (options.dropLast ++ [(kind, .text text)], rest)
      | _ => .error (.valueMissing kind)
    else .ok (options, rest)
  | _ => .ok (options, rest)

/-- Read the words of a command line, at most `limit` of them. -/
def readWords : Nat → Reading → List Word → Except UsageError Wish
  | 0, reading, _ | _, reading, [] =>
    if reading.leftOver.isEmpty then .ok (.settings reading.settings)
    else .error (.unrecognized reading.leftOver)
  | limit + 1, reading, word :: rest =>
    let leave (text : String) : Except UsageError Wish :=
      readWords limit { reading with leftOver := reading.leftOver ++ [text] } rest
    match word with
    | .plain text | .unknown text => leave text
    | .separator => leave "--"
    | .option kind spelling attached => do
      let options ← optionsIn kind spelling attached
      let (options, rest) ← withValue options rest
      match ← applyAll reading.settings options with
      | none => return .help
      | some settings => readWords limit { reading with settings } rest

/-- Read a command line. -/
def read (args : List String) : Except UsageError Wish := do
  let words ← words args
  readWords words.length {} words

/-! ## Texts -/

/-- The short description of the options. -/
def usage : String :=
  "usage: main.py [-h] [--file FILE | --interactive] [--print-tokens] [--no-ast]\n" ++
  "               [--unparse] [--symbols] [--dump-json DUMP_JSON]\n" ++
  "               [--viz-ast VIZ_AST] [--viz-format VIZ_FORMAT]\n"

/-- The long description of the options. -/
def help : String :=
  usage ++ "\n" ++
  "Run name analysis on a minim file or interactively from stdin\n" ++
  "\n" ++
  "options:\n" ++
  "  -h, --help            show this help message and exit\n" ++
  "  --file FILE, -f FILE  Path to source file to process\n" ++
  "  --interactive, -i     Start interactive REPL mode\n" ++
  "  --print-tokens        Print tokens\n" ++
  "  --no-ast              Do not print AST\n" ++
  "  --unparse             Print the source back with resolved symbols after each\n" ++
  "                        identifier\n" ++
  "  --symbols             Print the global scope after analysis\n" ++
  "  --dump-json DUMP_JSON\n" ++
  "                        Path to write AST+symbols+diagnostics JSON\n" ++
  "  --viz-ast VIZ_AST     Path (without extension) to write Graphviz\n" ++
  "                        visualization of the annotated AST\n" ++
  "  --viz-format VIZ_FORMAT\n" ++
  "                        Format for Graphviz output (svg, png, pdf, etc)\n"

/-- What is said of a refused command line. -/
def usageText (error : UsageError) : String :=
  usage ++ "main.py: error: " ++ error.message ++ "\n"

/-- What is said of a file that cannot be read. -/
def unreadableText (path problem : String) : String :=
  "Failed to read file " ++ path ++ ": " ++ problem ++ "\n"

/-! ## Runs -/

/-- The exit code of a refused command line. -/
def usageCode : Nat := 2

/-- What a command line asks for. -/
inductive Task
  | explain
  | refuse (error : UsageError)
  | converse (request : Request)
  | examine (path : String) (request : Request)
  deriving DecidableEq, Repr

/-- The task of a command line. A file with an empty name counts as none. -/
def task (args : List String) : Task :=
  match read args with
  | .error error => .refuse error
  | .ok .help => .explain
  | .ok (.settings settings) =>
    if settings.interactive then
      .converse (Dialogue.request settings.request.tokens settings.request.tree)
    else
      match Report.givenPath settings.file with
      | path :: _ => .examine path settings.request
      | [] => .explain

/-- A text whose lines may end with a return, alone or before a newline, with newlines alone. -/
def plainNewlines : List Char → List Char
  | [] => []
  | '\r' :: '\n' :: rest => '\n' :: plainNewlines rest
  | c :: rest => (if c = '\r' then '\n' else c) :: plainNewlines rest

/-- The report on the contents of a file, or on what kept it from being read. -/
def examination (path : String) (request : Request) (contents : Except String String) :
    Except Interruption (List Action × Nat) :=
  if Path.holdsNull path then .error .nullInPath
  else
    match contents with
    | .error problem => .ok ([.out (unreadableText path problem)], Status.unreadable.code)
    | .ok contents => do
      let text := String.ofList (plainNewlines contents.toList)
      let report ← (Report.ofText request text).mapError .numeral
      return (report.actions, report.status.code)

/-- The actions of a run in a folder with an input, and its exit code. -/
def run (args : List String) (folder : Folder) (input : String) :
    Except Interruption (List Action × Nat) :=
  match task args with
  | .explain => .ok ([.out help], 0)
  | .refuse error => .ok ([.err (usageText error)], usageCode)
  | .converse request => ((Dialogue.run request input).map (·, 0)).mapError .numeral
  | .examine path request =>
    examination path request ((folder.read path).mapError (·.message path))

end Minim.CommandLine
