import Minim.Text.Quoted
import Minim.Unicode.Digit

/-!
Options: how the words of a command line are read. A long option may be shortened as long as it
stays unambiguous, a value may stand in the same word as its option, and one-letter options without
values may be run together.
-/

namespace Minim.CommandLine

/-- The options there are. -/
inductive OptionKind
  | help | file | interactive | printTokens | noTree | unparse | symbols | exportJson | drawGraph
  | graphFormat
  deriving DecidableEq, Repr, Inhabited

namespace OptionKind

/-- Every option, in the order of the help text. -/
def all : List OptionKind :=
  [help, file, interactive, printTokens, noTree, unparse, symbols, exportJson, drawGraph,
    graphFormat]

theorem mem_all (kind : OptionKind) : kind ∈ all := by
  cases kind <;> decide

/-- The spellings of an option. -/
def spellings : OptionKind → List String
  | help => ["-h", "--help"]
  | file => ["--file", "-f"]
  | interactive => ["--interactive", "-i"]
  | printTokens => ["--print-tokens"]
  | noTree => ["--no-ast"]
  | unparse => ["--unparse"]
  | symbols => ["--symbols"]
  | exportJson => ["--dump-json"]
  | drawGraph => ["--viz-ast"]
  | graphFormat => ["--viz-format"]

/-- Whether an option takes a value. -/
def takesValue : OptionKind → Bool
  | file | exportJson | drawGraph | graphFormat => true
  | _ => false

/-- How messages call an option. -/
def title (kind : OptionKind) : String := "/".intercalate kind.spellings

/-- All spellings with what they stand for. -/
def table : List (String × OptionKind) :=
  all.flatMap fun kind => kind.spellings.map (·, kind)

/-- The option with a spelling. -/
def ofSpelling? (spelling : String) : Option OptionKind := table.lookup spelling

end OptionKind

/-- Why a command line is refused. -/
inductive UsageError
  | ambiguous (word : String) (spellings : List String)
  | valueMissing (kind : OptionKind)
  | valueRefused (kind : OptionKind) (value : String)
  | excluded (kind other : OptionKind)
  | unrecognized (words : List String)
  deriving DecidableEq, Repr

/-- The wording of a refusal. -/
def UsageError.message : UsageError → String
  | ambiguous word spellings =>
    "ambiguous option: " ++ word ++ " could match " ++ ", ".intercalate spellings
  | valueMissing kind => "argument " ++ kind.title ++ ": expected one argument"
  | valueRefused kind value =>
    "argument " ++ kind.title ++ ": ignored explicit argument " ++ Text.quoted value
  | excluded kind other =>
    "argument " ++ kind.title ++ ": not allowed with argument " ++ other.title
  | unrecognized words => "unrecognized arguments: " ++ " ".intercalate words

/-! ## Values -/

/-- What is known of the value of an option. -/
inductive Argument
  /-- None stands in the word of the option. -/
  | absent
  /-- Two hyphens stand in its place, so the option is given without a value. -/
  | blank
  | text (value : String)
  deriving DecidableEq, Repr

namespace Argument

/-- The value that is attached to an option. -/
def ofAttached (attached : List Char) : Argument :=
  if attached = ['-', '-'] then blank else text (String.ofList attached)

/-- The text of a value, if there is one. -/
def text? : Argument → Option String
  | text value => some value
  | absent | blank => none

/-- The text of a value, empty if there is none. -/
def textOrEmpty (argument : Argument) : String := argument.text?.getD ""

end Argument

/-! ## Words -/

/-- What a word of the command line is. -/
inductive Word
  | plain (text : String)
  | separator
  | option (kind : OptionKind) (spelling : String) (attached : Option (List Char))
  | unknown (text : String)
  deriving DecidableEq, Repr

/-- A word divided at its first equals sign. -/
def divide (word : String) : String × Option (List Char) :=
  let name := word.toList.takeWhile (· != '=')
  match word.toList.drop name.length with
  | [] => (word, none)
  | _ :: value => (String.ofList name, some value)

/-- The options that a word may be short for. After one hyphen, the letter after it may be an option
to which the rest is attached. -/
def candidates (word : String) : List (String × OptionKind × Option (List Char)) :=
  if word.startsWith "--" then
    let (name, value) := divide word
    OptionKind.table.filterMap fun (spelling, kind) =>
      if spelling.startsWith name then some (spelling, kind, value) else none
  else
    let letter := String.ofList (word.toList.take 2)
    let value := word.toList.drop 2
    OptionKind.table.filterMap fun (spelling, kind) =>
      if spelling = letter then some (spelling, kind, some value)
      else if spelling.startsWith word then some (spelling, kind, none)
      else none

/-- Whether a word is a negative number: a hyphen and digits, with at most one point that digits
follow. One newline may end it. -/
def isNegativeNumber (word : String) : Bool :=
  match word.toList with
  | '-' :: rest =>
    let number := if rest.getLast? = some '\n' then rest.dropLast else rest
    let whole := number.takeWhile Unicode.isDecimal
    match number.drop whole.length with
    | [] => !whole.isEmpty
    | '.' :: fraction => !fraction.isEmpty && fraction.all Unicode.isDecimal
    | _ => false
  | _ => false

/-- What a word is when it is read by itself. -/
def classify (word : String) : Except UsageError Word :=
  if !word.startsWith "-" || word = "-" then .ok (.plain word)
  else
    match OptionKind.ofSpelling? word with
    | some kind => .ok (.option kind word none)
    | none =>
      match divide word with
      | (name, some value) =>
        match OptionKind.ofSpelling? name with
        | some kind => .ok (.option kind name (some value))
        | none => guess word
      | _ => guess word
where
  /-- What a word is that spells no option in full. -/
  guess (word : String) : Except UsageError Word :=
    match candidates word with
    | [(spelling, kind, value)] => .ok (.option kind spelling value)
    | _ :: _ :: _ => .error (.ambiguous word ((candidates word).map (·.1)))
    | [] =>
      if isNegativeNumber word || word.toList.contains ' ' then .ok (.plain word)
      else .ok (.unknown word)

/-- What the words of a command line are. After two hyphens by themselves, all are plain. -/
def words : List String → Except UsageError (List Word)
  | [] => .ok []
  | word :: rest =>
    if word = "--" then .ok (.separator :: rest.map .plain)
    else do
      let first ← classify word
      let others ← words rest
      return first :: others

end Minim.CommandLine
