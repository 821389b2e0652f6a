import Minim.Text.Decimal
import Minim.Text.Quoted

/-!
Folders: the folder that a program runs in, which holds text files by name, and the little that is
known of what lies around it. A path leads from the folder, or from the root of all folders, one
name after the other. What is written outside the folder is not kept.
-/

namespace Minim

/-! ## Errors -/

/-- Why a file cannot be opened or written. -/
inductive AccessError
  | notFound | denied | notAFolder | isAFolder | noSpace | nameTooLong
  deriving DecidableEq, Repr

namespace AccessError

/-- The number of an error and its standard wording. -/
def description : AccessError → Nat × String
  | notFound => (2, "No such file or directory")
  | denied => (13, "Permission denied")
  | notAFolder => (20, "Not a directory")
  | isAFolder => (21, "Is a directory")
  | noSpace => (28, "No space left on device")
  | nameTooLong => (36, "File name too long")

/-- The error with a number. -/
def ofNumber? (number : Nat) : Option AccessError :=
  [notFound, denied, notAFolder, isAFolder, noSpace, nameTooLong].find? (·.description.1 = number)

theorem ofNumber?_description (error : AccessError) :
    ofNumber? error.description.1 = some error := by
  cases error <;> rfl

/-- The wording of an error about a path. Space is found to be missing only when the file is open,
and the path is not named then. -/
def message (error : AccessError) (path : String) : String :=
  let (number, text) := error.description
  let wording := "[Errno " ++ Text.decimalNat number ++ "] " ++ text
  if error = noSpace then wording else wording ++ ": " ++ Text.quoted path

end AccessError

/-! ## Paths -/

namespace Path

/-- A path has fewer bytes than this. -/
def limit : Nat := 4096

/-- The most bytes a name may have. -/
def nameLimit : Nat := 255

/-- The names along a path. -/
def names (path : String) : List String := (path.splitOn "/").filter (· ≠ "")

/-- Whether a path leads from the root. -/
def isRooted (path : String) : Bool := path.startsWith "/"

/-- Whether a path ends in a slash, and so asks for a folder. -/
def asksForFolder (path : String) : Bool := path.endsWith "/"

/-- The name of a folder in itself. -/
def here : String := "."

/-- The name in a folder of the folder around it. -/
def up : String := ".."

/-- Whether a path holds the null character. No file is ever looked for there. -/
def holdsNull (path : String) : Bool := path.toList.contains '\x00'

end Path

/-- A place among all files: the names that lead to it from the root, the last one first. -/
abbrev Place := List String

/-- What stands at a place: a folder, a file, a file that reads as empty and swallows what is
written, or one that takes nothing. -/
inductive Entry
  | folder
  | file (contents : String)
  | sink
  | full
  deriving DecidableEq, Repr

/-! ## Folders -/

/-- Files by name, with their contents. -/
structure Folder where
  files : List (String × String) := []
  deriving DecidableEq, Repr, Inhabited

namespace Folder

/-- The contents of a file. -/
def find? (folder : Folder) (name : String) : Option String := folder.files.lookup name

/-- The place of the folder itself. Its own name is empty, so that no path holds it. -/
def home : Place := ["", "tmp"]

/-- The name of a file at a place of the folder. -/
def nameAt? : Place → Option String
  | name :: place => if place = home then some name else none
  | [] => none

/-- The folders at the root. -/
def rootFolders : List String :=
  ["bin", "boot", "dev", "etc", "home", "lib", "lib64", "media", "mnt", "opt", "proc", "root",
    "run", "sbin", "srv", "sys", "tmp", "usr", "var"]

/-- What stands at a place. -/
def entry? (folder : Folder) (place : Place) : Option Entry :=
  match nameAt? place with
  | some name => (folder.find? name).map .file
  | none =>
    match place with
    | [] => some .folder
    | [name] => if rootFolders.contains name then some .folder else none
    | ["null", "dev"] => some .sink
    | ["full", "dev"] => some .full
    | _ => if place = home then some .folder else none

/-- Follow names from a place. Each has to be in a folder; the folder around the root is the root.
-/
def follow (folder : Folder) : Place → List String → Except AccessError Place
  | place, [] => .ok place
  | place, name :: names =>
    match folder.entry? place with
    | none => .error .notFound
    | some .folder =>
      if name = Path.here then folder.follow place names
      else if name = Path.up then folder.follow place.tail names
      else if Path.nameLimit < name.utf8ByteSize then .error .nameTooLong
      else folder.follow (name :: place) names
    | some _ => .error .notAFolder

/-- Follow the names of a path, or as many as it is good for. -/
def followPath (folder : Folder) (path : String) (names : List String) : Except AccessError Place :=
  if path = "" then .error .notFound
  else if Path.limit ≤ path.utf8ByteSize then .error .nameTooLong
  else folder.follow (if Path.isRooted path then [] else home) names

/-- The place that a path leads to. One that ends in a slash goes on into the folder there. -/
def locate (folder : Folder) (path : String) : Except AccessError Place :=
  folder.followPath path
    (Path.names path ++ if Path.asksForFolder path then [Path.here] else [])

/-- The place that a path leads to for writing. A name with a slash behind it can only be that of a
folder, whether it is taken or not, and is not even looked up. -/
def locateTarget (folder : Folder) (path : String) : Except AccessError Place := do
  let names := Path.names path
  let isName (name : String) : Bool := name ≠ Path.here ∧ name ≠ Path.up
  if Path.asksForFolder path && names.getLast?.any isName then
    let _ ← folder.followPath path (names.dropLast ++ [Path.here])
    throw .isAFolder
  else folder.locate path

/-- Read a file. -/
def read (folder : Folder) (path : String) : Except AccessError String := do
  match folder.entry? (← folder.locate path) with
  | none => throw .notFound
  | some .folder => throw .isAFolder
  | some (.file contents) => return contents
  | some .sink | some .full => return ""

/-- The folder with a file, which takes the place of one with the same name. -/
def insert (folder : Folder) (name contents : String) : Folder :=
  if (folder.find? name).isSome then
    ⟨folder.files.map fun file => if file.1 = name then (name, contents) else file⟩
  else ⟨folder.files ++ [(name, contents)]⟩

/-- Write a file. -/
def write (folder : Folder) (path contents : String) : Except AccessError Folder := do
  let place ← folder.locateTarget path
  match folder.entry? place with
  | some .folder => throw .isAFolder
  | some .full => throw .noSpace
  | some .sink => return folder
  | some (.file _) | none =>
    match nameAt? place with
    | some name => return folder.insert name contents
    | none => return folder

/-- The files of a folder that another one did not have. -/
def newSince (folder before : Folder) : List (String × String) :=
  folder.files.filter fun file => (before.find? file.1).isNone

end Folder

end Minim
