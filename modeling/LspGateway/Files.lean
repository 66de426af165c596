import LspGateway.Path
import LspGateway.Text.Lines
import LspGateway.Text.Quoted
import LspGateway.Text.Utf8

/-! # Files

What a program sees of a file system: the entries it holds, the directory paths
start at, and the reading of a whole text. A path is followed name by name, so a
step up from a missing directory fails.
-/

namespace LspGateway
open LspGateway.Text

/-- What a path leads to. -/
inductive Entry
  | file (bytes : List UInt8)
  | directory
  /-- A file that may not be opened. -/
  | denied
  deriving DecidableEq, Repr, Inhabited

/-- A file system. Entries are listed by the names that lead to them from the
root; the directories above an entry exist. -/
structure Files where
  entries : List (List Path.Segment × Entry)
  /-- The directory that relative paths start at. -/
  cwd : String
  deriving Repr, Inhabited

/-- What is wrong with a path. -/
inductive FileFault
  | missing
  | notDirectory
  | isDirectory
  | denied
  deriving DecidableEq, Repr

/-- A path that cannot be opened. -/
structure FileError where
  fault : FileFault
  path : String
  deriving DecidableEq, Repr

/-- The number and the name of a fault. -/
def FileFault.message : FileFault → String
  | .missing => "[Errno 2] No such file or directory"
  | .notDirectory => "[Errno 20] Not a directory"
  | .isDirectory => "[Errno 21] Is a directory"
  | .denied => "[Errno 13] Permission denied"

def FileError.message (e : FileError) : String := e.fault.message ++ ": " ++ quoted e.path

/-- Why a text could not be read. -/
inductive ReadError
  | unopened (error : FileError)
  /-- The path holds a character that no path can hold. -/
  | nulInPath
  | notUtf8 (error : Utf8.DecodeError)
  deriving DecidableEq, Repr

def ReadError.message : ReadError → String
  | .unopened e => e.message
  | .nulInPath => "embedded null byte"
  | .notUtf8 e => e.message

namespace Files

/-- The file system with entries at absolute paths. -/
def ofList (entries : List (String × Entry)) (cwd : String) : Files :=
  ⟨entries.map fun (p, e) => (Path.segments p.toList, e), cwd⟩

/-- Whether one place lies above another. -/
def isAbove : List Path.Segment → List Path.Segment → Bool
  | [], _ => true
  | _ :: _, [] => false
  | a :: as, b :: bs => a == b && isAbove as bs

/-- The entry at a place. -/
def entry? (fs : Files) (place : List Path.Segment) : Option Entry :=
  match fs.entries.find? (·.1 == place) with
  | some (_, e) => some e
  | none =>
    if isAbove place (Path.segments fs.cwd.toList) || fs.entries.any (isAbove place ·.1) then
      some .directory
    else none

/-- Follows the pieces of a path from a place. -/
def follow (fs : Files) (place : List Path.Segment) : List Path.Segment →
    Except FileFault (List Path.Segment × Entry)
  | [] =>
    match fs.entry? place with
    | some e => .ok (place, e)
    | none => .error .missing
  | s :: ss =>
    match fs.entry? place with
    | none => .error .missing
    | some .directory =>
      if s = [] || s = Path.here then follow fs place ss
      else if s = Path.up then follow fs place.dropLast ss
      else follow fs (place ++ [s]) ss
    | some _ => .error .notDirectory

/-- The entry that a path leads to. -/
def lookup (fs : Files) (path : String) : Except FileFault Entry :=
  if path = "" then .error .missing
  else
    let start := if Path.isAbsolute path then [] else Path.segments fs.cwd.toList
    match fs.follow start (pieces '/' path.toList) with
    | .ok (_, e) => .ok e
    | .error fault => .error fault

/-- Whether a path leads anywhere. -/
def exists? (fs : Files) (path : String) : Bool :=
  !path.toList.contains (Char.ofNat 0) &&
    match fs.lookup path with
    | .ok _ => true
    | .error _ => false

/-- The bytes of a file. -/
def bytes (fs : Files) (path : String) : Except FileFault (List UInt8) :=
  match fs.lookup path with
  | .ok (.file bs) => .ok bs
  | .ok .directory => .error .isDirectory
  | .ok .denied => .error .denied
  | .error fault => .error fault

/-- The text of a file, every line ended by a line feed. -/
def read (fs : Files) (path : String) : Except ReadError (List Char) :=
  if path.toList.contains (Char.ofNat 0) then .error .nulInPath
  else
    match fs.bytes path with
    | .error fault => .error (.unopened ⟨fault, path⟩)
    | .ok bs =>
      match Utf8.decode bs with
      | .ok cs => .ok (unifyLines cs)
      | .error e => .error (.notUtf8 e)

end Files

/-- The variables of the environment. -/
abbrev Environment := List (String × String)

/-- The value of a variable. -/
def Environment.get? (env : Environment) (name : String) : Option String :=
  (env.find? (·.1 == name)).map (·.2)

end LspGateway
