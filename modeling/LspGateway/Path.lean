import LspGateway.Text.Blank

/-! # Paths

A path is a run of segments between slashes, with one or two slashes in front of
it if it is absolute. Tidying drops the segments that say nothing; resolving also
lets a step up cancel the segment before it and starts at a directory.
-/

namespace LspGateway.Path
open LspGateway.Text

/-- One piece of a path between slashes. -/
abbrev Segment := List Char

/-- The character between names. -/
def slash : Segment := ['/']

/-- The name of the directory itself. -/
def here : Segment := ['.']

/-- The name of the directory above. -/
def up : Segment := ['.', '.']

/-- The slashes an absolute path starts with; three or more count as one. -/
def anchor : List Char → List Char
  | '/' :: '/' :: '/' :: _ => ['/']
  | '/' :: '/' :: _ => ['/', '/']
  | '/' :: _ => ['/']
  | _ => []

/-- Segments with slashes between them. -/
def join : List Segment → List Char
  | [] => []
  | [s] => s
  | s :: ss => s ++ '/' :: join ss

/-- The segments that say something. -/
def segments (cs : List Char) : List Segment :=
  (pieces '/' cs).filter fun s => s ≠ [] && s ≠ here

/-- The text of a path that may be empty. -/
def orHere (cs : List Char) : List Char := if cs = [] then here else cs

/-- The path without empty segments and dots. -/
def tidyChars (cs : List Char) : List Char := orHere (anchor cs ++ join (segments cs))

/-- The path without empty segments and dots. -/
def tidy (p : String) : String := .ofList (tidyChars p.toList)

/-- A file inside a directory, both in tidy form. -/
def child (directory name : String) : String :=
  if directory = "." then name
  else
    let cs := directory.toList
    .ofList (anchor cs ++ join (segments cs ++ segments name.toList))

/-- One segment after those in `stack`, the last of which comes first: a step up
cancels a segment, and is dropped at the root. -/
def step (rooted : Bool) (stack : List Segment) (s : Segment) : List Segment :=
  if s = up then
    match stack with
    | [] => if rooted then [] else [up]
    | t :: rest => if t = up then up :: stack else rest
  else s :: stack

/-- Segments with the steps up carried out. -/
def resolve (rooted : Bool) (ss : List Segment) : List Segment :=
  (ss.foldl (step rooted) []).reverse

/-- The shortest path to the same place, if no segment is a link. -/
def normalizeChars (cs : List Char) : List Char :=
  orHere (anchor cs ++ join (resolve (anchor cs ≠ []) (segments cs)))

/-- A path that starts at the root. -/
def isAbsolute (p : String) : Bool :=
  match p.toList with
  | '/' :: _ => true
  | _ => false

/-- A path put behind a directory. -/
def under (directory cs : List Char) : List Char :=
  if directory.getLast? = some '/' then directory ++ cs else directory ++ '/' :: cs

/-- The path seen from a directory, as an absolute path in normal form. -/
def absoluteChars (cwd cs : List Char) : List Char :=
  match cs with
  | '/' :: _ => normalizeChars cs
  | _ => normalizeChars (under cwd cs)

/-- The path seen from a directory, as an absolute path in normal form. -/
def absolute (cwd p : String) : String := .ofList (absoluteChars cwd.toList p.toList)

/-- The last segment of a path. -/
def lastSegment (cs : List Char) : Segment := ((pieces '/' cs).getLast?).getD []

/-- The last dot of a file name and what follows it; none if only dots precede it. -/
def suffix (p : String) : String :=
  let name := lastSegment p.toList
  match splitLast '.' name with
  | none => ""
  | some (stem, ext) => if stem.all (· == '.') then "" else .ofList ('.' :: ext)

end LspGateway.Path
