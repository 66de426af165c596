import LspGateway.Uri.Parts

/-! # References between URIs

A URI may be written in short, as seen from another one: what it leaves out at its start
is taken from there.
-/

namespace LspGateway.Uri
open LspGateway.Text

/-- The schemes whose URIs are written in short. -/
def relativeSchemes : List String :=
  ["", "ftp", "http", "gopher", "nntp", "imap", "wais", "file", "https", "shttp", "mms",
    "prospero", "rtsp", "rtsps", "rtspu", "sftp", "svn", "svn+ssh", "ws", "wss"]

/-- The path without its parameters, and the parameters: what follows the first semicolon
of its last segment, if the scheme has any. -/
def Parts.splitParameters (p : Parts) : List Char × List Char :=
  if parameterSchemes.contains (.ofList p.scheme) then
    let last := (p.path.reverse.takeWhile (· != '/')).reverse
    let before := p.path.take (p.path.length - last.length)
    let (segment, parameters) := cutAt ';' last
    (before ++ segment, parameters)
  else (p.path, [])

/-- A path with parameters. -/
def withParameters (path parameters : List Char) : List Char :=
  if parameters.isEmpty then path else path ++ ';' :: parameters

/-- Goes along the segments of a path: one dot stays where it is, two go back. -/
def walkSegments (done : List (List Char)) : List (List Char) → List (List Char)
  | [] => done.reverse
  | ['.', '.'] :: rest => walkSegments done.tail rest
  | ['.'] :: rest => walkSegments done rest
  | segment :: rest => walkSegments (segment :: done) rest

/-- Drops the empty segments but the first and the last. -/
def dropEmptySegments : List (List Char) → List (List Char)
  | [] => []
  | first :: rest =>
    first :: (rest.dropLast.filter fun segment => !segment.isEmpty) ++ rest.getLast?.toList

/-- The path that another one leads to, as seen from a path. -/
def joinPaths (base path : List Char) : List Char :=
  let segments :=
    if path.head? = some '/' then pieces '/' path
    else
      let before := pieces '/' base
      let before := if before.getLast? = some [] then before else before.dropLast
      dropEmptySegments (before ++ pieces '/' path)
  let isDots (segment : List Char) : Bool := segment = ['.'] || segment = ['.', '.']
  let walked :=
    walkSegments [] segments ++ if (segments.getLast?).any isDots then [[]] else []
  let joined := ['/'].intercalate walked
  if joined.isEmpty then ['/'] else joined

/-- The parts of a URI that is written in short, as seen from another one with the same
scheme. -/
def joinParts (base other : Parts) : Parts :=
  let (basePath, baseParameters) := base.splitParameters
  let (path, parameters) := other.splitParameters
  if hostSchemesOrNone.contains (.ofList other.scheme) && !other.host.isEmpty then
    { other with path := withParameters path parameters }
  else
    let host := if hostSchemesOrNone.contains (.ofList other.scheme) then base.host else other.host
    if path.isEmpty && parameters.isEmpty then
      let query := if other.query.isEmpty then base.query else other.query
      { other with host, path := withParameters basePath baseParameters, query }
    else { other with host, path := withParameters (joinPaths basePath path) parameters }
where
  /-- The schemes whose URIs name a host, and none at all. -/
  hostSchemesOrNone : List String := "" :: hostSchemes

/-- What a URI stands for, as seen from another one. -/
def join (base other : List Char) : Except HostFault (List Char) :=
  if base.isEmpty then .ok other
  else if other.isEmpty then .ok base
  else do
    let b ← Parts.ofChars base
    let o ← Parts.ofChars other
    let o := if o.scheme.isEmpty then { o with scheme := b.scheme } else o
    if o.scheme = b.scheme && relativeSchemes.contains (.ofList o.scheme) then
      pure (joinParts b o).toChars
    else pure other

end LspGateway.Uri
