import LspGateway.Uri.Host

/-! # The parts of a URI

A URI is cut into scheme, host, path, query and fragment, and put together again
without the parts that are empty. What may not stand in a URI at all is dropped
before.
-/

namespace LspGateway.Uri
open LspGateway.Text

/-- Dropped from a URI before it is read. -/
def isDropped (c : Char) : Bool := c = '\t' || c = '\r' || c = '\n'

/-- Control characters and blanks, which do not count at the start of a URI. -/
def isLeading (c : Char) : Bool := c.toNat ≤ 32

/-- Ends the host of a URI. -/
def endsHost (c : Char) : Bool := c = '/' || c = '?' || c = '#'

/-- What may stand in a scheme. -/
def isSchemeChar (c : Char) : Bool := c.isAlphanum || c = '+' || c = '-' || c = '.'

/-- The parts of a URI; one that is missing is empty. -/
structure Parts where
  scheme : List Char
  host : List Char
  path : List Char
  query : List Char
  fragment : List Char
  deriving DecidableEq, Repr

/-- The scheme in small letters, and what follows its colon. -/
def splitScheme (cs : List Char) : List Char × List Char :=
  match splitFirst ':' cs with
  | some (scheme, rest) =>
    if (scheme.head?.any Char.isAlpha) && scheme.all isSchemeChar then
      (scheme.map Char.toLower, rest)
    else ([], cs)
  | none => ([], cs)

/-- What goes before the first separator, and what follows it. -/
def cutAt (sep : Char) (cs : List Char) : List Char × List Char :=
  (splitFirst sep cs).getD (cs, [])

/-- The parts of a URI, unless its host is malformed. -/
def Parts.ofChars (cs : List Char) : Except HostFault Parts :=
  let (scheme, rest) := splitScheme ((cs.dropWhile isLeading).filter (!isDropped ·))
  let (host, rest) :=
    match rest with
    | '/' :: '/' :: rest => (rest.takeWhile (!endsHost ·), rest.dropWhile (!endsHost ·))
    | _ => ([], rest)
  match hostFault? host with
  | some fault => .error fault
  | none =>
    let (rest, fragment) := cutAt '#' rest
    let (path, query) := cutAt '?' rest
    .ok ⟨scheme, host, path, query, fragment⟩

/-- The schemes whose URIs name a host. -/
def hostSchemes : List String :=
  ["ftp", "http", "gopher", "nntp", "telnet", "imap", "wais", "file", "mms", "https", "shttp",
    "snews", "prospero", "rtsp", "rtsps", "rtspu", "rsync", "svn", "svn+ssh", "sftp", "nfs", "git",
    "git+ssh", "ws", "wss", "itms-services"]

/-- The host and the path, with the slashes that set them apart. -/
def Parts.location (p : Parts) : List Char :=
  if !p.host.isEmpty then
    "//".toList ++ p.host ++
      (if p.path.isEmpty || p.path.head? = some '/' then [] else ['/']) ++ p.path
  else if startsWith "//".toList p.path then "//".toList ++ p.path
  else if hostSchemes.contains (.ofList p.scheme) &&
      (p.path.isEmpty || p.path.head? = some '/') then
    "//".toList ++ p.path
  else p.path

/-- The URI of the parts. -/
def Parts.toChars (p : Parts) : List Char :=
  (if p.scheme.isEmpty then [] else p.scheme ++ [':']) ++ p.location ++
    (if p.query.isEmpty then [] else '?' :: p.query) ++
    (if p.fragment.isEmpty then [] else '#' :: p.fragment)

/-- The schemes whose paths end in parameters after a semicolon. -/
def parameterSchemes : List String :=
  ["", "ftp", "hdl", "prospero", "http", "imap", "https", "shttp", "rtsp", "rtsps", "rtspu", "sip",
    "sips", "mms", "sftp", "tel"]

/-- A path without a semicolon that starts no parameters: the first one of the last
segment, if nothing follows it. -/
def dropEmptyParameters (path : List Char) : List Char :=
  let last := (path.reverse.takeWhile (· != '/')).reverse
  if (last.dropWhile (· != ';')) = [';'] then path.dropLast else path

/-- The URI of a document and the fragment that a URI names in it. -/
def splitFragment (cs : List Char) : Except HostFault (List Char × List Char) :=
  if cs.contains '#' then
    match Parts.ofChars cs with
    | .error fault => .error fault
    | .ok p =>
      let path :=
        if parameterSchemes.contains (.ofList p.scheme) then dropEmptyParameters p.path else p.path
      .ok ({ p with path := path, fragment := [] }.toChars, p.fragment)
  else .ok (cs, [])

/-- The one way to write a URI that has several. -/
def normal (cs : List Char) : Except HostFault (List Char) :=
  match Parts.ofChars cs with
  | .ok p => .ok p.toChars
  | .error fault => .error fault

end LspGateway.Uri
