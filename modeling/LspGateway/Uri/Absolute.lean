import LspGateway.Uri.Domain.Basic
import LspGateway.Uri.File

/-! # Absolute URIs

Whether a text is a URI that stands for itself: it starts with a scheme, and what
the scheme says of the host is kept. The schemes of the web need a host, which is a
domain, and read one that ends in a number as an address.
-/

namespace LspGateway.Uri
open LspGateway.Text

/-- Schemes that need a host, and take a backslash for a slash. -/
def webSchemes : List String := ["http", "https", "ws", "wss", "ftp"]

/-- Ends the host part of an address on the web. -/
def endsAuthority (isWeb : Bool) (c : Char) : Bool := endsHost c || (isWeb && c = '\\')

/-- Characters that stand in no host. -/
def isForbiddenInHost (c : Char) : Bool :=
  ['\t', '\n', '\r', ' ', '#', '/', ':', '<', '>', '?', '@', '[', '\\', ']', '^', '|'].contains c ||
    c.toNat = 0

/-- Characters that stand in no name of the web. -/
def isForbiddenInName (c : Char) : Bool :=
  isForbiddenInHost c || c = '%' || c.toNat < 32 || c.toNat = 127

/-- A number as an address writes it: octal after a zero, hexadecimal after `0x`. -/
def addressNumber? (cs : List Char) : Option Nat :=
  let ofBase (base : Nat) (cs : List Char) : Option Nat :=
    if cs.all fun c => (hexDigit? c).any (· < base) then
      some ((cs.filterMap hexDigit?).foldl (fun n d => base * n + d) 0)
    else none
  match cs with
  | [] => none
  | '0' :: 'x' :: rest => ofBase 16 rest
  | '0' :: 'X' :: rest => ofBase 16 rest
  | '0' :: c :: rest => ofBase 8 (c :: rest)
  | cs => ofBase 10 cs

/-- The labels of a host, without the empty one that a dot at the end leaves. -/
def labels (host : List Char) : List (List Char) :=
  let parts := pieces '.' host
  if 1 < parts.length && parts.getLast? = some [] then parts.dropLast else parts

/-- The last label of a host is a number, so the host must be an address. -/
def endsInNumber (host : List Char) : Bool :=
  match (labels host).getLast? with
  | some last =>
    !last.isEmpty && (last.all (fun c => (digit? c).isSome) || (addressNumber? last).isSome)
  | none => false

/-- One to four numbers; all but the last are bytes, and the last fills the rest. -/
def isNumericAddress (host : List Char) : Bool :=
  let parts := labels host
  match (parts.mapM addressNumber?).map List.reverse with
  | some (last :: others) =>
    parts.length ≤ 4 && others.all (· < 256) && last < Nat.pow 256 (5 - parts.length)
  | _ => false

/-- A host in brackets. -/
def isBracketed (host : List Char) : Bool :=
  host.getLast? = some ']' && isGrouped (host.drop 1).dropLast

/-- The domain that a host on the web is written for, unless it is malformed. -/
def domain? (host : List Char) : Option (List Char) :=
  match Utf8.decode (percentBytes host) with
  | .ok text => Domain.ofChars? text
  | .error _ => none

/-- A host on the web. -/
def isWebHost (host : List Char) : Bool :=
  if host.head? = some '[' then isBracketed host
  else
    (domain? host).any fun name =>
      !name.isEmpty && !name.any isForbiddenInName && (!endsInNumber name || isNumericAddress name)

/-- A host of a scheme of its own. -/
def isOtherHost (host : List Char) : Bool :=
  if host.head? = some '[' then isBracketed host else !host.any isForbiddenInHost

/-- A port: nothing, or a number of two bytes. -/
def isPort (cs : List Char) : Bool :=
  cs.all (fun c => (digit? c).isSome) && ofDigits (cs.filterMap digit?) < 65536

/-- The host, and what follows its colon if there is one. -/
def splitPort (cs : List Char) : List Char × Option (List Char) :=
  if cs.head? = some '[' then
    let host := cs.takeWhile (· != ']')
    match cs.drop host.length with
    | ']' :: ':' :: port => (host ++ [']'], some port)
    | rest => (host ++ rest, none)
  else
    match splitFirst ':' cs with
    | some (host, port) => (host, some port)
    | none => (cs, none)

/-- The user's name and password that go before the host, if there is room for them. -/
def userOf? (cs : List Char) : Option (List Char) := (splitLast '@' cs).map (·.1)

/-- Whether a name and a password say anything. Between an empty name and an empty password
there may be a colon. -/
def isUser (user : List Char) : Bool := !(user.isEmpty || user = [':'])

/-- A user, a host and a port, of which only the web needs the host. Elsewhere it may be
missing if there is no port, no user, and nothing after an empty user. -/
def isAuthority (isWeb : Bool) (cs rest : List Char) : Bool :=
  let (host, port) := splitPort (afterUser cs)
  let user? := userOf? cs
  if host.isEmpty then
    !isWeb && port.isNone && !user?.any isUser && (user? ≠ some [] || rest.isEmpty)
  else
    (if isWeb then isWebHost host else isOtherHost host) &&
      port.all fun port => isPort (port.takeWhile (· != '\\'))

/-- A letter and a sign that name a drive. -/
def isDrive (cs : List Char) : Bool :=
  match cs with
  | [letter, sign] => letter.isAlpha && (sign = ':' || sign = '|')
  | _ => false

/-- What follows the scheme of a file's URI. What names a drive is no host. -/
def isFileRest (cs : List Char) : Bool :=
  let slash (c : Char) : Bool := c = '/' || c = '\\'
  match cs with
  | a :: b :: rest =>
    if slash a && slash b then
      let host := rest.takeWhile (!endsAuthority true ·)
      host.isEmpty || isDrive host || isWebHost host
    else true
  | _ => true

/-- Whether a text is a URI with a scheme. -/
def isAbsolute (cs : List Char) : Bool :=
  let cs := (dropEndWhile isLeading (cs.dropWhile isLeading)).filter (!isDropped ·)
  match splitScheme cs with
  | ([], _) => false
  | (scheme, rest) =>
    let name := String.ofList scheme
    if name = "file" then isFileRest rest
    else if webSchemes.contains name then
      let rest := rest.dropWhile fun c => c = '/' || c = '\\'
      isAuthority true (rest.takeWhile (!endsAuthority true ·))
        (rest.dropWhile (!endsAuthority true ·))
    else
      match rest with
      | '/' :: '/' :: rest =>
        isAuthority false (rest.takeWhile (!endsAuthority false ·))
          (rest.dropWhile (!endsAuthority false ·))
      | _ => true

end LspGateway.Uri
