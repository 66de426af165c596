import LspGateway.Text.Quoted

/-! # Hosts in a URI

What may stand between the two slashes of a URI and its path. Square brackets
come in pairs and hold an address of version six or later, and no character may
turn into a separator when it is normalised.
-/

namespace LspGateway.Uri
open LspGateway.Text

/-- A number below 256 in decimal without leading zeros. -/
def isOctet (cs : List Char) : Bool :=
  !cs.isEmpty && cs.length ≤ 3 && cs.all (fun c => '0' ≤ c && c ≤ '9') &&
    (cs = ['0'] || cs.head? ≠ some '0') && ofDigits (cs.filterMap digit?) ≤ 255

/-- An address of version four. -/
def isDotted (cs : List Char) : Bool :=
  let parts := pieces '.' cs
  parts.length = 4 && parts.all isOctet

/-- Up to four hexadecimal digits. -/
def isGroup (cs : List Char) : Bool :=
  !cs.isEmpty && cs.length ≤ 4 && cs.all fun c => (hexDigit? c).isSome

/-- The groups of an address, where a dotted one at the end counts as two. -/
def groups (cs : List Char) : Option (List (List Char)) :=
  let parts := pieces ':' cs
  if parts.length < 3 then none
  else
    match parts.getLast? with
    | none => none
    | some last =>
      if last.contains '.' then
        if isDotted last then some (parts.dropLast ++ [['0'], ['0']]) else none
      else some parts

/-- The places of the empty groups that have neighbours on both sides. -/
def gaps (parts : List (List Char)) : List Nat :=
  (List.range parts.length).filter fun i =>
    0 < i && i + 1 < parts.length && parts[i]? = some []

/-- The side of a gap; an empty group may only stand there alone. -/
def isSide (groups : List (List Char)) : Bool := groups = [[]] || groups.all isGroup

/-- The number of groups a side accounts for. -/
def sideSize (groups : List (List Char)) : Nat := if groups = [[]] then 0 else groups.length

/-- An address of version six, without a zone. -/
def isGrouped (cs : List Char) : Bool :=
  match groups cs with
  | none => false
  | some parts =>
    match gaps parts with
    | [] => parts.length = 8 && parts.all isGroup
    | [i] =>
      let before := parts.take i
      let after := parts.drop (i + 1)
      parts.length ≤ 9 && isSide before && isSide after && sideSize before + sideSize after < 8
    | _ => false

/-- An address of version six with an optional zone after a percent sign. -/
def isAddress (cs : List Char) : Bool :=
  match splitFirst '%' cs with
  | none => isGrouped cs
  | some (address, zone) => !zone.isEmpty && !zone.contains '%' && isGrouped address

/-- An address of a later version: `v`, its number, a dot and its text. -/
def isFuture (cs : List Char) : Bool :=
  match cs with
  | 'v' :: rest =>
    match splitFirst '.' rest with
    | some (version, text) =>
      !version.isEmpty && version.all (fun c => (hexDigit? c).isSome) && !text.isEmpty &&
        !text.contains '\n'
    | none => false
  | _ => false

/-- What is wrong with a host. -/
inductive HostFault
  | unpairedBracket
  | futureAddress
  | dottedInBrackets
  | noAddress (text : String)
  | foldsToSeparator (host : String)
  deriving DecidableEq, Repr

def HostFault.message : HostFault → String
  | .unpairedBracket => "Invalid IPv6 URL"
  | .futureAddress => "IPvFuture address is invalid"
  | .dottedInBrackets => "An IPv4 address cannot be in brackets"
  | .noAddress text => quoted text ++ " does not appear to be an IPv4 or IPv6 address"
  | .foldsToSeparator host =>
    "netloc '" ++ host ++ "' contains invalid characters under NFKC normalization"

/-- Characters whose compatibility form holds a separator of a URI. -/
def foldsToSeparator (c : Char) : Bool :=
  [0x2047, 0x2048, 0x2049, 0x2100, 0x2101, 0x2105, 0x2106, 0x2A74, 0xFE13, 0xFE16, 0xFE55, 0xFE56,
    0xFE5F, 0xFE6B, 0xFF03, 0xFF0F, 0xFF1A, 0xFF1F, 0xFF20].contains c.toNat

/-- What follows the last at sign: the user's name and password go before it. -/
def afterUser (host : List Char) : List Char := (host.reverse.takeWhile (· != '@')).reverse

/-- The address in a host with a port. A bracket opens it and closes it, nothing goes
before it, and only a port follows. -/
def addressIn (host : List Char) : Except HostFault (List Char) :=
  match splitFirst '[' host with
  | none => .ok (host.takeWhile (· != ':'))
  | some (before, rest) =>
    let port := (rest.dropWhile (· != ']')).drop 1
    if before.isEmpty && (port.isEmpty || port.head? = some ':') then
      .ok (rest.takeWhile (· != ']'))
    else .error .unpairedBracket

/-- The fault of what stands for an address, if it has one. -/
def addressFault? (address : List Char) : Option HostFault :=
  if address.head? = some 'v' then if isFuture address then none else some .futureAddress
  else if isDotted address then some .dottedInBrackets
  else if isAddress address then none
  else some (.noAddress (.ofList address))

/-- The fault of a host's brackets, if they have one. A host with brackets, even
among the user's name and password, must be an address. -/
def bracketFault? (host : List Char) : Option HostFault :=
  if host.contains '[' != host.contains ']' then some .unpairedBracket
  else if host.contains '[' then
    match addressIn (afterUser host) with
    | .error fault => some fault
    | .ok address => addressFault? address
  else none

/-- The fault of a host, if it has one. -/
def hostFault? (host : List Char) : Option HostFault :=
  match bracketFault? host with
  | some fault => some fault
  | none =>
    if host.any foldsToSeparator then some (.foldsToSeparator (.ofList host)) else none

end LspGateway.Uri
