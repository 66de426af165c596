import LspGateway.Uri.Domain.Direction
import LspGateway.Uri.Domain.Joining
import LspGateway.Uri.Domain.Mapping
import LspGateway.Uri.Domain.Punycode

/-! # Domains

A domain consists of parts with dots between them. A part that starts with a sign of its
own is written in ASCII and stands for what it spells, which must not be ASCII itself.
-/

namespace LspGateway.Uri.Domain
open LspGateway.Text

/-- How a part begins that is written in ASCII and stands for another one. -/
def codedSign : List Char := "xn--".toList

/-- The parts of a domain. -/
def parts (cs : List Char) : List (List Char) := pieces '.' cs

/-- A part does not start with a mark, holds nothing that is replaced, and its joiners
stand where they may. -/
def isSound (part : List Nat) : Bool :=
  !part.head?.any marks.contains && part.all kept.contains && joinersStand [] part

/-- What a part of a domain stands for, unless it is malformed. -/
def meaning? (part : List Char) : Option (List Nat) :=
  if startsWith codedSign part then do
    let codes ← decode? (part.drop codedSign.length)
    if part.all (fun c => c.toNat < 128) && codes.any (128 ≤ ·) && Normal.ofCodes codes = codes &&
        !startsWith codedSign (codes.map Char.ofNat) then
      pure codes
    else none
  else some (part.map Char.toNat)

/-- The one way to write a domain, unless it is malformed. -/
def ofChars? (cs : List Char) : Option (List Char) := do
  let codes ← mapped? (cs.map Char.toNat)
  let written := codes.map Char.ofNat
  let meanings ← (parts written).mapM meaning?
  if meanings.all isSound && directionsAgree meanings then pure written else none

end LspGateway.Uri.Domain
