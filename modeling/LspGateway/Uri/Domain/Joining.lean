import LspGateway.Text.Normal
import LspGateway.Uri.Domain.JoiningTable

/-! # Letters that join in a domain

Two characters that do not show tell how the letters beside them are joined. They may stand
only where that makes a difference.
-/

namespace LspGateway.Uri.Domain
open LspGateway.Text

/-- How a letter is joined to those beside it. -/
inductive Joining
  | both
  | following
  | preceding
  | through
  deriving DecidableEq, Repr

/-- The letters that are joined. -/
def Joining.table : RangeMap Joining := .ofList [
  (both, JoiningTable.both),
  (following, JoiningTable.following),
  (preceding, JoiningTable.preceding),
  (through, JoiningTable.through)]

/-- How a code point is joined, if it is. -/
def joining? (n : Nat) : Option Joining := Joining.table.find? n

/-- Marks upon or around other characters. -/
def marks : Ranges := .ofText JoiningTable.marks

/-- Keeps the letters beside it apart. -/
def nonJoiner : Nat := 0x200C

/-- Joins the letters beside it. -/
def joiner : Nat := 0x200D

/-- The class of the mark that takes away the vowel of a letter. -/
def vowelKiller : Nat := 9

/-- Whether a letter, looked for past marks, is joined in one of two ways. -/
def joins (one other : Joining) (ns : List Nat) : Bool :=
  match (ns.dropWhile fun n => joining? n = some .through).head? with
  | some n => joining? n = some one || joining? n = some other
  | none => false

/-- Whether a joiner or a non-joiner may stand between others. -/
def mayStand (n : Nat) (before after : List Nat) : Bool :=
  if n = joiner || n = nonJoiner then
    before.head?.any (fun m => Normal.classOf m = vowelKiller) ||
      (n = nonJoiner && joins .both .following before && joins .both .preceding after)
  else true

/-- Whether the joiners and non-joiners stand where they may; `before` holds what goes
before, the last one first. -/
def joinersStand (before : List Nat) : List Nat → Bool
  | [] => true
  | n :: after => mayStand n before after && joinersStand (n :: before) after

end LspGateway.Uri.Domain
