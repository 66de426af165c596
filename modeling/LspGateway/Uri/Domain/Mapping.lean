import LspGateway.Text.Normal
import LspGateway.Uri.Domain.MappingTable

/-! # The characters of a domain

A domain may be written in many ways: in capital letters, in letters of other widths or
kinds, with characters that do not show. All but its own characters are replaced or
dropped, and what is left is put into its normal form.
-/

namespace LspGateway.Uri.Domain
open LspGateway.Text

/-- What code points stand for. -/
inductive Replacement
  /-- Each code point for one at the same distance from another first one. -/
  | inStep (first : Nat)
  | same (other : Nat)
  | several (others : List Nat)
  deriving DecidableEq, Repr

/-- A range of code points, and what they stand for. -/
structure Replacing where
  low : Nat
  high : Nat
  /-- Only every second code point is replaced. -/
  skips : Bool
  replacement : Replacement
  deriving Repr

/-- The entry of a word of the table. -/
def Replacing.ofWord (word : List Char) : Replacing :=
  let entry (range : List Char) (skips : Bool) (replacement : Replacement) : Replacing :=
    let (low, high) := Ranges.range range
    ⟨low, high, skips, replacement⟩
  match splitFirst '=' word, splitFirst ':' word, splitFirst '~' word with
  | some (range, other), _, _ =>
    if other.contains '.' then
      entry range false (.several ((pieces '.' other).map Ranges.number))
    else entry range false (.inStep (Ranges.number other))
  | none, some (range, other), _ => entry range true (.inStep (Ranges.number other))
  | none, none, some (range, other) => entry range false (.same (Ranges.number other))
  | none, none, none => entry word false (.several [])

/-- Ranges of code points that stand for others, in ascending order. -/
def replacings (table : String) : Array Replacing :=
  ((Ranges.words table).map Replacing.ofWord).toArray

/-- The code points that stand for one other. -/
def single : Array Replacing := replacings MappingTable.replaced

/-- The code points that stand for several others. -/
def multiple : Array Replacing := replacings MappingTable.spelledOut

/-- The code points that stand for themselves. -/
def kept : Ranges := .ofText MappingTable.kept

/-- The code points that count for nothing. -/
def ignored : Ranges := .ofText MappingTable.ignored

/-- What a code point stands for by an entry. -/
def Replacing.apply? (r : Replacing) (n : Nat) : Option (List Nat) :=
  if n < r.low || r.high < n || (r.skips && (n - r.low) % 2 = 1) then none
  else
    some <| match r.replacement with
      | .inStep first => [first + (n - r.low)]
      | .same other => [other]
      | .several others => others

/-- What a code point stands for by the entries of a table. -/
def replacement? (table : Array Replacing) (n : Nat) : Option (List Nat) :=
  (Ranges.place? Replacing.low table n 0 table.size).bind fun r => r.apply? n

/-- What a code point stands for in a domain, unless it must not stand there. -/
def mapping? (n : Nat) : Option (List Nat) :=
  if kept.contains n then some [n]
  else if ignored.contains n then some []
  else (replacement? single n).or (replacement? multiple n)

/-- A text as a domain, unless it holds what must not stand there. -/
def mapped? (ns : List Nat) : Option (List Nat) := do
  pure (Normal.ofCodes (← ns.mapM mapping?).flatten)

end LspGateway.Uri.Domain
