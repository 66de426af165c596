import LspGateway.Text.Quoted

/-! # Ways into a value

The steps that lead from a value to a part of it: to a member of an object by its name, or
to an item of an array by its place.
-/

namespace LspGateway.Schema

/-- A step from a value to a part of it. -/
inductive Step
  | member (name : String)
  | item (index : Nat)
  deriving DecidableEq, Repr

/-- The order of steps: items by index, members by name. -/
def Step.isBefore : Step → Step → Bool
  | .item i, .item k => i < k
  | .member m, .member n => m < n
  | .item _, .member _ => true
  | .member _, .item _ => false

/-- A step as it is shown. -/
def Step.shown : Step → String
  | .member name => "[" ++ Text.quoted name ++ "]"
  | .item index => "[" ++ Text.ofNat index ++ "]"

/-- The order of paths, step by step. -/
def isBefore : List Step → List Step → Bool
  | [], [] => false
  | [], _ :: _ => true
  | _ :: _, [] => false
  | a :: as, b :: bs => if a = b then isBefore as bs else a.isBefore b

end LspGateway.Schema
