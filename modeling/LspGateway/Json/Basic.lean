import LspGateway.Number.Binary64

/-! # JSON values

Objects keep their members in order, and integers are apart from numbers with a
fraction or an exponent. A member that is written again keeps its first place.
-/

namespace LspGateway

/-- A JSON value. -/
inductive Json
  | null
  | bool (value : Bool)
  | int (value : Int)
  | float (value : Binary64)
  | str (value : String)
  | arr (items : List Json)
  | obj (members : List (String × Json))
  deriving Repr, Inhabited

namespace Json

mutual

/-- Equality of values, member order included. -/
def decEq : (a b : Json) → Decidable (a = b)
  | .null, b => by
    cases b <;> first
      | exact .isTrue rfl
      | exact .isFalse (by intro h; cases h)
  | .bool x, b => by
    cases b with
    | bool y =>
      exact if h : x = y then .isTrue (by rw [h]) else .isFalse (by intro g; cases g; exact h rfl)
    | _ => exact .isFalse (by intro h; cases h)
  | .int x, b => by
    cases b with
    | int y =>
      exact if h : x = y then .isTrue (by rw [h]) else .isFalse (by intro g; cases g; exact h rfl)
    | _ => exact .isFalse (by intro h; cases h)
  | .float x, b => by
    cases b with
    | float y =>
      exact if h : x = y then .isTrue (by rw [h]) else .isFalse (by intro g; cases g; exact h rfl)
    | _ => exact .isFalse (by intro h; cases h)
  | .str x, b => by
    cases b with
    | str y =>
      exact if h : x = y then .isTrue (by rw [h]) else .isFalse (by intro g; cases g; exact h rfl)
    | _ => exact .isFalse (by intro h; cases h)
  | .arr xs, b => by
    cases b with
    | arr ys =>
      exact match decEqList xs ys with
        | .isTrue h => .isTrue (by rw [h])
        | .isFalse h => .isFalse (by intro g; cases g; exact h rfl)
    | _ => exact .isFalse (by intro h; cases h)
  | .obj xs, b => by
    cases b with
    | obj ys =>
      exact match decEqMembers xs ys with
        | .isTrue h => .isTrue (by rw [h])
        | .isFalse h => .isFalse (by intro g; cases g; exact h rfl)
    | _ => exact .isFalse (by intro h; cases h)

/-- Equality of item lists. -/
def decEqList : (a b : List Json) → Decidable (a = b)
  | [], [] => .isTrue rfl
  | [], _ :: _ => .isFalse (by intro h; cases h)
  | _ :: _, [] => .isFalse (by intro h; cases h)
  | x :: xs, y :: ys =>
    match decEq x y with
    | .isFalse h => .isFalse (by intro g; cases g; exact h rfl)
    | .isTrue h =>
      match decEqList xs ys with
      | .isTrue g => .isTrue (by rw [h, g])
      | .isFalse g => .isFalse (by intro e; cases e; exact g rfl)

/-- Equality of member lists. -/
def decEqMembers : (a b : List (String × Json)) → Decidable (a = b)
  | [], [] => .isTrue rfl
  | [], _ :: _ => .isFalse (by intro h; cases h)
  | _ :: _, [] => .isFalse (by intro h; cases h)
  | (k, x) :: xs, (l, y) :: ys =>
    if hk : k = l then
      match decEq x y with
      | .isFalse h => .isFalse (by intro g; cases g; exact h rfl)
      | .isTrue h =>
        match decEqMembers xs ys with
        | .isTrue g => .isTrue (by rw [hk, h, g])
        | .isFalse g => .isFalse (by intro e; cases e; exact g rfl)
    else .isFalse (by intro g; cases g; exact hk rfl)

end

instance : DecidableEq Json := decEq

/-- Members of an object, in order. -/
abbrev Members := List (String × Json)

/-- The value of a member. -/
def Members.get? (ms : Members) (key : String) : Option Json :=
  (ms.find? (·.1 == key)).map (·.2)

/-- Writes a member: in its place if the key is there, else at the end. -/
def Members.set : Members → String → Json → Members
  | [], key, v => [(key, v)]
  | (k, w) :: ms, key, v =>
    if k == key then (k, v) :: ms else (k, w) :: Members.set ms key v

/-- Drops a member. -/
def Members.erase (ms : Members) (key : String) : Members := ms.filter (·.1 != key)

/-- The members written one after another. -/
def Members.ofList (ms : List (String × Json)) : Members :=
  ms.foldl (fun acc (k, v) => acc.set k v) []

/-- The value of a member of an object. -/
def get? (j : Json) (key : String) : Option Json :=
  match j with
  | .obj ms => Members.get? ms key
  | _ => none

/-- Counts as true: everything but null, false, zero and the empty. -/
def truthy : Json → Bool
  | .null => false
  | .bool b => b
  | .int i => i != 0
  | .float x => x.isNonzero
  | .str s => s != ""
  | .arr xs => !xs.isEmpty
  | .obj ms => !ms.isEmpty

/-- The text of a string value. -/
def str? : Json → Option String
  | .str s => some s
  | _ => none

mutual

/-- The number of values within values. -/
def depth : Json → Nat
  | .arr xs => depthOfItems xs + 1
  | .obj ms => depthOfMembers ms + 1
  | _ => 1

/-- The greatest depth of items. -/
def depthOfItems : List Json → Nat
  | [] => 0
  | x :: xs => max (depth x) (depthOfItems xs)

/-- The greatest depth of members. -/
def depthOfMembers : List (String × Json) → Nat
  | [] => 0
  | (_, x) :: ms => max (depth x) (depthOfMembers ms)

end

/-- The object with these members. -/
def mk (ms : List (String × Json)) : Json := .obj ms

/-- The kinds of value, as messages name them. -/
inductive Kind
  | null | bool | int | float | str | arr | obj
  deriving DecidableEq, Repr

/-- The kind of a value. -/
def kind : Json → Kind
  | .null => .null
  | .bool _ => .bool
  | .int _ => .int
  | .float _ => .float
  | .str _ => .str
  | .arr _ => .arr
  | .obj _ => .obj

/-- The name of a kind in messages. -/
def Kind.name : Kind → String
  | .null => "NoneType"
  | .bool => "bool"
  | .int => "int"
  | .float => "float"
  | .str => "str"
  | .arr => "list"
  | .obj => "dict"

end Json

end LspGateway
