import LspGateway.Json.Misuse

/-! # Comparing values

Numbers are compared by their values, however they are written; truth values are no
numbers, but count as zero and one when values are put in order. The order of an
object's members makes no difference.
-/

namespace LspGateway.Json

/-- How far a number lies from zero, and on which side. -/
inductive Magnitude
  | ratio (num : Int) (den : Nat)
  | infinite (negative : Bool)
  deriving DecidableEq, Repr

/-- The order of two numbers. -/
def Magnitude.order : Magnitude → Magnitude → Ordering
  | .ratio a b, .ratio c d => compare (a * d) (c * b)
  | .infinite s, .infinite t => if s = t then .eq else if s then .lt else .gt
  | .infinite s, .ratio _ _ => if s then .lt else .gt
  | .ratio _ _, .infinite t => if t then .gt else .lt

/-- The magnitude of a number. -/
def magnitude? : Json → Option Magnitude
  | .int i => some (.ratio i 1)
  | .float (.infinite negative) => some (.infinite negative)
  | .float x => x.ratio?.map fun (num, den) => .ratio num den
  | _ => none

/-- Written as a number. -/
def isNumber : Json → Bool
  | .int _ => true
  | .float _ => true
  | _ => false

/-- The order of two values that are numbers. -/
def order? (a b : Json) : Option Ordering := do
  pure ((← a.magnitude?).order (← b.magnitude?))

/-- Both are numbers, and the first is less. -/
def isLess (a b : Json) : Bool := a.order? b = some .lt

/-- Both are numbers, and the first is not more. -/
def isAtMost (a b : Json) : Bool := a.order? b = some .lt || a.order? b = some .eq

/-- Whether values without parts are the same. What is no number among numbers is the
same as itself. -/
def sameAtom (a b : Json) : Bool := a == b || a.order? b = some .eq

mutual

/-- Whether two values are the same. -/
def same : Json → Json → Bool
  | .arr xs, b =>
    match b with
    | .arr ys => sameItems xs ys
    | _ => false
  | .obj ms, b =>
    match b with
    | .obj ns => ms.length = ns.length && sameMembers ms ns
    | _ => false
  | .null, b => sameAtom .null b
  | .bool x, b => sameAtom (.bool x) b
  | .int i, b => sameAtom (.int i) b
  | .float x, b => sameAtom (.float x) b
  | .str s, b => sameAtom (.str s) b

/-- Whether items are the same one after another. -/
def sameItems : List Json → List Json → Bool
  | [], ys => ys.isEmpty
  | x :: xs, ys =>
    match ys with
    | [] => false
    | y :: ys => same x y && sameItems xs ys

/-- Whether the members are among others. -/
def sameMembers : List (String × Json) → Members → Bool
  | [], _ => true
  | (k, x) :: ms, ns =>
    match ns.get? k with
    | some y => same x y && sameMembers ms ns
    | none => false

end

/-- Whether no two of several values are the same, each compared with all others. -/
def allDiffer : List Json → Bool
  | [] => true
  | x :: xs => !xs.any (same x) && allDiffer xs

mutual

/-- Whether two values are equal if truth values count as numbers. -/
def equals : Json → Json → Bool
  | .arr xs, b =>
    match b with
    | .arr ys => equalItems xs ys
    | _ => false
  | .obj ms, b =>
    match b with
    | .obj ns => ms.length = ns.length && equalMembers ms ns
    | _ => false
  | .null, b => sameAtom .null b
  | .bool x, b => sameAtom (countingTruth (.bool x)) b.countingTruth
  | .int i, b => sameAtom (.int i) b.countingTruth
  | .float x, b => sameAtom (.float x) b.countingTruth
  | .str s, b => sameAtom (.str s) b

/-- Whether items are equal one after another. -/
def equalItems : List Json → List Json → Bool
  | [], ys => ys.isEmpty
  | x :: xs, ys =>
    match ys with
    | [] => false
    | y :: ys => equals x y && equalItems xs ys

/-- Whether the members are equal to those of others. -/
def equalMembers : List (String × Json) → Members → Bool
  | [], _ => true
  | (k, x) :: ms, ns =>
    match ns.get? k with
    | some y => equals x y && equalMembers ms ns
    | none => false

end

/-- Whether two values that are numbers, truth values among them, are in a relation. -/
def Relation.holds (r : Relation) (a b : Json) : Except Misuse Bool :=
  let x := a.countingTruth
  let y := b.countingTruth
  if x.isNumber && y.isNumber then
    .ok <| match r with
      | .less => x.isLess y
      | .atMost => x.isAtMost y
      | .more => y.isLess x
      | .atLeast => y.isAtMost x
  else .error (.noOrder r a.kind b.kind)

mutual

/-- Whether a value comes before another: numbers by value, texts by their characters,
arrays by the first items that differ. -/
def before : Json → Json → Except Misuse Bool
  | .arr xs, b =>
    match b with
    | .arr ys => beforeItems xs ys
    | b => .error (.noOrder .less .arr b.kind)
  | .str s, b =>
    match b with
    | .str t => .ok (s < t)
    | b => .error (.noOrder .less .str b.kind)
  | .null, b => Relation.less.holds .null b
  | .bool x, b => Relation.less.holds (.bool x) b
  | .int i, b => Relation.less.holds (.int i) b
  | .float x, b => Relation.less.holds (.float x) b
  | .obj ms, b => .error (.noOrder .less (Json.obj ms).kind b.kind)

/-- Whether items come before others. -/
def beforeItems : List Json → List Json → Except Misuse Bool
  | [], ys => .ok !ys.isEmpty
  | x :: xs, ys =>
    match ys with
    | [] => .ok false
    | y :: ys => if equals x y then beforeItems xs ys else before x y

end

/-- The place of a value among those that are in order, after its equals; the values
from `low` to `high` are left to look at. -/
def placeIn (x : Json) (xs : Array Json) (low high : Nat) : Except Misuse Nat :=
  if h : low < high then do
    let middle := (low + high) / 2
    if ← before x (xs.getD middle .null) then placeIn x xs low middle
    else placeIn x xs (middle + 1) high
  else .ok low
termination_by high - low
decreasing_by all_goals omega

/-- Puts values into their places one after another. -/
def arrange (xs : Array Json) : List Json → Except Misuse (List Json)
  | [] => .ok xs.toList
  | y :: ys => do
    let i ← placeIn y xs 0 xs.size
    arrange (xs.insertIdxIfInBounds i y) ys

/-- The length of the run that goes up, or down, after its first value. -/
def runLength (isDown : Bool) (last : Json) : List Json → Except Misuse Nat
  | [] => .ok 0
  | x :: xs => do
    if (← before x last) = isDown then pure ((← runLength isDown x xs) + 1) else pure 0

/-- Values in order. The values that go up or down at the start are taken as they are,
the others find their places among them. -/
def inOrder : List Json → Except Misuse (List Json)
  | x :: y :: rest => do
    let isDown ← before y x
    let n := (← runLength isDown y rest) + 2
    let run := (x :: y :: rest).take n
    arrange (if isDown then run.reverse else run).toArray ((x :: y :: rest).drop n)
  | xs => .ok xs

/-- Whether no two neighbours are the same. -/
def neighboursDiffer : List Json → Bool
  | x :: y :: rest => !same x y && neighboursDiffer (y :: rest)
  | _ => true

/-- Whether a value has a place in an order. Truth values have none here. -/
def isOrdered : Json → Bool
  | .bool _ => false
  | _ => true

/-- Whether several values differ. Values that can be put in order are compared with
their neighbours there, all others with each other. -/
def allDistinct (xs : List Json) : Bool :=
  if xs.all isOrdered then
    match inOrder xs with
    | .ok ys => neighboursDiffer ys
    | .error _ => allDiffer xs
  else allDiffer xs

/-- Why a number is no multiple or non-multiple of another. -/
inductive QuotientFault
  | infinite
  | notANumber
  | tooLarge
  /-- The divisor is zero; both numbers may be integers. -/
  | byZero (areIntegers : Bool)
  | byZeroFraction
  | misuse (fault : Misuse)
  deriving DecidableEq, Repr

def QuotientFault.message : QuotientFault → String
  | .infinite => "cannot convert Infinity to integer ratio"
  | .notANumber => "cannot convert float NaN to integer"
  | .tooLarge => "int too large to convert to float"
  | .byZero areIntegers => if areIntegers then "integer modulo by zero" else "float modulo"
  | .byZeroFraction => "float division by zero"
  | .misuse fault => fault.message

/-- The number nearest to an integer, if it is within the range of the format. -/
def nearestTo (i : Int) : Except QuotientFault Binary64 :=
  match Binary64.nearest false i 1 with
  | .infinite _ => .error .tooLarge
  | x => .ok x

/-- Whether the exact quotient of two finite numbers is whole. -/
def dividesExactly (x d : Json) : Bool :=
  match x.magnitude?, d.magnitude? with
  | some (.ratio a b), some (.ratio c e) => (a * e) % (b * c) = 0
  | _, _ => false

/-- Whether a number is a multiple of one with a fraction. The quotient, that of the
nearest number of the format, is rounded before it is looked at, unless it is beyond the
range of the format. -/
def isMultipleOfFloat (x : Json) (nearest d : Binary64) : Except QuotientFault Bool :=
  match nearest.div? d with
  | none => .error .byZeroFraction
  | some .nan => .error .notANumber
  | some (.infinite _) =>
    if nearest.ratio?.isNone || d.ratio?.isNone then .error .infinite
    else .ok (dividesExactly x (.float d))
  | some q => .ok q.toInt?.isSome

/-- Whether a number is a multiple of an integer. -/
def isMultipleOfInt (x : Json) (n : Int) : Except QuotientFault Bool :=
  match x with
  | .int i => if n = 0 then .error (.byZero true) else .ok (i % n = 0)
  | x => do
    let d ← nearestTo n
    if n = 0 then .error (.byZero false) else pure (dividesExactly x (.float d))

/-- Whether a number is a multiple of another. -/
def isMultiple (x d : Json) : Except QuotientFault Bool :=
  match x, d.countingTruth with
  | .int i, .float d => do isMultipleOfFloat (.int i) (← nearestTo i) d
  | .float x, .float d => isMultipleOfFloat (.float x) x d
  | x, .int n => isMultipleOfInt x n
  | x, d => .error (.misuse (.noRemainder x.kind d.kind))

end LspGateway.Json
