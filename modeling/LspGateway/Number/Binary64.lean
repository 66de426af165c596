import LspGateway.Text.Digits

/-! # Binary floating point numbers

A number of the 64-bit binary format as a sign, a whole mantissa and a power of
two. Decimal notation is read by rounding to the nearest such number, a half
going to the even neighbour, and written with the fewest digits that are read
back as the same number.
-/

namespace LspGateway

/-- A number of the 64-bit binary format. A finite one is `mantissa * 2 ^ exponent`. -/
inductive Binary64
  | finite (negative : Bool) (mantissa : Nat) (exponent : Int)
  | infinite (negative : Bool)
  | nan
  deriving DecidableEq, Repr, Inhabited

namespace Binary64

/-- The least exponent of two. -/
def minExponent : Int := -1074

/-- The greatest exponent of two. -/
def maxExponent : Int := 971

/-- The positive or negative zero. -/
def zero (negative : Bool) : Binary64 := .finite negative 0 0

/-- A power of two. -/
def twoTo (n : Nat) : Nat := Nat.pow 2 n

/-- A power of ten. -/
def tenTo (n : Nat) : Nat := Nat.pow 10 n

/-- The quotient rounded to the nearest whole number, a half to the even one. -/
def roundDiv (num den : Nat) : Nat :=
  let q := num / den
  let r := num % den
  if 2 * r < den then q
  else if den < 2 * r then q + 1
  else if q % 2 = 0 then q else q + 1

/-- `num / den` as a quotient by `2 ^ q`. -/
def scale (num den : Nat) (q : Int) : Nat × Nat :=
  match q with
  | .ofNat n => (num, den * twoTo n)
  | .negSucc n => (num * twoTo (n + 1), den)

/-- The number nearest to `num / den`, for positive `num` and `den`. -/
def ofRatio (negative : Bool) (num den : Nat) : Binary64 :=
  let guess : Int := (Nat.log2 num : Int) - (Nat.log2 den : Int) - 52
  let fits (q : Int) : Bool :=
    let (a, b) := scale num den q
    twoTo 52 * b ≤ a
  let q₀ := if fits guess then guess else guess - 1
  let q := max q₀ minExponent
  let (a, b) := scale num den q
  let m := roundDiv a b
  if m = 0 then zero negative
  else
    let (m, q) := if m = twoTo 53 then (twoTo 52, q + 1) else (m, q)
    if maxExponent < q then .infinite negative else .finite negative m q

/-- The number nearest to `coefficient * 10 ^ exponent`. Beyond the range of the
format the magnitude alone decides. -/
def ofDecimal (negative : Bool) (coefficient : Nat) (exponent : Int) : Binary64 :=
  if coefficient = 0 then zero negative
  else
    let magnitude := exponent + (Text.digits 10 coefficient).length
    if 400 < magnitude then .infinite negative
    else if magnitude < -400 then zero negative
    else
      match exponent with
      | .ofNat n => ofRatio negative (coefficient * tenTo n) 1
      | .negSucc n => ofRatio negative coefficient (tenTo (n + 1))

/-- A decimal numeral: `digits`, read as `0.d₁d₂… * 10 ^ point`. -/
structure Numeral where
  digits : List Char
  point : Int
  deriving DecidableEq, Repr

/-- The interval of ratios read back as `mantissa * 2 ^ exponent`, and that value,
over one denominator: lower bound, value, upper bound, denominator. -/
def interval (mantissa : Nat) (exponent : Int) : Nat × Nat × Nat × Nat :=
  let low := if mantissa = twoTo 52 && minExponent < exponent then 4 * mantissa - 1
    else 4 * mantissa - 2
  match exponent - 2 with
  | .ofNat n => (low * twoTo n, 4 * mantissa * twoTo n, (4 * mantissa + 2) * twoTo n, 1)
  | .negSucc n => (low, 4 * mantissa, 4 * mantissa + 2, twoTo (n + 1))

/-- The least `p` above the given bound with `num / den < 10 ^ p`. -/
def decimalPoint (num den : Nat) : Nat → Int → Int
  | 0, p => p
  | fuel + 1, p =>
    let below : Bool :=
      match p with
      | .ofNat n => num < den * tenTo n
      | .negSucc n => num * tenTo (n + 1) < den
    if below then p else decimalPoint num den fuel (p + 1)

/-- The best numeral with `n` digits inside the interval, if there is one. -/
def onGrid? (even : Bool) (low val up den : Nat) (point : Int) (n : Nat) : Option Nat :=
  let (num, unit, low, up) :=
    match point - n with
    | .ofNat k => (val, den * tenTo k, low, up)
    | .negSucc k => (val * tenTo (k + 1), den, low * tenTo (k + 1), up * tenTo (k + 1))
  let inside (d : Nat) : Bool :=
    let x := d * unit
    if even then low ≤ x && x ≤ up else low < x && x < up
  let d := num / unit
  match inside d, inside (d + 1) with
  | true, true =>
    let r := num % unit
    if 2 * r < unit then some d
    else if unit < 2 * r then some (d + 1)
    else if d % 2 = 0 then some d else some (d + 1)
  | true, false => some d
  | false, true => some (d + 1)
  | false, false => none

/-- The first hit among grids of `n`, `n + 1`, … digits. -/
def firstGrid (even : Bool) (low val up den : Nat) (point : Int) : Nat → Nat → Nat × Nat
  | 0, n => (0, n)
  | fuel + 1, n =>
    match onGrid? even low val up den point n with
    | some d => (d, n)
    | none => firstGrid even low val up den point fuel (n + 1)

/-- The numeral with the fewest digits that is read back as the given positive
number; of several the nearest to it. -/
def shortest (mantissa : Nat) (exponent : Int) : Numeral :=
  let (low, val, up, den) := interval mantissa exponent
  let start : Int := ((Nat.log2 val : Int) - (Nat.log2 den : Int) - 1) * 3 / 10 - 2
  let point := decimalPoint val den 12 start
  let (d, n) := firstGrid (mantissa % 2 = 0) low val up den point 17 1
  let ds := Text.digits 10 d
  let point := point + ((ds.length : Int) - n)
  ⟨(ds.reverse.dropWhile (· == '0')).reverse, point⟩

/-- The decisions that fix how a number is written. -/
structure Style where
  /-- Positional while the decimal point is within these bounds. -/
  positionalFrom : Int
  positionalTo : Int
  /-- The least number of exponent digits. -/
  exponentDigits : Nat
  infinity : String
  notANumber : String

/-- The sign and the digits of an exponent. -/
def exponentText (f : Style) (e : Int) : List Char :=
  let ds := Text.digits 10 e.natAbs
  (if e < 0 then '-' else '+') :: List.replicate (f.exponentDigits - ds.length) '0' ++ ds

/-- A numeral in positional or scientific notation. -/
def Numeral.render (f : Style) (x : Numeral) : List Char :=
  if f.positionalFrom ≤ x.point && x.point ≤ f.positionalTo then
    if x.point ≤ 0 then '0' :: '.' :: List.replicate x.point.natAbs '0' ++ x.digits
    else
      let n := x.point.toNat
      if n < x.digits.length then x.digits.take n ++ '.' :: x.digits.drop n
      else x.digits ++ List.replicate (n - x.digits.length) '0' ++ ['.', '0']
  else
    match x.digits with
    | [] => []
    | [d] => d :: 'e' :: exponentText f (x.point - 1)
    | d :: ds => d :: '.' :: ds ++ 'e' :: exponentText f (x.point - 1)

/-- The number in a notation. -/
def render (f : Style) : Binary64 → String
  | .nan => f.notANumber
  | .infinite negative => (if negative then "-" else "") ++ f.infinity
  | .finite negative m e =>
    let body := if m = 0 then ['0', '.', '0'] else (shortest m e).render f
    .ofList (if negative then '-' :: body else body)

/-- The number as an integer, if it is one. -/
def toInt? : Binary64 → Option Int
  | .finite negative m e =>
    let sign (n : Nat) : Int := if negative then -(n : Int) else n
    match e with
    | .ofNat k => some (sign (m * twoTo k))
    | .negSucc k => if m % twoTo (k + 1) = 0 then some (sign (m / twoTo (k + 1))) else none
  | _ => none

/-- Neither zero nor its negative. -/
def isNonzero : Binary64 → Bool
  | .finite _ m _ => m != 0
  | _ => true

/-- A finite number as a ratio of an integer and a positive number. -/
def ratio? : Binary64 → Option (Int × Nat)
  | .finite negative m e =>
    let sign (n : Nat) : Int := if negative then -(n : Int) else n
    match e with
    | .ofNat k => some (sign (m * twoTo k), 1)
    | .negSucc k => some (sign m, twoTo (k + 1))
  | _ => none

/-- The number nearest to an exact ratio, with the sign of a zero given apart. -/
def nearest (negativeZero : Bool) (num : Int) (den : Nat) : Binary64 :=
  match num with
  | .ofNat 0 => zero negativeZero
  | .ofNat n => ofRatio false n den
  | .negSucc n => ofRatio true (n + 1) den

/-- The sign is set. -/
def isNegative : Binary64 → Bool
  | .finite negative _ _ => negative
  | .infinite negative => negative
  | .nan => false

/-- The number with the opposite sign. -/
def neg : Binary64 → Binary64
  | .finite negative m e => .finite (!negative) m e
  | .infinite negative => .infinite (!negative)
  | .nan => .nan

/-- The sum of two numbers. -/
def add (x y : Binary64) : Binary64 :=
  match x, y with
  | .nan, _ | _, .nan => .nan
  | .infinite s, .infinite t => if s = t then .infinite s else .nan
  | .infinite s, _ => .infinite s
  | _, .infinite t => .infinite t
  | _, _ =>
    match x.ratio?, y.ratio? with
    | some (a, b), some (c, d) => nearest (x.isNegative && y.isNegative) (a * d + c * b) (b * d)
    | _, _ => .nan

/-- The difference of two numbers. -/
def sub (x y : Binary64) : Binary64 := x.add y.neg

/-- The product of two numbers. -/
def mul (x y : Binary64) : Binary64 :=
  let negative := x.isNegative != y.isNegative
  match x.ratio?, y.ratio? with
  | some (a, b), some (c, d) => nearest negative (a * c) (b * d)
  | _, _ =>
    if x = .nan || y = .nan || !x.isNonzero || !y.isNonzero then .nan else .infinite negative

/-- The quotient of two numbers, none if the second is zero. -/
def div? (x y : Binary64) : Option Binary64 :=
  let negative := x.isNegative != y.isNegative
  if !y.isNonzero then none
  else
    match x.ratio?, y.ratio? with
    | some (a, b), some (c, d) =>
      some (nearest negative (if c < 0 then -(a * d) else a * d) (b * c.natAbs))
    | some _, none => some (if y = .nan then .nan else zero negative)
    | none, some _ => some (if x = .nan then .nan else .infinite negative)
    | none, none => some .nan

/-- A number with a fixed number of decimal places, at least one. -/
def fixed (x : Binary64) (places : Nat) : String :=
  match x.ratio? with
  | none =>
    match x with
    | .infinite negative => if negative then "-inf" else "inf"
    | _ => "nan"
  | some (num, den) =>
    let n := roundDiv (num.natAbs * tenTo places) den
    let ds := Text.digits 10 n
    let ds := List.replicate (places + 1 - ds.length) '0' ++ ds
    let body := ds.take (ds.length - places) ++ '.' :: ds.drop (ds.length - places)
    .ofList (if x.isNegative then '-' :: body else body)

end Binary64

end LspGateway
