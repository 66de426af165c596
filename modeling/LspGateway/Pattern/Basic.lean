import LspGateway.Text.Blank
import LspGateway.Text.Case
import LspGateway.Text.Digits
import LspGateway.Text.WordTable

/-! # Patterns

A pattern describes texts: characters and sets of them, one part after another,
alternatives, repetitions, and conditions on what goes before or follows. What the
marks of a pattern's text say about letters and lines is settled in its parts. The
characters of a pattern are code points, which need not be those of a character.
-/

namespace LspGateway

namespace Pattern
open LspGateway.Text

/-- A kind of characters. -/
inductive Kind
  | digit
  | space
  | word
  deriving DecidableEq, Repr

/-- What a set of characters is made of. -/
inductive Member
  | one (code : Nat)
  | range (low high : Nat)
  | kind (k : Kind) (negated : Bool)
  deriving DecidableEq, Repr

/-- How letters are taken. -/
structure Letters where
  /-- Small and capital letters are the same. -/
  folded : Bool
  /-- Digits, blanks and letters are those of ASCII. -/
  ascii : Bool
  deriving DecidableEq, Repr

/-- A place between two characters. -/
inductive Place
  | textStart
  | textEnd
  | lineStart
  | lineEnd
  /-- The end of the text, or the place before a line break that ends it. -/
  | lastLineEnd
  | wordBoundary (negated ascii : Bool)
  deriving DecidableEq, Repr

/-- How a repetition goes on where it may end. -/
inductive Appetite
  | greedy
  | lazy
  /-- Greedy, and what was taken is not given back. -/
  | possessive
  deriving DecidableEq, Repr

end Pattern

open Pattern in
/-- A pattern. -/
inductive Pattern
  | empty
  /-- A character, or any other. -/
  | one (negated : Bool) (letters : Letters) (code : Nat)
  /-- Any character; the line break may be left out. -/
  | any (breaks : Bool)
  /-- One of the members, or none of them. -/
  | set (negated : Bool) (letters : Letters) (members : List Member)
  | place (p : Place)
  | seq (first second : Pattern)
  | either (first second : Pattern)
  | repeated (least : Nat) (most : Option Nat) (appetite : Appetite) (body : Pattern)
  /-- What a group takes is remembered. -/
  | group (number : Nat) (body : Pattern)
  /-- What a group took, once more. -/
  | recall (number : Nat) (letters : Letters)
  /-- A condition on what follows. -/
  | ahead (negated : Bool) (body : Pattern)
  /-- A condition on what goes before, whose width lies between two numbers. -/
  | behind (negated : Bool) (least most : Nat) (body : Pattern)
  /-- The first way to take something is the only one. -/
  | once (body : Pattern)
  /-- One of two patterns, by whether a group took something. -/
  | given (number : Nat) (yes no : Pattern)
  deriving Repr, Inhabited

namespace Pattern
open LspGateway.Text

/-- A letter, a digit or an underscore. -/
def isWordChar (ascii : Bool) (c : Char) : Bool :=
  c.isAlphanum || c = '_' ||
    (!ascii && 128 ≤ c.toNat && WordTable.ranges.any fun (a, b) => a ≤ c.toNat && c.toNat ≤ b)

/-- A blank; in ASCII only the common ones are. -/
def isSpaceChar (ascii : Bool) (c : Char) : Bool :=
  if ascii then (9 ≤ c.toNat && c.toNat ≤ 13) || c = ' ' else isBlank c

/-- A decimal digit. -/
def isDigitChar (ascii : Bool) (c : Char) : Bool :=
  if ascii then (digit? c).isSome else (anyDigit? c).isSome

/-- Whether a character is of a kind. -/
def Kind.contains (k : Kind) (ascii : Bool) (c : Char) : Bool :=
  match k with
  | .digit => isDigitChar ascii c
  | .space => isSpaceChar ascii c
  | .word => isWordChar ascii c

/-- The least and the greatest number of characters. -/
structure Width where
  least : Nat
  most : Nat
  deriving DecidableEq, Repr

namespace Width

/-- No number of characters counts as more than this. -/
def limit : Nat := Nat.pow 2 64

/-- Always the same number of characters. -/
def exactly (n : Nat) : Width := ⟨n, n⟩

/-- One width after another. -/
def plus (a b : Width) : Width := ⟨min (a.least + b.least) limit, min (a.most + b.most) limit⟩

/-- One of two widths. -/
def either (a b : Width) : Width := ⟨min a.least b.least, max a.most b.most⟩

/-- The width of a repetition. -/
def times (w : Width) (least : Nat) (most : Option Nat) : Width where
  least := min (w.least * least) limit
  most :=
    match most with
    | some n => min (w.most * n) limit
    | none => if w.most = 0 then 0 else limit

end Width

/-- The width of what a pattern takes, given the widths of groups. -/
def width (groups : Nat → Width) : Pattern → Width
  | .empty => .exactly 0
  | .one _ _ _ => .exactly 1
  | .any _ => .exactly 1
  | .set _ _ _ => .exactly 1
  | .place _ => .exactly 0
  | .seq a b => (a.width groups).plus (b.width groups)
  | .either a b => (a.width groups).either (b.width groups)
  | .repeated least most _ body => (body.width groups).times least most
  | .group _ body => body.width groups
  | .recall number _ => groups number
  | .ahead _ _ => .exactly 0
  | .behind _ _ _ _ => .exactly 0
  | .once body => body.width groups
  | .given _ yes no => (yes.width groups).either (no.width groups)

/-- The number of parts of a pattern, repetitions counted as often as they must occur. -/
def size : Pattern → Nat
  | .seq a b => a.size + b.size + 1
  | .either a b => a.size + b.size + 1
  | .repeated least _ _ body => body.size + least + 1
  | .group _ body => body.size + 1
  | .ahead _ body => body.size + 1
  | .behind _ _ _ body => body.size + 1
  | .once body => body.size + 1
  | .given _ yes no => yes.size + no.size + 1
  | _ => 1

/-- Whether two patterns are the same part without parts of its own. -/
def sameLeaf : Pattern → Pattern → Bool
  | .one n l c, .one m k d => n = m && l = k && c = d
  | .any b, .any c => b = c
  | .set n l ms, .set m k ns => n = m && l = k && ms = ns
  | .place p, .place q => p = q
  | .recall n l, .recall m k => n = m && l = k
  | _, _ => false

end Pattern

end LspGateway
