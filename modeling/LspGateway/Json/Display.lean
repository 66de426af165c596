import LspGateway.Json.Printer
import LspGateway.Text.Blank
import LspGateway.Text.Lines

/-! # Values on display

A value inside a message that is shown on lines of its own. What fits on a line stays
on it; an array or object that does not has its parts on lines one below another, and a
long text is shown as several, broken after its lines and before its words.
-/

namespace LspGateway.Json
open LspGateway.Text

/-- Where a value is shown. -/
structure Spot where
  width : Nat
  /-- The column where the value begins. -/
  column : Nat
  /-- The characters that follow the value on its last line. -/
  room : Nat
  deriving Repr

/-- Whether a text has its place on the line. -/
def Spot.fits (p : Spot) (s : String) : Bool := s.length + p.column + p.room ≤ p.width

/-- The start of a line, up to a column. -/
def lineTo (column : Nat) : String := .ofList ('\n' :: List.replicate column ' ')

/-- The words of a line, each with the blanks after it; blanks at the start are a word. -/
def wordsOf (cs : List Char) : List (List Char) :=
  match cs with
  | [] => []
  | c :: cs =>
    match wordsOf cs with
    | [] => [[c]]
    | w :: ws =>
      let joins := !isBlank c || w.head?.any isBlank
      if joins then (c :: w) :: ws else [c] :: w :: ws

/-- The words of a line as texts that fit; the last word has less room if it ends the
whole text. -/
def fillWords (width lastWidth : Nat) : List Char → List (List Char) → List String
  | [], [] => []
  | current, [] => [quoted (.ofList current)]
  | current, w :: ws =>
    let width' := if ws.isEmpty then lastWidth else width
    if (quoted (.ofList (current ++ w))).length ≤ width' then
      fillWords width lastWidth (current ++ w) ws
    else if current.isEmpty then fillWords width lastWidth w ws
    else quoted (.ofList current) :: fillWords width lastWidth w ws

/-- A text as several that fit. -/
def textPieces (width lastWidth : Nat) : List (List Char) → List String
  | [] => []
  | [line] =>
    let s := quoted (.ofList line)
    if s.length ≤ lastWidth then [s] else fillWords width lastWidth [] (wordsOf line)
  | line :: lines =>
    let s := quoted (.ofList line)
    (if s.length ≤ width then [s] else fillWords width width [] (wordsOf line)) ++
      textPieces width lastWidth lines

/-- A text shown from a column on; alone on display it stands between brackets. -/
def displayText (p : Spot) (alone : Bool) (s : String) : String :=
  let extra := if alone then 1 else 0
  let column := p.column + extra
  match textPieces (p.width - column) (p.width - column - (p.room + extra)) (linesOf s.toList) with
  | [] => quoted s
  | [piece] => piece
  | pieces =>
    let body := String.intercalate (lineTo column) pieces
    if alone then "(" ++ body ++ ")" else body

mutual

/-- A value that is a part of another on display. -/
def displayPart (p : Spot) : Json → String
  | .arr xs =>
    if p.fits (Json.arr xs).literal then (Json.arr xs).literal
    else "[" ++ displayItems { p with column := p.column + 1, room := p.room + 1 } xs ++ "]"
  | .obj ms =>
    if p.fits (Json.obj ms).literal then (Json.obj ms).literal
    else "\x7b" ++ displayMembers { p with column := p.column + 1, room := p.room + 1 } ms ++ "\x7d"
  | .str s => if p.fits (quoted s) then quoted s else displayText p false s
  | .null => literal .null
  | .bool b => literal (.bool b)
  | .int i => literal (.int i)
  | .float x => literal (.float x)

/-- Items one below another. -/
def displayItems (p : Spot) : List Json → String
  | [] => ""
  | x :: xs =>
    displayPart { p with room := if xs.isEmpty then p.room else 1 } x ++
      (if xs.isEmpty then "" else "," ++ lineTo p.column) ++ displayItems p xs

/-- Members one below another. -/
def displayMembers (p : Spot) : List (String × Json) → String
  | [] => ""
  | (k, x) :: ms =>
    let key := quoted k
    let room := if ms.isEmpty then p.room else 1
    key ++ ": " ++
      displayPart { p with column := p.column + key.length + 2, room := room } x ++
      (if ms.isEmpty then "" else "," ++ lineTo p.column) ++ displayMembers p ms

end

/-- A value on display, within a width. -/
def display (width : Nat) (j : Json) : String :=
  let p : Spot := ⟨width, 0, 0⟩
  match j with
  | .str s => if p.fits (quoted s) then quoted s else displayText p true s
  | j => displayPart p j

/-- A text whose lines all begin with the given number of blanks. -/
def indented (n : Nat) (s : String) : String :=
  String.intercalate (lineTo n) ((pieces '\n' s.toList).map .ofList)

end LspGateway.Json
