import LspGateway.Schema.Graph
import LspGateway.Uri.Address

/-! # References in a schema

An object with a text under `$ref` stands for another part of its document or for one
of another document, and its other members are dropped. Every reference to a part yields
that part itself, so a definition that refers to itself becomes a container that
contains itself.
-/

namespace LspGateway.Schema
open LspGateway.Text

/-- A container of a document, or a reference with the members around it. -/
inductive Part
  | cell (c : Cell)
  | link (target : String) (members : List (String × Value))
  deriving DecidableEq, Repr, Inhabited

/-- A document whose references are not resolved. -/
structure Document where
  parts : Array Part
  root : Value
  /-- The documents at the addresses that references name. -/
  others : List (List Char × Except Uri.AddressFault Value)
  deriving Repr, Inhabited

/-- Why a reference leads nowhere. -/
inductive ReferenceFault
  | unresolvable (pointer : String)
  | toItself
  /-- The reference is to another document, which cannot be had. -/
  | otherDocument (fault : Uri.AddressFault)
  deriving DecidableEq, Repr

/-- A reference that cannot be resolved. -/
inductive ReferenceError
  | broken (target : String) (fault : ReferenceFault)
  /-- The reference is no URI. -/
  | malformed (fault : Uri.HostFault)
  /-- References lead to each other without end. -/
  | endless
  deriving DecidableEq, Repr

def ReferenceFault.message : ReferenceFault → String
  | .unresolvable pointer => "Unresolvable JSON pointer: " ++ quoted pointer
  | .toItself => "Reference refers directly to itself."
  | .otherDocument fault => fault.message

def ReferenceError.message : ReferenceError → String
  | .broken target fault => "Error while resolving " ++ "`" ++ target ++ "`: " ++ fault.message
  | .malformed fault => fault.message
  | .endless => "maximum recursion depth exceeded"

/-- The text under `$ref`, if the object is a reference. -/
def target? (ms : List (String × Value)) : Option String :=
  match find? ms "$ref" with
  | some (.atom (.str s)) => some s
  | _ => none

/-- A container as a part of a document. -/
def Part.ofCell : Cell → Part
  | .obj ms =>
    match target? ms with
    | some target => .link target ms
    | none => .cell (.obj ms)
  | .arr xs => .cell (.arr xs)

/-- The target of a reference: a pointer into its own document, or into another one at
an address. The one way to write the address is its name. -/
inductive Target
  | within (pointer : String)
  | beyond (name address : List Char) (pointer : String)
  deriving DecidableEq, Repr

/-- The target that a reference's text stands for. The document that a URI of nothing
but empty parts names is the one the reference stands in. -/
def Target.ofText (s : String) : Except Uri.HostFault Target := do
  let (document, fragment) ← Uri.splitFragment s.toList
  let name ← Uri.normal document
  let pointer := String.ofList fragment
  pure (if name.isEmpty then .within pointer else .beyond name document pointer)

/-- The steps of a pointer. The slashes before the first step are those written
plainly; those between steps may be written in any way. -/
def steps (pointer : String) : List String :=
  if pointer = "" then []
  else
    let cs := Uri.decode (pointer.toList.dropWhile (· == '/'))
    (pieces '/' cs).map fun step => .ofList (unescape step)
where
  /-- Slashes and tildes inside a step are escaped. -/
  slashes : List Char → List Char
    | '~' :: '1' :: cs => '/' :: slashes cs
    | c :: cs => c :: slashes cs
    | [] => []
  tildes : List Char → List Char
    | '~' :: '0' :: cs => '~' :: tildes cs
    | c :: cs => c :: tildes cs
    | [] => []
  unescape (cs : List Char) : List Char := tildes (slashes cs)

/-- The item at a place, counted from the end if it is negative. -/
def itemAt? {α : Type} (xs : List α) (i : Int) : Option α :=
  match i with
  | .ofNat n => xs[n]?
  | .negSucc n => if n < xs.length then xs[xs.length - (n + 1)]? else none

/-- The item that a step names. -/
def itemOf? {α : Type} (xs : List α) (step : String) : Option α :=
  match readInt step with
  | .ok i => itemAt? xs i
  | .error _ => none

namespace Document

/-- The documents that a graph holds, by the names of their addresses. -/
structure Shelf where
  graph : Graph
  others : List (List Char × Except Uri.AddressFault Value)
  deriving Repr

/-- The name and the address of a document that a container refers to and that is not
there yet. -/
def Shelf.lacking? (s : Shelf) (c : Cell) : Option (List Char × List Char) :=
  match Part.ofCell c with
  | .link target _ =>
    match Target.ofText target with
    | .ok (.beyond name address _) =>
      if s.others.any fun (n, _) => n == name then none else some (name, address)
    | _ => none
  | .cell _ => none

/-- Adds the document at an address. -/
def Shelf.fetch (s : Shelf) (name address : List Char) : Shelf :=
  match Uri.documentAt address with
  | .error fault => { s with others := (name, .error fault) :: s.others }
  | .ok j =>
    let (g, root) := s.graph.add j
    ⟨g, (name, .ok root) :: s.others⟩

/-- Adds the documents that references name. A document that an address holds is shorter
than the address, so the texts of all references bound the number of documents. -/
def Shelf.fill : Nat → Shelf → Shelf
  | 0, s => s
  | fuel + 1, s =>
    match s.graph.cells.toList.findSome? s.lacking? with
    | some (name, address) => fill fuel (s.fetch name address)
    | none => s

/-- The length of the text of a container that is a reference. -/
def targetLength (c : Cell) : Nat :=
  match Part.ofCell c with
  | .link target _ => target.length
  | .cell _ => 0

/-- The document of a value. -/
def ofJson (j : Json) : Document :=
  let (g, root) := Graph.ofJson j
  let fuel := g.cells.foldl (fun n c => n + targetLength c) 1
  let s := Shelf.fill fuel ⟨g, []⟩
  ⟨s.graph.cells.map Part.ofCell, root, s.others⟩

/-- The document that a reference leads into, and the pointer to the part it names. -/
def place (d : Document) (target : String) : Except ReferenceError (Value × String) :=
  match Target.ofText target with
  | .error fault => .error (.malformed fault)
  | .ok (.within pointer) => .ok (d.root, pointer)
  | .ok (.beyond name address pointer) =>
    match d.others.find? fun (n, _) => n == name with
    | some (_, .ok root) => .ok (root, pointer)
    | some (_, .error fault) => .error (.broken target (.otherDocument fault))
    | none => .error (.broken target (.otherDocument (.noScheme (.ofList address))))

def part? (d : Document) (id : Nat) : Option Part := d.parts[id]?

/-- One step from a value that is no reference. -/
def child? (d : Document) (v : Value) (step : String) : Option Value :=
  match v with
  | .atom (.str s) => (itemOf? s.toList step).map fun c => .atom (.str (.ofList [c]))
  | .atom _ => none
  | .node id =>
    match d.part? id with
    | some (.cell (.obj ms)) => find? ms step
    | some (.cell (.arr xs)) => itemOf? xs step
    | some (.link _ ms) => find? ms step
    | none => none

/-- What a value stands for, given how references are resolved. -/
def settle (d : Document) (resolve : Nat → Except ReferenceError Value) (v : Value) :
    Except ReferenceError Value :=
  match v with
  | .atom _ => .ok v
  | .node id =>
    match d.part? id with
    | some (.link _ _) => resolve id
    | _ => .ok v

/-- Follows the steps of the reference `self`. On its own way it is the object it
was written as; other references on the way stand for their targets. -/
def descend (d : Document) (resolve : Nat → Except ReferenceError Value)
    (broken : ReferenceError) (self : Nat) : List String → Value → Except ReferenceError Value
  | [], v => .ok v
  | step :: rest, v => do
    let holder ← if v = .node self then pure v else d.settle resolve v
    match d.child? holder step with
    | some next => descend d resolve broken self rest next
    | none => throw broken

/-- What a reference stands for. References that are met on the way are resolved
first; one that is met while it is being resolved uses up the fuel. -/
def resolve (d : Document) : Nat → Nat → Except ReferenceError Value
  | 0, _ => .error .endless
  | fuel + 1, self =>
    match d.part? self with
    | some (.link target _) => do
      let (root, pointer) ← d.place target
      let broken := ReferenceError.broken target (.unresolvable pointer)
      let v ← d.descend (resolve d fuel) broken self (steps pointer) root
      if v = .node self then throw (.broken target .toItself)
      else d.settle (resolve d fuel) v
    | _ => .ok (.node self)

/-- The values inside a container. -/
def inside (d : Document) : Value → List Value
  | .atom _ => []
  | .node id =>
    match d.part? id with
    | some (.cell c) => c.values
    | some (.link _ ms) => ms.map (·.2)
    | none => []

/-- What is known while a document is walked: the containers met, and what the
references among them stand for. -/
structure Walk where
  met : List Nat
  found : List (Nat × Value)
  deriving Repr

/-- Resolves every reference that can be reached from a value, in reading order. -/
def walk (d : Document) : Nat → Walk → Value → Except ReferenceError Walk
  | 0, w, _ => .ok w
  | _ + 1, w, .atom _ => .ok w
  | fuel + 1, w, .node id =>
    if w.met.contains id then .ok w
    else do
      let v ← d.settle (d.resolve (d.parts.size + 1)) (.node id)
      let found := if v = .node id then w.found else (id, v) :: w.found
      (d.inside v).foldlM (walk d fuel) ⟨id :: w.met, found⟩

/-- A value with a reference replaced by what it stands for. -/
def replace (found : List (Nat × Value)) : Value → Value
  | .atom a => .atom a
  | .node id => ((found.find? (·.1 == id)).map (·.2)).getD (.node id)

/-- A part with its references replaced. -/
def replaceIn (found : List (Nat × Value)) : Part → Cell
  | .cell (.arr xs) => .arr (xs.map (replace found))
  | .cell (.obj ms) => .obj (ms.map fun (k, v) => (k, replace found v))
  | .link _ ms => .obj (ms.map fun (k, v) => (k, replace found v))

/-- The document with every reference replaced by what it stands for. -/
def resolved (d : Document) : Except ReferenceError (Graph × Value) := do
  let w ← d.walk (d.parts.size + 1) ⟨[], []⟩ d.root
  pure (⟨d.parts.map (replaceIn w.found)⟩, replace w.found d.root)

end Document

end LspGateway.Schema
