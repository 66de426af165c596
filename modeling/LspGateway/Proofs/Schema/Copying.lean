import Mathlib.Data.List.Forall2
import LspGateway.Proofs.Schema.Sanitizing

/-! # Schemas are copied before they are changed

Containers stand in a store, where many may share one. The type unions of a schema are removed from
a copy of it, which is made next and gets copies of the schemas below. The recursion goes no deeper
than there are containers, since a schema that contains itself is cut there, and nothing that was in
the store before is changed. What has been made says what the schema without type unions says.
-/

namespace LspGateway.Schema
open Relation

variable {g h h' g' : Graph} {v w : Value} {id fuel old new n : Nat} {path : List Nat} {c : Cell}
  {t : Tree} {key : String} {ms ms' ps : List (String × Value)} {ts : List (String × Tree)}
  {deeper : Nat → Tree}

/-! ## Containers of a store -/

namespace Graph

/-- Makes a container. -/
def create (g : Graph) (cell : Cell) : Graph × Nat := (⟨g.cells.push cell⟩, g.cells.size)

/-- Changes what a container holds. -/
def write (g : Graph) (id : Nat) (cell : Cell) : Graph := ⟨g.cells.setIfInBounds id cell⟩

/-- Every container of the one store is in the other as it is. -/
def Keeps (g g' : Graph) : Prop := ∀ id < g.cells.size, g'.cell? id = g.cell? id

theorem Keeps.cell? (kept : Keeps g g') {id : Nat} {cell : Cell} (here : g.cell? id = some cell) :
    g'.cell? id = some cell := by
  have lt : id < g.cells.size := (Array.getElem?_eq_some_iff.mp here).1
  exact (kept id lt).trans here

theorem Keeps.trans {g'' : Graph} (kept : Keeps g g') (kept' : Keeps g' g'') : Keeps g g'' := by
  intro id lt
  have here := Array.getElem?_eq_getElem lt
  exact (kept'.cell? (kept.cell? here)).trans here.symm

theorem keeps_create (g : Graph) (cell : Cell) : Keeps g (g.create cell).1 := by
  intro id lt
  exact Array.getElem?_push_lt lt |>.trans (Array.getElem?_eq_getElem lt).symm

theorem cell?_create (g : Graph) (cell : Cell) :
    (g.create cell).1.cell? (g.create cell).2 = some cell := Array.getElem?_push_size

theorem cell?_write_ne {id id' : Nat} (other : id ≠ id') (cell : Cell) :
    (g.write id cell).cell? id' = g.cell? id' := Array.getElem?_setIfInBounds_ne other

/-- A container that was made later is changed without the earlier ones. -/
theorem keeps_write (kept : Keeps g g') {id : Nat} (later : g.cells.size ≤ id) (cell : Cell) :
    Keeps g (g'.write id cell) := by
  intro id' lt
  have other : id ≠ id' := by omega
  exact (cell?_write_ne other cell).trans (kept id' lt)

theorem cell?_write {id : Nat} (lt : id < g.cells.size) (cell : Cell) :
    (g.write id cell).cell? id = some cell := by
  rw [write, Graph.cell?, Array.getElem?_setIfInBounds_self_of_lt lt]

/-- Writes a member: in its place if the key is there, else at the end. -/
def putMember : List (String × Value) → String → Value → List (String × Value)
  | [], key, v => [(key, v)]
  | (k, w) :: ms, key, v =>
    if k == key then (k, v) :: ms else (k, w) :: putMember ms key v

/-- The member of a container that is an object. -/
def member? (g : Graph) (id : Nat) (key : String) : Option Value :=
  (g.members? (.node id)).bind (find? · key)

/-- Writes a member of an object. -/
def assign (g : Graph) (id : Nat) (key : String) (v : Value) : Graph :=
  match g.members? (.node id) with
  | some ms => g.write id (.obj (putMember ms key v))
  | none => g

/-- Takes a member out of an object. -/
def discard (g : Graph) (id : Nat) (key : String) : Graph :=
  match g.members? (.node id) with
  | some ms => g.write id (.obj (ms.filter (·.1 ≠ key)))
  | none => g

/-- Makes the type of a schema single. -/
def singleType (g : Graph) (id : Nat) : Graph :=
  match (g.member? id "type").bind g.items? with
  | none => g
  | some types =>
    match unionType? types with
    | some t => g.assign id "type" t
    | none => g.discard id "type"

/-! ## Copying

What is done with the schemas below is left open, and filled in as deep as the recursion may go. -/

/-- Copies a value if it is a schema. -/
def copyValue (copy : Graph → Nat → Option (Graph × Nat)) (g : Graph) (v : Value) :
    Option (Graph × Value) :=
  match v, g.members? v with
  | .node id, some _ => do
    let (g, made) ← copy g id
    some (g, .node made)
  | _, _ => some (g, v)

/-- Copies the schemas among the values of members, one after another. -/
def copyEach (copy : Graph → Nat → Option (Graph × Nat)) :
    Graph → List (String × Value) → Option (Graph × List (String × Value))
  | g, [] => some (g, [])
  | g, (k, v) :: ps => do
    let (g, w) ← copyValue copy g v
    let (g, ps) ← copyEach copy g ps
    some (g, (k, w) :: ps)

/-- Puts copies of the properties into a copy. -/
def copyProperties (copy : Graph → Nat → Option (Graph × Nat)) (g : Graph) (made : Nat) :
    Option Graph :=
  match (g.member? made "properties").bind g.members? with
  | none => some g
  | some ps => do
    let (g, ps) ← copyEach copy g ps
    let (g, object) := g.create (.obj ps)
    some (g.assign made "properties" (.node object))

/-- Puts a copy of the items, if they are a single schema, into a copy. -/
def copyItems (copy : Graph → Nat → Option (Graph × Nat)) (g : Graph) (made : Nat) :
    Option Graph :=
  match g.member? made "items" with
  | none => some g
  | some v =>
    if (g.members? v).isSome then do
      let (g, w) ← copyValue copy g v
      some (g.assign made "items" w)
    else some g

/-- Copies a schema without type unions, below the containers of the path. There is no result if the
recursion would go deeper than the depth. -/
def copySchema : Nat → Graph → List Nat → Nat → Option (Graph × Nat)
  | 0, _, _, _ => none
  | depth + 1, g, path, id =>
    if path.contains id then some (g.create (.obj [("type", .atom (.str "object"))]))
    else
      match g.members? (.node id) with
      | none => none
      | some ms => do
        let (g, made) := g.create (.obj ms)
        let g ← copyProperties (copySchema depth · (id :: path)) (g.singleType made) made
        let g ← copyItems (copySchema depth · (id :: path)) g made
        some (g, made)

end Graph

/-- The containers of a value are among the first `n`. -/
def Value.Within (n : Nat) : Value → Prop
  | .atom _ => True
  | .node id => id < n

/-- The keys of a container. -/
def Cell.keys : Cell → List String
  | .arr _ => []
  | .obj ms => ms.map (·.1)

/-- An object has no key twice, and all that a container holds is among the first `n`. -/
structure Cell.IsSound (n : Nat) (cell : Cell) : Prop where
  keys : cell.keys.Nodup
  known : ∀ v ∈ cell.values, v.Within n

/-- The containers hold only each other. -/
def Graph.IsSound (g : Graph) : Prop :=
  ∀ id cell, g.cell? id = some cell → cell.IsSound g.cells.size

instance : Decidable (v.Within n) :=
  match v with
  | .atom _ => isTrue trivial
  | .node id => inferInstanceAs (Decidable (id < n))

instance : Decidable (c.IsSound n) :=
  decidable_of_iff (c.keys.Nodup ∧ ∀ v ∈ c.values, v.Within n)
    ⟨fun h => ⟨h.1, h.2⟩, fun h => ⟨h.keys, h.known⟩⟩

instance : Decidable g.IsSound :=
  decidable_of_iff (∀ c ∈ g.cells, c.IsSound g.cells.size) <| by
    simp only [Array.mem_iff_getElem?, forall_exists_index]
    exact forall_comm

open LspGateway.Schema.Graph (create write putMember assign discard member? singleType cell?_create
  cell?_write cell?_write_ne keeps_create keeps_write copyValue copyEach copyProperties copyItems
  copySchema)

theorem size_create : (g.create c).1.cells.size = g.cells.size + 1 := Array.size_push ..

theorem size_write : (g.write id c).cells.size = g.cells.size := Array.size_setIfInBounds ..

theorem Value.Within.mono (h : v.Within n) {m : Nat} (le : n ≤ m) : v.Within m := by
  cases v with
  | atom a => trivial
  | node id => exact Nat.lt_of_lt_of_le h le

theorem Cell.IsSound.mono (h : c.IsSound n) {m : Nat} (le : n ≤ m) : c.IsSound m :=
  ⟨h.keys, fun v mem => (h.known v mem).mono le⟩

theorem Graph.Keeps.size_le (kept : g.Keeps g') : g.cells.size ≤ g'.cells.size := by
  by_contra less
  have here := kept g'.cells.size (by omega)
  have none : g'.cell? g'.cells.size = none := Array.getElem?_eq_none (Nat.le_refl _)
  rw [none] at here
  have some := Array.getElem?_eq_none_iff.mp here.symm
  omega

theorem Graph.Keeps.members? (kept : g.Keeps g') (within : v.Within g.cells.size) :
    g'.members? v = g.members? v := by
  cases v with
  | atom a => rfl
  | node id => rw [Graph.members?, Graph.members?, kept id within]

theorem Graph.Keeps.items? (kept : g.Keeps g') (within : v.Within g.cells.size) :
    g'.items? v = g.items? v := by
  cases v with
  | atom a => rfl
  | node id => rw [Graph.items?, Graph.items?, kept id within]

theorem Graph.IsSound.create (sound : g.IsSound) (new : c.IsSound (g.cells.size + 1)) :
    (g.create c).1.IsSound := by
  intro id c' here
  rw [size_create]
  rcases Nat.lt_trichotomy id g.cells.size with lt | rfl | gt
  · rw [keeps_create g c id lt] at here
    exact (sound id c' here).mono (Nat.le_succ _)
  · obtain rfl := Option.some.inj ((cell?_create g c).symm.trans here)
    exact new
  · have known := lt_of_cell? here
    rw [size_create] at known
    omega

theorem Graph.IsSound.write (sound : g.IsSound) (new : c.IsSound g.cells.size) :
    (g.write id c).IsSound := by
  intro id' c' here
  rw [size_write]
  by_cases e : id = id'
  · subst e
    have lt := lt_of_cell? here
    rw [size_write] at lt
    obtain rfl := Option.some.inj ((cell?_write lt c).symm.trans here)
    exact new
  · rw [cell?_write_ne e] at here
    exact sound id' c' here

/-! ### Members -/

theorem find?_eq_some_iff (nodup : (ms.map (·.1)).Nodup) :
    find? ms key = some v ↔ (key, v) ∈ ms := by
  refine ⟨mem_of_find?, fun mem => ?_⟩
  induction ms with
  | nil => cases mem
  | cons a ms ih =>
    obtain ⟨new, nodup⟩ := List.nodup_cons.mp nodup
    rcases List.mem_cons.mp mem with rfl | mem
    · simp [find?]
    · have other : (a.1 == key) = false := by
        rw [beq_eq_false_iff_ne]
        rintro rfl
        exact new (List.mem_map.mpr ⟨_, mem, rfl⟩)
      rw [find?, List.find?_cons_of_neg (by simp [other])]
      exact ih nodup mem

theorem putMember_eq_map (nodup : (ms.map (·.1)).Nodup) (mem : (key, v) ∈ ms) :
    putMember ms key w = ms.map fun a => if a.1 = key then (a.1, w) else a := by
  induction ms with
  | nil => cases mem
  | cons a ms ih =>
    obtain ⟨new, nodup⟩ := List.nodup_cons.mp nodup
    rw [putMember, List.map_cons]
    by_cases e : a.1 = key
    · have rest : ms.map (fun a => if a.1 = key then (a.1, w) else a) = ms := by
        refine (List.map_congr_left fun b listed => if_neg ?_).trans (List.map_id' ms)
        intro same
        exact new (List.mem_map.mpr ⟨b, listed, same.trans e.symm⟩)
      rw [if_pos (beq_iff_eq.mpr e), if_pos e, rest]
    · rw [if_neg (by simpa using e), if_neg e]
      rcases List.mem_cons.mp mem with rfl | mem
      · exact absurd rfl e
      · rw [ih nodup mem]

theorem assign_eq (here : g.cell? id = some (.obj ms)) :
    g.assign id key v = g.write id (.obj (putMember ms key v)) := by
  rw [assign, members?_node.mpr here]

theorem discard_eq (here : g.cell? id = some (.obj ms)) :
    g.discard id key = g.write id (.obj (ms.filter (·.1 ≠ key))) := by
  rw [Graph.discard, members?_node.mpr here]

theorem member?_eq (here : g.cell? id = some (.obj ms)) : g.member? id key = find? ms key := by
  rw [member?, members?_node.mpr here, Option.bind_some]

theorem Cell.IsSound.map (sound : (Cell.obj ms).IsSound n) (within : w.Within n) (key : String) :
    (Cell.obj (ms.map fun a => if a.1 = key then (a.1, w) else a)).IsSound n := by
  constructor
  · have keys : (ms.map fun a => if a.1 = key then (a.1, w) else a).map (·.1) = ms.map (·.1) := by
      rw [List.map_map]
      refine List.map_congr_left fun a _ => ?_
      dsimp only [Function.comp_apply]
      split <;> rfl
    rw [Cell.keys, keys]
    exact sound.keys
  · intro v mem
    obtain ⟨_, listed, rfl⟩ := List.mem_map.mp mem
    obtain ⟨a, there, rfl⟩ := List.mem_map.mp listed
    split
    · exact within
    · exact sound.known _ (List.mem_map.mpr ⟨a, there, rfl⟩)

theorem Cell.IsSound.filter (sound : (Cell.obj ms).IsSound n) (p : String × Value → Bool) :
    (Cell.obj (ms.filter p)).IsSound n := by
  constructor
  · exact sound.keys.sublist (List.filter_sublist.map _)
  · intro v mem
    obtain ⟨a, listed, rfl⟩ := List.mem_map.mp mem
    exact sound.known _ (List.mem_map.mpr ⟨a, (List.mem_filter.mp listed).1, rfl⟩)

/-! ## What a value shows -/

mutual

/-- A value of a store shows a tree: its containers are new, from `new` on, but for the shared ones,
which are old, before `old`. -/
def Shows (g : Graph) (old new : Nat) (v : Value) : Tree → Prop
  | .atom a => v = .atom a
  | .shared id => id < old ∧ v = .node id
  | .arr _ => False
  | .obj ts => ∃ id ms, v = .node id ∧ new ≤ id ∧ g.cell? id = some (.obj ms) ∧
      ShowsMembers g old new ms ts

/-- Members show those of a tree. -/
def ShowsMembers (g : Graph) (old new : Nat) :
    List (String × Value) → List (String × Tree) → Prop
  | ms, [] => ms = []
  | ms, (k, t) :: ts => ∃ v rest, ms = (k, v) :: rest ∧ Shows g old new v t ∧
      ShowsMembers g old new rest ts

end

/-- The containers from a number on are in the other store as they are. -/
def Stays (n : Nat) (g g' : Graph) : Prop :=
  ∀ id cell, n ≤ id → g.cell? id = some cell → g'.cell? id = some cell

theorem Stays.trans {g'' : Graph} (h : Stays n g g') (h' : Stays n g' g'') : Stays n g g'' :=
  fun id cell le here => h' id cell le (h id cell le here)

theorem Graph.Keeps.stays (kept : g.Keeps g') : Stays n g g' := fun _ _ _ here => kept.cell? here

theorem stays_assign (lt : id < n) : Stays n g (g.assign id key v) := by
  intro id' cell le here
  unfold assign
  split
  · rw [cell?_write_ne (by omega)]
    exact here
  · exact here

mutual

theorem Shows.carry {new' : Nat} (le : new' ≤ new) (stays : Stays new g g') {v : Value} :
    {t : Tree} → Shows g old new v t → Shows g' old new' v t
  | .atom _, shows => shows
  | .shared _, shows => shows
  | .arr _, shows => shows
  | .obj _, ⟨id, ms, eq, later, here, members⟩ =>
    ⟨id, ms, eq, Nat.le_trans le later, stays id _ later here, members.carry le stays⟩

theorem ShowsMembers.carry {new' : Nat} (le : new' ≤ new) (stays : Stays new g g')
    {ms : List (String × Value)} :
    {ts : List (String × Tree)} → ShowsMembers g old new ms ts → ShowsMembers g' old new' ms ts
  | [], shows => shows
  | (_, _) :: _, ⟨v, rest, eq, first, others⟩ =>
    ⟨v, rest, eq, first.carry le stays, others.carry le stays⟩

end

theorem shows_toTree (within : v.Within old) : Shows g old new v v.toTree := by
  cases v with
  | atom a => rfl
  | node id => exact ⟨within, rfl⟩

/-! ### Members one after another -/

/-- A member of a schema with a single type, if any is left. -/
def singleMember (g : Graph) (a : String × Value) : Option (String × Value) :=
  if a.1 = "type" then
    match g.items? a.2 with
    | some types => (unionType? types).map fun t => (a.1, t)
    | none => some a
  else some a

/-- The tree that comes of the value of a member, once the type is single. -/
def treeOf (g : Graph) (deeper : Nat → Tree) (key : String) (v : Value) : Tree :=
  if key = "properties" then
    match g.members? v with
    | some ps => .obj (ps.map fun (k, w) => (k, schemaOf g deeper w))
    | none => v.toTree
  else if key = "items" then schemaOf g deeper v
  else v.toTree

theorem collapseMember_eq_treeOf : collapseMember g deeper key v =
    (singleMember g (key, v)).map fun a => (a.1, treeOf g deeper a.1 a.2) := by
  rw [collapseMember_eq, singleMember]
  by_cases type : key = "type"
  · subst type
    rw [if_pos rfl, if_pos rfl]
    cases g.items? v with
    | none => rfl
    | some types =>
      dsimp only
      rw [Option.map_map]
      rfl
  · rw [if_neg type, if_neg type, Option.map_some]
    unfold treeOf
    split
    · cases g.members? v <;> rfl
    · split <;> rfl

theorem filterMap_collapseMember :
    (ms.filterMap fun (k, v) => collapseMember g deeper k v) =
      (ms.filterMap (singleMember g)).map fun a => (a.1, treeOf g deeper a.1 a.2) := by
  rw [List.map_filterMap]
  exact List.filterMap_congr fun a _ => collapseMember_eq_treeOf

/-- A member is another one with the value of a key replaced. -/
structure Replaced (key : String) (P : Value → Value → Prop) (a b : String × Value) : Prop where
  same : a.1 = b.1
  here : a.1 = key → P a.2 b.2
  other : a.1 ≠ key → b.2 = a.2

variable {P : Value → Value → Prop}

theorem replaced_map (each : ∀ a ∈ ms, a.1 = key → P a.2 w) :
    List.Forall₂ (Replaced key P) ms (ms.map fun a => if a.1 = key then (a.1, w) else a) := by
  rw [List.forall₂_map_right_iff, List.forall₂_same]
  intro a mem
  by_cases e : a.1 = key
  · rw [if_pos e]
    exact ⟨rfl, each a mem, fun ne => absurd e ne⟩
  · rw [if_neg e]
    exact ⟨rfl, fun e' => absurd e' e, fun _ => rfl⟩

theorem replaced_self (each : ∀ a ∈ ms, a.1 = key → P a.2 a.2) :
    List.Forall₂ (Replaced key P) ms ms :=
  List.forall₂_same.mpr fun a mem => ⟨rfl, each a mem, fun _ => rfl⟩

/-! ## Copies -/

/-- The next container of the store `s` has become a copy, which has the members now, and nothing
that was there has changed. -/
structure Copying (s h : Graph) (ms : List (String × Value)) : Prop where
  kept : s.Keeps h
  here : h.cell? s.cells.size = some (.obj ms)
  sound : h.IsSound

variable {s : Graph}

theorem Copying.cellSound (copy : Copying s h ms) : (Cell.obj ms).IsSound h.cells.size :=
  copy.sound _ _ copy.here

theorem Copying.keys (copy : Copying s h ms) : (ms.map (·.1)).Nodup := copy.cellSound.keys

theorem Copying.lt (copy : Copying s h ms) : s.cells.size < h.cells.size := lt_of_cell? copy.here

theorem copying_create (sound : s.IsSound) (cell : (Cell.obj ms).IsSound s.cells.size) :
    Copying s (s.create (.obj ms)).1 ms :=
  ⟨keeps_create s _, cell?_create s _, sound.create (cell.mono (Nat.le_succ _))⟩

theorem Copying.grow (copy : Copying s h ms) (kept : h.Keeps h') (sound : h'.IsSound) :
    Copying s h' ms :=
  ⟨copy.kept.trans kept, kept.cell? copy.here, sound⟩

theorem Copying.write (copy : Copying s h ms) (cell : (Cell.obj ms').IsSound h.cells.size) :
    Copying s (h.write s.cells.size (.obj ms')) ms' :=
  ⟨keeps_write copy.kept (Nat.le_refl _) _, cell?_write copy.lt _, copy.sound.write cell⟩

theorem Copying.assign (copy : Copying s h ms) (mem : (key, v) ∈ ms)
    (within : w.Within h.cells.size) :
    Copying s (h.assign s.cells.size key w)
      (ms.map fun a => if a.1 = key then (a.1, w) else a) := by
  rw [assign_eq copy.here, putMember_eq_map copy.keys mem]
  exact copy.write (copy.cellSound.map within key)

theorem Copying.discard (copy : Copying s h ms) (key : String) :
    Copying s (h.discard s.cells.size key) (ms.filter (·.1 ≠ key)) := by
  rw [discard_eq copy.here]
  exact copy.write (copy.cellSound.filter _)

theorem within_of_unionType? {types : List Value} (single : unionType? types = some v)
    (within : ∀ x ∈ types, x.Within n) : v.Within n := by
  rcases unionType?_mem single with mem | rfl
  · exact within v mem
  · trivial

theorem within_of_items? (sound : g.IsSound) {types : List Value} (list : g.items? v = some types) :
    ∀ x ∈ types, x.Within g.cells.size := by
  cases v with
  | atom a => cases list
  | node id =>
    unfold Graph.items? at list
    dsimp only at list
    split at list
    · next xs here =>
      obtain rfl := Option.some.inj list
      exact (sound _ _ here).known
    · cases list

theorem eq_of_mem (nodup : (ms.map (·.1)).Nodup) (mem : (key, v) ∈ ms) (mem' : (key, w) ∈ ms) :
    v = w := by
  rw [← find?_eq_some_iff nodup] at mem mem'
  exact Option.some.inj (mem.symm.trans mem')

/-- Only the type is looked at, and there is one at most. -/
theorem filterMap_singleMember (nodup : (ms.map (·.1)).Nodup) : ms.filterMap (singleMember g) =
    match (find? ms "type").bind g.items? with
    | none => ms
    | some types =>
      match unionType? types with
      | some t => ms.map fun a => if a.1 = "type" then (a.1, t) else a
      | none => ms.filter (·.1 ≠ "type") := by
  have list {a : String × Value} (mem : a ∈ ms) (e : a.1 = "type") :
      (find? ms "type").bind g.items? = g.items? a.2 := by
    rw [(find?_eq_some_iff nodup).mpr (e ▸ mem : ("type", a.2) ∈ ms), Option.bind_some]
  cases types : (find? ms "type").bind g.items? with
  | none =>
    refine (List.filterMap_congr fun a mem => ?_).trans List.filterMap_some
    by_cases e : a.1 = "type"
    · rw [singleMember, if_pos e, ← list mem e, types]
    · exact if_neg e
  | some types' =>
    dsimp only
    cases single : unionType? types' with
    | none =>
      rw [← List.filterMap_eq_filter]
      refine List.filterMap_congr fun a mem => ?_
      by_cases e : a.1 = "type"
      · rw [singleMember, if_pos e, ← list mem e, types]
        simp [single, Option.guard, e]
      · rw [singleMember, if_neg e]
        simp [Option.guard, e]
    | some t =>
      dsimp only
      rw [← List.filterMap_eq_map]
      refine List.filterMap_congr fun a mem => ?_
      by_cases e : a.1 = "type"
      · rw [singleMember, if_pos e, ← list mem e, types]
        simp [single, e]
      · rw [singleMember, if_neg e]
        simp [e]

theorem cellSound_of_members? (sound : g.IsSound) (object : g.members? v = some ps) :
    (Cell.obj ps).IsSound g.cells.size := by
  cases v with
  | atom a => cases object
  | node id => exact sound _ _ (members?_node.mp object)

/-- The type of a copy becomes single, if it is not dropped. -/
theorem Copying.singleType (copy : Copying s h ms) (sound : g.IsSound) (kept : g.Keeps h)
    (within : ∀ a ∈ ms, a.2.Within g.cells.size) :
    Copying s (h.singleType s.cells.size) (ms.filterMap (singleMember g)) := by
  have list : (find? ms "type").bind h.items? = (find? ms "type").bind g.items? := by
    cases found : find? ms "type" with
    | none => rfl
    | some v => exact kept.items? (within _ (mem_of_find? found))
  rw [Graph.singleType, member?_eq copy.here, filterMap_singleMember copy.keys, list]
  cases types : (find? ms "type").bind g.items? with
  | none => exact copy
  | some types' =>
    dsimp only
    cases single : unionType? types' with
    | none => exact copy.discard "type"
    | some t =>
      obtain ⟨v, found, list'⟩ := Option.bind_eq_some_iff.mp types
      exact copy.assign (mem_of_find? found)
        ((within_of_unionType? single (within_of_items? sound list')).mono kept.size_le)

/-! ### One copy -/

/-- A value of the store `h'`, which has come out of `h`, shows a tree, whose containers were all
made on the way. -/
structure Copied (g h h' : Graph) (v : Value) (t : Tree) : Prop where
  kept : h.Keeps h'
  sound : h'.IsSound
  known : v.Within h'.cells.size
  shows : Shows h' g.cells.size h.cells.size v t

/-- Schemas are copied if the recursion may go this deep, and the same way if it may go deeper. -/
def Copies (g : Graph) (fuel : Nat) : Prop :=
  ∀ ⦃h : Graph⦄ ⦃path : List Nat⦄ ⦃id : Nat⦄ ⦃ms : List (String × Value)⦄, g.Keeps h → h.IsSound →
    Lasts g fuel path → g.cell? id = some (.obj ms) →
    ∃ h' made, (∀ depth ≥ fuel, h.copySchema depth path id = some (h', made)) ∧
      Copied g h h' (.node made) (collapse g fuel path id)

theorem copied_refl (sound : h.IsSound) (kept : g.Keeps h) (within : v.Within g.cells.size) :
    Copied g h h v v.toTree :=
  ⟨fun _ _ => rfl, sound, within.mono kept.size_le, shows_toTree within⟩

theorem Copies.value (copies : Copies g fuel) (kept : g.Keeps h) (sound : h.IsSound)
    (lasts : Lasts g fuel path) (within : v.Within g.cells.size) :
    ∃ h' w, (∀ depth ≥ fuel, h.copyValue (copySchema depth · path) v = some (h', w)) ∧
      Copied g h h' w (schemaOf g (collapse g fuel path) v) := by
  have object := kept.members? within
  cases plain : g.members? v with
  | none =>
    rw [plain] at object
    refine ⟨h, v, fun depth _ => ?_, ?_⟩
    · unfold copyValue
      rw [object]
      split
      · next some => cases some
      · rfl
    · rw [schemaOf_plain plain]
      exact copied_refl sound kept within
  | some ms =>
    cases v with
    | atom a => cases plain
    | node id =>
      rw [plain] at object
      obtain ⟨h', made, run, copied⟩ := copies kept sound lasts (members?_node.mp plain)
      refine ⟨h', .node made, fun depth enough => ?_, ?_⟩
      · unfold copyValue
        rw [object]
        dsimp only
        rw [run depth enough]
        rfl
      · rw [schemaOf_object plain]
        exact copied

theorem Copies.each (copies : Copies g fuel) (kept : g.Keeps h) (sound : h.IsSound)
    (lasts : Lasts g fuel path) (within : ∀ a ∈ ps, a.2.Within g.cells.size) :
    ∃ h' ps', (∀ depth ≥ fuel, h.copyEach (copySchema depth · path) ps = some (h', ps')) ∧
      h.Keeps h' ∧ h'.IsSound ∧
      (∀ a ∈ ps', a.2.Within h'.cells.size) ∧ ps'.map (·.1) = ps.map (·.1) ∧
      ShowsMembers h' g.cells.size h.cells.size ps'
        (ps.map fun (k, w) => (k, schemaOf g (collapse g fuel path) w)) := by
  induction ps generalizing h with
  | nil =>
    exact ⟨h, [], fun _ _ => rfl, fun _ _ => rfl, sound, (fun _ mem => nomatch mem), rfl, rfl⟩
  | cons a ps ih =>
    obtain ⟨k, v⟩ := a
    obtain ⟨first, others⟩ := List.forall_mem_cons.mp within
    obtain ⟨h₁, w, run, copied⟩ := copies.value kept sound lasts first
    obtain ⟨h₂, ps', run', kept', sound', known, keys, shows⟩ :=
      ih (kept.trans copied.kept) copied.sound others
    refine ⟨h₂, (k, w) :: ps', fun depth enough => ?_, copied.kept.trans kept', sound', ?_, ?_, w,
      ps', rfl, ?_, ?_⟩
    · rw [copyEach, run depth enough]
      dsimp only [Option.bind_eq_bind, Option.bind_some]
      rw [run' depth enough]
      rfl
    · exact List.forall_mem_cons.mpr ⟨copied.known.mono kept'.size_le, known⟩
    · rw [List.map_cons, List.map_cons, keys]
    · exact copied.shows.carry (Nat.le_refl _) kept'.stays
    · exact shows.carry copied.kept.size_le fun _ _ _ here => here

/-- The properties of a copy become copies, and nothing made later than it changes. -/
theorem Copies.properties (copies : Copies g fuel) (sound : g.IsSound) (kept : g.Keeps s)
    (lasts : Lasts g fuel path)
    (copy : Copying s h ms) (within : ∀ a ∈ ms, a.2.Within g.cells.size) :
    ∃ h' ms',
      (∀ depth ≥ fuel, h.copyProperties (copySchema depth · path) s.cells.size = some h') ∧
      Copying s h' ms' ∧ Stays (s.cells.size + 1) h h' ∧
      List.Forall₂ (Replaced "properties" fun v w => Shows h' g.cells.size (s.cells.size + 1) w
        (treeOf g (collapse g fuel path) "properties" v)) ms ms' := by
  have keptAll := kept.trans copy.kept
  have object :
      (find? ms "properties").bind h.members? = (find? ms "properties").bind g.members? := by
    cases found : find? ms "properties" with
    | none => rfl
    | some v => exact keptAll.members? (within _ (mem_of_find? found))
  have only {a : String × Value} (mem : a ∈ ms) (e : a.1 = "properties") :
      find? ms "properties" = some a.2 :=
    (find?_eq_some_iff copy.keys).mpr (e ▸ mem)
  simp only [copyProperties, member?_eq copy.here, object]
  cases found : (find? ms "properties").bind g.members? with
  | none =>
    refine ⟨h, ms, fun _ _ => rfl, copy, fun _ _ _ here => here, replaced_self fun a mem e => ?_⟩
    rw [only mem e, Option.bind_some] at found
    rw [treeOf, if_pos rfl, found]
    exact shows_toTree (within a mem)
  | some ps =>
    obtain ⟨p, there, members⟩ := Option.bind_eq_some_iff.mp found
    have cell := cellSound_of_members? sound members
    obtain ⟨h₁, ps', run, kept₁, sound₁, known, keys, shows⟩ :=
      copies.each keptAll copy.sound lasts fun a mem =>
        cell.known _ (List.mem_map.mpr ⟨a, mem, rfl⟩)
    have cell' : (Cell.obj ps').IsSound (h₁.cells.size + 1) := by
      constructor
      · rw [Cell.keys, keys]
        exact cell.keys
      · intro v mem
        obtain ⟨a, listed, rfl⟩ := List.mem_map.mp mem
        exact (known a listed).mono (Nat.le_succ _)
    have grown := copy.grow (kept₁.trans (keeps_create h₁ (.obj ps'))) (sound₁.create cell')
    have made : h₁.cells.size < (h₁.create (.obj ps')).1.cells.size := by
      rw [size_create]
      exact Nat.lt_succ_self _
    have later : s.cells.size < s.cells.size + 1 := Nat.lt_succ_self _
    have after : s.cells.size + 1 ≤ h₁.cells.size := Nat.le_trans copy.lt kept₁.size_le
    have whole : Stays (s.cells.size + 1) h₁ ((h₁.create (.obj ps')).1.assign s.cells.size
        "properties" (.node h₁.cells.size)) :=
      (keeps_create h₁ _).stays.trans (stays_assign later)
    refine ⟨_, _, fun depth enough => ?_, grown.assign (w := .node _) (mem_of_find? there) made,
      kept₁.stays.trans whole, replaced_map fun a mem e => ?_⟩
    · dsimp only
      rw [run depth enough]
      rfl
    · rw [only mem e] at there
      obtain rfl := Option.some.inj there
      rw [treeOf, if_pos rfl, members]
      refine ⟨h₁.cells.size, ps', rfl, after, ?_, ?_⟩
      · exact stays_assign later _ _ after (cell?_create h₁ _)
      · exact shows.carry copy.lt fun id c le here => whole id c (Nat.le_trans copy.lt le) here

/-- So do the items of a copy, if they are a single schema. -/
theorem Copies.items (copies : Copies g fuel) (kept : g.Keeps s) (lasts : Lasts g fuel path)
    (copy : Copying s h ms) (within : ∀ a ∈ ms, a.1 = "items" → a.2.Within g.cells.size) :
    ∃ h' ms', (∀ depth ≥ fuel, h.copyItems (copySchema depth · path) s.cells.size = some h') ∧
      Copying s h' ms' ∧ Stays (s.cells.size + 1) h h' ∧
      List.Forall₂ (Replaced "items" fun v w => Shows h' g.cells.size (s.cells.size + 1) w
        (treeOf g (collapse g fuel path) "items" v)) ms ms' := by
  have keptAll := kept.trans copy.kept
  have only {a : String × Value} (mem : a ∈ ms) (e : a.1 = "items") :
      find? ms "items" = some a.2 :=
    (find?_eq_some_iff copy.keys).mpr (e ▸ mem)
  simp only [copyItems, member?_eq copy.here]
  cases found : find? ms "items" with
  | none =>
    refine ⟨h, ms, fun _ _ => rfl, copy, fun _ _ _ here => here, replaced_self fun a mem e => ?_⟩
    rw [only mem e] at found
    cases found
  | some v =>
    have mem := mem_of_find? found
    have known := within _ mem rfl
    dsimp only
    rw [keptAll.members? known]
    cases plain : g.members? v with
    | none =>
      refine ⟨h, ms, fun _ _ => rfl, copy, fun _ _ _ here => here,
        replaced_self fun a mem e => ?_⟩
      rw [only mem e] at found
      obtain rfl := Option.some.inj found
      rw [treeOf, if_neg (by decide), if_pos rfl, schemaOf_plain plain]
      exact shows_toTree known
    | some ps =>
      obtain ⟨h', w, run, copied⟩ := copies.value keptAll copy.sound lasts known
      have grown := copy.grow copied.kept copied.sound
      have later : s.cells.size < s.cells.size + 1 := Nat.lt_succ_self _
      refine ⟨_, _, fun depth enough => ?_, grown.assign mem copied.known,
        copied.kept.stays.trans (stays_assign later), replaced_map fun a mem' e => ?_⟩
      · dsimp only [Option.isSome_some]
        rw [if_pos rfl, run depth enough]
        rfl
      · rw [only mem' e] at found
        obtain rfl := Option.some.inj found
        rw [treeOf, if_neg (by decide), if_pos rfl]
        exact copied.shows.carry copy.lt (stays_assign copy.lt)

theorem within_of_replaced (replaced : List.Forall₂ (Replaced key P) ms ms')
    (within : ∀ a ∈ ms, a.2.Within n) : ∀ b ∈ ms', b.1 ≠ key → b.2.Within n := by
  induction replaced with
  | nil => exact fun _ mem => nomatch mem
  | @cons a b ms ms' first _ ih =>
    obtain ⟨known, others⟩ := List.forall_mem_cons.mp within
    refine List.forall_mem_cons.mpr ⟨fun ne => ?_, ih others⟩
    rw [first.other (first.same ▸ ne)]
    exact known

theorem within_singleMember (sound : g.IsSound) (within : ∀ a ∈ ms, a.2.Within g.cells.size) :
    ∀ a ∈ ms.filterMap (singleMember g), a.2.Within g.cells.size := by
  intro b listed
  obtain ⟨a, mem, made⟩ := List.mem_filterMap.mp listed
  unfold singleMember at made
  split at made
  · split at made
    · next types list =>
      obtain ⟨t, single, rfl⟩ := Option.map_eq_some_iff.mp made
      exact within_of_unionType? single (within_of_items? sound list)
    · obtain rfl := Option.some.inj made
      exact within _ mem
  · obtain rfl := Option.some.inj made
    exact within _ mem

/-- Both replacements together give the tree of each member. -/
theorem showsMembers_of_replaced {ms₁ ms₂ ms₃ : List (String × Value)} {m : Nat}
    (properties : List.Forall₂ (Replaced "properties" fun v w => Shows h old new w
      (treeOf g deeper "properties" v)) ms₁ ms₂)
    (items : List.Forall₂ (Replaced "items" fun v w => Shows h old new w
      (treeOf g deeper "items" v)) ms₂ ms₃)
    (within : ∀ a ∈ ms₁, a.2.Within old) (le : m ≤ new) :
    ShowsMembers h old m ms₃ (ms₁.map fun a => (a.1, treeOf g deeper a.1 a.2)) := by
  induction properties generalizing ms₃ with
  | nil =>
    rw [List.forall₂_nil_left_iff.mp items]
    rfl
  | @cons a b ms₁ ms₂ first _ ih =>
    obtain ⟨known, others⟩ := List.forall_mem_cons.mp within
    obtain ⟨c, ms₃, last, rest, rfl⟩ := List.forall₂_cons_left_iff.mp items
    refine ⟨c.2, ms₃, ?_, ?_, ih rest others⟩
    · rw [first.same, last.same]
    · refine Shows.carry le (fun _ _ _ here => here) ?_
      by_cases p : a.1 = "properties"
      · have same : c.2 = b.2 := last.other (by rw [← first.same, p]; decide)
        rw [same, p]
        exact first.here p
      · by_cases i : a.1 = "items"
        · have shown := last.here (first.same ▸ i)
          rw [first.other p] at shown
          rwa [i]
        · have same : c.2 = a.2 := (last.other (first.same ▸ i)).trans (first.other p)
          rw [same, treeOf, if_neg p, if_neg i]
          exact shows_toTree known

/-- Schemas are copied, no deeper than there are containers that are not above them. -/
theorem copies (sound : g.IsSound) (fuel : Nat) : Copies g fuel := by
  induction fuel with
  | zero => exact fun _ _ _ _ _ _ lasts _ => absurd rfl lasts.ne_zero
  | succ fuel ih =>
    intro s path id ms kept sound' lasts here
    by_cases met : id ∈ path
    · rw [collapse, if_pos (by simpa using met)]
      refine ⟨_, s.cells.size, fun depth enough => ?_,
        keeps_create s (.obj [("type", .atom (.str "object"))]),
        sound'.create ⟨List.nodup_singleton _, ?_⟩, ?_, ?_⟩
      · obtain ⟨depth, rfl⟩ := Nat.exists_eq_add_of_le' (Nat.le_of_add_left_le enough)
        rw [copySchema, if_pos (by simpa using met)]
        rfl
      · intro v mem
        obtain rfl := List.mem_singleton.mp mem
        trivial
      · exact lt_of_cell? (cell?_create s _)
      · exact ⟨_, _, rfl, Nat.le_refl _, cell?_create s _, _, _, rfl, rfl, rfl⟩
    · have cell := sound _ _ here
      have known (a : String × Value) (mem : a ∈ ms) : a.2.Within g.cells.size :=
        cell.known _ (List.mem_map.mpr ⟨a, mem, rfl⟩)
      have created := copying_create sound' (cell.mono kept.size_le)
      have single := created.singleType sound (kept.trans created.kept) known
      have known' := within_singleMember sound known
      have lasts' := lasts.cons met here
      obtain ⟨h₂, ms₂, run₂, copy₂, stays₂, replaced₂⟩ :=
        ih.properties sound kept lasts' single known'
      obtain ⟨h₃, ms₃, run₃, copy₃, stays₃, replaced₃⟩ :=
        ih.items kept lasts' copy₂ fun b mem e =>
          within_of_replaced replaced₂ known' b mem (by rw [e]; decide)
      refine ⟨h₃, s.cells.size, fun depth enough => ?_, copy₃.kept, copy₃.sound, copy₃.lt, ?_⟩
      · obtain ⟨depth, rfl⟩ := Nat.exists_eq_add_of_le' (Nat.le_of_add_left_le enough)
        have less : fuel ≤ depth := Nat.le_of_succ_le_succ enough
        have object : s.members? (.node id) = some ms := members?_node.mpr (kept.cell? here)
        rw [copySchema, if_neg (by simpa using met), object]
        change ((s.create (.obj ms)).1.singleType s.cells.size).copyProperties
          (copySchema depth · (id :: path)) s.cells.size >>= (fun h =>
            h.copyItems (copySchema depth · (id :: path)) s.cells.size >>= fun h =>
              some (h, s.cells.size)) = _
        rw [run₂ depth less, Option.bind_eq_bind, Option.bind_some, run₃ depth less]
        rfl
      · rw [collapse_of_notMem met here, filterMap_collapseMember]
        refine ⟨_, ms₃, rfl, Nat.le_refl _, copy₃.here, ?_⟩
        refine showsMembers_of_replaced (replaced₂.imp fun a b r => ?_) replaced₃ known'
          (Nat.le_succ _)
        exact ⟨r.same, fun e => (r.here e).carry (Nat.le_refl _) stays₃, r.other⟩

end LspGateway.Schema
