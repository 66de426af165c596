import LspGateway.Schema.Expansion
import LspGateway.Schema.Unions
import Mathlib.Data.List.Nodup
import Mathlib.Data.List.Perm.Subperm
import Mathlib.Logic.Relation

/-! # What a schema loses

The schemas behind properties and single items of a schema lose their lists of types and are cut
where they contain themselves. Everything else is kept as it is. So what is made of a schema can
be written out, and holds no list of types, if and only if that is so of all that is kept.
-/

namespace LspGateway.Schema
open Relation

/-! ## Schemas that can be written out

A value of a graph is finite if no way down from it is endless, and those are the values that can
be written out. The walk down stops where a container is met again below itself. It never runs out
of fuel, since a path without a repetition is no longer than there are containers.
-/

section Finite

variable {g : Graph} {v : Value} {id fuel : Nat} {path : List Nat} {c : Cell} {t : Tree}

/-! ### Paths without repetitions -/

/-- One container holds another. -/
def Holds (g : Graph) (id id' : Nat) : Prop :=
  ∃ c, g.cell? id = some c ∧ .node id' ∈ c.values

/-- The fuel lasts for every way on from the end of a path. -/
structure Lasts (g : Graph) (fuel : Nat) (path : List Nat) : Prop where
  nodup : path.Nodup
  known : ∀ p ∈ path, p < g.cells.size
  enough : g.cells.size < fuel + path.length

theorem lasts_nil (g : Graph) : Lasts g (g.cells.size + 1) [] := by
  constructor
  · exact List.nodup_nil
  · intro p mem
    cases mem
  · simp

theorem lt_of_cell? (here : g.cell? id = some c) : id < g.cells.size :=
  (Array.getElem?_eq_some_iff.mp here).1

theorem Lasts.cons (h : Lasts g (fuel + 1) path) (new : id ∉ path)
    (here : g.cell? id = some c) : Lasts g fuel (id :: path) := by
  constructor
  · exact List.nodup_cons.mpr ⟨new, h.nodup⟩
  · intro p mem
    rcases List.mem_cons.mp mem with rfl | mem
    · exact lt_of_cell? here
    · exact h.known p mem
  · have enough := h.enough
    rw [List.length_cons]
    omega

/-- A path is no longer than there are containers. -/
theorem Lasts.length_le (h : Lasts g fuel path) : path.length ≤ g.cells.size := by
  have inRange : path ⊆ List.range g.cells.size := by
    intro p mem
    exact List.mem_range.mpr (h.known p mem)
  have short := (List.subperm_of_subset h.nodup inRange).length_le
  rwa [List.length_range] at short

theorem Lasts.ne_zero (h : Lasts g fuel path) : fuel ≠ 0 := by
  rintro rfl
  have short := h.length_le
  have enough := h.enough
  omega

/-! ### Values of a graph -/

/-- Every way down from a value ends at an atom. -/
inductive Graph.IsFinite (g : Graph) : Value → Prop
  | atom (a : Atom) : IsFinite g (.atom a)
  | node {id : Nat} {c : Cell} (here : g.cell? id = some c)
    (each : ∀ v ∈ c.values, IsFinite g v) : IsFinite g (.node id)

theorem Graph.IsFinite.acyclic (h : g.IsFinite (.node id)) : ¬ TransGen (Holds g) id id := by
  generalize e : Value.node id = v at h
  induction h generalizing id with
  | atom a => cases e
  | node here each ih =>
    obtain rfl := Value.node.inj e
    intro cycle
    obtain ⟨next, ⟨c, here', mem⟩, back⟩ := TransGen.head'_iff.mp cycle
    obtain rfl := Option.some.inj (here.symm.trans here')
    exact ih _ mem rfl (TransGen.tail' back ⟨_, here, mem⟩)

theorem isSome_allOf {α : Type} {xs : List (Option α)} :
    (allOf xs).isSome ↔ ∀ x ∈ xs, x.isSome := by
  induction xs with
  | nil => simp [allOf]
  | cons x xs ih => cases x <;> simp [allOf, ih]

theorem isSome_allMembers {α : Type} {ms : List (String × Option α)} :
    (allMembers ms).isSome ↔ ∀ a ∈ ms, a.2.isSome := by
  induction ms with
  | nil => simp [allMembers]
  | cons a ms ih =>
    obtain ⟨k, x⟩ := a
    cases x with
    | none => simp [allMembers]
    | some x => simpa [allMembers] using ih

/-- A container is written out if it is not below itself and all that it holds is. -/
theorem isSome_expand_node : (g.expand (fuel + 1) path (.node id)).isSome ↔
    id ∉ path ∧ ∃ c, g.cell? id = some c ∧
      ∀ v ∈ c.values, (g.expand fuel (id :: path) v).isSome := by
  conv_lhs => rw [Graph.expand]
  by_cases met : id ∈ path
  · simp [met]
  · rw [if_neg (by simpa using met)]
    cases here : g.cell? id with
    | none => simp
    | some c =>
      simp only [met, not_false_eq_true, true_and, Option.some.injEq, exists_eq_left']
      cases c with
      | arr xs =>
        simp only [Option.isSome_map, isSome_allOf, List.forall_mem_map, Cell.values]
      | obj ms =>
        simp only [Option.isSome_map, isSome_allMembers, List.forall_mem_map, Cell.values]

theorem isFinite_of_expand (written : (g.expand fuel path v).isSome) : g.IsFinite v := by
  induction fuel generalizing path v with
  | zero =>
    cases v with
    | atom a => exact .atom a
    | node id => cases written
  | succ fuel ih =>
    cases v with
    | atom a => exact .atom a
    | node id =>
      obtain ⟨-, c, here, each⟩ := isSome_expand_node.mp written
      exact .node here fun v mem => ih (each v mem)

/-- The path leads to the value, so a finite value is not on it. -/
theorem Graph.IsFinite.expand (h : g.IsFinite v) (lasts : Lasts g fuel path)
    (leads : ∀ p ∈ path, ∀ id, v = .node id → TransGen (Holds g) p id) :
    (g.expand fuel path v).isSome := by
  induction fuel generalizing path v with
  | zero => exact absurd rfl lasts.ne_zero
  | succ fuel ih =>
    cases h with
    | atom a => rfl
    | @node id c here each =>
      have new : id ∉ path := by
        intro met
        exact (IsFinite.node here each).acyclic (leads id met id rfl)
      refine isSome_expand_node.mpr ⟨new, c, here, ?_⟩
      intro v mem
      apply ih (each v mem) (lasts.cons new here)
      rintro p met below rfl
      rcases List.mem_cons.mp met with rfl | met
      · exact .single ⟨c, here, mem⟩
      · exact (leads p met id rfl).tail ⟨c, here, mem⟩

theorem isFinite_iff_expand :
    g.IsFinite v ↔ (g.expand (g.cells.size + 1) [] v).isSome := by
  constructor
  · intro finite
    exact finite.expand (lasts_nil g) fun p mem => nomatch mem
  · exact isFinite_of_expand

/-! ### Trees that lead into a graph -/

/-- Every way down from a tree ends at an atom. -/
inductive Tree.IsFinite (g : Graph) : Tree → Prop
  | atom (a : Atom) : IsFinite g (.atom a)
  | arr {xs : List Tree} (each : ∀ t ∈ xs, IsFinite g t) : IsFinite g (.arr xs)
  | obj {ms : List (String × Tree)} (each : ∀ a ∈ ms, IsFinite g a.2) : IsFinite g (.obj ms)
  | shared {id : Nat} (finite : g.IsFinite (.node id)) : IsFinite g (.shared id)

theorem Tree.isFinite_arr {xs : List Tree} :
    (Tree.arr xs).IsFinite g ↔ ∀ t ∈ xs, t.IsFinite g := by
  constructor
  · rintro (_ | each)
    exact each
  · exact .arr

theorem Tree.isFinite_obj {ms : List (String × Tree)} :
    (Tree.obj ms).IsFinite g ↔ ∀ a ∈ ms, a.2.IsFinite g := by
  constructor
  · rintro (_ | _ | each)
    exact each
  · exact .obj

theorem Tree.isFinite_shared : (Tree.shared id).IsFinite g ↔ g.IsFinite (.node id) := by
  constructor
  · rintro (_ | _ | _ | finite)
    exact finite
  · exact .shared

theorem isFinite_toTree : v.toTree.IsFinite g ↔ g.IsFinite v := by
  cases v with
  | atom a => exact ⟨fun _ => .atom a, fun _ => .atom a⟩
  | node id => exact Tree.isFinite_shared

mutual

/-- The finite trees are those that can be written out. -/
theorem Tree.isFinite_iff : (t : Tree) → (t.IsFinite g ↔ (t.toJson? g).isSome)
  | .atom a => by
    constructor
    · intro _
      rfl
    · intro _
      exact .atom a
  | .shared id => by
    rw [Tree.isFinite_shared, isFinite_iff_expand]
    rfl
  | .arr xs => by
    rw [Tree.isFinite_arr, isFinite_items xs, Tree.toJson?, Option.isSome_map]
  | .obj ms => by
    rw [Tree.isFinite_obj, isFinite_members ms, Tree.toJson?, Option.isSome_map]

theorem isFinite_items : (xs : List Tree) →
    ((∀ t ∈ xs, t.IsFinite g) ↔ (allOf (Tree.itemsToJson g xs)).isSome)
  | [] => by simp [Tree.itemsToJson, allOf]
  | x :: xs => by
    rw [List.forall_mem_cons, Tree.isFinite_iff x, isFinite_items xs, isSome_allOf, isSome_allOf,
      Tree.itemsToJson, List.forall_mem_cons]

theorem isFinite_members : (ms : List (String × Tree)) →
    ((∀ a ∈ ms, a.2.IsFinite g) ↔ (allMembers (Tree.membersToJson g ms)).isSome)
  | [] => by simp [Tree.membersToJson, allMembers]
  | (k, x) :: ms => by
    rw [List.forall_mem_cons, Tree.isFinite_iff x, isFinite_members ms, isSome_allMembers,
      isSome_allMembers, Tree.membersToJson, List.forall_mem_cons]

end

end Finite

variable {g : Graph} {v w : Value} {id id' c fuel : Nat} {path : List Nat} {t u : Tree}
  {key : String} {ms ps : List (String × Value)} {deeper : Nat → Tree}

/-! ## Subschemas -/

/-- The tree is an object with the member. -/
def Tree.Has (g : Graph) (t : Tree) (key : String) (u : Tree) : Prop :=
  ∃ ms, t.members? g = some ms ∧ (key, u) ∈ ms

/-- A schema and one for the values under its properties, or for all items of its arrays. -/
inductive Below (g : Graph) (t u : Tree) : Prop
  | property {p : Tree} {ps : List (String × Tree)} {k : String} (has : t.Has g "properties" p)
    (object : p.members? g = some ps) (mem : (k, u) ∈ ps)
  | item (has : t.Has g "items" u)

/-- A schema and one behind another of its keywords. -/
inductive Aside (g : Graph) (t u : Tree) : Prop
  | item {a : Tree} {us : List Tree} (has : t.Has g "items" a) (array : a.items? g = some us)
    (mem : u ∈ us)
  | additional (has : t.Has g "additionalProperties" u)
  | alternative {key : String} {a : Tree} {us : List Tree}
    (keyword : key ∈ ["anyOf", "oneOf", "allOf"]) (has : t.Has g key a)
    (array : a.items? g = some us) (mem : u ∈ us)

/-- A schema and one right inside it. -/
inductive Contains (g : Graph) (t u : Tree) : Prop
  | below (below : Below g t u) : Contains g t u
  | aside (aside : Aside g t u) : Contains g t u

/-- No type of the schema is a list. -/
def HasSingleTypes (g : Graph) (t : Tree) : Prop :=
  ∀ type, t.Has g "type" type → type.items? g = none

/-- Neither the schema nor one inside it has a list of types. -/
def HasNoUnions (g : Graph) (t : Tree) : Prop :=
  ∀ u, ReflTransGen (Contains g) t u → HasSingleTypes g u

/-- The options in lists of types are texts. -/
def HasTextOptions (g : Graph) : Prop :=
  ∀ id ms v types, g.cell? id = some (.obj ms) → ("type", v) ∈ ms → g.items? v = some types →
    ∀ x ∈ types, ∃ s, x = .atom (.str s)

/-- The options in lists of types are texts in one container. -/
def textOptions (g : Graph) : Cell → Bool
  | .arr _ => true
  | .obj ms => ms.all fun (k, v) => k ≠ "type" || ((g.items? v).getD []).all fun x =>
    match x with
    | .atom (.str _) => true
    | _ => false

theorem hasTextOptions_of_all (all : g.cells.toList.all (textOptions g)) :
    HasTextOptions g := by
  intro id ms v types here mem list x option
  have known : Cell.obj ms ∈ g.cells.toList :=
    Array.mem_toList_iff.mpr (Array.mem_of_getElem? here)
  have texts := List.all_eq_true.mp (List.all_eq_true.mp all _ known) _ mem
  dsimp only at texts
  rw [list, Option.getD_some] at texts
  have text := List.all_eq_true.mp (by simpa using texts) x option
  split at text
  · exact ⟨_, rfl⟩
  · cases text

theorem HasNoUnions.mono (h : HasNoUnions g t) (inside : ReflTransGen (Contains g) t u) :
    HasNoUnions g u := fun _ more => h _ (inside.trans more)

/-- What is no object is no schema. -/
theorem hasNoUnions_of_members? (plain : t.members? g = none) : HasNoUnions g t := by
  have lone (key : String) (u : Tree) : ¬ t.Has g key u := by
    rintro ⟨ms, members, -⟩
    rw [plain] at members
    cases members
  intro u inside
  rcases ReflTransGen.cases_head inside with rfl | ⟨next, first, -⟩
  · intro type has
    exact absurd has (lone _ _)
  · rcases first with (⟨has, -, -⟩ | has) | (⟨has, -, -⟩ | has | ⟨-, has, -, -⟩) <;>
      exact absurd has (lone _ _)

theorem hasNoUnions_bareObject : HasNoUnions g bareObject := by
  have only {key : String} {u : Tree} (has : bareObject.Has g key u) :
      key = "type" ∧ u = .atom (.str "object") := by
    obtain ⟨ms, members, mem⟩ := has
    obtain rfl := Option.some.inj members
    exact Prod.mk.inj (List.mem_singleton.mp mem)
  intro u inside
  rcases ReflTransGen.cases_head inside with rfl | ⟨next, first, -⟩
  · intro type has
    rw [(only has).2]
    rfl
  · rcases first with (⟨has, -, -⟩ | has) | (⟨has, -, -⟩ | has | ⟨keyword, has, -, -⟩)
    · exact absurd (only has).1 (by decide)
    · exact absurd (only has).1 (by decide)
    · exact absurd (only has).1 (by decide)
    · exact absurd (only has).1 (by decide)
    · rw [(only has).1] at keyword
      exact absurd keyword (by decide)

theorem reflTransGen_contains (way : ReflTransGen (Below g) t u) :
    ReflTransGen (Contains g) t u := by
  induction way with
  | refl => exact .refl
  | tail _ step ih => exact ih.tail (.below step)

/-! ## What is changed and what is kept -/

theorem mem_of_find? {α : Type} {ms : List (String × α)} {key : String} {a : α}
    (found : find? ms key = some a) : (key, a) ∈ ms := by
  obtain ⟨⟨k, b⟩, here, rfl⟩ := Option.map_eq_some_iff.mp found
  have same := List.find?_some here
  obtain rfl := beq_iff_eq.mp same
  exact List.mem_of_find?_eq_some here

theorem members?_toTree :
    v.toTree.members? g = (g.members? v).map fun ms => ms.map fun (k, w) => (k, w.toTree) := by
  cases v <;> rfl

theorem items?_toTree : v.toTree.items? g = (g.items? v).map fun xs => xs.map Value.toTree := by
  cases v <;> rfl

theorem members?_node : g.members? (.node id) = some ms ↔ g.cell? id = some (.obj ms) := by
  unfold Graph.members?
  dsimp only
  cases here : g.cell? id with
  | none => simp
  | some c => cases c <;> simp

theorem has_shared (here : g.cell? id = some (.obj ms)) :
    (Tree.shared id).Has g key u ↔ ∃ v, (key, v) ∈ ms ∧ u = v.toTree := by
  have members : (Tree.shared id).members? g = some (ms.map fun (k, w) => (k, w.toTree)) := by
    rw [Tree.members?, members?_node.mpr here]
    rfl
  unfold Tree.Has
  rw [members]
  simp only [Option.some.injEq, exists_eq_left', List.mem_map, Prod.mk.injEq, Prod.exists]
  constructor
  · rintro ⟨k, v, mem, rfl, rfl⟩
    exact ⟨v, mem, rfl⟩
  · rintro ⟨v, mem, rfl⟩
    exact ⟨key, v, mem, rfl, rfl⟩

/-- The schema of a value, made anew if it is an object. -/
def schemaOf (g : Graph) (deeper : Nat → Tree) (v : Value) : Tree :=
  match v, g.members? v with
  | .node id, some _ => deeper id
  | _, _ => v.toTree

theorem schemaOf_object (object : g.members? (.node id) = some ms) :
    schemaOf g deeper (.node id) = deeper id := by
  simp only [schemaOf, object]

theorem schemaOf_plain (plain : g.members? v = none) : schemaOf g deeper v = v.toTree := by
  simp only [schemaOf, plain]

theorem collapseMember_eq : collapseMember g deeper key v =
    if key = "type" then
      match g.items? v with
      | some types => (unionType? types).map fun t => (key, t.toTree)
      | none => some (key, v.toTree)
    else if key = "properties" then
      match g.members? v with
      | some ms => some (key, .obj (ms.map fun (k, w) => (k, schemaOf g deeper w)))
      | none => some (key, v.toTree)
    else if key = "items" then some (key, schemaOf g deeper v)
    else some (key, v.toTree) := rfl

/-- The value of a member is kept as it is. -/
structure IsKept (g : Graph) (key : String) (v : Value) : Prop where
  type : key = "type" → g.items? v = none
  properties : key = "properties" → g.members? v = none
  items : key = "items" → g.members? v = none

/-- What becomes of the value of a member. -/
inductive Becomes (g : Graph) (deeper : Nat → Tree) (key : String) (v : Value) (t : Tree) : Prop
  | union {x : Value} {types : List Value} (e : key = "type") (list : g.items? v = some types)
    (single : unionType? types = some x) (made : t = x.toTree)
  | properties {ps : List (String × Value)} (e : key = "properties") (object : g.members? v = some ps)
    (made : t = .obj (ps.map fun (k, w) => (k, schemaOf g deeper w)))
  | item {id : Nat} {ms : List (String × Value)} (e : key = "items") (node : v = .node id)
    (object : g.members? (.node id) = some ms) (made : t = deeper id)
  | kept (kept : IsKept g key v) (made : t = v.toTree)

theorem Becomes.of_collapseMember {a : String × Tree}
    (made : collapseMember g deeper key v = some a) : a.1 = key ∧ Becomes g deeper key v a.2 := by
  rw [collapseMember_eq] at made
  split at made
  · next e =>
    split at made
    · next types list =>
      obtain ⟨x, single, rfl⟩ := Option.map_eq_some_iff.mp made
      exact ⟨rfl, .union e list single rfl⟩
    · next list =>
      obtain rfl := Option.some.inj made
      subst e
      refine ⟨rfl, .kept ⟨fun _ => list, ?_, ?_⟩ rfl⟩ <;> exact fun e => absurd e (by decide)
  · next type =>
    split at made
    · next e =>
      split at made
      · next ps object =>
        obtain rfl := Option.some.inj made
        exact ⟨rfl, .properties e object rfl⟩
      · next plain =>
        obtain rfl := Option.some.inj made
        subst e
        exact ⟨rfl, .kept ⟨fun e => absurd e type, fun _ => plain, fun e => absurd e (by decide)⟩
          rfl⟩
    · next properties =>
      split at made
      · next e =>
        obtain rfl := Option.some.inj made
        refine ⟨rfl, ?_⟩
        cases object : g.members? v with
        | none =>
          exact .kept ⟨fun e => absurd e type, fun e => absurd e properties, fun _ => object⟩
            (schemaOf_plain object)
        | some ms =>
          cases v with
          | atom a => cases object
          | node id => exact .item e rfl object (schemaOf_object object)
      · next items =>
        obtain rfl := Option.some.inj made
        exact ⟨rfl, .kept ⟨fun e => absurd e type, fun e => absurd e properties,
          fun e => absurd e items⟩ rfl⟩

theorem IsKept.collapseMember (h : IsKept g key v) :
    collapseMember g deeper key v = some (key, v.toTree) := by
  rw [collapseMember_eq]
  split
  · next e => rw [h.type e]
  · split
    · next e => rw [h.properties e]
    · split
      · next e => rw [schemaOf_plain (h.items e)]
      · rfl

theorem collapseMember_properties (object : g.members? v = some ps) :
    collapseMember g deeper "properties" v =
      some ("properties", .obj (ps.map fun (k, w) => (k, schemaOf g deeper w))) := by
  rw [collapseMember_eq, if_neg (by decide), if_pos rfl, object]

theorem collapseMember_items (object : g.members? (.node id) = some ms) :
    collapseMember g deeper "items" (.node id) = some ("items", deeper id) := by
  rw [collapseMember_eq, if_neg (by decide), if_neg (by decide), if_pos rfl,
    schemaOf_object object]

/-- The schema of a container that is not met again. -/
theorem collapse_of_notMem (new : id ∉ path) (here : g.cell? id = some (.obj ms)) :
    collapse g (fuel + 1) path id =
      .obj (ms.filterMap fun (k, v) => collapseMember g (collapse g fuel (id :: path)) k v) := by
  rw [collapse, if_neg (by simpa using new), here]

theorem has_collapse (new : id ∉ path) (here : g.cell? id = some (.obj ms)) :
    (collapse g (fuel + 1) path id).Has g key t ↔
      ∃ v, (key, v) ∈ ms ∧ collapseMember g (collapse g fuel (id :: path)) key v = some (key, t) := by
  rw [collapse_of_notMem new here]
  unfold Tree.Has Tree.members?
  simp only [Option.some.injEq, exists_eq_left', List.mem_filterMap, Prod.exists]
  constructor
  · rintro ⟨k, v, mem, made⟩
    obtain rfl := (Becomes.of_collapseMember made).1
    exact ⟨v, mem, made⟩
  · rintro ⟨v, mem, made⟩
    exact ⟨key, v, mem, made⟩

/-- A schema that was made anew is no array. -/
theorem items?_collapse (here : g.cell? id = some (.obj ms)) :
    (collapse g fuel path id).items? g = none := by
  cases fuel with
  | zero => rfl
  | succ fuel =>
    by_cases met : id ∈ path
    · rw [collapse, if_pos (by simpa using met)]
      rfl
    · rw [collapse_of_notMem met here]
      rfl

/-! ## What is reached -/

/-- The sanitizer goes on from one container to another. -/
inductive Descends (g : Graph) (id id' : Nat) : Prop
  | property {ms ps ms' : List (String × Value)} {p : Value} {k : String}
    (here : g.cell? id = some (.obj ms)) (mem : ("properties", p) ∈ ms)
    (object : g.members? p = some ps) (mem' : (k, .node id') ∈ ps)
    (next : g.cell? id' = some (.obj ms'))
  | item {ms ms' : List (String × Value)} (here : g.cell? id = some (.obj ms))
    (mem : ("items", .node id') ∈ ms) (next : g.cell? id' = some (.obj ms'))

/-- A container that the sanitizer goes on to is an object. -/
theorem Descends.next (h : Descends g id id') : ∃ ms, g.cell? id' = some (.obj ms) := by
  cases h with
  | property _ _ _ _ next => exact ⟨_, next⟩
  | item _ _ next => exact ⟨_, next⟩

/-- A way on that meets no container twice that is on the path. -/
structure Clear (g : Graph) (path : List Nat) (id id' : Nat) : Prop where
  new : id ∉ path
  way : ReflTransGen (fun a b => Descends g a b ∧ b ∉ path) id id'

theorem clear_nil (way : ReflTransGen (Descends g) id id') : Clear g [] id id' := by
  refine ⟨List.not_mem_nil, ?_⟩
  induction way with
  | refl => exact .refl
  | tail _ step ih => exact ih.tail ⟨step, List.not_mem_nil⟩

/-- A way on meets a container for the last time, or does not meet it at all. -/
theorem Clear.last (h : Clear g path id id') (c : Nat) :
    id' = c ∨ Clear g (c :: path) id id' ∨ ∃ d, Descends g c d ∧ Clear g (c :: path) d id' := by
  obtain ⟨new, way⟩ := h
  induction way using ReflTransGen.head_induction_on with
  | refl =>
    by_cases e : id' = c
    · exact .inl e
    · refine .inr (.inl ⟨?_, .refl⟩)
      simp [e, new]
  | @head a b step way ih =>
    rcases ih step.2 with e | clear | later
    · exact .inl e
    · by_cases e : a = c
      · subst e
        exact .inr (.inr ⟨b, step.1, clear⟩)
      · refine .inr (.inl ⟨by simp [e, new], ?_⟩)
        exact .head ⟨step.1, clear.new⟩ clear.way
    · exact .inr (.inr later)

/-- The way from a container goes on from where it meets that for the last time. -/
theorem Clear.next (h : Clear g path id id') :
    id' = id ∨ ∃ c, Descends g id c ∧ Clear g (id :: path) c id' := by
  rcases h.last id with e | again | later
  · exact .inl e
  · exact absurd List.mem_cons_self again.new
  · exact .inr later

theorem Descends.isBelow (h : Descends g id c) (new : id ∉ path) :
    Below g (collapse g (fuel + 1) path id) (collapse g fuel (id :: path) c) := by
  cases h with
  | property here mem object mem' next =>
    apply Below.property ((has_collapse new here).mpr ⟨_, mem, collapseMember_properties object⟩)
    · rfl
    · refine List.mem_map.mpr ⟨_, mem', ?_⟩
      dsimp only
      rw [schemaOf_object (members?_node.mpr next)]
  | item here mem next =>
    exact .item ((has_collapse new here).mpr
      ⟨_, mem, collapseMember_items (members?_node.mpr next)⟩)

/-- What the sanitizer makes of every container that it can go on to is behind properties and
single items of what it makes of the first. -/
theorem Clear.reached (h : Clear g path id id') (lasts : Lasts g fuel path)
    (object : ∃ ms, g.cell? id = some (.obj ms)) : ∃ fuel' path', id' ∉ path' ∧
      ReflTransGen (Below g) (collapse g fuel path id) (collapse g (fuel' + 1) path' id') := by
  induction fuel generalizing path id with
  | zero => exact absurd rfl lasts.ne_zero
  | succ fuel ih =>
    rcases h.next with rfl | ⟨c, step, clear⟩
    · exact ⟨fuel, path, h.new, .refl⟩
    · obtain ⟨ms, here⟩ := object
      obtain ⟨fuel', path', new, way⟩ := ih clear (lasts.cons h.new here) step.next
      exact ⟨fuel', path', new, .head (step.isBelow h.new) way⟩

/-! ## Lists of types -/

theorem unionType?_mem {types : List Value} (single : unionType? types = some v) :
    v ∈ types ∨ v = .atom (.str "string") := by
  unfold unionType? at single
  split at single
  · exact .inr (Option.some.inj single).symm
  · exact .inl (List.mem_of_head? single)

theorem Becomes.items?_type (h : Becomes g deeper "type" v t) (texts : HasTextOptions g)
    (here : g.cell? id = some (.obj ms)) (mem : ("type", v) ∈ ms) : t.items? g = none := by
  rcases h with ⟨-, list, single, rfl⟩ | ⟨e, -, -⟩ | ⟨e, -, -, -⟩ | ⟨kept, rfl⟩
  · rcases unionType?_mem single with option | rfl
    · obtain ⟨s, rfl⟩ := texts _ _ _ _ here mem list _ option
      rfl
    · rfl
  · exact absurd e (by decide)
  · exact absurd e (by decide)
  · rw [items?_toTree, kept.type rfl, Option.map_none]

/-- What is behind a keyword that the sanitizer does not follow is kept. -/
theorem Aside.of_collapse (h : Aside g (collapse g (fuel + 1) path id) t) (new : id ∉ path)
    (here : g.cell? id = some (.obj ms))
    (deeper : ∀ c ms, g.cell? c = some (.obj ms) →
      (collapse g fuel (id :: path) c).items? g = none) : Aside g (.shared id) t := by
  have kept {key : String} {a : Tree} (has : (collapse g (fuel + 1) path id).Has g key a)
      (type : key ≠ "type") (properties : key ≠ "properties") (items : key ≠ "items") :
      (Tree.shared id).Has g key a := by
    obtain ⟨v, mem, made⟩ := (has_collapse new here).mp has
    rcases (Becomes.of_collapseMember made).2 with
      ⟨e, -, -, -⟩ | ⟨e, -, -⟩ | ⟨e, -, -, -⟩ | ⟨-, rfl⟩
    · exact absurd e type
    · exact absurd e properties
    · exact absurd e items
    · exact (has_shared here).mpr ⟨v, mem, rfl⟩
  rcases h with ⟨has, array, mem⟩ | has | ⟨keyword, has, array, mem⟩
  · obtain ⟨v, mem', made⟩ := (has_collapse new here).mp has
    rcases (Becomes.of_collapseMember made).2 with
      ⟨e, -, -, -⟩ | ⟨e, -, -⟩ | ⟨-, rfl, object, rfl⟩ | ⟨-, rfl⟩
    · exact absurd e (by decide)
    · exact absurd e (by decide)
    · rw [deeper _ _ (members?_node.mp object)] at array
      cases array
    · exact .item ((has_shared here).mpr ⟨v, mem', rfl⟩) array mem
  · exact .additional (kept has (by decide) (by decide) (by decide))
  · refine .alternative keyword (kept has ?_ ?_ ?_) array mem <;> rintro rfl <;>
      exact absurd keyword (by decide)

/-- Behind a property or the items of a schema that was made anew is another such schema, or what
is no schema. -/
theorem Below.of_collapse (h : Below g (collapse g (fuel + 1) path id) u) (new : id ∉ path)
    (here : g.cell? id = some (.obj ms)) :
    (∃ c, Descends g id c ∧ u = collapse g fuel (id :: path) c) ∨ u.members? g = none := by
  have plain {v : Value} (plain : g.members? v = none) : v.toTree.members? g = none := by
    rw [members?_toTree, plain, Option.map_none]
  rcases h with @⟨p, ps, k, has, object, mem⟩ | has
  · obtain ⟨v, mem', made⟩ := (has_collapse new here).mp has
    rcases (Becomes.of_collapseMember made).2 with
      ⟨e, -, -, -⟩ | ⟨-, object', rfl⟩ | ⟨e, -, -, -⟩ | ⟨kept, rfl⟩
    · exact absurd e (by decide)
    · obtain rfl := Option.some.inj object
      obtain ⟨⟨k', w⟩, listed, same⟩ := List.mem_map.mp mem
      obtain ⟨-, rfl⟩ := Prod.mk.inj same
      cases object : g.members? w with
      | none =>
        rw [schemaOf_plain object]
        exact .inr (plain object)
      | some ms' =>
        cases w with
        | atom a => cases object
        | node c =>
          left
          exact ⟨c, .property here mem' object' listed (members?_node.mp object),
            schemaOf_object object⟩
    · exact absurd e (by decide)
    · rw [plain (kept.properties rfl)] at object
      cases object
  · obtain ⟨v, mem, made⟩ := (has_collapse new here).mp has
    rcases (Becomes.of_collapseMember made).2 with
      ⟨e, -, -, -⟩ | ⟨e, -, -⟩ | ⟨-, rfl, object, rfl⟩ | ⟨kept, rfl⟩
    · exact absurd e (by decide)
    · exact absurd e (by decide)
    · exact .inl ⟨_, .item here mem (members?_node.mp object), rfl⟩
    · exact .inr (plain (kept.items rfl))

/-- The types of a schema that was made anew are single. -/
theorem hasSingleTypes_collapse (texts : HasTextOptions g) (here : g.cell? id = some (.obj ms)) :
    HasSingleTypes g (collapse g fuel path id) := by
  cases fuel with
  | zero => exact hasNoUnions_bareObject _ .refl
  | succ fuel =>
    by_cases met : id ∈ path
    · rw [collapse, if_pos (by simpa using met)]
      exact hasNoUnions_bareObject _ .refl
    · intro type has
      obtain ⟨v, mem, made⟩ := (has_collapse met here).mp has
      exact (Becomes.of_collapseMember made).2.items?_type texts here mem

/-- All types are single behind the properties and single items of a sanitized schema. -/
theorem hasSingleTypes_below (texts : HasTextOptions g) (object : ∃ ms, g.cell? id = some (.obj ms))
    (way : ReflTransGen (Below g) (collapse g fuel path id) u) : HasSingleTypes g u := by
  induction fuel generalizing path id with
  | zero => exact hasNoUnions_bareObject u (reflTransGen_contains way)
  | succ fuel ih =>
    by_cases met : id ∈ path
    · rw [collapse, if_pos (by simpa using met)] at way
      exact hasNoUnions_bareObject u (reflTransGen_contains way)
    obtain ⟨ms, here⟩ := object
    rcases ReflTransGen.cases_head way with rfl | ⟨next, first, rest⟩
    · exact hasSingleTypes_collapse texts here
    · rcases first.of_collapse met here with ⟨c, step, rfl⟩ | plain
      · exact ih step.next rest
      · exact hasNoUnions_of_members? plain u (reflTransGen_contains rest)

/-- Of a schema with no list of types aside of the way there is made one with none at all. -/
theorem hasNoUnions_collapse (texts : HasTextOptions g)
    (object : ∃ ms, g.cell? id = some (.obj ms))
    (kept : ∀ id', ReflTransGen (Descends g) id id' → ∀ u, Aside g (.shared id') u →
      HasNoUnions g u) : HasNoUnions g (collapse g fuel path id) := by
  induction fuel generalizing path id with
  | zero => exact hasNoUnions_bareObject
  | succ fuel ih =>
    by_cases met : id ∈ path
    · rw [collapse, if_pos (by simpa using met)]
      exact hasNoUnions_bareObject
    obtain ⟨ms, here⟩ := object
    intro u inside
    rcases ReflTransGen.cases_head inside with rfl | ⟨next, below | aside, rest⟩
    · exact hasSingleTypes_collapse texts here
    · rcases below.of_collapse met here with ⟨c, step, rfl⟩ | plain
      · exact ih step.next (fun id' way => kept id' (.head step way)) u rest
      · exact hasNoUnions_of_members? plain u rest
    · exact kept id .refl next (aside.of_collapse met here fun c ms => items?_collapse) u rest

theorem Aside.collapse (h : Aside g (.shared id) u) (new : id ∉ path)
    (here : g.cell? id = some (.obj ms)) : Aside g (collapse g (fuel + 1) path id) u := by
  have kept {key : String} {v : Value} (mem : (key, v) ∈ ms) (kept : IsKept g key v) :
      (Schema.collapse g (fuel + 1) path id).Has g key v.toTree :=
    (has_collapse new here).mpr ⟨v, mem, kept.collapseMember⟩
  have array {v : Value} {us : List Tree} (list : v.toTree.items? g = some us) :
      g.members? v = none := by
    cases v with
    | atom a => rfl
    | node c =>
      rw [items?_toTree] at list
      unfold Graph.items? at list
      unfold Graph.members?
      dsimp only at list ⊢
      cases here : g.cell? c with
      | none => rfl
      | some cell =>
        cases cell with
        | arr xs => rfl
        | obj ms =>
          rw [here] at list
          cases list
  rcases h with ⟨has, list, mem⟩ | has | ⟨keyword, has, list, mem⟩
  · obtain ⟨v, mem', rfl⟩ := (has_shared here).mp has
    refine .item (kept mem' ⟨?_, ?_, fun _ => array list⟩) list mem <;>
      exact fun e => absurd e (by decide)
  · obtain ⟨v, mem', rfl⟩ := (has_shared here).mp has
    refine .additional (kept mem' ⟨?_, ?_, ?_⟩) <;> exact fun e => absurd e (by decide)
  · obtain ⟨v, mem', rfl⟩ := (has_shared here).mp has
    refine .alternative keyword (kept mem' ⟨?_, ?_, ?_⟩) list mem <;> rintro rfl <;>
      exact absurd keyword (by decide)

/-- A sanitized schema has no list of types if and only if nothing has one that is behind another
keyword of a schema that is reached. -/
theorem hasNoUnions_removeUnions (texts : HasTextOptions g) (here : g.cell? id = some (.obj ms)) :
    HasNoUnions g (removeUnions g id) ↔
      ∀ id', ReflTransGen (Descends g) id id' → ∀ u, Aside g (.shared id') u →
        HasNoUnions g u := by
  constructor
  · intro none' id' way u aside
    obtain ⟨fuel, path, new, down⟩ := (clear_nil way).reached (lasts_nil g) ⟨ms, here⟩
    have object : ∃ ms, g.cell? id' = some (.obj ms) := by
      rcases ReflTransGen.cases_tail way with rfl | ⟨_, -, step⟩
      · exact ⟨ms, here⟩
      · exact step.next
    obtain ⟨ms', here'⟩ := object
    exact none'.mono ((reflTransGen_contains down).tail (.aside (aside.collapse new here')))
  · exact hasNoUnions_collapse texts ⟨ms, here⟩

/-! ## Ways without end -/

/-- A value of a container is kept when that is sanitized. -/
inductive Keeps (g : Graph) (id : Nat) (v : Value) : Prop
  | member {ms : List (String × Value)} {key : String} (here : g.cell? id = some (.obj ms))
    (mem : (key, v) ∈ ms) (kept : IsKept g key v)
  | property {ms ps : List (String × Value)} {p : Value} {k : String}
    (here : g.cell? id = some (.obj ms)) (mem : ("properties", p) ∈ ms)
    (object : g.members? p = some ps) (mem' : (k, v) ∈ ps) (plain : g.members? v = none)

theorem isFinite_collapse (texts : HasTextOptions g)
    (object : ∃ ms, g.cell? id = some (.obj ms))
    (kept : ∀ id', ReflTransGen (Descends g) id id' → ∀ v, Keeps g id' v → g.IsFinite v) :
    (collapse g fuel path id).IsFinite g := by
  have bare : bareObject.IsFinite g := by
    refine .obj ?_
    intro a mem
    rw [List.mem_singleton.mp mem]
    exact .atom _
  induction fuel generalizing path id with
  | zero => exact bare
  | succ fuel ih =>
    by_cases met : id ∈ path
    · rw [collapse, if_pos (by simpa using met)]
      exact bare
    obtain ⟨ms, here⟩ := object
    have down {c : Nat} (step : Descends g id c) :
        (collapse g fuel (id :: path) c).IsFinite g :=
      ih step.next fun id' way => kept id' (.head step way)
    rw [collapse_of_notMem met here, Tree.isFinite_obj]
    intro a mem
    obtain ⟨⟨key, v⟩, mem, made⟩ := List.mem_filterMap.mp mem
    rcases (Becomes.of_collapseMember made).2 with
      ⟨rfl, list, single, same⟩ | ⟨rfl, object, same⟩ | ⟨rfl, rfl, object, same⟩ | ⟨isKept, same⟩
    · rw [same]
      rcases unionType?_mem single with option | rfl
      · obtain ⟨s, rfl⟩ := texts _ _ _ _ here mem list _ option
        exact .atom _
      · exact .atom _
    · rw [same, Tree.isFinite_obj]
      intro b mem'
      obtain ⟨⟨k, w⟩, listed, rfl⟩ := List.mem_map.mp mem'
      cases object' : g.members? w with
      | none =>
        dsimp only
        rw [schemaOf_plain object', isFinite_toTree]
        exact kept id .refl w (.property here mem object listed object')
      | some ms' =>
        cases w with
        | atom a => cases object'
        | node c =>
          dsimp only
          rw [schemaOf_object object']
          exact down (.property here mem object listed (members?_node.mp object'))
    · rw [same]
      exact down (.item here mem (members?_node.mp object))
    · rw [same, isFinite_toTree]
      exact kept id .refl v (.member here mem isKept)

theorem Tree.IsFinite.member {ts : List (String × Tree)} {a : String × Tree} (h : t.IsFinite g)
    (members : t.members? g = some ts) (mem : a ∈ ts) : a.2.IsFinite g := by
  cases h with
  | atom a => cases members
  | arr each => cases members
  | obj each =>
    obtain rfl := Option.some.inj members
    exact each a mem
  | shared finite =>
    obtain ⟨ms, object, rfl⟩ := Option.map_eq_some_iff.mp members
    obtain ⟨⟨k, v⟩, listed, rfl⟩ := List.mem_map.mp mem
    cases finite with
    | node here each =>
      obtain rfl := Option.some.inj (here.symm.trans (members?_node.mp object))
      exact isFinite_toTree.mpr (each v (List.mem_map.mpr ⟨(k, v), listed, rfl⟩))

theorem Tree.IsFinite.has (h : t.IsFinite g) (has : t.Has g key u) : u.IsFinite g := by
  obtain ⟨ts, members, mem⟩ := has
  exact h.member members mem

theorem Tree.IsFinite.down (h : t.IsFinite g) (way : ReflTransGen (Below g) t u) :
    u.IsFinite g := by
  induction way with
  | refl => exact h
  | tail _ step ih =>
    cases step with
    | property has object mem => exact (ih.has has).member object mem
    | item has => exact ih.has has

theorem Keeps.isFinite (h : Keeps g id v) (new : id ∉ path)
    (finite : (collapse g (fuel + 1) path id).IsFinite g) : g.IsFinite v := by
  rw [← isFinite_toTree]
  cases h with
  | member here mem kept =>
    exact finite.has ((has_collapse new here).mpr ⟨v, mem, kept.collapseMember⟩)
  | @property _ ps _ k here mem object mem' plain =>
    have whole := finite.has
      ((has_collapse new here).mpr ⟨_, mem, collapseMember_properties object⟩)
    have part := Tree.isFinite_obj.mp whole (k, v.toTree) (List.mem_map.mpr ⟨(k, v), mem', by
      dsimp only
      rw [schemaOf_plain plain]⟩)
    exact part

/-- A sanitized schema can be written out if and only if all that can be that is kept of the
schemas that are reached. -/
theorem isFinite_removeUnions (texts : HasTextOptions g) (here : g.cell? id = some (.obj ms)) :
    (removeUnions g id).IsFinite g ↔
      ∀ id', ReflTransGen (Descends g) id id' → ∀ v, Keeps g id' v → g.IsFinite v := by
  constructor
  · intro finite id' way v keeps
    obtain ⟨fuel, path, new, down⟩ := (clear_nil way).reached (lasts_nil g) ⟨ms, here⟩
    exact keeps.isFinite new (finite.down down)
  · exact isFinite_collapse texts ⟨ms, here⟩

end LspGateway.Schema
