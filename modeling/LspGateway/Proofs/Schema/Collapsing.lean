import LspGateway.Proofs.Schema.Copying

/-! # What becomes of a schema place by place

Every schema that is made has a container that it is made of, and a path of containers above that
one. On a path that has met the container before it is cut, and otherwise it has the members of the
container, with a single type. A schema that was made is a tree of new containers, so nothing is met
twice when it is copied again, and nothing is left to change.
-/

namespace LspGateway.Schema
open Relation

variable {g g' : Graph} {v w : Value} {id old new n root fuel : Nat} {path : List Nat} {t u : Tree}
  {key : String} {ms ps : List (String × Value)} {ts : List (String × Tree)} {deeper : Nat → Tree}

/-! ## Copies of copies -/

mutual

/-- A value shows one tree only. -/
theorem Shows.unique (apart : old ≤ new) {v : Value} :
    {t u : Tree} → Shows g old new v t → Shows g old new v u → t = u
  | .atom a, u, shows, other => by
    obtain rfl := shows
    cases u with
    | atom b => rw [Value.atom.inj other]
    | arr => exact other.elim
    | obj => obtain ⟨_, _, e, -⟩ := other; cases e
    | shared => cases other.2
  | .shared id, u, ⟨lt, eq⟩, other => by
    subst eq
    cases u with
    | atom b => cases other
    | arr => exact other.elim
    | obj =>
      obtain ⟨_, _, e, later, -⟩ := other
      cases e
      omega
    | shared => rw [Value.node.inj other.2]
  | .obj ts, u, ⟨id, ms, eq, later, here, members⟩, other => by
    subst eq
    cases u with
    | atom b => cases other
    | arr => exact other.elim
    | obj us =>
      obtain ⟨_, ms', e, -, here', members'⟩ := other
      cases e
      obtain rfl := Cell.obj.inj (Option.some.inj (here.symm.trans here'))
      rw [members.unique apart members']
    | shared =>
      obtain ⟨lt, e⟩ := other
      cases e
      omega

theorem ShowsMembers.unique (apart : old ≤ new) {ms : List (String × Value)} :
    {ts us : List (String × Tree)} → ShowsMembers g old new ms ts → ShowsMembers g old new ms us →
      ts = us
  | [], us, shows, other => by
    obtain rfl := shows
    cases us with
    | nil => rfl
    | cons => obtain ⟨_, _, e, -⟩ := other; cases e
  | (k, t) :: ts, us, ⟨v, rest, eq, first, others⟩, other => by
    subst eq
    cases us with
    | nil => cases other
    | cons b us =>
      obtain ⟨k', u⟩ := b
      obtain ⟨v', rest', same, first', others'⟩ := other
      obtain ⟨head, rfl⟩ := List.cons.inj same
      obtain ⟨rfl, rfl⟩ := Prod.mk.inj head
      rw [first.unique apart first', others.unique apart others']

end

theorem sizeOf_lt_of_mem {a : String × Tree} (mem : a ∈ ts) :
    sizeOf a.2 < sizeOf (Tree.obj ts) := by
  have inside := List.sizeOf_lt_of_mem mem
  have part : sizeOf a.2 < sizeOf a := by
    obtain ⟨k, t⟩ := a
    simp only [Prod.mk.sizeOf_spec]
    omega
  simp only [Tree.obj.sizeOf_spec]
  omega

/-- The containers of a path show greater and greater trees. -/
def Narrows (g : Graph) (n : Nat) (path : List Nat) (t : Tree) : Prop :=
  ∀ p ∈ path, ∃ u, Shows g n n (.node p) u ∧ sizeOf t < sizeOf u

theorem Narrows.notMem (h : Narrows g n path t) (shows : Shows g n n (.node id) t) : id ∉ path := by
  intro met
  obtain ⟨u, shows', less⟩ := h id met
  obtain rfl := shows.unique (Nat.le_refl n) shows'
  exact Nat.lt_irrefl _ less

theorem Narrows.cons (h : Narrows g n path t) (shows : Shows g n n (.node id) t)
    (less : sizeOf u < sizeOf t) : Narrows g n (id :: path) u := by
  intro p mem
  rcases List.mem_cons.mp mem with rfl | mem
  · exact ⟨t, shows, less⟩
  · obtain ⟨t', shows', less'⟩ := h p mem
    exact ⟨t', shows', Nat.lt_trans less less'⟩

theorem eq_of_shows_toTree (shows : Shows g old new w v.toTree) : w = v := by
  cases v with
  | atom a => exact shows
  | node id => exact shows.2

/-- A member that is shown as it is made becomes the same again. -/
theorem filterMap_of_shows {deeper' : Nat → Tree}
    (each : ∀ k v t, (k, t) ∈ ts → Shows g' old new v t →
      collapseMember g' deeper' k v = some (k, t))
    (shows : ShowsMembers g' old new ms ts) :
    (ms.filterMap fun (k, v) => collapseMember g' deeper' k v) = ts := by
  induction ts generalizing ms with
  | nil =>
    obtain rfl := shows
    rfl
  | cons b ts ih =>
    obtain ⟨k, t⟩ := b
    obtain ⟨v, rest, rfl, first, others⟩ := shows
    rw [List.filterMap_cons]
    dsimp only
    rw [each k v t List.mem_cons_self first,
      ih (fun k v t mem => each k v t (List.mem_cons_of_mem _ mem)) others]

theorem IsKept.keeps (isKept : IsKept g key v) (kept : g.Keeps g')
    (within : v.Within g.cells.size) : IsKept g' key v := by
  constructor
  · intro e
    rw [kept.items? within, isKept.type e]
  · intro e
    rw [kept.members? within, isKept.properties e]
  · intro e
    rw [kept.members? within, isKept.items e]

theorem within_of_shows_toTree (shows : Shows g old new w v.toTree) : v.Within old := by
  cases v with
  | atom a => trivial
  | node id => exact shows.1

theorem collapse_of_mem (met : id ∈ path) : collapse g (fuel + 1) path id = bareObject := by
  rw [collapse, if_pos (by simpa using met)]

theorem exists_collapse_eq_obj (fuel : Nat) (path : List Nat) (here : g.cell? id = some (.obj ms)) :
    ∃ ts, collapse g fuel path id = .obj ts := by
  cases fuel with
  | zero => exact ⟨_, rfl⟩
  | succ fuel =>
    by_cases met : id ∈ path
    · rw [collapse, if_pos (by simpa using met)]
      exact ⟨_, rfl⟩
    · exact ⟨_, collapse_of_notMem met here⟩

theorem members?_of_shows_obj (shows : Shows g old new v (.obj ts)) :
    ∃ ms, g.members? v = some ms ∧ ShowsMembers g old new ms ts := by
  obtain ⟨_, ms, rfl, -, here, members⟩ := shows
  exact ⟨ms, members?_node.mpr here, members⟩

theorem map_of_shows {f : Value → Tree}
    (each : ∀ k v t, (k, t) ∈ ts → Shows g old new v t → f v = t)
    (shows : ShowsMembers g old new ms ts) : (ms.map fun (k, v) => (k, f v)) = ts := by
  induction ts generalizing ms with
  | nil =>
    obtain rfl := shows
    rfl
  | cons b ts ih =>
    obtain ⟨k, t⟩ := b
    obtain ⟨v, rest, rfl, first, others⟩ := shows
    rw [List.map_cons, ih (fun k v t mem => each k v t (List.mem_cons_of_mem _ mem)) others]
    dsimp only
    rw [each k v t List.mem_cons_self first]

/-- A value becomes the schema that it shows, if those of containers do. -/
theorem schemaOf_of_shows {deeper' : Nat → Tree} (kept : g.Keeps g')
    (object : ∀ c ms, g.cell? c = some (.obj ms) → ∃ ts, deeper c = .obj ts)
    (again : ∀ c ms m, w = .node c → g.cell? c = some (.obj ms) →
      Shows g' g.cells.size new (.node m) (deeper c) → deeper' m = deeper c)
    (shows : Shows g' g.cells.size new v (schemaOf g deeper w)) :
    schemaOf g' deeper' v = schemaOf g deeper w := by
  cases members : g.members? w with
  | none =>
    rw [schemaOf_plain members] at shows ⊢
    obtain rfl := eq_of_shows_toTree shows
    refine schemaOf_plain ?_
    rw [kept.members? (within_of_shows_toTree shows), members]
  | some ms =>
    cases w with
    | atom a => cases members
    | node c =>
      have here := members?_node.mp members
      rw [schemaOf_object members] at shows ⊢
      obtain ⟨ts, made⟩ := object c ms here
      have shown := shows
      rw [made] at shows
      obtain ⟨_, object', -⟩ := members?_of_shows_obj shows
      cases v with
      | atom a => cases object'
      | node m =>
        rw [schemaOf_object object']
        exact again c ms m rfl here shown

/-- The tree that a copy shows is made of it again: every schema on the way is new, and a path down
a tree meets nothing twice. -/
theorem collapse_of_shows (texts : HasTextOptions g) (kept : g.Keeps g') {fuel' m : Nat}
    {path' : List Nat} (lasts : Lasts g fuel path) (lasts' : Lasts g' fuel' path')
    (here : g.cell? id = some (.obj ms))
    (shows : Shows g' g.cells.size g.cells.size (.node m) (collapse g fuel path id))
    (narrows : Narrows g' g.cells.size path' (collapse g fuel path id)) :
    collapse g' fuel' path' m = collapse g fuel path id := by
  induction fuel generalizing path id ms fuel' path' m with
  | zero => exact absurd rfl lasts.ne_zero
  | succ fuel ih =>
    obtain ⟨fuel', rfl⟩ := Nat.exists_eq_add_one_of_ne_zero lasts'.ne_zero
    have new := narrows.notMem shows
    obtain ⟨ts, made⟩ := exists_collapse_eq_obj (fuel + 1) path here
    rw [made] at shows narrows
    obtain ⟨ms', object, members⟩ := members?_of_shows_obj shows
    have here' := members?_node.mp object
    rw [made, collapse_of_notMem new here']
    refine congrArg Tree.obj (filterMap_of_shows (fun k v t mem shown => ?_) members)
    by_cases met : id ∈ path
    · rw [collapse_of_mem met] at made
      obtain rfl := Tree.obj.inj made
      obtain ⟨rfl, rfl⟩ := Prod.mk.inj (List.mem_singleton.mp mem)
      obtain rfl := shown
      rfl
    · rw [collapse_of_notMem met here] at made
      have again {v w : Value} (less : sizeOf (schemaOf g (collapse g fuel (id :: path)) w) <
            sizeOf (Tree.obj ts))
          (shown : Shows g' g.cells.size g.cells.size v
            (schemaOf g (collapse g fuel (id :: path)) w)) :
          schemaOf g' (collapse g' fuel' (m :: path')) v =
            schemaOf g (collapse g fuel (id :: path)) w := by
        refine schemaOf_of_shows kept (fun c ms there => exists_collapse_eq_obj _ _ there) ?_ shown
        rintro c ms m' rfl there shown'
        rw [schemaOf_object (members?_node.mpr there)] at less
        exact ih (lasts.cons met here) (lasts'.cons new here') there shown'
          (narrows.cons shows less)
      have smaller := sizeOf_lt_of_mem mem
      rw [← Tree.obj.inj made] at mem
      obtain ⟨⟨k', w⟩, listed, becomes⟩ := List.mem_filterMap.mp mem
      obtain ⟨rfl, becomes⟩ := Becomes.of_collapseMember becomes
      rcases becomes with
        ⟨rfl, list, single, rfl⟩ | ⟨rfl, object, rfl⟩ | ⟨rfl, rfl, object, rfl⟩ | ⟨isKept, rfl⟩
      · rcases unionType?_mem single with option | rfl
        · obtain ⟨s, rfl⟩ := texts _ _ _ _ here listed list _ option
          obtain rfl := shown
          rfl
        · obtain rfl := shown
          rfl
      · obtain ⟨ps', object', members'⟩ := members?_of_shows_obj shown
        rw [collapseMember_properties object', map_of_shows (fun k v t mem' shown' => ?_) members']
        have less := Nat.lt_trans (sizeOf_lt_of_mem mem') smaller
        obtain ⟨⟨k', w⟩, -, same⟩ := List.mem_map.mp mem'
        obtain ⟨rfl, rfl⟩ := Prod.mk.inj same
        exact again less shown'
      · have node : schemaOf g (collapse g fuel (id :: path)) (.node _) = _ :=
          schemaOf_object object
        rw [← node] at shown smaller ⊢
        rw [collapseMember_eq, if_neg (by decide), if_neg (by decide), if_pos rfl,
          again smaller shown]
      · obtain rfl := eq_of_shows_toTree shown
        exact (isKept.keeps kept (within_of_shows_toTree shown)).collapseMember

/-! ## What is made, position by position -/

/-- A schema in what is made of a root, with the container that it is made of and the containers
above that one, the nearest first. -/
inductive Position (g : Graph) (root : Nat) : List Nat → Nat → Tree → Prop
  | root : Position g root [] root (removeUnions g root)
  | property {path : List Nat} {id c : Nat} {t p u : Tree} {ms ps ms' : List (String × Value)}
    {us : List (String × Tree)} {v : Value} {k : String} (above : Position g root path id t)
    (here : g.cell? id = some (.obj ms)) (mem : ("properties", v) ∈ ms)
    (object : g.members? v = some ps) (listed : (k, .node c) ∈ ps)
    (next : g.cell? c = some (.obj ms')) (has : t.Has g "properties" p)
    (object' : p.members? g = some us) (made : (k, u) ∈ us) : Position g root (id :: path) c u
  | item {path : List Nat} {id c : Nat} {t u : Tree} {ms ms' : List (String × Value)}
    (above : Position g root path id t) (here : g.cell? id = some (.obj ms))
    (mem : ("items", .node c) ∈ ms) (next : g.cell? c = some (.obj ms'))
    (has : t.Has g "items" u) : Position g root (id :: path) c u

/-- A value stands for a list of types. -/
def StandsFor (types : List Value) (v : Value) : Prop :=
  if .atom (.str "string") ∈ types then v = .atom (.str "string") else types.head? = some v

/-- What the value of a member becomes, up to the schemas below. -/
inductive Turns (g : Graph) (key : String) (v : Value) (t : Tree) : Prop
  | type {types : List Value} {x : Value} (e : key = "type") (list : g.items? v = some types)
    (stands : StandsFor types x) (made : t = x.toTree)
  | properties {ps : List (String × Value)} {ts : List (String × Tree)} (e : key = "properties")
    (object : g.members? v = some ps) (made : t = .obj ts)
    (each : List.Forall₂ (fun a b => a.1 = b.1 ∧ (g.members? a.2 = none → b.2 = a.2.toTree)) ps ts)
  | item (e : key = "items") (object : (g.members? v).isSome)
  | kept (kept : IsKept g key v) (made : t = v.toTree)

/-- The member is an empty list of types. -/
def isEmptyType (g : Graph) (a : String × Value) : Bool :=
  a.1 == "type" && g.items? a.2 == some []

/-- The members of a schema become those of a tree, in their order. -/
def TurnsInto (g : Graph) (ms : List (String × Value)) (ts : List (String × Tree)) : Prop :=
  List.Forall₂ (fun a b => a.1 = b.1 ∧ Turns g a.1 a.2 b.2) (ms.filter fun a => !isEmptyType g a) ts

theorem unionType?_eq_some_iff {types : List Value} {x : Value} :
    unionType? types = some x ↔ StandsFor types x := by
  unfold unionType? StandsFor
  simp only [List.contains_iff_mem]
  split
  · rw [Option.some.injEq, eq_comm]
  · rfl

theorem Becomes.turns (h : Becomes g deeper key v t) : Turns g key v t := by
  rcases h with ⟨e, list, single, made⟩ | ⟨e, object, made⟩ | ⟨e, rfl, object, -⟩ | ⟨kept, made⟩
  · exact .type e list (unionType?_eq_some_iff.mp single) made
  · refine .properties e object made ?_
    rw [List.forall₂_map_right_iff, List.forall₂_same]
    exact fun a _ => ⟨rfl, schemaOf_plain⟩
  · exact .item e (by rw [object]; rfl)
  · exact .kept kept made

theorem collapseMember_eq_none : collapseMember g deeper key v = none ↔ isEmptyType g (key, v) := by
  rw [collapseMember_eq, isEmptyType]
  by_cases type : key = "type"
  · subst type
    rw [if_pos rfl]
    cases list : g.items? v with
    | none => simp
    | some types =>
      cases types with
      | nil => simp [unionType?]
      | cons x types =>
        simp only [Option.map_eq_none_iff, unionType?]
        split <;> simp
  · rw [if_neg type]
    have other : (key == "type") = false := by simpa using type
    dsimp only
    rw [other, Bool.false_and]
    split
    · split <;> simp
    · split <;> simp

theorem forall₂_filterMap {α β : Type} {f : α → Option β} {p : α → Bool} {R : α → β → Prop}
    {xs : List α} (dropped : ∀ x, f x = none ↔ p x) (made : ∀ x y, f x = some y → R x y) :
    List.Forall₂ R (xs.filter fun x => !p x) (xs.filterMap f) := by
  induction xs with
  | nil => exact .nil
  | cons x xs ih =>
    cases value : f x with
    | none =>
      rw [List.filterMap_cons_none value, List.filter_cons_of_neg (by simp [(dropped x).mp value])]
      exact ih
    | some y =>
      have stays : p x = false := by
        rw [← Bool.not_eq_true, ← dropped, value]
        exact Option.some_ne_none y
      rw [List.filterMap_cons_some value, List.filter_cons_of_pos (by simp [stays])]
      exact .cons (made x y value) ih

theorem turnsInto_collapse :
    TurnsInto g ms (ms.filterMap fun (k, v) => collapseMember g deeper k v) := by
  refine forall₂_filterMap (fun a => collapseMember_eq_none) fun a b made => ?_
  obtain ⟨same, becomes⟩ := Becomes.of_collapseMember made
  exact ⟨same.symm, becomes.turns⟩

/-- The tree at a position is what is made of the container there, below the containers above. -/
structure IsMade (g : Graph) (path : List Nat) (id : Nat) (t : Tree) : Prop where
  made : ∃ fuel, Lasts g fuel path ∧ t = collapse g fuel path id
  object : ∃ ms, g.cell? id = some (.obj ms)

theorem not_has_bareObject (other : key ≠ "type") : ¬ bareObject.Has g key t := by
  rintro ⟨ms, members, mem⟩
  obtain rfl := Option.some.inj members
  exact other (Prod.mk.inj (List.mem_singleton.mp mem)).1

/-- There are schemas below a container only if that is not met again. -/
theorem IsMade.of_has (h : IsMade g path id t) (other : key ≠ "type") (has : t.Has g key u) :
    id ∉ path ∧ ∃ fuel, Lasts g (fuel + 1) path ∧ t = collapse g (fuel + 1) path id := by
  obtain ⟨⟨fuel, lasts, rfl⟩, -⟩ := h
  obtain ⟨fuel, rfl⟩ := Nat.exists_eq_add_one_of_ne_zero lasts.ne_zero
  refine ⟨fun met => ?_, fuel, lasts, rfl⟩
  rw [collapse_of_mem met] at has
  exact not_has_bareObject other has

theorem Graph.IsSound.keys (sound : g.IsSound) (here : g.cell? id = some (.obj ms)) :
    (ms.map (·.1)).Nodup := (sound id _ here).keys

theorem Position.isMade (sound : g.IsSound) (object : ∃ ms, g.cell? root = some (.obj ms))
    (position : Position g root path id t) : IsMade g path id t := by
  induction position with
  | root => exact ⟨⟨_, lasts_nil g, rfl⟩, object⟩
  | property above here mem object listed next has object' made ih =>
    obtain ⟨new, fuel, lasts, rfl⟩ := ih.of_has (by decide) has
    refine ⟨⟨fuel, lasts.cons new here, ?_⟩, _, next⟩
    obtain ⟨v', mem', made'⟩ := (has_collapse new here).mp has
    obtain rfl := eq_of_mem (sound.keys here) mem mem'
    rw [collapseMember_properties object] at made'
    obtain ⟨-, rfl⟩ := Prod.mk.inj (Option.some.inj made')
    obtain rfl := Option.some.inj object'
    obtain ⟨⟨k', w⟩, listed', same⟩ := List.mem_map.mp made
    obtain ⟨rfl, rfl⟩ := Prod.mk.inj same
    obtain rfl := eq_of_mem (cellSound_of_members? sound object).keys listed listed'
    exact schemaOf_object (members?_node.mpr next)
  | item above here mem next has ih =>
    obtain ⟨new, fuel, lasts, rfl⟩ := ih.of_has (by decide) has
    refine ⟨⟨fuel, lasts.cons new here, ?_⟩, _, next⟩
    obtain ⟨v', mem', made'⟩ := (has_collapse new here).mp has
    obtain rfl := eq_of_mem (sound.keys here) mem mem'
    rw [collapseMember_items (members?_node.mpr next)] at made'
    exact (Prod.mk.inj (Option.some.inj made')).2.symm

/-- What is right below a position is another position, or no schema. -/
theorem Position.next (isMade : IsMade g path id t) (position : Position g root path id t)
    (below : Below g t u) : u.members? g = none ∨ ∃ c, Position g root (id :: path) c u := by
  obtain ⟨ms, here⟩ := isMade.object
  have plain {v : Value} (plain : g.members? v = none) : v.toTree.members? g = none := by
    rw [members?_toTree, plain, Option.map_none]
  rcases below with @⟨p, us, k, has, object, mem⟩ | has
  · obtain ⟨new, fuel, -, rfl⟩ := isMade.of_has (by decide) has
    obtain ⟨v, mem', made⟩ := (has_collapse new here).mp has
    rcases (Becomes.of_collapseMember made).2 with
      ⟨e, -, -, -⟩ | ⟨-, object', rfl⟩ | ⟨e, -, -, -⟩ | ⟨kept, rfl⟩
    · exact absurd e (by decide)
    · obtain rfl := Option.some.inj object
      obtain ⟨⟨k', w⟩, listed, same⟩ := List.mem_map.mp mem
      obtain ⟨rfl, rfl⟩ := Prod.mk.inj same
      cases members : g.members? w with
      | none =>
        rw [schemaOf_plain members]
        exact .inl (plain members)
      | some ms' =>
        cases w with
        | atom a => cases members
        | node c =>
          have next := members?_node.mp members
          exact .inr ⟨c, .property position here mem' object' listed next has rfl mem⟩
    · exact absurd e (by decide)
    · rw [plain (kept.properties rfl)] at object
      cases object
  · obtain ⟨new, fuel, -, rfl⟩ := isMade.of_has (by decide) has
    obtain ⟨v, mem, made⟩ := (has_collapse new here).mp has
    rcases (Becomes.of_collapseMember made).2 with
      ⟨e, -, -, -⟩ | ⟨e, -, -⟩ | ⟨-, rfl, object, rfl⟩ | ⟨kept, rfl⟩
    · exact absurd e (by decide)
    · exact absurd e (by decide)
    · exact .inr ⟨_, .item position here mem (members?_node.mp object) has⟩
    · exact .inl (plain (kept.items rfl))

theorem not_below (plain : t.members? g = none) : ¬ Below g t u := by
  rintro (⟨⟨ms, members, -⟩, -, -⟩ | ⟨ms, members, -⟩) <;>
  · rw [plain] at members
    cases members

/-- The positions are where the schemas are behind properties and single items. -/
theorem exists_position_iff (sound : g.IsSound) (object : ∃ ms, g.cell? root = some (.obj ms))
    (schema : u.members? g ≠ none) :
    ReflTransGen (Below g) (removeUnions g root) u ↔ ∃ path id, Position g root path id u := by
  constructor
  · intro way
    have reached : u.members? g = none ∨ ∃ path id, Position g root path id u := by
      induction way with
      | refl => exact .inr ⟨_, _, .root⟩
      | tail _ step ih =>
        rcases ih (fun plain => not_below plain step) with plain | ⟨path, id, position⟩
        · exact absurd step (not_below plain)
        · rcases position.next (position.isMade sound object) step with plain | ⟨c, position⟩
          · exact .inl plain
          · exact .inr ⟨_, _, position⟩
    exact reached.resolve_left schema
  · rintro ⟨path, id, position⟩
    clear schema
    induction position with
    | root => exact .refl
    | property _ _ _ _ _ _ has object' made ih => exact ih.tail (.property has object' made)
    | item _ _ _ _ has ih => exact ih.tail (.item has)

/-- What is made of a root without type unions. -/
structure IsCollapsed (g : Graph) (root : Nat) : Prop where
  positions : ∀ u, u.members? g ≠ none →
    (ReflTransGen (Below g) (removeUnions g root) u ↔ ∃ path id, Position g root path id u)
  met : ∀ path id t, Position g root path id t → id ∈ path → t = bareObject
  new : ∀ path id t, Position g root path id t → id ∉ path →
    ∃ ms ts, g.cell? id = some (.obj ms) ∧ t = .obj ts ∧ TurnsInto g ms ts
  finite : ∀ path id t, Position g root path id t → path.length ≤ g.cells.size
  single : ∀ u, ReflTransGen (Below g) (removeUnions g root) u → HasSingleTypes g u

theorem isCollapsed (sound : g.IsSound) (texts : HasTextOptions g)
    (object : ∃ ms, g.cell? root = some (.obj ms)) : IsCollapsed g root := by
  constructor
  · exact fun u => exists_position_iff sound object
  · intro path id t position met
    obtain ⟨⟨fuel, lasts, rfl⟩, -⟩ := position.isMade sound object
    obtain ⟨fuel, rfl⟩ := Nat.exists_eq_add_one_of_ne_zero lasts.ne_zero
    exact collapse_of_mem met
  · intro path id t position new
    obtain ⟨⟨fuel, lasts, rfl⟩, ms, here⟩ := position.isMade sound object
    obtain ⟨fuel, rfl⟩ := Nat.exists_eq_add_one_of_ne_zero lasts.ne_zero
    exact ⟨ms, _, here, collapse_of_notMem new here, turnsInto_collapse⟩
  · intro path id t position
    obtain ⟨⟨fuel, lasts, -⟩, -⟩ := position.isMade sound object
    exact lasts.length_le
  · exact fun u way => hasSingleTypes_below texts object way

/-- Removing type unions takes no deeper recursion than there are containers, and changes none of
them. What it makes is told position by position, and is made again when the unions are removed from
it once more. -/
theorem copySchema_collapses (sound : g.IsSound) (texts : HasTextOptions g)
    (here : g.cell? root = some (.obj ms)) :
    IsCollapsed g root ∧ ∃ g' made,
      (∀ depth > g.cells.size, g.copySchema depth [] root = some (g', made)) ∧ g.Keeps g' ∧
      Shows g' g.cells.size g.cells.size (.node made) (removeUnions g root) ∧
      ∃ g'' again,
        (∀ depth > g'.cells.size, g'.copySchema depth [] made = some (g'', again)) ∧ g'.Keeps g'' ∧
        Shows g'' g'.cells.size g'.cells.size (.node again) (removeUnions g root) := by
  refine ⟨isCollapsed sound texts ⟨ms, here⟩, ?_⟩
  have refl (h : Graph) : h.Keeps h := fun _ _ => rfl
  obtain ⟨g', made, run, copied⟩ := copies sound _ (refl g) sound (lasts_nil g) here
  refine ⟨g', made, run, copied.kept, copied.shows, ?_⟩
  obtain ⟨ts, tree⟩ := exists_collapse_eq_obj (g.cells.size + 1) [] here
  obtain ⟨ms', object, -⟩ := members?_of_shows_obj (tree ▸ copied.shows)
  obtain ⟨g'', again, run', copied'⟩ :=
    copies copied.sound _ (refl g') copied.sound (lasts_nil g') (members?_node.mp object)
  have same : collapse g' (g'.cells.size + 1) [] made = removeUnions g root :=
    collapse_of_shows texts copied.kept (lasts_nil g) (lasts_nil g') here copied.shows
      fun p mem => nomatch mem
  exact ⟨g'', again, run', copied'.kept, same ▸ copied'.shows⟩

/-- A schema whose properties are itself and, twice, another schema, which leads back to it. -/
def ring : Graph := ⟨#[
  .obj [("type", .node 1), ("properties", .node 2), ("default", .node 2)],
  .arr [.atom (.str "null"), .atom (.str "string")],
  .obj [("self", .node 0), ("one", .node 3), ("other", .node 3)],
  .obj [("type", .node 4), ("items", .node 0)],
  .arr []]⟩

theorem copySchema_collapses_ring : ring.IsSound ∧ HasTextOptions ring ∧
    (∃ ms, ring.cell? 0 = some (.obj ms)) ∧ IsCollapsed ring 0 ∧
    ∃ g' made, (∀ depth > 5, ring.copySchema depth [] 0 = some (g', made)) ∧ ring.Keeps g' ∧
      Shows g' 5 5 (.node made) (removeUnions ring 0) := by
  have sound : ring.IsSound := by decide
  have texts : HasTextOptions ring := hasTextOptions_of_all (by decide)
  have here : ring.cell? 0 = some (.obj [("type", .node 1), ("properties", .node 2),
    ("default", .node 2)]) := rfl
  obtain ⟨collapsed, g', made, run, kept, shows, -⟩ := copySchema_collapses sound texts here
  exact ⟨sound, texts, ⟨_, here⟩, collapsed, g', made, run, kept, shows⟩

/-- The other schema is written out twice, and both are cut where they come back. -/
example : removeUnions ring 0 =
    let back := Tree.obj [("items", bareObject)]
    .obj [("type", .atom (.str "string")),
      ("properties", .obj [("self", bareObject), ("one", back), ("other", back)]),
      ("default", .shared 2)] := by rfl

end LspGateway.Schema
