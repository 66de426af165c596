import LspGateway.Catalog.Basic
import LspGateway.Proofs.Schema.Sanitizing

/-! # The schemas of the catalog's methods

The schema of a method is that of any object, or it is made of what the metadata say of the
method's parameters. Either way it has one type, and so have all schemas behind its properties and
items. It is free of lists of types throughout, and can be written out, if the metadata put neither
a list of types nor a way without end behind any other keyword.
-/

namespace LspGateway
open Schema Relation

namespace Schema

variable {g : Graph} {t : Tree} {id : Nat} {params : Option Value}

/-- The schema has a type, and its types are single. -/
structure HasType (g : Graph) (t : Tree) : Prop where
  some : ∃ type, t.Has g "type" type
  single : HasSingleTypes g t

/-- The schema has one type, it can be written out, and no schema inside it has a list of types. -/
structure IsSafe (g : Graph) (t : Tree) : Prop where
  type : HasType g t
  finite : t.IsFinite g
  unions : HasNoUnions g t

/-- What the sanitizer keeps of a schema can be written out and has no lists of types. -/
structure IsHarmless (g : Graph) (root : Nat) : Prop where
  finite : ∀ id, ReflTransGen (Descends g) root id → ∀ v, Keeps g id v → g.IsFinite v
  unions : ∀ id, ReflTransGen (Descends g) root id → ∀ u, Aside g (.shared id) u →
    HasNoUnions g u

theorem isSafe_bareObject : IsSafe g bareObject := by
  constructor
  · constructor
    · exact ⟨_, _, rfl, List.mem_singleton_self _⟩
    · exact hasNoUnions_bareObject _ .refl
  · refine .obj ?_
    intro a mem
    rw [List.mem_singleton.mp mem]
    exact .atom _
  · exact hasNoUnions_bareObject

/-- A type that counts as true stays, if only as one of its options. -/
theorem has_type_collapse {ms : List (String × Value)} {type : Value}
    (here : g.cell? id = some (.obj ms)) (found : find? ms "type" = some type)
    (truthy : g.truthy type) : ∃ t, (removeUnions g id).Has g "type" t := by
  have mem := mem_of_find? found
  cases list : g.items? type with
  | none =>
    have kept : IsKept g "type" type := by
      constructor
      · exact fun _ => list
      · exact fun e => absurd e (by decide)
      · exact fun e => absurd e (by decide)
    exact ⟨_, (has_collapse List.not_mem_nil here).mpr ⟨_, mem, kept.collapseMember⟩⟩
  | some types =>
    obtain ⟨t, single⟩ : ∃ t, unionType? types = some t := by
      unfold unionType?
      split
      · exact ⟨_, rfl⟩
      · cases types with
        | cons t types => exact ⟨t, rfl⟩
        | nil =>
          cases type with
          | atom a => cases list
          | node c =>
            exfalso
            unfold Graph.items? at list
            unfold Graph.truthy at truthy
            dsimp only at list truthy
            split at list
            · next xs here =>
              obtain rfl := Option.some.inj list
              rw [here] at truthy
              cases truthy
            · cases list
    refine ⟨t.toTree, (has_collapse List.not_mem_nil here).mpr ⟨_, mem, ?_⟩⟩
    rw [collapseMember_eq, if_pos rfl, list]
    dsimp only
    rw [single, Option.map_some]

/-- What the schema of a method's parameters becomes. -/
theorem sanitize_cases (ok : sanitize g params = .ok t) : t = bareObject ∨
    ∃ root ms type, params = some (.node root) ∧ g.cell? root = some (.obj ms) ∧
      find? ms "type" = some type ∧ g.truthy type ∧ t = removeUnions g root := by
  have bare (ok : Except.ok (ε := SchemaFault) bareObject = .ok t) : t = bareObject :=
    (Except.ok.inj ok).symm
  unfold sanitize at ok
  cases params with
  | none => exact .inl (bare ok)
  | some v =>
    dsimp only at ok
    split at ok
    · exact .inl (bare ok)
    cases v with
    | atom a => cases ok
    | node root =>
      cases object : g.members? (.node root) with
      | none =>
        rw [object] at ok
        cases ok
      | some ms =>
        rw [object] at ok
        dsimp only at ok
        split at ok
        · next type found =>
          split at ok
          · next truthy =>
            exact .inr ⟨root, ms, type, rfl, members?_node.mp object, found, truthy,
              (Except.ok.inj ok).symm⟩
          · exact .inl (bare ok)
        · exact .inl (bare ok)

end Schema

namespace Catalog

variable {allowed : Option (List String)} {resources : Option String} {fs : Files} {c : Catalog}
  {l : Lookups} {methods : List Method} {m : Method} {ids : List String} {id : String}

/-- The schema of a method's parameters in the metadata. -/
structure Describes (l : Lookups) (id : String) (params : Option Value) : Prop where
  shown : id ∉ hidden
  found : ∃ definition properties, find? l.definitions id = some definition ∧
    (l.graph.members? definition).bind (find? · "properties") = some properties ∧
    memberOf l.graph properties "params" = .ok params

theorem describes_of_method? (ok : l.method? id = .ok (some m)) :
    m.id = id ∧ ∃ params, Describes l id params ∧ sanitize l.graph params = .ok m.schema := by
  unfold Lookups.method? at ok
  split at ok
  · cases ok
  · next shown =>
    split at ok
    · cases ok
    · next definition found =>
      split at ok
      · cases ok
      · next properties there =>
        split at ok
        · cases ok
        · split at ok
          · cases ok
          · next params member =>
            split at ok
            · next schema made =>
              obtain rfl := Option.some.inj (Except.ok.inj ok)
              refine ⟨rfl, params, ⟨?_, definition, properties, found, there, member⟩, made⟩
              simpa using shown
            · cases ok

theorem describes_of_methods (ok : l.methods ids = .ok methods) (mem : m ∈ methods) :
    ∃ params, Describes l m.id params ∧ sanitize l.graph params = .ok m.schema := by
  induction ids generalizing methods with
  | nil =>
    obtain rfl := Except.ok.inj ok
    cases mem
  | cons id ids ih =>
    unfold Lookups.methods at ok
    split at ok
    · cases ok
    · exact ih ok mem
    · next first made =>
      split at ok
      · cases ok
      · next rest later =>
        obtain rfl := Except.ok.inj ok
        rcases List.mem_cons.mp mem with rfl | mem
        · obtain ⟨rfl, described⟩ := describes_of_method? made
          exact described
        · exact ih later mem

theorem lookups_of_getMethods
    (got : (create allowed resources).getMethods fs = (c, .ok methods)) :
    ∃ l, c.lookups = some l ∧ ∃ ids, l.methods ids = .ok methods := by
  have start : (create allowed resources).methods = none := rfl
  have cold : (create allowed resources).lookups = none := rfl
  unfold getMethods getLookups at got
  rw [start, cold] at got
  cases read : readLookups fs (create allowed resources).source with
  | error e =>
    rw [read] at got
    cases (Prod.mk.inj got).2
  | ok l =>
    rw [read] at got
    dsimp only at got
    split at got
    · cases (Prod.mk.inj got).2
    · next ms made =>
      obtain ⟨rfl, ok⟩ := Prod.mk.inj got
      obtain rfl := Except.ok.inj ok
      exact ⟨l, rfl, _, made⟩

/-- Every method's schema has one type, and so have the schemas behind its properties and items. The
schema of any object is safe, and one that is made of what the metadata say is safe if and only if
what is kept of that is harmless. -/
theorem schemas_sanitized (got : (create allowed resources).getMethods fs = (c, .ok methods))
    (texts : HasTextOptions c.graph) (mem : m ∈ methods) :
    HasType c.graph m.schema ∧
    (∀ u, ReflTransGen (Below c.graph) m.schema u → HasSingleTypes c.graph u) ∧
    (m.schema.IsFinite c.graph ↔ ∃ j, m.schema.toJson? c.graph = some j) ∧
    (m.schema = bareObject ∧ IsSafe c.graph m.schema ∨
      ∃ l root, c.lookups = some l ∧ Describes l m.id (some (.node root)) ∧
        m.schema = removeUnions c.graph root ∧
        (IsSafe c.graph m.schema ↔ IsHarmless c.graph root)) := by
  obtain ⟨l, loaded, ids, made⟩ := lookups_of_getMethods got
  have graph : c.graph = l.graph := by
    rw [Catalog.graph, loaded]
    rfl
  obtain ⟨params, described, ok⟩ := describes_of_methods made mem
  rw [← graph] at ok
  have written : m.schema.IsFinite c.graph ↔ ∃ j, m.schema.toJson? c.graph = some j := by
    rw [Tree.isFinite_iff, Option.isSome_iff_exists]
  rcases sanitize_cases ok with bare | ⟨root, ms, type, rfl, here, found, truthy, clean⟩
  · have safe := isSafe_bareObject (g := c.graph)
    rw [← bare] at safe
    refine ⟨safe.type, ?_, written, .inl ⟨bare, safe⟩⟩
    intro u way
    exact safe.unions u (reflTransGen_contains way)
  · have single : ∀ u, ReflTransGen (Below c.graph) m.schema u → HasSingleTypes c.graph u := by
      intro u way
      rw [clean] at way
      exact hasSingleTypes_below texts ⟨ms, here⟩ way
    have typed : HasType c.graph m.schema := by
      refine ⟨?_, single _ .refl⟩
      rw [clean]
      exact has_type_collapse here found truthy
    refine ⟨typed, single, written, .inr ⟨l, root, loaded, described, clean, ?_⟩⟩
    constructor
    · rintro ⟨-, finite, unions⟩
      rw [clean] at finite unions
      exact ⟨(isFinite_removeUnions texts here).mp finite,
        (hasNoUnions_removeUnions texts here).mp unions⟩
    · rintro ⟨finite, unions⟩
      refine ⟨typed, ?_, ?_⟩
      · rw [clean]
        exact (isFinite_removeUnions texts here).mpr finite
      · rw [clean]
        exact (hasNoUnions_removeUnions texts here).mpr unions

/-! ## A list of types that is kept -/

/-- The types of the first alternative of a schema, if they are a list. -/
def firstTypes? (g : Graph) (t : Tree) : Option (List Tree) := do
  let ms ← t.members? g
  let options ← find? ms "anyOf"
  let items ← options.items? g
  let option ← items.head?
  let ms ← option.members? g
  let type ← find? ms "type"
  type.items? g

theorem not_isSafe_of_firstTypes? {g : Graph} {t : Tree} (list : (firstTypes? g t).isSome) :
    ¬ IsSafe g t := by
  intro safe
  obtain ⟨types, list⟩ := Option.isSome_iff_exists.mp list
  simp only [firstTypes?, Option.bind_eq_bind, Option.bind_eq_some_iff] at list
  obtain ⟨ms, object, options, anyOf, items, array, option, first, ms', object', type, found,
    list⟩ := list
  have keyword : "anyOf" ∈ ["anyOf", "oneOf", "allOf"] := List.mem_cons_self
  have aside : Aside g t option :=
    .alternative keyword ⟨ms, object, mem_of_find? anyOf⟩ array (List.mem_of_head? first)
  have single := safe.unions option (.single (.aside aside)) type ⟨ms', object', mem_of_find? found⟩
  rw [list] at single
  cases single

/-- Metadata of one method. Its parameters may be an object or nothing, and are one of several
things, the first of which may be a text or nothing. -/
def metadata : Files :=
  let orNull (type : String) : Json := .arr [.str type, .str "null"]
  let params := Json.obj [("type", orNull "object"),
    ("anyOf", .arr [.obj [("type", orNull "string")]])]
  let schema := Json.obj [("definitions", .obj [("M", .obj [("properties", .obj [
    ("method", .obj [("enum", .arr [.str "m"])]), ("params", params)])])])]
  .ofList [("/res/metaModel.json", .file (Json.obj []).compact.toUTF8.toList),
    ("/res/protocol.schema.json", .file schema.compact.toUTF8.toList)] "/"

theorem getMethods_metadata : ∃ c m,
    (create (some ["m"]) (some "/res")).getMethods metadata = (c, .ok [m]) ∧
      HasTextOptions c.graph ∧ (firstTypes? c.graph m.schema).isSome := by
  have facts : (let r := (create (some ["m"]) (some "/res")).getMethods metadata
      r.1.graph.cells.toList.all (textOptions r.1.graph) && r.2.toOption.any fun ms =>
        ms.length == 1 && ms.all fun m => (firstTypes? r.1.graph m.schema).isSome) = true := by
    decide +kernel
  cases got : (create (some ["m"]) (some "/res")).getMethods metadata with
  | mk c r =>
    rw [got] at facts
    obtain ⟨texts, rest⟩ := Bool.and_eq_true_iff.mp facts
    cases r with
    | error e => cases rest
    | ok ms =>
      obtain ⟨one, all⟩ := Bool.and_eq_true_iff.mp rest
      obtain ⟨m, rfl⟩ := List.length_eq_one_iff.mp (beq_iff_eq.mp one)
      exact ⟨c, m, rfl, hasTextOptions_of_all texts, List.all_eq_true.mp all m List.mem_cons_self⟩

theorem schemas_sanitized_metadata : ∃ c m,
    (create (some ["m"]) (some "/res")).getMethods metadata = (c, .ok [m]) ∧
      HasTextOptions c.graph ∧ m ∈ [m] ∧ HasType c.graph m.schema := by
  obtain ⟨c, m, got, texts, -⟩ := getMethods_metadata
  have mem := List.mem_singleton_self m
  exact ⟨c, m, got, texts, mem, (schemas_sanitized got texts mem).1⟩

theorem alternative_keeps_union : ∃ c m,
    (create (some ["m"]) (some "/res")).getMethods metadata = (c, .ok [m]) ∧
      HasTextOptions c.graph ∧ ¬ IsSafe c.graph m.schema := by
  obtain ⟨c, m, got, texts, list⟩ := getMethods_metadata
  exact ⟨c, m, got, texts, not_isSafe_of_firstTypes? list⟩

end Catalog

end LspGateway
