import Mathlib.Data.List.Forall2
import LspGateway.Proofs.Catalog.Shape
import LspGateway.Proofs.Json.Spelling

/-! # What the catalog lists

A list of methods is joined of two documents. The requests say in which order methods come and what
is told of them, the definitions which of them can be exposed; of each document the last word on a
method counts. Whatever a catalog has kept is what it would read again, so every query is answered
as by a new catalog.
-/

namespace LspGateway
open Schema

namespace Catalog

variable {α : Type} {fs : Files} {source : Source} {path id : String} {g : Graph} {d root : Value}
  {ds : List Value} {l : Lookups} {entry : Json} {entries : List Json} {ids : List String}
  {definitions : List (String × Value)}

/-! ## Definitions -/

/-- The properties of a definition. -/
def properties? (g : Graph) (definition : Value) : Option (List (String × Value)) :=
  ((g.members? definition).bind (find? · "properties")).bind g.members?

/-- The method that a definition is for: the only choice that its properties leave. -/
def method? (g : Graph) (definition : Value) : Option String :=
  let method := (properties? g definition).bind (find? · "method")
  match ((method.bind g.members?).bind (find? · "enum")).bind g.items? with
  | some [choice] => some (g.plain choice)
  | _ => none

/-- The last definition that is for a method. -/
def definitionFor? (g : Graph) (definitions : List Value) (id : String) : Option Value :=
  definitions.reverse.find? (method? g · == some id)

theorem memberOf_eq_ok {v : Value} {name : String} {x : Option Value} :
    memberOf g v name = .ok x ↔ ∃ ms, g.members? v = some ms ∧ find? ms name = x := by
  rw [memberOf]
  cases g.members? v <;> simp

/-- A definition that can be read is for the method that is read. -/
theorem method?_of_methodOf {m : Option String} (read : methodOf g d = .ok m) :
    method? g d = m := by
  unfold methodOf at read
  obtain ⟨properties, first, read⟩ := bind_eq_ok.mp read
  obtain ⟨ms, object, rfl⟩ := memberOf_eq_ok.mp first
  rw [method?, properties?, object, Option.bind_some]
  cases found : find? ms "properties" with
  | none =>
    rw [found] at read
    exact Except.ok.inj read
  | some properties =>
    rw [found] at read
    obtain ⟨method, second, read⟩ := bind_eq_ok.mp read
    obtain ⟨ps, object', rfl⟩ := memberOf_eq_ok.mp second
    rw [Option.bind_some, object', Option.bind_some]
    cases found' : find? ps "method" with
    | none =>
      rw [found'] at read
      exact Except.ok.inj read
    | some method =>
      rw [found'] at read
      obtain ⟨choices, third, read⟩ := bind_eq_ok.mp read
      obtain ⟨es, object'', rfl⟩ := memberOf_eq_ok.mp third
      rw [Option.bind_some, object'', Option.bind_some]
      cases found'' : find? es "enum" with
      | none =>
        rw [found''] at read
        exact Except.ok.inj read
      | some choices =>
        rw [found''] at read
        dsimp only at read
        rw [Option.bind_some]
        rcases list : g.items? choices with _ | (_ | ⟨choice, _ | ⟨other, rest⟩⟩) <;>
        · rw [list] at read
          exact Except.ok.inj read

theorem find?_definitionsOf (read : definitionsOf g ds = .ok definitions) :
    find? definitions id = definitionFor? g ds id := by
  induction ds generalizing definitions with
  | nil =>
    obtain rfl := Except.ok.inj read
    rfl
  | cons d ds ih =>
    unfold definitionsOf at read
    obtain ⟨m, method, read⟩ := bind_eq_ok.mp read
    obtain ⟨rest, others, read⟩ := bind_eq_ok.mp read
    have ih := ih others
    have split : definitionFor? g (d :: ds) id =
        (definitionFor? g ds id).or ([d].find? (method? g · == some id)) := by
      rw [definitionFor?, definitionFor?, List.reverse_cons, List.find?_append]
    rw [split, ← ih, List.find?_singleton, method?_of_methodOf method]
    cases m with
    | none =>
      obtain rfl := Except.ok.inj read
      simp
    | some name =>
      obtain rfl := Except.ok.inj read
      by_cases same : name = id
      · subst same
        cases found : find? rest name with
        | none => simp [find?]
        | some later => simp [found]
      · have other : (some name == some id) = false := by simpa using same
        rw [other, if_neg Bool.false_ne_true, Option.or_none]
        split
        · rfl
        · rw [find?, List.find?_cons_of_neg (by simpa using same)]
          rfl

/-- The definitions in a schema document, one after another. -/
def Defines (g : Graph) (root : Value) (ds : List Value) : Prop :=
  ∃ ms definitions members, g.members? root = some ms ∧
    find? ms "definitions" = some definitions ∧ g.members? definitions = some members ∧
    ds = members.map (·.2)

theorem definedMethods_eq_ok (read : definedMethods path g root = .ok definitions) :
    ∃ ds, Defines g root ds ∧ definitionsOf g ds = .ok definitions := by
  unfold definedMethods at read
  obtain ⟨x, first, read⟩ := bind_eq_ok.mp read
  obtain ⟨ms, object, rfl⟩ := memberOf_eq_ok.mp (shaped_eq_ok.mp first)
  cases found : find? ms "definitions" with
  | none =>
    rw [found] at read
    cases read
  | some ds =>
    rw [found] at read
    dsimp only at read
    split at read
    · cases read
    · cases members : g.members? ds with
      | none =>
        rw [members] at read
        cases read
      | some members' =>
        rw [members] at read
        exact ⟨_, ⟨ms, ds, members', object, found, members, rfl⟩, shaped_eq_ok.mp read⟩

/-! ## Requests -/

/-- The method that a request is for. -/
def name? (entry : Json) : Option String := (entry.get? "method").bind Json.str?

/-- The last request for a method. -/
def requestFor? (entries : List Json) (id : String) : Option Json :=
  entries.reverse.find? (name? · == some id)

/-- The text that documents a request, which is empty if there is none. -/
def documentation (entry : Json) : String :=
  ((entry.get? "documentation").bind Json.str?).getD ""

/-- What documents a request, if anything does, is a text. -/
def IsDocumented (entry : Json) : Prop :=
  ∀ j, entry.get? "documentation" = some j → ∃ s, j = .str s

theorem describedRequest_eq_ok {m d : Json} (read : describedRequest entry = .ok (m, d)) :
    entry.get? "method" = some m ∧ d = (entry.get? "documentation").getD (.str "") := by
  unfold describedRequest at read
  split at read
  · next ms =>
    split at read
    · cases read
    · next method found =>
      obtain ⟨key, asKey, read⟩ := bind_eq_ok.mp read
      obtain ⟨rfl, rfl⟩ := Prod.mk.inj (Except.ok.inj read)
      refine ⟨?_, rfl⟩
      rw [Json.get?, found]
      cases method <;> cases asKey <;> rfl
  · cases read

theorem plain_documentation (documented : IsDocumented entry) :
    ((entry.get? "documentation").getD (.str "")).plain = documentation entry := by
  unfold documentation
  cases found : entry.get? "documentation" with
  | none => rfl
  | some j =>
    obtain ⟨s, rfl⟩ := documented j found
    rfl

/-- The requests for methods, with what documents them. -/
theorem named_eq {described : List (Json × Json)}
    (read : entries.mapM describedRequest = .ok described) :
    named described = entries.filterMap fun entry =>
      (name? entry).map (·, (entry.get? "documentation").getD (.str "")) := by
  induction entries generalizing described with
  | nil =>
    obtain rfl := Except.ok.inj read
    rfl
  | cons entry entries ih =>
    rw [List.mapM_cons] at read
    obtain ⟨⟨m, d⟩, first, read⟩ := bind_eq_ok.mp read
    obtain ⟨rest, others, read⟩ := bind_eq_ok.mp read
    obtain rfl := Except.ok.inj read
    obtain ⟨method, rfl⟩ := describedRequest_eq_ok first
    rw [List.filterMap_cons, ← ih others, name?, method, Option.bind_some, named,
      List.filterMap_cons]
    rfl

/-- The text that tells of a method. -/
def description (entries : List Json) (id : String) : String :=
  "method: " ++ id ++ "\n" ++ ((requestFor? entries id).map documentation).getD ""

theorem find?_named {described : List (Json × Json)}
    (read : entries.mapM describedRequest = .ok described) :
    (Json.Members.ofList (named described)).get? id =
      (requestFor? entries id).map fun entry => (entry.get? "documentation").getD (.str "") := by
  rw [Json.Members.get?_ofList, named_eq read, ← List.filterMap_reverse, requestFor?]
  induction entries.reverse with
  | nil => rfl
  | cons entry rest ih =>
    rw [List.filterMap_cons, List.find?_cons]
    cases name? entry with
    | none => exact ih
    | some name =>
      rw [Option.map_some]
      dsimp only
      by_cases same : name = id
      · subst same
        simp
      · have other : (some name == some id) = false := by simpa using same
        rw [List.find?_cons_of_neg (by simpa using same), ih, other]

/-! ## Both documents together -/

/-- The metadata: the requests, and the definitions with the graph that they stand in. -/
structure Metadata (fs : Files) (source : Source) (entries : List Json) (g : Graph)
    (ds : List Value) : Prop where
  requests : ∃ ms, readModel fs source = .ok (.obj ms) ∧
    entriesOf ((Json.Members.get? ms "requests").getD (.arr [])) = .ok entries
  definitions : ∃ j root, readSchema fs source = .ok j ∧
    (Document.ofJson j).resolved = .ok (g, root) ∧ Defines g root ds

/-- The lookups hold what requests and definitions say. -/
structure Lookups.Joins (l : Lookups) (entries : List Json) (ds : List Value) : Prop where
  order : l.order = entries.filterMap name?
  documentation : ∀ id, l.documentation.get? id =
    (requestFor? entries id).map fun entry => (entry.get? "documentation").getD (.str "")
  definitions : ∀ id, find? l.definitions id = definitionFor? l.graph ds id

theorem readLookups_joins (read : readLookups fs source = .ok l) :
    ∃ entries ds, Metadata fs source entries l.graph ds ∧ l.Joins entries ds := by
  unfold readLookups at read
  obtain ⟨model, first, read⟩ := bind_eq_ok.mp read
  obtain ⟨ms, object, rest⟩ := bind_eq_ok.mp read
  obtain rfl := asObject_eq_ok.mp (shaped_eq_ok.mp object)
  obtain ⟨schema, second, read⟩ := bind_eq_ok.mp rest
  cases resolved : (Document.ofJson schema).resolved with
  | error e =>
    rw [resolved] at read
    cases read
  | ok r =>
    obtain ⟨g, root⟩ := r
    rw [resolved] at read
    change (definedMethods (source.path schemaName) g root >>= _) = _ at read
    obtain ⟨definitions, defined, rest⟩ := bind_eq_ok.mp read
    obtain ⟨entries, listed, last⟩ := bind_eq_ok.mp rest
    obtain ⟨described, read', made⟩ := bind_eq_ok.mp last
    obtain rfl := Except.ok.inj made
    obtain ⟨ds, defines, named⟩ := definedMethods_eq_ok defined
    have told := shaped_eq_ok.mp read'
    refine ⟨entries, ds, ?_, ?_, fun id => find?_named told, fun id => find?_definitionsOf named⟩
    · exact ⟨⟨ms, first, shaped_eq_ok.mp listed⟩, schema, root, second, resolved, defines⟩
    rw [named_eq told, List.map_filterMap]
    refine List.filterMap_congr fun entry _ => ?_
    cases name? entry <;> rfl

variable {m : Method} {list : List Method}

theorem Lookups.Joins.describe (joins : l.Joins entries ds)
    (documented : ∀ entry ∈ entries, IsDocumented entry) :
    l.describe id = description entries id := by
  rw [Lookups.describe, description, joins.documentation]
  cases found : requestFor? entries id with
  | none => rfl
  | some entry =>
    have mem := List.mem_reverse.mp (List.mem_of_find?_eq_some found)
    rw [Option.map_some, Option.getD_some, plain_documentation (documented entry mem)]
    rfl

/-- The properties of the definition for a method. -/
def propertiesFor? (g : Graph) (ds : List Value) (id : String) : Option (List (String × Value)) :=
  (definitionFor? g ds id).bind (properties? g)

/-- A method is not hidden, and its definition has properties. -/
def isExposed (g : Graph) (ds : List Value) (id : String) : Bool :=
  !hidden.contains id && (propertiesFor? g ds id).any fun ps => !ps.isEmpty

/-- What the definition for a method says of its parameters. -/
def params? (g : Graph) (ds : List Value) (id : String) : Option Value :=
  (propertiesFor? g ds id).bind (find? · "params")

/-- A definition for a method names it by its properties. -/
theorem properties?_of_method? (names : method? g d = some id) :
    ∃ p ps, (g.members? d).bind (find? · "properties") = some p ∧ g.members? p = some ps ∧ ps ≠ [] ∧
      properties? g d = some ps := by
  unfold method? at names
  dsimp only at names
  split at names
  · next choice one =>
    obtain ⟨choices, found, -⟩ := Option.bind_eq_some_iff.mp one
    obtain ⟨es, members, -⟩ := Option.bind_eq_some_iff.mp found
    obtain ⟨method, named, -⟩ := Option.bind_eq_some_iff.mp members
    obtain ⟨ps, object, here⟩ := Option.bind_eq_some_iff.mp named
    obtain ⟨p, there, object'⟩ := Option.bind_eq_some_iff.mp object
    refine ⟨p, ps, there, object', ?_, object⟩
    rintro rfl
    cases here
  · cases names

theorem truthy_of_members? {v : Value} {ps : List (String × Value)}
    (object : g.members? v = some ps) (some : ps ≠ []) : g.truthy v = true := by
  cases v with
  | atom a => cases object
  | node id =>
    rw [Graph.truthy, members?_node.mp object]
    simpa [Cell.values] using some

/-- What is made of a candidate. -/
theorem Lookups.Joins.method? (joins : l.Joins entries ds) : l.method? id =
    if isExposed l.graph ds id then
      match sanitize l.graph (params? l.graph ds id) with
      | .ok schema => .ok (some ⟨id, l.describe id, schema⟩)
      | .error _ => .error (.misshapen (.noMembers
          (((params? l.graph ds id).map (kindOf l.graph)).getD .null)))
    else .ok none := by
  rw [Lookups.method?, isExposed, params?, propertiesFor?, joins.definitions]
  cases hidden.contains id with
  | true => rfl
  | false =>
    cases found : definitionFor? l.graph ds id with
    | none => rfl
    | some d =>
      have names := List.find?_some found
      obtain ⟨p, ps, there, object, some, properties⟩ :=
        properties?_of_method? (beq_iff_eq.mp names)
      have full : ps.isEmpty = false := by simpa using some
      have truthy := truthy_of_members? object some
      simp only [Bool.false_eq_true, if_false, Option.bind_some, there, properties, memberOf,
        object, truthy, Bool.not_true, Bool.not_false, Bool.true_and, Option.any_some, full,
        if_true]
      cases sanitize l.graph (find? ps "params") with
      | ok t => rfl
      | error fault => cases fault; rfl

/-- A method as it is listed. -/
structure IsListed (g : Graph) (entries : List Json) (ds : List Value) (id : String) (m : Method) :
    Prop where
  same : m.id = id
  told : m.description = description entries id
  made : sanitize g (params? g ds id) = .ok m.schema

theorem exists_isListed : (∃ m, IsListed g entries ds id m) ↔ ParamsShaped g (params? g ds id) := by
  rw [← sanitize_ok]
  constructor
  · rintro ⟨m, listed⟩
    exact ⟨_, listed.made⟩
  · rintro ⟨t, made⟩
    exact ⟨⟨id, description entries id, t⟩, rfl, rfl, made⟩

theorem exists_forall₂ {β : Type} {R : α → β → Prop} {xs : List α} :
    (∃ ys, List.Forall₂ R xs ys) ↔ ∀ x ∈ xs, ∃ y, R x y := by
  induction xs with
  | nil => exact ⟨fun _ => nofun, fun _ => ⟨[], .nil⟩⟩
  | cons x xs ih =>
    rw [List.forall_mem_cons, ← ih]
    constructor
    · rintro ⟨_, _ | ⟨first, rest⟩⟩
      exact ⟨⟨_, first⟩, _, rest⟩
    · rintro ⟨⟨y, first⟩, ys, rest⟩
      exact ⟨y :: ys, .cons first rest⟩

/-- The candidates that are exposed are listed in their order, and nothing else is. -/
theorem Lookups.Joins.methods (joins : l.Joins entries ds)
    (documented : ∀ entry ∈ entries, IsDocumented entry) : l.methods ids = .ok list ↔
      List.Forall₂ (IsListed l.graph entries ds) (ids.filter (isExposed l.graph ds)) list := by
  induction ids generalizing list with
  | nil =>
    rw [Lookups.methods, List.filter_nil, List.forall₂_nil_left_iff, Except.ok.injEq, eq_comm]
  | cons id ids ih =>
    rw [Lookups.methods, joins.method?, List.filter_cons]
    cases isExposed l.graph ds id with
    | false => exact ih
    | true =>
      rw [if_pos rfl, if_pos rfl, List.forall₂_cons_left_iff, joins.describe documented]
      cases made : sanitize l.graph (params? l.graph ds id) with
      | error fault =>
        refine iff_of_false (fun made => ?_) ?_
        · cases made
        · rintro ⟨m, _, listed, -⟩
          cases made.symm.trans listed.made
      | ok schema =>
        have first {m : Method} : IsListed l.graph entries ds id m ↔
            m = ⟨id, description entries id, schema⟩ := by
          constructor
          · rintro ⟨same, told, made'⟩
            rw [← same, ← Except.ok.inj (made'.symm.trans made), same, ← told, ← same]
          · rintro rfl
            exact ⟨rfl, rfl, made⟩
        simp only [first, exists_and_left, exists_eq_left, ← ih]
        cases l.methods ids <;> simp [eq_comm]

/-! ## Queries -/

/-- What a catalog is asked for. -/
inductive Query
  | methods
  | description (id : String)

/-- What a catalog answers. -/
inductive Answer
  | methods (result : Except Error (List Method))
  | description (result : Except Error String)

variable {c : Catalog} {allowed : Option (List String)} {resources : Option String} {e : Error}

/-- A query of a catalog over the files that are there. -/
def ask (c : Catalog) (fs : Files) : Query → Catalog × Answer
  | .methods => ((c.getMethods fs).1, .methods (c.getMethods fs).2)
  | .description id => ((c.describe fs id).1, .description (c.describe fs id).2)

/-- A catalog after queries, each over the files that are there then. -/
def after (c : Catalog) (queries : List (Files × Query)) : Catalog :=
  queries.foldl (fun c q => (c.ask q.1 q.2).1) c

/-- A catalog without what it has kept. -/
def emptied (c : Catalog) : Catalog := { c with lookups := none, methods := none }

/-- Whatever a catalog has kept is what it would make of the files. -/
structure Agrees (fs : Files) (c : Catalog) : Prop where
  lookups : ∀ l, c.lookups = some l → readLookups fs c.source = .ok l
  methods : ∀ ms, c.methods = some ms → ∃ l, c.lookups = some l ∧
    l.methods (c.allowed.getD l.order) = .ok ms

theorem agrees_create : Agrees fs (create allowed resources) := ⟨nofun, nofun⟩

theorem getLookups_error (failed : (c.getLookups fs).2 = .error e) : (c.getLookups fs).1 = c := by
  unfold getLookups at failed ⊢
  cases kept : c.lookups with
  | some l => rfl
  | none =>
    dsimp only
    cases read : readLookups fs c.source with
    | ok l =>
      rw [kept, read] at failed
      cases failed
    | error e => rfl

theorem Agrees.getLookups (agrees : Agrees fs c) : c.getLookups fs =
    match readLookups fs c.source with
    | .ok l => ({ c with lookups := some l }, .ok l)
    | .error e => (c, .error e) := by
  rw [Catalog.getLookups]
  cases kept : c.lookups with
  | none => rfl
  | some l =>
    rw [agrees.lookups l kept]
    dsimp only
    rw [← kept]

theorem Agrees.describe (agrees : Agrees fs c) : c.describe fs id =
    match readLookups fs c.source with
    | .ok l => ({ c with lookups := some l }, .ok (l.describe id))
    | .error e => (c, .error e) := by
  rw [Catalog.describe, agrees.getLookups]
  cases readLookups fs c.source <;> rfl

theorem Agrees.getMethods (agrees : Agrees fs c) : c.getMethods fs =
    match readLookups fs c.source with
    | .ok l =>
      match l.methods (c.allowed.getD l.order) with
      | .ok ms => ({ c with lookups := some l, methods := some ms }, .ok ms)
      | .error e => ({ c with lookups := some l }, .error e)
    | .error e => (c, .error e) := by
  rw [Catalog.getMethods]
  split
  · next ms made =>
    obtain ⟨l, kept, ok⟩ := agrees.methods ms made
    rw [agrees.lookups l kept]
    dsimp only
    rw [ok]
    dsimp only
    rw [← kept, ← made]
  · rw [agrees.getLookups]
    cases readLookups fs c.source with
    | error e => rfl
    | ok l =>
      dsimp only
      cases l.methods (c.allowed.getD l.order) <;> rfl

theorem Agrees.remember (agrees : Agrees fs c) (read : readLookups fs c.source = .ok l) :
    Agrees fs { c with lookups := some l } := by
  constructor
  · intro l' same
    rw [← Option.some.inj same]
    exact read
  · intro ms made
    obtain ⟨l', kept, ok⟩ := agrees.methods ms made
    obtain rfl := Except.ok.inj ((agrees.lookups l' kept).symm.trans read)
    exact ⟨l', rfl, ok⟩

/-- A query is answered as by a new catalog, and what is kept still agrees with the files. -/
theorem Agrees.ask (agrees : Agrees fs c) (q : Query) : Agrees fs (c.ask fs q).1 ∧
    (c.ask fs q).1.emptied = c.emptied ∧ (c.ask fs q).2 = (c.emptied.ask fs q).2 := by
  have empty : Agrees fs c.emptied := ⟨nofun, nofun⟩
  have source : c.emptied.source = c.source := rfl
  have allowed : c.emptied.allowed = c.allowed := rfl
  cases q with
  | description id =>
    rw [Catalog.ask, Catalog.ask, agrees.describe, empty.describe, source]
    cases read : readLookups fs c.source with
    | error e => exact ⟨agrees, rfl, rfl⟩
    | ok l => exact ⟨agrees.remember read, rfl, rfl⟩
  | methods =>
    rw [Catalog.ask, Catalog.ask, agrees.getMethods, empty.getMethods, source, allowed]
    cases read : readLookups fs c.source with
    | error e => exact ⟨agrees, rfl, rfl⟩
    | ok l =>
      dsimp only
      cases made : l.methods (c.allowed.getD l.order) with
      | error e => exact ⟨agrees.remember read, rfl, rfl⟩
      | ok ms =>
        refine ⟨⟨(agrees.remember read).lookups, fun ms' same => ⟨l, rfl, ?_⟩⟩, rfl, rfl⟩
        rw [← Option.some.inj same]
        exact made

/-- After any queries over the same files a query is answered as by a new catalog. -/
theorem ask_after (qs : List Query) (q : Query) :
    (((create allowed resources).after (qs.map (fs, ·))).ask fs q).2 =
      ((create allowed resources).ask fs q).2 := by
  have run (c : Catalog) (agrees : Agrees fs c) : Agrees fs (c.after (qs.map (fs, ·))) ∧
      (c.after (qs.map (fs, ·))).emptied = c.emptied := by
    induction qs generalizing c with
    | nil => exact ⟨agrees, rfl⟩
    | cons q qs ih =>
      obtain ⟨next, same, -⟩ := agrees.ask q
      obtain ⟨last, rest⟩ := ih _ next
      exact ⟨last, rest.trans same⟩
  obtain ⟨agrees, same⟩ := run _ agrees_create
  rw [(agrees.ask q).2.2, same]
  rfl

/-- A catalog that cannot load its metadata is left as it was. -/
theorem ask_error (failed : (c.getLookups fs).2 = .error e) (q : Query) : (c.ask fs q).1 = c := by
  have same := getLookups_error failed
  cases q with
  | description id =>
    rw [Catalog.ask, Catalog.describe]
    generalize c.getLookups fs = r at failed same
    obtain ⟨c', e | l⟩ := r
    · exact same
    · cases failed
  | methods =>
    rw [Catalog.ask, Catalog.getMethods]
    cases c.methods with
    | some ms => rfl
    | none =>
      generalize c.getLookups fs = r at failed same
      obtain ⟨c', e | l⟩ := r
      · exact same
      · cases failed

/-- A list that was made is kept. -/
theorem methods_ask {ms : List Method} (made : c.methods = some ms) (q : Query) :
    (c.ask fs q).1.methods = some ms := by
  have lookups : (c.getLookups fs).1.methods = some ms := by
    rw [Catalog.getLookups]
    cases c.lookups with
    | some l => exact made
    | none => cases readLookups fs c.source <;> exact made
  cases q with
  | description id =>
    rw [Catalog.ask, Catalog.describe]
    generalize c.getLookups fs = r at lookups
    obtain ⟨c', e | l⟩ := r <;> exact lookups
  | methods =>
    rw [Catalog.ask, Catalog.getMethods, made]
    exact made

theorem methods_after {ms : List Method} (made : c.methods = some ms) (qs : List (Files × Query)) :
    (c.after qs).methods = some ms := by
  induction qs generalizing c with
  | nil => exact made
  | cons q qs ih => exact ih (methods_ask made q.2)

theorem methods_of_getMethods {ms : List Method} (made : (c.getMethods fs).2 = .ok ms) :
    (c.getMethods fs).1.methods = some ms := by
  rw [Catalog.getMethods] at made ⊢
  cases kept : c.methods with
  | some ms' =>
    rw [kept] at made
    rw [← Except.ok.inj made]
    exact kept
  | none =>
    rw [kept] at made
    generalize c.getLookups fs = r at made
    obtain ⟨c', e | l⟩ := r
    · cases made
    · dsimp only at made ⊢
      cases listed : l.methods (c'.allowed.getD l.order) with
      | error e =>
        rw [listed] at made
        cases made
      | ok ms' =>
        rw [listed] at made
        rw [← Except.ok.inj made]

theorem getMethods_of_methods {ms : List Method} (made : c.methods = some ms) :
    (c.getMethods fs).2 = .ok ms := by
  rw [Catalog.getMethods, made]

theorem getMethods_create (loaded : ((create allowed resources).getLookups fs).2 = .ok l) :
    ((create allowed resources).getMethods fs).2 = l.methods (allowed.getD l.order) := by
  rw [agrees_create.getLookups] at loaded
  rw [agrees_create.getMethods]
  cases read : readLookups fs (create allowed resources).source with
  | error e =>
    rw [read] at loaded
    cases loaded
  | ok l' =>
    rw [read] at loaded
    obtain rfl := Except.ok.inj loaded
    change (match l'.methods (allowed.getD l'.order) with
      | .ok ms => _
      | .error e => _ : Catalog × Except Error (List Method)).2 = _
    cases l'.methods (allowed.getD l'.order) <;> rfl

theorem loaded_metadata (loaded : ((create allowed resources).getLookups fs).2 = .ok l) :
    ∃ entries ds, Metadata fs (create allowed resources).source entries l.graph ds ∧
      l.Joins entries ds := by
  rw [agrees_create.getLookups] at loaded
  cases read : readLookups fs (create allowed resources).source with
  | error e =>
    rw [read] at loaded
    cases loaded
  | ok l' =>
    rw [read] at loaded
    obtain rfl := Except.ok.inj loaded
    exact readLookups_joins read

/-- What a catalog lists over files that it can load are the exposed candidates in their order, each
told of by the last request for it, and it lists them if and only if what is said of their
parameters can be taken for a schema. Every query is answered as by a new catalog, a list that was
made stays whatever becomes of the files, and a failure to load leaves the catalog as it was. -/
theorem catalog_contents (allowed : Option (List String)) (resources : Option String) :
    let c : Catalog := create allowed resources
    (∀ fs l, (c.getLookups fs).2 = .ok l → ∃ entries ds, Metadata fs c.source entries l.graph ds ∧
      ((∀ entry ∈ entries, IsDocumented entry) →
        let exposed := (allowed.getD (entries.filterMap name?)).filter (isExposed l.graph ds)
        (∀ ms, (c.getMethods fs).2 = .ok ms ↔
          List.Forall₂ (IsListed l.graph entries ds) exposed ms) ∧
        ((∃ ms, (c.getMethods fs).2 = .ok ms) ↔
          ∀ id ∈ exposed, ParamsShaped l.graph (params? l.graph ds id)) ∧
        ∀ id ∈ exposed, id ∉ hidden)) ∧
    (∀ fs (qs : List Query) q, ((c.after (qs.map (fs, ·))).ask fs q).2 = (c.ask fs q).2) ∧
    ∀ earlier fs, let c' := c.after earlier
      (∀ ms, (c'.getMethods fs).2 = .ok ms → ∀ later fs',
        (((c'.getMethods fs).1.after later).getMethods fs').2 = .ok ms) ∧
      ∀ e, (c'.getLookups fs).2 = .error e → ∀ q, (c'.ask fs q).1 = c' := by
  refine ⟨fun fs l loaded => ?_, fun fs qs q => ask_after qs q, fun earlier fs => ⟨?_, ?_⟩⟩
  · obtain ⟨entries, ds, metadata, joins⟩ := loaded_metadata loaded
    refine ⟨entries, ds, metadata, fun documented => ?_⟩
    have lists (ms : List Method) : ((create allowed resources).getMethods fs).2 = .ok ms ↔
        List.Forall₂ (IsListed l.graph entries ds)
          ((allowed.getD (entries.filterMap name?)).filter (isExposed l.graph ds)) ms := by
      rw [getMethods_create loaded, joins.order, joins.methods documented]
    refine ⟨lists, ?_, ?_⟩
    · simp only [lists, exists_forall₂, exists_isListed]
    · intro id mem
      have exposed := (List.mem_filter.mp mem).2
      rw [isExposed, Bool.and_eq_true] at exposed
      simpa using exposed.1
  · intro ms made later fs'
    exact getMethods_of_methods (methods_after (methods_of_getMethods made) later)
  · intro e failed q
    exact ask_error failed q

/-! ## Some metadata -/

/-- The files of metadata. -/
def filesOf (model schema : Json) : Files :=
  .ofList [("/res/metaModel.json", .file model.compact.toUTF8.toList),
    ("/res/protocol.schema.json", .file schema.compact.toUTF8.toList)] "/"

/-- A schema document with one definition, and what that says of the parameters. -/
def defining (method : String) (params : Json) : Json :=
  .obj [("definitions", .obj [("M", .obj [("properties", .obj [
    ("method", .obj [("enum", .arr [.str method])]), ("params", params)])])])]

/-- Two requests for one method, and one that is never exposed. -/
def entriesTwice : List Json := [
  .obj [("method", .str "m"), ("documentation", .str "first")],
  .obj [("method", .str "shutdown")],
  .obj [("method", .str "m"), ("documentation", .str "last")]]

def filesTwice : Files :=
  filesOf (.obj [("requests", .arr entriesTwice)]) (defining "m" .null)

/-- Parameters that are a list. -/
def filesListed : Files := filesOf (.obj [("requests", .arr [])]) (defining "m" (.arr [.int 1]))

theorem exists_ok {ε : Type} {r : Except ε α} (ok : r.toOption.isSome = true) :
    ∃ a, r = .ok a := by
  cases r with
  | error e => cases ok
  | ok a => exact ⟨a, rfl⟩

theorem catalog_contents_twice : ∃ l ds ms,
    ((create none (some "/res")).getLookups filesTwice).2 = .ok l ∧
    ((create none (some "/res")).getMethods filesTwice).2 = .ok ms ∧
    ms.map (fun m => (m.id, m.description)) =
      [("m", "method: m\nlast"), ("m", "method: m\nlast")] ∧
    List.Forall₂ (IsListed l.graph entriesTwice ds)
      ((entriesTwice.filterMap name?).filter (isExposed l.graph ds)) ms := by
  have loads : ((create none (some "/res")).getLookups filesTwice).2.toOption.isSome = true := by
    decide +kernel
  have lists : ((create none (some "/res")).getMethods filesTwice).2.map
      (fun ms => ms.map fun m => (m.id, m.description)) =
        .ok [("m", "method: m\nlast"), ("m", "method: m\nlast")] := by
    decide +kernel
  have model : readModel filesTwice (.directory "/res") =
      .ok (.obj [("requests", .arr entriesTwice)]) := by
    decide +kernel
  obtain ⟨l, loaded⟩ := exists_ok loads
  obtain ⟨entries, ds, metadata, contents⟩ := (catalog_contents none (some "/res")).1 _ l loaded
  obtain ⟨ms, read, named⟩ := metadata.requests
  obtain rfl := Json.obj.inj (Except.ok.inj (model.symm.trans read))
  obtain rfl := Except.ok.inj named
  have documented : ∀ entry ∈ entriesTwice, IsDocumented entry := by
    simp only [entriesTwice, List.forall_mem_cons]
    refine ⟨?_, ?_, ?_, nofun⟩ <;> intro j found <;> cases found <;> exact ⟨_, rfl⟩
  cases got : ((create none (some "/res")).getMethods filesTwice).2 with
  | error e =>
    rw [got] at lists
    cases lists
  | ok ms =>
    rw [got] at lists
    exact ⟨l, ds, ms, loaded, rfl, Except.ok.inj lists, ((contents documented).1 ms).mp got⟩

/-- Metadata that can be loaded do not make a list if parameters are a list. -/
theorem no_methods_of_listed_parameters :
    (∃ l, ((create (some ["m"]) (some "/res")).getLookups filesListed).2 = .ok l) ∧
      ∀ ms, ((create (some ["m"]) (some "/res")).getMethods filesListed).2 ≠ .ok ms := by
  have loads :
      ((create (some ["m"]) (some "/res")).getLookups filesListed).2.toOption.isSome = true := by
    decide +kernel
  have fails :
      ((create (some ["m"]) (some "/res")).getMethods filesListed).2.toOption.isSome = false := by
    decide +kernel
  refine ⟨exists_ok loads, fun ms made => ?_⟩
  rw [made] at fails
  cases fails

end Catalog

end LspGateway
