import LspGateway.Proofs.Catalog.Schemas
import LspGateway.Proofs.Config.Loading

/-! # Metadata that cannot be used

What goes wrong with a list of methods is told as a fault of the configuration where the
metadata cannot be opened, are no JSON, or define nothing. All else is met while the
metadata are taken apart, and is not. So everything is told if and only if whatever is
read of the metadata has the shape that the next step takes it for.
-/

namespace LspGateway
open Schema

theorem bind_eq_ok {ε α β : Type} {x : Except ε α} {f : α → Except ε β} {b : β} :
    x >>= f = .ok b ↔ ∃ a, x = .ok a ∧ f a = .ok b := by
  cases x with
  | error e => exact ⟨nofun, nofun⟩
  | ok a => exact ⟨fun h => ⟨a, rfl, h⟩, fun ⟨_, same, h⟩ => Except.ok.inj same ▸ h⟩

theorem exists_bind_eq_ok {ε α β : Type} {x : Except ε α} {f : α → Except ε β} :
    (∃ b, x >>= f = .ok b) ↔ ∃ a, x = .ok a ∧ ∃ b, f a = .ok b := by
  simp only [bind_eq_ok, ← exists_and_left]
  exact exists_comm

variable {fs : Files} {path : String}

namespace Catalog

variable {α β : Type} {g : Graph} {d root : Value}

/-- What goes wrong, if anything does, is told as a fault of the configuration. -/
def Told (r : Except Error α) : Prop :=
  ∀ e, r = .error e → (CommandLine.configurationFault? (.catalog e)).isSome = true

theorem told_ok {a : α} : Told (.ok a : Except Error α) := nofun

theorem told_error {e : Error} : Told (.error e : Except Error α) ↔
    (CommandLine.configurationFault? (.catalog e)).isSome = true :=
  ⟨fun h => h e rfl, fun h _ same => Except.error.inj same ▸ h⟩

theorem told_bind {x : Except Error α} {f : α → Except Error β} :
    Told (x >>= f) ↔ Told x ∧ ∀ a, x = .ok a → Told (f a) := by
  cases x with
  | error e => exact ⟨fun h => ⟨fun e' same => h e' (by rw [Except.error.inj same]; rfl), nofun⟩,
      fun ⟨h, _⟩ e' same => h e' (by rw [← Except.error.inj same])⟩
  | ok a => exact ⟨fun h => ⟨told_ok, fun _ same => Except.ok.inj same ▸ h⟩, fun ⟨_, h⟩ => h a rfl⟩

/-- A misuse is not told. -/
theorem told_shaped {r : Except Json.Misuse α} : Told (shaped r) ↔ ∃ a, r = .ok a := by
  cases r with
  | ok a => exact ⟨fun _ => ⟨a, rfl⟩, fun _ => told_ok⟩
  | error m => exact ⟨fun h => by simpa [CommandLine.configurationFault?] using h _ rfl, nofun⟩

theorem told_readFile : Told (readFile fs path) ↔ IsLegible id fs path := by
  rw [IsLegible, readsAsText_iff, readFile]
  cases fs.read path with
  | error e => cases e <;> simp [told_error, CommandLine.configurationFault?]
  | ok text =>
    cases parsed : Json.parse text with
    | ok j => simp [parsed, told_ok]
    | error e =>
      cases syntactic : e.isSyntactic <;>
        simp [parsed, syntactic, told_error, CommandLine.configurationFault?]

/-! ## Definitions -/

/-- An object whose properties are an object, and so is what they say of the method. -/
def DefinitionShaped (g : Graph) (d : Value) : Prop :=
  ∃ ms, g.members? d = some ms ∧ ∀ properties, find? ms "properties" = some properties →
    ∃ ps, g.members? properties = some ps ∧ ∀ method, find? ps "method" = some method →
      (g.members? method).isSome = true

/-- A member is asked for only of an object, and what comes next only of a member that is
there. -/
theorem exists_member {v : Value} {name : String} {a : α}
    {f : Value → Except Json.Misuse α} :
    (∃ b, (memberOf g v name >>= fun x => match x with | some x => f x | _ => pure a) = .ok b) ↔
      ∃ ms, g.members? v = some ms ∧ ∀ x, find? ms name = some x → ∃ b, f x = .ok b := by
  rw [exists_bind_eq_ok, memberOf]
  cases g.members? v with
  | none => simp
  | some ms => cases found : find? ms name <;> simp [found, pure, Except.pure]

theorem methodOf_ok : (∃ m, methodOf g d = .ok m) ↔ DefinitionShaped g d := by
  refine exists_member.trans (exists_congr fun ms => and_congr_right fun _ =>
    forall₂_congr fun properties _ => exists_member.trans (exists_congr fun ps =>
      and_congr_right fun _ => forall₂_congr fun method _ => exists_member.trans ?_))
  rw [Option.isSome_iff_exists]
  refine exists_congr fun es => and_iff_left fun choices _ => ?_
  split <;> exact ⟨_, rfl⟩

theorem definitionsOf_ok {ds : List Value} :
    (∃ r, definitionsOf g ds = .ok r) ↔ ∀ d ∈ ds, DefinitionShaped g d := by
  induction ds with
  | nil => simp [definitionsOf]
  | cons d ds ih =>
    rw [definitionsOf, exists_bind_eq_ok, List.forall_mem_cons, ← ih, ← methodOf_ok]
    constructor
    · rintro ⟨m, method, r, rest⟩
      obtain ⟨tail, found, -⟩ := exists_bind_eq_ok.mp ⟨r, rest⟩
      exact ⟨⟨m, method⟩, tail, found⟩
    · rintro ⟨⟨m, method⟩, tail, found⟩
      refine ⟨m, method, exists_bind_eq_ok.mpr ⟨tail, found, ?_⟩⟩
      cases m <;> exact ⟨_, rfl⟩

/-- An object whose definitions, if it has any, are an object of such definitions. -/
def SchemaShaped (g : Graph) (root : Value) : Prop :=
  ∃ ms, g.members? root = some ms ∧ ∀ definitions, find? ms "definitions" = some definitions →
    g.truthy definitions = true → ∃ ds, g.members? definitions = some ds ∧
      ∀ d ∈ ds, DefinitionShaped g d.2

theorem told_noDefinitions : Told (.error (.noDefinitions path) : Except Error α) :=
  told_error.mpr rfl

theorem not_told_misshapen {m : Json.Misuse} : ¬ Told (.error (.misshapen m) : Except Error α) := by
  simp [told_error, CommandLine.configurationFault?]

theorem told_definedMethods : Told (definedMethods path g root) ↔ SchemaShaped g root := by
  rw [SchemaShaped, definedMethods, told_bind, told_shaped, memberOf]
  cases object : g.members? root with
  | none => simp
  | some ms =>
    simp only [shaped, Except.ok.injEq, exists_eq', true_and, forall_eq', Option.some.injEq,
      exists_eq_left']
    cases find? ms "definitions" with
    | none => exact iff_of_true told_noDefinitions (by simp)
    | some definitions =>
      simp only [Option.some.injEq, forall_eq']
      cases truthy : g.truthy definitions with
      | false => exact iff_of_true told_noDefinitions (by simp)
      | true =>
        simp only [Bool.not_true, Bool.false_eq_true, if_false, true_implies]
        cases members : g.members? definitions with
        | none => exact iff_of_false not_told_misshapen (by simp)
        | some ds =>
          simp only [Option.some.injEq, exists_eq_left']
          refine told_shaped.trans (definitionsOf_ok.trans ?_)
          exact List.forall_mem_map

/-! ## Requests -/

/-- An object that names its method by a text, a number, a truth value or a null. -/
def RequestShaped (entry : Json) : Prop :=
  ∃ ms method, entry = .obj ms ∧ Json.Members.get? ms "method" = some method ∧
    (∀ xs, method ≠ .arr xs) ∧ ∀ ms, method ≠ .obj ms

/-- A list of such requests, or an empty object or text in its place. -/
def RequestsShaped (requests : Json) : Prop :=
  (∃ xs, requests = .arr xs ∧ ∀ x ∈ xs, RequestShaped x) ∨ requests = .obj [] ∨ requests = .str ""

theorem describedRequest_ok {entry : Json} :
    (∃ r, describedRequest entry = .ok r) ↔ RequestShaped entry := by
  cases entry with
  | obj ms =>
    cases named : Json.Members.get? ms "method" with
    | none => simp [describedRequest, RequestShaped, named]
    | some method =>
      cases method <;>
        simp [describedRequest, RequestShaped, named, Json.asKey, Bind.bind, Except.bind, pure,
          Except.pure]
  | _ => simp [describedRequest, RequestShaped]

theorem mapM_ok {ε β γ : Type} {f : β → Except ε γ} {xs : List β} :
    (∃ ys, xs.mapM f = .ok ys) ↔ ∀ x ∈ xs, ∃ y, f x = .ok y := by
  induction xs with
  | nil => simp [pure, Except.pure]
  | cons x xs ih =>
    rw [List.mapM_cons, exists_bind_eq_ok, List.forall_mem_cons, ← ih]
    constructor
    · rintro ⟨y, first, r, rest⟩
      obtain ⟨ys, found, -⟩ := exists_bind_eq_ok.mp ⟨r, rest⟩
      exact ⟨⟨y, first⟩, ys, found⟩
    · rintro ⟨⟨y, first⟩, ys, found⟩
      exact ⟨y, first, exists_bind_eq_ok.mpr ⟨ys, found, _, rfl⟩⟩

theorem not_requestShaped_str {s : String} : ¬ RequestShaped (.str s) := by
  rintro ⟨ms, method, same, -⟩
  cases same

theorem requests_ok {requests : Json} :
    (∃ xs, entriesOf requests = .ok xs ∧ ∃ rs, xs.mapM describedRequest = .ok rs) ↔
      RequestsShaped requests := by
  simp only [mapM_ok, describedRequest_ok]
  cases requests with
  | arr xs => simp [entriesOf, RequestsShaped]
  | obj ms =>
    cases ms with
    | nil => simp [entriesOf, RequestsShaped]
    | cons m ms => simp [entriesOf, RequestsShaped, not_requestShaped_str]
  | str s =>
    cases text : s.toList with
    | nil =>
      obtain rfl : s = "" := String.toList_inj.mp text
      simp [entriesOf, RequestsShaped]
    | cons c cs =>
      have full : s ≠ "" := by
        rintro rfl
        cases text
      simp [entriesOf, RequestsShaped, text, full, not_requestShaped_str]
  | _ => simp [entriesOf, RequestsShaped]

/-! ## Parameters -/

/-- Parameters that are missing, count as false, or are an object. -/
def ParamsShaped (g : Graph) (params : Option Value) : Prop :=
  ∀ v, params = some v → g.truthy v = true → (g.members? v).isSome = true

theorem sanitize_ok {params : Option Value} :
    (∃ t, sanitize g params = .ok t) ↔ ParamsShaped g params := by
  cases params with
  | none => simp [sanitize, ParamsShaped]
  | some v =>
    simp only [ParamsShaped, Option.some.injEq, forall_eq', sanitize]
    cases truthy : g.truthy v with
    | false => simp
    | true =>
      simp only [Bool.not_true, Bool.false_eq_true, if_false, true_implies]
      cases v with
      | atom a => simp [Graph.members?]
      | node id =>
        cases object : g.members? (.node id) with
        | none => simp
        | some ms =>
          simp only [Option.isSome_some, iff_true]
          split
          · split <;> exact ⟨_, rfl⟩
          · exact ⟨_, rfl⟩

/-- A candidate whose properties, if it is defined with any, are an object with such
parameters. -/
def CandidateShaped (l : Lookups) (id : String) : Prop :=
  hidden.contains id = false → ∀ definition, find? l.definitions id = some definition →
    ∀ properties, (l.graph.members? definition).bind (find? · "properties") = some properties →
      l.graph.truthy properties = true → ∃ ps, l.graph.members? properties = some ps ∧
        ParamsShaped l.graph (find? ps "params")

theorem told_method? {l : Lookups} {id : String} : Told (l.method? id) ↔ CandidateShaped l id := by
  rw [CandidateShaped, Lookups.method?]
  cases hidden.contains id with
  | true => simpa using told_ok
  | false =>
    simp only [Bool.false_eq_true, if_false, true_implies]
    cases find? l.definitions id with
    | none => simpa using told_ok
    | some definition =>
      simp only [Option.some.injEq, forall_eq']
      cases (l.graph.members? definition).bind (find? · "properties") with
      | none => simpa using told_ok
      | some properties =>
        simp only [Option.some.injEq, forall_eq']
        cases l.graph.truthy properties with
        | false => simpa using told_ok
        | true =>
          simp only [Bool.not_true, Bool.false_eq_true, if_false, true_implies, memberOf]
          cases l.graph.members? properties with
          | none => simpa using not_told_misshapen
          | some ps =>
            simp only [Option.some.injEq, exists_eq_left', ← sanitize_ok]
            cases sanitize l.graph (find? ps "params") with
            | ok schema => simpa using told_ok
            | error fault => cases fault; simpa using not_told_misshapen

theorem misshapen_of_method? {l : Lookups} {id : String} {e : Error}
    (failed : l.method? id = .error e) : ∃ m, e = .misshapen m := by
  unfold Lookups.method? at failed
  repeat' split at failed
  all_goals cases failed
  · exact ⟨_, rfl⟩
  · exact ⟨_, rfl⟩

theorem told_methods {l : Lookups} {ids : List String} :
    Told (l.methods ids) ↔ ∀ id ∈ ids, CandidateShaped l id := by
  induction ids with
  | nil => simpa [Lookups.methods] using told_ok
  | cons id ids ih =>
    rw [List.forall_mem_cons, ← ih, ← told_method?, Lookups.methods]
    cases made : l.method? id with
    | error e =>
      obtain ⟨m, rfl⟩ := misshapen_of_method? made
      exact iff_of_false not_told_misshapen fun ⟨told, _⟩ => not_told_misshapen told
    | ok m =>
      rw [and_iff_right told_ok]
      cases m with
      | none => rfl
      | some m => cases l.methods ids <;> simp [told_ok, told_error]

/-! ## The catalog -/

/-- The file with this name, if the metadata come from a directory. -/
def Source.IsLegible (fs : Files) (name : String) : Source → Prop
  | .bundled => True
  | .directory path => LspGateway.IsLegible id fs (Path.child (Path.tidy path) name)

theorem told_readModel {source : Source} :
    Told (readModel fs source) ↔ source.IsLegible fs modelName := by
  cases source with
  | bundled => exact iff_of_true told_ok trivial
  | directory path => exact told_readFile

theorem told_readSchema {source : Source} :
    Told (readSchema fs source) ↔ source.IsLegible fs schemaName := by
  cases source with
  | bundled => exact iff_of_true told_ok trivial
  | directory path => exact told_readFile

/-- A schema whose references are resolved and whose definitions have their shape. If there
are any, so do the requests. -/
def JoinShaped (path : String) (requests schema : Json) : Prop :=
  ∃ r, (Document.ofJson schema).resolved = .ok r ∧ SchemaShaped r.1 r.2 ∧
    ∀ ds, definedMethods path r.1 r.2 = .ok ds → RequestsShaped requests

/-- Metadata each of whose parts has the shape that it is taken for, as far as it comes to
that: what comes after a part that is missing does not matter. -/
structure MetadataShaped (fs : Files) (source : Source) : Prop where
  model : source.IsLegible fs modelName
  object : ∀ model, readModel fs source = .ok model → ∃ ms, model = .obj ms
  schema : ∀ ms, readModel fs source = .ok (.obj ms) → source.IsLegible fs schemaName
  join : ∀ ms schema, readModel fs source = .ok (.obj ms) → readSchema fs source = .ok schema →
    JoinShaped (source.path schemaName) ((Json.Members.get? ms "requests").getD (.arr [])) schema

theorem asObject_eq_ok {j : Json} {ms : Json.Members} : j.asObject = .ok ms ↔ j = .obj ms := by
  cases j <;> simp [Json.asObject]

theorem shaped_eq_ok {r : Except Json.Misuse α} {a : α} : shaped r = .ok a ↔ r = .ok a := by
  cases r <;> simp [shaped]

/-- Taking the requests apart after the definitions. -/
theorem told_described {requests : Json} {f : List Json → List (Json × Json) → α} :
    Told (do
      let entries ← shaped (entriesOf requests)
      let described ← shaped (entries.mapM describedRequest)
      pure (f entries described)) ↔ RequestsShaped requests := by
  rw [told_bind, told_shaped, ← requests_ok]
  constructor
  · rintro ⟨⟨xs, entries⟩, rest⟩
    have rest := rest xs (shaped_eq_ok.mpr entries)
    rw [told_bind, told_shaped] at rest
    exact ⟨xs, entries, rest.1⟩
  · rintro ⟨xs, entries, described⟩
    refine ⟨⟨xs, entries⟩, fun ys same => ?_⟩
    obtain rfl := Except.ok.inj (entries.symm.trans (shaped_eq_ok.mp same))
    exact told_bind.mpr ⟨told_shaped.mpr described, fun _ _ => told_ok⟩

/-- Joining both documents once they are read. -/
theorem told_joined {requests schema : Json} {f : Graph × Value → List (String × Value) →
      List Json → List (Json × Json) → α} :
    Told (do
      let r ←
        match (Document.ofJson schema).resolved with
        | .ok r => Except.ok r
        | .error e => throw (Error.unresolved e)
      let definitions ← definedMethods path r.1 r.2
      let entries ← shaped (entriesOf requests)
      let described ← shaped (entries.mapM describedRequest)
      pure (f r definitions entries described)) ↔ JoinShaped path requests schema := by
  rw [JoinShaped]
  cases (Document.ofJson schema).resolved with
  | error e =>
    refine iff_of_false (fun told => ?_) nofun
    simpa [CommandLine.configurationFault?] using told _ rfl
  | ok r =>
    simp only [Except.ok.injEq, exists_eq_left']
    have defined : Told (definedMethods path r.1 r.2) ↔ SchemaShaped r.1 r.2 := told_definedMethods
    rw [← defined]
    exact (told_bind (x := definedMethods path r.1 r.2)).trans
      (and_congr_right fun _ => forall₂_congr fun ds _ => told_described)

theorem told_readLookups {source : Source} :
    Told (readLookups fs source) ↔ MetadataShaped fs source := by
  have steps : Told (readLookups fs source) ↔ source.IsLegible fs modelName ∧
      ∀ model, readModel fs source = .ok model → (∃ ms, model.asObject = .ok ms) ∧
        ∀ ms, shaped model.asObject = .ok ms → source.IsLegible fs schemaName ∧
          ∀ schema, readSchema fs source = .ok schema → JoinShaped (source.path schemaName)
            ((Json.Members.get? ms "requests").getD (.arr [])) schema :=
    told_bind.trans (and_congr told_readModel (forall₂_congr fun model _ =>
      told_bind.trans (and_congr told_shaped (forall₂_congr fun ms _ =>
        told_bind.trans (and_congr told_readSchema (forall₂_congr fun schema _ =>
          told_joined))))))
  simp only [shaped_eq_ok, asObject_eq_ok] at steps
  rw [steps]
  constructor
  · rintro ⟨model, rest⟩
    refine ⟨model, fun j read => (rest j read).1, fun ms read => ((rest _ read).2 ms rfl).1,
      fun ms schema read => ((rest _ read).2 ms rfl).2 schema⟩
  · intro h
    refine ⟨h.model, fun j read => ⟨h.object j read, ?_⟩⟩
    rintro ms rfl
    exact ⟨h.schema ms read, fun schema => h.join ms schema read⟩

theorem told_getLookups {c : Catalog} :
    Told (c.getLookups fs).2 ↔ (c.lookups = none → MetadataShaped fs c.source) := by
  rw [Catalog.getLookups]
  cases c.lookups with
  | some l => exact iff_of_true told_ok nofun
  | none =>
    simp only [true_implies, ← told_readLookups]
    cases readLookups fs c.source <;> rfl

theorem allowed_getLookups (c : Catalog) (fs : Files) :
    (c.getLookups fs).1.allowed = c.allowed := by
  rw [Catalog.getLookups]
  cases c.lookups with
  | some l => rfl
  | none => cases readLookups fs c.source <;> rfl

/-- Whatever goes wrong with the list of methods is told as a fault of the configuration if
and only if the metadata, where they are read, and the candidates have their shape. -/
theorem told_getMethods {c : Catalog} : Told (c.getMethods fs).2 ↔
    (c.methods = none → (c.lookups = none → MetadataShaped fs c.source) ∧
      ∀ l, (c.getLookups fs).2 = .ok l → ∀ id ∈ c.allowed.getD l.order, CandidateShaped l id) := by
  rw [Catalog.getMethods, ← told_getLookups]
  cases c.methods with
  | some ms => exact iff_of_true told_ok nofun
  | none =>
    simp only [true_implies]
    have allowed := allowed_getLookups c fs
    generalize c.getLookups fs = r at allowed
    obtain ⟨c', e | l⟩ := r
    · simp [told_error]
    · have told : Told (.ok l : Except Error Lookups) := told_ok
      simp only [told, true_and, Except.ok.injEq, forall_eq', ← told_methods]
      dsimp only at allowed
      rw [← allowed]
      cases l.methods (c'.allowed.getD l.order) <;> simp [told_ok, told_error]

end Catalog

end LspGateway
