import LspGateway.Gateway.Toolset
import Mathlib.Data.List.Nodup

/-! # The registered tools

Every tool under a name is the only one under it. The tools besides the two that the gateway
brings along stand for methods, and if there are several servers, each of them lists the ids of
all servers as the choices of its server property.
-/

namespace LspGateway.Gateway
open Schema (Tree Graph)

variable {g : Graph} {r : Roster} {tools : Tools} {tool : Tool Action} {methods : List Method}
  {m : Method} {key : String} {t : Tree}

/-! ## Names -/

/-- No two tools have one name. -/
def Apart (tools : Tools) : Prop := (tools.map (·.id)).Nodup

/-- Every tool is found under its name. -/
theorem Apart.find (apart : Apart tools) (mem : tool ∈ tools) :
    Registry.find tools tool.id = .ok tool := by
  have found : Registry.get? tools tool.id = some tool := by
    induction tools with
    | nil => cases mem
    | cons first rest ih =>
      obtain ⟨new, rest'⟩ := List.nodup_cons.mp apart
      rcases List.mem_cons.mp mem with rfl | mem
      · simp [Registry.get?]
      · have other : first.id ≠ tool.id := by
          intro e
          exact new (List.mem_map.mpr ⟨tool, mem, e.symm⟩)
        have later := ih rest' mem
        simpa [Registry.get?, other] using later
  rw [Registry.find, found]

/-- The tools have names of their own, and something holds of each of them. -/
structure Collects (P : Tool Action → Prop) (tools : Tools) : Prop where
  apart : Apart tools
  each : ∀ tool ∈ tools, P tool

theorem collects_nil (P : Tool Action → Prop) : Collects P [] := by
  constructor
  · exact List.nodup_nil
  · intro tool mem
    cases mem

theorem Collects.register {P : Tool Action → Prop} (h : Collects P tools) (fits : P tool) :
    Collects P (register tools tool).1 := by
  unfold Gateway.register Registry.register Registry.get?
  by_cases taken : (tools.find? (·.id == tool.id)).isSome
  · rw [if_pos taken]
    exact h
  · rw [if_neg taken]
    rw [Option.not_isSome_iff_eq_none, List.find?_eq_none] at taken
    constructor
    · unfold Apart
      rw [List.map_append, List.map_singleton, List.nodup_append]
      refine ⟨h.apart, List.nodup_singleton _, ?_⟩
      intro a mem b mem' e
      obtain ⟨other, here, rfl⟩ := List.mem_map.mp mem
      rw [List.mem_singleton.mp mem'] at e
      exact taken other here (by simpa using e)
    · intro other mem
      rcases List.mem_append.mp mem with old | new
      · exact h.each other old
      · rw [List.mem_singleton.mp new]
        exact fits

/-! ## The tools of methods -/

/-- The tool of a method. -/
structure Exposes (g : Graph) (r : Roster) (m : Method) (tool : Tool Action) : Prop where
  id : tool.id = toolId m.id
  handler : tool.handler = .forward m.id
  schema : toolSchema g r m.schema = .ok tool.schema

theorem Collects.registerMethods {P : Tool Action → Prop} (h : Collects P tools)
    (fits : ∀ m ∈ methods, ∀ tool, Exposes g r m tool → P tool) :
    Collects P (registerMethods g r tools methods).1 := by
  induction methods generalizing tools with
  | nil => exact h
  | cons m ms ih =>
    unfold Gateway.registerMethods
    split
    · exact h
    · next schema made =>
      have step := h.register (fits m List.mem_cons_self
        ⟨toolId m.id, m.description, schema, .forward m.id⟩ ⟨rfl, rfl, made⟩)
      split
      · next tools' e refused =>
        rw [refused] at step
        exact step
      · next tools' added =>
        rw [added] at step
        exact ih step fun m' mem => fits m' (List.mem_cons_of_mem _ mem)

theorem Collects.registerAll {P : Tool Action → Prop} (h : Collects P tools)
    (describes : P describeServers) (opens : P openContents)
    (fits : ∀ m ∈ methods, ∀ tool, Exposes g r m tool → P tool) :
    Collects P (registerAll g r methods tools).1 := by
  unfold Gateway.registerAll
  have first := h.register describes
  split
  · next tools' e refused =>
    rw [refused] at first
    exact first
  · next tools₁ added =>
    rw [added] at first
    have second := first.register opens
    split
    · next tools' e refused =>
      rw [refused] at second
      exact second
    · next tools₂ added =>
      rw [added] at second
      refine second.registerMethods fun m mem => fits m ?_
      exact List.mem_mergeSort.mp mem

/-- What a registered tool may be: one of the gateway's own, or that of a method. -/
inductive Kinds (g : Graph) (r : Roster) (methods : List Method) : Tool Action → Prop
  | describes : Kinds g r methods describeServers
  | opens : Kinds g r methods openContents
  | exposes {m : Method} {tool : Tool Action} (mem : m ∈ methods) (exposes : Exposes g r m tool) :
    Kinds g r methods tool

theorem collects_registerAll (g : Graph) (r : Roster) (methods : List Method) :
    Collects (Kinds g r methods) (registerAll g r methods []).1 :=
  (collects_nil _).registerAll .describes .opens fun _ mem _ => .exposes mem

/-- A tool that forwards a method is the tool of a method with that id. -/
theorem Kinds.method {method : String} (kind : Kinds g r methods tool)
    (forwards : tool.handler = .forward method) :
    ∃ m ∈ methods, m.id = method ∧ Exposes g r m tool := by
  cases kind with
  | describes => cases forwards
  | opens => cases forwards
  | exposes mem exposes =>
    have same := exposes.handler.symm.trans forwards
    exact ⟨_, mem, Action.forward.inj same, exposes⟩

/-! ## The choice of a server in a schema -/

/-- The member of a tree that is an object. -/
def member? (g : Graph) (t : Tree) (key : String) : Option Tree :=
  (t.members? g).bind (Schema.find? · key)

/-- The values that a tool allows for its server property. -/
def choices (g : Graph) (schema : Tree) : List Tree :=
  ((((member? g schema "properties").bind (member? g · serverProperty)).bind
    (member? g · "enum")).bind (Tree.items? g)).getD []

theorem find?_append_single {ms : List (String × Tree)} (none' : Schema.find? ms key = none) :
    Schema.find? (ms ++ [(key, t)]) key = some t := by
  unfold Schema.find? at none' ⊢
  rw [List.find?_append, Option.map_eq_none_iff.mp none']
  simp

theorem find?_setMember {ms : List (String × Tree)} :
    Schema.find? (setMember ms key t) key = some t := by
  unfold setMember
  by_cases there : ms.any (·.1 == key)
  · rw [if_pos there]
    induction ms with
    | nil => cases there
    | cons first rest ih =>
      obtain ⟨k, old⟩ := first
      by_cases e : k = key
      · simp [Schema.find?, e]
      · have later := ih (by simpa [e] using there)
        simpa [Schema.find?, e] using later
  · rw [if_neg there]
    refine find?_append_single ?_
    rw [Schema.find?, Option.map_eq_none_iff, List.find?_eq_none]
    intro first mem same
    exact there (List.any_eq_true.mpr ⟨first, mem, same⟩)

theorem items_ofItems (names : List String) :
    Tree.ofItems (names.map .str) = names.map fun name => .atom (.str name) := by
  induction names with
  | nil => rfl
  | cons name names ih =>
    rw [List.map_cons, List.map_cons, Tree.ofItems, ih, Tree.ofJson]

/-- The choices of a schema with the property that lists the servers. -/
theorem choices_of_server {servers : List ServerConfig} {ms properties : List (String × Tree)}
    (here : Schema.find? ms "properties" = some (.obj properties))
    (server : Schema.find? properties serverProperty =
      some (Tree.ofJson (serverSchema servers))) :
    choices g (.obj ms) = servers.map fun server => .atom (.str server.id) := by
  have items := items_ofItems (servers.map (·.id))
  rw [List.map_map, List.map_map] at items
  unfold choices member?
  simp only [Tree.members?, Option.bind_some, here, server, serverSchema, Tree.ofJson,
    Tree.ofMembers]
  exact items

theorem choices_addServer {servers : List ServerConfig} {ms ms' : List (String × Tree)}
    (ok : addServer g servers ms = .ok ms') :
    choices g (.obj ms') = servers.map fun server => .atom (.str server.id) := by
  have property : ∃ properties, Schema.find? ms' "properties" =
      some (.obj (setMember properties serverProperty (Tree.ofJson (serverSchema servers)))) := by
    unfold addServer at ok
    dsimp only at ok
    split at ok
    · next none' =>
      obtain rfl := Except.ok.inj ok
      exact ⟨[], find?_append_single none'⟩
    · split at ok
      · obtain rfl := Except.ok.inj ok
        exact ⟨_, find?_setMember⟩
      · cases ok
  obtain ⟨properties, here⟩ := property
  exact choices_of_server here find?_setMember

/-- If there is a choice of servers, a method's tool lists their ids. -/
theorem Exposes.choices (h : Exposes g r m tool) (several : 1 < r.servers.length) :
    choices g tool.schema = r.servers.map fun server => .atom (.str server.id) := by
  have made := h.schema
  unfold toolSchema at made
  split at made
  · cases made
  · dsimp only at made
    rw [if_pos (by simpa [Roster.hasSeveral] using several)] at made
    split at made
    · next ms added =>
      rw [← Except.ok.inj made]
      exact choices_addServer added
    · cases made

end LspGateway.Gateway
