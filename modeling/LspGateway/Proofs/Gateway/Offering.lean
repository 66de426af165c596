import LspGateway.Proofs.Gateway.Calls

/-! # Which tools are registered

Tools are registered if their names are free, and each name is that of a method with its slashes
replaced. The tools are then the gateway's own two and one for every method, in the order of the
methods' ids. The schema of a method's tool is that of the method, but for its properties: they
lose the two that only an editor needs, and gain the choice of a server if there is one.
-/

namespace LspGateway
open Gateway Schema

namespace Gateway

variable {g : Graph} {r : Roster} {tools : Tools} {tool : Tool Action} {methods : List Method}
  {m : Method} {key other : String} {t : Tree} {ms ps new : List (String × Tree)}
  {servers : List ServerConfig}

/-! ## The schema of a tool -/

/-- The properties of a tool's arguments, made of those of a method's parameters. -/
structure OffersProperties (servers : List ServerConfig) (old new : List (String × Tree)) :
    Prop where
  progress : find? new "workDoneToken" = none ∧ find? new "partialResultToken" = none
  server : find? new "lsp" =
    if 1 < servers.length then some (Tree.ofJson (serverSchema servers)) else find? old "lsp"
  others : ∀ key, key ∉ ["workDoneToken", "partialResultToken", "lsp"] →
    find? new key = find? old key
  order : (new.map (·.1)).filter (· ≠ "lsp") =
    (old.map (·.1)).filter (· ∉ ["workDoneToken", "partialResultToken", "lsp"])
  unique : (old.map (·.1)).Nodup → (new.map (·.1)).Nodup

/-- The members of a tool's schema, made of those of a method's schema. -/
inductive OffersMembers (g : Graph) (servers : List ServerConfig) (old new : List (String × Tree)) :
    Prop
  | present {t : Tree} {ps ps' : List (String × Tree)}
    (there : find? old "properties" = some t) (object : t.members? g = some ps)
    (now : find? new "properties" = some (.obj ps')) (offers : OffersProperties servers ps ps')
    (others : ∀ key, key ≠ "properties" → find? new key = find? old key)
    (order : new.map (·.1) = old.map (·.1))
  | absent (none' : find? old "properties" = none)
    (now : new = old ++ if 1 < servers.length then
      [("properties", .obj [("lsp", Tree.ofJson (serverSchema servers))])] else [])

/-- A tool that offers a method to the outside. -/
structure Offers (g : Graph) (r : Roster) (m : Method) (tool : Tool Action) : Prop where
  id : tool.id = toolId m.id
  description : tool.description = m.description
  handler : tool.handler = .forward m.id
  schema : ∃ old new, m.schema.members? g = some old ∧ tool.schema = .obj new ∧
    OffersMembers g r.servers old new

/-- The schema of a method is an object whose properties are none or an object. -/
def IsExposable (g : Graph) (m : Method) : Prop :=
  ∃ ms, m.schema.members? g = some ms ∧
    ∀ t, find? ms "properties" = some t → ∃ ps, t.members? g = some ps

/-! ## Members that are written and left out -/

theorem find?_map_of_ne {f : String × Tree → String × Tree} (keys : ∀ a, (f a).1 = a.1)
    (same : ∀ a, a.1 = other → f a = a) : find? (ms.map f) other = find? ms other := by
  unfold find?
  induction ms with
  | nil => rfl
  | cons a rest ih =>
    rw [List.map_cons, List.find?_cons, List.find?_cons, keys]
    by_cases here : a.1 = other
    · rw [beq_iff_eq.mpr here, same a here]
    · rw [beq_eq_false_iff_ne.mpr here]
      exact ih

theorem find?_setMember_ne (apart : other ≠ key) :
    find? (setMember ms key t) other = find? ms other := by
  unfold setMember
  split
  · apply find?_map_of_ne
    · rintro ⟨k, old⟩
      dsimp only
      split <;> rfl
    · rintro ⟨k, old⟩ rfl
      exact if_neg (by simpa using apart)
  · unfold find?
    rw [List.find?_append]
    simp [apart.symm]

theorem keys_setMember : (setMember ms key t).map (·.1) =
    if key ∈ ms.map (·.1) then ms.map (·.1) else ms.map (·.1) ++ [key] := by
  have there : ms.any (·.1 == key) = true ↔ key ∈ ms.map (·.1) := by
    simp [List.any_eq_true]
  unfold setMember
  by_cases known : key ∈ ms.map (·.1)
  · rw [if_pos (there.mpr known), if_pos known, List.map_map]
    apply List.map_congr_left
    rintro ⟨k, old⟩ _
    dsimp only [Function.comp_apply]
    split <;> rfl
  · rw [if_neg (mt there.mp known), if_neg known, List.map_append, List.map_singleton]

theorem find?_filter_key {p : String → Bool} :
    find? (ms.filter fun a => p a.1) key = if p key then find? ms key else none := by
  unfold find?
  rw [List.find?_filter]
  by_cases passes : p key
  · rw [if_pos passes]
    congr 2
    ext a
    by_cases e : a.1 = key
    · simp [e, passes]
    · simp [e]
  · rw [if_neg passes, Option.map_eq_none_iff, List.find?_eq_none]
    rintro a _ both
    rw [decide_eq_true_eq, beq_iff_eq] at both
    exact passes (both.2 ▸ both.1)

theorem mem_keys_of_find? (there : find? ms key = some t) : key ∈ ms.map (·.1) := by
  obtain ⟨a, found, -⟩ := Option.map_eq_some_iff.mp there
  have same := List.find?_some found
  exact List.mem_map.mpr ⟨a, List.mem_of_find?_eq_some found, beq_iff_eq.mp same⟩

/-! ## The schema made for a method -/

/-- The properties that are left of those of a method. -/
def keptProperties (ps : List (String × Tree)) : List (String × Tree) :=
  ps.filter fun (k, _) => !progressProperties.contains k

theorem find?_keptProperties : find? (keptProperties ps) key =
    if key ∈ progressProperties then none else find? ps key := by
  refine (find?_filter_key (p := fun k => !progressProperties.contains k)).trans ?_
  by_cases progress : key ∈ progressProperties <;> simp [progress]

theorem keys_keptProperties : (keptProperties ps).map (·.1) =
    (ps.map (·.1)).filter (· ∉ progressProperties) := by
  rw [keptProperties, List.filter_map]
  congr 2
  ext a
  simp

theorem keys_keptProperties_ne : ((keptProperties ps).map (·.1)).filter (· ≠ "lsp") =
    (ps.map (·.1)).filter (· ∉ ["workDoneToken", "partialResultToken", "lsp"]) := by
  rw [keys_keptProperties, List.filter_filter]
  apply List.filter_congr
  intro k _
  simp only [progressProperties, List.mem_cons, List.not_mem_nil, or_false, ← Bool.decide_and]
  apply decide_eq_decide.mpr
  tauto

theorem nodup_keptProperties (unique : (ps.map (·.1)).Nodup) :
    ((keptProperties ps).map (·.1)).Nodup := by
  rw [keys_keptProperties]
  exact unique.filter _

theorem offersProperties_single (one : ¬ 1 < servers.length) :
    OffersProperties servers ps (keptProperties ps) := by
  constructor
  · constructor <;> exact find?_keptProperties
  · rw [if_neg one]
    exact find?_keptProperties
  · intro key new
    rw [find?_keptProperties, if_neg]
    intro progress
    apply new
    simp only [progressProperties, List.mem_cons, List.not_mem_nil, or_false] at progress ⊢
    tauto
  · exact keys_keptProperties_ne
  · exact nodup_keptProperties

theorem offersProperties_several (several : 1 < servers.length) :
    OffersProperties servers ps
      (setMember (keptProperties ps) serverProperty (Tree.ofJson (serverSchema servers))) := by
  constructor
  · constructor <;> exact (find?_setMember_ne (by decide)).trans find?_keptProperties
  · rw [if_pos several]
    exact find?_setMember
  · intro key new
    simp only [List.mem_cons, List.not_mem_nil, or_false, not_or] at new
    refine (find?_setMember_ne new.2.2).trans ?_
    rw [find?_keptProperties, if_neg]
    simp [progressProperties, new]
  · rw [keys_setMember]
    split
    · exact keys_keptProperties_ne
    · rw [List.filter_append, keys_keptProperties_ne]
      simp [serverProperty]
  · intro unique
    have kept := nodup_keptProperties unique
    rw [keys_setMember]
    split
    · exact kept
    · next free => exact List.nodup_append_comm.mp (List.nodup_cons.mpr ⟨free, kept⟩)

theorem offersMembers_dropProgress (one : ¬ 1 < servers.length)
    (object : ∀ t, find? ms "properties" = some t → ∃ ps, t.members? g = some ps) :
    OffersMembers g servers ms (dropProgress g ms) := by
  unfold dropProgress
  cases there : find? ms "properties" with
  | none =>
    apply OffersMembers.absent there
    rw [if_neg one, List.append_nil]
    rfl
  | some t =>
    obtain ⟨ps, members⟩ := object t there
    rw [Option.bind_some, members]
    apply OffersMembers.present there members find?_setMember (offersProperties_single one)
    · intro key
      exact find?_setMember_ne
    · rw [keys_setMember, if_pos (mem_keys_of_find? there)]

theorem offersMembers_addServer (several : 1 < servers.length)
    (object : ∀ t, find? ms "properties" = some t → ∃ ps, t.members? g = some ps) :
    ∃ new, addServer g servers (dropProgress g ms) = .ok new ∧ OffersMembers g servers ms new := by
  unfold dropProgress
  cases there : find? ms "properties" with
  | none =>
    refine ⟨ms ++ [("properties", .obj [("lsp", Tree.ofJson (serverSchema servers))])], ?_, ?_⟩
    · dsimp only [Option.bind_none]
      rw [addServer, there]
      rfl
    · apply OffersMembers.absent there
      rw [if_pos several]
  | some t =>
    obtain ⟨ps, members⟩ := object t there
    rw [Option.bind_some, members]
    have added : addServer g servers (setMember ms "properties" (.obj (keptProperties ps))) =
        .ok (setMember (setMember ms "properties" (.obj (keptProperties ps))) "properties"
          (.obj (setMember (keptProperties ps) serverProperty
            (Tree.ofJson (serverSchema servers))))) := by
      rw [addServer, find?_setMember]
      rfl
    refine ⟨_, added, ?_⟩
    apply OffersMembers.present there members find?_setMember (offersProperties_several several)
    · intro key apart
      rw [find?_setMember_ne apart, find?_setMember_ne apart]
    · have known := mem_keys_of_find? there
      rw [keys_setMember, keys_setMember, if_pos known, if_pos known]

/-- A tool is made of every method that can be exposed. -/
theorem IsExposable.offers (h : IsExposable g m) : ∃ schema, toolSchema g r m.schema = .ok schema ∧
    Offers g r m ⟨toolId m.id, m.description, schema, .forward m.id⟩ := by
  obtain ⟨ms, members, object⟩ := h
  unfold toolSchema
  rw [members]
  dsimp only
  by_cases several : 1 < r.servers.length
  · obtain ⟨new, added, offers⟩ := offersMembers_addServer several object
    rw [if_pos (by simpa [Roster.hasSeveral] using several), added]
    exact ⟨_, rfl, rfl, rfl, rfl, ms, new, members, rfl, offers⟩
  · rw [if_neg (by simpa [Roster.hasSeveral] using several)]
    exact ⟨_, rfl, rfl, rfl, rfl, ms, _, members, rfl, offersMembers_dropProgress several object⟩

/-! ## Free names -/

section Matched

variable {α β : Type} {R : α → β → Prop} {xs : List α} {ys : List β} {x : α} {y : β}

theorem exists_of_mem_left (all : List.Forall₂ R xs ys) (mem : x ∈ xs) : ∃ y ∈ ys, R x y := by
  induction all with
  | nil => cases mem
  | cons first _ ih =>
    rcases List.mem_cons.mp mem with rfl | mem
    · exact ⟨_, List.mem_cons_self, first⟩
    · obtain ⟨y, there, fits⟩ := ih mem
      exact ⟨y, List.mem_cons_of_mem _ there, fits⟩

theorem exists_of_mem_right (all : List.Forall₂ R xs ys) (mem : y ∈ ys) : ∃ x ∈ xs, R x y :=
  exists_of_mem_left all.flip mem

end Matched

/-- The error of a tool whose name is taken. -/
def duplicate (id : String) : RegistrationError :=
  .fault (.configuration ("Duplicate tool id: " ++ id))

theorem register_cases (tools : Tools) (tool : Tool Action) :
    tool.id ∉ tools.map (·.id) ∧ register tools tool = (tools ++ [tool], .ok ()) ∨
    tool.id ∈ tools.map (·.id) ∧ register tools tool = (tools, .error (duplicate tool.id)) := by
  have taken : (Registry.get? tools tool.id).isSome = true ↔ tool.id ∈ tools.map (·.id) := by
    simp [Registry.get?, List.find?_isSome]
  unfold register Registry.register
  by_cases known : tool.id ∈ tools.map (·.id)
  · rw [if_pos (taken.mpr known)]
    exact .inr ⟨known, rfl⟩
  · rw [if_neg (mt taken.mp known)]
    exact .inl ⟨known, rfl⟩

/-- The methods are registered one after another if all names are free, and the first name that is
not ends the registration. -/
theorem registerMethods_cases (exposable : ∀ m ∈ methods, IsExposable g m) (apart : Apart tools) :
    ((tools.map (·.id) ++ methods.map (toolId ·.id)).Nodup ∧ ∃ new,
      registerMethods g r tools methods = (tools ++ new, .ok ()) ∧
        List.Forall₂ (Offers g r) methods new) ∨
    (¬ (tools.map (·.id) ++ methods.map (toolId ·.id)).Nodup ∧ ∃ m ∈ methods,
      (registerMethods g r tools methods).2 = .error (duplicate (toolId m.id))) := by
  induction methods generalizing tools with
  | nil =>
    left
    refine ⟨?_, [], ?_, .nil⟩
    · rw [List.map_nil, List.append_nil]
      exact apart
    · rw [registerMethods, List.append_nil]
  | cons m ms ih =>
    obtain ⟨schema, made, offers⟩ := (exposable m List.mem_cons_self).offers (r := r)
    unfold registerMethods
    rw [made]
    dsimp only
    rcases register_cases tools ⟨toolId m.id, m.description, schema, .forward m.id⟩ with
      ⟨free, added⟩ | ⟨taken, refused⟩
    · rw [added]
      dsimp only
      have apart' : Apart (tools ++ [⟨toolId m.id, m.description, schema, .forward m.id⟩]) := by
        unfold Apart
        rw [List.map_append, List.map_singleton]
        exact List.nodup_append_comm.mp (List.nodup_cons.mpr ⟨free, apart⟩)
      have later := ih (fun m' mem => exposable m' (List.mem_cons_of_mem m mem)) apart'
      rw [List.map_append, List.map_singleton, List.append_assoc] at later
      rcases later with ⟨nodup, new, registered, all⟩ | ⟨clash, m', mem, refused⟩
      · left
        refine ⟨nodup, _ :: new, ?_, .cons offers all⟩
        rw [registered, List.append_assoc]
        rfl
      · right
        exact ⟨clash, m', List.mem_cons_of_mem m mem, refused⟩
    · rw [refused]
      right
      refine ⟨?_, m, List.mem_cons_self, rfl⟩
      intro nodup
      have apart' := (List.nodup_append.mp nodup).2.2
      exact apart' _ taken _ List.mem_cons_self rfl

/-- The methods have names of their own for their tools, and none has that of a tool of the
gateway's own. -/
structure AreDistinct (methods : List Method) : Prop where
  apart : (methods.map (toolId ·.id)).Nodup
  own : ∀ m ∈ methods, toolId m.id ≠ "lsp_info" ∧ toolId m.id ≠ "file_contents_to_uri"

theorem areDistinct_iff : AreDistinct methods ↔
    (["lsp_info", "file_contents_to_uri"] ++ (sortMethods methods).map (toolId ·.id)).Nodup := by
  have perm : ((sortMethods methods).map (toolId ·.id)).Perm (methods.map (toolId ·.id)) :=
    (List.mergeSort_perm _ _).map _
  rw [List.nodup_append]
  constructor
  · rintro ⟨apart, own⟩
    refine ⟨by decide, perm.nodup_iff.mpr apart, ?_⟩
    rintro name ours _ theirs rfl
    obtain ⟨m, mem, rfl⟩ := List.mem_map.mp (perm.mem_iff.mp theirs)
    rcases List.mem_cons.mp ours with same | later
    · exact (own m mem).1 same
    · exact (own m mem).2 (List.mem_singleton.mp later)
  · rintro ⟨-, nodup, own⟩
    refine ⟨perm.nodup_iff.mp nodup, ?_⟩
    intro m mem
    have here : toolId m.id ∈ (sortMethods methods).map (toolId ·.id) :=
      perm.mem_iff.mpr (List.mem_map.mpr ⟨m, mem, rfl⟩)
    constructor
    · exact (own _ List.mem_cons_self _ here).symm
    · exact (own _ (List.mem_cons_of_mem _ List.mem_cons_self) _ here).symm

/-- The order of the methods' tools. -/
theorem AreDistinct.sorted (h : AreDistinct methods) :
    (sortMethods methods).Pairwise fun a b => a.id < b.id := by
  have apart : (sortMethods methods).Pairwise fun a b => a.id ≠ b.id := by
    have names := (List.nodup_append.mp (areDistinct_iff.mp h)).2.1
    rw [List.Nodup, List.pairwise_map] at names
    refine names.imp ?_
    rintro a b other same
    exact other (congrArg toolId same)
  have ascending : (sortMethods methods).Pairwise fun a b => !decide (b.id < a.id) := by
    apply List.pairwise_mergeSort
    · intro a b c ab bc
      simp only [Bool.not_eq_true', decide_eq_false_iff_not] at ab bc ⊢
      exact String.not_lt.mpr (String.le_trans (String.not_lt.mp ab) (String.not_lt.mp bc))
    · intro a b
      simp only [Bool.or_eq_true, Bool.not_eq_true', decide_eq_false_iff_not]
      rcases String.le_total a.id b.id with le | le
      · exact .inl (String.not_lt.mpr le)
      · exact .inr (String.not_lt.mpr le)
  refine (ascending.and apart).imp ?_
  rintro a b ⟨le, ne⟩
  simp only [Bool.not_eq_true', decide_eq_false_iff_not] at le
  by_contra notLess
  exact ne (String.le_antisymm (String.not_lt.mp le) (String.not_lt.mp notLess))

/-- Nothing is there, so the gateway's own tools are registered before those of the methods. -/
theorem registerAll_nil : registerAll g r methods [] =
    registerMethods g r [describeServers, openContents] (sortMethods methods) := by
  have first : register [] describeServers = ([describeServers], .ok ()) := rfl
  have second : register [describeServers] openContents =
      ([describeServers, openContents], .ok ()) := by
    rcases register_cases [describeServers] openContents with ⟨-, added⟩ | ⟨taken, -⟩
    · exact added
    · exact absurd taken (by decide)
  unfold registerAll
  rw [first]
  dsimp only
  rw [second]

/-- What comes of registering methods where nothing is registered yet. -/
theorem registerAll_cases (exposable : ∀ m ∈ methods, IsExposable g m) :
    (AreDistinct methods ∧ ∃ new,
      registerAll g r methods [] = (describeServers :: openContents :: new, .ok ()) ∧
        List.Forall₂ (Offers g r) (sortMethods methods) new) ∨
    (¬ AreDistinct methods ∧ ∃ m ∈ methods,
      (registerAll g r methods []).2 = .error (duplicate (toolId m.id))) := by
  have all : ∀ m ∈ sortMethods methods, IsExposable g m := by
    intro m mem
    exact exposable m (List.mem_mergeSort.mp mem)
  have apart : Apart [describeServers, openContents] := by
    unfold Apart
    decide
  rw [registerAll_nil, areDistinct_iff]
  rcases registerMethods_cases (r := r) all apart with ⟨nodup, rest⟩ | ⟨clash, m, mem, refused⟩
  · exact .inl ⟨nodup, rest⟩
  · exact .inr ⟨clash, m, List.mem_mergeSort.mp mem, refused⟩

/-- If there is a choice of servers, a tool that offers a method lists their ids. -/
theorem Offers.choices (h : Offers g r m tool) (several : 1 < r.servers.length) :
    choices g tool.schema = r.servers.map fun server => .atom (.str server.id) := by
  obtain ⟨old, new, -, schema, members⟩ := h.schema
  have property : ∃ ps, find? new "properties" = some (.obj ps) ∧
      find? ps serverProperty = some (Tree.ofJson (serverSchema r.servers)) := by
    rcases members with ⟨-, -, now, offers, -, -⟩ | ⟨none', now⟩
    · refine ⟨_, now, ?_⟩
      have server := offers.server
      rwa [if_pos several] at server
    · rw [now, if_pos several]
      exact ⟨_, find?_append_single none', rfl⟩
  obtain ⟨ps, here, server⟩ := property
  rw [schema]
  exact choices_of_server here server

end Gateway

namespace Service

/-! ## Registration -/

variable {s : Service} {fs : Files} {label : String} {args : Json.Members}

/-- A call of the tool of a method goes to one server, with that method. -/
structure Forwarded (s : Service) (method : String) : Prop where
  text : ∀ fs label args, Routed s (s.callText fs label (toolId method) (some (.obj args)))
    (Routing.select s.roster args (serverProperty? s.roster)) method args
  message : ∀ fs label args, Routed s (s.callTool fs label (toolId method) (some args))
      (Routing.select s.roster args (serverProperty? s.roster)) method args ∨
    (s.callTool fs label (toolId method) (some args)).clients = s.clients

theorem forwarded {tool : Tool Action} {method : String} (apart : Apart s.tools)
    (mem : tool ∈ s.tools) (id : tool.id = toolId method)
    (handler : tool.handler = .forward method) : Forwarded s method := by
  have known := apart.find mem
  rw [id] at known
  constructor
  · intro fs label args
    unfold callText Registry.findFor
    rw [known]
    exact routed_perform handler
  · intro fs label args
    unfold callTool
    dsimp only
    rw [known]
    dsimp only
    split
    · exact .inr rfl
    · exact .inl (routed_perform handler)

/-- A method with properties, one of which only an editor needs. -/
def renameMethod : Method :=
  ⟨"textDocument/rename", "Renames.", .obj [("type", .atom (.str "object")),
    ("properties", .obj [("workDoneToken", .obj []), ("newName", .obj [])])]⟩

/-- A method without properties. -/
def hoverMethod : Method := ⟨"textDocument/hover", "Hovers.", .obj []⟩

end Service

end LspGateway
