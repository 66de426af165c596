import LspGateway.Proofs.Gateway.Routing

/-! # Look-ups search the servers in order

What a roster answers from its indices is what a search through its servers finds: the one with an
id, the first for a language, the first with an extension and otherwise the one with that id. There
is a roster of any servers but none at all and two of one id. The list of all servers is handed out
as a copy, so whatever becomes of it, the answers stay the same.
-/

namespace LspGateway
open LspGateway.Text

namespace Roster

variable {servers : List ServerConfig} {server : ServerConfig} {r : Roster} {fault : Fault}
  {n : Nat} {name : String} {P : ServerConfig → Prop} {answer : Option Nat}

/-! ## Searches -/

/-- A server is the first one with a property. -/
structure IsFirst (P : ServerConfig → Prop) (servers : List ServerConfig) (n : Nat) : Prop where
  has : ∃ server, servers[n]? = some server ∧ P server
  first : ∀ m < n, ∀ server, servers[m]? = some server → ¬ P server

/-- An answer names the first server with a property, and none only if there is no such server. -/
inductive Answers (P : ServerConfig → Prop) (servers : List ServerConfig) : Option Nat → Prop
  | found {n : Nat} (first : IsFirst P servers n) : Answers P servers (some n)
  | missing (none' : ∀ server ∈ servers, ¬ P server) : Answers P servers none

theorem isFirst_of_findIdx? {p : ServerConfig → Bool} (same : ∀ server, p server = true ↔ P server)
    (found : servers.findIdx? p = some n) : IsFirst P servers n := by
  obtain ⟨lt, has, first⟩ := List.findIdx?_eq_some_iff_getElem.mp found
  constructor
  · exact ⟨servers[n], List.getElem?_eq_getElem lt, (same _).mp has⟩
  · intro m before server here holds
    obtain ⟨lt', rfl⟩ := List.getElem?_eq_some_iff.mp here
    exact first m before ((same _).mpr holds)

theorem none_of_findIdx? {p : ServerConfig → Bool} (same : ∀ server, p server = true ↔ P server)
    (missing : servers.findIdx? p = none) : ∀ server ∈ servers, ¬ P server := by
  intro server mem holds
  have lacks := List.findIdx?_eq_none_iff.mp missing server mem
  rw [(same server).mpr holds] at lacks
  cases lacks

theorem answers_findIdx? {p : ServerConfig → Bool} (same : ∀ server, p server = true ↔ P server)
    (searched : answer = servers.findIdx? p) : Answers P servers answer := by
  cases found : servers.findIdx? p with
  | some n =>
    rw [searched, found]
    exact .found (isFirst_of_findIdx? same found)
  | none =>
    rw [searched, found]
    exact .missing (none_of_findIdx? same found)

/-! ## Servers that form no roster -/

/-- Two servers have the same id but for case. -/
def SharesId (servers : List ServerConfig) : Prop :=
  ∃ (m n : Nat) (a b : ServerConfig), m < n ∧ servers[m]? = some a ∧ servers[n]? = some b ∧
    lower a.id = lower b.id

theorem not_sharesId_iff : ¬ SharesId servers ↔ (servers.map (lower ·.id)).Nodup := by
  rw [List.nodup_iff_pairwise_ne, List.pairwise_map, List.pairwise_iff_getElem]
  constructor
  · intro apart m n lt lt' before same
    exact apart ⟨m, n, _, _, before, List.getElem?_eq_getElem lt, List.getElem?_eq_getElem lt',
      same⟩
  · rintro apart ⟨m, n, a, b, before, here, here', same⟩
    obtain ⟨lt, rfl⟩ := List.getElem?_eq_some_iff.mp here
    obtain ⟨lt', rfl⟩ := List.getElem?_eq_some_iff.mp here'
    exact apart m n lt lt' before same

/-- A server is refused only for an id that an earlier one has. -/
theorem Mirrors.refused (h : Mirrors r) (fails : r.enter server = .error fault) :
    fault = .duplicateId server.id ∧ ∃ earlier ∈ r.servers, lower earlier.id = lower server.id := by
  unfold Roster.enter at fails
  dsimp only at fails
  split at fails
  · next held =>
    obtain rfl := Except.error.inj fails
    rw [h.id, List.findIdx?_isSome, List.any_eq_true] at held
    obtain ⟨earlier, mem, same⟩ := held
    exact ⟨rfl, earlier, mem, by simpa using same⟩
  · cases fails

/-- Of servers that are refused the first is named that repeats an id. -/
theorem Mirrors.refusedAll (h : Mirrors r) (fails : r.enterAll servers = .error fault) :
    ∃ before server after, servers = before ++ server :: after ∧ fault = .duplicateId server.id ∧
      ((r.servers ++ before).map (lower ·.id)).Nodup ∧
      ∃ earlier ∈ r.servers ++ before, lower earlier.id = lower server.id := by
  induction servers generalizing r with
  | nil => cases fails
  | cons server rest ih =>
    unfold Roster.enterAll at fails
    split at fails
    · next refused =>
      obtain rfl := Except.error.inj fails
      obtain ⟨told, shared⟩ := h.refused refused
      exact ⟨[], server, rest, rfl, told, by simpa using h.apart, by simpa using shared⟩
    · next r₁ entered =>
      obtain ⟨h₁, grown⟩ := h.enter entered
      obtain ⟨before, other, after, rfl, told, apart, shared⟩ := ih h₁ fails
      rw [grown, List.append_assoc, List.singleton_append] at apart shared
      exact ⟨server :: before, other, after, rfl, told, apart, shared⟩

theorem mirrors_empty : Mirrors ⟨[], [], [], []⟩ :=
  ⟨fun _ => rfl, fun _ => rfl, fun _ => rfl, List.nodup_nil⟩

theorem ofServers_error (fails : ofServers servers = .error fault) :
    servers = [] ∧ fault = .empty ∨
    ∃ before server after, servers = before ++ server :: after ∧ fault = .duplicateId server.id ∧
      (before.map (lower ·.id)).Nodup ∧ ∃ earlier ∈ before, lower earlier.id = lower server.id := by
  unfold ofServers at fails
  split at fails
  · obtain rfl := Except.error.inj fails
    exact .inl ⟨rfl, rfl⟩
  · split at fails
    · next refused =>
      obtain rfl := Except.error.inj fails
      exact .inr (mirrors_empty.refusedAll refused)
    · cases fails

theorem ofServers_fails_iff :
    (∃ fault, ofServers servers = .error fault) ↔ servers = [] ∨ SharesId servers := by
  constructor
  · rintro ⟨fault, fails⟩
    obtain ⟨empty, -⟩ | ⟨before, server, after, rfl, -, -, earlier, mem, same⟩ :=
      ofServers_error fails
    · exact .inl empty
    · right
      obtain ⟨m, lt, rfl⟩ := List.mem_iff_getElem.mp mem
      refine ⟨m, before.length, before[m], server, lt, ?_, by simp, same⟩
      rw [List.getElem?_append_left lt]
      exact List.getElem?_eq_getElem lt
  · intro bad
    cases made : ofServers servers with
    | error fault => exact ⟨fault, rfl⟩
    | ok r =>
      obtain ⟨h, rfl, some⟩ := finds_ofServers made
      rcases bad with empty | shares
      · exact absurd empty some
      · exact absurd shares (not_sharesId_iff.mpr h.apart)

end Roster

/-! ## The list of all servers -/

/-- A roster whose servers are listed in one of the lists of a store, and the lists of the store
that others were given. A server is named by its place in the roster. -/
structure Manager where
  roster : Roster
  lists : List (List Nat)
  own : Nat
  given : List Nat

namespace Manager
open Roster

variable {g : Manager} {servers : List ServerConfig}

/-- A manager that has given no list away. -/
def ofRoster (r : Roster) : Manager := ⟨r, [List.range r.servers.length], 0, []⟩

/-- The servers in the list that the manager keeps. -/
def listed (g : Manager) : List Nat := (g.lists[g.own]?).getD []

/-- What others do with a manager: they ask for all servers, or change a list that they were
given. -/
inductive Deed
  | all
  | change (list : Nat) (items : List Nat)

/-- Whoever asks for all servers gets a copy. -/
def step (g : Manager) : Deed → Manager
  | .all => { g with lists := g.lists ++ [g.listed], given := g.given ++ [g.lists.length] }
  | .change list items =>
    if list ∈ g.given then { g with lists := g.lists.set list items } else g

/-- Several deeds, one after another. -/
def run (g : Manager) (deeds : List Deed) : Manager := deeds.foldl step g

/-- The manager keeps its list to itself. -/
structure Keeps (r : Roster) (g : Manager) : Prop where
  roster : g.roster = r
  here : g.own < g.lists.length
  own : g.own ∉ g.given
  listed : g.listed = List.range r.servers.length

theorem keeps_ofRoster (r : Roster) : Keeps r (ofRoster r) :=
  ⟨rfl, Nat.zero_lt_one, List.not_mem_nil, rfl⟩

theorem Keeps.step {r : Roster} (h : Keeps r g) (deed : Deed) : Keeps r (g.step deed) := by
  cases deed with
  | all =>
    have listed : (g.step .all).listed = g.listed := by
      simp only [Manager.step, Manager.listed]
      rw [List.getElem?_append_left h.here]
    refine ⟨h.roster, ?_, ?_, listed.trans h.listed⟩
    · exact Nat.lt_of_lt_of_le h.here (by simp [Manager.step])
    · simp only [Manager.step, List.mem_append, List.mem_singleton, not_or]
      exact ⟨h.own, Nat.ne_of_lt h.here⟩
  | change list items =>
    unfold Manager.step
    dsimp only
    split
    · next mem =>
      have other : list ≠ g.own := by
        rintro rfl
        exact h.own mem
      refine ⟨h.roster, ?_, h.own, ?_⟩
      · simpa using h.here
      · rw [Manager.listed, List.getElem?_set_ne other]
        exact h.listed
    · exact h

theorem Keeps.run {r : Roster} (h : Keeps r g) (deeds : List Deed) : Keeps r (g.run deeds) := by
  induction deeds generalizing g with
  | nil => exact h
  | cons deed deeds ih => exact ih (h.step deed)

/-- Who asks for all servers is given a list of its own, with all of them in order. -/
theorem Keeps.given {r : Roster} (h : Keeps r g) :
    (g.step .all).lists[g.lists.length]? = some (List.range r.servers.length) ∧
      g.lists.length ∈ (g.step .all).given ∧ g.lists.length ≠ g.own := by
  refine ⟨?_, by simp [Manager.step], Nat.ne_of_gt h.here⟩
  simp [Manager.step, h.listed]

/-! ## Look-ups -/

/-- The answers of a manager are those of a search through the servers. -/
structure Searches (servers : List ServerConfig) (g : Manager) : Prop where
  /-- Only one server has an id. -/
  alone : ∀ (m n : Nat) (a b : ServerConfig), servers[m]? = some a → servers[n]? = some b →
    lower a.id = lower b.id → m = n
  id : ∀ name, Answers (fun server => lower server.id = lower name) servers
    (g.roster.findById name)
  /-- Every server is found by its own id. -/
  own : ∀ (n : Nat) (server : ServerConfig), servers[n]? = some server →
    g.roster.findById server.id = some n
  language : ∀ name, Answers (fun server => ∃ l ∈ server.languages, lower l = lower name) servers
    (g.roster.findByLanguage name)
  /-- An extension is looked for among the extensions, and if no server has it among the ids. -/
  extension : ∀ name,
    let listing (server : ServerConfig) : Prop :=
      ∃ e ∈ server.extensions, lower (stripDots e) = lower (stripDots name)
    (∃ n, g.roster.findByExtension name = some n ∧ IsFirst listing servers n) ∨
      (∀ server ∈ servers, ¬ listing server) ∧
        Answers (fun server => lower server.id = lower (stripDots name)) servers
          (g.roster.findByExtension name)
  /-- The list of all servers has them in order; the first is the default. -/
  all : g.listed = List.range servers.length ∧ g.listed.head? = some g.roster.default ∧
    (g.roster.hasSeveral = true ↔ 1 < g.listed.length)
  /-- Who asks for all servers is given a list of its own, with all of them in order. -/
  copies : (g.step .all).lists[g.lists.length]? = some (List.range servers.length) ∧
    g.lists.length ∈ (g.step .all).given ∧ g.lists.length ≠ g.own

theorem searches_of_finds {r : Roster} (h : r.Finds) (some : r.servers ≠ []) (kept : Keeps r g) :
    Searches r.servers g := by
  have copies := kept.given
  obtain ⟨rfl, -, -, listed⟩ := kept
  constructor
  case alone =>
    intro m n a b here here' same
    have apart := not_sharesId_iff.mpr h.apart
    rcases Nat.lt_trichotomy m n with before | equal | after
    · exact absurd ⟨m, n, a, b, before, here, here', same⟩ apart
    · exact equal
    · exact absurd ⟨n, m, b, a, after, here', here, same.symm⟩ apart
  case id => exact fun name => answers_findIdx? (by simp) (h.id name)
  case own => exact fun n server here => h.own here
  case language => exact fun name => answers_findIdx? (by simp) (h.language name)
  case extension =>
    intro name listing
    have same (server : ServerConfig) :
        (server.extensions.any (extensionKey · == extensionKey name)) = true ↔ listing server := by
      simp [listing, extensionKey]
    have searched := h.extension name
    cases found : g.roster.servers.findIdx?
        fun s => s.extensions.any (extensionKey · == extensionKey name) with
    | some n =>
      rw [found, Option.some_or] at searched
      exact .inl ⟨n, searched, isFirst_of_findIdx? same found⟩
    | none =>
      rw [found, Option.none_or] at searched
      exact .inr ⟨none_of_findIdx? same found, answers_findIdx? (by simp [extensionKey]) searched⟩
  case all =>
    have pos : 0 < g.roster.servers.length := List.length_pos_iff.mpr some
    refine ⟨listed, ?_, ?_⟩
    · rw [listed, List.head?_range, if_neg (by omega)]
      rfl
    · rw [listed, List.length_range, Roster.hasSeveral, decide_eq_true_iff]
  case copies => exact copies

/-- Servers form a roster unless there are none or two share an id; and then every look-up answers
what a search through them finds, whatever was done with the lists of all servers by then. -/
theorem lookups_search (servers : List ServerConfig) :
    ((∃ fault, ofServers servers = .error fault) ↔ servers = [] ∨ SharesId servers) ∧
    ∀ r, ofServers servers = .ok r → ∀ deeds, Searches servers ((ofRoster r).run deeds) := by
  constructor
  · exact ofServers_fails_iff
  · intro r made deeds
    obtain ⟨h, rfl, some⟩ := finds_ofServers made
    exact searches_of_finds h some ((keeps_ofRoster r).run deeds)

/-- The id of one server is an extension of another, and a list that was given is emptied. -/
theorem lookups_search_collision :
    let servers : List ServerConfig :=
      [⟨"Py", ["Python"], [".PYI"], "a", []⟩, ⟨"ts", ["python", "TypeScript"], ["..Py"], "b", []⟩]
    ∃ r, ofServers servers = .ok r ∧ r.findById "pY" = some 0 ∧
      r.findByLanguage "PYTHON" = some 0 ∧ r.findByExtension ".py" = some 1 ∧
      r.findByExtension "...TS" = some 1 ∧ r.findByExtension "js" = none ∧
      Searches servers ((ofRoster r).run [.all, .change 1 []]) := by
  intro servers
  obtain ⟨fails, searches⟩ := lookups_search servers
  cases made : ofServers servers with
  | error fault => cases made
  | ok r =>
    have answers : ∀ r', ofServers servers = .ok r' → r'.findById "pY" = some 0 ∧
        r'.findByLanguage "PYTHON" = some 0 ∧ r'.findByExtension ".py" = some 1 ∧
        r'.findByExtension "...TS" = some 1 ∧ r'.findByExtension "js" = none := by
      rintro r' ⟨⟩
      decide +kernel
    obtain ⟨id, language, extension, dotted, missing⟩ := answers r made
    exact ⟨r, rfl, id, language, extension, dotted, missing, searches r made _⟩

end Manager

end LspGateway
