import LspGateway.Gateway.Service
import LspGateway.Proofs.Text.Parts
import LspGateway.Roster
import Mathlib.Data.List.Nodup

/-! # Where a call goes and what it sends

The tool of a method sends everything to one server: the one that the call names, else the one for
the extension of its document, else the first. The request is for the method of the tool, and its
parameters are the arguments without the name of the server, if there is a choice of servers, and
with the document's URI in its canonical form, if the document is a file.
-/

namespace LspGateway

/-! ## The indices of a roster

An index answers what a search through the servers would find: the first server with the id or
the language, and for an extension the first server that has it or, if there is none, the server
whose id equals it.
-/

section Lookup
open LspGateway.Text

/-! ### Claims to keys -/

namespace Index

variable {ix : Index} {key k : String} {keys : List String} {n : Nat}

theorem get?_append (other : Index) : (ix ++ other).get? k = (ix.get? k).or (other.get? k) := by
  simp only [get?, List.find?_append, Option.map_or]

theorem get?_single : Index.get? [(key, n)] k = if key = k then some n else none := by
  by_cases e : key = k <;> simp [get?, e]

theorem get?_claim :
    (ix.claim key n).get? k = (ix.get? k).or (if key = k then some n else none) := by
  unfold claim
  split
  · next held =>
    obtain ⟨m, held⟩ := Option.isSome_iff_exists.mp held
    by_cases e : key = k
    · subst e
      simp [held]
    · simp [e]
  · rw [get?_append, get?_single]

theorem get?_claimAll :
    (ix.claimAll keys n).get? k = (ix.get? k).or (if k ∈ keys then some n else none) := by
  induction keys generalizing ix with
  | nil => simp [claimAll]
  | cons key keys ih =>
    have rest : (ix.claimAll (key :: keys) n).get? k = ((ix.claim key n).claimAll keys n).get? k := rfl
    rw [rest, ih, get?_claim, Option.or_assoc]
    by_cases e : key = k
    · simp [e]
    · simp [e, Ne.symm e]

/-- Whoever holds no key yet gets it from the first of several servers that claim it. -/
theorem get?_foldl_claim (pairs : Index) :
    (pairs.foldl (fun ix (key, server) => ix.claim key server) ix).get? k =
      (ix.get? k).or (Index.get? pairs k) := by
  induction pairs generalizing ix with
  | nil => simp [get?]
  | cons pair pairs ih =>
    have split : Index.get? (pair :: pairs) k = (Index.get? [pair] k).or (Index.get? pairs k) :=
      @get?_append [pair] k pairs
    have first : Index.get? [pair] k = if pair.1 = k then some pair.2 else none := get?_single
    rw [List.foldl_cons, ih, get?_claim, Option.or_assoc, split, first]

end Index

/-! ### The servers of a roster -/

namespace Roster

variable {r r' : Roster} {servers : List ServerConfig} {server : ServerConfig} {key : String}

/-- What the indices answer while servers are entered: extensions alone, and no id as one. -/
structure Mirrors (r : Roster) : Prop where
  id : ∀ key, r.byId.get? key = r.servers.findIdx? (lower ·.id == key)
  language : ∀ key,
    r.byLanguage.get? key = r.servers.findIdx? fun s => s.languages.any (lower · == key)
  extension : ∀ key,
    r.byExtension.get? key = r.servers.findIdx? fun s => s.extensions.any (extensionKey · == key)
  apart : (r.servers.map (lower ·.id)).Nodup

/-- A search through one more server goes on to it if the others have nothing. -/
theorem findIdx?_concat (p : ServerConfig → Bool) :
    (servers ++ [server]).findIdx? p =
      (servers.findIdx? p).or (if p server then some servers.length else none) := by
  have last : [server].findIdx? p = if p server then some 0 else none := by
    cases found : p server <;> simp [found]
  rw [List.findIdx?_append, last]
  cases p server <;> simp

theorem claimed_any (f : String → String) (names : List String) (n : Nat) :
    (if key ∈ names.map f then some n else none) =
      if names.any (f · == key) then some n else none := by
  simp [List.any_eq_true]

theorem Mirrors.enter (h : Mirrors r) (ok : r.enter server = .ok r') :
    Mirrors r' ∧ r'.servers = r.servers ++ [server] := by
  unfold Roster.enter at ok
  dsimp only at ok
  split at ok
  · cases ok
  · next free =>
    obtain rfl := Except.ok.inj ok
    refine ⟨⟨fun key => ?_, fun key => ?_, fun key => ?_, ?_⟩, rfl⟩
    · rw [findIdx?_concat, Index.get?_claim, h.id]
      simp
    · rw [findIdx?_concat, Index.get?_claimAll, h.language, claimed_any]
    · rw [findIdx?_concat, Index.get?_claimAll, h.extension, claimed_any]
    · rw [h.id, Option.not_isSome_iff_eq_none, List.findIdx?_eq_none_iff] at free
      rw [List.map_append, List.map_singleton, List.nodup_append]
      refine ⟨h.apart, List.nodup_singleton _, fun a mem b mem' e => ?_⟩
      obtain ⟨s, here, rfl⟩ := List.mem_map.mp mem
      rw [List.mem_singleton.mp mem'] at e
      simpa [e] using free s here

theorem Mirrors.enterAll (h : Mirrors r) (ok : r.enterAll servers = .ok r') :
    Mirrors r' ∧ r'.servers = r.servers ++ servers := by
  induction servers generalizing r with
  | nil =>
    obtain rfl := Except.ok.inj ok
    exact ⟨h, (List.append_nil _).symm⟩
  | cons server rest ih =>
    unfold Roster.enterAll at ok
    split at ok
    · cases ok
    · next r₁ entered =>
      obtain ⟨h₁, grown⟩ := h.enter entered
      obtain ⟨h₂, all⟩ := ih h₁ ok
      exact ⟨h₂, by rw [all, grown, List.append_assoc, List.singleton_append]⟩

/-- What the indices of a roster answer. -/
structure Finds (r : Roster) : Prop where
  id : ∀ name, r.findById name = r.servers.findIdx? (lower ·.id == lower name)
  language : ∀ name,
    r.findByLanguage name = r.servers.findIdx? fun s => s.languages.any (lower · == lower name)
  extension : ∀ name, r.findByExtension name =
    (r.servers.findIdx? fun s => s.extensions.any (extensionKey · == extensionKey name)).or
      (r.servers.findIdx? (lower ·.id == extensionKey name))
  apart : (r.servers.map (lower ·.id)).Nodup

theorem finds_ofServers (ok : ofServers servers = .ok r) :
    Finds r ∧ r.servers = servers ∧ servers ≠ [] := by
  unfold ofServers at ok
  split at ok
  · cases ok
  · next some =>
    split at ok
    · cases ok
    · next r₁ entered =>
      have empty : Mirrors ⟨[], [], [], []⟩ :=
        ⟨fun _ => rfl, fun _ => rfl, fun _ => rfl, List.nodup_nil⟩
      obtain ⟨h, all⟩ := empty.enterAll entered
      obtain rfl := Except.ok.inj ok
      refine ⟨⟨fun name => h.id _, fun name => h.language _, fun name => ?_, h.apart⟩, all,
        fun e => some e⟩
      rw [findByExtension, Index.get?_foldl_claim, h.extension, h.id]

/-- Every server is found by its own id. -/
theorem Finds.own (h : Finds r) {n : Nat} (here : r.servers[n]? = some server) :
    r.findById server.id = some n := by
  obtain ⟨lt, rfl⟩ := List.getElem?_eq_some_iff.mp here
  rw [h.id, List.findIdx?_eq_some_iff_getElem]
  refine ⟨lt, by simp, fun m before same => ?_⟩
  have lt' : m < r.servers.length := Nat.lt_trans before lt
  have index := (List.nodup_iff_injective_getElem.mp h.apart)
  have eq : (⟨m, by simpa using lt'⟩ : Fin (r.servers.map (lower ·.id)).length) =
      ⟨n, by simpa using lt⟩ := index (by simpa using same)
  exact absurd (Fin.mk.inj eq) (Nat.ne_of_lt before)

end Roster

end Lookup

/-! ## The extension of a document -/

/-- The text ends in this part, which is not empty and stands behind the last dot. -/
def EndsIn (text ext : String) : Prop :=
  ext ≠ "" ∧ '.' ∉ ext.toList ∧ ∃ stem, text.toList = stem ++ '.' :: ext.toList

namespace Routing
open LspGateway.Text

variable {uri ext : String}

theorem extension_eq_some : extension? uri = some ext ↔ EndsIn uri ext := by
  unfold extension? EndsIn
  constructor
  · intro found
    split at found
    · cases found
    · cases found
    · next stem cs some split =>
      obtain rfl := Option.some.inj found
      obtain ⟨whole, free⟩ := splitLast_eq_some.mp split
      exact ⟨fun e => some (by simpa using e), by simpa using free, stem, by simpa using whole⟩
  · rintro ⟨some, free, stem, whole⟩
    rw [splitLast_eq_some.mpr ⟨whole, free⟩]
    have some : ext.toList ≠ [] := by simpa using some
    cases list : ext.toList with
    | nil => exact absurd list some
    | cons c cs =>
      dsimp only
      rw [← list, String.ofList_toList]

end Routing

namespace Gateway
open LspGateway.Text Routing
open Schema (Tree Graph)

variable {r : Roster} {args : Json.Members} {servers : List ServerConfig} {n : Nat} {g : Graph}
  {methods ms : List Method} {tools tools' : Tools} {tool : Tool Action} {method : String}
  {fs : Files} {t : Tree}

/-! ## The choice of a server -/

/-- The call names the server by its id, or as the first one that lists a language. -/
inductive Names (r : Roster) (args : Json.Members) : Nat → Prop
  | id {name : String} {n : Nat} (several : 1 < r.servers.length)
    (given : args.get? "lsp" = some (.str name)) (some : name ≠ "")
    (found : r.servers.findIdx? (lower ·.id == lower name) = .some n) : Names r args n
  | language {name : String} {n : Nat} (several : 1 < r.servers.length)
    (given : args.get? "lsp" = some (.str name)) (some : name ≠ "")
    (unknown : ∀ s ∈ r.servers, lower s.id ≠ lower name)
    (found : (r.servers.findIdx? fun s => s.languages.any (lower · == lower name)) = .some n) :
    Names r args n

/-- The server is the one for the extension of the call's document. -/
inductive Suits (r : Roster) (args : Json.Members) : Nat → Prop
  | intro {uri ext : String} {n : Nat}
    (document : ((args.get? "textDocument").bind (·.get? "uri")) = some (.str uri))
    (ends : EndsIn uri ext) (found : r.findByExtension ext = some n) : Suits r args n

/-- The server that handles the call. -/
inductive GoesTo (r : Roster) (args : Json.Members) : Nat → Prop
  | named {n : Nat} (names : Names r args n) : GoesTo r args n
  | suited {n : Nat} (unnamed : ∀ m, ¬ Names r args m) (suits : Suits r args n) : GoesTo r args n
  | first (unnamed : ∀ m, ¬ Names r args m) (unsuited : ∀ m, ¬ Suits r args m) : GoesTo r args 0

theorem named_eq_some (h : r.Finds) (several : 1 < r.servers.length) :
    named? r args serverProperty = some n ↔ Names r args n := by
  unfold named?
  constructor
  · intro found
    split at found
    · next name given =>
      split at found
      · cases found
      · next some =>
        split at found
        · next m known =>
          obtain rfl := Option.some.inj found
          exact .id several given some (h.id name ▸ known)
        · next unknown =>
          rw [h.id, List.findIdx?_eq_none_iff] at unknown
          exact .language several given some (fun s mem => by simpa using unknown s mem)
            (h.language name ▸ found)
    · cases found
  · intro names
    cases names with
    | id _ given some found =>
      have given : args.get? serverProperty = _ := given
      rw [given]
      dsimp only
      rw [if_neg some, h.id, found]
    | language _ given some unknown found =>
      have given : args.get? serverProperty = _ := given
      rw [given]
      dsimp only
      rw [if_neg some, h.id, List.findIdx?_eq_none_iff.mpr (by simpa using unknown)]
      exact (h.language _).trans found

theorem documentUri_eq_some {uri : String} : documentUri? args = some uri ↔
    ((args.get? "textDocument").bind (·.get? "uri")) = some (.str uri) := by
  have text (j : Json) : j.str? = some uri ↔ j = .str uri := by
    cases j <;> simp [Json.str?]
  cases document : args.get? "textDocument" with
  | none => simp [documentUri?, document]
  | some j => simp [documentUri?, document, Option.bind_eq_some_iff, text]

theorem inferred_eq_some : inferred? r args = some n ↔ Suits r args n := by
  unfold inferred?
  constructor
  · intro found
    split at found
    · cases found
    · next uri document =>
      split at found
      · cases found
      · next ext ends =>
        exact .intro (documentUri_eq_some.mp document) (extension_eq_some.mp ends) found
  · rintro ⟨document, ends, found⟩
    rw [documentUri_eq_some.mpr document]
    dsimp only
    rw [extension_eq_some.mpr ends]
    exact found

/-- The server that the call names, if it may. -/
def choice? (r : Roster) (args : Json.Members) : Option Nat :=
  if r.hasSeveral then named? r args serverProperty else none

theorem choice_eq_some (h : r.Finds) : choice? r args = some n ↔ Names r args n := by
  unfold choice?
  by_cases several : 1 < r.servers.length
  · rw [if_pos (by simpa [Roster.hasSeveral] using several), named_eq_some h several]
  · rw [if_neg (by simpa [Roster.hasSeveral] using several)]
    constructor
    · intro found
      cases found
    · rintro (⟨several', -, -, -⟩ | ⟨several', -, -, -, -⟩) <;> exact absurd several' several

theorem select_eq : select r args (serverProperty? r) =
    match choice? r args with
    | some n => n
    | none => (inferred? r args).getD 0 := by
  unfold select serverProperty? choice?
  cases r.hasSeveral <;> rfl

/-- What the rules of precedence say is what is selected. -/
theorem goesTo_iff (h : r.Finds) : GoesTo r args n ↔ select r args (serverProperty? r) = n := by
  have unnamed : choice? r args = none ↔ ∀ m, ¬ Names r args m := by
    rw [Option.eq_none_iff_forall_ne_some]
    exact forall_congr' fun m => not_congr (choice_eq_some h)
  have unsuited : inferred? r args = none ↔ ∀ m, ¬ Suits r args m := by
    rw [Option.eq_none_iff_forall_ne_some]
    exact forall_congr' fun m => not_congr inferred_eq_some
  rw [select_eq]
  constructor
  · rintro (names | ⟨none', suits⟩ | ⟨none', unsuits⟩)
    · rw [(choice_eq_some h).mpr names]
    · rw [unnamed.mpr none', inferred_eq_some.mpr suits]
      rfl
    · rw [unnamed.mpr none', unsuited.mpr unsuits]
      rfl
  · rintro rfl
    split
    · next m found => exact .named ((choice_eq_some h).mp found)
    · next none' =>
      cases found : inferred? r args with
      | some m => exact .suited (unnamed.mp none') (inferred_eq_some.mp found)
      | none => exact .first (unnamed.mp none') (unsuited.mp found)

theorem findIdx?_lt {p : ServerConfig → Bool} (found : servers.findIdx? p = some n) :
    n < servers.length := (List.findIdx?_eq_some_iff_getElem.mp found).1

/-- Whoever a call goes to is there. -/
theorem GoesTo.lt (goes : GoesTo r args n) (h : r.Finds) (some : r.servers ≠ []) :
    n < r.servers.length := by
  cases goes with
  | named names =>
    cases names with
    | id _ _ _ found => exact findIdx?_lt found
    | language _ _ _ _ found => exact findIdx?_lt found
  | suited _ suits =>
    obtain ⟨-, -, found⟩ := suits
    rw [h.extension, Option.or_eq_some_iff] at found
    exact found.elim findIdx?_lt fun found => findIdx?_lt found.2
  | first => exact List.length_pos_iff.mpr some

/-- A call that names a server by its id goes there, whatever its document is. -/
theorem goesTo_own (h : r.Finds) {server : ServerConfig} (here : r.servers[n]? = some server)
    (several : 1 < r.servers.length) (some : server.id ≠ "")
    (given : args.get? "lsp" = .some (.str server.id)) : GoesTo r args n :=
  .named (.id several given some ((h.id _).symm.trans (h.own here)))

/-! ## The parameters of a request -/

/-- The members are the same in the same order, but for the value of one key. -/
def Rewrites (key : String) (R : Json → Json → Prop) (old new : Json.Members) : Prop :=
  List.Forall₂ (fun a b => b.1 = a.1 ∧ (b.2 = a.2 ∨ a.1 = key ∧ R a.2 b.2)) old new

theorem rewrites_refl {key : String} {R : Json → Json → Prop} (ms : Json.Members) :
    Rewrites key R ms ms := by
  induction ms with
  | nil => exact .nil
  | cons a ms ih => exact .cons ⟨rfl, .inl rfl⟩ ih

theorem rewrites_set {key : String} {R : Json → Json → Prop} {ms : Json.Members} {v w : Json}
    (here : ms.get? key = some v) (step : R v w) : Rewrites key R ms (ms.set key w) := by
  induction ms with
  | nil => cases here
  | cons a ms ih =>
    obtain ⟨k, u⟩ := a
    unfold Json.Members.set
    by_cases e : k = key
    · subst e
      obtain rfl : u = v := by simpa [Json.Members.get?] using here
      rw [if_pos (beq_self_eq_true k)]
      exact .cons ⟨rfl, .inr ⟨rfl, step⟩⟩ (rewrites_refl ms)
    · rw [if_neg (by simpa using e)]
      refine .cons ⟨rfl, .inl rfl⟩ (ih ?_)
      simpa [Json.Members.get?, e] using here

/-- The same arguments, with the given URI for the document. -/
def Readdresses (uri : String) : Json.Members → Json.Members → Prop :=
  Rewrites "textDocument" fun old new => ∃ ms ms', old = .obj ms ∧ new = .obj ms' ∧
    Rewrites "uri" (fun _ new => new = .str uri) ms ms'

/-- The arguments of a call without the server that it names, if there is a choice of servers. -/
def passedOn (r : Roster) (args : Json.Members) : Json.Members :=
  if 1 < r.servers.length then args.filter (·.1 ≠ "lsp") else args

/-- What a call of a method sends: the request, and before it the document if it is a file. -/
inductive Forwards (languages : List String) (method : String) (args : Json.Members) :
    List Send → Prop
  | plain (none : Forwarding.fileDocument? args = none) :
    Forwards languages method args [.request method (.obj args)]
  | opens {uri contents : String} {params : Json.Members}
    (file : (Forwarding.fileDocument? args).isSome) (same : Readdresses uri args params) :
    Forwards languages method args
      [Forwarding.opening languages uri contents, .request method (.obj params)]

theorem forwards_sends {languages : List String} {sends : List Send}
    (ok : Forwarding.sends fs languages method args = .ok sends) :
    Forwards languages method args sends := by
  unfold Forwarding.sends at ok
  split at ok
  · next none' =>
    obtain rfl := Except.ok.inj ok
    exact .plain none'
  · next document uri file =>
    split at ok
    · cases ok
    · split at ok
      · cases ok
      · split at ok
        · cases ok
        · obtain rfl := Except.ok.inj ok
          refine .opens (by rw [file]; rfl) ?_
          unfold Forwarding.fileDocument? at file
          split at file
          · next ms here =>
            split at file
            · next uri' named =>
              split at file
              · cases file
              · obtain ⟨rfl, rfl⟩ := Prod.mk.inj (Option.some.inj file)
                exact rewrites_set here ⟨_, _, rfl, rfl, rewrites_set named rfl⟩
            · cases file
          · cases file

end Gateway

end LspGateway
