import LspGateway.Proofs.Client.Scripts
import LspGateway.Proofs.Gateway.Memory
import LspGateway.Proofs.Text.Digits
import LspGateway.Proofs.Wire.Frames

/-! # What servers are told of documents

A server is told of a document in a file when it is about to be asked about it, and of a document in
memory once. It is never told that a document is closed.
-/

namespace LspGateway

namespace Text

variable {n w : Nat}

/-- The digits that a number is written with, whatever stands before it. -/
theorem ofDigits_hex (w n : Nat) :
    Nat.ofDigits 16 ((hex w n).toList.filterMap hexDigit?).reverse = n := by
  have read {ds : List Nat} (small : ∀ d ∈ ds, d < 16) :
      (ds.map digitChar).filterMap hexDigit? = ds := by
    induction ds with
    | nil => rfl
    | cons d ds ih =>
      rw [List.map_cons, List.filterMap_cons, hexDigit?_digitChar d (small d List.mem_cons_self),
        ih fun d mem => small d (List.mem_cons_of_mem _ mem)]
  have zeros {k : Nat} : (List.replicate k '0').filterMap hexDigit? = List.replicate k 0 := by
    induction k with
    | zero => rfl
    | succ k ih => rw [List.replicate_succ, List.filterMap_cons, ih]; rfl
  unfold hex
  rw [String.toList_ofList, List.filterMap_append, zeros, List.reverse_append,
    List.reverse_replicate, Nat.ofDigits_append_replicate_zero]
  obtain rfl | some := Nat.eq_zero_or_pos n
  · decide
  · rw [digits_eq (by omega) some.ne', read, List.reverse_reverse, Nat.ofDigits_digits]
    intro d mem
    exact Nat.digits_lt_base (by omega) (List.mem_reverse.mp mem)

theorem hex_injective {n' : Nat} (same : hex w n = hex w n') : n = n' := by
  rw [← ofDigits_hex w n, same, ofDigits_hex]

theorem dot_notMem_hex : '.' ∉ (hex w n).toList := by
  have other : ∀ d < 16, '.' ≠ digitChar d := by decide
  unfold hex
  rw [String.toList_ofList, List.mem_append, not_or]
  refine ⟨fun mem => absurd (List.eq_of_mem_replicate mem) (by decide), fun mem => ?_⟩
  obtain rfl | some := Nat.eq_zero_or_pos n
  · exact absurd mem (by decide)
  · rw [digits_eq (by omega) some.ne'] at mem
    obtain ⟨d, listed, same⟩ := List.mem_map.mp mem
    exact other d (Nat.digits_lt_base (by omega) (List.mem_reverse.mp listed)) same.symm

end Text

namespace Gateway

/-- No two documents in memory have the same URI. -/
theorem number_of_memoryUri {j k : Nat} {a b : String} (same : memoryUri j a = memoryUri k b) :
    j = k := by
  have split (n : Nat) (id : String) : Text.splitFirst '.'
      ((memoryUri n id).toList.drop Uri.memoryScheme.toList.length) =
        some ((Text.hex 16 n).toList, id.toList) := by
    unfold memoryUri
    rw [String.append_assoc, String.append_assoc, String.toList_append, List.drop_left,
      String.toList_append, String.toList_append]
    exact Text.splitFirst_append Text.dot_notMem_hex
  have parts := split j a
  rw [same, split k b] at parts
  obtain ⟨hex, -⟩ := Prod.mk.inj (Option.some.inj parts)
  exact (Text.hex_injective (String.toList_injective hex)).symm

end Gateway

/-! ## Messages -/

/-- The document that parameters are about. -/
def Json.document? (params : Json) : Option String :=
  ((params.get? "textDocument").bind (·.get? "uri")).bind Json.str?

/-- The document is in a file. -/
def Uri.NamesFile (uri : String) : Prop := uri ≠ "" ∧ Uri.isMemory uri = false

theorem Gateway.not_namesFile_memoryUri {n : Nat} {server : String} :
    ¬ Uri.NamesFile (memoryUri n server) := by
  rintro ⟨-, file⟩
  rw [isMemory_memoryUri] at file
  cases file

namespace Client

variable {good : List Send → Prop} {broken : Prop} {c c₁ : Client} {i : Input} {u u' : String}
  {m o o' : Json} {ms us before between after : List Json} {ss : List Send} {k n held held' : Nat}
  {id : Option Nat} {method contents : String} {params : Json} {languages : List String}

/-- The document that a message is about. -/
def documentOf (m : Json) : Option String := (m.get? "params").bind Json.document?

/-- The server is told that a document is open. -/
def IsOpening (u : String) (m : Json) : Prop :=
  m.get? "id" = none ∧ m.get? "method" = some (.str Forwarding.openMethod) ∧ documentOf m = some u

/-- The server is told that a document is closed. -/
def IsClosing (u : String) (m : Json) : Prop :=
  m.get? "id" = none ∧ m.get? "method" = some (.str "textDocument/didClose") ∧
    documentOf m = some u

/-- The server is asked about a document. -/
def AsksAbout (u : String) (m : Json) : Prop := (m.get? "id").isSome ∧ documentOf m = some u

instance (u : String) (m : Json) : Decidable (IsOpening u m) :=
  inferInstanceAs (Decidable (_ ∧ _ ∧ _))

instance (u : String) (m : Json) : Decidable (IsClosing u m) :=
  inferInstanceAs (Decidable (_ ∧ _ ∧ _))

instance (u : String) (m : Json) : Decidable (AsksAbout u m) :=
  inferInstanceAs (Decidable (_ ∧ _))

theorem documentOf_message : documentOf (message id method params) = params.document? := by
  by_cases none' : params = .null
  · subst none'
    cases id <;> rfl
  · cases id <;> simp [message, documentOf, Json.get?, Json.Members.get?, none']

/-- A notification that tells of an open document. -/
def news (languages : List String) (u contents : String) : Json :=
  (Forwarding.opening languages u contents).message 0

theorem news_eq (languages : List String) (u contents : String) : ∃ params,
    news languages u contents = message none Forwarding.openMethod params ∧
      params.document? = some u :=
  ⟨_, rfl, by simp [Json.document?, Json.get?, Json.Members.get?, Json.str?]⟩

theorem isOpening_news : IsOpening u' (news languages u contents) ↔ u' = u := by
  obtain ⟨params, e, about⟩ := news_eq languages u contents
  rw [e, IsOpening, get_id_message, get_method_message, documentOf_message, about]
  simp [eq_comm]

theorem not_asksAbout_news : ¬ AsksAbout u' (news languages u contents) := by
  obtain ⟨params, e, -⟩ := news_eq languages u contents
  rw [e, AsksAbout, get_id_message]
  simp

theorem not_isClosing_news : ¬ IsClosing u' (news languages u contents) := by
  obtain ⟨params, e, -⟩ := news_eq languages u contents
  rw [e, IsClosing, get_method_message]
  simp [Forwarding.openMethod]

theorem asksAbout_request {j : Nat} :
    AsksAbout u (message (some j) method params) ↔ params.document? = some u := by
  rw [AsksAbout, get_id_message, documentOf_message]
  simp

theorem not_isOpening_request {j : Nat} : ¬ IsOpening u (message (some j) method params) := by
  rintro ⟨none', -⟩
  rw [get_id_message] at none'
  cases none'

theorem not_isClosing_request {j : Nat} : ¬ IsClosing u (message (some j) method params) := by
  rintro ⟨none', -⟩
  rw [get_id_message] at none'
  cases none'

/-- What a client says by itself is about no document. -/
theorem IsRoutine.document (routine : IsRoutine m) : documentOf m = none := by
  cases routine with
  | introduces c =>
    rw [opening, documentOf_message]
    simp [introduction, Json.document?, Json.get?, Json.Members.get?]
  | greets | stops | leaves =>
    exact documentOf_message

/-! ## Scripts about documents -/

/-- What the calls of a gateway have to say that has had a number of documents in memory. -/
inductive Speech (held : Nat) : List Send → Prop
  | memory {languages : List String} {number : Nat} {server contents : String}
    (known : number ≤ held) :
    Speech held [Forwarding.opening languages (Gateway.memoryUri number server) contents]
  | plain {method : String} {params : Json}
    (free : ∀ u, params.document? = some u → ¬ Uri.NamesFile u) :
    Speech held [.request method params]
  | file {languages : List String} {u contents method : String} {params : Json}
    (file : Uri.NamesFile u) (about : params.document? = some u) :
    Speech held [Forwarding.opening languages u contents, .request method params]

theorem Speech.isScript (h : Speech held ss) : IsScript ss := by
  cases h with
  | memory | plain => exact .single
  | file => exact .announced

theorem Speech.mono (h : Speech held ss) (le : held ≤ held') : Speech held' ss := by
  cases h with
  | memory known => exact .memory (Nat.le_trans known le)
  | plain free => exact .plain free
  | file file about => exact .file file about

/-- What is written around a message of a script: what comes before it and what comes after it. -/
inductive Around (held : Nat) (broken : Prop) : List Json → Json → List Json → Prop
  | memory {languages : List String} {number : Nat} {server contents : String}
    (known : number ≤ held) :
    Around held broken [] (news languages (Gateway.memoryUri number server) contents) []
  | plain {method : String} {params : Json} {j : Nat}
    (free : ∀ u, params.document? = some u → ¬ Uri.NamesFile u) :
    Around held broken [] (message (some j) method params) []
  | told {languages : List String} {u contents method : String} {params : Json} {j : Nat}
    (file : Uri.NamesFile u) (about : params.document? = some u) :
    Around held broken [] (news languages u contents) [message (some j) method params]
  | asked {languages : List String} {u contents method : String} {params : Json} {j : Nat}
    (file : Uri.NamesFile u) (about : params.document? = some u) :
    Around held broken [news languages u contents] (message (some j) method params) []
  | cut {languages : List String} {u contents : String} (file : Uri.NamesFile u) (why : broken) :
    Around held broken [] (news languages u contents) []

theorem Speech.around {first rest : List Json} (h : Speech held ss)
    (utters : Utters broken ss (first ++ m :: rest)) : Around held broken first m rest := by
  have alone {x : Json} (said : first ++ m :: rest = [x]) : first = [] ∧ m = x ∧ rest = [] := by
    cases first <;> simp_all
  generalize said : first ++ m :: rest = us at utters
  cases h with
  | memory known => cases utters <;> obtain ⟨rfl, rfl, rfl⟩ := alone said <;> exact .memory known
  | plain free => cases utters <;> obtain ⟨rfl, rfl, rfl⟩ := alone said <;> exact .plain free
  | file file about =>
    cases utters with
    | all id =>
      cases first with
      | nil =>
        obtain ⟨rfl, rfl⟩ := List.cons.inj said
        exact .told file about
      | cons x first =>
        obtain ⟨rfl, tail⟩ := List.cons.inj said
        cases first with
        | nil =>
          obtain ⟨rfl, rfl⟩ := List.cons.inj tail
          exact .asked file about
        | cons => simp at tail
    | first id why =>
      obtain ⟨rfl, rfl, rfl⟩ := alone said
      exact .cut file why

section Talk

variable (talk : Talk (Speech held) broken ms)
include talk

/-- What a process was sent about a document stands where a script has put it. -/
theorem around_of_talk (sent : ms = before ++ m :: after) (about : documentOf m = some u) :
    ∃ pre first rest later, Around held broken first m rest ∧ before = pre ++ first ∧
      after = rest ++ later := by
  obtain routine | ⟨ss, pre, first, rest, later, kind, utters, found⟩ := talk.locate sent
  · cases routine.document.symm.trans about
  · exact ⟨pre, first, rest, later, kind.around utters, found⟩

/-- Who is asked about a file was told of it right before. -/
theorem opened_of_asksAbout (sent : ms = before ++ m :: after) (asks : AsksAbout u m)
    (file : Uri.NamesFile u) : ∃ pre o, before = pre ++ [o] ∧ IsOpening u o := by
  obtain ⟨pre, first, rest, later, around, rfl, -⟩ := around_of_talk talk sent asks.2
  cases around with
  | memory | told | cut => exact absurd asks not_asksAbout_news
  | plain free => exact absurd file (free u (asksAbout_request.mp asks))
  | asked _ about =>
    obtain rfl := Option.some.inj (about.symm.trans (asksAbout_request.mp asks))
    exact ⟨pre, _, rfl, isOpening_news.mpr rfl⟩

/-- Nobody is told that a document is closed. -/
theorem not_isClosing_of_talk (mem : m ∈ ms) : ¬ IsClosing u m := by
  intro closes
  obtain ⟨before, after, sent⟩ := List.append_of_mem mem
  obtain ⟨pre, first, rest, later, around, -⟩ := around_of_talk talk sent closes.2.2
  cases around with
  | memory | told | cut => exact not_isClosing_news closes
  | plain | asked => exact not_isClosing_request closes

/-- A server that was told of a file is asked about it before it is told of it again. -/
theorem asked_between (sent : ms = before ++ o :: (between ++ o' :: after)) (opens : IsOpening u o)
    (again : IsOpening u o') (file : Uri.NamesFile u) :
    broken ∨ ∃ m ∈ between, AsksAbout u m := by
  obtain ⟨pre, first, rest, later, around, -, next⟩ := around_of_talk talk sent opens.2.2
  cases around with
  | memory =>
    obtain rfl := isOpening_news.mp opens
    exact absurd file Gateway.not_namesFile_memoryUri
  | plain | asked => exact absurd opens not_isOpening_request
  | told _ about =>
    obtain rfl := isOpening_news.mp opens
    cases between with
    | nil =>
      obtain ⟨rfl, -⟩ := List.cons.inj next
      exact absurd again not_isOpening_request
    | cons m between =>
      obtain ⟨rfl, -⟩ := List.cons.inj next
      exact .inr ⟨_, List.mem_cons_self, asksAbout_request.mpr about⟩
  | cut _ why => exact .inl why

/-- Servers are told of files, and of documents that were held in memory. -/
theorem known_of_isOpening (mem : m ∈ ms) (opens : IsOpening u m) :
    Uri.NamesFile u ∨ ∃ number ≤ held, ∃ server, u = Gateway.memoryUri number server := by
  obtain ⟨before, after, sent⟩ := List.append_of_mem mem
  obtain ⟨pre, first, rest, later, around, -⟩ := around_of_talk talk sent opens.2.2
  cases around with
  | memory known => exact .inr ⟨_, known, _, isOpening_news.mp opens⟩
  | told file | cut file =>
    rw [isOpening_news.mp opens]
    exact .inl file
  | plain | asked => exact absurd opens not_isOpening_request

end Talk

/-! ## Documents in memory -/

/-- A server is to be told of a document. -/
def Plans (u : String) (ss : List Send) : Prop := ∃ send ∈ ss, IsOpening u (send.message 0)

theorem not_plans_nil : ¬ Plans u [] := by
  rintro ⟨send, ⟨⟩, -⟩

theorem not_plans_request : ¬ Plans u [.request method params] := by
  rintro ⟨send, mem, opens⟩
  obtain rfl := List.mem_singleton.mp mem
  exact not_isOpening_request opens

theorem eq_of_plans (plans : Plans u' (Forwarding.opening languages u contents :: ss))
    (only : ¬ Plans u' ss) : u' = u := by
  obtain ⟨send, mem, opens⟩ := plans
  obtain rfl | mem := List.mem_cons.mp mem
  · exact isOpening_news.mp opens
  · exact absurd ⟨send, mem, opens⟩ only

/-- Servers are to be told of files, and of documents that are held in memory. -/
theorem Speech.known (h : Speech held ss) (plans : Plans u ss) :
    Uri.NamesFile u ∨ ∃ number ≤ held, ∃ server, u = Gateway.memoryUri number server := by
  cases h with
  | memory known => exact .inr ⟨_, known, _, eq_of_plans plans not_plans_nil⟩
  | plain => exact absurd plans not_plans_request
  | file file =>
    rw [eq_of_plans plans not_plans_request]
    exact .inl file

/-- How often a process was told of a document. -/
def timesOpened (c : Client) (k : Nat) (u : String) : Nat := (c.sentTo k).countP (IsOpening u ·)

/-- No server was or is to be told of a document. -/
structure Unheard (u : String) (c : Client) : Prop where
  unplanned : ∀ n, ¬ Plans u (c.unsaid n)
  unopened : ∀ k, c.timesOpened k u = 0

/-- At most one server is told of a document, and once at most. -/
structure OpensOnce (u : String) (c : Client) : Prop where
  one : ∀ n m, Plans u (c.unsaid n) → Plans u (c.unsaid m) → n = m
  either : ∀ n, Plans u (c.unsaid n) → ∀ k, c.timesOpened k u = 0
  once : ∀ k, c.timesOpened k u ≤ 1

theorem Unheard.opensOnce (h : Unheard u c) : OpensOnce u c :=
  ⟨fun n _ plans => absurd plans (h.unplanned n), fun n plans => absurd plans (h.unplanned n),
    fun k => Nat.le_of_eq (h.unopened k) |>.trans (Nat.zero_le 1)⟩

theorem isOpening_message {send : Send} {j : Nat} (opens : IsOpening u (send.message j)) :
    IsOpening u (send.message 0) := by
  cases send with
  | notify => exact opens
  | request => exact absurd opens not_isOpening_request

/-- What is uttered of a script tells of a document once at most. -/
theorem count_utters (h : Speech held ss) (utters : Utters broken ss us) :
    us.countP (IsOpening u ·) ≤ 1 := by
  have single (m : Json) : [m].countP (IsOpening u ·) ≤ 1 := List.countP_le_length
  cases h with
  | memory | plain => cases utters <;> exact single _
  | @file languages u' contents method params =>
    cases utters with
    | all id =>
      have request : ¬ IsOpening u ((Send.request method params).message id) :=
        not_isOpening_request
      rw [List.map_cons, List.map_cons, List.map_nil, List.countP_cons, List.countP_cons,
        if_neg (by simpa using request)]
      split <;> simp
    | first id => exact single _

theorem plans_of_count (utters : Utters broken ss us) (some : us.countP (IsOpening u ·) ≠ 0) :
    Plans u ss := by
  obtain ⟨m, mem, opens⟩ := List.countP_pos_iff.mp (Nat.pos_of_ne_zero some)
  have opens : IsOpening u m := of_decide_eq_true opens
  cases utters with
  | all id =>
    obtain ⟨send, listed, rfl⟩ := List.mem_map.mp mem
    exact ⟨send, listed, isOpening_message opens⟩
  | @first send ss id why =>
    obtain rfl := List.mem_singleton.mp mem
    exact ⟨send, List.mem_cons_self, isOpening_message opens⟩

theorem count_adds (adds : Adds c c₁) : c₁.timesOpened k u = c.timesOpened k u := by
  obtain ⟨rs, sent, routine⟩ := adds k
  have none' : rs.countP (IsOpening u ·) = 0 := by
    refine List.countP_eq_zero.mpr fun m mem opens => ?_
    cases (routine m mem).document.symm.trans (of_decide_eq_true opens).2.2
  rw [timesOpened, sent, List.countP_append, none']
  rfl

/-- Nothing new is said or planned. -/
theorem OpensOnce.congr (h : OpensOnce u c)
    (was : ∀ n, Plans u (c₁.unsaid n) → Plans u (c.unsaid n))
    (times : ∀ k, c₁.timesOpened k u = c.timesOpened k u) : OpensOnce u c₁ := by
  refine ⟨fun n m p p' => h.one n m (was n p) (was m p'), fun n p k => ?_, fun k => ?_⟩
  · rw [times]
    exact h.either n (was n p) k
  · rw [times]
    exact h.once k

theorem OpensOnce.recites (h : OpensOnce u c) (script : c.unsaid n = [] ∨ Speech held (c.unsaid n))
    (recites : Recites c n (c.unsaid n) c₁)
    (others : ∀ m, m ≠ n → Plans u (c₁.unsaid m) → Plans u (c.unsaid m)) : OpensOnce u c₁ := by
  cases recites with
  | silent same left =>
    refine h.congr (fun m plans => ?_) fun k => by rw [timesOpened, same]; rfl
    by_cases own : m = n
    · subst own
      obtain none' | e := left
      · rw [none'] at plans
        exact absurd plans not_plans_nil
      · rwa [e] at plans
    · exact others m own plans
  | @spoken j us utters left sent =>
    have was m (plans : Plans u (c₁.unsaid m)) : m ≠ n ∧ Plans u (c.unsaid m) := by
      have other : m ≠ n := by
        rintro rfl
        rw [left] at plans
        exact not_plans_nil plans
      exact ⟨other, others m other plans⟩
    have times k : c₁.timesOpened k u =
        c.timesOpened k u + if k = j then us.countP (IsOpening u ·) else 0 := by
      rw [timesOpened, sent]
      split
      · exact List.countP_append
      · rfl
    by_cases some : us.countP (IsOpening u ·) = 0
    · refine h.congr (fun m plans => (was m plans).2) fun k => ?_
      rw [times, some, ite_self]
      rfl
    · -- Nobody else was to tell a server of the document.
      have plans : Plans u (c.unsaid n) := plans_of_count utters some
      have silent m (p : Plans u (c₁.unsaid m)) : False :=
        (was m p).1 (h.one m n (was m p).2 plans)
      have kind : Speech held (c.unsaid n) := by
        refine script.resolve_left fun none' => ?_
        rw [none'] at plans
        exact not_plans_nil plans
      refine ⟨fun m _ p => (silent m p).elim, fun m p => (silent m p).elim, fun k => ?_⟩
      have one := count_utters (u := u) kind utters
      rw [times, h.either n plans k]
      split <;> omega

/-- A server is told once, whatever happens, unless another call is to tell it. -/
theorem OpensOnce.delivers (h : OpensOnce u c)
    (scripts : ∀ n, c.unsaid n = [] ∨ Speech held (c.unsaid n)) (delivers : Delivers c i c₁)
    (new : ∀ ss, i = .call (.sends ss) → Plans u ss → Unheard u c) : OpensOnce u c₁ := by
  have stays m (left : c₁.unsaid m = [] ∨ c₁.unsaid m = c.unsaid m)
      (plans : Plans u (c₁.unsaid m)) : Plans u (c.unsaid m) := by
    obtain none' | same := left
    · rw [none'] at plans
      exact absurd plans not_plans_nil
    · rwa [same] at plans
  cases delivers with
  | @recites n recites others =>
    exact h.recites (scripts n) recites fun m other => stays m (others m other)
  | routine adds left =>
    have times k : c₁.timesOpened k u = c.timesOpened k u := count_adds adds
    by_cases fresh : Unheard u c
    · have last m (plans : Plans u (c₁.unsaid m)) : m = c.calls.length := by
        obtain none' | same | ⟨new, -⟩ := left m
        · exact absurd (stays m (.inl none') plans) (fresh.unplanned m)
        · exact absurd (stays m (.inr same) plans) (fresh.unplanned m)
        · exact new
      refine ⟨fun m m' p p' => (last m p).trans (last m' p').symm, fun m _ k => ?_, fun k => ?_⟩
      · rw [times]
        exact fresh.unopened k
      · rw [times]
        exact h.once k
    · refine h.congr (fun m plans => ?_) times
      obtain none' | same | ⟨-, asked⟩ := left m
      · exact stays m (.inl none') plans
      · exact stays m (.inr same) plans
      · exact absurd (new _ asked plans) fresh

/-- How a client stands in a gateway that has had a number of documents in memory. -/
structure Briefed (held : Nat) (c : Client) : Prop where
  scripted : Scripted (Speech held) c
  once : ∀ u, Uri.isMemory u → OpensOnce u c

theorem briefed_ofConfig {config : ServerConfig} {workspace : String} {policies : List Policy} :
    Briefed held (ofConfig config workspace policies) :=
  ⟨scripted_ofConfig, fun _ _ => Unheard.opensOnce ⟨fun _ => not_plans_nil, fun _ => rfl⟩⟩

namespace Briefed

theorem mono (h : Briefed held c) (le : held ≤ held') : Briefed held' c :=
  ⟨h.scripted.mono fun _ kind => kind.mono le, h.once⟩

theorem step (h : Briefed held c) (fits : i.Fits c) (given : ∀ ss, i = .call (.sends ss) →
      Speech held ss ∧ ∀ u, Uri.isMemory u → Plans u ss → Unheard u c) :
    Briefed held (c.step i) := by
  have delivers := h.scripted.delivers (fun _ kind => kind.isScript) fits
  refine ⟨h.scripted.step (fun _ kind => kind.isScript) fits fun ss asked => (given ss asked).1,
    fun u memory => ?_⟩
  exact (h.once u memory).delivers h.scripted.unsaid delivers fun ss asked plans =>
    (given ss asked).2 u memory plans

/-- A document that a process is told of again is in a file. -/
theorem namesFile_of_again (h : Briefed held c)
    (sent : c.sentTo k = before ++ o :: (between ++ o' :: after)) (opens : IsOpening u o)
    (again : IsOpening u o') : Uri.NamesFile u := by
  have mem : o ∈ c.sentTo k := by
    rw [sent]
    exact List.mem_append_right _ List.mem_cons_self
  obtain file | ⟨number, -, server, e⟩ := known_of_isOpening (h.scripted.talks k) mem opens
  · exact file
  · have once := (h.once u (e ▸ Gateway.isMemory_memoryUri)).once k
    rw [timesOpened, sent, List.countP_append, List.countP_cons_of_pos (by simpa using opens),
      List.countP_append, List.countP_cons_of_pos (by simpa using again)] at once
    omega

/-- No server has heard of the next document in memory. -/
theorem unheard_next (h : Briefed held c) (server : String) :
    Unheard (Gateway.memoryUri (held + 1) server) c := by
  have other {u : String} (known : Uri.NamesFile u ∨
      ∃ number ≤ held, ∃ server, u = Gateway.memoryUri number server) :
      Gateway.memoryUri (held + 1) server ≠ u := by
    rintro rfl
    obtain file | ⟨number, le, server', same⟩ := known
    · exact Gateway.not_namesFile_memoryUri file
    · have := Gateway.number_of_memoryUri same
      omega
  refine ⟨fun n plans => ?_, fun k => ?_⟩
  · obtain none' | kind := h.scripted.unsaid n
    · rw [none'] at plans
      exact not_plans_nil plans
    · exact other (kind.known plans) rfl
  · refine List.countP_eq_zero.mpr fun m mem opens => ?_
    exact other (known_of_isOpening (h.scripted.talks k) mem (of_decide_eq_true opens)) rfl

end Briefed

end Client

end LspGateway
