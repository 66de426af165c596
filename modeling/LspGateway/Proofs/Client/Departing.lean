import LspGateway.Proofs.Client.Sparing

/-! # How a client takes leave of its processes

While a disposal waits for the answer to its shutdown request, the client goes on using its
connection, and other calls can write to it. Unless one of them does, a process is asked to shut
down once, and is sent nothing after that but the notification to exit.
-/

namespace LspGateway

namespace Client

variable {hit : Nat → Prop} {c c₁ : Client} {d d₁ : Option Doer} {lost : List Loss}
  {l k n id : Nat} {i : Input} {inputs rest : List Input} {p : CallPhase} {told : Option Signal}

/-! ## Disposals that wait -/

/-- The call waits for the answer of the process of a link to its shutdown request. -/
def PartsFrom (c : Client) (n l id : Nat) : Prop :=
  ∃ d s, c.calls[n]? = some ⟨.shuttingDown l id d, s⟩

theorem PartsFrom.phase (h : c.PartsFrom n l id) (here : c.calls[n]? = some ⟨p, told⟩) :
    ∃ d, p = .shuttingDown l id d := by
  obtain ⟨d, s, there⟩ := h
  exact ⟨d, congrArg Call.phase (Option.some.inj (here.symm.trans there))⟩

theorem PartsFrom.expects (h : c.PartsFrom n l id) (sent : id ≠ 0) :
    (c.role (.call n)).expects = some (l, id) := by
  obtain ⟨d, s, here⟩ := h
  simp [role, standing, here, Call.standing, CallPhase.role, sent]

theorem Pauses.not_partsFrom {ss : List Send} (h : Pauses c n ss) : ¬ c.PartsFrom n l id := by
  rintro ⟨d, s, here⟩
  simpa [CallPhase.parts] using (h _ here).2 l

theorem Asks.partsFrom (h : Asks n l id c c₁) (after : n < c₁.calls.length) :
    c₁.PartsFrom n l id := by
  obtain ⟨d, e⟩ := h.waits _ (List.getElem?_eq_getElem after)
  exact ⟨d, c₁.calls[n].signal, by rw [← e, List.getElem?_eq_getElem after]⟩

theorem partsFrom_step (sound : Sound c none lost) (fits : i.Fits c) (apart : ¬ c.IsTurn n i) :
    (c.step i).PartsFrom n l id ↔ c.PartsFrom n l id := by
  constructor
  · rintro ⟨d, s, after⟩
    obtain ⟨s', before⟩ | ⟨job, -, -, other⟩ := call_phase_before sound fits apart after
    · exact ⟨d, s', before⟩
    · cases other
  · rintro ⟨d, s, here⟩
    obtain ⟨s', after⟩ := call_kept sound fits apart here
    exact ⟨d, s', after⟩

/-! ## The turn of a call -/

/-- A turn of a call, from the view of a link. -/
structure Aside (n l : Nat) (c c₁ : Client) : Prop where
  here : l < c.links.length
  holds : c.HoldsLinks
  numbered : Numbered c
  spawn : (c₁.link l).spawn = (c.link l).spawn
  after : n < c₁.calls.length
  others : ∀ m id, m ≠ n → (c₁.PartsFrom m l id ↔ c.PartsFrom m l id)

namespace Aside

theorem apart (h : Aside n l c c₁) (there : k < c.links.length) (other : k ≠ l) :
    (c.link k).spawn ≠ (c.link l).spawn :=
  fun same => other (h.numbered.apart k there l h.here same)

theorem same (h : Aside n l c c₁)
    (sent : c₁.sentTo (c.link l).spawn = c.sentTo (c.link l).spawn) :
    c₁.sentTo (c₁.link l).spawn = c.sentTo (c.link l).spawn := by
  rw [h.spawn, sent]

/-- A call that sends writes to a process only if callers can send to it. -/
theorem said (h : Aside n l c c₁) (said : Says p.sends c c₁)
    (modest : ∀ s ∈ p.sends, s.method ≠ "shutdown") :
    c₁.sentTo (c₁.link l).spawn = c.sentTo (c.link l).spawn ∨
      p.speaks ∧ c.IsUsable l ∧ (c.Unasked l → c₁.Unasked l) := by
  obtain ⟨ms, sent, methods, used⟩ := said.sent (c.link l).spawn
  by_cases silent : ms = []
  · exact .inl (h.same (by rw [sent, silent, List.append_nil]))
  · right
    obtain ⟨k, usable, same⟩ := used silent
    obtain rfl := h.numbered.apart k (h.holds k (.inr usable.2)) l h.here same
    refine ⟨?_, usable, fun unasked => ?_⟩
    · obtain ⟨m, mem⟩ := List.exists_mem_of_ne_nil ms silent
      obtain ⟨send, mem, -⟩ := methods m mem
      exact CallPhase.speaks_of_sends mem
    · rw [Unasked, h.spawn, sent]
      intro m mem
      rcases List.mem_append.mp mem with old | new
      · exact unasked m old
      · obtain ⟨send, mem, method⟩ := methods m new
        exact isShutdown_of_method method (modest send mem)

/-- A disposal that asks the server in use leaves other processes alone. -/
theorem asked (h : Aside n l c c₁) (asks : Asks n k id c c₁) (other : k ≠ l) :
    c₁.sentTo (c₁.link l).spawn = c.sentTo (c.link l).spawn ∧ ¬ c₁.IsUsable l := by
  have apart := h.apart (h.holds k (.inr asks.usable.2)) other
  refine ⟨h.same (asks.others _ apart), fun usable => other ?_⟩
  rw [IsUsable, asks.held] at usable
  exact Option.some.inj (asks.usable.2.symm.trans usable.2)

theorem not_partsFrom (h : Aside n l c c₁) (idle : ∀ id, ¬ c₁.PartsFrom n l id) (m id : Nat)
    (waits : c₁.PartsFrom m l id) : m ≠ n ∧ c.PartsFrom m l id := by
  have other : m ≠ n := by
    rintro rfl
    exact idle id waits
  exact ⟨other, (h.others m id other).mp waits⟩

end Aside

/-! ## What is written late -/

/-- Callers can send to a process that was asked to shut down only while a call waits for its
answer. -/
def Watched (c : Client) (l : Nat) : Prop :=
  c.Unasked l ∨ (c.IsUsable l → ∃ n id, c.PartsFrom n l id)

/-- What is written to the process of a link in a step is written to one that was not asked to shut
down, or while a call waits for its answer. -/
def InTime (c c₁ : Client) (l : Nat) : Prop :=
  c₁.sentTo (c₁.link l).spawn = c.sentTo (c.link l).spawn ∨ c.Unasked l ∨
    ∃ n id, c.PartsFrom n l id

namespace Watched

variable {s : Signal}

theorem keep (h : Watched c l) (sent : c₁.sentTo (c₁.link l).spawn = c.sentTo (c.link l).spawn)
    (usable : c₁.IsUsable l → c.IsUsable l)
    (after : c₁.IsUsable l → ∀ m id, c.PartsFrom m l id → c₁.PartsFrom m l id) : Watched c₁ l := by
  refine h.imp (fun unasked => by rwa [Unasked, sent]) fun waits used => ?_
  obtain ⟨m, id, waits⟩ := waits (usable used)
  exact ⟨m, id, after used m id waits⟩

theorem keep_turn (h : Watched c l) (aside : Aside n l c c₁)
    (sent : c₁.sentTo (c₁.link l).spawn = c.sentTo (c.link l).spawn)
    (usable : c₁.IsUsable l → c.IsUsable l)
    (was : c₁.IsUsable l → ∀ id, ¬ c.PartsFrom n l id) : Watched c₁ l := by
  refine h.keep sent usable fun used m id waits => (aside.others m id ?_).mpr waits
  rintro rfl
  exact was used id waits

/-- A process that can be sent to was not asked to shut down, or its answer is waited for. -/
theorem inTime (h : Watched c l) (usable : c.IsUsable l) : c.InTime c₁ l :=
  .inr (h.imp_right fun waits => waits usable)

theorem turned (h : Watched c l) (aside : Aside n l c c₁) (turned : Turned n p s c c₁)
    (here : c.calls[n]? = some ⟨p, told⟩) (modest : ∀ s ∈ p.sends, s.method ≠ "shutdown")
    (known : ∀ k id d v, p = .shuttingDown k id d → s = .answered (.value v) →
      k < c.links.length) : Watched c₁ l ∧ c.InTime c₁ l := by
  cases turned with
  | sends errand said pauses =>
    have was id : ¬ c.PartsFrom n l id := by
      intro waits
      obtain ⟨d, rfl⟩ := waits.phase here
      cases errand
    have before : c₁.IsUsable l → c.IsUsable l := by
      rw [IsUsable, said.state, said.held]
      exact fun usable => usable
    obtain same | ⟨-, usable, unasked⟩ := aside.said said modest
    · exact ⟨h.keep_turn aside same before fun _ => was, .inl same⟩
    · refine ⟨h.imp unasked fun waits _ => ?_, h.inTime usable⟩
      obtain ⟨m, id, waits⟩ := waits usable
      refine ⟨m, id, (aside.others m id ?_).mpr waits⟩
      rintro rfl
      exact was id waits
  | quits quits off =>
    have same := aside.same (quits.sent _)
    refine ⟨h.keep_turn aside same (quits.usable l) fun usable id waits => ?_, .inl same⟩
    obtain ⟨d, rfl⟩ := waits.phase here
    exact off l (by simp [CallPhase.parts]) l usable
  | @asks k id speaks asks =>
    by_cases own : k = l
    · subst own
      exact ⟨.inr fun _ => ⟨n, id, asks.partsFrom aside.after⟩, h.inTime asks.usable⟩
    · obtain ⟨same, off⟩ := aside.asked asks own
      exact ⟨h.keep_turn aside same (absurd · off) (absurd · off), .inl same⟩
  | @leaves k id d v waits agreed leaves =>
    refine ⟨.inr fun usable => absurd usable (leaves.off l), ?_⟩
    by_cases own : k = l
    · subst own waits
      exact .inr (.inr ⟨n, id, d, told, here⟩)
    · exact .inl (aside.same (leaves.others _ (aside.apart (known k id d v waits agreed) own)))

theorem unasked (h : Watched c l) (usable : c.IsUsable l) (alone : ∀ n id, ¬ c.PartsFrom n l id) :
    c.Unasked l :=
  h.resolve_right fun waits =>
    let ⟨n, id, waits⟩ := waits usable
    alone n id waits

end Watched

/-! ## Taking leave -/

theorem isShutdown_stopRequest : isShutdown (stopRequest id) := by
  simp [isShutdown, stopRequest, get_method_message]

/-- How far a client has taken leave of the process of a link. -/
inductive Parting (agreed : Nat → Prop) (c : Client) (l : Nat) : Prop
  | stays (unasked : c.Unasked l) (idle : ∀ n id, c.PartsFrom n l id → id = 0)
  | asked {ms : List Json} {id : Nat} (sent : c.sentTo (c.link l).spawn = ms ++ [stopRequest id])
    (first : ∀ m ∈ ms, isShutdown m = false) (only : ∀ n i, c.PartsFrom n l i → i = 0 ∨ i = id)
  | left {ms : List Json} {id : Nat}
    (sent : c.sentTo (c.link l).spawn = ms ++ [stopRequest id, farewell])
    (first : ∀ m ∈ ms, isShutdown m = false) (idle : ∀ n i, c.PartsFrom n l i → i = 0)
    (answer : agreed id)

namespace Parting

variable {agreed agreed₁ : Nat → Prop} {s : Signal}

theorem idle (h : Parting agreed c l) (unasked : c.Unasked l) (n id : Nat)
    (waits : c.PartsFrom n l id) : id = 0 := by
  have none' {ms rest : List Json} {i : Nat}
      (sent : c.sentTo (c.link l).spawn = ms ++ stopRequest i :: rest) : False := by
    have := unasked (stopRequest i) (by simp [sent])
    rw [isShutdown_stopRequest] at this
    cases this
  cases h with
  | stays _ idle => exact idle n id waits
  | asked sent => exact (none' sent).elim
  | left sent => exact (none' sent).elim

theorem keep (h : Parting agreed c l) (more : ∀ id, agreed id → agreed₁ id)
    (sent : c₁.sentTo (c₁.link l).spawn = c.sentTo (c.link l).spawn)
    (before : ∀ m id, c₁.PartsFrom m l id → c.PartsFrom m l id) : Parting agreed₁ c₁ l := by
  cases h with
  | stays unasked idle =>
    exact .stays (by rwa [Unasked, sent]) fun n id waits => idle n id (before n id waits)
  | asked sent₀ first only =>
    exact .asked (sent.trans sent₀) first fun n i waits => only n i (before n i waits)
  | left sent₀ first idle answer =>
    exact .left (sent.trans sent₀) first (fun n i waits => idle n i (before n i waits))
      (more _ answer)

/-- Only a process that was not asked to shut down is asked to. -/
theorem asks (h : Parting agreed c l) (aside : Aside n l c c₁) (asks : Asks n l id c c₁)
    (unasked : c.Unasked l) : Parting agreed₁ c₁ l := by
  -- Who waits for an answer is the call that has just asked, or waits for none.
  have only m i (waits : c₁.PartsFrom m l i) : i = 0 ∨ i = id := by
    by_cases own : m = n
    · subst own
      obtain ⟨d, s, here⟩ := asks.partsFrom aside.after
      obtain ⟨d', e⟩ := waits.phase here
      exact .inr (CallPhase.shuttingDown.inj e).2.1.symm
    · exact .inl (h.idle unasked m i ((aside.others m i own).mp waits))
  obtain ⟨rfl, sent⟩ | ⟨i, sent, own⟩ := asks.sent
  · refine .stays ?_ fun m i waits => (only m i waits).elim (fun e => e) fun e => e
    rw [Unasked, aside.same sent]
    exact unasked
  · refine .asked ((congrArg _ aside.spawn).trans sent) unasked fun m j waits => ?_
    obtain zero | rfl := only m j waits
    · exact .inl zero
    · exact own

/-- Only a process that has agreed to shut down is told to exit. -/
theorem leaves (h : Parting agreed c l) (more : ∀ id, agreed id → agreed₁ id)
    (aside : Aside n l c c₁) (leaves : Exits n l c c₁) (waits : c.PartsFrom n l id)
    (some' : id ≠ 0) (own : ∀ m, c.PartsFrom m l id → m = n) (answer : agreed₁ id) :
    Parting agreed₁ c₁ l := by
  have before := aside.not_partsFrom fun _ => leaves.pauses.not_partsFrom
  obtain sent | sent := leaves.sent
  · exact h.keep more (aside.same sent) fun m i waits => (before m i waits).2
  · cases h with
    | stays _ idle => exact absurd (idle n id waits) some'
    | left _ _ idle => exact absurd (idle n id waits) some'
    | @asked ms i asked first only =>
      obtain rfl := (only n id waits).resolve_left some'
      refine .left (?_ : _ = ms ++ [stopRequest id, farewell]) first (fun m j waits => ?_) answer
      · rw [aside.spawn, sent, asked, List.append_assoc]
        rfl
      · obtain ⟨other, still⟩ := before m j waits
        refine (only m j still).resolve_right ?_
        rintro rfl
        exact other (own m still)

theorem turned (h : Parting agreed c l) (more : ∀ id, agreed id → agreed₁ id)
    (watched : Watched c l) (aside : Aside n l c c₁) (turned : Turned n p s c c₁)
    (modest : ∀ s ∈ p.sends, s.method ≠ "shutdown")
    (alone : p.speaks → c.IsUsable l → ∀ m id, ¬ c.PartsFrom m l id)
    (known : ∀ k id d v, p = .shuttingDown k id d → s = .answered (.value v) →
      k < c.links.length ∧ id ≠ 0 ∧ c.PartsFrom n k id ∧ (∀ m, c.PartsFrom m k id → m = n) ∧
        (k = l → agreed₁ id)) : Parting agreed₁ c₁ l := by
  have quiet (sent : c₁.sentTo (c₁.link l).spawn = c.sentTo (c.link l).spawn)
      (idle : ∀ id, ¬ c₁.PartsFrom n l id) : Parting agreed₁ c₁ l :=
    h.keep more sent fun m i waits => (aside.not_partsFrom idle m i waits).2
  cases turned with
  | sends errand said pauses =>
    have idle id : ¬ c₁.PartsFrom n l id := pauses.not_partsFrom
    obtain same | ⟨speaks, usable, still⟩ := aside.said said modest
    · exact quiet same idle
    · have unasked := watched.unasked usable (alone speaks usable)
      exact .stays (still unasked) fun m i waits =>
        h.idle unasked m i (aside.not_partsFrom idle m i waits).2
  | quits quits => exact quiet (aside.same (quits.sent _)) fun _ => quits.pauses.not_partsFrom
  | @asks k id speaks asks =>
    by_cases own : k = l
    · subst own
      exact h.asks aside asks (watched.unasked asks.usable (alone speaks asks.usable))
    · refine quiet (aside.asked asks own).1 fun i waits => own ?_
      obtain ⟨d, s, here⟩ := asks.partsFrom aside.after
      obtain ⟨d', e⟩ := waits.phase here
      exact (CallPhase.shuttingDown.inj e).1
  | @leaves k id d v waits agreed leaves =>
    obtain ⟨there, some', waits, single, answer⟩ := known k id d v waits agreed
    by_cases own : k = l
    · subst own
      exact h.leaves more aside leaves waits some' single (answer rfl)
    · exact quiet (aside.same (leaves.others _ (aside.apart there own)))
        fun _ => leaves.pauses.not_partsFrom

end Parting

/-! ## Steps -/

/-- The call that goes on next has something to send, or may ask the server to shut down, while
another waits for what the server in use answers to such a request. -/
def intrudes (c : Client) : Bool :=
  match c.ready with
  | .call n :: _ =>
    (c.calls[n]?.any fun q => q.phase.speaks) && c.started &&
      c.held.connection.any fun l => c.calls.any fun q => q.phase.parts l
  | _ => false

theorem alone_of_not_intrudes (h : c.intrudes = false) (first : c.ready.head? = some (.call n))
    (here : c.calls[n]? = some ⟨p, told⟩) (speaks : p.speaks) (usable : c.IsUsable l) (m id : Nat) :
    ¬ c.PartsFrom m l id := by
  rintro ⟨d, s, there⟩
  obtain ⟨rest, ready⟩ : ∃ rest, c.ready = .call n :: rest := List.head?_eq_some_iff.mp first
  have parts : c.calls.any fun q => q.phase.parts l :=
    List.any_eq_true.mpr ⟨_, List.mem_of_getElem? there, by simp [CallPhase.parts]⟩
  obtain ⟨running, used⟩ := usable
  simp [intrudes, ready, here, speaks, started, running, used, parts] at h

/-- What holds of a client in a run that notices cancellations, if callers send no shutdown
requests of their own. -/
structure Orderly (c : Client) (lost : List Loss) : Prop where
  sound : Sound c none lost
  sharing : Sharing c none
  handshake : Handshake c none
  heeded : Heeded c
  client : c.audience = .client
  modest : c.Discreet fun s => s.method ≠ "shutdown"

namespace Orderly

theorem aside (h : Orderly c lost) (first : c.ready.head? = some (.call n))
    (here : l < c.links.length) : Aside n l c c.turn := by
  obtain ⟨p, s, stands⟩ := exists_call h.sound first
  refine ⟨here, h.sound.bounds.holds, h.handshake.numbered, ?_, ?_, fun m id other => ?_⟩
  · exact (invariant_spawn.step (i := .turn) trivial trivial h.sound ⟨here, rfl⟩).2.2
  · have length : c.turn.calls.length = c.calls.length :=
      calls_length_step (i := .turn) h.sound trivial nofun
    rw [length]
    exact (List.getElem?_eq_some_iff.mp stands).1
  · refine partsFrom_step (i := .turn) h.sound trivial fun own => other ?_
    exact Task.call.inj (Option.some.inj (own.2.symm.trans first))

/-- A disposal that is told a value has asked a process, and waits alone for what it answers. -/
theorem known (h : Orderly c lost) {d : Nat} {v : Json}
    (here : c.calls[n]? = some ⟨.shuttingDown k id d, some (.answered (.value v))⟩) :
    k < c.links.length ∧ id ≠ 0 ∧ c.PartsFrom n k id ∧ (∀ m, c.PartsFrom m k id → m = n) ∧
      (c.role (.call n)).expects = some (k, id) ∧
      c.told (.call n) = some (.answered (.value v)) := by
  have told : c.told (.call n) = some (.answered (.value v)) := by
    simp [Client.told, standing, here, Call.standing]
  have role : c.role (.call n) = (CallPhase.shuttingDown k id d).role := by
    simp [Client.role, standing, here, Call.standing]
  have some' : id ≠ 0 := by
    rintro rfl
    refine h.sound.agreed (.call n) v told ?_ ?_ <;> rw [roleBy, role] <;> rfl
  have waits : c.PartsFrom n k id := ⟨d, _, here⟩
  have expects := waits.expects some'
  refine ⟨(h.handshake.asks n k id expects).1, some', waits, fun m other => ?_, expects, told⟩
  exact Task.call.inj (h.sound.requests.own _ _ _ (other.expects some') expects)

theorem watched_step (h : Orderly c lost) (fits : i.Fits c) (here : l < c.links.length)
    (watched : Watched c l) : Watched (c.step i) l ∧ c.InTime (c.step i) l := by
  by_cases own : ∃ n, c.IsTurn n i
  · obtain ⟨n, rfl, first⟩ := own
    obtain ⟨p, s, stands⟩ := exists_call h.sound first
    refine watched.turned (h.aside first here) (turned_turn h.sound h.client first stands) stands
      (h.modest n _ stands) ?_
    rintro k id d v rfl agreed
    obtain rfl : s = .answered (.value v) := agreed
    exact (h.known stands).1
  · have apart n : ¬ c.IsTurn n i := fun turn => own ⟨n, turn⟩
    obtain ⟨sent, usable⟩ | ⟨before, after⟩ :=
      (h.handshake.spares_step h.heeded h.sound h.sharing fits here apart).spares
    · refine ⟨watched.keep sent usable fun _ m id => ?_, .inl sent⟩
      exact (partsFrom_step h.sound fits (apart m)).mpr
    · exact ⟨.inl after, .inr (.inl before)⟩

/-- What a process is sent late is sent while a call waits for its answer. -/
theorem late (h : Orderly c lost) (fits : i.Fits c) (watched : ∀ l < c.links.length, Watched c l)
    (asked : ∃ m ∈ c.sentTo k, isShutdown m) : (c.step i).sentTo k = c.sentTo k ∨
      ∃ n l id, (c.link l).spawn = k ∧ c.PartsFrom n l id := by
  obtain ⟨m, written, asked⟩ := asked
  obtain ⟨l, here, rfl⟩ := h.handshake.exists_link (List.ne_nil_of_mem written)
  obtain ⟨-, same | unasked | ⟨n, id, waits⟩⟩ := h.watched_step fits here (watched l here)
  · have spawn := (invariant_spawn.step trivial fits h.sound ⟨here, rfl⟩).2.2
    exact .inl (spawn ▸ same)
  · rw [unasked m written] at asked
    cases asked
  · exact .inr ⟨n, l, id, rfl, waits⟩

theorem parting_step {agreed agreed₁ : Nat → Prop} (h : Orderly c lost) (fits : i.Fits c)
    (here : l < c.links.length) (watched : Watched c l) (parting : Parting agreed c l)
    (more : ∀ id, agreed id → agreed₁ id) (alone : i = .turn → c.intrudes = false)
    (answer : ∀ n id v, (c.role (.call n)).expects = some (l, id) →
      c.told (.call n) = some (.answered (.value v)) → agreed₁ id) :
    Parting agreed₁ (c.step i) l := by
  by_cases own : ∃ n, c.IsTurn n i
  · obtain ⟨n, rfl, first⟩ := own
    obtain ⟨p, s, stands⟩ := exists_call h.sound first
    refine parting.turned more watched (h.aside first here)
      (turned_turn h.sound h.client first stands) (h.modest n _ stands)
      (alone_of_not_intrudes (alone rfl) first stands) ?_
    rintro k id d v rfl agreed
    obtain rfl : s = .answered (.value v) := agreed
    obtain ⟨there, some', waits, single, expects, told⟩ := h.known stands
    refine ⟨there, some', waits, single, ?_⟩
    rintro rfl
    exact answer n id v expects told
  · have apart n : ¬ c.IsTurn n i := fun turn => own ⟨n, turn⟩
    have before n id : (c.step i).PartsFrom n l id → c.PartsFrom n l id :=
      (partsFrom_step h.sound fits (apart n)).mp
    obtain ⟨sent, -⟩ | ⟨first, after⟩ :=
      (h.handshake.spares_step h.heeded h.sound h.sharing fits here apart).spares
    · exact parting.keep more sent before
    · exact .stays after fun n id waits => parting.idle first n id (before n id waits)

/-- A process that is started in a step is only introduced in it. -/
theorem not_greeted (h : Orderly c lost) (fits : i.Fits c) (here : l < (c.step i).links.length)
    (new : ¬ l < c.links.length) : ¬ (c.step i).Greeted l := by
  intro greeted
  obtain ⟨old, -⟩ | ⟨n, j, expects, -⟩ :=
    h.handshake.greets_step h.heeded h.sound h.sharing fits here greeted
  · exact new old
  · exact new (h.handshake.opens n l 1 expects).2.1

theorem fresh (h : Orderly c lost) (fits : i.Fits c) (after : Handshake (c.step i) none)
    (here : l < (c.step i).links.length) (new : ¬ l < c.links.length) : (c.step i).Unasked l := by
  obtain none' | only | greeted := after.course l here
  · rw [Unasked, none']
    simp
  · exact only.unasked
  · exact absurd greeted (h.not_greeted fits here new)

theorem parting_fresh {agreed : Nat → Prop} (h : Orderly c lost) (fits : i.Fits c)
    (after : Handshake (c.step i) none) (here : l < (c.step i).links.length)
    (new : ¬ l < c.links.length) : Parting agreed (c.step i) l := by
  refine .stays (h.fresh fits after here new) fun n id waits => ?_
  by_contra some'
  exact h.not_greeted fits here new (after.asks n l id (waits.expects some')).2

end Orderly

/-! ## Answers to the server -/

/-- Whatever is written and has no method turns a request of the server down. -/
def Rejects (c : Client) : Prop :=
  ∀ k m, .event k (.wrote m) ∈ c.history → hasMethod m ∨ ∃ j method, m = rejection j method

theorem Rejects.emit {o : Output} (h : c.Rejects)
    (wrote : ∀ k m, o = .event k (.wrote m) → hasMethod m ∨ ∃ j method, m = rejection j method) :
    (c.emit o).Rejects := by
  intro k m mem
  rcases List.mem_cons.mp mem with e | old
  · exact wrote k m e.symm
  · exact h k m old

theorem Action.rejects (act : Action hit c d c₁ d₁) (h : c.Rejects) : c₁.Rejects := by
  have asked {k : Nat} {o : Output} {id : Option Nat} {method : String} {params : Json}
      (e : o = .event k (.wrote (message id method params))) (j : Nat) (m : Json)
      (same : o = .event j (.wrote m)) : hasMethod m ∨ ∃ j method, m = rejection j method := by
    cases e.symm.trans same
    exact .inl hasMethod_message
  cases act with
  | @shows d o quiet =>
    refine h.emit ?_
    rintro k m rfl
    cases quiet
  | writes up why =>
    refine h.emit ?_
    rintro k m ⟨⟩
    cases why with
    | rejects hears j method => exact .inr ⟨j, method, rfl⟩
    | tells => exact .inl hasMethod_message
  | greets => exact h.emit (asked rfl)
  | asks => exact Rejects.emit (c := c.register _ _) h (asked rfl)
  | exits => exact h.emit nofun
  | strikes hard =>
    refine h.emit ?_
    rintro k m ⟨⟩
    obtain e | e := hard <;> cases e
  | takes how =>
    rw [how.frame]
    exact h
  | _ => exact h

theorem invariant_rejects : Invariant Always fun c _ _ => c.Rejects :=
  ⟨fun _ h act => act.rejects h, fun _ h _ _ _ => h,
    fun _ _ h begins => by
      rw [Rejects, begins.frame.2.2.2.1]
      exact h⟩

/-! ## Runs -/

section Run

variable {config : ServerConfig} {workspace : String} {policies : List Policy}

/-- An answer of the process of a link to the request with an id was read that is no error. -/
def Consents (c : Client) (inputs : List Input) (l id : Nat) : Prop :=
  ∃ before i after, inputs = before ++ i :: after ∧ l < (c.run before).links.length ∧
    ∃ m ∈ (c.run before).received l i, ∃ v, answerTo? id m = some (.ok (.value v))

theorem Consents.more (h : c.Consents inputs l id) : c.Consents (inputs ++ rest) l id := by
  obtain ⟨before, i, after, rfl, heard⟩ := h
  exact ⟨before, i, after ++ rest, by simp, heard⟩

/-- No call writes to the server in use in its turn, or may, while another waits for what that
answers to a shutdown request. -/
def Unintruded (c : Client) (inputs : List Input) : Prop :=
  ∀ before after, inputs = before ++ .turn :: after → (c.run before).intrudes = false

theorem Unintruded.left {later : List Input} (h : c.Unintruded (inputs ++ later)) :
    c.Unintruded inputs :=
  fun before after e => h before (after ++ later) (by rw [e, List.append_assoc, List.cons_append])

/-- Callers ask the server to shut down only by disposing the client. -/
def Input.isModest : Input → Bool
  | .call (.sends sends) => sends.all fun s => s.method ≠ "shutdown"
  | _ => true

theorem orderly_run (fits : ∀ i ∈ inputs, i.Fits (ofConfig config workspace policies))
    (notices : (ofConfig config workspace policies).Notices inputs)
    (modest : ∀ i ∈ inputs, i.isModest) :
    ∃ lost, Orderly ((ofConfig config workspace policies).run inputs) lost := by
  induction inputs using List.reverseRecOn with
  | nil => exact ⟨[], sound_ofConfig, serving_ofConfig.1, handshake_ofConfig,
      fun n here => absurd here (Nat.not_lt_zero n), rfl, nofun⟩
  | append_singleton inputs i ih =>
    obtain ⟨lost, orderly⟩ := ih (fun i h => fits i (List.mem_append_left _ h)) notices.left
      fun i h => modest i (List.mem_append_left _ h)
    obtain ⟨handshake, heeded⟩ := handshake_run fits notices
    obtain ⟨-, -, -, later⟩ := sharing_run fits
    have fit := later i (by simp)
    have said := modest i (by simp)
    rw [run_append, run_cons] at handshake heeded ⊢
    obtain ⟨sound, sharing⟩ := invariant_sharing.step trivial fit orderly.sound orderly.sharing
    refine ⟨_, sound, sharing, handshake, heeded,
      (audience_step orderly.sound.fit fit).trans orderly.client, ?_⟩
    refine orderly.modest.step orderly.sound orderly.client fit ?_
    rintro ss rfl s mem
    simpa using List.all_eq_true.mp said s mem

theorem watched_run (fits : ∀ i ∈ inputs, i.Fits (ofConfig config workspace policies))
    (notices : (ofConfig config workspace policies).Notices inputs)
    (modest : ∀ i ∈ inputs, i.isModest)
    (here : l < ((ofConfig config workspace policies).run inputs).links.length) :
    Watched ((ofConfig config workspace policies).run inputs) l := by
  induction inputs using List.reverseRecOn with
  | nil => exact absurd here (Nat.not_lt_zero l)
  | append_singleton inputs i ih =>
    have fits' i (h : i ∈ inputs) := fits i (List.mem_append_left _ h)
    have modest' i (h : i ∈ inputs) := modest i (List.mem_append_left _ h)
    obtain ⟨lost, orderly⟩ := orderly_run fits' notices.left modest'
    obtain ⟨after, -⟩ := handshake_run fits notices
    obtain ⟨-, -, -, later⟩ := sharing_run fits
    have fit := later i (by simp)
    rw [run_append, run_cons] at after here ⊢
    by_cases old : l < ((ofConfig config workspace policies).run inputs).links.length
    · exact (orderly.watched_step fit old (ih fits' notices.left modest' old)).1
    · exact .inl (orderly.fresh fit after here old)

theorem parting_run (fits : ∀ i ∈ inputs, i.Fits (ofConfig config workspace policies))
    (notices : (ofConfig config workspace policies).Notices inputs)
    (modest : ∀ i ∈ inputs, i.isModest)
    (alone : (ofConfig config workspace policies).Unintruded inputs)
    (here : l < ((ofConfig config workspace policies).run inputs).links.length) :
    Parting ((ofConfig config workspace policies).Consents inputs l)
      ((ofConfig config workspace policies).run inputs) l := by
  induction inputs using List.reverseRecOn with
  | nil => exact absurd here (Nat.not_lt_zero l)
  | append_singleton inputs i ih =>
    have fits' i (h : i ∈ inputs) := fits i (List.mem_append_left _ h)
    have modest' i (h : i ∈ inputs) := modest i (List.mem_append_left _ h)
    obtain ⟨lost, orderly⟩ := orderly_run fits' notices.left modest'
    obtain ⟨after, -⟩ := handshake_run fits notices
    obtain ⟨-, -, -, later⟩ := sharing_run fits
    have fit := later i (by simp)
    rw [run_append, run_cons] at after here ⊢
    by_cases old : l < ((ofConfig config workspace policies).run inputs).links.length
    · refine orderly.parting_step fit old (watched_run fits' notices.left modest' old)
        (ih fits' notices.left modest' alone.left old) (fun _ => Consents.more) (fun turn => ?_)
        fun n id v expects told => ?_
      · subst turn
        exact alone inputs [] rfl
      · obtain ⟨before, j, post, rfl, waits, heard⟩ := answered_run fits' expects told rfl
        obtain ⟨handshake, -⟩ := handshake_run (fun i h => fits' i (List.mem_append_left _ h))
          notices.left.left
        obtain ⟨m, heard, answer⟩ := heard
        exact ⟨before, j, post ++ [i], by simp, (handshake.asks n l id waits).1, m, heard, v, answer⟩
    · exact orderly.parting_fresh fit after here old

/-- How a client has taken leave of the process of a spawn in a run, if it has. -/
inductive Departs (c : Client) (inputs : List Input) (k : Nat) : Prop
  | stays (unasked : ∀ m ∈ (c.run inputs).sentTo k, isShutdown m = false)
  /-- The last message is the request to shut down. -/
  | asked {ms : List Json} {id : Nat} (sent : (c.run inputs).sentTo k = ms ++ [stopRequest id])
    (first : ∀ m ∈ ms, isShutdown m = false)
  /-- The process has agreed to shut down, and the last message tells it to exit. -/
  | left {ms : List Json} {id l : Nat}
    (sent : (c.run inputs).sentTo k = ms ++ [stopRequest id, farewell])
    (first : ∀ m ∈ ms, isShutdown m = false) (own : ((c.run inputs).link l).spawn = k)
    (agreed : c.Consents inputs l id)

theorem Departs.once {k : Nat} (h : Departs c inputs k) :
    ((c.run inputs).sentTo k).countP isShutdown ≤ 1 := by
  have none' {ms : List Json} (first : ∀ m ∈ ms, isShutdown m = false) : ms.countP isShutdown = 0 :=
    List.countP_eq_zero.mpr fun m mem => by rw [first m mem]; nofun
  cases h with
  | stays unasked => rw [none' unasked]; exact Nat.zero_le 1
  | asked sent first =>
    rw [sent, List.countP_append, none' first, Nat.zero_add]
    exact List.countP_le_length
  | @left ms id l sent first =>
    have exits : isShutdown farewell = false := isShutdown_of_method get_method_message (by decide)
    simp [sent, none' first, exits, isShutdown_stopRequest]

/-- What is written to the processes of a client that are asked to shut down. -/
structure TakesLeave (c : Client) (inputs : List Input) : Prop where
  /-- Requests and notifications are written to a process that was asked to shut down only while a
  call waits for its answer to that. -/
  late : ∀ before i after k, inputs = before ++ i :: after →
    (∃ m ∈ (c.run before).sentTo k, isShutdown m) →
    (c.run (before ++ [i])).sentTo k = (c.run before).sentTo k ∨
      ∃ n l id, ((c.run before).link l).spawn = k ∧ (c.run before).PartsFrom n l id
  /-- Nothing but the notification to exit is written if no other call has its turn with something
  to write meanwhile. -/
  last : c.Unintruded inputs → ∀ k, Departs c inputs k
  /-- Everything else turns requests of the server down. -/
  rejects : (c.run inputs).Rejects

/-- A process that was asked to shut down is written to only while the answer is waited for, and
if no call does that, it is asked once and is then only told to exit when it has agreed. -/
theorem shutdown_is_final (fits : ∀ i ∈ inputs, i.Fits (ofConfig config workspace policies))
    (notices : (ofConfig config workspace policies).Notices inputs)
    (modest : ∀ i ∈ inputs, i.isModest) : TakesLeave (ofConfig config workspace policies) inputs := by
  refine ⟨?_, fun alone k => ?_, ?_⟩
  · rintro before i after k rfl asked
    have cut : before ++ i :: after = before ++ [i] ++ after := by simp
    rw [cut] at fits notices modest
    have fits' j (h : j ∈ before ++ [i]) := fits j (List.mem_append_left _ h)
    have fits'' j (h : j ∈ before) := fits' j (List.mem_append_left _ h)
    have modest' j (h : j ∈ before) :=
      modest j (List.mem_append_left _ (List.mem_append_left _ h))
    obtain ⟨lost, orderly⟩ := orderly_run fits'' notices.left.left modest'
    obtain ⟨-, -, -, later⟩ := sharing_run fits'
    rw [run_append]
    exact orderly.late (later i (by simp))
      (fun l here => watched_run fits'' notices.left.left modest' here) asked
  · obtain ⟨handshake, -⟩ := handshake_run fits notices
    by_cases sent : ((ofConfig config workspace policies).run inputs).sentTo k = []
    · exact .stays (by rw [sent]; nofun)
    · obtain ⟨l, here, rfl⟩ := handshake.exists_link sent
      cases parting_run fits notices modest alone here with
      | stays unasked => exact .stays unasked
      | asked sent first => exact .asked sent first
      | left sent first _ agreed => exact .left sent first rfl agreed
  · exact (invariant_rejects.run throughout_always fits sound_ofConfig nofun).2

end Run

/-- The server is asked to shut down, agrees to that, and is told to exit. -/
def agreeing : List Input :=
  passing ++ [.output (Wire.encode (.obj [("id", .int 2), ("result", .null)])), .turn, .turn]

theorem shutdown_is_final_agreeing :
    (∀ i ∈ agreeing, i.Fits plainClient) ∧ plainClient.Notices agreeing ∧
    (∀ i ∈ agreeing, i.isModest) ∧ TakesLeave plainClient agreeing ∧
    Departs plainClient agreeing 0 ∧
    (plainClient.run agreeing).sentTo 0 = [plainClient.opening, greeting, message none "m" .null,
      stopRequest 2, farewell] := by
  have fits : ∀ i ∈ agreeing, i.Fits plainClient := by decide +kernel
  have modest : ∀ i ∈ agreeing, i.isModest := by decide +kernel
  have all : ∀ before ∈ agreeing.inits, (plainClient.run before).overlooks = false ∧
      (plainClient.run before).intrudes = false := by decide +kernel
  have before {before after : List Input} (e : agreeing = before ++ .turn :: after) :=
    all before ((List.mem_inits ..).mpr ⟨_, e.symm⟩)
  have notices : plainClient.Notices agreeing := fun _ _ e => (before e).1
  have leave := shutdown_is_final fits notices modest
  exact ⟨fits, notices, modest, leave, leave.last (fun _ _ e => (before e).2) 0, by decide +kernel⟩

/-- While a disposal waits for the answer of the server, another call sends something, and another
disposal begins. -/
def interrupted : List Input :=
  starting ++ [.call .dispose, .turn, .call (.sends [.request "m" .null]), .turn, .call .dispose,
    .turn]

/-- A server is sent something else, and asked again, after it was asked to shut down. -/
theorem shutdown_not_final_interrupted :
    (∀ i ∈ interrupted, i.Fits plainClient) ∧ plainClient.Notices interrupted ∧
    (∀ i ∈ interrupted, i.isModest) ∧ ¬ Departs plainClient interrupted 0 ∧
    (plainClient.run interrupted).sentTo 0 = [plainClient.opening, greeting, stopRequest 2,
      message (some 3) "m" .null, stopRequest 4] := by
  have fits : ∀ i ∈ interrupted, i.Fits plainClient := by decide +kernel
  have modest : ∀ i ∈ interrupted, i.isModest := by decide +kernel
  have all : ∀ before ∈ interrupted.inits, (plainClient.run before).overlooks = false := by
    decide +kernel
  have twice : 1 < ((plainClient.run interrupted).sentTo 0).countP isShutdown := by decide +kernel
  refine ⟨fits, fun before after e => all before ((List.mem_inits ..).mpr ⟨_, e.symm⟩), modest,
    fun departs => ?_, by decide +kernel⟩
  exact absurd departs.once (Nat.not_le_of_lt twice)

end Client

end LspGateway

