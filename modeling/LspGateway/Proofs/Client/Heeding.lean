import LspGateway.Proofs.Client.Handshake

/-! # Cancellations that count

Whoever disposes a client cancels the attempt in progress, which then goes on to fail.
A cancellation goes unnoticed only when the attempt waits for something that has come
about at that moment, or comes about anyway.
-/

namespace LspGateway.Client

variable {hit : Nat → Prop} {c c₁ b : Client} {d d₁ : Option Doer} {ls lost : List Loss} {x y : Doer}
  {l k m n id : Nat} {t : Task} {s : Signal} {o : Outcome} {i : Input} {rest : List Task}

/-- The call that goes on next is to cancel an attempt that does not notice, as what it waits
for has come about or comes about anyway. -/
def overlooks (c : Client) : Bool :=
  match c.ready with
  | .call m :: _ =>
    (c.calls[m]?.any fun k => k.phase = .fresh .dispose) &&
      c.attempt.any fun n => c.attempts[n]?.any fun a =>
        a.phase.outcome?.isNone && !a.yields && a.phase.role.strand ≠ .fails
  | _ => false

/-- The attempt was cancelled, or is failing. -/
def Heeds (c : Client) (n : Nat) : Prop :=
  c.told (.attempt n) = some .cancelled ∨ (c.role (.attempt n)).strand = .fails

/-! ## The turn of the attempt -/

theorem attempts_endAttempt :
    (c.endAttempt n o).attempts = c.attempts.set n ⟨.done o, none⟩ := by
  obtain ⟨ts, e⟩ := wakeCalls_frame (c := (c.setAttempt n (.done o)).push (.relay n)) (s := .go)
    fun phase => phase = .stopping n
  rw [endAttempt, e]
  rfl

theorem not_isLive_endAttempt : ¬ (c.endAttempt n o).IsLive n := by
  intro ⟨here, goes⟩
  rw [attempts_endAttempt, List.length_set] at here
  rw [attemptOutcome_eq, attempts_endAttempt, List.getElem?_set_self here] at goes
  cases goes

/-- An attempt that fails goes on failing, or is over. -/
theorem strand_afterFailing {p : Progress} (live : (c.afterFailing n o p).IsLive n) :
    ((c.afterFailing n o p).role (.attempt n)).strand = .fails := by
  cases p with
  | waits t =>
    have here : n < c.attempts.length := by simpa [afterFailing, setAttempt] using live.1
    show ((c.putAttempt n ⟨.failing t o, none⟩).role (.attempt n)).strand = .fails
    rw [role, standing_putAttempt, if_pos ⟨rfl, here⟩]
    rfl
  | «over» o' => cases o' <;> exact absurd live not_isLive_endAttempt

theorem strand_abandon (live : (c.abandon n o).IsLive n) :
    ((c.abandon n o).role (.attempt n)).strand = .fails := strand_afterFailing live

theorem resumeTeardown_cancelled {t : Teardown} (soft : t.stage.isFirm = false) :
    c.resumeTeardown t .cancelled = (c, .over .cancelled) := by
  unfold resumeTeardown
  cases stage : t.stage with
  | listener | drain => rw [stage] at soft; cases soft
  | _ => rfl

/-- A cancelled attempt goes on to fail, unless what it waits for comes about anyway. -/
theorem strand_runAttempt {p : AttemptPhase} (here : c.attempts[n]? = some ⟨p, some s⟩)
    (heeds : s = .cancelled ∨ p.role.strand = .fails)
    (mild : s = .cancelled → ∀ t, p.teardown? = some t → t.stage.isFirm = false)
    (waits : p.isLive) (live : (c.runAttempt n).IsLive n) :
    ((c.runAttempt n).role (.attempt n)).strand = .fails := by
  unfold runAttempt at live ⊢
  simp only [here, Option.getD_some] at live ⊢
  cases p with
  | fresh =>
    obtain rfl | early := heeds
    · exact absurd live not_isLive_endAttempt
    · cases early
  | clearing t =>
    obtain rfl | early := heeds
    · dsimp only at live
      rw [resumeTeardown_cancelled (mild rfl t rfl)] at live
      exact absurd live not_isLive_endAttempt
    · cases early
  | handshake l id =>
    obtain rfl | speaks := heeds
    · exact strand_abandon live
    · cases speaks
  | failing t o => exact strand_afterFailing live
  | running => cases waits
  | done o => cases waits

/-! ## The turns of others -/

/-- What was told to a cancelled attempt is not told again. -/
theorem Heeds.act (h : Heeds c n) (act : Action hit c d c₁ d₁) (q : Queue c (turnOf d))
    (apart : turnOf d ≠ some (.attempt n)) : Heeds c₁ n := by
  have live : (c.standing (.attempt n)).live := by
    by_contra dead
    rw [Bool.not_eq_true] at dead
    obtain told | fails := h
    · rw [q.live (by rw [told]; rfl)] at dead
      cases dead
    · rw [role_of_not_live dead] at fails
      cases fails
  obtain same | ⟨s, same, why⟩ | ⟨dead, -⟩ := act.stirs apart
  · rwa [Heeds, Client.told, role, same]
  · have role : c₁.role (.attempt n) = c.role (.attempt n) := by rw [role, same, role]
    refine h.elim (fun told => .inl ?_) fun fails => .inr (role ▸ fails)
    rw [Client.told, same]
    cases why with
    | attempt here why =>
      simp only [Client.told, standing, here, Option.map_some, Option.getD_some,
        Attempt.standing] at told
      cases why with
      | step | late => cases told
      | cancelled => rfl
    | answer pending heeds =>
      rw [(live_of_heeds heeds).2] at told
      cases told
  · rw [live] at dead
    cases dead

theorem Heeds.path (h : Heeds c n) (path : Path hit c d ls c₁ d₁) (sound : Sound c d lost)
    (apart : turnOf d ≠ some (.attempt n)) : Heeds c₁ n := by
  induction path generalizing lost with
  | nil => exact h
  | step act _ ih =>
    exact ih (h.act act sound.queue apart) (act.sound sound) (act.apart apart)
  | loses idle pending untold _ ih =>
    refine ih ?_ (sound.lose idle pending untold) apart
    rwa [Heeds, Client.told, role, standing_forget]

/-- An attempt that goes on is shared, unless it was not before. -/
structure Holding (b : Client) (n : Nat) (c : Client) (d : Option Doer) : Prop where
  /-- No disposal begins. -/
  quiet : ∀ x, d = some x → x.role.errand = .disposes → x.role.disposes
  kept : c.IsLive n → c.attempt = some n ∨ b.IsLive n ∧ b.attempt ≠ some n

theorem Holding.start (quiet : ∀ x, d = some x → x.role.errand = .disposes → x.role.disposes)
    (before : c.IsLive n → b.IsLive n) (attempt : c.attempt = b.attempt) : Holding b n c d := by
  refine ⟨quiet, fun live => ?_⟩
  by_cases shared : c.attempt = some n
  · exact .inl shared
  · exact .inr ⟨before live, attempt ▸ shared⟩

theorem Action.disposes_mono (act : Action hit c (some x) c₁ (some y)) (disposes : x.role.disposes) :
    y.role.disposes := by
  obtain ⟨_, _, role⟩ | ⟨u, rfl, -⟩ | ⟨a, rfl, -⟩ := act.role_step
  · rwa [role]
  · exact disposes
  · rfl

theorem Holding.act (h : Holding b n c d) (sharing : Sharing c d) (act : Action hit c d c₁ d₁) :
    Holding b n c₁ d₁ := by
  refine ⟨fun y turn errand => ?_, fun live => ?_⟩
  · cases d with
    | none => rw [act.none_eq] at turn; cases turn
    | some x =>
      subst turn
      rw [act.task_eq.2.2.2] at errand
      exact act.disposes_mono (h.quiet x rfl errand)
  · obtain before | ⟨rfl, rfl, -⟩ := act.isLive sharing.turn live
    · obtain shared | other := h.kept before
      · left
        cases act with
        | shares sends cold ceased =>
          exact absurd before.2 (Option.ne_none_iff_isSome.mpr (ceased n shared))
        | disposes errand done ceased first =>
          rw [h.quiet _ rfl errand] at first
          cases first
        | detaches errand done shared' live' first =>
          rw [h.quiet _ rfl errand] at first
          cases first
        | takes how =>
          rw [how.frame]
          exact shared
        | _ => exact shared
      · exact .inr other
    · exact .inl rfl

theorem Holding.lose (h : Holding b n c d) : Holding b n (c.forget l id) d := ⟨h.quiet, h.kept⟩

theorem invariant_holding : Invariant Never fun c d _ => Sharing c d ∧ Holding b n c d :=
  ⟨fun sound h act => ⟨invariant_sharing.acts sound h.1 act, h.2.act h.1 act⟩,
    fun sound h idle pending untold =>
      ⟨invariant_sharing.loses (t := _) sound h.1 idle pending untold, h.2.lose⟩,
    fun given => given.elim⟩

/-! ## Disposals -/

theorem cancelAttempt_told {a : Attempt} (here : c.attempts[n]? = some a) (yields : a.yields) :
    (c.cancelAttempt n).told (.attempt n) = some .cancelled := by
  have lt : n < c.attempts.length := (List.getElem?_eq_some_iff.mp here).1
  have attempts : (c.cancelAttempt n).attempts = c.attempts.set n ⟨a.phase, some .cancelled⟩ := by
    rw [cancelAttempt, here]
    dsimp only
    rw [if_pos yields]
    split <;> rfl
  simp [told, standing, attempts, lt, Attempt.standing]

theorem dispose_shared (shared : c.attempt = some a) (goes : c.attemptOutcome? a = none) :
    c.dispose n = (({ c with attempt := none } : Client).cancelAttempt a).setCall n (.stopping a) := by
  have goes : ({ c with attempt := none } : Client).attemptOutcome? a = none := goes
  simp [dispose, shared, goes]

/-- A disposal cancels the attempt that is shared. -/
theorem turn_disposes {a : Attempt} (first : c.ready = .call m :: rest)
    (call : c.calls[m]? = some ⟨.fresh .dispose, some s⟩) (go : s ≠ .cancelled)
    (shared : c.attempt = some n) (live : c.IsLive n) (here : c.attempts[n]? = some a)
    (yields : a.yields) : c.turn.told (.attempt n) = some .cancelled := by
  let b : Client := { ({ c with ready := rest } : Client).setCall m .running with attempt := none }
  have turn : c.turn = (b.cancelAttempt n).setCall m (.stopping n) := by
    rw [turn_call first call, Option.getD_some, resumeCall, if_neg go, beginCall]
    exact dispose_shared (c := ({ c with ready := rest } : Client).setCall m .running) shared live.2
  rw [turn]
  exact cancelAttempt_told (c := b) here yields

theorem Heeds.turn (h : Heeds c n) (sound : Sound c none lost)
    (mild : ∀ t, c.told (.attempt n) = some .cancelled →
      (c.role (.attempt n)).teardown = some t → t.stage.isFirm = false)
    (live : c.turn.IsLive n) : Heeds c.turn n := by
  obtain path | ⟨rest, c₁, d, begins, path⟩ := @path_turn NoHit _ sound.fit
  · exact h.path path sound nofun
  · by_cases own : turnOf d = some (.attempt n)
    · cases begins with
      | @attempt m p s ready here waits =>
        obtain rfl : m = n := Task.attempt.inj (Option.some.inj own)
        have turn : c.turn = ({ c with ready := rest } : Client).runAttempt m := by
          rw [Client.turn, ready]
          rfl
        have standing : c.standing (.attempt m) = ⟨p.isLive, some s, p.role⟩ := by
          simp [Client.standing, here, Attempt.standing]
        simp only [Heeds, told, role, standing] at h mild
        rw [turn] at live ⊢
        refine .inr (strand_runAttempt here (h.imp_left Option.some.inj) ?_ waits live)
        rintro rfl t takes
        exact mild t rfl (by rwa [AttemptPhase.teardown_role])
      | relay => cases own
      | _ => cases Option.some.inj own
    · refine Heeds.path ?_ path (begins.sound sound) own
      rwa [Heeds, told, role, begins.standing own]

/-- An attempt that goes on and is not shared was not shared before, unless a disposal begins. -/
theorem Holding.path (path : Path hit c d ls c₁ none) (h : Holding b n c d) (sound : Sound c d lost)
    (sharing : Sharing c d) (live : c₁.IsLive n) (apart : c₁.attempt ≠ some n) :
    b.IsLive n ∧ b.attempt ≠ some n :=
  ((invariant_holding.path path sound ⟨sharing, h⟩).2.2.kept live).resolve_left apart

theorem yields_or_heeds (first : c.ready = .call m :: rest)
    (call : c.calls[m]? = some ⟨.fresh .dispose, some s⟩) (shared : c.attempt = some n)
    (live : c.IsLive n) (notices : c.overlooks = false) :
    (∃ a, c.attempts[n]? = some a ∧ a.yields) ∨ Heeds c n := by
  obtain ⟨a, here⟩ : ∃ a, c.attempts[n]? = some a :=
    Option.isSome_iff_exists.mp (by simpa using live.1)
  cases yields : a.yields with
  | true => exact .inl ⟨a, here, yields⟩
  | false =>
    have goes : a.phase.outcome? = none := by
      have := live.2
      rwa [attemptOutcome_eq, here] at this
    right
    right
    simpa [overlooks, first, call, shared, here, goes, yields, role, standing, Attempt.standing]
      using notices

theorem disposes_begins {rest : List Task} (begins : Begins c rest c₁ (some x))
    (errand : x.role.errand = .disposes) (first : x.role.disposes = false) :
    ∃ m s, c.ready = .call m :: rest ∧ c.calls[m]? = some ⟨.fresh .dispose, some s⟩ := by
  cases begins with
  | @call m p s ready here live =>
    refine ⟨m, s, ready, ?_⟩
    cases p with
    | fresh job => cases job <;> first | exact here | cases errand
    | stopping | shuttingDown | disposing => cases first
    | _ => cases errand
  | @attempt n p s ready here live => cases p <;> cases errand
  | _ => cases errand

/-- An attempt that goes on after a step went on before, if there was one. -/
theorem goes_before (sound : Sound c none lost) (sharing : Sharing c none) (fits : i.Fits c)
    (live : (c.step i).IsLive n) (old : n < c.attempts.length) : c.IsLive n := by
  refine ⟨old, Option.eq_none_iff_forall_ne_some.mpr fun o ceased => ?_⟩
  have after := (invariant_outcome.step trivial fits sound ⟨sharing, ceased⟩).2.2
  rw [live.2] at after
  cases after

theorem Heeded.turn (heeded : Heeded c) (sound : Sound c none lost) (sharing : Sharing c none)
    (mild : ∀ n t, c.told (.attempt n) = some .cancelled →
      (c.role (.attempt n)).teardown = some t → t.stage.isFirm = false)
    (notices : c.overlooks = false) : Heeded c.turn := by
  intro n _ live apart
  have goesOn (h : Heeds c n) : Heeds c.turn n := h.turn sound (mild n) live
  have unshared (h : c.IsLive n ∧ c.attempt ≠ some n) : Heeds c.turn n :=
    goesOn (heeded n h.1.1 h.1 h.2)
  obtain path | ⟨rest, c₁, d, begins, path⟩ := @path_turn NoHit _ sound.fit
  · refine unshared (Holding.path path (.start ?_ (fun h => h) rfl) sound sharing live apart)
    intro x turn
    cases turn
  · obtain ⟨length, attempt, outcome, -⟩ := begins.outcome
    have before : c₁.IsLive n → c.IsLive n := by
      rw [IsLive, length, outcome]
      exact fun h => h
    by_cases quiet : ∀ x, d = some x → x.role.errand = .disposes → x.role.disposes
    · exact unshared (Holding.path path (.start quiet before attempt) (begins.sound sound)
        (begins.sharing sound.queue sharing) live apart)
    · simp only [not_forall] at quiet
      obtain ⟨x, rfl, errand, first⟩ := quiet
      obtain ⟨m, s, ready, call⟩ := disposes_begins begins errand (Bool.not_eq_true _ ▸ first)
      have length : c.turn.attempts.length = c.attempts.length :=
        (path.attempts_length fun x turn => by cases turn; simp [errand]).trans length
      have live₀ : c.IsLive n :=
        goes_before (i := .turn) sound sharing trivial live (Nat.lt_of_lt_of_eq live.1 length)
      by_cases shared : c.attempt = some n
      · by_cases go : s = .cancelled
        · refine absurd ?_ apart
          rw [turn_call ready call, Option.getD_some, resumeCall, if_pos go]
          exact shared
        · obtain ⟨a, here, yields⟩ | heeds := yields_or_heeds ready call shared live₀ notices
          · exact .inl (turn_disposes ready call go shared live₀ here yields)
          · exact goesOn heeds
      · exact unshared ⟨live₀, shared⟩

theorem Heeded.step (heeded : Heeded c) (sound : Sound c none lost) (sharing : Sharing c none)
    (h : Handshake c none) (notices : i = .turn → c.overlooks = false) (fits : i.Fits c) :
    Heeded (c.step i) := by
  by_cases turns : i = .turn
  · subst turns
    exact heeded.turn sound sharing h.mild (notices rfl)
  · intro n _ live apart
    have path := path_input i fits turns
    obtain ⟨before, other⟩ := Holding.path path
      (.start (fun x turn => by cases turn) (fun h => h) rfl) sound sharing live apart
    exact Heeds.path (heeded n before.1 before other) path sound turnOf_none_ne

/-! ## Runs -/

theorem invariant_opening {o : Json} : Invariant Always fun c _ _ => c.opening = o :=
  ⟨fun _ h act => (opening_congr act.workspace_eq).trans h, fun _ h _ _ _ => h,
    fun _ _ h begins => by cases begins <;> exact h⟩

theorem invariant_spawn : Invariant Always fun c _ _ =>
    l < c.links.length ∧ (c.link l).spawn = k := by
  refine ⟨fun _ h act => ?_, fun _ h _ _ _ => ?_, fun _ _ h begins => ?_⟩
  · exact ⟨Nat.lt_of_lt_of_le h.1 act.links_le, (act.link_kept h.1).1.trans h.2⟩
  · refine ⟨(links_length_modifyLink _).symm ▸ h.1, Eq.trans ?_ h.2⟩
    exact link_modifyLink_same Link.spawn fun _ => rfl
  · exact ⟨begins.frame.2.2.2.2 ▸ h.1, (begins.link_kept l).1.trans h.2⟩

section Run

variable {config : ServerConfig} {workspace : String} {policies : List Policy}
  {inputs before : List Input}

/-- Every attempt that a disposal cancels in a run notices it. -/
def Notices (c : Client) (inputs : List Input) : Prop :=
  ∀ before after, inputs = before ++ .turn :: after → (c.run before).overlooks = false

theorem Notices.left {later : List Input} (h : c.Notices (inputs ++ later)) : c.Notices inputs :=
  fun before after e => h before (after ++ later) (by rw [e, List.append_assoc, List.cons_append])

theorem handshake_run (fits : ∀ i ∈ inputs, i.Fits (ofConfig config workspace policies))
    (notices : (ofConfig config workspace policies).Notices inputs) :
    let c := (ofConfig config workspace policies).run inputs
    Handshake c none ∧ Heeded c := by
  induction inputs using List.reverseRecOn with
  | nil => exact ⟨handshake_ofConfig, fun n here => absurd here (Nat.not_lt_zero n)⟩
  | append_singleton inputs i ih =>
    obtain ⟨handshake, heeded⟩ := ih (fun i h => fits i (List.mem_append_left _ h)) notices.left
    obtain ⟨⟨lost, sound⟩, sharing, -, later⟩ := sharing_run fits
    have fits' := later i (by simp)
    rw [run_append, run_cons]
    refine ⟨(invariant_handshake.step heeded fits' sound ⟨sharing, handshake⟩).2.2, ?_⟩
    refine heeded.step sound sharing handshake (fun turn => ?_) fits'
    subst turn
    exact notices inputs [] rfl

/-- Who has got an answer in a run has got one that was read for it. -/
theorem answered_run {o : Outcome}
    (fits : ∀ i ∈ inputs, i.Fits (ofConfig config workspace policies))
    (expects : (((ofConfig config workspace policies).run inputs).role t).expects = some (k, id))
    (told : ((ofConfig config workspace policies).run inputs).told t = some (.answered o))
    (reply : o.isReply) :
    ∃ before i after, inputs = before ++ i :: after ∧
      (((ofConfig config workspace policies).run before).role t).expects = some (k, id) ∧
      ∃ m ∈ ((ofConfig config workspace policies).run before).received k i,
        answerTo? id m = some (.ok o) := by
  induction inputs using List.reverseRecOn with
  | nil =>
    have role : ((ofConfig config workspace policies).run []).role t = .idle :=
      congrArg Standing.role standing_ofConfig
    rw [role] at expects
    cases expects
  | append_singleton inputs i ih =>
    obtain ⟨⟨_, sound⟩, -, -, later⟩ := sharing_run fits
    rw [run_append, run_cons] at expects told
    have fits' i (h : i ∈ inputs) := fits i (List.mem_append_left _ h)
    have first : Sound (ofConfig config workspace policies) none [] := sound_ofConfig
    have client := audience_run first fits'
    obtain ⟨waits, before⟩ | ⟨waits, heard⟩ :=
      answered_step sound client (later i (by simp)) expects told reply
    · obtain ⟨pre, j, post, rfl, heard⟩ := ih fits' waits before
      exact ⟨pre, j, post ++ [i], by simp, heard⟩
    · exact ⟨inputs, i, [], rfl, waits, heard⟩

/-- How the processes that a client starts in a run are introduced to it. -/
structure Introduces (c : Client) (inputs : List Input) : Prop where
  /-- The first request comes first, then the notification, and then everything else. -/
  order : ∀ k, (c.run inputs).sentTo k <+: [c.opening] ∨
    [c.opening, greeting] <+: (c.run inputs).sentTo k
  /-- When the notification is written, an answer to the request that is no error was read from
  the same process. -/
  agreed : ∀ before i after k, inputs = before ++ i :: after →
    ¬ [c.opening, greeting] <+: (c.run before).sentTo k →
    [c.opening, greeting] <+: (c.run (before ++ [i])).sentTo k →
    ∃ l < (c.run before).links.length, ((c.run before).link l).spawn = k ∧
      ∃ pre j post, before = pre ++ j :: post ∧ (c.run pre).sentTo k = [c.opening] ∧
        ∃ m ∈ (c.run pre).received l j, ∃ v, answerTo? 1 m = some (.ok (.value v))

theorem opening_run (fits : ∀ i ∈ inputs, i.Fits (ofConfig config workspace policies)) :
    ((ofConfig config workspace policies).run inputs).opening =
      (ofConfig config workspace policies).opening :=
  (invariant_opening.run throughout_always fits sound_ofConfig rfl).2

/-- A process to which something was sent has a link. -/
theorem Handshake.exists_link (h : Handshake c none) (sent : c.sentTo k ≠ []) :
    ∃ l < c.links.length, (c.link l).spawn = k := by
  by_contra none'
  exact sent (h.numbered.sent k fun l here e => none' ⟨l, here, e⟩)

theorem agreed_run {i : Input}
    (fits : ∀ j ∈ before ++ [i], j.Fits (ofConfig config workspace policies))
    (notices : (ofConfig config workspace policies).Notices (before ++ [i]))
    (fresh : l < ((ofConfig config workspace policies).run before).links.length →
      ¬ Greeted ((ofConfig config workspace policies).run before) l)
    (here : l < ((ofConfig config workspace policies).run (before ++ [i])).links.length)
    (greeted : Greeted ((ofConfig config workspace policies).run (before ++ [i])) l) :
    l < ((ofConfig config workspace policies).run before).links.length ∧
      ∃ pre j post, before = pre ++ j :: post ∧
        Introduced ((ofConfig config workspace policies).run pre) l ∧
        l < ((ofConfig config workspace policies).run pre).links.length ∧
        ∃ m ∈ ((ofConfig config workspace policies).run pre).received l j,
          ∃ v, answerTo? 1 m = some (.ok (.value v)) := by
  have fits' j (h : j ∈ before) := fits j (List.mem_append_left _ h)
  obtain ⟨handshake, heeded⟩ := handshake_run fits' notices.left
  obtain ⟨⟨lost, sound⟩, sharing, -, later⟩ := sharing_run fits
  rw [run_append, run_cons] at here greeted
  obtain ⟨old, already⟩ | ⟨n, v, expects, told⟩ :=
    handshake.greets_step heeded sound sharing (later i (by simp)) here greeted
  · exact absurd already (fresh old)
  · obtain ⟨-, old, -⟩ := handshake.opens n l 1 expects
    obtain ⟨pre, j, post, rfl, waits, m, heard, answer⟩ := answered_run fits' expects told rfl
    obtain ⟨introduced, -⟩ := handshake_run (fun i h => fits' i (List.mem_append_left _ h))
      notices.left.left
    obtain ⟨-, there, only⟩ := introduced.opens n l 1 waits
    exact ⟨old, pre, j, post, rfl, only, there, m, heard, v, answer⟩

theorem spawn_run {later : List Input}
    (fits : ∀ i ∈ before ++ later, i.Fits (ofConfig config workspace policies))
    (here : l < ((ofConfig config workspace policies).run before).links.length) :
    (((ofConfig config workspace policies).run (before ++ later)).link l).spawn =
      (((ofConfig config workspace policies).run before).link l).spawn := by
  obtain ⟨⟨_, sound⟩, -, -, rest⟩ := sharing_run fits
  rw [run_append]
  exact (invariant_spawn.run throughout_always rest sound ⟨here, rfl⟩).2.2

end Run

/-- The server is started, sent something, and asked to shut down. -/
def passing : List Input :=
  starting ++ [.call (.sends [.notify "m" .null]), .turn, .call .dispose, .turn]

end LspGateway.Client
