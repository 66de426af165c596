import LspGateway.Proofs.Client.Omitting
import LspGateway.Proofs.Client.Sorting

/-! # Clients that differ in some calls only

Two clients that differ in some calls only, and in what they report, go on to do so, whatever
happens to the rest of them.
-/

namespace LspGateway.Client

variable {V W : Nat → Bool} {c x y : Client} {l n k id fuel : Nat} {t : Task} {s : Signal}
  {u : Teardown} {m j : Json} {ms : Json.Members} {o : Outcome} {turn : Turn}
  {reading : Wire.Reading}

/-- More calls are left out. -/
theorem without_without (more : ∀ n, V n → W n) : (c.without V).without W = c.without W := by
  have isOf (t : Task) : t.isOf V → t.isOf W := by
    cases t with
    | call n => exact more n
    | _ => exact fun h => by cases h
  have twice {α : Type} {p q : α → Bool} (less : ∀ a, p a → q a) (as : List α) :
      (as.filter q).filter p = as.filter p := by
    rw [List.filter_filter]
    refine List.filter_congr fun a _ => ?_
    by_cases h : p a
    · simp [h, less a h]
    · simp [h]
  have links : (c.links.map (·.without V)).map (·.without W) = c.links.map (·.without W) := by
    rw [List.map_map]
    refine List.map_congr_left fun k _ => congrArg (fun ps => { k with pending := ps }) ?_
    refine twice (fun p h => ?_) k.pending
    simp only [Bool.not_eq_true', ← Bool.not_eq_true] at h ⊢
    exact fun h' => h (isOf p.2 h')
  have calls : (c.without V).calls.mapIdx (fun n k => if W n then (⟨.running, none⟩ : Call) else k) =
      c.calls.mapIdx fun n k => if W n then ⟨.running, none⟩ else k := by
    apply List.ext_getElem?
    intro i
    rw [List.getElem?_mapIdx, List.getElem?_mapIdx, call_without]
    by_cases h : W i
    · cases c.calls[i]? <;> simp [h]
    · have out : V i = false := Bool.eq_false_iff.mpr fun h' => h (more i h')
      cases c.calls[i]? <;> simp [out]
  have ready : (c.ready.filter fun t => !t.isOf V).filter (fun t => !t.isOf W) =
      c.ready.filter fun t => !t.isOf W := by
    refine twice (fun t h => ?_) c.ready
    simp only [Bool.not_eq_true', ← Bool.not_eq_true] at h ⊢
    exact fun h' => h (isOf t h')
  have history : (c.history.filter (·.isSeen V)).filter (·.isSeen W) =
      c.history.filter (·.isSeen W) := by
    refine twice (fun o h => ?_) c.history
    cases o with
    | finished n o =>
      simp only [Output.isSeen, Bool.not_eq_true', ← Bool.not_eq_true] at h ⊢
      exact fun h' => h (more n h')
    | _ => exact h
  rw [without, calls, without_links, links, without_ready, ready, without_history, history]
  rfl

/-- Two clients that differ in these calls only, and in what they report. -/
def SameBut (W : Nat → Bool) (x y : Client) : Prop := x.without W = y.without W

namespace SameBut

theorem refl (x : Client) : SameBut W x x := Eq.refl (x.without W)

variable (h : SameBut W x y)

include h

theorem eq : x.without W = y.without W := h

theorem symm : SameBut W y x := Eq.symm h

theorem trans {z : Client} (h' : SameBut W y z) : SameBut W x z := Eq.trans h h'

theorem config : x.config = y.config :=
  (congrArg Client.config h.eq :)

theorem id_eq : x.id = y.id := congrArg ServerConfig.id h.config

theorem audience : x.audience = y.audience :=
  (congrArg Client.audience h.eq :)

theorem state : x.state = y.state :=
  (congrArg Client.state h.eq :)

theorem held : x.held = y.held :=
  (congrArg Client.held h.eq :)

theorem attempts : x.attempts = y.attempts :=
  (congrArg Client.attempts h.eq :)

theorem attempt : x.attempt = y.attempt :=
  (congrArg Client.attempt h.eq :)

theorem link : (x.link l).without W = (y.link l).without W := by
  rw [← link_without, h.eq, link_without]

theorem links_length : x.links.length = y.links.length := by
  have := congrArg (fun c : Client => c.links.length) h.eq
  simpa using this

theorem listener : (x.link l).listener = (y.link l).listener := (congrArg Link.listener (h.link (l := l)) :)

theorem drain : (x.link l).drain = (y.link l).drain := (congrArg Link.drain (h.link (l := l)) :)

theorem closed : (x.link l).closed = (y.link l).closed := (congrArg Link.closed (h.link (l := l)) :)

theorem shuttingDown : (x.link l).shuttingDown = (y.link l).shuttingDown :=
  (congrArg Link.shuttingDown (h.link (l := l)) :)

theorem process : x.process l = y.process l := (congrArg Link.process (h.link (l := l)) :)

theorem call (out : W n = false) : x.calls[n]? = y.calls[n]? := by
  rw [← call_without_ne out, h.eq, call_without_ne out]

theorem attemptOutcome : x.attemptOutcome? n = y.attemptOutcome? n :=
  (congrArg (Client.attemptOutcome? · n) h.eq :)

theorem mono (more : ∀ n, W n → V n) : SameBut V x y := by
  rw [SameBut, ← without_without more, h.eq, without_without more]

/-- What does the same to the rest of both. -/
theorem keep (F : Client → Client) (rest : ∀ {c}, F (c.without W) = (F c).without W) :
    SameBut W (F x) (F y) := by
  rw [SameBut, ← rest, h.eq, rest]

/-- What does the same to the rest of both, and comes to the same. -/
theorem both {α : Type} (F : Client → Client × α)
    (rest : ∀ {c}, F (c.without W) = ((F c).1.without W, (F c).2)) :
    SameBut W (F x).1 (F y).1 ∧ (F x).2 = (F y).2 :=
  Prod.mk.inj (rest.symm.trans ((congrArg F h.eq).trans rest))

/-- What both report may differ. -/
theorem logs (a b : Log.Level) (v w : String) : SameBut W (x.log a v) (y.log b w) := by
  rw [SameBut, log_without, log_without, h.eq]

theorem event (l : Nat) (e : Event) : SameBut W (x.event l e) (y.event l e) :=
  h.keep (·.event l e) (event_without e)

end SameBut

/-! ## Responses -/

/-- No id is listed twice. -/
def ListsOnce (c : Client) (l : Nat) : Prop := ((c.link l).pending.map Prod.fst).Nodup

theorem isTold_without (out : t.isOf W = false) : (c.without W).isTold t = c.isTold t := by
  cases t with
  | call n => rw [isTold, call_without_ne out, isTold]
  | _ => rfl

/-- A pending request of the rest is found all the same. -/
theorem pendingOf_without {k : Link} (once : (k.pending.map Prod.fst).Nodup) :
    pendingOf? (k.without W) j = (pendingOf? k j).filter fun p => !p.2.isOf W := by
  cases found : pendingOf? k j with
  | none =>
    refine List.find?_eq_none.mpr fun p mem => ?_
    exact List.find?_eq_none.mp found p (List.mem_of_mem_filter mem)
  | some p =>
    have mem := List.mem_of_find?_eq_some found
    have hit : isId j p.1 := List.find?_some (p := fun p : Nat × Task => isId j p.1) found
    -- Another one that is found has the same id.
    have only (q : Nat × Task) (mem' : q ∈ k.pending) (hit' : isId j q.1) : q = p := by
      have same : q.1 = p.1 := isId_inj hit' hit
      exact List.inj_on_of_nodup_map once mem' mem same
    by_cases here : p.2.isOf W
    · rw [Option.filter_some, if_neg (by simp [here])]
      refine List.find?_eq_none.mpr fun q mem' hit' => ?_
      obtain ⟨there, out⟩ := List.mem_filter.mp mem'
      rw [only q there hit'] at out
      simp [here] at out
    · rw [Option.filter_some, if_pos (by simp [here])]
      cases found' : pendingOf? (k.without W) j with
      | none =>
        have gone := List.find?_eq_none.mp found' p (List.mem_filter.mpr ⟨mem, by simp [here]⟩)
        exact absurd hit gone
      | some q =>
        rw [only q (List.mem_of_mem_filter (List.mem_of_find?_eq_some found'))
          (List.find?_some (p := fun p : Nat × Task => isId j p.1) found')]

/-- A request that nobody else waits for is withdrawn. -/
theorem without_forget (alone : ∀ t, (id, t) ∈ (c.link l).pending → t.isOf W) :
    (c.forget l id).without W = c.without W := by
  rw [← forget_without]
  refine modifyLink_self ?_
  rw [link_without]
  have stays : ((c.link l).pending.filter fun p => !p.2.isOf W).filter (·.1 != id) =
      (c.link l).pending.filter fun p => !p.2.isOf W := by
    refine List.filter_eq_self.mpr fun p mem => ?_
    obtain ⟨there, out⟩ := List.mem_filter.mp mem
    refine bne_iff_ne.mpr fun same => ?_
    rw [alone p.2 (same ▸ there)] at out
    cases out
  simp only [Link.without, stays]

/-- A response that is well formed does the same to the rest, be it for one of these calls or
not. -/
theorem handleResponse_without (once : ListsOnce c l) (key : ∃ k, j.asKey = .ok k)
    (outcome : responseOutcome ms = .ok o) :
    ((c.without W).handleResponse l j ms).1.without W = (c.handleResponse l j ms).1.without W := by
  have twice (c : Client) : (c.without W).without W = c.without W := without_without fun _ h => h
  have dropped (b c : Client) (same : b.without W = c.without W) :
      (b.dropResponse j).without W = (c.dropResponse j).without W := by
    rw [dropResponse, log_without, dropResponse, log_without, same]
  obtain ⟨key, e⟩ := key
  unfold handleResponse
  rw [e, link_without]
  dsimp only
  rw [pendingOf_without once]
  cases found : pendingOf? (c.link l) j with
  | none => exact dropped _ _ (twice c)
  | some p =>
    obtain ⟨id, t⟩ := p
    have mem := mem_of_pendingOf? found
    rw [Option.filter_some]
    by_cases here : t.isOf W
    · -- Only a call that is left out waits for the answer.
      have forgot : (c.forget l id).without W = c.without W := by
        refine without_forget fun u mem' => ?_
        have same : (id, u) = (id, t) := List.inj_on_of_nodup_map once mem' mem rfl
        rwa [(Prod.mk.inj same).2]
      rw [if_neg (by simp [here])]
      dsimp only
      split
      · exact dropped _ _ ((twice c).trans forgot.symm)
      · rw [outcome]
        dsimp only
        obtain ⟨n, rfl⟩ : ∃ n, t = .call n := by
          cases t with
          | call n => exact ⟨n, rfl⟩
          | _ => cases here
        rw [wake, without_wakeCall here, forgot, dropResponse, log_without, twice]
    · simp only [Bool.not_eq_true] at here
      rw [if_pos (by simp [here])]
      dsimp only
      rw [forget_without, isTold_without here]
      split
      · exact dropped _ _ (twice _)
      · rw [outcome]
        dsimp only
        rw [wake_without, twice]

theorem ListsOnce.dispatch (once : ListsOnce c l) : ListsOnce (c.dispatch l m).1 l := by
  cases dispatched (c := c) (l := l) (m := m) with
  | nobody _ pending => rwa [ListsOnce, pending]
  | sender _ _ pending =>
    rw [ListsOnce, pending]
    exact once.sublist (List.filter_sublist.map Prod.fst)

namespace SameBut

variable (h : SameBut W x y)

include h

/-! ## Listening -/

theorem handleNotification : SameBut W (x.handleNotification l m) (y.handleNotification l m) := by
  unfold Client.handleNotification
  rw [← h.audience]
  split
  · exact h.logs ..
  · exact h.event ..
  · exact h

theorem rejectRequest (method : Json) :
    SameBut W (x.rejectRequest l j method) (y.rejectRequest l j method) := by
  unfold Client.rejectRequest
  rw [← h.id_eq]
  dsimp only
  obtain ⟨wrote, same⟩ := (h.logs .debug .debug
    ("[" ++ x.id ++ "] Rejecting server request " ++ method.plain)
    ("[" ++ x.id ++ "] Rejecting server request " ++ method.plain)).both
      (·.write l (rejection j method)) write_without
  generalize (x.log .debug _).write l _ = r at *
  generalize (y.log .debug _).write l _ = q at *
  obtain ⟨a, v⟩ := r
  obtain ⟨b, w⟩ := q
  obtain rfl : v = w := same
  cases v with
  | ok => exact wrote
  | error e => exact wrote.logs ..

/-- A message of the right shape does the same to the rest of both. -/
theorem dispatch (regular : isRegular m) (left : ListsOnce x l) (right : ListsOnce y l) :
    SameBut W (x.dispatch l m).1 (y.dispatch l m).1 := by
  obtain ⟨ms, same, sorted⟩ := ofJson_regular regular
  obtain ⟨o, outcome⟩ := responseOutcome_regular regular same
  unfold Client.dispatch
  rw [sorted]
  split_ifs
  · have key := asKey_of_isRegular regular
    rw [SameBut, ← handleResponse_without left key outcome, h.eq,
      handleResponse_without right key outcome]
  · exact h.handleNotification
  · exact h.rejectRequest _

theorem announceFault (f : Wire.Fault) : SameBut W (x.announceFault l f) (y.announceFault l f) := by
  unfold Client.announceFault
  rw [← h.audience]
  split
  · exact (h.logs ..).keep giveUp giveUp_without
  · exact h.event ..
  · exact h

theorem announceEnd : SameBut W (x.announceEnd l) (y.announceEnd l) := by
  unfold Client.announceEnd
  rw [← h.audience]
  split
  · exact (h.logs ..).keep giveUp giveUp_without
  · exact h.event ..
  · exact h

theorem stopAfter {reason : Ending} {announce : Client → Client}
    (told : SameBut W (announce x) (announce y)) :
    SameBut W (x.stopAfter l turn reason announce) (y.stopAfter l turn reason announce) := by
  unfold Client.stopAfter
  dsimp only
  rw [← h.closed, ← h.shuttingDown]
  split
  · exact h.keep (·.stopListening l turn .deliberate) stopListening_without
  · exact told.keep (·.stopListening l turn reason) stopListening_without

theorem stopAfterFault (f : Wire.Fault) :
    SameBut W (x.stopAfterFault l turn f) (y.stopAfterFault l turn f) :=
  h.stopAfter (h.announceFault f)

/-- What arrives does the same to the rest of both, if the messages are of the right shape. -/
theorem listen (left : ListsOnce x l) (right : ListsOnce y l)
    (regular : ∀ m ∈ hear l fuel reading x, isRegular m) :
    SameBut W (listen l turn fuel reading x) (listen l turn fuel reading y) := by
  induction fuel generalizing x y reading with
  | zero =>
    unfold Client.listen
    split
    · exact h.keep (·.pauseListening l reading) pauseListening_without
    · exact h
  | succ fuel ih =>
    have off (rest : List UInt8) : SameBut W (x.setOutput l rest) (y.setOutput l rest) :=
      h.keep (·.setOutput l rest) setOutput_without
    unfold hear at regular
    unfold Client.listen
    rw [← h.process]
    cases found : Wire.next (x.process l).output reading with
    | unfinished r rest =>
      cases turn with
      | first => exact (off rest).keep (·.pauseListening l r) pauseListening_without
      | later => exact (off rest).stopAfterFault _
    | fault f rest => exact (off rest).stopAfterFault f
    | ended rest => exact (off rest).stopAfter (off rest).announceEnd
    | message m rest =>
      have once (c : Client) (once : ListsOnce c l) : ListsOnce (c.setOutput l rest) l := by
        have pending : ((c.setOutput l rest).link l).pending = (c.link l).pending :=
          link_modifyLink_same Link.pending fun _ => rfl
        rwa [ListsOnce, pending]
      rw [found] at regular
      dsimp only at regular ⊢
      have shape : isRegular m := by
        refine regular m ?_
        split <;> exact List.mem_cons_self
      have next := (off rest).dispatch shape (once x left) (once y right)
      have left' := (once x left).dispatch (m := m)
      have right' := (once y right).dispatch (m := m)
      have goesOn : ((x.setOutput l rest).dispatch l m).2 = none := dispatch_regular shape
      have goesOn' : ((y.setOutput l rest).dispatch l m).2 = none := dispatch_regular shape
      generalize (x.setOutput l rest).dispatch l m = r at *
      generalize (y.setOutput l rest).dispatch l m = q at *
      obtain ⟨a, v⟩ := r
      obtain ⟨b, w⟩ := q
      obtain rfl : v = none := goesOn
      obtain rfl : w = none := goesOn'
      dsimp only at next left' right' regular ⊢
      rw [← next.closed]
      split
      · exact next.keep (·.stopListening l turn .deliberate) stopListening_without
      · next up =>
        rw [if_neg up] at regular
        exact ih next left' right' fun m mem => regular m (List.mem_cons_of_mem _ mem)

/-- A listener in its turn. -/
theorem runListener (left : ListsOnce x l) (right : ListsOnce y l)
    (regular : ∀ m ∈ x.hearTurn l, isRegular m) : SameBut W (x.runListener l) (y.runListener l) := by
  have runs : SameBut W (x.setListener l .running) (y.setListener l .running) :=
    h.keep (·.setListener l .running) setListener_without
  have once (c : Client) (once : ListsOnce c l) : ListsOnce (c.setListener l .running) l := by
    have pending : ((c.setListener l .running).link l).pending = (c.link l).pending :=
      link_modifyLink_same Link.pending fun _ => rfl
    rwa [ListsOnce, pending]
  have feeds (reading : Wire.Reading)
      (regular : ∀ m ∈ (x.setListener l .running).hearFeed l reading, isRegular m) :
      SameBut W ((x.setListener l .running).listenFrom l .first reading)
        ((y.setListener l .running).listenFrom l .first reading) := by
    rw [listenFrom, listenFrom, ← runs.process]
    exact runs.listen (once x left) (once y right) regular
  have begins (regular : ∀ m ∈ (x.setListener l .running).hearBegin l, isRegular m) :
      SameBut W ((x.setListener l .running).beginListening l .first)
        ((y.setListener l .running).beginListening l .first) := by
    unfold hearBegin at regular
    unfold beginListening
    rw [← runs.closed]
    split
    · exact runs.keep (·.stopListening l .first .deliberate) stopListening_without
    · next up =>
      rw [if_neg up] at regular
      exact feeds .start regular
  have stops := h.keep (·.stopListening l .first .deliberate) stopListening_without
  have ends := h.keep (·.endListener l) endListener_without
  have reading : (x.link l).reading = (y.link l).reading := (congrArg Link.reading h.link :)
  unfold Client.runListener
  unfold hearTurn at regular
  dsimp only
  rw [← h.listener, ← reading]
  generalize (x.link l).listener = w at regular ⊢
  obtain ⟨p, s⟩ := w
  by_cases cancelled : s = some .cancelled
  · subst cancelled
    cases p with
    | fresh => exact ends
    | _ => exact stops
  · cases p with
    | fresh =>
      rcases s with _ | _ | _ | _ | _ <;>
        first | exact absurd rfl cancelled | exact begins regular
    | _ =>
      rcases s with _ | _ | _ | _ | _ <;>
        first | exact absurd rfl cancelled | exact feeds _ regular

theorem readErrors : SameBut W (readErrors l fuel x) (readErrors l fuel y) := by
  induction fuel generalizing x y with
  | zero => exact h.keep (·.setDrain l .waiting) setDrain_without
  | succ fuel ih =>
    have off (rest : List UInt8) : SameBut W (x.setErrors l rest) (y.setErrors l rest) :=
      h.keep (·.setErrors l rest) setErrors_without
    unfold Client.readErrors
    rw [← h.process]
    split
    · exact h.keep (·.setDrain l .waiting) setDrain_without
    · exact h.keep (·.endDrain l) endDrain_without
    · exact ((off _).logs ..).keep (·.endDrain l) endDrain_without
    · exact ih ((off _).logs ..)

theorem runDrain : SameBut W (x.runDrain l) (y.runDrain l) := by
  unfold Client.runDrain
  rw [← h.drain, ← h.process]
  split
  · exact h.keep (·.endDrain l) endDrain_without
  · exact (h.keep (·.setDrain l .running) setDrain_without).readErrors

/-! ## Starting -/

theorem failAttempt {e e' : Error} (same : e = e') :
    SameBut W (x.failAttempt n e) (y.failAttempt n e') := by
  subst same
  have logged := h.logs .error .error ("Failed to start LSP " ++ x.id ++ ": " ++ e.message)
    ("Failed to start LSP " ++ y.id ++ ": " ++ e.message)
  unfold Client.failAttempt
  dsimp only
  rw [← logged.id_eq]
  exact logged.keep (·.abandon n _) abandon_without

theorem introduction : x.introduction = y.introduction := by
  have workspace : x.workspace = y.workspace := (congrArg Client.workspace h.eq :)
  rw [Client.introduction, workspace, Client.introduction]

theorem introduce : SameBut W (x.introduce n l) (y.introduce n l) := by
  obtain ⟨asked, same⟩ := h.both (·.request l (.attempt n) "initialize" x.introduction)
    (request_without (t := .attempt n) rfl)
  unfold Client.introduce
  rw [← h.introduction]
  generalize x.request _ _ _ _ = r at *
  generalize y.request _ _ _ _ = q at *
  obtain ⟨a, v⟩ := r
  obtain ⟨b, w⟩ := q
  obtain rfl : v = w := same
  cases v with
  | ok id => exact asked.keep (·.setAttempt n (.handshake l id)) (setAttempt_without _)
  | error e =>
    exact asked.failAttempt (congrArg (Error.uninitialized · e) asked.id_eq)

theorem spawn : SameBut W (x.spawn n) (y.spawn n) := by
  have policies : x.policies = y.policies := (congrArg Client.policies h.eq :)
  have spawns : x.spawns = y.spawns := (congrArg Client.spawns h.eq :)
  have next : x.nextPolicy = y.nextPolicy := by rw [nextPolicy, policies, nextPolicy]
  have rest : x.restPolicies = y.restPolicies := by rw [restPolicies, policies, restPolicies]
  have shown : SameBut W (x.emit (.event x.spawns .spawned)) (y.emit (.event x.spawns .spawned)) :=
    h.keep (·.emit (.event x.spawns .spawned)) fun {c} => by
      rw [emit_without]
      rfl
  have spent := shown.keep
    (fun c => { c with policies := x.restPolicies, spawns := x.spawns + 1 }) rfl
  unfold Client.spawn
  dsimp only
  rw [← next, ← rest, ← spawns]
  split
  · exact h.failAttempt (congrArg (Error.commandNotFound ·.command) h.config)
  · split
    · exact spent.failAttempt (congrArg (Error.spawnRefused ·.command _) h.config)
    · exact spent.failAttempt rfl
    · have linked := shown.keep (·.addLink x.restPolicies x.nextPolicy) addLink_without
      rw [connect_eq, spawns, connect_eq, ← spawns, ← h.links_length]
      split
      · split
        · exact (linked.keep (·.addDrain x.links.length) addDrain_without).introduce
        · exact linked.introduce
      · exact linked.failAttempt rfl

theorem afterClearing (p : Progress) : SameBut W (x.afterClearing n p) (y.afterClearing n p) := by
  unfold Client.afterClearing
  split
  · exact h.keep (·.setAttempt n _) (setAttempt_without _)
  · refine SameBut.spawn (SameBut.logs ?_ ..)
    exact h.keep (fun c => { c with state := .starting }) rfl
  · exact h.keep (·.endAttempt n _) endAttempt_without

theorem beginAttempt : SameBut W (x.beginAttempt n) (y.beginAttempt n) := by
  obtain ⟨released, same⟩ := h.both release release_without
  unfold Client.beginAttempt
  dsimp only
  rw [← same]
  exact released.afterClearing _

theorem completeHandshake (j : Json) :
    SameBut W (x.completeHandshake n j) (y.completeHandshake n j) := by
  unfold Client.completeHandshake
  rw [← h.held]
  split
  · exact h.failAttempt rfl
  · next l _ =>
    obtain ⟨told, same⟩ := h.both (·.notify l "initialized" (.obj [])) notify_without
    generalize x.notify _ _ _ = r at *
    generalize y.notify _ _ _ = q at *
    obtain ⟨a, v⟩ := r
    obtain ⟨b, w⟩ := q
    obtain rfl : v = w := same
    cases v with
    | error e =>
      exact told.failAttempt (congrArg (Error.uninitialized · e) told.id_eq)
    | ok =>
      dsimp only
      split
      · exact told.failAttempt rfl
      · next capabilities _ =>
        have known := told.keep (fun c => { c with capabilities := capabilities }) rfl
        have ready := (known.logs .debug .debug
          ("LSP " ++ a.id ++ " capabilities: " ++ capabilities.compact)
          ("LSP " ++ b.id ++ " capabilities: " ++ capabilities.compact)).keep
          (fun c => { c with state := .ready }) rfl
        exact (ready.logs ..).keep (·.endAttempt n .done) endAttempt_without

theorem runAttempt : SameBut W (x.runAttempt n) (y.runAttempt n) := by
  have runs : SameBut W (x.setAttempt n .running) (y.setAttempt n .running) :=
    h.keep (·.setAttempt n .running) (setAttempt_without _)
  unfold Client.runAttempt
  rw [← h.attempts]
  split
  · exact h
  · next phase signal _ =>
    have step (t : Teardown) := runs.both (·.resumeTeardown t (signal.getD .go)) resumeTeardown_without
    dsimp only
    split
    · split
      · exact runs.keep (·.endAttempt n .cancelled) endAttempt_without
      · exact runs.beginAttempt
    · obtain ⟨down, same⟩ := step _
      rw [← same]
      exact down.afterClearing _
    · split
      · exact runs.completeHandshake _
      · exact runs.failAttempt (congrArg (Error.uninitialized · _) runs.id_eq)
      · exact (runs.keep (·.forget _ _) forget_without).keep (·.abandon n .cancelled) abandon_without
    · obtain ⟨down, same⟩ := step _
      rw [← same]
      exact down.keep (·.afterFailing n _ _) afterFailing_without
    · exact runs.keep (·.setAttempt n _) (setAttempt_without _)

/-! ## Calls of the rest -/

theorem reset : SameBut W x.reset y.reset :=
  h.keep (fun c => { c with state := .notStarted, capabilities := .null }) rfl

section Rest

variable (out : W n = false)

include out

theorem finish (o : Outcome) : SameBut W (x.finish n o) (y.finish n o) :=
  h.keep (·.finish n o) (finish_without out o)

theorem afterDisposing (p : Progress) : SameBut W (x.afterDisposing n p) (y.afterDisposing n p) := by
  unfold Client.afterDisposing
  split
  · exact h.keep (·.setCall n _) (setCall_without out _)
  · exact h.reset.finish out _
  · exact (h.logs ..).reset.finish out _
  · exact h.reset.finish out _

theorem takeDown : SameBut W (x.takeDown n) (y.takeDown n) := by
  obtain ⟨released, same⟩ := h.both release release_without
  unfold Client.takeDown
  dsimp only
  rw [← same]
  exact released.afterDisposing out _

theorem shutDown : SameBut W (x.shutDown n) (y.shutDown n) := by
  have usable : x.usableLink = y.usableLink := (congrArg usableLink h.eq :)
  unfold Client.shutDown
  rw [← usable]
  split
  · exact h.takeDown out
  · next l _ =>
    obtain ⟨asked, same⟩ := (h.keep (·.expectEnd l) expectEnd_without).both
      (·.request l (.call n) "shutdown" .null) (request_without (t := .call n) out)
    dsimp only
    generalize (x.expectEnd l).request _ _ _ _ = r at *
    generalize (y.expectEnd l).request _ _ _ _ = q at *
    obtain ⟨a, v⟩ := r
    obtain ⟨b, w⟩ := q
    obtain rfl : v = w := same
    have now : a.now = b.now := (congrArg Client.now asked.eq :)
    have waits (id : Nat) := asked.keep
      (·.setCall n (.shuttingDown l id (a.now + 2 * second))) (setCall_without out _)
    cases v with
    | ok id =>
      dsimp only
      rw [← now]
      exact waits id
    | error e =>
      dsimp only
      rw [← now]
      exact (waits 0).keep (·.wakeCall n (.answered (.error e))) wakeCall_without

theorem sendExit : SameBut W (x.sendExit n l) (y.sendExit n l) := by
  obtain ⟨told, same⟩ := h.both (·.notify l "exit" .null) notify_without
  unfold Client.sendExit
  generalize x.notify _ _ _ = r at *
  generalize y.notify _ _ _ = q at *
  obtain ⟨a, v⟩ := r
  obtain ⟨b, w⟩ := q
  obtain rfl : v = w := same
  cases v with
  | ok => exact told.takeDown out
  | error e => exact (told.logs ..).takeDown out

theorem dispose : SameBut W (x.dispose n) (y.dispose n) := by
  unfold Client.dispose
  rw [← h.attempt]
  split
  · exact h.shutDown out
  · next a _ =>
    have alone := h.keep (fun c => { c with attempt := none }) rfl
    dsimp only
    rw [← alone.attemptOutcome]
    split
    · exact alone.shutDown out
    · exact (alone.keep (·.cancelAttempt a) cancelAttempt_without).keep (·.setCall n (.stopping a))
        (setCall_without out _)

theorem afterStopping (a : Nat) : SameBut W (x.afterStopping n a) (y.afterStopping n a) := by
  unfold Client.afterStopping
  rw [← h.attemptOutcome]
  split
  · exact (h.logs ..).shutDown out
  · exact h.shutDown out

/-- A call of the rest begins, and listens to nothing. -/
theorem beginCall {job : Job} (deaf : job ≠ .listen) :
    SameBut W (x.beginCall n job) (y.beginCall n job) := by
  unfold Client.beginCall
  split
  · rw [needsStart, needsStart, ← h.state]
    split
    · exact h.keep (·.join n []) (join_without out)
    · exact h.finish out _
  · exact h.keep (·.sendAll n .null _) (sendAll_without out)
  · exact absurd rfl deaf
  · have held : x.heldLink = y.heldLink := (congrArg heldLink h.eq :)
    obtain ⟨down, same⟩ := h.both (·.closeConnection ⟨x.heldLink, none, .listener⟩)
      closeConnection_without
    dsimp only
    rw [← held, ← same]
    exact down.keep (·.afterClosing n _) (afterClosing_without out)
  · exact h.dispose out

theorem resumeCall {p : CallPhase} (deaf : p ≠ .fresh .listen) :
    SameBut W (x.resumeCall n s p) (y.resumeCall n s p) := by
  have step (t : Teardown) := h.both (·.resumeTeardown t s) resumeTeardown_without
  have forgot (l id : Nat) := h.keep (·.forget l id) forget_without
  unfold Client.resumeCall
  split
  · split
    · exact h.finish out _
    · exact h.beginCall out fun e => deaf (congrArg CallPhase.fresh e)
  · split
    · exact h.keep (·.sendJoined n _) (sendJoined_without out)
    · exact h.finish out _
    · exact h.finish out _
  · split
    · exact h.keep (·.sendAll n _ _) (sendAll_without out)
    · exact h.finish out _
    · exact (forgot _ _).finish out _
  · obtain ⟨down, same⟩ := step _
    dsimp only
    rw [← same]
    exact down.keep (·.afterClosing n _) (afterClosing_without out)
  · exact h.afterStopping out _
  · split
    · exact h.sendExit out
    · exact (h.logs ..).takeDown out
    · exact ((forgot _ _).logs ..).takeDown out
    · exact (forgot _ _).reset.finish out _
  · obtain ⟨down, same⟩ := step _
    dsimp only
    rw [← same]
    exact down.afterDisposing out _
  · exact h.keep (·.setCall n _) (setCall_without out _)

theorem runCall (deaf : ∀ k, x.calls[n]? = some k → k.phase ≠ .fresh .listen) :
    SameBut W (x.runCall n) (y.runCall n) := by
  unfold Client.runCall
  rw [← h.call out]
  split
  · exact h
  · next e =>
    exact (h.keep (·.setCall n .running) (setCall_without out _)).resumeCall out (deaf _ e)

end Rest

end SameBut

end LspGateway.Client
