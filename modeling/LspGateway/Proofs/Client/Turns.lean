import LspGateway.Proofs.Client.Closing

/-! # Turns as actions

Every step of a run is a series of actions. It starts with the turn of the first
activity in the queue, or comes from outside.
-/

namespace LspGateway.Client

variable {hit : Nat → Prop} {c c₁ : Client} {d d₁ : Option Doer} {ls : List Loss} {x : Doer}
  {l k n : Nat} {t : Teardown} {s : Signal} {o : Outcome} {found : Held}

/-! ## Links in use -/

theorem HoldsLinks.mono (h : c.HoldsLinks) (process : c₁.held.process = c.held.process)
    (connection : c₁.held.connection = c.held.connection)
    (links : c.links.length ≤ c₁.links.length) : c₁.HoldsLinks := by
  intro l held
  rw [process, connection] at held
  exact Nat.lt_of_lt_of_le (h l held) links

theorem Action.holdsLinks (act : Action hit c d c₁ d₁) (h : c.HoldsLinks) : c₁.HoldsLinks := by
  have links := act.links_le
  cases act with
  | takes how =>
    cases how with
    | releases idle who => rintro l (⟨⟨⟩⟩ | ⟨⟨⟩⟩)
    | _ => exact h
  | connects task done starts cold ps p =>
    have last : c.links.length < (c.addLink ps p).links.length := by simp [addLink]
    rintro l (⟨⟨⟩⟩ | connection)
    · exact last
    · simp only [addLink] at connection
      split at connection
      · obtain rfl := Option.some.inj connection
        exact last
      · exact Nat.lt_of_lt_of_le (h l (.inr connection)) links
  | _ => exact h.mono rfl rfl links

theorem Path.holdsLinks (path : Path hit c d ls c₁ d₁) (h : c.HoldsLinks) : c₁.HoldsLinks := by
  induction path with
  | nil => exact h
  | step act _ ih => exact ih (act.holdsLinks h)
  | loses _ _ _ _ ih =>
    exact ih (h.mono rfl rfl (Nat.le_of_eq (links_length_modifyLink _).symm))

/-! ## New links -/

theorem modify_last {α : Type} (xs : List α) (a : α) (f : α → α) :
    (xs ++ [a]).modify xs.length f = xs ++ [f a] := by
  induction xs with
  | nil => rfl
  | cons x xs ih => simpa using ih

theorem link_last (ks : List Link) {k : Link} (h : c.links = ks ++ [k]) :
    c.link ks.length = k := by
  simp [link_eq, h]

theorem startListening_new (ks : List Link) (k : Link) (h : c.links = ks ++ [k])
    (absent : k.listener.phase = .absent) :
    c.startListening ks.length =
      { c with
        links := ks ++
          [{ k with crash := none, superseded := false, listener := ⟨.fresh, some .go⟩ }]
        ready := c.ready ++ [.listener ks.length] } := by
  unfold startListening
  rw [link_last ks h, absent]
  simp only [push, modifyLink, h, modify_last]

/-- A process is listened to before anything is said to it. -/
theorem connect_eq (ps : List Policy) (p : Policy) (o : Output) :
    Client.connect ({ c with policies := ps, spawns := c.spawns + 1 }.emit o) n p =
      if p.hasInput then
        (if p.hasErrors then ((c.emit o).addLink ps p).addDrain c.links.length
          else (c.emit o).addLink ps p).introduce n c.links.length
      else ((c.emit o).addLink ps p).failAttempt n .noPipes := by
  unfold connect addLink
  cases h : p.hasInput with
  | true =>
    simp only [if_true, emit]
    rw [startListening_new c.links (Link.ofPolicy c.spawns p) rfl rfl]
    rfl
  | false =>
    simp only [Bool.false_eq_true, if_false, emit, List.append_nil]
    rfl

/-! ## Attempts -/

/-- What an activity in its turn has under way, apart from a teardown. -/
structure Acts (t : Task) (r : Role) (x : Doer) : Prop where
  task : x.task = t
  rest : (x.takeDown none).role = r
  leaves : x.leaves = none

namespace Acts

variable {a : Task} {r : Role} {t : Option Teardown}

theorem takeDown (h : Acts a r x) : Acts a r (x.takeDown t) := ⟨h.task, h.rest, h.leaves⟩

theorem turnTo {s s' : Strand} (h : Acts a (.attempting s) x) :
    Acts a (.attempting s') (x.turnTo s') :=
  ⟨h.task, congrArg (fun r : Role => { r with strand := s' }) h.rest, h.leaves⟩

theorem strand (h : Acts a r x) : x.role.strand = r.strand :=
  (congrArg Role.strand h.rest :)

theorem errand (h : Acts a r x) : x.role.errand = r.errand :=
  (congrArg Role.errand h.rest :)

theorem expects (h : Acts a r x) : x.role.expects = r.expects :=
  (congrArg Role.expects h.rest :)

theorem disposes (h : Acts a r x) : x.role.disposes = r.disposes :=
  (congrArg Role.disposes h.rest :)

theorem isFree (h : Acts a r x) (expects : r.expects = none) : x.IsFree :=
  ⟨h.expects.trans expects, h.leaves⟩

theorem role_takeDown (h : Acts a r x) : (x.takeDown t).role = { r with teardown := t } :=
  congrArg (fun r => { r with teardown := t }) h.rest

theorem role (h : Acts a r x) (down : x.role.teardown = none) : x.role = r := by
  rw [← h.rest, Doer.takeDown, ← down]

theorem isDone (h : Acts a r x) (down : x.role.teardown = none) (expects : r.expects = none)
    (stopping : r.stopping = none) : x.IsDone :=
  ⟨h.expects.trans expects, down, (congrArg Role.stopping h.rest :).trans stopping, h.leaves⟩

end Acts

theorem Acts.later {s : Strand} (attempts : Acts (.attempt n) (.attempting s) x)
    (later : s = .speaks → x.began.strand = .speaks) :
    x.role.strand = .speaks → x.began.strand = .speaks := by
  rwa [attempts.strand]

theorem path_endAttempt {s : Strand} (attempts : Acts (.attempt n) (.attempting s) x)
    (later : s = .speaks → x.began.strand = .speaks) (down : x.role.teardown = none)
    (here : n < c.attempts.length) (failed : o.isFailure) :
    Path hit c (some x) [] (c.endAttempt n o) none := by
  refine .step (.endsAttempt attempts.task (attempts.isDone down rfl rfl) failed
    (attempts.later later)) (path_wakeCalls nofun fun q hq _ => ?_)
  obtain rfl : q = .stopping n := by simpa using hq
  refine .stopped ?_
  simp [attemptOutcome?, settleAttempt, putAttempt, push, here]

/-- What is left of the taking down of what an attempt had started. -/
theorem path_afterFailing {r : Client × Progress}
    (attempts : Acts (.attempt n) (.attempting .fails) x) (here : n < c.attempts.length)
    (failed : o.isFailure) (closes : Closes hit c x r) :
    Path hit c (some x) [] (r.1.afterFailing n o r.2) none := by
  obtain ⟨c₁, p⟩ := r
  have here₁ : n < c₁.attempts.length := Nat.lt_of_lt_of_le here closes.path.attempts_le
  cases p with
  | waits t =>
    refine closes.path.last (.parksAttempt attempts.task ?_ attempts.leaves rfl closes.ends ?_)
    · exact attempts.role_takeDown.symm
    · rintro t' o' ⟨⟩
      exact failed
  | «over» o' =>
    have down : Path hit c (some x) [] c₁ (some (x.takeDown none)) := closes.path
    cases o' with
    | value j =>
      exact (down.last (.fallsBack attempts.task attempts.strand rfl)).next
        (path_endAttempt attempts.takeDown nofun rfl here₁ failed)
    | error e => exact down.next (path_endAttempt attempts.takeDown nofun rfl here₁ rfl)
    | cancelled => exact down.next (path_endAttempt attempts.takeDown nofun rfl here₁ rfl)

section Failing

variable {s : Strand} (attempts : Acts (.attempt n) (.attempting s) x)
  (later : s = .speaks → x.began.strand = .speaks)
  (here : n < c.attempts.length) (holds : c.HoldsLinks) (down : x.role.teardown = none)

include attempts later here holds down

theorem path_abandon (failed : o.isFailure) : Path hit c (some x) [] (c.abandon n o) none :=
  .step (.turnsBack attempts.task (attempts.later later)) (path_afterFailing attempts.turnTo here failed
    (closes_release down (.inl ⟨n, attempts.task⟩) (attempts.turnTo.isFree rfl) holds))

theorem path_failAttempt {e : Error} : Path hit c (some x) [] (c.failAttempt n e) none :=
  (path_log _ _).next (path_abandon attempts later here holds down rfl)

end Failing

/-- Nothing was done with a link yet, and nothing keeps it from being used. -/
structure Link.IsNew (k : Link) : Prop where
  lastId : k.lastId = 0
  up : k.isClosed = false
  sound : k.process.inputFault = none

/-- The first request to a new process is sent. -/
theorem request_new {a : Task} {method : String} {params : Json} {e : Error}
    (new : (c.link l).IsNew) : c.request l a method params ≠ (c₁, .error e) := by
  intro h
  have closed := new.up
  simp only [Link.isClosed, Bool.or_eq_false_iff] at closed
  have up : ((c.register l a).link l).closed = false := by
    refine Eq.trans ?_ closed.1.1
    exact link_modifyLink_same Link.closed fun _ => rfl
  have sound : ((c.register l a).process l).inputFault = none := by
    refine Eq.trans ?_ new.sound
    exact link_modifyLink_same (fun k => k.process.inputFault) fun _ => rfl
  rw [request_eq new.up] at h
  simp [write, up, sound] at h

theorem path_introduce (attempts : Acts (.attempt n) (.attempting .speaks) x)
    (down : x.role.teardown = none) (used : c.held.connection = some l)
    (new : (c.link l).IsNew) : Path hit c (some x) [] (c.introduce n l) none := by
  have why : Occasion c x l (some ((c.link l).lastId + 1)) "initialize" c.introduction := by
    rw [new.lastId]
    exact .introduces attempts.task attempts.strand
  unfold introduce
  split
  · next c₁ id e =>
    obtain ⟨asked, -⟩ := path_request attempts.task attempts.expects attempts.leaves used why e
    refine asked.last (.parksAttempt attempts.task ?_ attempts.leaves rfl nofun nofun)
    rw [Doer.expect, attempts.role down]
    rfl
  · next e => exact absurd e (request_new new)

section Starting

variable (attempts : Acts (.attempt n) (.attempting .starts) x)
  (here : n < c.attempts.length) (holds : c.HoldsLinks) (down : x.role.teardown = none)
  (clear : c.held = .nothing ∨ c.held = x.found) (cold : c.state = .starting)

include attempts here holds down clear cold

theorem path_connect (ps : List Policy) (p : Policy) {o : Output} (quiet : o.isQuiet) :
    Path hit c (some x) []
      (Client.connect ({ c with policies := ps, spawns := c.spawns + 1 }.emit o) n p) none := by
  have linked : Path hit c (some x) [] ((c.emit o).addLink ps p)
      (some (x.turnTo (if p.hasInput then .speaks else .fails))) :=
    .step (.shows quiet) (.one (.connects (c := c.emit o) attempts.task
      (attempts.isDone down rfl rfl) attempts.strand cold ps p clear))
  have fresh : ((c.emit o).addLink ps p).link c.links.length =
      { Link.ofPolicy c.spawns p with
        listener := if p.hasInput then ⟨.fresh, some .go⟩ else ⟨.absent, none⟩ } :=
    link_last c.links rfl
  have last : c.links.length < ((c.emit o).addLink ps p).links.length := by
    simp [addLink, emit]
  rw [connect_eq]
  split
  · next input =>
    rw [if_pos input] at linked
    have used : ((c.emit o).addLink ps p).held.connection = some c.links.length := by
      simp [addLink, input, emit]
    have introduced {c' : Client} (path : Path hit c (some x) [] c' (some (x.turnTo .speaks)))
        (used : c'.held.connection = some c.links.length)
        (new : (c'.link c.links.length).IsNew) :
        Path hit c (some x) [] (c'.introduce n c.links.length) none :=
      path.next (path_introduce attempts.turnTo down used new)
    have new : (((c.emit o).addLink ps p).link c.links.length).IsNew := by
      rw [fresh, if_pos input]
      exact ⟨rfl, rfl, rfl⟩
    split
    · refine introduced (linked.last (.drains attempts.task last (by rw [fresh]; rfl))) used ?_
      have drained := link_modifyLink_self last fun k : Link => { k with drain := ⟨.fresh, some .go⟩ }
      rw [show (((c.emit o).addLink ps p).addDrain c.links.length).link c.links.length = _ from drained]
      exact ⟨new.lastId, new.up, new.sound⟩
    · exact introduced linked used new
  · next input =>
    rw [if_neg input] at linked
    exact linked.next (path_failAttempt (x := x.turnTo .fails) attempts.turnTo (by rintro ⟨⟩)
      (Nat.lt_of_lt_of_le here linked.attempts_le) (linked.holdsLinks holds) down)

theorem path_spawn : Path hit c (some x) [] (c.spawn n) none := by
  unfold spawn
  dsimp only
  split
  · exact path_failAttempt attempts nofun here holds down
  · have spent : Path hit c (some x) []
        ({ c with policies := c.restPolicies, spawns := c.spawns + 1 }.emit
          (.event c.spawns .spawned)) (some (x.turnTo .fails)) :=
      .step (.spends attempts.task attempts.strand _) (.one (.shows rfl))
    have failed {e : Error} := spent.next (path_failAttempt (x := x.turnTo .fails) (e := e)
      attempts.turnTo nofun (Nat.lt_of_lt_of_le here spent.attempts_le) (spent.holdsLinks holds)
      down)
    split
    · exact failed
    · exact failed
    · exact path_connect attempts here holds down clear cold _ _ rfl

end Starting

/-- The server is told that it is initialized, if that can be written. -/
theorem path_greet {id : Nat} {j : Json} (attempts : Acts (.attempt n) (.attempting .speaks) x)
    (used : c.held.connection = some l) (began : x.began.strand = .speaks)
    (asked : x.asked = some (k, id)) (agreed : x.signal = .answered (.value j)) :
    (∃ e, c.notify l "initialized" (.obj []) = (c, .error e)) ∨
      Path hit c (some x) [] (c.notify l "initialized" (.obj [])).1 (some (x.turnTo .greeted)) := by
  unfold notify
  split
  · exact .inl ⟨_, rfl⟩
  · refine (c.write_cases l _).imp_right fun ⟨_, path⟩ => ?_
    exact .step (.greets attempts.task attempts.strand asked agreed used began)
      (path hit _ fun _ _ _ => .inr (.inr (.inl used)))

theorem path_completeHandshake {result : Json} {id : Nat}
    (attempts : Acts (.attempt n) (.attempting .speaks) x) (here : n < c.attempts.length)
    (holds : c.HoldsLinks) (down : x.role.teardown = none) (began : x.began.strand = .speaks)
    (asked : x.asked = some (k, id)) (agreed : x.signal = .answered (.value result)) :
    Path hit c (some x) [] (c.completeHandshake n result) none := by
  have failed {c' : Client} {s : Strand} (path : Path hit c (some x) [] c' (some (x.turnTo s)))
      {e : Error} : Path hit c (some x) [] (c'.failAttempt n e) none :=
    path.next (path_failAttempt (x := x.turnTo s) attempts.turnTo (fun _ => began)
      (Nat.lt_of_lt_of_le here path.attempts_le) (path.holdsLinks holds) down)
  have failed' {e : Error} : Path hit c (some x) [] (c.failAttempt n e) none :=
    path_failAttempt attempts (fun _ => began) here holds down
  unfold completeHandshake
  split
  · exact failed'
  · next l used =>
    obtain ⟨e, refused⟩ | notified := path_greet attempts used began asked agreed
    · rw [refused]
      exact failed'
    split
    · next c₁ e h =>
      rw [h] at notified
      exact failed notified
    · next c₁ h =>
      rw [h] at notified
      split
      · exact failed notified
      · next capabilities shape =>
        obtain ⟨held, up⟩ := isClosed_notify h
        have greeted : Acts (.attempt n) (.attempting .greeted) (x.turnTo .greeted) :=
          attempts.turnTo
        have told := notified.next
          (path_log .debug ("LSP " ++ c₁.id ++ " capabilities: " ++ capabilities.compact))
        have logged := told.next (path_log .info ("LSP " ++ c₁.id ++ " initialized successfully"))
        have used : c₁.held.connection = some l := held ▸ used
        have success := logged.last (.succeeds greeted.task (greeted.isDone down rfl rfl)
          greeted.strand asked agreed (by exact used) (by exact up) capabilities shape)
        refine success.next (path_wakeCalls nofun fun q hq _ => ?_)
        obtain rfl : q = .stopping n := by simpa using hq
        refine .stopped ?_
        have here₁ : n < c₁.attempts.length := Nat.lt_of_lt_of_le here notified.attempts_le
        simp [attemptOutcome?, settleAttempt, putAttempt, push, log, emit, here₁]

section Clearing

variable (attempts : Acts (.attempt n) (.attempting .early) x) (here : n < c.attempts.length)

include attempts here

theorem path_afterClearing {r : Client × Progress} (holds : c.HoldsLinks)
    (closes : Closes hit c x r) (clear : r.1.held = .nothing ∨ r.1.held = x.found)
    (go : ∀ j, r.2 = .over (.value j) → x.signal = .cancelled →
      ∃ t, x.began.teardown = some t ∧ t.stage.isFirm) :
    Path hit c (some x) [] (r.1.afterClearing n r.2) none := by
  obtain ⟨c₁, p⟩ := r
  have here₁ : n < c₁.attempts.length := Nat.lt_of_lt_of_le here closes.path.attempts_le
  cases p with
  | waits t =>
    refine closes.path.last (.parksAttempt attempts.task ?_ attempts.leaves rfl closes.ends nofun)
    exact attempts.role_takeDown.symm
  | «over» o' =>
    have cleared : Path hit c (some x) [] c₁ (some (x.takeDown none)) := closes.path
    cases o' with
    | value j =>
      have started := (cleared.last (.startsUp attempts.task attempts.strand rfl (go j rfl))).next (path_log .info
        ("Starting LSP " ++ c₁.id ++ ": " ++
          String.intercalate " " (c₁.config.command :: c₁.config.args)))
      exact started.next (path_spawn attempts.takeDown.turnTo here₁ (started.holdsLinks holds) rfl
        clear rfl)
    | error e => exact cleared.next (path_endAttempt attempts.takeDown nofun rfl here₁ rfl)
    | cancelled => exact cleared.next (path_endAttempt attempts.takeDown nofun rfl here₁ rfl)

theorem path_beginAttempt (holds : c.HoldsLinks) (down : x.role.teardown = none)
    (go : x.signal ≠ .cancelled) :
    Path hit c (some x) [] (c.beginAttempt n) none :=
  path_afterClearing attempts here holds
    (closes_release down (.inl ⟨n, attempts.task⟩) (attempts.isFree rfl) holds) (.inl frame_release.held)
    fun _ _ cancelled => absurd cancelled go

end Clearing

/-- A teardown that is cancelled succeeds only if what it waits for has ended anyway. -/
theorem isFirm_of_resumeTeardown {j : Json}
    (ceased : (c.resumeTeardown t .cancelled).2 = .over (.value j)) : t.stage.isFirm := by
  unfold resumeTeardown at ceased
  split at ceased
  · next stage =>
    rw [stage]
    rfl
  · next stage =>
    rw [stage]
    rfl
  all_goals cases ceased

/-- An attempt in its turn. -/
theorem path_runAttempt {p : AttemptPhase} (told : c.attempts[n]? = some ⟨p, some s⟩)
    (live : p.isLive) (holds : c.HoldsLinks)
    (links : ∀ t, p.teardown? = some t → t.link < c.links.length)
    (shut : ∀ t, p.teardown? = some t → t.stage = .listener → (c.link t.link).closed)
    (proper : s = .answered .cancelled → p.role.expects = none)
    (failed : ∀ t o, p = .failing t o → o.isFailure) :
    Path hit (c.putAttempt n ⟨.running, none⟩) (some (.ofTurn (.attempt n) s p.role (p.finds c.held))) []
      (c.runAttempt n) none := by
  have here : n < (c.putAttempt n ⟨.running, none⟩).attempts.length := by
    simpa [putAttempt] using (List.getElem?_eq_some_iff.mp told).1
  unfold runAttempt
  rw [told]
  dsimp only [Option.getD_some]
  rw [setAttempt_eq]
  cases p with
  | fresh =>
    have attempts : Acts (.attempt n) (.attempting .early) (.ofTurn (.attempt n) s .idle .nothing) :=
      ⟨rfl, rfl, by cases s <;> rfl⟩
    dsimp only
    split
    · exact path_endAttempt attempts nofun rfl here rfl
    · next go => exact path_beginAttempt attempts here holds rfl go
  | clearing t =>
    have attempts : Acts (.attempt n) (.attempting .early)
        (.ofTurn (.attempt n) s (AttemptPhase.clearing t).role c.held) :=
      ⟨rfl, rfl, by cases s <;> rfl⟩
    refine path_afterClearing attempts here holds
      (closes_resumeTeardown rfl rfl (attempts.isFree rfl) (links t rfl) (shut t rfl))
      (.inr frame_resumeTeardown.held) fun j ceased cancelled => ⟨t, rfl, ?_⟩
    obtain rfl : s = .cancelled := cancelled
    exact isFirm_of_resumeTeardown ceased
  | failing t o =>
    have attempts : Acts (.attempt n) (.attempting .fails)
        (.ofTurn (.attempt n) s (AttemptPhase.failing t o).role .nothing) :=
      ⟨rfl, rfl, by cases s <;> rfl⟩
    exact path_afterFailing attempts here (failed t o rfl)
      (closes_resumeTeardown rfl rfl (attempts.isFree rfl) (links t rfl) (shut t rfl))
  | handshake l id =>
    have given (s : Signal)
        (unanswered : (Doer.ofTurn (.attempt n) s (AttemptPhase.handshake l id).role .nothing).leaves =
          some (l, id)) :
        Path hit (c.putAttempt n ⟨.running, none⟩)
          (some (.ofTurn (.attempt n) s (AttemptPhase.handshake l id).role .nothing)) []
          (((c.putAttempt n ⟨.running, none⟩).forget l id).abandon n .cancelled) none :=
      have gone := Path.one (Action.withdraws rfl unanswered)
      gone.next (path_abandon (s := .speaks) ⟨rfl, rfl, rfl⟩ (fun _ => rfl) here (gone.holdsLinks holds) rfl rfl)
    cases s with
    | answered o =>
      have attempts : Acts (.attempt n) (.attempting .speaks)
          (.ofTurn (.attempt n) (.answered o) (AttemptPhase.handshake l id).role .nothing) :=
        ⟨rfl, rfl, rfl⟩
      cases o with
      | value result => exact path_completeHandshake attempts here holds rfl rfl rfl rfl
      | error e => exact path_failAttempt attempts (fun _ => rfl) here holds rfl
      | cancelled => cases proper rfl
    | go => exact given _ rfl
    | timedOut => exact given _ rfl
    | cancelled => exact given _ rfl
  | running => cases live
  | done o => cases live

/-! ## Calls -/

theorem path_finish {r : Role} (acts : Acts (.call n) r x) (down : x.role.teardown = none)
    (expects : r.expects = none) (stopping : r.stopping = none)
    (reset : r.disposes = true → c.state = .notStarted)
    (proper : r.errand = .sends →
      if x.signal = .cancelled then o = .cancelled
      else o.isProper ∨ x.signal = .answered o ∨ ∀ l, c.usableLink ≠ .ok l) :
    Path hit c (some x) [] (c.finish n o) none := by
  refine .step (.endsCall acts.task (acts.isDone down expects stopping) ?_ ?_)
    (.one (.shows rfl))
  · rwa [acts.disposes]
  · rwa [acts.errand]

/-! ### Sending -/

theorem proper_write {m : Json} {e : Error} (h : c.write l m = (c₁, .error e)) :
    (Outcome.error e).isProper := by
  unfold write at h
  dsimp only at h
  grind [Outcome.isProper]

theorem proper_notify {method : String} {params : Json} {e : Error}
    (h : c.notify l method params = (c₁, .error e)) : (Outcome.error e).isProper := by
  unfold notify at h
  split at h
  · obtain ⟨-, rfl⟩ : _ ∧ Error.closed = e := by simpa using h
    rfl
  · exact proper_write h

theorem proper_request {method : String} {params : Json} {t : Task} {e : Error}
    (h : c.request l t method params = (c₁, .error e)) : (Outcome.error e).isProper := by
  unfold request at h
  dsimp only at h
  split at h
  · obtain ⟨-, rfl⟩ : _ ∧ Error.closed = e := by simpa using h
    rfl
  · split at h
    · simp at h
    · next w =>
      obtain ⟨-, rfl⟩ : _ ∧ _ = e := by simpa using h
      exact proper_write w

theorem usableLink_ok (h : c.usableLink = .ok l) :
    c.held.connection = some l ∧ c.state = .ready := by
  unfold usableLink at h
  grind

/-- What becomes of a call that has sent something. -/
def Sent.after : Sent → Doer → Option Doer
  | .done, x => some x
  | .parked, _ => none

theorem attemptOutcome_addAttempt : c.addAttempt.attemptOutcome? c.attempts.length = none := by
  simp [attemptOutcome?, addAttempt, push]

section Sends

variable (acts : Acts (.call n) (.begun .sends) x) (down : x.role.teardown = none)
  (go : x.signal ≠ .cancelled)

include acts down go

theorem path_finishSend (proper : o.isProper ∨ ∀ l, c.usableLink ≠ .ok l) :
    Path hit c (some x) [] (c.finish n o) none :=
  path_finish acts down rfl rfl nofun fun _ => by
    rw [if_neg go]
    exact proper.imp_right .inr

theorem path_join {sends : List Send} (cold : c.state ≠ .ready) :
    Path hit c (some x) [] (c.join n sends) none := by
  have errand : x.role.errand = .sends := acts.errand
  have park {c' : Client} {a : Nat} (same : c'.state = c.state) (shared : c'.attempt = some a)
      (live : c'.attemptOutcome? a = none) :
      Path hit c' (some x) [] (c'.setCall n (.joined a sends)) none := by
    refine .one (.parksCall acts.task (acts.role down).symm acts.leaves rfl nofun nofun (fun _ => go) ?_)
    rintro b sends' e
    obtain ⟨rfl, -⟩ : a = b ∧ sends = sends' := by simpa using e
    exact ⟨same ▸ cold, shared, live⟩
  unfold join shareAttempt
  dsimp only
  split
  · next a shared =>
    split
    · next ceased =>
      refine .step (.shares errand cold ?_) (park rfl rfl attemptOutcome_addAttempt)
      rintro b h
      obtain rfl : a = b := Option.some.inj (shared.symm.trans h)
      exact ceased
    · next live => exact park rfl shared (Option.not_isSome_iff_eq_none.mp live)
  · next alone =>
    refine .step (.shares errand cold ?_) (park rfl rfl attemptOutcome_addAttempt)
    rintro b h
    exact absurd (alone.symm.trans h) nofun

theorem path_sendOne (send : Send) (rest : List Send) :
    Path hit c (some x) [] (c.sendOne n send rest).1 ((c.sendOne n send rest).2.after x) := by
  have finish {c' : Client} {e : Error} (path : Path hit c (some x) [] c' (some x))
      (proper : (Outcome.error e).isProper ∨ ∀ l, c'.usableLink ≠ .ok l) :
      Path hit c (some x) [] (c'.finish n (.error e)) none :=
    path.next (path_finishSend acts down go proper)
  unfold sendOne
  split
  · next e h => exact finish (.nil c (some x)) (.inr fun l => by rw [h]; nofun)
  · next l h =>
    obtain ⟨used, ready⟩ := usableLink_ok h
    have why (i : Option Nat) (method : String) (params : Json) :
        Occasion c x l i method params := .sends acts.errand ready
    split
    · next method params =>
      have sent : Path hit c (some x) [] (c.notify l method params).1 (some x) :=
        path_notify (.tells (.inl used) (why _ _ _))
      split
      · next h' => rw [h'] at sent; exact sent
      · next h' => rw [h'] at sent; exact finish sent (.inl (proper_notify h'))
    · next method params =>
      split
      · next h' =>
        obtain ⟨asked, -⟩ := path_request acts.task acts.expects acts.leaves used
          (why _ _ _) h'
        refine asked.last (.parksCall acts.task ?_ acts.leaves rfl nofun nofun (fun _ => go) nofun)
        rw [Doer.expect, acts.role down]
        rfl
      · next h' =>
        exact finish (path_request_error acts.task acts.expects acts.leaves used
          (why _ _ _) h') (.inl (proper_request h'))

theorem path_sendAll {last : Json} {sends : List Send} :
    Path hit c (some x) [] (c.sendAll n last sends) none := by
  induction sends generalizing c last with
  | nil => exact path_finishSend acts down go (.inl rfl)
  | cons send rest ih =>
    unfold sendAll
    split
    · next cold => exact path_join acts down go (by simpa [needsStart] using cold)
    · have sent : Path hit c (some x) [] (c.sendOne n send rest).1
          ((c.sendOne n send rest).2.after x) := path_sendOne acts down go send rest
      split
      · next h => rw [h] at sent; exact sent.next ih
      · next h => rw [h] at sent; exact sent

theorem path_sendJoined {sends : List Send} :
    Path hit c (some x) [] (c.sendJoined n sends) none := by
  unfold sendJoined
  split
  · exact path_finishSend acts down go (.inl rfl)
  · next send rest =>
    have sent : Path hit c (some x) [] (c.sendOne n send rest).1
        ((c.sendOne n send rest).2.after x) := path_sendOne acts down go send rest
    split
    · next h => rw [h] at sent; exact sent.next (path_sendAll acts down go)
    · next h => rw [h] at sent; exact sent

end Sends

/-! ### Disposing -/

theorem path_uncleanShutdown (text : String) : Path hit c d [] (c.uncleanShutdown text) d :=
  path_log _ _

section Disposes

variable (acts : Acts (.call n) .disposing x)

include acts

/-- A client that was disposed has no server. -/
theorem path_endDisposing (down : x.role.teardown = none)
    (free : c.held = .nothing ∨ x.began.disposes ∧ x.began.stopping = none ∧
      (x.began.teardown.isSome ∨ x.signal.isBreak)) :
    Path hit c (some x) [] (c.reset.finish n o) none :=
  .step (.resets acts.disposes free) (path_finish acts down rfl rfl (fun _ => rfl) nofun)

theorem path_afterDisposing {r : Client × Progress} (closes : Closes hit c x r)
    (free : r.1.held = .nothing ∨ x.began.disposes ∧ x.began.stopping = none ∧
      (x.began.teardown.isSome ∨ x.signal.isBreak)) :
    Path hit c (some x) [] (r.1.afterDisposing n r.2) none := by
  obtain ⟨c₁, p⟩ := r
  cases p with
  | waits t =>
    refine closes.path.last (.parksCall acts.task ?_ acts.leaves rfl closes.ends nofun ?_ nofun)
    · exact acts.role_takeDown.symm
    · rw [acts.takeDown.errand]
      nofun
  | «over» o' =>
    have closed : Path hit c (some x) [] c₁ (some (x.takeDown none)) := closes.path
    cases o' with
    | value j => exact closed.next (path_endDisposing acts.takeDown rfl free)
    | error e =>
      exact (closed.next (path_log _ _)).next (path_endDisposing acts.takeDown rfl free)
    | cancelled => exact closed.next (path_endDisposing acts.takeDown rfl free)

variable (down : x.role.teardown = none) (holds : c.HoldsLinks)

include down holds

theorem path_takeDown : Path hit c (some x) [] (c.takeDown n) none :=
  path_afterDisposing acts (closes_release down (.inr acts.disposes) (acts.isFree rfl) holds)
    (.inl frame_release.held)

theorem path_sendExit {id : Nat} {j : Json} (asked : x.asked = some (l, id))
    (agreed : x.signal = .answered (.value j)) :
    Path hit c (some x) [] (c.sendExit n l) none := by
  have notified : Path hit c (some x) [] (c.notify l "exit" .null).1 (some x) :=
    path_notify (.tells (.inr acts.disposes) (.exits acts.disposes asked agreed))
  unfold sendExit
  split
  · next h =>
    rw [h] at notified
    exact notified.next (path_takeDown acts down (notified.holdsLinks holds))
  · next e h =>
    rw [h] at notified
    have logged := notified.next (path_uncleanShutdown e.message)
    exact logged.next (path_takeDown acts down (logged.holdsLinks holds))

theorem path_shutDown : Path hit c (some x) [] (c.shutDown n) none := by
  unfold shutDown
  split
  · exact path_takeDown acts down holds
  · next l h =>
    obtain ⟨used, ready⟩ : (c.expectEnd l).held.connection = some l ∧ c.state = .ready :=
      usableLink_ok h
    have why (i : Nat) : Occasion (c.expectEnd l) x l (some i) "shutdown" .null :=
      .shutsDown acts.disposes ready
    have ending : Path hit c (some x) [] (c.expectEnd l) (some x) := .one (.expectsEnd l)
    have errand : x.role.errand = .disposes := acts.errand
    dsimp only
    split
    · next c₁ id h' =>
      obtain ⟨asked, pos⟩ := path_request acts.task acts.expects acts.leaves used (why _) h'
      refine (ending.next asked).last (.parksCall acts.task ?_ acts.leaves rfl
        (fun _ e => by cases e) (fun _ e => by cases e) ?_ fun _ _ e => by cases e)
      · rw [Doer.expect, acts.role down]
        simp [CallPhase.role, Nat.ne_of_gt pos]
      · exact fun h => by cases errand.symm.trans h
    · next c₁ e h' =>
      have refused := ending.next
        (path_request_error acts.task acts.expects acts.leaves used (why _) h')
      have parked := refused.last (.parksCall (p := .shuttingDown l 0 (c₁.now + 2 * second))
        acts.task (acts.role down).symm acts.leaves rfl (fun _ e => by cases e)
        (fun _ e => by cases e) (fun h => by cases errand.symm.trans h) fun _ _ e => by cases e)
      refine parked.next (path_wakeCall (by simp) fun q hq _ => ?_)
      have : q = .shuttingDown l 0 (c₁.now + 2 * second) := by
        simp only [putCall, List.getElem?_set] at hq
        grind
      rw [this]
      exact .refused

end Disposes

theorem path_dispose (acts : Acts (.call n) (.begun .disposes) x)
    (down : x.role.teardown = none) (holds : c.HoldsLinks) :
    Path hit c (some x) [] (c.dispose n) none := by
  have done := acts.isDone down rfl rfl
  have role : x.role = .begun .disposes := acts.role down
  have first : x.role.disposes = false := acts.disposes
  have stopped {a : Option Nat} : Acts (.call n) { Role.disposing with stopping := a } (x.stop a) :=
    ⟨acts.task, by rw [Doer.takeDown, Doer.stop, role]; rfl, acts.leaves⟩
  have down' {a : Option Nat} : (x.stop a).role.teardown = none := down
  unfold dispose
  split
  · next alone =>
    have none' : { c with attempt := none } = c := by rw [← alone]
    have begun : Path hit c (some x) [] c (some (x.stop none)) := by
      have disposes : Path hit c (some x) [] { c with attempt := none } (some (x.stop none)) :=
        .one (.disposes acts.errand done (fun a h => absurd (alone.symm.trans h) nofun) first)
      rwa [none'] at disposes
    exact begun.next (path_shutDown stopped down' holds)
  · next a shared =>
    dsimp only
    split
    · next ceased =>
      refine .step (.disposes acts.errand done ?_ first) (path_shutDown stopped down' holds)
      rintro b h
      obtain rfl : a = b := Option.some.inj (shared.symm.trans h)
      exact ceased
    · next live =>
      have goes := Option.not_isSome_iff_eq_none.mp live
      refine .step (.detaches acts.errand done shared goes first) ?_
      refine path_cancelAttempt.last (.parksCall acts.task ?_ acts.leaves rfl nofun ?_ ?_ nofun)
      · exact (stopped.role down').symm
      · rintro _ ⟨⟩
        exact halts_cancelAttempt
      · exact fun h => absurd (stopped.errand.symm.trans h) nofun

/-! ### The turn of a call -/

theorem path_afterClosing {r : Client × Progress} (acts : Acts (.call n) (.begun .closes) x)
    (closes : Closes hit c x r) : Path hit c (some x) [] (r.1.afterClosing n r.2) none := by
  obtain ⟨c₁, p⟩ := r
  cases p with
  | waits t =>
    refine closes.path.last (.parksCall acts.task ?_ acts.leaves rfl closes.ends nofun ?_ nofun)
    · exact acts.role_takeDown.symm
    · rw [acts.takeDown.errand]
      nofun
  | «over» o' => exact closes.path.next (path_finish acts.takeDown rfl rfl rfl nofun nofun)

/-- The request that is lost when a call begins. -/
def lossOfJob (c : Client) : Job → Option Loss
  | .listen => c.lossOfStart c.heldLink
  | _ => none

theorem path_beginCall {job : Job} (acts : Acts (.call n) (.begun job.errand) x)
    (down : x.role.teardown = none) (go : x.signal ≠ .cancelled) (holds : c.HoldsLinks)
    (here : job = .listen ∨ job = .close → c.heldLink < c.links.length) :
    Path hit c (some x) (c.lossOfJob job).toList (c.beginCall n job) none := by
  cases job with
  | start =>
    simp only [beginCall, lossOfJob]
    split
    · next cold => exact path_join acts down go (by simpa [needsStart] using cold)
    · exact path_finishSend acts down go (.inl rfl)
  | sends sends => exact path_sendAll acts down go
  | listen =>
    have started : Path hit c (some x) (c.lossOfStart c.heldLink).toList
        (c.startListening c.heldLink) (some x) :=
      path_startListening acts.task acts.errand (acts.isFree rfl) (here (.inl rfl))
    have ended : Path hit (c.startListening c.heldLink) (some x) []
        ((c.startListening c.heldLink).finish n .done) none :=
      path_finish acts down rfl rfl nofun nofun
    simpa [beginCall, lossOfJob, succeed] using started.trans ended
  | close =>
    have role : x.role = .begun .closes := acts.role down
    have begun : Path hit c (some x) [] c
        (some (x.takeDown (some ⟨c.heldLink, none, .listener⟩))) :=
      .one (.takes (.closes down acts.errand))
    have closes : Closes hit c (x.takeDown (some ⟨c.heldLink, none, .listener⟩))
        (c.closeConnection ⟨c.heldLink, none, .listener⟩) :=
      closes_closeConnection rfl rfl (acts.isFree rfl) (here (.inr rfl))
    exact path_afterClosing acts (closes.after begun rfl)
  | dispose => exact path_dispose acts down holds

/-- The request that is lost in the turn of a call. -/
def lossOfCall (c : Client) (n : Nat) : Option Loss :=
  match c.calls[n]? with
  | some ⟨.fresh job, some s⟩ =>
    if s = .cancelled then none else (c.setCall n .running).lossOfJob job
  | _ => none

/-- A call that is cancelled while it waits ends cancelled. -/
theorem path_finishCancelled {e : Errand} (acts : Acts (.call n) (.begun e) x)
    (down : x.role.teardown = none) : Path hit c (some x) [] (c.finish n .cancelled) none := by
  refine path_finish acts down rfl rfl nofun fun _ => ?_
  split
  · rfl
  · exact .inl rfl

/-- No request has the id zero. -/
theorem forget_zero (unasked : ∀ q ∈ (c.link l).pending, 0 < q.1) : c.forget l 0 = c := by
  have same : (c.link l).pending.filter (·.1 != 0) = (c.link l).pending := by
    refine List.filter_eq_self.mpr fun q hq => ?_
    simpa using Nat.ne_of_gt (unasked q hq)
  exact modifyLink_self (by rw [same])

/-- A request that is no longer waited for is withdrawn, if it was sent at all. -/
theorem path_forget {id : Nat} (idle : x.role.expects = none)
    (leaves : x.leaves = if id = 0 then none else some (l, id))
    (unasked : ∀ q ∈ (c.link l).pending, 0 < q.1) :
    Path hit c (some x) [] (c.forget l id) (some { x with leaves := none }) := by
  by_cases zero : id = 0
  · subst zero
    rw [forget_zero unasked]
    rw [if_pos rfl] at leaves
    have same : { x with leaves := none } = x := by rw [← leaves]
    rw [same]
    exact .nil c (some x)
  · rw [if_neg zero] at leaves
    exact .one (.withdraws idle leaves)

theorem path_resumeShutdown {id deadline : Nat} (holds : c.HoldsLinks)
    (proper : s = .answered .cancelled → id = 0) (agreed : ∀ j, s = .answered (.value j) → id ≠ 0)
    (unasked : ∀ q ∈ (c.link l).pending, 0 < q.1) :
    Path hit c (some (.ofTurn (.call n) s (CallPhase.shuttingDown l id deadline).role found)) []
      (c.resumeCall n s (.shuttingDown l id deadline)) none := by
  generalize hx : Doer.ofTurn (.call n) s (CallPhase.shuttingDown l id deadline).role found = x
  have acts : Acts (.call n) .disposing { x with leaves := none } := by
    subst hx
    exact ⟨rfl, rfl, rfl⟩
  have idle : x.role.expects = none := by rw [← hx]; rfl
  have gone (leaves : x.leaves = if id = 0 then none else some (l, id)) :
      Path hit c (some x) [] (c.forget l id) (some { x with leaves := none }) :=
    path_forget idle leaves unasked
  have withdrawn (leaves : x.leaves = if id = 0 then none else some (l, id))
      (broken : s.isBreak) : Path hit c (some x) [] ((c.forget l id).reset.finish n .cancelled) none := by
    have free : x.began.disposes ∧ x.began.stopping = none ∧
        (x.began.teardown.isSome ∨ x.signal.isBreak) := by
      rw [← hx]
      exact ⟨rfl, rfl, .inr broken⟩
    exact (gone leaves).next (path_endDisposing acts (by rw [← hx]; rfl) (.inr free))
  subst hx
  unfold resumeCall
  cases s with
  | answered o =>
    cases o with
    | value j => exact path_sendExit acts rfl holds (if_neg (agreed j rfl)) rfl
    | error e => exact (path_uncleanShutdown e.message).next (path_takeDown acts rfl holds)
    | cancelled =>
      obtain rfl := proper rfl
      exact withdrawn rfl rfl
  | timedOut =>
    have left := (gone rfl).next (path_uncleanShutdown "")
    exact left.next (path_takeDown acts rfl (left.holdsLinks holds))
  | go => exact withdrawn rfl rfl
  | cancelled => exact withdrawn rfl rfl

/-- A call in its turn. -/
theorem path_runCall {p : CallPhase} (told : c.calls[n]? = some ⟨p, some s⟩) (live : p.isLive)
    (holds : c.HoldsLinks) (links : ∀ t, p.teardown? = some t → t.link < c.links.length)
    (shut : ∀ t, p.teardown? = some t → t.stage = .listener → (c.link t.link).closed)
    (here : p = .fresh .listen ∨ p = .fresh .close → c.heldLink < c.links.length)
    (proper : s = .answered .cancelled → p.role.expects = none)
    (agreed : ∀ j, s = .answered (.value j) → p.role.disposes → p.role.expects ≠ none)
    (unasked : ∀ l, ∀ q ∈ (c.link l).pending, 0 < q.1) :
    Path hit (c.putCall n ⟨.running, none⟩) (some (.ofTurn (.call n) s p.role found))
      (c.lossOfCall n).toList (c.runCall n) none := by
  have begun (e : Errand) (leaves : (Doer.ofTurn (.call n) s (.begun e) found).leaves = none) :
      Acts (.call n) (.begun e) (.ofTurn (.call n) s (.begun e) found) := ⟨rfl, rfl, leaves⟩
  unfold runCall lossOfCall
  rw [told]
  dsimp only [Option.getD_some]
  rw [setCall_eq]
  cases p with
  | fresh job =>
    have acts := begun job.errand (by cases s <;> rfl)
    simp only [resumeCall]
    split
    · exact path_finishCancelled acts rfl
    · next go => exact path_beginCall acts rfl go holds fun h => here (by simpa using h)
  | joined a sends =>
    have acts := begun .sends (by cases s <;> rfl)
    have relayed (o : Outcome) (h : s = .answered o) :
        Path hit (c.putCall n ⟨.running, none⟩) (some (.ofTurn (.call n) s (.begun .sends) found)) []
          ((c.putCall n ⟨.running, none⟩).finish n o) none := by
      refine path_finish acts rfl rfl rfl nofun fun _ => ?_
      rw [if_neg (by rw [h]; nofun)]
      exact .inr (.inl h)
    cases s with
    | answered o =>
      cases o with
      | value j => exact path_sendJoined acts rfl nofun
      | error e => exact relayed _ rfl
      | cancelled => exact relayed _ rfl
    | go => exact path_finishCancelled acts rfl
    | timedOut => exact path_finishCancelled acts rfl
    | cancelled => exact path_finishCancelled acts rfl
  | awaiting l id rest =>
    have acts : Acts (.call n) (.begun .sends)
        { Doer.ofTurn (.call n) s (CallPhase.awaiting l id rest).role found with leaves := none } :=
      ⟨rfl, rfl, rfl⟩
    have withdrawn (leaves : (Doer.ofTurn (.call n) s
        (CallPhase.awaiting l id rest).role found).leaves = some (l, id)) :
        Path hit (c.putCall n ⟨.running, none⟩)
          (some (.ofTurn (.call n) s (CallPhase.awaiting l id rest).role found)) []
          (((c.putCall n ⟨.running, none⟩).forget l id).finish n .cancelled) none :=
      .step (.withdraws rfl leaves) (path_finishCancelled acts rfl)
    cases s with
    | answered o =>
      cases o with
      | value j => exact path_sendAll acts rfl nofun
      | error e =>
        refine path_finish acts rfl rfl rfl nofun fun _ => ?_
        rw [if_neg nofun]
        exact .inr (.inl rfl)
      | cancelled => cases proper rfl
    | go => exact withdrawn rfl
    | timedOut => exact withdrawn rfl
    | cancelled => exact withdrawn rfl
  | closing t =>
    have acts : Acts (.call n) (.begun .closes)
        (.ofTurn (.call n) s (CallPhase.closing t).role found) := ⟨rfl, rfl, by cases s <;> rfl⟩
    exact path_afterClosing acts (closes_resumeTeardown rfl rfl (acts.isFree rfl) (links t rfl) (shut t rfl))
  | stopping a =>
    have acts : Acts (.call n) .disposing
        (.ofTurn (.call n) s (CallPhase.stopping a).role found) := ⟨rfl, rfl, by cases s <;> rfl⟩
    simp only [resumeCall, afterStopping]
    split
    · exact .next (path_log _ _) (path_shutDown acts rfl holds)
    · exact path_shutDown acts rfl holds
  | shuttingDown l id deadline =>
    refine path_resumeShutdown holds (fun h => ?_) (fun j h => ?_) (unasked l)
    · simpa [CallPhase.role, Role.disposing] using proper h
    · simpa [CallPhase.role, Role.disposing] using agreed j h rfl
  | disposing t =>
    have acts : Acts (.call n) .disposing
        (.ofTurn (.call n) s (CallPhase.disposing t).role found) := ⟨rfl, rfl, by cases s <;> rfl⟩
    exact path_afterDisposing acts
      (closes_resumeTeardown rfl rfl (acts.isFree rfl) (links t rfl) (shut t rfl))
      (.inr ⟨rfl, rfl, .inl rfl⟩)
  | running => cases live
  | done o => cases live

/-! ## Steps -/

theorem path_runRelay {a : Nat} : Path hit c none [] (c.runRelay a) none := by
  unfold runRelay
  split
  · next o ended =>
    refine path_wakeCalls nofun fun q hq _ => ?_
    cases q <;> simp at hq
    subst hq
    exact .relayed ended
  · exact .nil c none

theorem path_passTo {time due : Nat} : Path hit c none [] (c.passTo time due) none := by
  have due_isSome {o : Option Nat} (h : isDue due o) : o.isSome := by
    cases o with
    | none => exact absurd h nofun
    | some _ => rfl
  refine .step (.passes time) ?_
  exact (path_wakeAttempts fun q hq _ => .late (due_isSome hq)).next
    (path_wakeCalls nofun fun q hq _ => .late (due_isSome hq))

/-- What a run relies on at the start of a turn. -/
structure Fit (c : Client) : Prop where
  canGo : ∀ t ∈ c.ready, c.CanGo t
  holds : c.HoldsLinks
  takes : ∀ t u, (c.role t).teardown = some u → u.link < c.links.length
  closing : ∀ t u, (c.role t).teardown = some u → u.stage = .listener → (c.link u.link).closed
  listens : ∀ t, (c.role t).errand = .listens ∨ (c.role t).errand = .closes →
    c.heldLink < c.links.length
  shut : ∀ l, (c.link l).listener.signal = some .cancelled → (c.link l).closed
  proper : ∀ t, c.told t = some (.answered .cancelled) → (c.role t).expects = none
  agreed : ∀ t j, c.told t = some (.answered (.value j)) → (c.role t).disposes →
    (c.role t).expects ≠ none
  failed : ∀ (n : Nat) (t : Teardown) (o : Outcome) (s : Option Signal),
    c.attempts[n]? = some ⟨.failing t o, s⟩ → o.isFailure
  positive : ∀ l, ∀ q ∈ (c.link l).pending, 0 < q.1

/-- The request that is lost in a turn. -/
def lossOfTurn (c : Client) : Option Loss :=
  match c.ready with
  | .listener l :: rest => { c with ready := rest }.lossOfListener l
  | .call n :: rest => { c with ready := rest }.lossOfCall n
  | _ => none

/-- The request that is lost in a step: a message takes it off the list without an
answer to whoever waits. -/
def lossOfStep (c : Client) : Input → Option Loss
  | .turn => c.lossOfTurn
  | _ => none

theorem attempt_of_told (h : (c.told (.attempt n)).isSome) :
    ∃ p s, c.attempts[n]? = some ⟨p, some s⟩ := by
  unfold told standing at h
  rcases ha : c.attempts[n]? with _ | ⟨p, _ | s⟩
  · simp [ha, Standing.absent] at h
  · simp [ha, Attempt.standing] at h
  · exact ⟨p, s, rfl⟩

theorem call_of_told (h : (c.told (.call n)).isSome) :
    ∃ p s, c.calls[n]? = some ⟨p, some s⟩ := by
  unfold told standing at h
  rcases hk : c.calls[n]? with _ | ⟨p, _ | s⟩
  · simp [hk, Standing.absent] at h
  · simp [hk, Call.standing] at h
  · exact ⟨p, s, rfl⟩

/-- A turn begins, and goes on with actions until it ends. -/
theorem path_turn_of_ready (fit : c.Fit) {t : Task} {rest : List Task} (ready : c.ready = t :: rest) :
    ∃ c₁ d, Begins c rest c₁ d ∧ Path hit c₁ d c.lossOfTurn.toList c.turn none := by
  have canGo : c.CanGo t := fit.canGo t (by simp [ready])
  unfold turn lossOfTurn
  rw [ready]
  cases t with
  | listener l =>
    obtain ⟨⟨⟩⟩ | ⟨pending, told⟩ := canGo
    obtain ⟨s, h⟩ := Option.isSome_iff_exists.mp told
    have here : (c.link l).listener = ⟨(c.link l).listener.phase, some s⟩ := by
      rw [← show (c.link l).listener.signal = some s from h]
    refine ⟨_, _, .listener ready here pending, path_runListener here pending ?_⟩
    rintro rfl
    exact fit.shut l h
  | drain l =>
    obtain ⟨⟨⟩⟩ | ⟨pending, told⟩ := canGo
    obtain ⟨s, h⟩ := Option.isSome_iff_exists.mp told
    have here : (c.link l).drain = ⟨(c.link l).drain.phase, some s⟩ := by
      rw [← show (c.link l).drain.signal = some s from h]
    exact ⟨_, _, .drain ready here pending, path_runDrain here⟩
  | attempt n =>
    obtain ⟨⟨⟩⟩ | ⟨live, told⟩ := canGo
    obtain ⟨p, s, here⟩ := attempt_of_told told
    have standing : c.standing (.attempt n) = ⟨p.isLive, some s, p.role⟩ := by
      simp [standing, here, Attempt.standing]
    have teardown : (c.role (.attempt n)).teardown = p.teardown? := by
      rw [role, standing, AttemptPhase.teardown_role]
    rw [standing] at live
    refine ⟨_, _, .attempt ready here live, path_runAttempt here live fit.holds (fun t takes => ?_)
      (fun t takes => ?_) ?_ ?_⟩
    · exact fit.takes (.attempt n) t (teardown.trans takes)
    · exact fit.closing (.attempt n) t (teardown.trans takes)
    · rintro rfl
      have := fit.proper (.attempt n) (congrArg Standing.told standing)
      rwa [role, standing] at this
    · rintro t o rfl
      exact fit.failed n t o _ here
  | call n =>
    obtain ⟨⟨⟩⟩ | ⟨live, told⟩ := canGo
    obtain ⟨p, s, here⟩ := call_of_told told
    have standing : c.standing (.call n) = ⟨p.isLive, some s, p.role⟩ := by
      simp [standing, here, Call.standing]
    have teardown : (c.role (.call n)).teardown = p.teardown? := by
      rw [role, standing, CallPhase.teardown_role]
    rw [standing] at live
    refine ⟨_, _, .call ready here live, path_runCall here live fit.holds (fun t takes => ?_)
      (fun t takes => ?_) ?_ ?_ ?_ fit.positive⟩
    · exact fit.takes (.call n) t (teardown.trans takes)
    · exact fit.closing (.call n) t (teardown.trans takes)
    · have errand : (c.role (.call n)).errand = p.role.errand := by rw [role, standing]
      rintro (rfl | rfl)
      · exact fit.listens (.call n) (.inl errand)
      · exact fit.listens (.call n) (.inr errand)
    · rintro rfl
      have := fit.proper (.call n) (congrArg Standing.told standing)
      rwa [role, standing] at this
    · rintro j rfl
      have := fit.agreed (.call n) j (congrArg Standing.told standing)
      rwa [role, standing] at this
  | relay a => exact ⟨_, _, .relay ready, path_runRelay⟩

theorem path_turn (fit : c.Fit) :
    Path hit c none c.lossOfTurn.toList c.turn none ∨
      ∃ rest c₁ d, Begins c rest c₁ d ∧ Path hit c₁ d c.lossOfTurn.toList c.turn none := by
  cases ready : c.ready with
  | nil =>
    left
    unfold turn lossOfTurn
    rw [ready]
    exact .nil c none
  | cons t rest => exact .inr ⟨rest, path_turn_of_ready fit ready⟩

theorem path_onLastLink {f : Client → Nat → Client}
    (h : ∀ l, Reaches c none l → Path hit c none [] (f c l) none) :
    Path hit c none [] (c.onLastLink f) none := by
  unfold onLastLink
  split
  · exact .nil c none
  · next links => exact h _ (.inl (by simp [links]))

/-- Calls are made of what they are about, and a client alone decides when to expect the end
of its connection. -/
def Input.Fits (c : Client) : Input → Prop
  | .call job => job.Fits c
  | .expectEnd => c.audience ≠ .client
  | _ => True

instance (c : Client) (i : Input) : Decidable (i.Fits c) :=
  match i with
  | .call job => inferInstanceAs (Decidable (job.Fits c))
  | .expectEnd => inferInstanceAs (Decidable (c.audience ≠ .client))
  | .turn | .cancel _ | .output _ | .errors _ | .outputEnd | .exit _ | .inputFault _
  | .time _ _ => isTrue trivial

/-- The call that is cancelled, or the one that is added. -/
def Input.hits (c : Client) : Input → Nat → Prop
  | .cancel n, m => m = n ∧ n < c.calls.length
  | .call _, m => m = c.calls.length
  | _, _ => False

/-- What comes from outside is a series of actions, in which only a call that the caller
cancels is cancelled, and only a call that the caller makes is added. -/
theorem path_input (i : Input) (fits : i.Fits c) (outside : i ≠ .turn) :
    Path (i.hits c) c none [] (c.step i) none := by
  cases i with
  | turn => exact absurd rfl outside
  | call job => exact .one (.calls job fits rfl)
  | cancel n => exact path_cancelCall fun here => ⟨rfl, here⟩
  | output bytes => exact path_onLastLink (f := fun c l => c.feed l bytes) fun _ => path_feed
  | errors bytes =>
    exact path_onLastLink (f := fun c l => c.feedErrors l bytes) fun _ _ => path_feedErrors
  | outputEnd => exact path_onLastLink (f := endOutput) fun _ => path_endOutput
  | exit code => exact path_onLastLink (f := fun c l => c.exit l code) fun _ => path_exit
  | inputFault fault =>
    exact path_onLastLink (f := fun c l => c.breakInput l fault) fun _ _ => path_breakInput
  | expectEnd => exact .one (.expectsEnd _)
  | time moment due => exact path_passTo

/-- Every step is a series of actions, and the turn of an activity begins a turn. -/
theorem path_step (fit : c.Fit) (i : Input) (fits : i.Fits c) :
    Path (i.hits c) c none (c.lossOfStep i).toList (c.step i) none ∨
      ∃ rest c₁ d, Begins c rest c₁ d ∧
        Path (i.hits c) c₁ d (c.lossOfStep i).toList (c.step i) none := by
  by_cases turns : i = .turn
  · subst turns
    exact path_turn fit
  · have none_lost : c.lossOfStep i = none := by
      cases i <;> first | rfl | exact absurd rfl turns
    rw [none_lost]
    exact .inl (path_input i fits turns)

end LspGateway.Client
