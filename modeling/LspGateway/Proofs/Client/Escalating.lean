import LspGateway.Proofs.Client.Conveying
import LspGateway.Proofs.Client.Poise
import LspGateway.Proofs.Client.Watching

/-! # How a closing escalates

A call that closes a connection waits for the process to leave, tells it to terminate, and kills
it. It goes on to the next of these if the process is still there when the time for the last is up.
-/

namespace LspGateway.Client

variable {hit : Nat → Prop} {c c₁ c₂ : Client} {d d₁ : Option Doer} {lost : List Loss}
  {l n : Nat} {t : Teardown} {u : Task} {s : Signal} {blows : List Event}
  {r : Client × Progress} {i : Input} {p : CallPhase} {ts : List Task}

/-! ## The steps of a closing -/

/-- How long a stage may last that begins at some moment, and the signal that it begins with. -/
def Stage.BeginsAt (now : Nat) (blows : List Event) : Stage → Prop
  | .listener => blows = []
  | .input d => d = now + second ∧ blows = []
  | .grace d => d = now + second ∧ blows = []
  | .terminated d => d = now + 2 * second ∧ blows = [.terminated]
  | .drain => False

/-- What the closing of a connection comes to, given the last signal. -/
inductive Concludes (c : Client) (l : Nat) (blows : List Event) : Outcome → Prop
  | left (gone : c.isAlive l = false) : Concludes c l blows .done
  /-- The process says that it had gone before it was told to. -/
  | absent (told : blows = [.terminated]) (policy : (c.process l).policy.onTerminate = .gone) :
    Concludes c l blows .done
  | unkillable (told : blows = [.killed]) (policy : (c.process l).policy.onKill = .gone) :
    Concludes c l blows (.error .processGone)
  | crashed {fault : Json.Misuse} (silent : blows = []) (crash : (c.link l).crash = some fault) :
    Concludes c l blows (.error (.misuse fault))
  | cancelled (silent : blows = []) : Concludes c l blows .cancelled

/-- A step of a closing that sends some signals to the process. -/
structure Rung (c : Client) (t : Teardown) (blows : List Event) (r : Client × Progress) : Prop where
  moved : Moved c r.1
  sent : r.1.blows = c.blows ++ blows
  waits : ∀ u, r.2 = .waits u → u.link = t.link ∧ u.drain = none ∧ u.stage.BeginsAt c.now blows ∧
    (u.stage.awaitsExit → r.1.isAlive t.link)
  ends : ∀ o, r.2 = .over o → Concludes r.1 t.link blows o

namespace Rung

theorem finish {o : Outcome} (moved : Moved c c₁) (sent : c₁.blows = c.blows ++ blows)
    (ends : Concludes c₁ t.link blows o) : Rung c t blows (c₁, .over o) := by
  refine ⟨moved, sent, nofun, ?_⟩
  rintro _ ⟨⟩
  exact ends

theorem wait {u : Teardown} (moved : Moved c c₁) (sent : c₁.blows = c.blows ++ blows)
    (link : u.link = t.link) (drain : u.drain = none) (begins : u.stage.BeginsAt c.now blows)
    (alive : u.stage.awaitsExit → c₁.isAlive t.link) : Rung c t blows (c₁, .waits u) := by
  refine ⟨moved, sent, ?_, nofun⟩
  rintro _ ⟨⟩
  exact ⟨link, drain, begins, alive⟩

theorem after (h : Rung c₁ t blows r) (moved : Moved c c₁) (now : c₁.now = c.now)
    (silent : c₁.blows = c.blows) : Rung c t blows r :=
  ⟨moved.trans h.moved, h.sent.trans (by rw [silent]), now ▸ h.waits, h.ends⟩

theorem after_unmoved (h : Rung c₁ t blows r) (same : Unmoved c c₁) (now : c₁.now = c.now) :
    Rung c t blows r :=
  h.after same.moved now same.blows

end Rung

theorem now_eq (frame : Frame c c₁) : c₁.now = c.now := by
  rw [Frame] at frame
  rw [frame]

section Stages

theorem closeDrain_eq (drain : t.drain = none) : c.closeDrain t = (c, .over .done) := by
  rw [closeDrain, drain]

variable (drain : t.drain = none)

include drain

theorem rung_closeGracefully : Rung c t [] (c.closeGracefully t) := by
  have still : Moved c c := (Unmoved.refl c).moved
  unfold closeGracefully
  split
  · next alive =>
    exact .wait still (List.append_nil _).symm rfl drain ⟨rfl, rfl⟩ fun _ => alive
  · next dead =>
    rw [closeDrain_eq drain]
    exact .finish still (List.append_nil _).symm (.left (by simpa using dead))

variable (here : t.link < c.links.length)

include here

theorem rung_closeByKill : Rung c t [.killed] (c.closeByKill t) := by
  have sent : (c.event t.link .killed).blows = c.blows ++ [.killed] := blows_emit _
  unfold closeByKill kill
  dsimp only
  cases policy : ((c.event t.link .killed).process t.link).policy.onKill with
  | exits =>
    dsimp only
    rw [closeDrain_eq drain]
    refine .finish ((moved_emit _).trans (moved_exit here)) (blows_exit.trans sent) (.left ?_)
    exact isAlive_exit (c := c.event t.link .killed) here
  | gone => exact .finish (moved_emit _) sent (.unkillable rfl policy)

theorem rung_closeProcess :
    Rung c t (if c.isAlive t.link then [.terminated] else []) (c.closeProcess t) := by
  have sent : (c.event t.link .terminated).blows = c.blows ++ [.terminated] := blows_emit _
  unfold closeProcess
  split
  · next alive =>
    unfold terminate
    dsimp only
    cases policy : ((c.event t.link .terminated).process t.link).policy.onTerminate with
    | exits =>
      have gone : ((c.event t.link .terminated).exit t.link (-15)).isAlive t.link = false :=
        isAlive_exit (c := c.event t.link .terminated) here
      dsimp only
      rw [gone, if_neg Bool.false_ne_true, closeDrain_eq drain]
      exact .finish ((moved_emit _).trans (moved_exit here)) (blows_exit.trans sent) (.left gone)
    | ignores =>
      have there : (c.event t.link .terminated).isAlive t.link := alive
      dsimp only
      rw [if_pos there]
      exact .wait (moved_emit _) sent rfl drain ⟨rfl, rfl⟩ fun _ => alive
    | gone =>
      dsimp only
      rw [closeDrain_eq drain]
      exact .finish (moved_emit _) sent (.absent rfl policy)
  · next dead =>
    rw [closeDrain_eq drain]
    exact .finish (Unmoved.refl c).moved (List.append_nil _).symm (.left (by simpa using dead))

theorem rung_closeStream : Rung c t [] (c.closeStream t) := by
  have failed : Unmoved c (c.failPending t.link .deliberate) := unmoved_failPending
  have here' : t.link < (c.failPending t.link .deliberate).links.length := by rwa [failed.links]
  have moved := failed.moved.trans (moved_closeInput here')
  have silent : ((c.failPending t.link .deliberate).closeInput t.link).blows = c.blows :=
    blows_closeInput.trans failed.blows
  have now : ((c.failPending t.link .deliberate).closeInput t.link).now = c.now :=
    now_eq (frame_failPending.trans frame_closeInput)
  unfold closeStream
  dsimp only
  split
  · refine .wait moved (silent.trans (List.append_nil _).symm) rfl drain ⟨?_, rfl⟩ nofun
    rw [now]
  · exact (rung_closeGracefully drain).after moved now silent

theorem rung_closeAfterListener : Rung c t [] (c.closeAfterListener t) := by
  unfold closeAfterListener
  split
  · next crash =>
    exact .finish (Unmoved.refl c).moved (List.append_nil _).symm (.crashed rfl crash)
  · exact rung_closeStream drain here

theorem rung_closeConnection : Rung c t [] (c.closeConnection t) := by
  unfold closeConnection
  dsimp only
  have shut : Unmoved c (c.modifyLink t.link fun k => { k with closed := true }) :=
    unmoved_modifyLink fun _ => .refl _
  have now : (c.modifyLink t.link fun k => { k with closed := true }).now = c.now := rfl
  generalize c.modifyLink t.link (fun k => { k with closed := true }) = b at shut now ⊢
  have here' : t.link < b.links.length := by rwa [shut.links]
  have waits : Rung b t [] (b.cancelListener t.link, .waits { t with stage := .listener }) := by
    have told : Unmoved b (b.cancelListener t.link) := unmoved_cancelListener
    exact .wait told.moved (told.blows.trans (List.append_nil _).symm) rfl drain rfl nofun
  split
  · exact (rung_closeAfterListener drain here').after_unmoved shut now
  · split
    · exact waits.after_unmoved shut now
    · exact waits.after_unmoved shut now
    · exact (rung_closeAfterListener drain here').after_unmoved shut now
    · exact (rung_closeStream drain here').after_unmoved shut now

end Stages

/-! ## Giving up -/

/-- The connection is closed, nothing is pending on it, and standard input is closed. -/
structure IsShut (c : Client) (l : Nat) : Prop where
  closed : (c.link l).closed
  pending : (c.link l).pending = []
  input : (c.process l).inputClosed

/-- How a closing goes on when it has not waited for more than the listener. -/
inductive Enters (l : Nat) : Client × Progress → Prop
  | waits {c : Client} {u : Teardown} (stage : u.stage = .listener) (closed : (c.link l).closed)
    (told : (c.link l).listener.signal = some .cancelled) : Enters l (c, .waits u)
  | crashed {c : Client} {fault : Json.Misuse} (closed : (c.link l).closed)
    (crash : (c.link l).crash = some fault) : Enters l (c, .over (.error (.misuse fault)))
  | cancelled {c : Client} : Enters l (c, .over .cancelled)
  | shut {r : Client × Progress} (shut : IsShut r.1 l) : Enters l r

section Enters

variable (drain : t.drain = none) (here : t.link < c.links.length)

include drain here

theorem isShut_closeStream (closed : (c.link t.link).closed) :
    IsShut (c.closeStream t).1 t.link := by
  have failed : Unmoved c (c.failPending t.link .deliberate) := unmoved_failPending
  have same : (c.closeStream t).1 = (c.failPending t.link .deliberate).closeInput t.link := by
    unfold closeStream closeGracefully
    dsimp only
    rw [closeDrain_eq drain]
    split
    · rfl
    · split <;> rfl
  rw [same]
  refine ⟨?_, ?_, inputClosed_closeInput (by rwa [failed.links])⟩
  · rw [link_closeInput Link.closed (fun _ _ => rfl) (fun _ _ => rfl) fun _ _ => rfl,
      link_failPending]
    exact (link_modifyLink_same (f := fun k => { k with pending := [] }) Link.closed
      fun _ => rfl).trans closed
  · rw [link_closeInput Link.pending (fun _ _ => rfl) (fun _ _ => rfl) fun _ _ => rfl]
    exact pending_failPending _

theorem enters_closeAfterListener (closed : (c.link t.link).closed) :
    Enters t.link (c.closeAfterListener t) := by
  unfold closeAfterListener
  split
  · next crash => exact .crashed closed crash
  · exact .shut (isShut_closeStream drain here closed)

theorem enters_closeConnection : Enters t.link (c.closeConnection t) := by
  unfold closeConnection
  dsimp only
  have closed : ((c.modifyLink t.link fun k => { k with closed := true }).link t.link).closed := by
    rw [link_modifyLink_self here]
  have here' : t.link < (c.modifyLink t.link fun k => { k with closed := true }).links.length := by
    rwa [links_length_modifyLink]
  generalize c.modifyLink t.link (fun k => { k with closed := true }) = b at closed here' ⊢
  have told (pending : (b.link t.link).listener.phase.isPending) :
      ((b.cancelListener t.link).link t.link).closed ∧
        ((b.cancelListener t.link).link t.link).listener.signal = some .cancelled := by
    rw [cancelListener_eq pending]
    have link : (b.tellListener t.link .cancelled).link t.link = { b.link t.link with
        listener := ⟨(b.link t.link).listener.phase, some .cancelled⟩ } :=
      link_modifyLink_self here' _
    rw [link]
    exact ⟨closed, rfl⟩
  split
  · exact enters_closeAfterListener drain here' closed
  · split
    · next phase =>
      have pending : (b.link t.link).listener.phase.isPending := by rw [phase]; rfl
      exact .waits rfl (told pending).1 (told pending).2
    · next phase =>
      have pending : (b.link t.link).listener.phase.isPending := by rw [phase]; rfl
      exact .waits rfl (told pending).1 (told pending).2
    · exact enters_closeAfterListener drain here' closed
    · exact .shut (isShut_closeStream drain here' closed)

end Enters

/-! ## Signals -/

/-- Which signal a step of a closing sends, and when. -/
inductive Strikes (c : Client) (t : Teardown) (s : Signal) : List Event → Prop
  | nothing : Strikes c t s []
  | terminates {d : Nat} (stage : t.stage = .grace d) (late : s = .timedOut)
    (alive : c.isAlive t.link) : Strikes c t s [.terminated]
  | kills {d : Nat} (stage : t.stage = .terminated d) (late : s = .timedOut) :
    Strikes c t s [.killed]

/-- A teardown was told what it may be told at its stage. -/
structure Prompted (c : Client) (t : Teardown) (s : Signal) : Prop where
  unasked : ∀ o, s ≠ .answered o
  exited : t.stage.awaitsExit → s = .go → c.isAlive t.link = false
  stage : t.stage ≠ .drain
  closed : t.stage = .listener → (c.link t.link).closed

theorem rung_resumeTeardown (drain : t.drain = none) (here : t.link < c.links.length)
    (prompted : Prompted c t s) :
    ∃ blows, Rung c t blows (c.resumeTeardown t s) ∧ Strikes c t s blows := by
  have still : Moved c c := (Unmoved.refl c).moved
  have abandon : Rung c t [] (c, .over .cancelled) :=
    .finish still (List.append_nil _).symm (.cancelled rfl)
  have exited (waits : t.stage.awaitsExit) (go : s = .go) := prompted.exited waits go
  unfold resumeTeardown
  split
  case h_1 => exact ⟨[], rung_closeAfterListener drain here, .nothing⟩
  case h_2 stage => exact absurd stage prompted.stage
  case h_3 =>
    refine ⟨[], ?_, .nothing⟩
    split
    · exact abandon
    · exact rung_closeGracefully drain
  case h_4 d stage =>
    split
    · exact ⟨[], abandon, .nothing⟩
    · next goes =>
      have rung := rung_closeProcess drain here
      refine ⟨_, rung, ?_⟩
      split
      · next alive =>
        refine .terminates stage ?_ alive
        cases s with
        | timedOut => rfl
        | go =>
          rw [exited (by rw [stage]; rfl) rfl] at alive
          cases alive
        | answered o => exact absurd rfl (prompted.unasked o)
        | cancelled => exact absurd rfl goes
      · exact .nothing
  case h_5 d stage =>
    split
    · exact ⟨[], abandon, .nothing⟩
    · exact ⟨_, rung_closeByKill drain here, .kills stage rfl⟩
    · next goes late =>
      refine ⟨[], ?_, .nothing⟩
      rw [closeDrain_eq drain]
      refine .finish still (List.append_nil _).symm (.left ?_)
      cases s with
      | go => exact exited (by rw [stage]; rfl) rfl
      | answered o => exact absurd rfl (prompted.unasked o)
      | timedOut => exact absurd rfl late
      | cancelled => exact absurd rfl goes

/-! ## Turns -/

/-- The teardown that a call goes on with in its turn, if it closes a connection. -/
inductive CarriesOut (c : Client) : CallPhase → Teardown → Prop
  | begins : CarriesOut c (.fresh .close) ⟨c.heldLink, none, .listener⟩
  | goesOn {t : Teardown} : CarriesOut c (.closing t) t

/-- The turn of a call that does not close a connection. -/
theorem unmoved_resumeCall (observed : c.audience ≠ .client) (other : p.role.errand ≠ .closes)
    (disposes : p.role.errand ≠ .disposes) (alone : ∀ a sends, p ≠ .joined a sends) :
    Unmoved c (c.resumeCall n s p) := by
  cases p with
  | fresh job =>
    rw [resumeCall]
    split
    · exact unmoved_finish
    · cases job with
      | start =>
        rw [beginCall]
        split
        · exact unmoved_join
        · exact unmoved_finish
      | sends ss => exact unmoved_sendAll
      | listen => exact (unmoved_startListening observed).trans unmoved_finish
      | close => exact absurd rfl other
      | dispose => exact absurd rfl disposes
  | joined a ss => exact absurd rfl (alone a ss)
  | awaiting l id rest =>
    cases s with
    | answered o =>
      cases o with
      | value j => exact unmoved_sendAll
      | _ => exact unmoved_finish
    | _ => exact unmoved_forget.trans unmoved_finish
  | closing t => exact absurd rfl other
  | stopping | shuttingDown | disposing => exact absurd rfl disposes
  | running => exact unmoved_setCall (by simp)
  | done o => exact unmoved_setCall (by simp)

/-- The turn of an activity that is no call. -/
theorem unmoved_turn_other (sound : Sound c none lost) (mere : Mere c none)
    (first : c.ready = u :: ts) (other : ∀ n, u ≠ .call n) : Unmoved c c.turn := by
  have began : Unmoved c { c with ready := ts } := unmoved_of_links rfl rfl rfl
  refine began.trans ?_
  rw [turn, first]
  cases u with
  | listener l => exact unmoved_runListener mere.observed
  | drain l => exact unmoved_runDrain
  | attempt n =>
    obtain ⟨⟨⟩⟩ | ⟨-, told⟩ := sound.queue.canGo (.attempt n) (by simp [first])
    obtain ⟨q, s, here⟩ := attempt_of_told told
    rw [mere.attempts] at here
    cases here
  | call n => exact absurd rfl (other n)
  | relay a =>
    show Unmoved _ (runRelay _ a)
    unfold runRelay
    split
    · exact unmoved_wakeCalls fun _ => rfl
    · exact .refl _

/-- What a turn of a call that closes a connection comes to. -/
structure Rises (c : Client) (n : Nat) (t : Teardown) (s : Signal) (blows : List Event)
    (r : Client × Progress) : Prop where
  comes : c.turn = r.1.afterClosing n r.2
  rung : Rung c t blows r
  strikes : Strikes c t s blows
  enters : t.stage = .listener → Enters t.link r
  goes : r.2 = .over .cancelled → s = .cancelled

/-- The turn of a call that closes a connection is a step of that. -/
theorem rises_turn (first : c.ready = .call n :: ts)
    (here : c.calls[n]? = some ⟨p, some s⟩) (carries : CarriesOut c p t) (plain : t.drain = none)
    (there : t.link < c.links.length) (prompted : ∀ u, p = .closing u → Prompted c u s) :
    ∃ blows r, Rises c n t s blows r := by
  let b : Client := ({ c with ready := ts } : Client).setCall n .running
  have queued : Unmoved c { c with ready := ts } := unmoved_of_links rfl rfl rfl
  have began : Unmoved c b := queued.trans (unmoved_setCall (n := n) (p := .running) nofun)
  have comes : c.turn = b.resumeCall n s p := turn_call first here
  cases carries with
  | begins =>
    by_cases cancelled : s = .cancelled
    · have still : Rung b ⟨c.heldLink, none, .listener⟩ [] (b, .over .cancelled) :=
        .finish (Unmoved.refl b).moved (List.append_nil _).symm (.cancelled rfl)
      rw [resumeCall, if_pos cancelled] at comes
      exact ⟨[], (b, .over .cancelled), comes, still.after_unmoved began rfl, .nothing,
        fun _ => .cancelled, fun _ => cancelled⟩
    · have rung : Rung b ⟨c.heldLink, none, .listener⟩ []
          (b.closeConnection ⟨c.heldLink, none, .listener⟩) := rung_closeConnection rfl there
      rw [resumeCall, if_neg cancelled] at comes
      exact ⟨[], b.closeConnection ⟨c.heldLink, none, .listener⟩, comes,
        rung.after_unmoved began rfl, .nothing, fun _ => enters_closeConnection rfl there,
        fun ends => absurd ends closeConnection_ne_cancelled⟩
  | goesOn =>
    obtain ⟨unasked, exited, stage, closed⟩ := prompted t rfl
    obtain ⟨blows, rung, strikes⟩ := rung_resumeTeardown (c := b) (s := s) plain there
      ⟨unasked, fun waits go => exited waits go, stage, closed⟩
    refine ⟨blows, b.resumeTeardown t s, comes, rung.after_unmoved began rfl, ?_, fun first => ?_,
      fun ends => ?_⟩
    · cases strikes with
      | nothing => exact .nothing
      | terminates stage late alive => exact .terminates stage late alive
      | kills stage late => exact .kills stage late
    · obtain ⟨link, drain, reached⟩ := t
      obtain rfl : reached = .listener := first
      exact enters_closeAfterListener (c := b) plain there (closed rfl)
    · by_contra goes
      exact resumeTeardown_ne_cancelled goes ends

end LspGateway.Client
