import LspGateway.Proofs.Client.Roles

/-! # Runs and what they keep

What holds of a client at first, and is kept by the start of every turn and by every
action, holds in every state of its runs.
-/

namespace LspGateway.Client

variable {hit : Nat → Prop} {c c₁ : Client} {d d₁ : Option Doer} {ls lost : List Loss} {x : Doer}
  {l k n id : Nat} {t u : Task} {s : Signal} {i : Input} {inputs rest : List Input}

/-- What holds of every client in the course of a run. -/
structure Sound (c : Client) (d : Option Doer) (lost : List Loss) : Prop where
  queue : Queue c (turnOf d)
  requests : Requests c d lost
  bounds : Bounds c d
  agreed : Agreed c d
  concluding : Concluding c

theorem Action.sound (act : Action hit c d c₁ d₁) (h : Sound c d lost) : Sound c₁ d₁ lost :=
  ⟨act.queue h.queue, act.requests h.queue h.bounds.holds h.requests, act.bounds h.queue h.bounds,
    act.agreed h.queue h.requests h.agreed, act.concluding h.concluding⟩

theorem Begins.sound {rest : List Task} (begins : Begins c rest c₁ d) (h : Sound c none lost) :
    Sound c₁ d lost :=
  ⟨begins.queue h.queue, begins.requests h.requests, begins.bounds h.bounds,
    begins.agreed h.queue h.agreed, begins.concluding h.concluding⟩

theorem Sound.lose (h : Sound c d lost) (idle : IsIdle d) (pending : (id, t) ∈ (c.link l).pending)
    (untold : c.isTold t = false) : Sound (c.forget l id) d (lost ++ [⟨l, id, t⟩]) := by
  have gone : Path NoHit c d [⟨l, id, t⟩] (c.forget l id) d := .loses idle pending untold (.nil _ _)
  have role u : roleBy (c.forget l id) d u = roleBy c d u :=
    roleBy_congr fun u => by rw [role, standing_forget, role]
  refine ⟨gone.queue h.queue, gone.requests h.queue h.bounds.holds h.requests, ?_,
    h.agreed.congr (fun u => by rw [told, standing_forget, told]) role, h.concluding⟩
  refine ⟨gone.holdsLinks h.bounds.holds, fun u v takes => ?_, fun u => ?_, fun u => ?_, fun u => ?_,
    fun u => ?_, fun out => ?_, ?_, fun u v apart takes first => ?_⟩
  · rw [role] at takes
    exact Nat.lt_of_lt_of_le (h.bounds.takes u v takes) gone.links_le
  · rw [role]
    exact h.bounds.calls u
  · rw [role]
    exact h.bounds.observes u
  · rw [role]
    exact h.bounds.owns u
  · rw [role]
    exact h.bounds.disposes u
  · exact Nat.lt_of_lt_of_le (h.bounds.links out) gone.links_le
  · exact forall_link (p := fun k => k.listener.signal = some .cancelled → k.closed) h.bounds.shut
      rfl fun h => h
  · rw [role] at takes
    refine (link_modifyLink_same Link.closed ?_).trans (h.bounds.closing u v apart takes first)
    exact fun _ => rfl

/-- A turn can begin. -/
theorem Sound.fit (h : Sound c none lost) : c.Fit := by
  refine ⟨h.queue.canGo, h.bounds.holds, h.bounds.takes, fun t u => h.bounds.closing t u nofun,
    fun t e => ?_, h.bounds.shut,
    fun t answer => ?_, h.agreed, fun n t o s here => (h.concluding n _ here).1 t o rfl,
    fun l p hp => ?_⟩
  · exact h.bounds.heldLink_lt (h.bounds.observes t e)
  · refine Option.eq_none_iff_forall_ne_some.mpr fun e waits => ?_
    exact (h.requests.answered t e.1 e.2 .cancelled waits answer).2.2 rfl
  · exact (h.requests.known _ l p.1 (h.requests.pending l p.1 p.2 hp)).1

/-- A property of clients in the course of a run that every action keeps, if all turns begin
in states of the first kind. -/
structure Invariant (R : Client → Prop) (P : Client → Option Doer → List Loss → Prop) : Prop where
  acts : ∀ {hit c d c₁ d₁ lost}, Sound c d lost → P c d lost → Action hit c d c₁ d₁ → P c₁ d₁ lost
  loses : ∀ {c d lost l id t}, Sound c d lost → P c d lost → IsIdle d →
    (id, t) ∈ (c.link l).pending → c.isTold t = false →
    P (c.forget l id) d (lost ++ [⟨l, id, t⟩])
  begins : ∀ {c rest c₁ d lost}, R c → Sound c none lost → P c none lost → Begins c rest c₁ d →
    P c₁ d lost

/-- Any state. -/
def Always (_ : Client) : Prop := True

namespace Invariant

variable {R : Client → Prop} {P : Client → Option Doer → List Loss → Prop}

theorem and {Q : Client → Option Doer → List Loss → Prop} (inv : Invariant R P)
    (other : Invariant R Q) : Invariant R fun c d lost => P c d lost ∧ Q c d lost :=
  ⟨fun sound h act => ⟨inv.acts sound h.1 act, other.acts sound h.2 act⟩,
    fun sound h idle pending untold =>
      ⟨inv.loses sound h.1 idle pending untold, other.loses sound h.2 idle pending untold⟩,
    fun given sound h begins =>
      ⟨inv.begins given sound h.1 begins, other.begins given sound h.2 begins⟩⟩

theorem path (inv : Invariant R P) (path : Path hit c d ls c₁ d₁) (sound : Sound c d lost)
    (h : P c d lost) : Sound c₁ d₁ (lost ++ ls) ∧ P c₁ d₁ (lost ++ ls) := by
  induction path generalizing lost with
  | nil => simpa using ⟨sound, h⟩
  | step act _ ih => exact ih (act.sound sound) (inv.acts sound h act)
  | loses idle pending untold _ ih =>
    simpa using ih (sound.lose idle pending untold) (inv.loses sound h idle pending untold)

theorem step (inv : Invariant R P) (given : R c) (fits : i.Fits c) (sound : Sound c none lost)
    (h : P c none lost) :
    Sound (c.step i) none (lost ++ (c.lossOfStep i).toList) ∧
      P (c.step i) none (lost ++ (c.lossOfStep i).toList) := by
  obtain path | ⟨rest, c₁, d, begins, path⟩ := path_step sound.fit i fits
  · exact inv.path path sound h
  · exact inv.path path (begins.sound sound) (inv.begins given sound h begins)

end Invariant

/-! ## Runs -/

/-- The requests that are lost in a run. -/
def losses (c : Client) : List Input → List Loss
  | [] => []
  | i :: rest => (c.lossOfStep i).toList ++ (c.step i).losses rest

theorem run_cons : c.run (i :: rest) = (c.step i).run rest := rfl

theorem run_append : c.run (inputs ++ rest) = (c.run inputs).run rest := List.foldl_append

theorem audience_step (fit : c.Fit) (fits : i.Fits c) : (c.step i).audience = c.audience := by
  obtain path | ⟨rest, c₁, d, begins, path⟩ := path_step fit i fits
  · exact path.audience_eq
  · rw [path.audience_eq, begins.frame.2.1]

theorem Input.Fits.congr (audience : c₁.audience = c.audience) (fits : i.Fits c) : i.Fits c₁ := by
  cases i with
  | call job =>
    show job.Fits c₁
    have fits : job.Fits c := fits
    cases job <;> simp_all [Job.Fits]
  | expectEnd =>
    show c₁.audience ≠ .client
    rw [audience]
    exact fits
  | _ => exact trivial

/-- Soundness alone. -/
theorem invariant_true : Invariant Always fun _ _ _ => True :=
  ⟨fun _ _ _ => trivial, fun _ _ _ _ _ => trivial, fun _ _ _ _ => trivial⟩

/-- All states of a run from which it goes on are of a kind. -/
def Throughout (c : Client) (inputs : List Input) (R : Client → Prop) : Prop :=
  ∀ before i after, inputs = before ++ i :: after → R (c.run before)

theorem throughout_always : c.Throughout inputs Always := fun _ _ _ _ => trivial

theorem Throughout.step {R : Client → Prop} (h : c.Throughout (i :: inputs) R) :
    R c ∧ (c.step i).Throughout inputs R := by
  refine ⟨h [] i inputs rfl, fun before j after e => ?_⟩
  exact h (i :: before) j after (by rw [e, List.cons_append])

theorem Invariant.run {R : Client → Prop} {P : Client → Option Doer → List Loss → Prop}
    (inv : Invariant R P) (given : c.Throughout inputs R) (fits : ∀ i ∈ inputs, i.Fits c) (sound : Sound c none lost) (h : P c none lost) :
    Sound (c.run inputs) none (lost ++ c.losses inputs) ∧
      P (c.run inputs) none (lost ++ c.losses inputs) := by
  induction inputs generalizing c lost with
  | nil => simpa [losses] using ⟨sound, h⟩
  | cons i inputs ih =>
    obtain ⟨sound₁, h₁⟩ := inv.step given.step.1 (fits i (by simp)) sound h
    have fits₁ j (hj : j ∈ inputs) : j.Fits (c.step i) :=
      (fits j (by simp [hj])).congr (audience_step sound.fit (fits i (by simp)))
    simpa [losses, run_cons] using ih given.step.2 fits₁ sound₁ h₁

theorem audience_run (sound : Sound c none lost) (fits : ∀ i ∈ inputs, i.Fits c) :
    (c.run inputs).audience = c.audience := by
  induction inputs generalizing c lost with
  | nil => rfl
  | cons i inputs ih =>
    have same := audience_step sound.fit (fits i (by simp))
    rw [run_cons, ih (invariant_true.step trivial (fits i (by simp)) sound trivial).1 fun j hj =>
      (fits j (by simp [hj])).congr same, same]

/-! ## First states -/

/-- Nothing has happened: there are no activities, and nothing is pending. -/
theorem sound_of_standing (standing : ∀ t, c.standing t = .absent) (ready : c.ready = [])
    (attempts : c.attempts = [])
    (pending : ∀ l, (c.link l).pending = []) (holds : c.HoldsLinks)
    (links : c.audience ≠ .client → 0 < c.links.length) : Sound c none [] := by
  have told t : c.told t = none := by rw [told, standing, Standing.absent]
  have role t : c.role t = .idle := by rw [role, standing, Standing.absent]
  refine ⟨⟨?_, ?_, ?_, by simp [turnOf]⟩, ⟨?_, ?_, ?_, ?_, ?_, ?_⟩, ⟨holds, ?_, ?_, ?_, ?_, ?_, links, ?_,
    ?_⟩, ?_, ?_⟩
  · simp [ready]
  · simp [told]
  · simp [ready]
  · simp [pending]
  · simp [pending]
  · simp [claim, role, Role.idle]
  · simp [claim, role, Role.idle]
  · simp [roleBy, role, Role.idle]
  · simp [roleBy, role, Role.idle]
  · simp [roleBy, role, Role.idle]
  · simp [roleBy, role, Role.idle]
  · simp [roleBy, role, Role.idle]
  · simp [roleBy, role, Role.idle]
  · simp [roleBy, role, Role.idle]
  · intro l cancelled
    cases (told (.listener l)).symm.trans cancelled
  · simp [roleBy, role, Role.idle]
  · simp [Agreed, told]
  · simp [Concluding, attempts]

theorem standing_eq_absent (attempts : c.attempts = []) (calls : c.calls = [])
    (listener : ∀ l, (c.link l).listener = ⟨.absent, none⟩)
    (drain : ∀ l, (c.link l).drain = ⟨.absent, none⟩) (t : Task) : c.standing t = .absent := by
  cases t with
  | listener l =>
    rw [standing, listener]
    rfl
  | drain l =>
    rw [standing, drain]
    rfl
  | attempt n => simp [standing, attempts]
  | call n => simp [standing, calls]
  | relay a => rfl

theorem sound_ofConfig {config : ServerConfig} {workspace : String} {policies : List Policy} :
    Sound (ofConfig config workspace policies) none [] := by
  refine sound_of_standing (standing_eq_absent rfl rfl (fun _ => rfl) fun _ => rfl) rfl
    rfl (fun _ => rfl) (fun l => ?_) fun h => absurd rfl h
  rintro (⟨⟨⟩⟩ | ⟨⟨⟩⟩)

theorem link_ofProcess {name : String} {policy : Policy} {observed : Bool} :
    (ofProcess name policy observed).link l =
      if l = 0 then Link.ofPolicy 0 policy else default := by
  cases l <;> rfl

theorem sound_ofProcess {name : String} {policy : Policy} {observed : Bool} :
    Sound (ofProcess name policy observed) none [] := by
  refine sound_of_standing (standing_eq_absent rfl rfl (fun l => ?_) fun l => ?_) rfl
    rfl (fun l => ?_) (fun l => ?_) fun _ => Nat.one_pos
  · rw [link_ofProcess]
    split <;> rfl
  · rw [link_ofProcess]
    split <;> rfl
  · rw [link_ofProcess]
    split <;> rfl
  · rintro (⟨⟨⟩⟩ | ⟨⟨⟩⟩) <;> exact Nat.one_pos

end LspGateway.Client
