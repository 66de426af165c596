import LspGateway.Client.Run
import Mathlib.Data.List.Nodup

/-! # What a client does, action by action

A turn of an activity is a series of actions. Each of them changes one thing and
names the condition under which it is taken. What holds of a client at first and is
kept by the start of a turn and by every action holds along all runs.
-/

namespace LspGateway.Client

/-! ## The parts of a client

What an activity has under way, the signal it was given, and how these and the
links of a client change when one of its parts is written.
-/

section Parts

variable {c : Client} {l k n m : Nat}

/-- What a call is for. -/
inductive Errand
  | none
  /-- It starts the server or sends something. -/
  | sends
  | listens
  | closes
  | disposes
  deriving DecidableEq

/-- How far an attempt has come. -/
inductive Strand
  /-- It has not said that it starts the server. -/
  | early
  /-- It has run no command yet. -/
  | starts
  /-- It has a connection to a process that it has started. -/
  | speaks
  /-- It has told the server that it is initialized. -/
  | greeted
  /-- It takes down what it has started. -/
  | fails
  deriving DecidableEq

/-- What an activity has under way. -/
structure Role where
  errand : Errand
  strand : Strand
  /-- The link and the id of the request whose answer it waits for. -/
  expects : Option (Nat × Nat)
  teardown : Option Teardown
  /-- The attempt whose end it waits for. -/
  stopping : Option Nat
  /-- It is disposing the client. -/
  disposes : Bool
  deriving DecidableEq

namespace Role

/-- Nothing is under way. -/
def idle : Role := ⟨.none, .early, none, none, none, false⟩

/-- A call of which nothing is under way. -/
def begun (e : Errand) : Role := { idle with errand := e }

/-- An attempt that has come so far. -/
def attempting (s : Strand) : Role := { idle with strand := s }

/-- Only the client's disposal is under way. -/
def disposing : Role := { idle with errand := .disposes, disposes := true }

end Role

/-- What a job is about. -/
def Job.errand : Job → Errand
  | .start => .sends
  | .sends _ => .sends
  | .listen => .listens
  | .close => .closes
  | .dispose => .disposes

def AttemptPhase.role : AttemptPhase → Role
  | .clearing t => { Role.idle with teardown := some t }
  | .handshake l id => { Role.attempting .speaks with expects := some (l, id) }
  | .failing t _ => { Role.attempting .fails with teardown := some t }
  | _ => .idle

/-- What a call in its phase has under way. A shutdown request that could not be sent
has the id zero, and nothing is expected of it. -/
def CallPhase.role : CallPhase → Role
  | .fresh job => .begun job.errand
  | .joined _ _ => .begun .sends
  | .awaiting l id _ => { Role.begun .sends with expects := some (l, id) }
  | .closing t => { Role.begun .closes with teardown := some t }
  | .stopping a => { Role.disposing with stopping := some a }
  | .shuttingDown l id _ =>
    { Role.disposing with expects := if id = 0 then none else some (l, id) }
  | .disposing t => { Role.disposing with teardown := some t }
  | _ => .idle

/-- It has begun to read or will. -/
def WatcherPhase.isPending : WatcherPhase → Bool
  | .fresh => true
  | .waiting => true
  | _ => false

def AttemptPhase.isLive : AttemptPhase → Bool
  | .running => false
  | .done _ => false
  | _ => true

/-- The call has not ended and does not have its turn. -/
def CallPhase.isLive : CallPhase → Bool
  | .running => false
  | .done _ => false
  | _ => true

def Task.isRelay : Task → Bool
  | .relay _ => true
  | _ => false

/-- Where an activity stands. -/
structure Standing where
  /-- It has not ended and does not have its turn. -/
  live : Bool
  told : Option Signal
  role : Role

/-- An activity that does not exist. -/
def Standing.absent : Standing := ⟨false, none, .idle⟩

def Watcher.standing (w : Watcher) : Standing := ⟨w.phase.isPending, w.signal, .idle⟩

def Attempt.standing (a : Attempt) : Standing := ⟨a.phase.isLive, a.signal, a.phase.role⟩

def Call.standing (k : Call) : Standing := ⟨k.phase.isLive, k.signal, k.phase.role⟩

def standing (c : Client) : Task → Standing
  | .listener l => (c.link l).listener.standing
  | .drain l => (c.link l).drain.standing
  | .attempt n => (c.attempts[n]?.map Attempt.standing).getD .absent
  | .call n => (c.calls[n]?.map Call.standing).getD .absent
  | .relay _ => .absent

/-- What an activity has under way. -/
def role (c : Client) (t : Task) : Role := (c.standing t).role

/-- What an activity was told since it had its last turn. -/
def told (c : Client) (t : Task) : Option Signal := (c.standing t).told

/-- The activity exists. -/
def Has (c : Client) : Task → Prop
  | .listener l => l < c.links.length
  | .drain l => l < c.links.length
  | .attempt n => n < c.attempts.length
  | .call n => n < c.calls.length
  | .relay _ => True

instance (t : Task) : Decidable (c.Has t) :=
  match t with
  | .listener l => inferInstanceAs (Decidable (l < c.links.length))
  | .drain l => inferInstanceAs (Decidable (l < c.links.length))
  | .attempt n => inferInstanceAs (Decidable (n < c.attempts.length))
  | .call n => inferInstanceAs (Decidable (n < c.calls.length))
  | .relay _ => isTrue trivial

/-- Writes an attempt. -/
def putAttempt (c : Client) (n : Nat) (a : Attempt) : Client :=
  { c with attempts := c.attempts.set n a }

/-- Writes a call. -/
def putCall (c : Client) (n : Nat) (k : Call) : Client := { c with calls := c.calls.set n k }

theorem setAttempt_eq (p : AttemptPhase) : c.setAttempt n p = c.putAttempt n ⟨p, none⟩ := rfl

theorem setCall_eq (p : CallPhase) : c.setCall n p = c.putCall n ⟨p, none⟩ := rfl

/-! ### Links -/

/-- Only what is done to the element in question counts. -/
theorem modify_congr {α : Type} {xs : List α} {i : Nat} {f g : α → α}
    (h : ∀ a, xs[i]? = some a → f a = g a) : xs.modify i f = xs.modify i g := by
  apply List.ext_getElem?
  intro j
  rw [List.getElem?_modify, List.getElem?_modify]
  by_cases e : i = j
  · subst e
    cases hx : xs[i]? with
    | none => rfl
    | some a => simp [h a hx]
  · simp [e]

theorem modify_self {α : Type} {xs : List α} {i : Nat} {f : α → α}
    (h : ∀ a, xs[i]? = some a → f a = a) : xs.modify i f = xs :=
  (modify_congr h).trans (List.modify_id i xs)

theorem link_eq : c.link l = c.links[l]?.getD default := rfl

theorem link_of_le (h : c.links.length ≤ l) : c.link l = default := by
  rw [link_eq, List.getElem?_eq_none h]
  rfl

theorem lt_of_listener (h : (c.link l).listener.phase.isPending) : l < c.links.length := by
  refine Nat.lt_of_not_le fun hl => ?_
  rw [link_of_le hl] at h
  cases h

theorem lt_of_drain (h : (c.link l).drain.phase.isPending) : l < c.links.length := by
  refine Nat.lt_of_not_le fun hl => ?_
  rw [link_of_le hl] at h
  cases h

theorem link_modifyLink (f : Link → Link) :
    (c.modifyLink l f).link k =
      if l = k ∧ k < c.links.length then f (c.link k) else c.link k := by
  simp only [link_eq, modifyLink, List.getElem?_modify]
  rcases Nat.lt_or_ge k c.links.length with h | h
  · rw [List.getElem?_eq_getElem h]
    by_cases e : l = k <;> simp [e, h]
  · rw [List.getElem?_eq_none h]
    simp [Nat.not_lt.mpr h]

theorem link_modifyLink_self (h : l < c.links.length) (f : Link → Link) :
    (c.modifyLink l f).link l = f (c.link l) := by
  simp [link_modifyLink, h]

theorem link_modifyLink_ne (h : l ≠ k) (f : Link → Link) :
    (c.modifyLink l f).link k = c.link k := by
  simp [link_modifyLink, h]

/-- Something that a change of a link leaves alone is the same for all links. -/
theorem link_modifyLink_same {α : Type} (g : Link → α) {f : Link → Link}
    (h : ∀ k, g (f k) = g k) : g ((c.modifyLink l f).link k) = g (c.link k) := by
  rw [link_modifyLink]
  split
  · exact h _
  · rfl

theorem modifyLink_congr {f g : Link → Link} (h : f (c.link l) = g (c.link l)) :
    c.modifyLink l f = c.modifyLink l g := by
  have hl : c.links.modify l f = c.links.modify l g :=
    modify_congr fun k hk => by simpa [link_eq, hk] using h
  rw [modifyLink, modifyLink, hl]

theorem modifyLink_modifyLink (f g : Link → Link) :
    (c.modifyLink l f).modifyLink l g = c.modifyLink l (g ∘ f) := by
  rw [modifyLink, modifyLink, modifyLink, List.modify_modify_eq]

theorem modifyLink_self {f : Link → Link} (h : f (c.link l) = c.link l) :
    c.modifyLink l f = c := by
  have hl : c.links.modify l f = c.links :=
    modify_self fun k hk => by simpa [link_eq, hk] using h
  rw [modifyLink, hl]

theorem links_length_modifyLink (f : Link → Link) :
    (c.modifyLink l f).links.length = c.links.length := by
  simp [modifyLink]

end Parts

/-! ## Activities in their turns -/

/-- What an attempt finds in use. -/
def AttemptPhase.finds (p : AttemptPhase) (h : Held) : Held :=
  match p with
  | .clearing _ => h
  | _ => .nothing

/-- An activity in its turn. -/
structure Doer where
  task : Task
  /-- What it was told. -/
  signal : Signal
  /-- What it had under way when its turn came. -/
  began : Role
  role : Role
  /-- The request whose answer it waited for until then. -/
  asked : Option (Nat × Nat)
  /-- The request that it no longer waits for and has still to withdraw. -/
  leaves : Option (Nat × Nat)
  /-- What an attempt finds in use that has waited until an earlier server was down. -/
  found : Held

/-- What an activity has under way, be it in its turn or not. -/
def roleBy (c : Client) (d : Option Doer) (t : Task) : Role :=
  match d with
  | some x => if x.task = t then x.role else c.role t
  | none => c.role t

namespace Doer

/-- An activity whose turn begins. It was told what it waited for, or does not wait
any longer. -/
def ofTurn (t : Task) (s : Signal) (r : Role) (found : Held) : Doer :=
  ⟨t, s, r, { r with expects := none, stopping := none }, r.expects,
    match s with
    | .answered _ => none
    | _ => r.expects, found⟩

def expect (x : Doer) (e : Option (Nat × Nat)) : Doer :=
  { x with role := { x.role with expects := e } }

/-- What is being taken down. -/
def takeDown (x : Doer) (t : Option Teardown) : Doer :=
  { x with role := { x.role with teardown := t } }

/-- A request that could not be sent is to be withdrawn. -/
def leave (x : Doer) (e : Nat × Nat) : Doer := { x with leaves := some e }

/-- The attempt goes on to something else. -/
def turnTo (x : Doer) (s : Strand) : Doer := { x with role := { x.role with strand := s } }

/-- The disposal begins, and waits for the end of an attempt, if there is one. -/
def stop (x : Doer) (a : Option Nat) : Doer :=
  { x with role := { x.role with stopping := a, disposes := true } }

/-- An activity ends only if nothing is under way. -/
structure IsDone (x : Doer) : Prop where
  expects : x.role.expects = none
  teardown : x.role.teardown = none
  stopping : x.role.stopping = none
  leaves : x.leaves = none

/-- It neither waits for an answer nor has a request to withdraw. -/
def IsFree (x : Doer) : Prop := x.role.expects = none ∧ x.leaves = none

theorem IsDone.isFree {x : Doer} (done : x.IsDone) : x.IsFree := ⟨done.expects, done.leaves⟩

end Doer

/-- Nobody is concerned with a request of its own in its turn. -/
def IsIdle (d : Option Doer) : Prop := ∀ x, d = some x → x.IsFree

/-- The activity in its turn takes a link down. -/
def TakesDown (d : Option Doer) (l : Nat) : Prop :=
  ∃ x t, d = some x ∧ x.role.teardown = some t ∧ t.link = l

/-- Something may arrive from the process of a link: it is the last one, or is used or taken down. -/
def Reaches (c : Client) (d : Option Doer) (l : Nat) : Prop :=
  l + 1 = c.links.length ∨ c.held.process = some l ∨ c.held.connection = some l ∨ TakesDown d l

/-! ## Conditions -/

/-- The activity listens to a link. -/
def Hears (d : Option Doer) (l : Nat) : Prop :=
  ∃ x, d = some x ∧ (x.task = .listener l ∨ x.role.errand = .listens)

/-- Everything but messages, the exit of a process and the signals that are to bring it about. -/
def Output.isQuiet : Output → Bool
  | .event _ (.wrote _) => false
  | .event _ .terminated => false
  | .event _ .killed => false
  | .event _ (.exited _) => false
  | _ => true

/-- The process was told to leave before this stage. -/
def Stage.isLate : Stage → Bool
  | .terminated _ => true
  | .drain => true
  | _ => false

/-- The process may leave by itself at this stage. -/
def Stage.isPatient : Stage → Bool
  | .input _ => true
  | .grace _ => true
  | _ => false

/-- The process of a link has exited or was told to. -/
def IsSecured (c : Client) (l : Nat) : Prop :=
  c.isAlive l = false ∨ .event (c.link l).spawn .terminated ∈ c.history ∨
    .event (c.link l).spawn .killed ∈ c.history

/-- Why a listener may end: the client knows that it does, or is not to know. -/
def MayHalt (c : Client) (l : Nat) (crash : Option Json.Misuse) : Prop :=
  (c.link l).closed ∨ (c.link l).shuttingDown ∨ (c.link l).superseded ∨ crash.isSome ∨
    c.audience ≠ .client ∨ c.state = .failed

/-- What a teardown waits for the end of has been told to end. -/
structure Ends (c : Client) (t : Teardown) : Prop where
  listener : t.stage = .listener → (c.link t.link).listener.signal = some .cancelled
  drain : t.stage = .drain → ∃ d, t.drain = some d ∧ (c.link d).drain.signal = some .cancelled

/-- An attempt is cancelled, unless what it waits for is ending anyway. -/
def Halts (c : Client) (n : Nat) : Prop :=
  ∀ a, c.attempts[n]? = some a → a.signal = some .cancelled ∨ a.yields = false

/-- What an attempt comes to that does not succeed. -/
def Outcome.isFailure : Outcome → Bool
  | .value _ => false
  | _ => true

/-- An answer of a server. -/
def Outcome.isReply : Outcome → Bool
  | .value _ => true
  | .error (.response _ _ _) => true
  | _ => false

/-- What the sends of a call may come to while the server runs. -/
def Outcome.isProper : Outcome → Bool
  | .error (.response _ _ _) => true
  | .error .closed => true
  | .error (.ended _) => true
  | .error (.unwritable _) => true
  | .error _ => false
  | _ => true

/-- A wait for an answer ends without one, and not because it has lasted too long. -/
def Signal.isBreak : Signal → Bool
  | .go => true
  | .answered .cancelled => true
  | .cancelled => true
  | _ => false

/-- What has to be taken down of what a client uses. A process without a connection
is not listened to. -/
def Held.teardown? (h : Held) : Option Teardown :=
  match h.connection, h.process with
  | some l, _ => some ⟨l, h.drain, .listener⟩
  | none, some l => some ⟨l, h.drain, .grace 0⟩
  | none, none => none

/-- Why a listener or a drain is told something. -/
inductive WatcherPrompt : Watcher → Signal → Prop
  | arrival : WatcherPrompt ⟨.waiting, none⟩ .go
  | cancelled {w : Watcher} (pending : w.phase.isPending) : WatcherPrompt w .cancelled

/-- Why an attempt is told something that is no answer. -/
inductive AttemptPrompt : Attempt → Signal → Prop
  | step {p : AttemptPhase} (teardown : p.teardown?.isSome) : AttemptPrompt ⟨p, none⟩ .go
  | late {p : AttemptPhase} (deadline : p.deadline?.isSome) : AttemptPrompt ⟨p, none⟩ .timedOut
  | cancelled {a : Attempt} (yields : a.yields) : AttemptPrompt a .cancelled

/-- Why a call is told something that is no answer of a server. -/
inductive CallPrompt (c : Client) : Call → Signal → Prop
  | step {p : CallPhase} (teardown : p.teardown?.isSome) : CallPrompt c ⟨p, none⟩ .go
  | late {p : CallPhase} (deadline : p.deadline?.isSome) : CallPrompt c ⟨p, none⟩ .timedOut
  | relayed {a : Nat} {sends : List Send} {o : Outcome} (ended : c.attemptOutcome? a = some o) :
    CallPrompt c ⟨.joined a sends, none⟩ (.answered o)
  | stopped {a : Nat} (ended : (c.attemptOutcome? a).isSome) :
    CallPrompt c ⟨.stopping a, none⟩ .go
  | refused {l d : Nat} {e : Error} :
    CallPrompt c ⟨.shuttingDown l 0 d, none⟩ (.answered (.error e))
  | cancelled {k : Call} (yields : k.yields) : CallPrompt c k .cancelled

/-- A client is started and disposed, and a mere connection is listened to and closed. -/
def Job.Fits (c : Client) : Job → Prop
  | .start => c.audience = .client
  | .sends _ => True
  | .listen => c.audience ≠ .client
  | .close => c.audience ≠ .client
  | .dispose => c.audience = .client

instance (c : Client) (job : Job) : Decidable (job.Fits c) :=
  match job with
  | .start => inferInstanceAs (Decidable (c.audience = .client))
  | .sends _ => isTrue trivial
  | .listen => inferInstanceAs (Decidable (c.audience ≠ .client))
  | .close => inferInstanceAs (Decidable (c.audience ≠ .client))
  | .dispose => inferInstanceAs (Decidable (c.audience = .client))

/-- On what occasion an activity sends a request with an id, or a notification. -/
inductive Occasion (c : Client) (x : Doer) (l : Nat) : Option Nat → String → Json → Prop
  | introduces {n} (task : x.task = .attempt n) (speaks : x.role.strand = .speaks) :
    Occasion c x l (some 1) "initialize" c.introduction
  | sends {id method params} (sends : x.role.errand = .sends) (ready : c.state = .ready) :
    Occasion c x l id method params
  | shutsDown {id} (disposes : x.role.disposes) (ready : c.state = .ready) :
    Occasion c x l (some id) "shutdown" .null
  | exits {id j} (disposes : x.role.disposes) (asked : x.asked = some (l, id))
      (agreed : x.signal = .answered (.value j)) : Occasion c x l none "exit" .null

/-- Why something that is no request is written to the process of a link. -/
inductive Writes (c : Client) (l : Nat) : Option Doer → Json → Prop
  | rejects {d} (hears : Hears d l) (id method : Json) : Writes c l d (rejection id method)
  | tells {x method params} (used : c.held.connection = some l ∨ x.role.disposes)
      (why : Occasion c x l none method params) :
    Writes c l (some x) (message none method params)

/-! ## Effects -/

/-- Puts an activity into the queue, unless it was told something before. -/
def summon (c : Client) (t : Task) (told : Option Signal) : Client :=
  { c with ready := if told.isNone then c.ready ++ [t] else c.ready }

def tellListener (c : Client) (l : Nat) (s : Signal) : Client :=
  (c.modifyLink l fun k => { k with listener := ⟨k.listener.phase, some s⟩ }).summon
    (.listener l) (c.link l).listener.signal

/-- Tells a drain something. -/
def tellDrain (c : Client) (l : Nat) (s : Signal) : Client :=
  (c.modifyLink l fun k => { k with drain := ⟨k.drain.phase, some s⟩ }).summon
    (.drain l) (c.link l).drain.signal

def tellAttempt (c : Client) (n : Nat) (a : Attempt) (s : Signal) : Client :=
  (c.putAttempt n ⟨a.phase, some s⟩).summon (.attempt n) a.signal

def tellCall (c : Client) (n : Nat) (k : Call) (s : Signal) : Client :=
  (c.putCall n ⟨k.phase, some s⟩).summon (.call n) k.signal

/-- What an attempt that waits is told. -/
def Attempt.prompt (s : Signal) (a : Attempt) : Attempt :=
  if a.phase.isWaiting && a.signal.isNone then ⟨a.phase, some s⟩ else a

/-- What a call that waits is told. -/
def Call.prompt (s : Signal) (k : Call) : Call :=
  if k.phase.isWaiting && k.signal.isNone then ⟨k.phase, some s⟩ else k

/-- The activity waits and was told nothing. -/
def heeds (c : Client) : Task → Bool
  | .attempt n => c.attempts[n]?.any fun a => a.phase.isWaiting && a.signal.isNone
  | .call n => c.calls[n]?.any fun k => k.phase.isWaiting && k.signal.isNone
  | _ => false

/-- Tells an activity something if it waits. -/
def prompt (c : Client) (t : Task) (s : Signal) : Client :=
  { c with
    attempts := match t with
      | .attempt n => c.attempts.modify n (.prompt s)
      | _ => c.attempts
    calls := match t with
      | .call n => c.calls.modify n (.prompt s)
      | _ => c.calls
    ready := if c.heeds t then c.ready ++ [t] else c.ready }

/-- A request becomes pending. -/
def register (c : Client) (l : Nat) (t : Task) : Client :=
  let id := (c.link l).lastId + 1
  c.modifyLink l fun k => { k with lastId := id, pending := k.pending ++ [(id, t)] }

/-- A new process and its link, which is listened to if the process takes input. -/
def addLink (c : Client) (ps : List Policy) (p : Policy) : Client :=
  let l := c.links.length
  let listener : Watcher := if p.hasInput then ⟨.fresh, some .go⟩ else ⟨.absent, none⟩
  { c with
    policies := ps
    spawns := c.spawns + 1
    links := c.links ++ [{ Link.ofPolicy c.spawns p with listener }]
    held := ⟨some l, if p.hasInput then some l else c.held.connection, c.held.drain⟩
    ready := c.ready ++ if p.hasInput then [.listener l] else [] }

/-- A new attempt, which all callers share from now on. -/
def addAttempt (c : Client) : Client :=
  { c with
    attempts := c.attempts ++ [Attempt.mk .fresh (some .go)]
    attempt := some c.attempts.length }.push (.attempt c.attempts.length)

/-- The attempt is over, and the calls that wait for it are to be told. -/
def settleAttempt (c : Client) (n : Nat) (o : Outcome) : Client :=
  (c.putAttempt n ⟨.done o, none⟩).push (.relay n)

/-- The listener waits for the rest of a message. -/
def restListener (c : Client) (l : Nat) (reading : Wire.Reading) : Client :=
  c.modifyLink l fun k => { k with listener := ⟨.waiting, none⟩, reading }

/-- The listener ends, on a value of the wrong shape or for another reason. -/
def haltListener (c : Client) (l : Nat) (crash : Option Json.Misuse) : Client :=
  c.modifyLink l fun k => { k with listener := ⟨.done, none⟩, crash }

/-- A later listener ends. -/
def supersede (c : Client) (l : Nat) (crash : Option Json.Misuse) : Client :=
  c.modifyLink l fun k => { k with superseded := true, crash }

/-- What earlier listeners ended on is forgotten. -/
def renewListener (c : Client) (l : Nat) : Client :=
  c.modifyLink l fun k => { k with crash := none, superseded := false }

/-- Another listener begins. -/
def restartListener (c : Client) (l : Nat) : Client :=
  (c.modifyLink l fun k =>
    { k with crash := none, superseded := false, listener := ⟨.fresh, some .go⟩ }).push
      (.listener l)

/-- The client reads what the process of a link reports. -/
def addDrain (c : Client) (l : Nat) : Client :=
  { c with held := { c.held with drain := some l } }.startDraining l

/-! ## Actions -/

/-- How an activity takes a link down: it takes it from the client, goes from stage to
stage, and is done or gives up. -/
inductive Takes (c : Client) (x : Doer) : Client → Option Teardown → Prop
  | releases (idle : x.role.teardown = none)
      (who : (∃ n, x.task = .attempt n) ∨ x.role.disposes = true) :
    Takes c x { c with held := .nothing } c.held.teardown?
  | closes (idle : x.role.teardown = none) (errand : x.role.errand = .closes) :
    Takes c x c (some ⟨c.heldLink, none, .listener⟩)
  | advances {t u} (takes : x.role.teardown = some t) (same : u.link = t.link)
      (shut : t.stage = .listener → (c.link t.link).closed)
      (off : t.stage = .listener → (c.link t.link).pending = []) (on : u.stage ≠ .listener)
      (late : u.stage.isLate → t.stage.isLate ∨ c.IsSecured t.link) : Takes c x c (some u)
  | settles {t} (takes : x.role.teardown = some t)
      (shut : t.stage = .listener → (c.link t.link).closed)
      (off : t.stage = .listener → (c.link t.link).pending = [])
      (late : t.stage.isLate ∨ c.IsSecured t.link) : Takes c x c none
  | abandons {t} (takes : x.role.teardown = some t)
      (shut : t.stage = .listener → (c.link t.link).closed)
      (why : (c.link t.link).crash.isSome ∨
        t.stage.isPatient ∧ x.signal = .cancelled ∧ x.began.teardown = some t) :
    Takes c x c none

/-- No call is cancelled or added. -/
def NoHit (_ : Nat) : Prop := False

/-- An action, which may end the turn of an activity. Of the calls only those that are
hit may be cancelled or added. -/
inductive Action (hit : Nat → Prop) (c : Client) : Option Doer → Client → Option Doer → Prop
  -- What is shown and recorded.
  | shows {d} {o : Output} (quiet : o.isQuiet) : Action hit c d (c.emit o) d
  | writes {d l m} (up : (c.link l).closed = false) (why : Writes c l d m) :
    Action hit c d (c.event l (.wrote m)) d
  | passes {d} (time : Nat) : Action hit c d { c with now := time } d
  | greets {x n l k id j} (task : x.task = .attempt n) (speaks : x.role.strand = .speaks)
      (asked : x.asked = some (k, id)) (agreed : x.signal = .answered (.value j))
      (used : c.held.connection = some l) (later : x.began.strand = .speaks) :
    Action hit c (some x) (c.event l (.wrote (message none "initialized" (.obj []))))
      (some (x.turnTo .greeted))
  | spends {x n} (task : x.task = .attempt n) (starts : x.role.strand = .starts)
      (ps : List Policy) :
    Action hit c (some x) { c with policies := ps, spawns := c.spawns + 1 } (some (x.turnTo .fails))
  -- What processes do, and what is done to them.
  | flows {d} (l : Nat) (f : Process → Process)
      (same : ∀ p, (f p).policy = p.policy ∧ (f p).exitCode = p.exitCode) :
    Action hit c d (c.modifyProcess l f) d
  | exits {d l code} (f : Process → Process) (alive : c.isAlive l)
      (left : ∀ p, (f p).policy = p.policy ∧ (f p).exitCode = some code) :
    Action hit c d ((c.event l (.exited code)).modifyProcess l f) d
  | strikes {d l e} (hard : e = .terminated ∨ e = .killed)
      (own : c.held.process = some l ∨ TakesDown d l) : Action hit c d (c.event l e) d
  -- Who is told something.
  | tellsListener {d l s} (why : WatcherPrompt (c.link l).listener s)
      (shut : s = .cancelled → (c.link l).closed) (near : s = .cancelled ∨ Reaches c d l) :
    Action hit c d (c.tellListener l s) d
  | tellsDrain {d l s} (why : WatcherPrompt (c.link l).drain s) : Action hit c d (c.tellDrain l s) d
  | tellsAttempt {d n a s} (here : c.attempts[n]? = some a) (why : AttemptPrompt a s) :
    Action hit c d (c.tellAttempt n a s) d
  | tellsCall {d n k s} (here : c.calls[n]? = some k) (why : CallPrompt c k s)
      (outside : s = .cancelled → d = none ∧ hit n) :
    Action hit c d (c.tellCall n k s) d
  -- Requests and their answers.
  | asks {x l method params} (idle : x.role.expects = none) (left : x.leaves = none)
      (up : (c.link l).isClosed = false) (used : c.held.connection = some l)
      (why : Occasion c x l (some ((c.link l).lastId + 1)) method params) :
    Action hit c (some x) ((c.register l x.task).event l
        (.wrote (message (some ((c.link l).lastId + 1)) method params)))
      (some (x.expect (some (l, (c.link l).lastId + 1))))
  /-- What cannot be written is pending all the same until it is withdrawn. -/
  | mumbles {x l} (idle : x.role.expects = none) (left : x.leaves = none)
      (up : (c.link l).isClosed = false) (used : c.held.connection = some l) :
    Action hit c (some x) (c.register l x.task) (some (x.leave (l, (c.link l).lastId + 1)))
  | retracts {x l id} (expects : x.role.expects = some (l, id)) (left : x.leaves = none) :
    Action hit c (some x) (c.forget l id) (some (x.expect none))
  | withdraws {x l id} (idle : x.role.expects = none) (leaves : x.leaves = some (l, id)) :
    Action hit c (some x) (c.forget l id) (some { x with leaves := none })
  | answers {d l id t o} (idle : IsIdle d) (hears : Hears d l)
      (pending : (id, t) ∈ (c.link l).pending) (untold : c.isTold t = false) (reply : o.isReply) :
    Action hit c d ((c.forget l id).prompt t (.answered o)) d
  | drops {d l id t} (idle : IsIdle d) (hears : Hears d l)
      (pending : (id, t) ∈ (c.link l).pending) (told : c.isTold t = true) : Action hit c d (c.forget l id) d
  | fails {d l id t rest} (idle : IsIdle d) (reason : Ending)
      (first : (c.link l).pending = (id, t) :: rest) :
    Action hit c d ((c.modifyLink l fun k => { k with pending := rest }).prompt t
      (.answered (.error (.ended reason)))) d
  -- Listeners.
  | rests {x l} (task : x.task = .listener l) (done : x.IsDone) (go : x.signal ≠ .cancelled)
      (runs : (c.link l).listener.phase = .running) (reading : Wire.Reading) :
    Action hit c (some x) (c.restListener l reading) none
  | halts {x l crash} (task : x.task = .listener l) (clear : (c.link l).pending = [])
      (same : crash = (c.link l).crash ∨ crash.isSome)
      (why : c.MayHalt l crash) :
    Action hit c (some x) (c.haltListener l crash) (some x)
  | supersedes {x l crash} (listens : x.role.errand = .listens)
      (clear : (c.link l).pending = []) : Action hit c (some x) (c.supersede l crash) (some x)
  | renews {x l} (listens : x.role.errand = .listens)
      (waits : (c.link l).listener.phase = .waiting) :
    Action hit c (some x) (c.renewListener l) (some x)
  | restarts {x n l} (task : x.task = .call n) (listens : x.role.errand = .listens) (here : l < c.links.length)
      (ceased : (c.link l).listener.phase.isPending = false) :
    Action hit c (some x) (c.restartListener l) (some x)
  -- Standard error.
  | drains {x n l} (task : x.task = .attempt n) (here : l < c.links.length)
      (absent : (c.link l).drain.phase = .absent) : Action hit c (some x) (c.addDrain l) (some x)
  | drainRests {x l} (task : x.task = .drain l) (done : x.IsDone) (go : x.signal ≠ .cancelled) :
    Action hit c (some x) (c.setDrain l .waiting) none
  | drainEnds {x l} (task : x.task = .drain l) :
    Action hit c (some x) (c.setDrain l .done) (some x)
  -- The taking down of a link.
  | takes {x c₁ u} (how : Takes c x c₁ u) : Action hit c (some x) c₁ (some (x.takeDown u))
  | shuts {x t} (takes : x.role.teardown = some t) (first : t.stage = .listener) :
    Action hit c (some x) (c.modifyLink t.link fun k => { k with closed := true }) (some x)
  | expectsEnd {d} (l : Nat) : Action hit c d (c.expectEnd l) d
  -- The client as a whole.
  | connects {x n} (task : x.task = .attempt n) (done : x.IsDone) (starts : x.role.strand = .starts)
      (cold : c.state = .starting) (ps : List Policy) (p : Policy)
      (clear : c.held = .nothing ∨ c.held = x.found) :
    Action hit c (some x) (c.addLink ps p) (some (x.turnTo (if p.hasInput then .speaks else .fails)))
  | startsUp {x n} (task : x.task = .attempt n) (early : x.role.strand = .early)
      (down : x.role.teardown = none)
      (go : x.signal = .cancelled → ∃ t, x.began.teardown = some t ∧ t.stage.isFirm) :
    Action hit c (some x) { c with state := .starting } (some (x.turnTo .starts))
  /-- An attempt that has connected waits for an answer before it can fail. -/
  | turnsBack {x n} (task : x.task = .attempt n)
      (later : x.role.strand = .speaks → x.began.strand = .speaks) :
    Action hit c (some x) c (some (x.turnTo .fails))
  | fallsBack {x n} (task : x.task = .attempt n) (fails : x.role.strand = .fails)
      (down : x.role.teardown = none) : Action hit c (some x) c.markFailed (some x)
  | givesUp {d l} (hears : Hears d l) (who : c.audience = .client) (up : (c.link l).closed = false)
      (sudden : (c.link l).shuttingDown = false) : Action hit c d c.markFailed d
  | resets {x} (who : x.role.disposes = true)
      (free : c.held = .nothing ∨ x.began.disposes ∧ x.began.stopping = none ∧
        (x.began.teardown.isSome ∨ x.signal.isBreak)) :
    Action hit c (some x) c.reset (some x)
  | shares {x} (sends : x.role.errand = .sends) (cold : c.state ≠ .ready)
      (ceased : ∀ a, c.attempt = some a → (c.attemptOutcome? a).isSome) :
    Action hit c (some x) c.addAttempt (some x)
  | disposes {x} (errand : x.role.errand = .disposes) (done : x.IsDone)
      (ceased : ∀ a, c.attempt = some a → (c.attemptOutcome? a).isSome)
      (first : x.role.disposes = false) :
    Action hit c (some x) { c with attempt := none } (some (x.stop none))
  | detaches {x a} (errand : x.role.errand = .disposes) (done : x.IsDone)
      (shared : c.attempt = some a) (live : c.attemptOutcome? a = none)
      (first : x.role.disposes = false) :
    Action hit c (some x) { c with attempt := none } (some (x.stop (some a)))
  -- The end of a turn.
  | parksAttempt {x n p} (task : x.task = .attempt n) (role : p.role = x.role)
      (left : x.leaves = none) (waits : p.isWaiting)
      (ends : ∀ t, p.teardown? = some t → c.Ends t)
      (failed : ∀ t o, p = .failing t o → o.isFailure) :
    Action hit c (some x) (c.putAttempt n ⟨p, none⟩) none
  | endsAttempt {x n o} (task : x.task = .attempt n) (done : x.IsDone) (failed : o.isFailure)
      (later : x.role.strand = .speaks → x.began.strand = .speaks) :
    Action hit c (some x) (c.settleAttempt n o) none
  | succeeds {x n l k id j} (task : x.task = .attempt n) (done : x.IsDone)
      (greeted : x.role.strand = .greeted) (asked : x.asked = some (k, id))
      (agreed : x.signal = .answered (.value j))
      (used : c.held.connection = some l) (up : (c.link l).isClosed = false)
      (caps : Json) (shape : capabilitiesOf j = .ok caps) :
    Action hit c (some x)
      ({ c with capabilities := caps, state := .ready }.settleAttempt n .done) none
  | parksCall {x n p} (task : x.task = .call n) (role : p.role = x.role)
      (left : x.leaves = none) (waits : p.isWaiting)
      (ends : ∀ t, p.teardown? = some t → c.Ends t)
      (stops : ∀ a, p = .stopping a → c.Halts a)
      (go : x.role.errand = .sends → x.signal ≠ .cancelled)
      (joins : ∀ a sends, p = .joined a sends →
        c.state ≠ .ready ∧ c.attempt = some a ∧ c.attemptOutcome? a = none) :
    Action hit c (some x) (c.putCall n ⟨p, none⟩) none
  | endsCall {x n o} (task : x.task = .call n) (done : x.IsDone)
      (reset : x.role.disposes = true → c.state = .notStarted)
      (proper : x.role.errand = .sends →
        if x.signal = .cancelled then o = .cancelled
        else o.isProper ∨ x.signal = .answered o ∨ ∀ l, c.usableLink ≠ .ok l) :
    Action hit c (some x) (c.putCall n ⟨.done o, none⟩) none
  /-- A listener or a drain has ended, and whoever waited for that was told. -/
  | leaves {x} (done : x.IsDone)
      (told : ∀ t u, (c.role t).teardown = some u →
        (x.task = .listener u.link ∧ u.stage = .listener ∨
          (∃ l, x.task = .drain l ∧ u.drain = some l) ∧ u.stage = .drain) →
        (c.told t).isSome)
      (ceased : (∃ l, x.task = .listener l ∧ (c.link l).listener.phase = .done) ∨
        ∃ l, x.task = .drain l ∧ (c.link l).drain.phase = .done) :
    Action hit c (some x) c none
  -- What comes from outside.
  | calls (job : Job) (fits : job.Fits c) (outside : hit c.calls.length) :
    Action hit c none (c.addCall job) none

/-- A request that is taken off the list while whoever waits for its answer is told
nothing. -/
structure Loss where
  link : Nat
  id : Nat
  task : Task
  deriving DecidableEq

/-- A series of actions, with the requests that are lost on the way. -/
inductive Path (hit : Nat → Prop) :
    Client → Option Doer → List Loss → Client → Option Doer → Prop
  | nil (c d) : Path hit c d [] c d
  | step {c d c₁ d₁ ls c₂ d₂} (act : Action hit c d c₁ d₁) (path : Path hit c₁ d₁ ls c₂ d₂) :
    Path hit c d ls c₂ d₂
  | loses {c d l id t ls c₂ d₂} (idle : IsIdle d) (pending : (id, t) ∈ (c.link l).pending)
      (untold : c.isTold t = false) (path : Path hit (c.forget l id) d ls c₂ d₂) :
    Path hit c d (⟨l, id, t⟩ :: ls) c₂ d₂

/-! ## The start of a turn -/

/-- An activity that was told something and can go on. -/
def CanGo (c : Client) (t : Task) : Prop :=
  t.isRelay ∨ (c.standing t).live ∧ (c.told t).isSome

/-- The turn of the first activity in the queue begins. A listener that is cancelled
before it has begun does not begin. -/
inductive Begins (c : Client) (rest : List Task) : Client → Option Doer → Prop
  | listener {l s} {p : WatcherPhase} (ready : c.ready = .listener l :: rest)
      (here : (c.link l).listener = ⟨p, some s⟩) (pending : p.isPending) :
    Begins c rest ({ c with ready := rest }.setListener l
        (if p = WatcherPhase.fresh ∧ s = Signal.cancelled then .done else .running))
      (some (.ofTurn (.listener l) s .idle .nothing))
  | drain {l s} {p : WatcherPhase} (ready : c.ready = .drain l :: rest)
      (here : (c.link l).drain = ⟨p, some s⟩) (pending : p.isPending) :
    Begins c rest ({ c with ready := rest }.setDrain l .running)
      (some (.ofTurn (.drain l) s .idle .nothing))
  | attempt {n p s} (ready : c.ready = .attempt n :: rest)
      (here : c.attempts[n]? = some ⟨p, some s⟩) (live : p.isLive) :
    Begins c rest ({ c with ready := rest }.putAttempt n ⟨.running, none⟩)
      (some (.ofTurn (.attempt n) s p.role (p.finds c.held)))
  | call {n p s} (ready : c.ready = .call n :: rest)
      (here : c.calls[n]? = some ⟨p, some s⟩) (live : p.isLive) :
    Begins c rest ({ c with ready := rest }.putCall n ⟨.running, none⟩)
      (some (.ofTurn (.call n) s p.role .nothing))
  | relay {a} (ready : c.ready = .relay a :: rest) : Begins c rest { c with ready := rest } none

end LspGateway.Client
