import LspGateway.Proofs.Client.Correlating
import LspGateway.Proofs.Client.Scene

/-! # A connection to a stream in pieces

A listener that waits takes what it has taken and what it will take of the stream as
if it were one piece. So what is to be seen of a connection in the end, and the
messages that were taken, do not depend on the pieces in which the bytes arrive nor
on the turns between them.
-/

namespace LspGateway.Client

variable {c x y d : Client} {m : Json} {ms : List Json} {last last' : Wire.Received}
  {more : List UInt8} {ended fin : Bool} {reading r : Wire.Reading} {rest : List UInt8}

/-! ## The rest of a stream at once -/

/-- Somebody listens: a listener waits or has its turn. -/
def Listened (c : Client) : Prop := (c.link 0).listener.phase.settled = .waiting

instance : Decidable c.Listened := inferInstanceAs (Decidable (_ = _))

theorem Alike.listened (h : Alike x y) : x.Listened ↔ y.Listened := by
  rw [Listened, Listened, h.listener]

/-- What becomes of a connection by a message, if somebody listens. -/
def absorb (c : Client) (m : Json) : Client :=
  if c.Listened then
    match c.dispatch 0 m with
    | (c, none) => if (c.link 0).closed then c.stopListening 0 .first .deliberate else c
    | (c, some fault) => c.crashListening 0 .first fault
  else c

/-- The messages that are taken of a stream. -/
def takes (c : Client) : List Json → List Json
  | [] => []
  | m :: ms => if c.Listened then m :: (c.absorb m).takes ms else []

/-- What becomes of a connection by what a stream has after its messages. -/
def conclude (c : Client) (last : Wire.Received) : Client :=
  if c.Listened then
    match last with
    | .ended _ => c.stopAfter 0 .first .byServer (·.announceEnd 0)
    | .fault f _ => c.stopAfterFault 0 .first f
    | .unfinished _ _ | .message _ _ => c
  else c

theorem Alike.absorb (h : Alike x y) (m : Json) : Alike (x.absorb m) (y.absorb m) := by
  obtain ⟨same, misuse⟩ := h.dispatch m
  unfold Client.absorb
  by_cases on : x.Listened
  · rw [if_pos on, if_pos (h.listened.mp on)]
    generalize x.dispatch 0 m = a at same misuse
    generalize y.dispatch 0 m = b at same misuse
    obtain ⟨a, fault⟩ := a
    obtain ⟨b, fault'⟩ := b
    obtain rfl : fault = fault' := misuse
    cases fault with
    | none =>
      dsimp only
      rw [← same.closed]
      split
      · exact same.stopListening rfl
      · exact same
    | some fault => exact same.crashListening fault
  · rwa [if_neg on, if_neg (mt h.listened.mpr on)]

theorem Alike.foldl_absorb (h : Alike x y) (ms : List Json) :
    Alike (ms.foldl Client.absorb x) (ms.foldl Client.absorb y) := by
  induction ms generalizing x y with
  | nil => exact h
  | cons m ms ih => exact ih (h.absorb m)

theorem Alike.takes (h : Alike x y) (ms : List Json) : x.takes ms = y.takes ms := by
  induction ms generalizing x y with
  | nil => rfl
  | cons m ms ih =>
    rw [Client.takes, Client.takes, ih (h.absorb m)]
    simp only [h.listened]

/-- What a stream has after its messages, with one text for every line that is too long. -/
inductive Agree : Wire.Received → Wire.Received → Prop
  | refl (last : Wire.Received) : Agree last last
  | ended (rest rest' : List UInt8) : Agree (.ended rest) (.ended rest')
  | fault (f f' : Wire.Fault) (rest rest' : List UInt8) (same : f.merged = f'.merged) :
    Agree (.fault f rest) (.fault f' rest')

theorem Alike.conclude (h : Alike x y) (same : Agree last last') :
    Alike (x.conclude last) (y.conclude last') := by
  unfold Client.conclude
  by_cases on : x.Listened
  · rw [if_pos on, if_pos (h.listened.mp on)]
    cases same with
    | refl last =>
      cases last with
      | ended rest => exact h.stopAfterEnd
      | fault f rest => exact h.stopAfterFault rfl
      | unfinished r rest => exact h
      | message m rest => exact h
    | ended rest rest' => exact h.stopAfterEnd
    | fault f f' rest rest' same => exact h.stopAfterFault same
  · rwa [if_neg on, if_neg (mt h.listened.mpr on)]

theorem foldl_absorb_unheard (off : ¬ c.Listened) (ms : List Json) : ms.foldl absorb c = c := by
  induction ms with
  | nil => rfl
  | cons m ms ih =>
    rw [List.foldl_cons, absorb, if_neg off]
    exact ih

theorem takes_unheard (off : ¬ c.Listened) (ms : List Json) : c.takes ms = [] := by
  cases ms with
  | nil => rfl
  | cons m ms => rw [takes, if_neg off]

theorem conclude_unheard (off : ¬ c.Listened) (last : Wire.Received) : c.conclude last = c :=
  if_neg off

theorem conclude_unfinished : c.conclude (.unfinished r rest) = c := by
  unfold conclude
  split <;> rfl

theorem takes_append (ms ks : List Json) :
    c.takes (ms ++ ks) = c.takes ms ++ (ms.foldl absorb c).takes ks := by
  induction ms generalizing c with
  | nil => rfl
  | cons m ms ih =>
    rw [List.cons_append, takes, takes, ih, List.foldl_cons]
    by_cases on : c.Listened
    · rw [if_pos on, if_pos on, List.cons_append]
    · have unmoved : c.absorb m = c := if_neg on
      rw [if_neg on, if_neg on, unmoved, foldl_absorb_unheard on, takes_unheard on,
        List.append_nil]

/-! ## Listening -/

theorem link_dispatch (here : 0 < c.links.length) :
    ∃ ps, (c.dispatch 0 m).1.link 0 = { c.link 0 with pending := ps } := by
  have forgot {id : Nat} : (c.forget 0 id).link 0 =
      { c.link 0 with pending := (c.link 0).pending.filter (·.1 != id) } :=
    link_modifyLink_self here _
  unfold dispatch
  split
  · exact ⟨_, rfl⟩
  · unfold handleResponse
    split
    · split <;> exact ⟨_, rfl⟩
    · split
      · exact ⟨_, rfl⟩
      · dsimp only
        split
        · exact ⟨_, forgot⟩
        · split
          · rw [wake_eq_prompt]
            exact ⟨_, forgot⟩
          · exact ⟨_, forgot⟩
  · unfold handleNotification
    split <;> exact ⟨_, rfl⟩
  · next id method _ =>
    have wrote (c : Client) : (c.write 0 (rejection id method)).1.link 0 = c.link 0 := by
      rw [write_rejection]
      split
      · rfl
      · split <;> rfl
    have logged := wrote (c.log .debug ("[" ++ c.id ++ "] Rejecting server request " ++ method.plain))
    unfold rejectRequest
    dsimp only
    split
    · next e =>
      rw [e] at logged
      exact ⟨_, logged⟩
    · next e =>
      rw [e] at logged
      exact ⟨_, logged⟩

theorem Alike.setOutput (h : Alike x y) (rest : List UInt8) : Alike (x.setOutput 0 rest) y :=
  h.modify_left rfl

/-- The listener has ended. -/
def Over (c : Client) : Prop := (c.link 0).listener = ⟨.done, none⟩

theorem Over.off (h : c.Over) : ¬ c.Listened := by
  rw [Listened, h]
  nofun

theorem over_stopListening (here : 0 < c.links.length) (reason : Ending) :
    (c.stopListening 0 .first reason).Over :=
  listener_stopListening here

theorem over_stopAfter (here : 0 < c.links.length) (reason : Ending) {announce : Client → Client}
    (here' : 0 < (announce c).links.length) : (c.stopAfter 0 .first reason announce).Over := by
  unfold stopAfter
  dsimp only
  split
  · exact over_stopListening here _
  · exact over_stopListening here' _

theorem over_stopAfterEnd (h : Apt c) :
    (c.stopAfter 0 .first .byServer (·.announceEnd 0)).Over := by
  refine over_stopAfter h.here _ ?_
  unfold announceEnd
  split
  · exact absurd ‹_› h.observed
  · exact h.here
  · exact h.here

theorem over_stopAfterFault (h : Apt c) (f : Wire.Fault) :
    (c.stopAfterFault 0 .first f).Over := by
  refine over_stopAfter h.here _ ?_
  unfold announceFault
  split
  · exact absurd ‹_› h.observed
  · exact h.here
  · exact h.here

theorem over_crashListening (here : 0 < c.links.length) (fault : Json.Misuse) :
    (c.crashListening 0 .first fault).Over :=
  over_stopListening (by rwa [links_length_modifyLink]) _

theorem Alike.pauseListening (h : Alike x y) (on : x.Listened) (r : Wire.Reading) :
    Alike (x.pauseListening 0 r) y := by
  have still : (x.setListener 0 .waiting).Alike y := by
    refine h.modify_left ?_
    rw [Link.prospect, Link.prospect, show (x.link 0).listener.phase.settled = .waiting from on]
    rfl
  exact still.modify_left rfl

theorem link_setOutput (here : 0 < c.links.length) (rest : List UInt8) :
    (c.setOutput 0 rest).link 0 = { c.link 0 with
      process := { c.process 0 with output := ⟨rest, (c.process 0).output.ended⟩ } } :=
  link_modifyLink_self here _

theorem link_pauseListening (here : 0 < c.links.length) (r : Wire.Reading) :
    (c.pauseListening 0 r).link 0 =
      { c.link 0 with listener := ⟨.waiting, none⟩, reading := r } := by
  have here' : 0 < (c.setListener 0 .waiting).links.length := by
    rwa [setListener, links_length_modifyLink]
  rw [Client.pauseListening, link_modifyLink_self here', setListener, link_modifyLink_self here]

/-- What a listener leaves: either it waits for more, or nobody listens. -/
inductive Leaves (p : Process) (last : Wire.Received) (d : Client) : Prop
  | waits (r : Wire.Reading) (rest : List UInt8) (missing : last = .unfinished r rest)
    (listener : (d.link 0).listener = ⟨.waiting, none⟩) (reading : (d.link 0).reading = r)
    (process : d.process 0 = { p with output := ⟨rest, p.output.ended⟩ })
  | ceased (ceased : d.Over)

/-- A listener has dealt with what a stream has, and taken messages for that. -/
structure Dealt (c : Client) (S : List Json × Wire.Received) (d : Client) (taken : List Json) :
    Prop where
  alike : Alike d ((S.1.foldl absorb c).conclude S.2)
  heard : taken = c.takes S.1
  leaves : Leaves (c.process 0) S.2 d

theorem Dealt.stop (alike : Alike d (c.absorb m)) (ceased : d.Over) (on : c.Listened)
    (ms : List Json) (last : Wire.Received) : Dealt c (m :: ms, last) d [m] := by
  have off' := mt alike.listened.mpr ceased.off
  refine ⟨?_, ?_, .ceased ceased⟩
  · rwa [List.foldl_cons, foldl_absorb_unheard off', conclude_unheard off']
  · rw [takes, if_pos on, takes_unheard off']

theorem Dealt.go {a : Client} {ks : List Json} (dealt : Dealt a (ms, last) d ks)
    (alike : Alike a (c.absorb m)) (on : c.Listened)
    (process : a.process 0 = { c.process 0 with output := ⟨rest, (c.process 0).output.ended⟩ }) :
    Dealt c (m :: ms, last) d (m :: ks) := by
  refine ⟨dealt.alike.trans ((alike.foldl_absorb ms).conclude (.refl last)), ?_, ?_⟩
  · rw [takes, if_pos on, dealt.heard, alike.takes]
  · have leaves := dealt.leaves
    rw [process] at leaves
    cases leaves with
    | waits r rest missing listener reading process =>
      exact .waits r rest missing listener reading process
    | ceased ceased => exact .ceased ceased

/-- A listener takes the messages that have arrived one after another. -/
theorem dealt_listen {fuel : Nat} (h : Apt c) (on : c.Listened)
    (enough : (c.process 0).output.buffer.length < fuel) :
    Dealt c (Wire.scan (c.process 0).output reading) (listen 0 .first fuel reading c)
      (hear 0 fuel reading c) := by
  induction fuel generalizing c reading with
  | zero => exact absurd enough (Nat.not_lt_zero _)
  | succ fuel ih =>
    have same (rest : List UInt8) : Alike (c.setOutput 0 rest) c := (Alike.refl h).setOutput rest
    have here (rest : List UInt8) := (same rest).left.here
    unfold listen hear
    cases found : Wire.next (c.process 0).output reading with
    | unfinished r rest =>
      rw [Wire.scan_last (by simp [found]), found]
      have waits : (c.setOutput 0 rest).Listened := (same rest).listened.mpr on
      have left := link_pauseListening (here rest) r
      rw [link_setOutput h.here] at left
      refine ⟨?_, rfl, .waits r rest rfl ?_ ?_ ?_⟩
      · rw [conclude_unfinished]
        exact (same rest).pauseListening waits r
      · exact congrArg Link.listener left
      · exact congrArg Link.reading left
      · exact congrArg Link.process left
    | ended rest =>
      rw [Wire.scan_last (by simp [found]), found]
      refine ⟨?_, rfl, .ceased (over_stopAfterEnd (same rest).left)⟩
      rw [List.foldl_nil, conclude, if_pos on]
      exact (same rest).stopAfterEnd
    | fault f rest =>
      rw [Wire.scan_last (by simp [found]), found]
      refine ⟨?_, rfl, .ceased (over_stopAfterFault (same rest).left f)⟩
      rw [List.foldl_nil, conclude, if_pos on]
      exact (same rest).stopAfterFault rfl
    | message m rest =>
      rw [Wire.scan_message found]
      obtain ⟨alike, misuse⟩ := (same rest).dispatch m
      obtain ⟨ps, link⟩ := link_dispatch (m := m) (here rest)
      rw [link_setOutput h.here] at link
      have absorbed : c.absorb m = match c.dispatch 0 m with
          | (c, none) => if (c.link 0).closed then c.stopListening 0 .first .deliberate else c
          | (c, some fault) => c.crashListening 0 .first fault := if_pos on
      dsimp only
      generalize (c.setOutput 0 rest).dispatch 0 m = a at alike misuse link
      generalize c.dispatch 0 m = b at alike misuse absorbed
      obtain ⟨a, fault⟩ := a
      obtain ⟨b, fault'⟩ := b
      obtain rfl : fault = fault' := misuse
      cases fault with
      | some fault =>
        refine .stop ?_ (over_crashListening alike.left.here fault) on _ _
        rw [absorbed]
        exact alike.crashListening fault
      | none =>
        dsimp only at alike link absorbed ⊢
        rw [← alike.closed] at absorbed
        by_cases closed : (a.link 0).closed
        · rw [if_pos closed] at absorbed
          rw [if_pos closed, if_pos closed]
          refine .stop ?_ (over_stopListening alike.left.here _) on _ _
          rw [absorbed]
          exact alike.stopListening rfl
        · rw [if_neg closed] at absorbed
          rw [if_neg closed, if_neg closed]
          have process : a.process 0 = { c.process 0 with
              output := ⟨rest, (c.process 0).output.ended⟩ } := congrArg Link.process link
          have goes : a.Listened := by
            rw [Listened, link]
            exact on
          have shorter := Wire.length_of_next found
          have dealt : Dealt a (Wire.scan (a.process 0).output .start) _ _ :=
            ih alike.left goes (by rw [process]; dsimp only; omega)
          rw [process] at dealt
          exact dealt.go (absorbed ▸ alike) on process

/-! ## What is still to come -/

/-- A stream from where a listener stands, with what is still to arrive. -/
def ahead (c : Client) (more : List UInt8) (fin : Bool) : List Json × Wire.Received :=
  Wire.scan ⟨(c.process 0).output.buffer ++ more, fin⟩ (c.link 0).reading

/-- What becomes of a connection in the end. -/
def upshot (c : Client) (more : List UInt8) (fin : Bool) : Client :=
  ((c.ahead more fin).1.foldl absorb c).conclude (c.ahead more fin).2

/-- The messages that are still to be taken. -/
def yet (c : Client) (more : List UInt8) (fin : Bool) : List Json := c.takes (c.ahead more fin).1

theorem upshot_unheard (off : ¬ c.Listened) : c.upshot more fin = c := by
  rw [upshot, foldl_absorb_unheard off, conclude_unheard off]

theorem yet_unheard (off : ¬ c.Listened) : c.yet more fin = [] := takes_unheard off _

/-- One connection goes on to another one when some bytes arrive and some messages are taken,
and nobody sees a difference in the end. -/
structure Leads (c : Client) (bytes : List UInt8) (taken : List Json) (ended : Bool) (d : Client) :
    Prop where
  alike : ∀ more (fin : Bool), (ended → more = [] ∧ fin) →
    Alike (c.upshot (bytes ++ more) fin) (d.upshot more fin)
  heard : ∀ more (fin : Bool), (ended → more = [] ∧ fin) →
    c.yet (bytes ++ more) fin = taken ++ d.yet more fin

/-- A listener that waits and was told nothing has taken what has arrived, as far as it goes. -/
def Rested (c : Client) : Prop :=
  c.Listened → (c.link 0).listener.signal = none →
    ∃ r rest, Wire.next (c.process 0).output (c.link 0).reading = .unfinished r rest

section Resting

variable (h : c.Rested) (untold : (c.link 0).listener.signal = none)

include h untold

theorem Rested.ahead (on : c.Listened) :
    ∃ r rest, c.ahead [] (c.process 0).output.ended = ([], .unfinished r rest) := by
  obtain ⟨r, rest, e⟩ := h on untold
  refine ⟨r, rest, ?_⟩
  rw [Client.ahead, List.append_nil, Wire.scan_last (by rw [e]; nofun), e]

theorem Rested.upshot : c.upshot [] (c.process 0).output.ended = c := by
  by_cases on : c.Listened
  · obtain ⟨r, rest, e⟩ := h.ahead untold on
    rw [Client.upshot, e]
    exact conclude_unfinished
  · exact upshot_unheard on

theorem Rested.yet : c.yet [] (c.process 0).output.ended = [] := by
  by_cases on : c.Listened
  · obtain ⟨r, rest, e⟩ := h.ahead untold on
    rw [Client.yet, e]
    rfl
  · exact yet_unheard on

end Resting

section Dealing

variable {taken : List Json}
  (dealt : Dealt c (Wire.scan (c.process 0).output (c.link 0).reading) d taken)

include dealt

/-- What is missing of a stream is missing still. -/
theorem Dealt.rested : d.Rested := by
  intro on _
  cases dealt.leaves with
  | waits r rest missing listener reading process =>
    rw [process, reading]
    exact ⟨r, rest, Wire.scan_unfinished _ missing⟩
  | ceased ceased => exact absurd on ceased.off

/-- A listener that goes on later takes what it would have taken at once. -/
theorem Dealt.leads_open (h : Apt c) (more : List UInt8) (fin : Bool)
    (goes : (c.process 0).output.ended = false) :
    Alike (c.upshot more fin) (d.upshot more fin) ∧ c.yet more fin = taken ++ d.yet more fin := by
  have whole := Wire.scan_append (c.process 0).output.buffer more fin (c.link 0).reading
  have feed : (c.process 0).output = ⟨(c.process 0).output.buffer, false⟩ := by rw [← goes]
  rw [feed] at dealt
  obtain ⟨alike, rfl, leaves⟩ := dealt
  unfold upshot yet
  rw [show c.ahead more fin = Wire.scan ⟨(c.process 0).output.buffer ++ more, fin⟩
    (c.link 0).reading from rfl]
  have ends {ms : List Json} {last last' : Wire.Received}
      (alike : Alike d ((ms.foldl absorb c).conclude last)) (agree : Agree last last') :
      Alike ((ms.foldl absorb c).conclude last') d :=
    ((((Alike.refl h).foldl_absorb ms).conclude agree).symm).trans alike.symm
  generalize Wire.scan ⟨(c.process 0).output.buffer, false⟩ (c.link 0).reading = S at *
  generalize Wire.scan ⟨(c.process 0).output.buffer ++ more, fin⟩ (c.link 0).reading = S' at *
  cases whole with
  | unfinished ms r rest =>
    dsimp only at *
    rw [conclude_unfinished] at alike
    rw [List.foldl_append, takes_append, ← alike.takes]
    cases leaves with
    | waits r rest missing listener reading process =>
      obtain ⟨rfl, rfl⟩ := by simpa using missing
      have ahead : d.ahead more fin = Wire.scan ⟨rest ++ more, fin⟩ r := by
        rw [Client.ahead, process, reading]
      rw [ahead]
      exact ⟨(alike.symm.foldl_absorb _).conclude (.refl _), rfl⟩
    | ceased ceased =>
      have off := ceased.off
      have off' := mt alike.listened.mpr off
      rw [foldl_absorb_unheard off, foldl_absorb_unheard off', conclude_unheard off,
        conclude_unheard off', takes_unheard off, takes_unheard off]
      exact ⟨alike.symm, rfl⟩
  | ends ms rest =>
    cases leaves with
    | waits _ _ missing => cases missing
    | ceased ceased =>
      rw [foldl_absorb_unheard ceased.off, conclude_unheard ceased.off, takes_unheard ceased.off,
        List.append_nil]
      exact ⟨ends alike (.ended _ _), rfl⟩
  | fault ms f f' rest rest' same =>
    cases leaves with
    | waits _ _ missing => cases missing
    | ceased ceased =>
      rw [foldl_absorb_unheard ceased.off, conclude_unheard ceased.off, takes_unheard ceased.off,
        List.append_nil]
      exact ⟨ends alike (.fault _ _ _ _ same), rfl⟩

theorem Dealt.leads (h : Apt c) : Leads c [] taken (c.process 0).output.ended d := by
  have both (more : List UInt8) (fin : Bool) (later : (c.process 0).output.ended → more = [] ∧ fin) :
      Alike (c.upshot more fin) (d.upshot more fin) ∧
        c.yet more fin = taken ++ d.yet more fin := by
    cases goes : (c.process 0).output.ended with
    | false => exact dealt.leads_open h more fin goes
    | true =>
      obtain ⟨rfl, rfl⟩ := later goes
      have feed : c.ahead [] true = Wire.scan (c.process 0).output (c.link 0).reading := by
        rw [Client.ahead, List.append_nil, ← goes]
      have rest : d.upshot [] true = d ∧ d.yet [] true = [] := by
        cases dealt.leaves with
        | waits r rest missing listener reading process =>
          have ended : (d.process 0).output.ended = true := by rw [process, ← goes]
          have untold : (d.link 0).listener.signal = none := by rw [listener]
          rw [← ended]
          exact ⟨dealt.rested.upshot untold, dealt.rested.yet untold⟩
        | ceased ceased => exact ⟨upshot_unheard ceased.off, yet_unheard ceased.off⟩
      rw [rest.1, rest.2, List.append_nil, upshot, yet, feed]
      exact ⟨dealt.alike.symm, dealt.heard.symm⟩
  exact ⟨fun more fin later => (both more fin later).1, fun more fin later =>
    (both more fin later).2⟩

end Dealing

/-! ## What arrives, and turns -/

/-- Where a connection stands between two turns, while it only listens. -/
inductive Stands (ended : Bool) (c : Client) : Prop
  | off (off : ¬ c.Listened) (untold : (c.link 0).listener.signal = none)
  | on (s : Option Signal) (mild : s = none ∨ s = some .go)
    (waits : (c.link 0).listener = ⟨.waiting, s⟩) (alive : (c.process 0).exitCode = none)
    (feed : (c.process 0).output.ended = ended)

/-- A connection that only listens, between two turns. -/
structure Attends (ended : Bool) (c : Client) : Prop where
  apt : Apt c
  stands : Stands ended c

theorem Alike.leads (h : Alike x y) {bytes : List UInt8}
    (same : x.Listened → ∀ more fin, x.ahead (bytes ++ more) fin = y.ahead more fin) :
    Leads x bytes [] ended y := by
  by_cases on : x.Listened
  · refine ⟨fun more fin _ => ?_, fun more fin _ => ?_⟩
    · rw [upshot, upshot, same on]
      exact (h.foldl_absorb _).conclude (.refl _)
    · rw [yet, yet, same on, h.takes]
      rfl
  · have off := mt h.listened.mpr on
    refine ⟨fun more fin _ => ?_, fun more fin _ => ?_⟩
    · rwa [upshot_unheard on, upshot_unheard off]
    · rw [yet_unheard on, yet_unheard off]
      rfl

theorem Leads.trans {bytes bytes' : List UInt8} {ms ks : List Json} {z : Client} {ended' : Bool}
    (h : Leads x bytes ms ended y) (h' : Leads y bytes' ks ended' z)
    (still : ended → bytes' = [] ∧ ended') : Leads x (bytes ++ bytes') (ms ++ ks) ended' z := by
  have later {more : List UInt8} {fin : Bool} (later : ended' → more = [] ∧ fin) :
      ended → bytes' ++ more = [] ∧ fin := fun e => by
    obtain ⟨rfl, e'⟩ := still e
    exact later e'
  refine ⟨fun more fin l => ?_, fun more fin l => ?_⟩
  · rw [List.append_assoc]
    exact (h.alike _ fin (later l)).trans (h'.alike more fin l)
  · rw [List.append_assoc, h.heard _ fin (later l), h'.heard more fin l, List.append_assoc]

theorem wakeListener_on (h : Apt c) {s : Option Signal} (mild : s = none ∨ s = some .go)
    (waits : (c.link 0).listener = ⟨.waiting, s⟩) :
    Alike (c.wakeListener 0) c ∧
      (c.wakeListener 0).link 0 = { c.link 0 with listener := ⟨.waiting, some .go⟩ } := by
  unfold wakeListener
  rw [waits]
  rcases mild with rfl | rfl
  · refine ⟨((Alike.refl h).modify_left ?_).ready _, link_modifyLink_self h.here _⟩
    simp [Link.prospect, waits]
  · exact ⟨.refl h, show c.link 0 = _ by rw [← waits]⟩

theorem wakeListener_off (off : ¬ c.Listened) : c.wakeListener 0 = c := by
  unfold wakeListener
  split
  · next waits => exact absurd (by rw [Listened, waits]; rfl) off
  · rfl

/-- Something has arrived, for which a listener that waits goes on. -/
theorem leads_wakeListener {bytes : List UInt8} {e : Bool} (feed : Wire.Feed → Wire.Feed)
    (h : Attends false c)
    (adds : (feed (c.process 0).output).buffer = (c.process 0).output.buffer ++ bytes)
    (ends : (c.process 0).output.ended = false → (feed (c.process 0).output).ended = e) :
    let d := (c.modifyProcess 0 fun p => { p with output := feed p.output }).wakeListener 0
    Attends e d ∧ Leads c bytes [] ended d ∧ d.Rested := by
  intro d
  have link : (c.modifyProcess 0 fun p => { p with output := feed p.output }).link 0 =
      { c.link 0 with process := { c.process 0 with output := feed (c.process 0).output } } :=
    link_modifyLink_self h.apt.here _
  have same : Alike (c.modifyProcess 0 fun p => { p with output := feed p.output }) c :=
    (Alike.refl h.apt).modify_left rfl
  cases h.stands with
  | off off untold =>
    have off' := mt same.listened.mp off
    have unmoved : d = c.modifyProcess 0 fun p => { p with output := feed p.output } :=
      wakeListener_off off'
    rw [unmoved]
    refine ⟨⟨same.left, .off off' ?_⟩, same.symm.leads fun on => absurd on off,
      fun on => absurd on off'⟩
    rw [link, untold]
  | on s mild waits alive goes =>
    have waits' : ((c.modifyProcess 0 fun p => { p with output := feed p.output }).link 0).listener =
        ⟨.waiting, s⟩ := by rw [link, waits]
    obtain ⟨woken, link'⟩ := wakeListener_on same.left mild waits'
    have process : d.process 0 = { c.process 0 with output := feed (c.process 0).output } := by
      rw [Client.process, link', link]
    have alike : Alike d c := woken.trans same
    refine ⟨⟨alike.left, .on _ (.inr rfl) (congrArg Link.listener link') ?_ ?_⟩,
      alike.symm.leads fun _ more fin => ?_, fun _ untold => ?_⟩
    · rw [process, alive]
    · rw [process, ends goes]
    · rw [ahead, ahead, process, adds, link', link, List.append_assoc]
    · rw [link'] at untold
      cases untold

theorem leads_unmoved (h : Attends false c) (deaf : ¬ c.Listened) (e : Bool) {bytes : List UInt8} :
    Attends e c ∧ Leads c bytes [] ended c ∧ c.Rested := by
  cases h.stands with
  | off off untold =>
    exact ⟨⟨h.apt, .off off untold⟩, (Alike.refl h.apt).leads fun on => absurd on off,
      fun on => absurd on off⟩
  | on s mild waits => exact absurd (by rw [Listened, waits]; rfl) deaf

/-- A process to which somebody listens is still there, and its output goes on. -/
theorem Attends.goes (h : Attends false c) (on : c.Listened) :
    c.isAlive 0 = true ∧ (c.process 0).output.ended = false := by
  cases h.stands with
  | off off => exact absurd on off
  | on s mild waits alive goes => exact ⟨by rw [isAlive, alive]; rfl, goes⟩

theorem leads_feed (ended : Bool) (h : Attends false c) (bytes : List UInt8) :
    Attends false (c.feed 0 bytes) ∧ Leads c bytes [] ended (c.feed 0 bytes) ∧
      (c.feed 0 bytes).Rested := by
  unfold feed
  split
  · next goes =>
    have goes : (c.process 0).output.ended = false := by
      rw [Bool.and_eq_true, Bool.not_eq_true'] at goes
      exact goes.2
    refine leads_wakeListener (·.append bytes) h ?_ fun _ => ?_
    · simp [Wire.Feed.append, goes]
    · simp [Wire.Feed.append, goes]
  · next shut => exact leads_unmoved h (fun on => shut (by simp [h.goes on])) _

theorem leads_endOutput (ended : Bool) (h : Attends false c) :
    Attends true (c.endOutput 0) ∧ Leads c [] [] ended (c.endOutput 0) ∧ (c.endOutput 0).Rested := by
  unfold endOutput
  split
  · exact leads_wakeListener (fun f => { f with ended := true }) h (List.append_nil _).symm
      fun _ => rfl
  · next gone => exact leads_unmoved h (fun on => gone (h.goes on).1) _

/-! ## Turns -/

theorem scene_finish {n id : Nat} {o : Outcome}
    (here : c.calls[n]? = some ⟨.awaiting 0 id [], some (.answered o)⟩) :
    (c.finish n o).scene = c.scene := by
  have same : (c.calls.set n ⟨.done o, none⟩).map Call.settled = c.calls.map Call.settled := by
    apply List.ext_getElem?
    intro i
    simp only [List.getElem?_map, List.getElem?_set]
    split
    · next e =>
      obtain ⟨lt, -⟩ := List.getElem?_eq_some_iff.mp here
      subst e
      rw [if_pos lt, here]
      rfl
    · rfl
  rw [finish, scene_emit]
  simp only [setCall, scene, same]
  rfl

/-- A call that was told an answer ends, which was to be seen before. -/
theorem alike_finish {n id : Nat} {o : Outcome} (h : Apt c)
    (here : c.calls[n]? = some ⟨.awaiting 0 id [], some (.answered o)⟩) :
    Alike (c.finish n o) c := by
  refine ⟨⟨h.one, h.alone, h.observed, fun k mem => ?_, fun p mem => ?_, h.drain⟩, h,
    scene_finish here⟩
  · rcases List.mem_or_eq_of_mem_set mem with mem | rfl
    · exact h.quiet k mem
    · exact .done o
  · obtain ⟨i, e, waits⟩ := h.waits p mem
    have apart : n ≠ i := fun same => by
      rw [same, waits] at here
      cases here
    exact ⟨i, e, by simpa [finish, emit, setCall, apart] using waits⟩

theorem turn_told {n id : Nat} {o : Outcome} {ts : List Task} (first : c.ready = .call n :: ts)
    (here : c.calls[n]? = some ⟨.awaiting 0 id [], some (.answered o)⟩) :
    c.turn = ({ c with ready := ts } : Client).finish n o := by
  rw [turn_call first here]
  have again (q : CallPhase) : (({ c with ready := ts } : Client).setCall n .running).setCall n q =
      ({ c with ready := ts } : Client).setCall n q := by simp [setCall]
  cases o with
  | value result => exact congrArg (Client.emit · (.finished n (.value result))) (again _)
  | error e => exact congrArg (Client.emit · (.finished n (.error e))) (again _)
  | cancelled => exact congrArg (Client.emit · (.finished n .cancelled)) (again _)

/-- A call ends in its turn, which was to be seen before. -/
theorem alike_turn_call {n : Nat} {ts : List Task} (h : Apt c) (first : c.ready = .call n :: ts)
    (told : (c.told (.call n)).isSome) :
    Alike c.turn c ∧ c.turn.link 0 = c.link 0 ∧ c.received 0 .turn = [] := by
  cases here : c.calls[n]? with
  | none => simp [Client.told, standing, here, Standing.absent] at told
  | some k =>
    have quiet := h.quiet k (List.mem_of_getElem? here)
    rw [Client.told, standing_of_call here] at told
    cases quiet with
    | done o => cases told
    | waits id => cases told
    | told id o =>
      have same := (Alike.refl h).ready ts
      refine ⟨?_, ?_, by simp [received, first, here]⟩
      · rw [turn_told first here]
        exact (alike_finish same.left here).trans same
      · rw [turn_told first here]
        rfl

theorem turn_watched {ts : List Task} {s : Option Signal} (first : c.ready = .listener 0 :: ts)
    (mild : s = none ∨ s = some .go) (waits : (c.link 0).listener = ⟨.waiting, s⟩) :
    c.turn = (({ c with ready := ts } : Client).setListener 0 .running).listenFrom 0 .first
        (c.link 0).reading ∧
      c.received 0 .turn = (({ c with ready := ts } : Client).setListener 0 .running).hearFeed 0
        (c.link 0).reading := by
  have waits' : (({ c with ready := ts } : Client).link 0).listener = ⟨.waiting, s⟩ := waits
  rw [turn_listener first, runListener, received, first]
  dsimp only
  rw [if_pos rfl, hearTurn, waits']
  rcases mild with rfl | rfl <;> exact ⟨rfl, rfl⟩

/-- A turn in which nothing happens to the link. -/
theorem Attends.keeps (h : Attends ended c) (alike : Alike d c) (link : d.link 0 = c.link 0) :
    Attends ended d ∧ Leads c [] [] ended d ∧ (c.Rested → d.Rested) := by
  have process : d.process 0 = c.process 0 := congrArg Link.process link
  refine ⟨⟨alike.left, ?_⟩, alike.symm.leads fun _ more fin => ?_, fun rested on untold => ?_⟩
  · cases h.stands with
    | off off untold => exact .off (mt alike.listened.mp off) (by rw [link, untold])
    | on s mild waits alive goes =>
      exact .on s mild (by rw [link, waits]) (by rw [process, alive]) (by rw [process, goes])
  · rw [ahead, ahead, process, link]
    rfl
  · rw [process, link]
    rw [link] at untold
    exact rested (alike.listened.mp on) untold

theorem dealt_listenFrom (h : Apt c) (on : c.Listened) (reading : Wire.Reading) :
    Dealt c (Wire.scan (c.process 0).output reading) (c.listenFrom 0 .first reading)
      (c.hearFeed 0 reading) :=
  dealt_listen h on (Nat.lt_succ_self _)

/-- The listener has its turn. -/
theorem Attends.listens (h : Attends ended c) {ts : List Task} {s : Option Signal}
    (first : c.ready = .listener 0 :: ts) (mild : s = none ∨ s = some .go)
    (waits : (c.link 0).listener = ⟨.waiting, s⟩) (alive : (c.process 0).exitCode = none)
    (goes : (c.process 0).output.ended = ended) :
    Attends ended c.turn ∧ Leads c [] (c.received 0 .turn) ended c.turn ∧ c.turn.Rested := by
  obtain ⟨turn, received⟩ := turn_watched first mild waits
  rw [turn, received]
  generalize begun : ({ c with ready := ts } : Client).setListener 0 .running = b
  have link : b.link 0 = { c.link 0 with listener := ⟨.running, none⟩ } := by
    rw [← begun]
    exact link_modifyLink_self h.apt.here _
  have alike : Alike b c := by
    rw [← begun]
    refine ((Alike.refl h.apt).ready ts).modify_left ?_
    rw [Link.prospect, Link.prospect, show (({ c with ready := ts } : Client).link 0).listener =
      ⟨.waiting, s⟩ from waits]
    rfl
  have process : b.process 0 = c.process 0 := by rw [Client.process, link, Client.process]
  have reading : (b.link 0).reading = (c.link 0).reading := by rw [link]
  have on : b.Listened := by
    rw [Listened, link]
    rfl
  have stays : Leads c [] [] ended b := alike.symm.leads fun _ more fin => by
    rw [ahead, ahead, process, reading]
    rfl
  rw [← reading]
  have dealt := dealt_listenFrom alike.left on (b.link 0).reading
  generalize b.listenFrom 0 .first (b.link 0).reading = d at dealt
  have leads := dealt.leads alike.left
  rw [process, goes] at leads
  refine ⟨⟨dealt.alike.left, ?_⟩, stays.trans leads fun e => ⟨rfl, e⟩, dealt.rested⟩
  cases dealt.leaves with
  | waits r rest missing listener reading process' =>
    rw [process] at process'
    exact .on none (.inl rfl) listener (by rw [process', alive]) (by rw [process', goes])
  | ceased ceased => exact .off ceased.off (by rw [ceased])

theorem leads_turn {lost : List Loss} (sound : Sound c none lost) (h : Attends ended c) :
    Attends ended c.turn ∧ Leads c [] (c.received 0 .turn) ended c.turn ∧
      (c.Rested → c.turn.Rested) := by
  cases first : c.ready with
  | nil =>
    have idle : c.turn = c := by rw [turn, first]
    rw [idle, show c.received 0 .turn = [] by simp [received, first]]
    exact h.keeps (.refl h.apt) rfl
  | cons t ts =>
    have canGo := sound.queue.canGo t (by simp [first])
    have absent (l : Nat) : c.link (l + 1) = default := link_of_le (by rw [h.apt.one]; omega)
    cases t with
    | listener l =>
      obtain ⟨-, told⟩ := canGo.resolve_left Bool.false_ne_true
      cases l with
      | zero =>
        cases h.stands with
        | off off untold =>
          rw [show c.told (.listener 0) = none from untold] at told
          cases told
        | on s mild waits alive goes =>
          obtain ⟨attends, leads, rested⟩ := h.listens first mild waits alive goes
          exact ⟨attends, leads, fun _ => rested⟩
      | succ l =>
        rw [show c.told (.listener (l + 1)) = (c.link (l + 1)).listener.signal from rfl, absent] at told
        cases told
    | drain l =>
      obtain ⟨-, told⟩ := canGo.resolve_left Bool.false_ne_true
      cases l with
      | zero =>
        rw [show c.told (.drain 0) = none from h.apt.drain] at told
        cases told
      | succ l =>
        rw [show c.told (.drain (l + 1)) = (c.link (l + 1)).drain.signal from rfl, absent] at told
        cases told
    | attempt n =>
      obtain ⟨live, -⟩ := canGo.resolve_left Bool.false_ne_true
      simp [standing, h.apt.alone, Standing.absent] at live
    | call n =>
      obtain ⟨-, told⟩ := canGo.resolve_left Bool.false_ne_true
      obtain ⟨alike, link, taken⟩ := alike_turn_call h.apt first told
      rw [taken]
      exact h.keeps alike link
    | relay a =>
      have passed : c.turn = { c with ready := ts } := by
        rw [turn, first]
        show Client.runRelay { c with ready := ts } a = _
        simp [runRelay, attemptOutcome?, h.apt.alone]
      rw [passed, show c.received 0 .turn = [] by simp [received, first]]
      exact h.keeps ((Alike.refl h.apt).ready ts) rfl

/-! ## Runs -/

/-- Inputs by which the given bytes arrive in pieces, and the stream ends or goes on, with turns
at any time. The first truth value tells whether it has ended before. -/
inductive Streams : Bool → List UInt8 → Bool → List Input → Prop
  | nil (ended : Bool) : Streams ended [] ended []
  | turn {ended fin : Bool} {bytes : List UInt8} {inputs : List Input}
    (rest : Streams ended bytes fin inputs) : Streams ended bytes fin (.turn :: inputs)
  | piece {fin : Bool} {bytes piece : List UInt8} {inputs : List Input} (some : piece ≠ [])
    (rest : Streams false bytes fin inputs) :
    Streams false (piece ++ bytes) fin (.output piece :: inputs)
  | ends {bytes : List UInt8} {fin : Bool} {inputs : List Input}
    (rest : Streams true bytes fin inputs) : Streams false bytes fin (.outputEnd :: inputs)

variable {bytes : List UInt8} {inputs : List Input}

theorem Streams.fits (h : Streams ended bytes fin inputs) : ∀ i ∈ inputs, i.Fits c := by
  induction h with
  | nil => nofun
  | turn rest ih => exact List.forall_mem_cons.mpr ⟨trivial, ih⟩
  | piece some rest ih => exact List.forall_mem_cons.mpr ⟨trivial, ih⟩
  | ends rest ih => exact List.forall_mem_cons.mpr ⟨trivial, ih⟩

/-- Nothing arrives on a stream that has ended. -/
theorem Streams.still (h : Streams ended bytes fin inputs) (ceased : ended) : bytes = [] ∧ fin := by
  induction h with
  | nil => exact ⟨rfl, ceased⟩
  | turn rest ih => exact ih ceased
  | piece | ends => cases ceased

/-- Where nothing arrives there are only turns. -/
theorem Streams.turns (h : Streams ended bytes fin inputs) (same : fin = ended) (none : bytes = []) :
    ∀ i ∈ inputs, i = .turn := by
  induction h with
  | nil => nofun
  | turn rest ih => exact List.forall_mem_cons.mpr ⟨rfl, ih same none⟩
  | piece some => exact absurd (List.append_eq_nil_iff.mp none).1 some
  | ends rest => cases same.symm.trans (rest.still rfl).2

/-- What arrives is no turn. -/
theorem Streams.arrives (h : Streams ended bytes fin inputs) (turns : ∀ i ∈ inputs, i = .turn) :
    fin = ended ∧ bytes = [] := by
  induction h with
  | nil => exact ⟨rfl, rfl⟩
  | turn rest ih => exact ih (List.forall_mem_cons.mp turns).2
  | piece | ends => cases (List.forall_mem_cons.mp turns).1

theorem step_output (h : Apt c) (piece : List UInt8) : c.step (.output piece) = c.feed 0 piece := by
  obtain ⟨k, e⟩ := List.length_eq_one_iff.mp h.one
  simp only [Client.step, onLastLink, e]
  rfl

theorem step_outputEnd (h : Apt c) : c.step .outputEnd = c.endOutput 0 := by
  obtain ⟨k, e⟩ := List.length_eq_one_iff.mp h.one
  simp only [Client.step, onLastLink, e]
  rfl

theorem leads_run {lost : List Loss} (h : Streams ended bytes fin inputs)
    (sound : Sound c none lost) (attends : Attends ended c) :
    Attends fin (c.run inputs) ∧ Leads c bytes (c.heard 0 inputs) fin (c.run inputs) ∧
      (c.Rested ∨ (∃ i ∈ inputs, i ≠ .turn) → (c.run inputs).Rested) := by
  induction h generalizing c lost with
  | nil =>
    exact ⟨attends, (Alike.refl attends.apt).leads fun _ _ _ => rfl, fun h => h.resolve_right nofun⟩
  | turn rest ih =>
    obtain ⟨sound₁, -⟩ := invariant_true.step (i := .turn) trivial trivial sound trivial
    obtain ⟨attends₁, leads₁, rested₁⟩ := leads_turn sound attends
    obtain ⟨attends₂, leads₂, rested₂⟩ := ih sound₁ attends₁
    refine ⟨attends₂, leads₁.trans leads₂ rest.still, fun h => rested₂ ?_⟩
    rcases h with rested | ⟨i, mem, other⟩
    · exact .inl (rested₁ rested)
    · rcases List.mem_cons.mp mem with rfl | mem
      · exact absurd rfl other
      · exact .inr ⟨i, mem, other⟩
  | @piece fin bytes piece inputs some rest ih =>
    obtain ⟨sound₁, -⟩ := invariant_true.step (i := .output piece) trivial trivial sound trivial
    obtain ⟨attends₁, leads₁, rested₁⟩ := leads_feed false attends piece
    rw [← step_output attends.apt] at attends₁ leads₁ rested₁
    obtain ⟨attends₂, leads₂, rested₂⟩ := ih sound₁ attends₁
    exact ⟨attends₂, leads₁.trans leads₂ nofun, fun _ => rested₂ (.inl rested₁)⟩
  | ends rest ih =>
    obtain ⟨sound₁, -⟩ := invariant_true.step (i := .outputEnd) trivial trivial sound trivial
    obtain ⟨attends₁, leads₁, rested₁⟩ := leads_endOutput false attends
    rw [← step_outputEnd attends.apt] at attends₁ leads₁ rested₁
    obtain ⟨attends₂, leads₂, rested₂⟩ := ih sound₁ attends₁
    exact ⟨attends₂, leads₁.trans leads₂ nofun, fun _ => rested₂ (.inl rested₁)⟩

theorem run_turns (idle : c.ready = []) (turns : ∀ i ∈ inputs, i = .turn) :
    c.run inputs = c ∧ c.heard 0 inputs = [] := by
  induction inputs with
  | nil => exact ⟨rfl, rfl⟩
  | cons i inputs ih =>
    obtain ⟨rfl, rest⟩ := List.forall_mem_cons.mp turns
    have still : c.step .turn = c := by rw [Client.step, turn, idle]
    obtain ⟨stays, silent⟩ := ih rest
    rw [run_cons, heard, still, stays, silent]
    exact ⟨rfl, by simp [received, idle]⟩

/-! ## Calm connections -/

/-- The call has ended, or waits for an answer and sends nothing afterwards. -/
def CallPhase.isQuiet : CallPhase → Bool
  | .done _ => true
  | .awaiting _ _ [] => true
  | _ => false

/-- A listener waits for what arrives from a process that is still there, and nothing else goes
on. -/
structure Calm (c : Client) : Prop where
  idle : c.ready = []
  quiet : ∀ k ∈ c.calls, k.phase.isQuiet
  listens : (c.link 0).listener.phase = .waiting
  alive : (c.process 0).exitCode = none
  goes : (c.process 0).output.ended = false

/-- Where nobody can go on nobody was told anything. -/
theorem untold_of_idle {lost : List Loss} (sound : Sound c none lost) (idle : c.ready = [])
    (t : Task) : c.told t = none := by
  rw [← Option.not_isSome_iff_eq_none]
  intro told
  have mem := sound.queue.queued t told
  rw [idle] at mem
  cases mem

theorem signal_of_idle {lost : List Loss} (sound : Sound c none lost) (idle : c.ready = [])
    {n : Nat} {k : Call} (here : c.calls[n]? = some k) : k.signal = none := by
  rw [← untold_of_idle sound idle (.call n), Client.told, standing_of_call here]
  rfl

section Calmness

variable {lost : List Loss} (h : Calm c) (sound : Sound c none lost)

include h sound

/-- The calls of a calm connection are quiet. -/
theorem Calm.call (mere : Mere c none) {n : Nat} {k : Call} (here : c.calls[n]? = some k) :
    (∃ o, k = ⟨.done o, none⟩) ∨ ∃ id, k = ⟨.awaiting 0 id [], none⟩ := by
  have quiet := h.quiet k (List.mem_of_getElem? here)
  have standing := standing_of_call here
  have untold := signal_of_idle sound h.idle here
  obtain ⟨phase, signal⟩ := k
  obtain rfl : signal = none := untold
  cases phase with
  | done o => exact .inl ⟨o, rfl⟩
  | awaiting l id rest =>
    cases rest with
    | cons => cases quiet
    | nil =>
      have expects : (c.role (.call n)).expects = some (l, id) := by
        rw [Client.role, standing]
        rfl
      obtain ⟨pos, known⟩ := sound.requests.known (.call n) l id expects
      obtain rfl : l = 0 := by
        by_contra other
        rw [link_of_le (by rw [mere.links]; omega)] at known
        exact absurd pos (Nat.not_lt.mpr known)
      exact .inr ⟨id, rfl⟩
  | _ => cases quiet

theorem Calm.attends (mere : Mere c none) : Attends false c := by
  refine ⟨⟨mere.links, mere.attempts, mere.observed, fun k mem => ?_, fun p mem => ?_,
    untold_of_idle sound h.idle (.drain 0)⟩, ?_⟩
  · obtain ⟨n, here⟩ := List.getElem?_of_mem mem
    rcases h.call sound mere here with ⟨o, rfl⟩ | ⟨id, rfl⟩
    · exact .done o
    · exact .waits id
  · obtain ⟨n, e, expects⟩ := sound.requests.inFlight mere mem
    cases here : c.calls[n]? with
    | none => simp [InFlight, Client.role, standing, here, Standing.absent, Role.idle] at expects
    | some k =>
      rw [InFlight, Client.role, standing_of_call here] at expects
      rcases h.call sound mere here with ⟨o, rfl⟩ | ⟨id, rfl⟩
      · cases expects
      · obtain rfl : id = p.1 := by simpa [Call.standing, CallPhase.role] using expects
        exact ⟨n, e, here⟩
  · refine .on none (.inl rfl) ?_ h.alive h.goes
    have signal : (c.link 0).listener.signal = none := untold_of_idle sound h.idle (.listener 0)
    rw [← h.listens, ← signal]

end Calmness

/-! ## Two runs -/

/-- Nobody can tell two runs from each other, apart from the text for a line that is too long. -/
structure Indistinct (c : Client) (first second : List Input) : Prop where
  heard : c.heard 0 first = c.heard 0 second
  shown : (c.run first).history.filterMap Output.shown =
    (c.run second).history.filterMap Output.shown
  outcomes : ∀ n, ((c.run first).callOutcome? n).map Outcome.merged =
    ((c.run second).callOutcome? n).map Outcome.merged
  closed : ((c.run first).link 0).isClosed = ((c.run second).link 0).isClosed

theorem isClosed_eq (k : Link) : k.isClosed =
    (k.closed || k.superseded || k.prospect.listener = .done) := by
  rw [Link.isClosed]
  cases e : k.listener.phase <;> simp [Link.prospect, e, WatcherPhase.settled]

/-- A call that was told nothing has ended if its end is to be seen. -/
theorem callOutcome_merged {n : Nat} (untold : ∀ k, c.calls[n]? = some k → k.signal = none) :
    (c.callOutcome? n).map Outcome.merged = (c.calls.map Call.settled)[n]?.bind fun k =>
      match k.phase with
      | .done o => some o
      | _ => none := by
  rw [callOutcome?, List.getElem?_map]
  cases here : c.calls[n]? with
  | none => rfl
  | some k =>
    obtain ⟨phase, signal⟩ := k
    obtain rfl : signal = none := untold _ here
    cases phase with
    | awaiting l id rest => cases rest <;> rfl
    | _ => rfl

/-- When all turns are over, what is to come has come. -/
theorem Attends.finished {lost : List Loss} (h : Attends ended c) (rested : c.Rested)
    (sound : Sound c none lost) (idle : c.ready = []) :
    c.upshot [] ended = c ∧ c.yet [] ended = [] := by
  have untold : (c.link 0).listener.signal = none := untold_of_idle sound idle (.listener 0)
  cases h.stands with
  | off off => exact ⟨upshot_unheard off, yet_unheard off⟩
  | on s mild waits alive goes =>
    rw [← goes]
    exact ⟨rested.upshot untold, rested.yet untold⟩

variable {first second : List Input} {name : String} {policy : Policy} {observed : Bool}
  {before : List Input}

theorem Leads.indistinct {lost lost' : List Loss}
    (one : Leads c bytes (c.heard 0 first) ended (c.run first))
    (other : Leads c bytes (c.heard 0 second) ended (c.run second))
    (attends : Attends ended (c.run first)) (attends' : Attends ended (c.run second))
    (rested : (c.run first).Rested) (rested' : (c.run second).Rested)
    (sound : Sound (c.run first) none lost) (sound' : Sound (c.run second) none lost')
    (idle : (c.run first).ready = []) (idle' : (c.run second).ready = []) :
    Indistinct c first second := by
  obtain ⟨upshot, yet⟩ := attends.finished rested sound idle
  obtain ⟨upshot', yet'⟩ := attends'.finished rested' sound' idle'
  have alike : Alike (c.run first) (c.run second) := by
    have goes := one.alike [] ended fun e => ⟨rfl, e⟩
    have goes' := other.alike [] ended fun e => ⟨rfl, e⟩
    rw [upshot] at goes
    rw [upshot'] at goes'
    exact goes.symm.trans goes'
  refine ⟨?_, congrArg Scene.outputs alike.same, fun n => ?_, ?_⟩
  · have goes := one.heard [] ended fun e => ⟨rfl, e⟩
    have goes' := other.heard [] ended fun e => ⟨rfl, e⟩
    simpa [yet, yet'] using goes.symm.trans goes'
  · rw [callOutcome_merged fun _ => signal_of_idle sound idle,
      callOutcome_merged fun _ => signal_of_idle sound' idle']
    exact congrArg (fun s : Scene => s.calls[n]?.bind _) alike.same
  · rw [isClosed_eq, isClosed_eq, alike.prospect, alike.closed, alike.superseded]

/-- In what pieces a stream arrives does not matter. -/
theorem pieces_indistinct (fits : ∀ i ∈ before, i.Fits (ofProcess name policy observed))
    (calm : Calm ((ofProcess name policy observed).run before))
    (one : Streams false bytes ended first) (other : Streams false bytes ended second)
    (idle : (((ofProcess name policy observed).run before).run first).ready = [])
    (idle' : (((ofProcess name policy observed).run before).run second).ready = []) :
    Indistinct ((ofProcess name policy observed).run before) first second := by
  obtain ⟨sound, mere⟩ := invariant_mere.run throughout_always fits sound_ofProcess mere_ofProcess
  generalize (ofProcess name policy observed).run before = c at *
  have attends := calm.attends sound mere
  by_cases turns : ∀ i ∈ first, i = .turn
  · obtain ⟨rfl, rfl⟩ := one.arrives turns
    obtain ⟨stays, silent⟩ := run_turns calm.idle turns
    obtain ⟨stays', silent'⟩ := run_turns calm.idle (other.turns rfl rfl)
    exact ⟨by rw [silent, silent'], by rw [stays, stays'], fun n => by rw [stays, stays'],
      by rw [stays, stays']⟩
  · have turns' : ¬ ∀ i ∈ second, i = .turn := fun turns' => by
      obtain ⟨rfl, rfl⟩ := other.arrives turns'
      exact turns (one.turns rfl rfl)
    obtain ⟨attends₁, leads₁, rested₁⟩ := leads_run one sound attends
    obtain ⟨attends₂, leads₂, rested₂⟩ := leads_run other sound attends
    obtain ⟨sound₁, -⟩ := invariant_true.run throughout_always one.fits sound trivial
    obtain ⟨sound₂, -⟩ := invariant_true.run throughout_always other.fits sound trivial
    exact leads₁.indistinct leads₂ attends₁ attends₂ (rested₁ (.inr (by simpa using turns)))
      (rested₂ (.inr (by simpa using turns'))) sound₁ sound₂ idle idle'

/-- The beginning of a header, up to a carriage return. -/
def headerPart : List UInt8 := Text.Utf8.encode "Content-Length: 22\r"

/-- The rest of the header, and an answer up to the first byte of a character. -/
def bodyPart : List UInt8 :=
  Text.Utf8.encode "\n\r\n\x7b\"id\":1,\"result\":\"" ++ [0xC3]

/-- The rest of the answer, and a header that tells no length. -/
def lastPart : List UInt8 :=
  0xA9 :: Text.Utf8.encode "\"\x7dContent-Length: ?\r\n\r\n"

/-- An answer and a broken header, whole and in three pieces. -/
theorem pieces_indistinct_waiting :
    let c := (ofProcess "lsp" default true).run waiting
    let whole := [.output (headerPart ++ (bodyPart ++ lastPart)), .turn, .outputEnd, .turn]
    let pieces := [.output headerPart, .turn, .output bodyPart, .turn, .output lastPart,
      .outputEnd, .turn, .turn]
    Indistinct c whole pieces ∧
      (c.run pieces).callOutcome? 1 = some (.value (.str "é")) ∧
      ((c.run pieces).link 0).isClosed := by
  intro c whole pieces
  have one : Streams false (headerPart ++ (bodyPart ++ (lastPart ++ []))) true whole := by
    have all : Streams false (headerPart ++ (bodyPart ++ lastPart) ++ []) true whole :=
      .piece (by decide +kernel) (.turn (.ends (.turn (.nil true))))
    simpa using all
  have other : Streams false (headerPart ++ (bodyPart ++ (lastPart ++ []))) true pieces :=
    .piece (by decide +kernel) (.turn (.piece (by decide +kernel) (.turn (.piece (by decide +kernel)
      (.ends (.turn (.turn (.nil true))))))))
  have calm : Calm c := ⟨by decide +kernel, by decide +kernel, by decide +kernel, by decide +kernel,
    by decide +kernel⟩
  exact ⟨pieces_indistinct (by decide +kernel) calm one other (by decide +kernel)
    (by decide +kernel), by decide +kernel, by decide +kernel⟩

end LspGateway.Client
