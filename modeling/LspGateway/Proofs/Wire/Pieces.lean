import LspGateway.Proofs.Wire.Scanning

/-! # Streams in pieces

Where bytes are missing, a reader that stops and goes on later takes what it would
have taken at once. So the messages of a stream do not depend on the pieces in which
it arrives. Only which of two texts reports a line that is too long does: whether the
end of the line has arrived by then.
-/

namespace LspGateway.Wire
open LspGateway.Text

variable {buf more line rest : List UInt8} {ended : Bool}

/-- A fault, with one text for every line that is too long. -/
def Fault.merged : Fault → Fault
  | .longLine => .endlessLine
  | f => f

/-! ## Lines -/

theorem breakLine_append_some (h : breakLine buf = some (line, rest)) :
    breakLine (buf ++ more) = some (line, rest ++ more) := by
  induction buf generalizing line with
  | nil => simp [breakLine] at h
  | cons b buf ih =>
    rw [breakLine] at h
    rw [List.cons_append, breakLine]
    split at h
    next e =>
      obtain ⟨rfl, rfl⟩ := by simpa using h
      simp [e]
    next e =>
      split at h
      next found =>
        obtain ⟨rfl, rfl⟩ := by simpa using h
        simp [e, ih found]
      next => simp at h

theorem breakLine_append_none (h : breakLine buf = none) :
    breakLine (buf ++ more) = (breakLine more).map fun p => (buf ++ p.1, p.2) := by
  induction buf with
  | nil => simp
  | cons b buf ih =>
    rw [breakLine] at h
    rw [List.cons_append, breakLine]
    split at h
    next => simp at h
    next e =>
      split at h
      next => simp at h
      next none =>
        rw [if_neg e, ih none]
        cases breakLine more <;> rfl

/-- What a stream has for someone who takes lines, when more bytes arrive. -/
inductive Line.Extends (more : List UInt8) : Line → Line → Prop
  | unfinished {after} : Line.Extends more .unfinished after
  | line {l rest} : Line.Extends more (.line l rest) (.line l (rest ++ more))
  | fault {f f' rest rest'} (same : f.merged = f'.merged) :
    Line.Extends more (.fault f rest) (.fault f' rest')

theorem readLine_append (buf more : List UInt8) (ended : Bool) :
    Line.Extends more (readLine ⟨buf, false⟩) (readLine ⟨buf ++ more, ended⟩) := by
  cases found : breakLine buf with
  | some p =>
    obtain ⟨line, rest⟩ := p
    by_cases long : maxLine < line.length
    · simp only [readLine, found, breakLine_append_some found, long, if_true]
      exact .fault rfl
    · simp only [readLine, found, breakLine_append_some found, long, if_false]
      exact .line
  | none =>
    by_cases long : maxLine < buf.length
    · have whole : maxLine < (buf ++ more).length := by rw [List.length_append]; omega
      have before : readLine ⟨buf, false⟩ = .fault .endlessLine [] := by
        simp [readLine, found, long]
      rw [before]
      cases next : breakLine more with
      | none =>
        have after : readLine ⟨buf ++ more, ended⟩ = .fault .endlessLine [] := by
          simp only [readLine, breakLine_append_none found, next, Option.map_none, whole, if_true]
        rw [after]
        exact .fault rfl
      | some p =>
        have within : maxLine < (buf ++ p.1).length := by rw [List.length_append]; omega
        have after : readLine ⟨buf ++ more, ended⟩ = .fault .longLine p.2 := by
          simp only [readLine, breakLine_append_none found, next, Option.map_some, within, if_true]
        rw [after]
        exact .fault rfl
    · have before : readLine ⟨buf, false⟩ = .unfinished := by
        simp [readLine, found, long]
      rw [before]
      exact .unfinished

/-! ## Messages -/

/-- What a stream has for someone who takes messages, when more bytes arrive. -/
inductive Received.Extends (more : List UInt8) (ended : Bool) : Received → Received → Prop
  | unfinished (r : Reading) (rest : List UInt8) :
    Received.Extends more ended (.unfinished r rest) (next ⟨rest ++ more, ended⟩ r)
  | message (m : Json) (rest : List UInt8) :
    Received.Extends more ended (.message m rest) (.message m (rest ++ more))
  | ends (rest : List UInt8) :
    Received.Extends more ended (.ended rest) (.ended (rest ++ more))
  | fault (f f' : Fault) (rest rest' : List UInt8) (same : f.merged = f'.merged) :
    Received.Extends more ended (.fault f rest) (.fault f' rest')

theorem takeBody_append (buf more : List UInt8) (ended : Bool) (n : Nat) :
    Received.Extends more ended (takeBody ⟨buf, false⟩ n) (takeBody ⟨buf ++ more, ended⟩ n) := by
  by_cases whole : n ≤ buf.length
  · have whole' : n ≤ (buf ++ more).length := by rw [List.length_append]; omega
    simp only [takeBody, whole, whole', if_true, List.take_append_of_le_length whole,
      List.drop_append_of_le_length whole]
    split
    next => exact .ends _
    next => exact .message _ _
    next => exact .fault _ _ _ _ rfl
  · have before : takeBody ⟨buf, false⟩ n = .unfinished (.body n) buf := by
      simp [takeBody, whole]
    rw [before]
    exact .unfinished _ _

theorem takeAfterHeader_append (buf more : List UInt8) (ended : Bool) (length : Option String) :
    Received.Extends more ended (takeAfterHeader ⟨buf, false⟩ length)
      (takeAfterHeader ⟨buf ++ more, ended⟩ length) := by
  unfold takeAfterHeader
  split
  next => exact .fault _ _ _ _ rfl
  next =>
    split
    next => exact .fault _ _ _ _ rfl
    next =>
      split
      next => exact .ends _
      next => exact takeBody_append buf more ended _

theorem next_header_append (buf more : List UInt8) (ended : Bool) (length : Option String) :
    Received.Extends more ended (next ⟨buf, false⟩ (.header length))
      (next ⟨buf ++ more, ended⟩ (.header length)) := by
  have line := readLine_append buf more ended
  have shorter {line rest} : readLine ⟨buf, false⟩ = .line line rest → rest.length < buf.length :=
    length_of_readLine
  rw [next_header]
  generalize readLine ⟨buf, false⟩ = before at line shorter
  generalize after : readLine ⟨buf ++ more, ended⟩ = l at line
  cases line with
  | unfinished => exact .unfinished _ _
  | fault same =>
    rw [next_header, after]
    exact .fault _ _ _ _ same
  | @line line rest =>
    have := shorter rfl
    rw [next_header, after]
    dsimp only
    split
    next => exact .fault _ _ _ _ rfl
    next =>
      split
      next => exact takeAfterHeader_append rest more ended length
      next => exact next_header_append rest more ended _
termination_by buf.length

/-- A reader that goes on with more bytes takes what it would have taken at once. -/
theorem next_append (buf more : List UInt8) (ended : Bool) (reading : Reading) :
    Received.Extends more ended (next ⟨buf, false⟩ reading)
      (next ⟨buf ++ more, ended⟩ reading) := by
  cases reading with
  | header length => exact next_header_append buf more ended length
  | body n => exact takeBody_append buf more ended n

/-! ## Waiting -/

theorem takeBody_unfinished {feed : Feed} {n : Nat} {r : Reading}
    (h : takeBody feed n = .unfinished r rest) :
    next ⟨rest, feed.ended⟩ r = .unfinished r rest := by
  have short := h
  rw [takeBody] at h
  split at h
  next =>
    split at h
    next => simp at h
    next => simp at h
    next => simp at h
  next =>
    split at h
    next => simp at h
    next =>
      obtain ⟨rfl, rfl⟩ := by simpa using h
      exact short

theorem takeAfterHeader_unfinished (feed : Feed) {length : Option String} {r : Reading}
    (h : takeAfterHeader feed length = .unfinished r rest) :
    next ⟨rest, feed.ended⟩ r = .unfinished r rest := by
  rw [takeAfterHeader] at h
  split at h
  next => simp at h
  next =>
    split at h
    next => simp at h
    next =>
      split at h
      next => simp at h
      next => exact takeBody_unfinished h

theorem next_header_unfinished (feed : Feed) (length : Option String) {r : Reading}
    (h : next feed (.header length) = .unfinished r rest) :
    next ⟨rest, feed.ended⟩ r = .unfinished r rest := by
  have short := h
  rw [next_header] at h
  split at h
  next =>
    obtain ⟨rfl, rfl⟩ := by simpa using h
    exact short
  next => simp at h
  next => simp at h
  next line left e =>
    have := length_of_readLine e
    split at h
    next => simp at h
    next =>
      split at h
      next => exact takeAfterHeader_unfinished ⟨left, feed.ended⟩ h
      next => exact next_header_unfinished ⟨left, feed.ended⟩ _ h
termination_by feed.buffer.length

/-- A reader that has to wait would have to wait again. -/
theorem next_unfinished {feed : Feed} {reading r : Reading}
    (h : next feed reading = .unfinished r rest) :
    next ⟨rest, feed.ended⟩ r = .unfinished r rest := by
  cases reading with
  | header length => exact next_header_unfinished feed length h
  | body n => exact takeBody_unfinished h

/-- Who takes all messages has to wait in the end as well. -/
theorem scan_unfinished (feed : Feed) {reading r : Reading}
    (h : (scan feed reading).2 = .unfinished r rest) :
    next ⟨rest, feed.ended⟩ r = .unfinished r rest := by
  cases e : next feed reading with
  | message m left =>
    have := length_of_next e
    rw [scan_message e] at h
    exact scan_unfinished ⟨left, feed.ended⟩ h
  | unfinished r' rest' =>
    rw [scan_last (by rw [e]; nofun), e] at h
    obtain ⟨rfl, rfl⟩ := by simpa using h
    exact next_unfinished e
  | ended => rw [scan_last (by rw [e]; nofun), e] at h; cases h
  | fault => rw [scan_last (by rw [e]; nofun), e] at h; cases h
termination_by feed.buffer.length

/-! ## All messages -/

/-- The messages before more bytes arrive are the first ones. -/
inductive Scanned (more : List UInt8) (ended : Bool) :
    List Json × Received → List Json × Received → Prop
  | unfinished (ms : List Json) (r : Reading) (rest : List UInt8) :
    Scanned more ended (ms, .unfinished r rest)
      (ms ++ (scan ⟨rest ++ more, ended⟩ r).1, (scan ⟨rest ++ more, ended⟩ r).2)
  | ends (ms : List Json) (rest : List UInt8) :
    Scanned more ended (ms, .ended rest) (ms, .ended (rest ++ more))
  | fault (ms : List Json) (f f' : Fault) (rest rest' : List UInt8)
    (same : f.merged = f'.merged) :
    Scanned more ended (ms, .fault f rest) (ms, .fault f' rest')

theorem Scanned.cons {a b : List Json × Received} {m : Json} (h : Scanned more ended a b) :
    Scanned more ended (m :: a.1, a.2) (m :: b.1, b.2) := by
  cases h with
  | unfinished ms r rest => exact .unfinished (m :: ms) r rest
  | ends ms rest => exact .ends (m :: ms) rest
  | fault ms f f' rest rest' same => exact .fault (m :: ms) f f' rest rest' same

/-- A stream that is read in two pieces has the messages of the whole stream. -/
theorem scan_append (buf more : List UInt8) (ended : Bool) (reading : Reading) :
    Scanned more ended (scan ⟨buf, false⟩ reading) (scan ⟨buf ++ more, ended⟩ reading) := by
  have extends' := next_append buf more ended reading
  generalize before : next ⟨buf, false⟩ reading = b at extends'
  generalize after : next ⟨buf ++ more, ended⟩ reading = a at extends'
  cases extends' with
  | unfinished r rest =>
    rw [scan_last (by rw [before]; nofun), before, scan_congr after rfl]
    exact .unfinished [] r rest
  | message m rest =>
    have := length_of_next before
    rw [scan_message before, scan_message after]
    exact (scan_append rest more ended .start).cons
  | ends rest =>
    rw [scan_last (by rw [before]; nofun), scan_last (by rw [after]; nofun), before, after]
    exact .ends [] rest
  | fault f f' rest rest' same =>
    rw [scan_last (by rw [before]; nofun), scan_last (by rw [after]; nofun), before, after]
    exact .fault [] f f' rest rest' same
termination_by buf.length

end LspGateway.Wire
