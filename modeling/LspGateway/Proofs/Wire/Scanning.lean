import LspGateway.Wire.Reader

/-! # Taking messages from a stream

A reader goes on line by line, and every line takes a byte. So the messages of a
stream are taken one after another until it has to wait, ends or breaks.
-/

namespace LspGateway.Wire
open LspGateway.Text

variable {buf line rest : List UInt8} {feed : Feed} {length : Option String}
  {reading : Reading} {m : Json}

/-! ## Lines -/

theorem eq_of_breakLine (h : breakLine buf = some (line, rest)) : buf = line ++ 10 :: rest := by
  induction buf generalizing line with
  | nil => simp [breakLine] at h
  | cons b buf ih =>
    rw [breakLine] at h
    split at h
    next e =>
      obtain ⟨rfl, rfl⟩ := by simpa using h
      rw [e, List.nil_append]
    next =>
      split at h
      next found =>
        obtain ⟨rfl, rfl⟩ := by simpa using h
        rw [ih found, List.cons_append]
      next => simp at h

/-- A line is not empty, and what is left follows it. -/
theorem eq_of_readLine (h : readLine feed = .line line rest) :
    feed.buffer = line ++ rest ∧ line ≠ [] := by
  rw [readLine] at h
  split at h
  next found =>
    split at h
    next => simp at h
    next =>
      obtain ⟨rfl, rfl⟩ := by simpa using h
      simp [eq_of_breakLine found]
  next =>
    split at h
    next => simp at h
    next =>
      split at h
      next => simp at h
      next =>
        split at h
        next => simp at h
        next full =>
          obtain ⟨rfl, rfl⟩ := by simpa using h
          simpa using full

theorem length_of_readLine (h : readLine feed = .line line rest) :
    rest.length < feed.buffer.length := by
  obtain ⟨e, full⟩ := eq_of_readLine h
  have := List.length_pos_iff.mpr full
  rw [e, List.length_append]
  omega

/-! ## Headers -/

/-- More steps than bytes change nothing. -/
theorem takeHeader_fuel : ∀ {fuel fuel' : Nat} {feed : Feed} {length : Option String},
    feed.buffer.length < fuel → feed.buffer.length < fuel' →
    takeHeader fuel feed length = takeHeader fuel' feed length
  | 0, _, _, _, h, _ => absurd h (Nat.not_lt_zero _)
  | _ + 1, 0, _, _, _, h => absurd h (Nat.not_lt_zero _)
  | fuel + 1, fuel' + 1, feed, length, h, h' => by
    rw [takeHeader, takeHeader]
    split
    next => rfl
    next => rfl
    next => rfl
    next line rest e =>
      have shorter := length_of_readLine e
      split
      next => rfl
      next =>
        split
        next => rfl
        next =>
          exact takeHeader_fuel (Nat.lt_of_lt_of_le shorter (Nat.le_of_lt_succ h))
            (Nat.lt_of_lt_of_le shorter (Nat.le_of_lt_succ h'))

/-- A header is taken line by line. -/
theorem next_header : next feed (.header length) =
    match readLine feed with
    | .unfinished => .unfinished (.header length) feed.buffer
    | .ended => .ended feed.buffer
    | .fault f rest => .fault f rest
    | .line line rest =>
      match Utf8.decode line with
      | .error e => .fault (.headerNotUtf8 e) rest
      | .ok cs =>
        if cs.all isBlank then takeAfterHeader ⟨rest, feed.ended⟩ length
        else next ⟨rest, feed.ended⟩ (.header ((lengthIn? cs).or length)) := by
  rw [next, takeHeader]
  cases e : readLine feed with
  | line line rest =>
    dsimp only
    cases Utf8.decode line with
    | error => rfl
    | ok cs =>
      dsimp only
      split
      next => rfl
      next => exact takeHeader_fuel (length_of_readLine e) (Nat.lt_succ_self _)
  | _ => rfl

/-! ## Messages -/

theorem length_of_takeBody {n : Nat} (h : takeBody feed n = .message m rest) :
    rest.length + n = feed.buffer.length := by
  rw [takeBody] at h
  split at h
  next fits =>
    split at h
    next => simp at h
    next =>
      obtain ⟨-, rfl⟩ := by simpa using h
      rw [List.length_drop]
      omega
    next => simp at h
  next =>
    split at h
    next => simp at h
    next => simp at h

/-- An empty body has no message. -/
theorem pos_of_takeBody {n : Nat} (h : takeBody feed n = .message m rest) : 0 < n := by
  rcases Nat.eq_zero_or_pos n with rfl | pos
  · have empty : readBody [] = .error (.bodyNotJson ⟨.expectingValue, 0, 1, 1⟩) := rfl
    simp [takeBody, empty] at h
  · exact pos

theorem length_of_takeAfterHeader (h : takeAfterHeader feed length = .message m rest) :
    rest.length < feed.buffer.length := by
  rw [takeAfterHeader] at h
  split at h
  next => simp at h
  next n _ =>
    split at h
    next => simp at h
    next =>
      split at h
      next => simp at h
      next =>
        have := length_of_takeBody h
        omega

theorem length_of_header (feed : Feed) (length : Option String)
    (h : next feed (.header length) = .message m rest) : rest.length < feed.buffer.length := by
  rw [next_header] at h
  split at h
  next => simp at h
  next => simp at h
  next => simp at h
  next line left e =>
    have shorter := length_of_readLine e
    split at h
    next => simp at h
    next cs _ =>
      split at h
      next => exact Nat.lt_trans (length_of_takeAfterHeader h) shorter
      next => exact Nat.lt_trans (length_of_header ⟨left, feed.ended⟩ _ h) shorter
termination_by feed.buffer.length

/-- Every message takes a byte. -/
theorem length_of_next (h : next feed reading = .message m rest) :
    rest.length < feed.buffer.length := by
  cases reading with
  | header length => exact length_of_header feed length h
  | body n =>
    have whole := length_of_takeBody h
    have some := pos_of_takeBody h
    omega

/-- The messages of a stream, one after another, and what it has after them. -/
def scan (feed : Feed) (reading : Reading) : List Json × Received :=
  match _e : next feed reading with
  | .message m rest =>
    let (ms, last) := scan ⟨rest, feed.ended⟩ .start
    (m :: ms, last)
  | other => ([], other)
termination_by feed.buffer.length
decreasing_by exact length_of_next ‹_›

theorem scan_message (h : next feed reading = .message m rest) :
    scan feed reading =
      (m :: (scan ⟨rest, feed.ended⟩ .start).1, (scan ⟨rest, feed.ended⟩ .start).2) := by
  rw [scan]
  split
  next h' =>
    obtain ⟨rfl, rfl⟩ := by simpa [h] using h'
    rfl
  next none => exact absurd h (none m rest)

theorem scan_last (h : ∀ m rest, next feed reading ≠ .message m rest) :
    scan feed reading = ([], next feed reading) := by
  rw [scan]
  split
  next m rest e => exact absurd e (h m rest)
  next => rfl

theorem scan_congr {feed' : Feed} {reading' : Reading} (h : next feed reading = next feed' reading')
    (ended : feed.ended = feed'.ended) : scan feed reading = scan feed' reading' := by
  cases e : next feed' reading' with
  | message m rest => rw [scan_message e, scan_message (h.trans e), ended]
  | _ => rw [scan_last (by rw [h, e]; nofun), scan_last (by rw [e]; nofun), h]

end LspGateway.Wire
