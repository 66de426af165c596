import LspGateway.Proofs.Json.Spelling
import LspGateway.Proofs.Text.Parts
import LspGateway.Proofs.Text.Utf8
import LspGateway.Proofs.Wire.Scanning
import LspGateway.Wire.Frame

/-! # Frames read back

What is written for messages one after another is read back as the messages. A body
is ASCII, and its header tells its length in bytes.
-/

namespace LspGateway.Wire
open LspGateway.Text LspGateway.Json

variable {cs : List Char} {n : Nat} {m : Json} {ms : List Json} {rest : List UInt8} {ended : Bool}

/-! ## One-byte characters -/

theorem encodeChar_of_isAscii {c : Char} (h : isAscii c = true) :
    Utf8.encodeChar c = [c.toNat.toUInt8] := by
  have small : c.toNat < 0x80 := by simpa [isAscii] using h
  simp [Utf8.encodeChar, small]

/-- The bytes of ASCII text are those of its characters. -/
theorem encode_of_isAscii (h : cs.all isAscii = true) : Utf8.encode (.ofList cs) = bytes cs := by
  rw [Utf8.encode, String.toList_ofList, bytes]
  induction cs with
  | nil => rfl
  | cons c cs ih =>
    simp only [List.all_cons, Bool.and_eq_true] at h
    simp [encodeChar_of_isAscii h.1, ih h.2]

theorem toNat_byte {c : Char} (h : isAscii c = true) : c.toNat.toUInt8.toNat = c.toNat := by
  have small : c.toNat < 0x80 := by simpa [isAscii] using h
  rw [Nat.toUInt8, UInt8.toNat_ofNat']
  omega

theorem pieces_bytes (h : cs.all isAscii = true) : Utf8.pieces (bytes cs) = cs.map .char := by
  induction cs with
  | nil => rfl
  | cons c cs ih =>
    simp only [List.all_cons, Bool.and_eq_true] at h
    have small : c.toNat < 0x80 := by simpa [isAscii] using h.1
    rw [bytes, List.map_cons, Utf8.pieces, toNat_byte h.1, if_pos small, Char.ofNat_toNat,
      List.map_cons, ← ih h.2, bytes]

/-- ASCII text is read back from its bytes. -/
theorem decode_bytes (h : cs.all isAscii = true) : Utf8.decode (bytes cs) = .ok cs := by
  rw [Utf8.decode, pieces_bytes h, Utf8.join_map_char]

@[simp] theorem length_bytes (cs : List Char) : (bytes cs).length = cs.length :=
  List.length_map _

@[simp] theorem bytes_append (cs ds : List Char) : bytes (cs ++ ds) = bytes cs ++ bytes ds :=
  List.map_append

/-! ## Lines of ASCII text -/

/-- A text without a line break, before one. -/
theorem breakLine_bytes (h : cs.all isAscii = true) (unbroken : '\n' ∉ cs) :
    breakLine (bytes cs ++ 10 :: rest) = some (bytes cs, rest) := by
  induction cs with
  | nil => rfl
  | cons c cs ih =>
    simp only [List.all_cons, Bool.and_eq_true] at h
    simp only [List.mem_cons, not_or] at unbroken
    have other : c.toNat.toUInt8 ≠ 10 := by
      intro e
      have code : c.toNat = 10 := by rw [← toNat_byte h.1, e]; rfl
      exact unbroken.1 (by rw [← Char.ofNat_toNat c, code])
    have found := ih h.2 unbroken.2
    rw [bytes] at found
    simp [bytes, breakLine, other, found]

theorem readLine_bytes (h : cs.all isAscii = true) (unbroken : '\n' ∉ cs)
    (short : cs.length ≤ maxLine) :
    readLine ⟨bytes cs ++ 10 :: rest, ended⟩ = .line (bytes (cs ++ ['\n'])) rest := by
  rw [readLine]
  simp only [breakLine_bytes h unbroken, length_bytes, Nat.not_lt.mpr short, if_false, bytes_append]
  rfl

/-! ## The header -/

theorem isBlank_of_mem_digits {c : Char} (h : c ∈ digits 10 n) : isBlank c = false := by
  obtain ⟨ds, hds, -, small⟩ := exists_digits n
  obtain ⟨d, hd, rfl⟩ := List.mem_map.mp (hds ▸ h)
  exact isBlank_digit d (small d hd)

/-- The line of a header that tells the length of a body. -/
def lengthLine (n : Nat) : List Char := "Content-Length: ".toList ++ (digits 10 n ++ ['\r'])

theorem bytes_header (n : Nat) :
    bytes (header n) = bytes (lengthLine n) ++ 10 :: (bytes ['\r'] ++ [10]) := by
  have ends : "\r\n\r\n".toList = ['\r'] ++ (['\n'] ++ (['\r'] ++ ['\n'])) := by decide
  have lines : header n = lengthLine n ++ (['\n'] ++ (['\r'] ++ ['\n'])) := by
    unfold header lengthLine
    rw [ends, List.append_assoc, List.append_assoc]
  rw [lines, bytes_append, bytes_append, bytes_append]
  rfl

theorem lengthIn?_lengthLine (n : Nat) :
    lengthIn? (lengthLine n ++ ['\n']) = some (.ofList (digits 10 n)) := by
  have line : lengthLine n ++ ['\n'] =
      "Content-Length".toList ++ ':' :: ([' '] ++ (digits 10 n ++ ['\r', '\n'])) := by
    have start : "Content-Length: ".toList = "Content-Length".toList ++ [':', ' '] := by decide
    unfold lengthLine
    rw [start]
    simp only [List.append_assoc, List.cons_append, List.nil_append]
  have name : lower (strip (.ofList "Content-Length".toList)) = lengthName := by
    decide +kernel
  rw [lengthIn?, line, splitFirst_append (by decide)]
  simp only [name, if_true]
  rw [strip_around [' '] ['\r', '\n'] digits_ne_nil (by decide) (by decide)
    fun c hc => isBlank_of_mem_digits hc]

theorem all_isAscii_lengthLine (n : Nat) : (lengthLine n).all isAscii = true := by
  have name : "Content-Length: ".toList.all isAscii = true := by decide
  unfold lengthLine
  rw [List.all_append, List.all_append, name, all_isAscii_digits]
  rfl

theorem notMem_lengthLine (n : Nat) : '\n' ∉ lengthLine n := by
  have name : '\n' ∉ "Content-Length: ".toList := by decide
  have number : '\n' ∉ digits 10 n := fun h => absurd (isBlank_of_mem_digits h) (by decide)
  unfold lengthLine
  simp only [List.mem_append, List.mem_singleton, not_or]
  exact ⟨name, number, by decide⟩

theorem length_lengthLine (h : (digits 10 n).length ≤ maxDigits) :
    (lengthLine n).length ≤ maxLine := by
  have name : "Content-Length: ".toList.length = 16 := by decide
  unfold lengthLine
  rw [List.length_append, List.length_append, name]
  simp only [maxDigits] at h
  simp only [maxLine, List.length_singleton]
  omega

/-- The header of a body is taken, and what follows it is the body. -/
theorem next_bytes_header (h : (digits 10 n).length ≤ maxDigits) :
    next ⟨bytes (header n) ++ rest, ended⟩ .start =
      takeAfterHeader ⟨rest, ended⟩ (some (.ofList (digits 10 n))) := by
  have told : (lengthLine n ++ ['\n']).all isBlank = false := by
    have letter : isBlank 'C' = false := by decide
    have start : "Content-Length: ".toList = 'C' :: "ontent-Length: ".toList := by decide
    unfold lengthLine
    rw [start, List.cons_append, List.cons_append, List.all_cons, letter, Bool.false_and]
  have ascii : (lengthLine n ++ ['\n']).all isAscii = true := by
    rw [List.all_append, all_isAscii_lengthLine]
    rfl
  rw [bytes_header, List.append_assoc, List.cons_append, List.append_assoc, List.singleton_append,
    Reading.start, next_header, readLine_bytes (all_isAscii_lengthLine n) (notMem_lengthLine n)
      (length_lengthLine h)]
  simp only [decode_bytes ascii, told, lengthIn?_lengthLine, Bool.false_eq_true, if_false]
  rw [next_header, readLine_bytes (by decide) (by decide) (by decide)]
  have ending : (['\r'] ++ ['\n']).all isBlank = true := by decide
  have decoded : Utf8.decode (bytes (['\r'] ++ ['\n'])) = .ok (['\r'] ++ ['\n']) :=
    decode_bytes (by decide)
  simp only [decoded, ending, if_true, Option.or_none]

/-! ## Messages -/

/-- A message that keeps the limits of a reader. -/
structure Sendable (m : Json) : Prop where
  /-- A null would stand for the end of the stream. -/
  something : m ≠ .null
  fits : fits maxDepth m = true
  short : (digits 10 m.write.length).length ≤ maxDigits

instance (m : Json) : Decidable (Sendable m) :=
  decidable_of_iff (m ≠ .null ∧ fits maxDepth m = true ∧
    (digits 10 m.write.length).length ≤ maxDigits)
    ⟨fun ⟨a, b, c⟩ => ⟨a, b, c⟩, fun ⟨a, b, c⟩ => ⟨a, b, c⟩⟩

theorem write_length_pos (h : fits maxDepth m = true) : 0 < m.write.length := by
  rw [write_eq_spell m 0]
  exact (opens_spell h).length_pos

theorem all_isAscii_write (m : Json) : m.write.all isAscii = true := by
  rw [write_eq_spell m 0]
  exact all_isAscii_spell .compact m 0

theorem readBody_write (h : fits maxDepth m = true) : readBody (bytes m.write) = .ok m := by
  rw [readBody, decode_bytes (all_isAscii_write m)]
  simp only [parse_write h]

/-- A message is read back from its frame, and what follows the frame is left. -/
theorem next_encode (h : Sendable m) :
    next ⟨encode m ++ rest, ended⟩ .start = .message m rest := by
  have size := write_length_pos h.fits
  rw [encode, frame, bytes_append, List.append_assoc, next_bytes_header h.short, takeAfterHeader]
  have told : lengthOf (some (.ofList (digits 10 m.write.length))) =
      .ok (m.write.length : Int) := by
    rw [lengthOf, readInt_digits h.short]
  have taken : (bytes m.write ++ rest).take m.write.length = bytes m.write :=
    List.take_left' (length_bytes _)
  have left : (bytes m.write ++ rest).drop m.write.length = rest :=
    List.drop_left' (length_bytes _)
  have whole : takeBody ⟨bytes m.write ++ rest, ended⟩ m.write.length = .message m rest := by
    rw [takeBody, if_pos (by simp), taken, left, readBody_write h.fits]
    have something := h.something
    cases m <;> first | rfl | exact absurd rfl something
  rw [told]
  simp only [Int.toNat_natCast, whole]
  rw [if_neg (by omega), if_neg (by omega)]

/-- What was written for messages is read back as the messages, and then the stream
ends. -/
theorem scan_encodeAll (h : ∀ m ∈ ms, Sendable m) :
    scan ⟨encodeAll ms, true⟩ .start = (ms, .ended []) := by
  induction ms with
  | nil =>
    have ends : next ⟨[], true⟩ .start = .ended [] := by decide
    rw [encodeAll, List.flatMap_nil, scan_last (by rw [ends]; nofun), ends]
  | cons m ms ih =>
    have frames : encodeAll (m :: ms) = encode m ++ encodeAll ms := List.flatMap_cons
    rw [frames, scan_message (next_encode (h m List.mem_cons_self)),
      ih fun m' hm => h m' (List.mem_cons_of_mem _ hm)]

/-- The bytes of a frame: a header that tells how many bytes the body has, and the body. -/
theorem encode_eq (m : Json) : encode m =
    bytes (header (Utf8.encode m.compact).length) ++ Utf8.encode m.compact := by
  rw [encode, frame, bytes_append, compact, encode_of_isAscii (all_isAscii_write m), length_bytes]

theorem lt_of_mem_body {b : UInt8} (h : b ∈ Utf8.encode m.compact) : b < 128 := by
  rw [compact, encode_of_isAscii (all_isAscii_write m)] at h
  obtain ⟨c, hc, rfl⟩ := List.mem_map.mp h
  have ascii := List.all_eq_true.mp (all_isAscii_write m) c hc
  rw [UInt8.lt_iff_toNat_lt, toNat_byte ascii]
  simpa [isAscii] using ascii

/-- Messages that are written one after another are read back as they were, every byte is
taken, and then the stream ends. The body of each is ASCII, and its header tells the number of
its bytes. -/
theorem messages_read_back (ms : List Json) (h : ∀ m ∈ ms, Sendable m) :
    scan ⟨encodeAll ms, true⟩ .start = (ms, .ended []) ∧
      ∀ m, encode m = bytes (header (Utf8.encode m.compact).length) ++ Utf8.encode m.compact ∧
        ∀ b ∈ Utf8.encode m.compact, b < 128 :=
  ⟨scan_encodeAll h, fun m => ⟨encode_eq m, fun _ hb => lt_of_mem_body hb⟩⟩

/-- Two messages, one of them with text beyond the sixteen-bit characters. -/
theorem two_messages_read_back :
    let ms : List Json := [
      .obj [("b", .arr [.null, .bool true, .int (-12), .arr []]),
        ("a\n", .str "\x00\\\"é😀"),
        ("", .obj [("x", .float (.finite false 5629499534213120 (-51)))])],
      .obj []]
    scan ⟨encodeAll ms, true⟩ .start = (ms, .ended []) :=
  (messages_read_back _ (by decide +kernel)).1

end LspGateway.Wire
