import LspGateway.Text.CaseTable

/-! # Lower case

Names are compared after lowering every letter. One letter lowers to two
characters, and a sigma at the end of a word has a form of its own; every other
character lowers by the table of capitals. Where case does not matter at all, letters
that differ in nothing else count as one.
-/

namespace LspGateway.Text

private def within (table : List (Nat × Nat)) (n : Nat) : Bool :=
  table.any fun (a, b) => a ≤ n && n ≤ b

/-- Skipped when looking for the letter next to a sigma. -/
def isCaseIgnorable (c : Char) : Bool := within CaseTable.ignorable c.toNat

/-- A letter with case. -/
def isCased (c : Char) : Bool :=
  if c.toNat < 128 then c.isAlpha else within CaseTable.cased c.toNat

/-- The small letter of a capital that has a single one; other characters stay. -/
def lowerChar (c : Char) : Char :=
  if c.toNat < 128 then c.toLower
  else
    match CaseTable.capitals.find? fun (a, b, step, _) =>
        a ≤ c.toNat && c.toNat ≤ b && (c.toNat - a) % step == 0 with
    | some (_, _, _, d) => Char.ofNat (c.toNat + d).toNat
    | none => c

private def nextIsCased (cs : List Char) : Bool :=
  match cs.dropWhile isCaseIgnorable with
  | [] => false
  | c :: _ => isCased c

/-- Lowers a text; `before` holds the characters already passed, last one first. -/
def lowerAux (before : List Char) : List Char → List Char
  | [] => []
  | c :: cs =>
    let low :=
      if c = 'Σ' then
        if nextIsCased before && !nextIsCased cs then ['ς'] else ['σ']
      else if c = 'İ' then ['i', Char.ofNat 0x307]
      else [lowerChar c]
    low ++ lowerAux (c :: before) cs

/-- The text in lower case. -/
def lower (s : String) : String := .ofList (lowerAux [] s.toList)

/-- The capitals of a small letter, where they are ASCII letters; other
characters stay. -/
def asciiUpperChar (c : Char) : List Char :=
  match c with
  | 'ß' => ['S', 'S']
  | 'ı' => ['I']
  | 'ſ' => ['S']
  | 'ﬀ' => ['F', 'F']
  | 'ﬁ' => ['F', 'I']
  | 'ﬂ' => ['F', 'L']
  | 'ﬃ' => ['F', 'F', 'I']
  | 'ﬄ' => ['F', 'F', 'L']
  | 'ﬅ' => ['S', 'T']
  | 'ﬆ' => ['S', 'T']
  | c => [c.toUpper]

/-- The text in upper case, as far as its capitals are ASCII letters. -/
def asciiUpper (s : String) : String := .ofList (s.toList.flatMap asciiUpperChar)

end LspGateway.Text

/-! ## Letters that differ in case only

Every letter has a small form, and some small letters count as one letter although
neither is the capital of the other: the two sigmas, the long and the short s.
Characters are given by their code points, which need not be those of a character.
-/

namespace LspGateway.Text.Folding

/-- The small letter of a code point by the table of capitals. -/
def small (n : Nat) : Nat :=
  if n = 0x130 then 0x69
  else if n = 0x3A3 then 0x3C3
  else
    match CaseTable.capitals.find? fun (a, b, step, _) => a ≤ n && n ≤ b && (n - a) % step == 0 with
    | some (_, _, _, d) => (n + d).toNat
    | none => n

/-- The small letter of an ASCII capital. -/
def smallAscii (n : Nat) : Nat := if 65 ≤ n && n ≤ 90 then n + 32 else n

/-- The capitals of a small letter. -/
def capitals (n : Nat) : List Nat :=
  let regular := CaseTable.capitals.filterMap fun (a, b, step, d) =>
    let c := (n - d : Int).toNat
    if a ≤ c && c ≤ b && (c - a) % step == 0 && c ≠ n then some c else none
  if n = 0x69 then 0x130 :: regular else if n = 0x3C3 then 0x3A3 :: regular else regular

/-- Small letters that count as one letter. -/
def classes : List (List Nat) := [
  [0x69, 0x131], [0x73, 0x17F], [0xB5, 0x3BC], [0x345, 0x3B9, 0x1FBE], [0x390, 0x1FD3],
  [0x3B0, 0x1FE3], [0x3B2, 0x3D0], [0x3B5, 0x3F5], [0x3B8, 0x3D1], [0x3BA, 0x3F0],
  [0x3C0, 0x3D6], [0x3C1, 0x3F1], [0x3C2, 0x3C3], [0x3C6, 0x3D5], [0x432, 0x1C80],
  [0x434, 0x1C81], [0x43E, 0x1C82], [0x441, 0x1C83], [0x442, 0x1C84, 0x1C85],
  [0x44A, 0x1C86], [0x463, 0x1C87], [0x1C88, 0xA64B], [0x1E61, 0x1E9B], [0xFB05, 0xFB06]]

/-- A small letter and those that count as the same letter. -/
def equals (n : Nat) : List Nat := (classes.find? fun c => c.contains n).getD [n]

/-- Letters whose capital is not the letter that they are the small form of, and the
first character of their capital form. -/
def otherCapitals : List (Nat × Nat) := [
  (0x69, 0x49), (0xB5, 0x39C), (0xDF, 0x53), (0x131, 0x49), (0x149, 0x2BC), (0x17F, 0x53),
  (0x1C5, 0x1C4), (0x1C8, 0x1C7), (0x1CB, 0x1CA), (0x1F0, 0x4A), (0x1F2, 0x1F1), (0x345, 0x399),
  (0x390, 0x399), (0x3B0, 0x3A5), (0x3C2, 0x3A3), (0x3D0, 0x392), (0x3D1, 0x398), (0x3D5, 0x3A6),
  (0x3D6, 0x3A0), (0x3F0, 0x39A), (0x3F1, 0x3A1), (0x3F5, 0x395), (0x587, 0x535), (0x1C80, 0x412),
  (0x1C81, 0x414), (0x1C82, 0x41E), (0x1C83, 0x421), (0x1C84, 0x422), (0x1C85, 0x422),
  (0x1C86, 0x42A), (0x1C87, 0x462), (0x1C88, 0xA64A), (0x1E96, 0x48), (0x1E97, 0x54),
  (0x1E98, 0x57), (0x1E99, 0x59), (0x1E9A, 0x41), (0x1E9B, 0x1E60), (0x1F50, 0x3A5),
  (0x1F52, 0x3A5), (0x1F54, 0x3A5), (0x1F56, 0x3A5), (0x1F80, 0x1F08), (0x1F81, 0x1F09),
  (0x1F82, 0x1F0A), (0x1F83, 0x1F0B), (0x1F84, 0x1F0C), (0x1F85, 0x1F0D), (0x1F86, 0x1F0E),
  (0x1F87, 0x1F0F), (0x1F88, 0x1F08), (0x1F89, 0x1F09), (0x1F8A, 0x1F0A), (0x1F8B, 0x1F0B),
  (0x1F8C, 0x1F0C), (0x1F8D, 0x1F0D), (0x1F8E, 0x1F0E), (0x1F8F, 0x1F0F), (0x1F90, 0x1F28),
  (0x1F91, 0x1F29), (0x1F92, 0x1F2A), (0x1F93, 0x1F2B), (0x1F94, 0x1F2C), (0x1F95, 0x1F2D),
  (0x1F96, 0x1F2E), (0x1F97, 0x1F2F), (0x1F98, 0x1F28), (0x1F99, 0x1F29), (0x1F9A, 0x1F2A),
  (0x1F9B, 0x1F2B), (0x1F9C, 0x1F2C), (0x1F9D, 0x1F2D), (0x1F9E, 0x1F2E), (0x1F9F, 0x1F2F),
  (0x1FA0, 0x1F68), (0x1FA1, 0x1F69), (0x1FA2, 0x1F6A), (0x1FA3, 0x1F6B), (0x1FA4, 0x1F6C),
  (0x1FA5, 0x1F6D), (0x1FA6, 0x1F6E), (0x1FA7, 0x1F6F), (0x1FA8, 0x1F68), (0x1FA9, 0x1F69),
  (0x1FAA, 0x1F6A), (0x1FAB, 0x1F6B), (0x1FAC, 0x1F6C), (0x1FAD, 0x1F6D), (0x1FAE, 0x1F6E),
  (0x1FAF, 0x1F6F), (0x1FB2, 0x1FBA), (0x1FB3, 0x391), (0x1FB4, 0x386), (0x1FB6, 0x391),
  (0x1FB7, 0x391), (0x1FBC, 0x391), (0x1FBE, 0x399), (0x1FC2, 0x1FCA), (0x1FC3, 0x397),
  (0x1FC4, 0x389), (0x1FC6, 0x397), (0x1FC7, 0x397), (0x1FCC, 0x397), (0x1FD2, 0x399),
  (0x1FD3, 0x399), (0x1FD6, 0x399), (0x1FD7, 0x399), (0x1FE2, 0x3A5), (0x1FE3, 0x3A5),
  (0x1FE4, 0x3A1), (0x1FE6, 0x3A5), (0x1FE7, 0x3A5), (0x1FF2, 0x1FFA), (0x1FF3, 0x3A9),
  (0x1FF4, 0x38F), (0x1FF6, 0x3A9), (0x1FF7, 0x3A9), (0x1FFC, 0x3A9), (0xFB00, 0x46),
  (0xFB01, 0x46), (0xFB02, 0x46), (0xFB03, 0x46), (0xFB04, 0x46), (0xFB05, 0x53), (0xFB06, 0x53),
  (0xFB13, 0x544), (0xFB14, 0x544), (0xFB15, 0x544), (0xFB16, 0x54E), (0xFB17, 0x544)]

/-- The capital of a small letter, or the letter itself. -/
def capital (n : Nat) : Nat :=
  match otherCapitals.find? fun (a, _) => a == n with
  | some (_, c) => c
  | none => (capitals n).head?.getD n

/-- All code points whose letter is the same as a small letter. -/
def sources (n : Nat) : List Nat := (equals n).flatMap fun k => k :: capitals k

/-- The ASCII letters that are the same as a small one. -/
def asciiSources (n : Nat) : List Nat := if 97 ≤ n && n ≤ 122 then [n, n - 32] else [n]

end LspGateway.Text.Folding
