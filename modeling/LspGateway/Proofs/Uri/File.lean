import Mathlib.Data.List.Infix
import Mathlib.Data.List.TakeWhile
import LspGateway.Proofs.Path.Normal
import LspGateway.Proofs.Text.Utf8
import LspGateway.Uri.File

/-! # File URIs and the paths they name

A character of a text may stand for itself in a URI or be written by its bytes, each as a percent
sign and two hexadecimal digits. Whichever way it is chosen for each character, decoding gives the
text back. A file URI without a host names the path that follows its two slashes, up to a question
mark or a number sign, decoded and in normal form. So a path from the root is read back from every
URI it may be written in, and a document has one canonical URI.
-/

namespace LspGateway.Uri
open LspGateway.Text

variable {a b c : Char} {cs ds es fs run : List Char} {bs : List UInt8} {n x : Nat}
  {cwd e p q u v uri : String}

/-! ## Ways to write a text -/

/-- Bytes, each as a percent sign and two hexadecimal digits of either case. -/
inductive Escapes : List UInt8 → List Char → Prop
  | nil : Escapes [] []
  | byte {bs : List UInt8} {es : List Char} {a b : Char} {x y : Nat} (high : hexDigit? a = some x)
    (low : hexDigit? b = some y) (rest : Escapes bs es) :
    Escapes ((16 * x + y).toUInt8 :: bs) ('%' :: a :: b :: es)

/-- Characters that have a meaning of their own in a URI, or are dropped from it. -/
def isSpecial (c : Char) : Bool := c = '%' || c = '?' || c = '#' || isDropped c

/-- A text as it may be written in a URI: each character stands for itself or is written by its
bytes, and those that are special are written by their bytes. -/
inductive Spells : List Char → List Char → Prop
  | nil : Spells [] []
  | plain {c : Char} {cs es : List Char} (plain : isSpecial c = false) (rest : Spells cs es) :
    Spells (c :: cs) (c :: es)
  | escaped {c : Char} {cs ds es : List Char} (escapes : Escapes (Utf8.encodeChar c) ds)
    (rest : Spells cs es) : Spells (c :: cs) (ds ++ es)

theorem Spells.append (h : Spells cs es) (h' : Spells ds fs) : Spells (cs ++ ds) (es ++ fs) := by
  induction h with
  | nil => exact h'
  | plain plain _ ih => exact .plain plain ih
  | escaped escapes _ ih =>
    rw [List.cons_append, List.append_assoc]
    exact .escaped escapes ih

theorem Escapes.notMem (h : Escapes bs es) (other : c ≠ '%') (digit : hexDigit? c = none) :
    c ∉ es := by
  induction h with
  | nil => simp
  | byte high low _ ih =>
    simp only [List.mem_cons, not_or]
    refine ⟨other, ?_, ?_, ih⟩
    · rintro rfl
      simp [digit] at high
    · rintro rfl
      simp [digit] at low

/-- Nothing special but percent signs is left in what is written. -/
theorem Spells.notMem (h : Spells cs es) (special : isSpecial c = true) (other : c ≠ '%')
    (digit : hexDigit? c = none) : c ∉ es := by
  induction h with
  | nil => simp
  | plain plain _ ih =>
    simp only [List.mem_cons, not_or]
    refine ⟨?_, ih⟩
    rintro rfl
    simp [special] at plain
  | escaped escapes _ ih =>
    simp only [List.mem_append, not_or]
    exact ⟨escapes.notMem other digit, ih⟩

/-! ## Decoding -/

theorem percentBytes_cons (other : c ≠ '%') :
    percentBytes (c :: cs) = Utf8.encodeChar c ++ percentBytes cs := by
  rw [percentBytes]
  rintro _ _ _ rfl
  exact absurd rfl other

theorem percentBytes_escape {y : Nat} (high : hexDigit? a = some x) (low : hexDigit? b = some y) :
    percentBytes ('%' :: a :: b :: cs) = (16 * x + y).toUInt8 :: percentBytes cs := by
  rw [percentBytes, high, low]

theorem Escapes.percentBytes_append (h : Escapes bs es) :
    percentBytes (es ++ fs) = bs ++ percentBytes fs := by
  induction h with
  | nil => rfl
  | byte high low _ ih =>
    simp only [List.cons_append]
    rw [percentBytes_escape high low, ih]

theorem Spells.percentBytes_eq (h : Spells cs es) :
    percentBytes es = cs.flatMap Utf8.encodeChar := by
  induction h with
  | nil => rfl
  | plain plain _ ih =>
    rw [percentBytes_cons, ih, List.flatMap_cons]
    rintro rfl
    simp [isSpecial] at plain
  | escaped escapes _ ih => rw [escapes.percentBytes_append, ih, List.flatMap_cons]

theorem decodeLossy_flatMap (cs : List Char) :
    Utf8.decodeLossy (cs.flatMap Utf8.encodeChar) = cs := by
  rw [Utf8.decodeLossy, Utf8.pieces_flatMap, List.map_map]
  exact List.map_id cs

theorem toNat_lt_of_hexDigit? (digit : hexDigit? c = some x) : c.toNat < 128 := by
  unfold hexDigit? at digit
  simp only [Bool.and_eq_true, decide_eq_true_eq, Char.le_def, UInt32.le_iff_toNat_le] at digit
  change c.val.toNat < 128
  have nine : '9'.val.toNat = 57 := rfl
  have small : 'f'.val.toNat = 102 := rfl
  have capital : 'F'.val.toNat = 70 := rfl
  split at digit
  · omega
  · split at digit
    · omega
    · split at digit
      · omega
      · cases digit

theorem Escapes.ascii (h : Escapes bs es) : ∀ c ∈ es, c.toNat < 128 := by
  induction h with
  | nil => simp
  | byte high low _ ih =>
    simp only [List.mem_cons, forall_eq_or_imp]
    exact ⟨by decide, toNat_lt_of_hexDigit? high, toNat_lt_of_hexDigit? low, ih⟩

theorem decodeAux_append (ascii : ∀ c ∈ ds, c.toNat < 128) :
    decodeAux run (ds ++ es) = decodeAux (ds.reverse ++ run) es := by
  induction ds generalizing run with
  | nil => rfl
  | cons c ds ih =>
    simp only [List.mem_cons, forall_eq_or_imp] at ascii
    rw [List.cons_append, decodeAux, if_pos ascii.1, ih ascii.2]
    simp

/-- What was passed of a run is read together with what follows it in the run. -/
theorem Spells.decodeAux_eq (h : Spells ds fs) (h' : Spells cs es) :
    decodeAux fs.reverse es = ds ++ cs := by
  induction h' generalizing ds fs with
  | nil => rw [decodeAux, List.reverse_reverse, h.percentBytes_eq, decodeLossy_flatMap,
      List.append_nil]
  | @plain c cs es plain _ ih =>
    -- a character beyond ASCII ends the run, which is read at once
    have one : Spells [c] [c] := .plain plain .nil
    rw [decodeAux]
    split
    · have goes := ih (h.append one)
      rwa [List.reverse_append, List.append_assoc] at goes
    · have goes := ih .nil
      simp only [List.reverse_nil, List.nil_append] at goes
      rw [List.reverse_reverse, h.percentBytes_eq, decodeLossy_flatMap, goes]
  | @escaped c cs es' es escapes _ ih =>
    have one : Spells [c] (es' ++ []) := .escaped escapes .nil
    have goes := ih (h.append one)
    rw [List.append_nil, List.reverse_append, List.append_assoc] at goes
    rw [decodeAux_append escapes.ascii, goes]
    rfl

/-- However a text is written, it is read back. -/
theorem decode_spells (h : Spells cs es) : decode es = cs := Spells.nil.decodeAux_eq h

/-! ## Encoding -/

theorem hexDigit?_hexCapital : ∀ n < 16, hexDigit? (hexCapital n) = some n := by decide

theorem escapes_flatMap (bs : List UInt8) : Escapes bs (bs.flatMap percentByte) := by
  induction bs with
  | nil => exact .nil
  | cons b bs ih =>
    have lt : b.toNat < 256 := b.toNat_lt
    have byte : (16 * (b.toNat / 16) + b.toNat % 16).toUInt8 = b := by
      rw [Nat.div_add_mod]
      simp
    have escapes := Escapes.byte (hexDigit?_hexCapital (b.toNat / 16) (by omega))
      (hexDigit?_hexCapital (b.toNat % 16) (by omega)) ih
    rwa [byte] at escapes

theorem not_isSpecial_of_isPlain (plain : isPlain c = true) : isSpecial c = false := by
  cases special : isSpecial c with
  | false => rfl
  | true =>
    simp only [isSpecial, isDropped, Bool.or_eq_true, decide_eq_true_eq] at special
    rcases special with (((rfl | rfl) | rfl) | (rfl | rfl) | rfl) <;> exact absurd plain (by decide)

theorem spells_encode (cs : List Char) : Spells cs (encode cs) := by
  induction cs with
  | nil => exact .nil
  | cons c cs ih =>
    rw [encode, List.flatMap_cons, encodeChar]
    split
    · next plain => exact .plain (not_isSpecial_of_isPlain plain) ih
    · exact .escaped (escapes_flatMap _) ih

/-! ## Texts that decoding changes -/

/-- A percent sign is followed by two hexadecimal digits. -/
inductive HasEscape : List Char → Prop
  | here {a b : Char} {cs : List Char} (high : (hexDigit? a).isSome) (low : (hexDigit? b).isSome) :
    HasEscape ('%' :: a :: b :: cs)
  | there {c : Char} {cs : List Char} (later : HasEscape cs) : HasEscape (c :: cs)

namespace HasEscape

theorem append_right (h : HasEscape ds) (es : List Char) : HasEscape (ds ++ es) := by
  induction h with
  | here high low => exact .here high low
  | there _ ih => exact .there ih

theorem append_left (h : HasEscape es) (ds : List Char) : HasEscape (ds ++ es) := by
  induction ds with
  | nil => exact h
  | cons c ds ih => exact .there ih

/-- An escape does not reach beyond its digits. -/
theorem of_append_cons (h : HasEscape (ds ++ c :: es)) (large : ¬ c.toNat < 128) :
    HasEscape ds ∨ HasEscape es := by
  have other : c ≠ '%' := by
    rintro rfl
    exact large (by decide)
  have digit : ¬ (hexDigit? c).isSome := by
    intro some
    obtain ⟨x, digit⟩ := Option.isSome_iff_exists.mp some
    exact large (toNat_lt_of_hexDigit? digit)
  induction ds with
  | nil =>
    cases h with
    | here => exact absurd rfl other
    | there later => exact .inr later
  | cons d ds ih =>
    rw [List.cons_append] at h
    generalize same : ds ++ c :: es = rest at h
    cases h with
    | there later =>
      rw [same] at ih
      exact (ih later).imp .there id
    | here high low =>
      rcases ds with _ | ⟨a', _ | ⟨b', ds⟩⟩
      · obtain ⟨rfl, -⟩ := List.cons.inj same
        exact absurd high digit
      · obtain ⟨-, rfl, -⟩ : a' = _ ∧ c = _ ∧ _ := by simpa using same
        exact absurd low digit
      · obtain ⟨rfl, rfl, -⟩ : a' = _ ∧ b' = _ ∧ _ := by simpa using same
        exact .inl (.here high low)

end HasEscape

theorem percentBytes_of_not_hasEscape (free : ¬ HasEscape cs) :
    percentBytes cs = cs.flatMap Utf8.encodeChar := by
  fun_induction percentBytes cs with
  | case1 => rfl
  | case2 a b cs x y low high =>
    exact absurd (.here (by simp [high]) (by simp [low])) free
  | case3 a b cs _ ih =>
    rw [ih fun later => free (.there later)]
    rfl
  | case4 c cs _ ih =>
    rw [ih fun later => free (.there later)]
    rfl

/-! ### Lengths -/

theorem length_encodeChar (ascii : c.toNat < 128) : (Utf8.encodeChar c).length = 1 := by
  simp [Utf8.encodeChar, ascii]

/-- ASCII characters stand for as many bytes at most, and for fewer if they have an escape. -/
theorem length_percentBytes_le (ascii : ∀ c ∈ cs, c.toNat < 128) :
    (percentBytes cs).length ≤ cs.length ∧
      (HasEscape cs → (percentBytes cs).length < cs.length) := by
  fun_induction percentBytes cs with
  | case1 => exact ⟨Nat.le_refl _, fun escape => nomatch escape⟩
  | case2 a b cs x y low high ih =>
    obtain ⟨rest, -⟩ := ih fun c mem => ascii c (by simp [mem])
    simp only [List.length_cons]
    exact ⟨by omega, fun _ => by omega⟩
  | case3 a b cs other ih =>
    obtain ⟨rest, fewer⟩ := ih fun c mem => ascii c (List.mem_cons_of_mem _ mem)
    simp only [List.length_cons] at rest fewer ⊢
    refine ⟨by omega, fun escape => ?_⟩
    cases escape with
    | here high low =>
      obtain ⟨x, high⟩ := Option.isSome_iff_exists.mp high
      obtain ⟨y, low⟩ := Option.isSome_iff_exists.mp low
      exact absurd low (other x y high)
    | there later =>
      have less := fewer later
      omega
  | case4 c cs other ih =>
    obtain ⟨rest, fewer⟩ := ih fun c mem => ascii c (List.mem_cons_of_mem _ mem)
    rw [List.length_append, length_encodeChar (ascii c List.mem_cons_self), List.length_cons]
    refine ⟨by omega, fun escape => ?_⟩
    cases escape with
    | here => exact absurd rfl (other _ _ _ rfl)
    | there later =>
      have less := fewer later
      omega

theorem length_decodeLossy_le (bs : List UInt8) : (Utf8.decodeLossy bs).length ≤ bs.length := by
  rw [Utf8.decodeLossy, List.length_map]
  fun_induction Utf8.pieces bs <;> simp only [List.length_cons, List.length_nil] at * <;> omega

/-- A run of ASCII characters is read as a text that is no longer, and shorter if it has an
escape. -/
theorem length_run_le (ds : List Char) (ascii : ∀ c ∈ ds, c.toNat < 128) :
    (Utf8.decodeLossy (percentBytes ds)).length ≤ ds.length ∧
      (HasEscape ds → (Utf8.decodeLossy (percentBytes ds)).length < ds.length) := by
  have read := length_decodeLossy_le (percentBytes ds)
  obtain ⟨le, lt⟩ := length_percentBytes_le ascii
  exact ⟨read.trans le, fun escape => read.trans_lt (lt escape)⟩

theorem length_decodeAux_le (run cs : List Char) (ascii : ∀ c ∈ run, c.toNat < 128) :
    (decodeAux run cs).length ≤ run.length + cs.length ∧
      (HasEscape (run.reverse ++ cs) →
        (decodeAux run cs).length < run.length + cs.length) := by
  induction cs generalizing run with
  | nil => simpa [decodeAux] using length_run_le run.reverse (by simpa using ascii)
  | cons c cs ih =>
    rw [decodeAux]
    split
    · next small =>
      have goes := ih (c :: run) (by simpa [small] using ascii)
      simp only [List.reverse_cons, List.append_assoc, List.singleton_append,
        List.length_cons] at goes ⊢
      rwa [show run.length + (cs.length + 1) = run.length + 1 + cs.length by omega]
    · next large =>
      have ⟨passed, passed'⟩ := length_run_le run.reverse (by simpa using ascii)
      have ⟨rest, rest'⟩ := ih [] (by simp)
      simp only [List.length_reverse, List.length_append, List.length_cons, List.length_nil,
        List.reverse_nil, List.nil_append] at passed passed' rest rest' ⊢
      refine ⟨by omega, fun escape => ?_⟩
      rcases escape.of_append_cons large with escape | escape
      · have := passed' escape
        omega
      · have := rest' escape
        omega

theorem length_decode_le (cs : List Char) : (decode cs).length ≤ cs.length := by
  simpa [decode] using (length_decodeAux_le [] cs (by simp)).1

theorem length_decode_lt (escape : HasEscape cs) : (decode cs).length < cs.length := by
  simpa [decode] using (length_decodeAux_le [] cs (by simp)).2 escape

theorem decodeAux_of_not_hasEscape (free : ¬ HasEscape (run.reverse ++ cs)) :
    decodeAux run cs = run.reverse ++ cs := by
  have passed {run : List Char} (free : ¬ HasEscape run.reverse) :
      Utf8.decodeLossy (percentBytes run.reverse) = run.reverse := by
    rw [percentBytes_of_not_hasEscape free, decodeLossy_flatMap]
  induction cs generalizing run with
  | nil =>
    rw [List.append_nil] at free ⊢
    rw [decodeAux, passed free]
  | cons c cs ih =>
    rw [decodeAux]
    split
    · rw [ih (by simpa using free)]
      simp
    · have before : ¬ HasEscape run.reverse := fun escape => free (escape.append_right _)
      have after : ¬ HasEscape cs := fun escape => free (.append_left (.there escape) _)
      rw [passed before, ih (by simpa using after)]
      rfl

/-- Decoding leaves a text alone if and only if it has no escape. -/
theorem decode_eq_self_iff : decode cs = cs ↔ ¬ HasEscape cs := by
  constructor
  · intro same escape
    have shorter := length_decode_lt escape
    rw [same] at shorter
    exact Nat.lt_irrefl _ shorter
  · intro free
    exact decodeAux_of_not_hasEscape free

/-- A slash in front of a text stays in front of it. -/
theorem decode_slash (cs : List Char) : decode ('/' :: cs) = '/' :: decode cs := by
  have passed (run : List Char) : Utf8.decodeLossy (percentBytes ('/' :: run)) =
      '/' :: Utf8.decodeLossy (percentBytes run) := by
    rw [percentBytes_cons (by decide), Utf8.decodeLossy, Utf8.pieces_encodeChar]
    rfl
  have goes (run : List Char) : decodeAux (run ++ ['/']) cs = '/' :: decodeAux run cs := by
    induction cs generalizing run with
    | nil => simp [decodeAux, passed]
    | cons c cs ih =>
      rw [decodeAux, decodeAux]
      split
      · exact ih (c :: run)
      · simp [passed]
  exact goes []

/-! ## Texts that encoding changes -/

theorem encode_append (cs ds : List Char) : encode (cs ++ ds) = encode cs ++ encode ds :=
  List.flatMap_append

theorem encode_cons (c : Char) (cs : List Char) : encode (c :: cs) = encodeChar c ++ encode cs :=
  List.flatMap_cons

theorem encodeChar_of_isPlain (plain : isPlain c = true) : encodeChar c = [c] := if_pos plain

theorem one_lt_length_encodeChar (other : ¬ isPlain c = true) : 1 < (encodeChar c).length := by
  rw [encodeChar, if_neg other]
  obtain ⟨b, bs, bytes⟩ := List.exists_cons_of_ne_nil (Utf8.encodeChar_ne_nil c)
  rw [bytes, List.flatMap_cons, percentByte, List.length_append]
  simp only [List.length_cons, List.length_nil]
  omega

theorem length_le_encode (cs : List Char) : cs.length ≤ (encode cs).length := by
  induction cs with
  | nil => exact Nat.le_refl _
  | cons c cs ih =>
    rw [encode_cons, List.length_append, List.length_cons]
    by_cases plain : isPlain c = true
    · rw [encodeChar_of_isPlain plain, List.length_singleton]
      omega
    · have long := one_lt_length_encodeChar plain
      omega

theorem isPlain_of_length_encode (same : (encode cs).length = cs.length) :
    ∀ c ∈ cs, isPlain c = true := by
  induction cs with
  | nil => simp
  | cons c cs ih =>
    have rest := length_le_encode cs
    rw [encode_cons, List.length_append, List.length_cons] at same
    by_cases plain : isPlain c = true
    · rw [encodeChar_of_isPlain plain, List.length_singleton] at same
      simp only [List.mem_cons, forall_eq_or_imp]
      exact ⟨plain, ih (by omega)⟩
    · have long := one_lt_length_encodeChar plain
      omega

/-- Encoding leaves a text alone if and only if each of its characters stands for itself. -/
theorem encode_eq_self_iff : encode cs = cs ↔ ∀ c ∈ cs, isPlain c = true := by
  constructor
  · intro same
    exact isPlain_of_length_encode (congrArg _ same)
  · intro plain
    induction cs with
    | nil => rfl
    | cons c cs ih =>
      simp only [List.mem_cons, forall_eq_or_imp] at plain
      rw [encode_cons, encodeChar_of_isPlain plain.1, ih plain.2]
      rfl

theorem count_slash_encode (cs : List Char) : (encode cs).count '/' = cs.count '/' := by
  induction cs with
  | nil => rfl
  | cons c cs ih =>
    rw [encode_cons, List.count_append, ih, List.count_cons, Nat.add_comm]
    by_cases plain : isPlain c = true
    · rw [encodeChar_of_isPlain plain, List.count_singleton]
    · have free : '/' ∉ encodeChar c := by
        rw [encodeChar, if_neg plain]
        exact (escapes_flatMap _).notMem (by decide) rfl
      have other : c ≠ '/' := by
        rintro rfl
        exact plain rfl
      rw [List.count_eq_zero_of_not_mem free, if_neg (by simpa using other)]

/-- A directory, as it stands, is what an encoded path inside it begins with if and only if
encoding leaves it alone: the slashes of both must be in the same places. -/
theorem prefix_encode_iff :
    cs ++ ['/'] <+: encode cs ++ '/' :: ds ↔ ∀ c ∈ cs, isPlain c = true := by
  constructor
  · intro begins
    apply isPlain_of_length_encode
    by_contra longer
    have le := length_le_encode cs
    have inside : cs ++ ['/'] <+: encode cs := by
      apply List.prefix_of_prefix_length_le begins (List.prefix_append _ _)
      rw [List.length_append, List.length_singleton]
      omega
    have slashes := inside.sublist.count_le '/'
    rw [count_slash_encode, List.count_append, List.count_singleton_self] at slashes
    omega
  · intro plain
    rw [encode_eq_self_iff.mpr plain, List.prefix_append_right_inj]
    exact List.prefix_append ['/'] ds

/-! ## What a file URI is taken apart into -/

/-- Goes before the query and the fragment of a URI. -/
def inPath (c : Char) : Bool := c != '?' && c != '#'

/-- The path in what follows the two slashes of a URI without a host. -/
def pathPart (cs : List Char) : List Char := (cs.filter (!isDropped ·)).takeWhile inPath

theorem cutAt_fst (sep : Char) (cs : List Char) : (cutAt sep cs).1 = cs.takeWhile (· != sep) := by
  rw [cutAt]
  induction cs with
  | nil => rfl
  | cons c cs ih =>
    rw [splitFirst]
    split
    · next same => simp [same]
    · next other =>
      rw [List.takeWhile_cons_of_pos (by simp [other]), ← ih]
      cases splitFirst sep cs <;> rfl

theorem takeWhile_inPath (cs : List Char) :
    cs.takeWhile inPath = (cutAt '?' (cutAt '#' cs).1).1 := by
  rw [cutAt_fst, cutAt_fst, List.takeWhile_takeWhile]
  congr 1
  funext c
  rw [Bool.eq_iff_iff]
  simp [inPath, and_comm]

theorem ofChars_file (cs : List Char) : ∃ query fragment,
    Parts.ofChars (fileScheme.toList ++ '/' :: cs) =
      .ok ⟨"file".toList, [], pathPart ('/' :: cs), query, fragment⟩ := by
  have start : fileScheme.toList = ['f', 'i', 'l', 'e', ':', '/', '/'] := rfl
  have kept : ((fileScheme.toList ++ '/' :: cs).dropWhile isLeading).filter (!isDropped ·) =
      'f' :: 'i' :: 'l' :: 'e' :: ':' :: '/' :: '/' :: '/' :: cs.filter (!isDropped ·) := by
    rw [start]
    rfl
  have split (rest : List Char) : splitScheme ('f' :: 'i' :: 'l' :: 'e' :: ':' :: rest) =
      ("file".toList, rest) := rfl
  have whole : ('/' :: cs).filter (!isDropped ·) = '/' :: cs.filter (!isDropped ·) := rfl
  refine ⟨(cutAt '?' (cutAt '#' ('/' :: cs.filter (!isDropped ·))).1).2,
    (cutAt '#' ('/' :: cs.filter (!isDropped ·))).2, ?_⟩
  rw [Parts.ofChars, kept, split, pathPart, whole, takeWhile_inPath]
  rfl

theorem toPath_file (cwd : String) (cs : List Char) :
    toPath cwd (fileScheme ++ .ofList ('/' :: cs)) =
      .ok (.ofList (Path.absoluteChars cwd.toList (decode (pathPart ('/' :: cs))))) := by
  have whole : (fileScheme ++ String.ofList ('/' :: cs)).toList =
      fileScheme.toList ++ '/' :: cs := by
    rw [String.toList_append, String.toList_ofList]
  have begins : startsWith fileScheme.toList (fileScheme.toList ++ '/' :: cs) = true := rfl
  obtain ⟨query, fragment, parts⟩ := ofChars_file cs
  rw [toPath, whole, if_pos begins, parts]

/-- The whole of a text is its path if nothing in it ends the path or is dropped. -/
theorem pathPart_eq_self_iff :
    pathPart cs = cs ↔ ∀ c ∈ cs, inPath c = true ∧ isDropped c = false := by
  constructor
  · intro same c mem
    rw [← same] at mem
    have kept := (List.takeWhile_sublist _).mem mem
    exact ⟨List.mem_takeWhile_imp mem, by simpa using (List.mem_filter.mp kept).2⟩
  · intro free
    have kept : cs.filter (!isDropped ·) = cs := by
      simp only [List.filter_eq_self, Bool.not_eq_true']
      exact fun c mem => (free c mem).2
    rw [pathPart, kept, List.takeWhile_eq_self_iff]
    exact fun c mem => (free c mem).1

theorem pathPart_sublist (cs : List Char) : (pathPart cs).Sublist cs :=
  (List.takeWhile_sublist _).trans List.filter_sublist

theorem Spells.pathPart_eq (h : Spells cs es) : pathPart es = es := by
  rw [pathPart_eq_self_iff]
  intro c mem
  have plain : ∀ d, isSpecial d = true → d ≠ '%' → hexDigit? d = none → c ≠ d := by
    rintro _ special other digit rfl
    exact h.notMem special other digit mem
  constructor
  · simp [inPath, plain '?' rfl (by decide) rfl, plain '#' rfl (by decide) rfl]
  · simp [isDropped, plain '\t' rfl (by decide) rfl, plain '\r' rfl (by decide) rfl,
      plain '\n' rfl (by decide) rfl]

/-! ## Paths from the root -/

/-- A path from the root is read back from whatever spells it. -/
theorem toPath_spells (same : Path.absolute cwd p = p) (first : e.toList.head? = some '/')
    (spells : Spells p.toList e.toList) : toPath cwd (fileScheme ++ e) = .ok p := by
  obtain ⟨es, begins⟩ := List.head?_eq_some_iff.mp first
  have text : e = .ofList ('/' :: es) := by rw [← begins, String.ofList_toList]
  rw [text, toPath_file, ← begins, spells.pathPart_eq, decode_spells spells]
  exact congrArg _ same

theorem ofPath_isNormal (h : Path.IsNormal cs) :
    ofPath (.ofList cs) = .ok (fileScheme ++ .ofList (encode cs)) := by
  rw [ofPath, String.toList_ofList, h.tidyChars_eq, if_neg h.anchor_ne_nil]

theorem encode_slash (cs : List Char) : encode ('/' :: cs) = '/' :: encode cs := rfl

theorem ofPath_eq_ok (h : Path.IsNormal cs) : ofPath (.ofList cs) = .ok uri ↔
    uri = fileScheme ++ .ofList (encode cs) := by
  rw [ofPath_isNormal h, Except.ok.injEq, eq_comm]

theorem toPath_ofPath (cwd : String) (h : Path.IsNormal cs) :
    toPath cwd (fileScheme ++ .ofList (encode cs)) = .ok (.ofList cs) := by
  apply toPath_spells
  · rw [Path.absolute, String.toList_ofList, h.absoluteChars_eq]
  · obtain ⟨rest, rfl⟩ := h.exists_eq_cons
    rw [encode_slash, String.toList_ofList, List.head?_cons]
  · rw [String.toList_ofList, String.toList_ofList]
    exact spells_encode cs

/-- Whatever path a text leads to is the normal form of one seen from the directory. -/
theorem exists_of_toPath (ok : toPath cwd uri = .ok p) :
    ∃ cs, p = .ofList (Path.absoluteChars cwd.toList cs) := by
  rw [toPath] at ok
  split at ok
  · split at ok
    · cases ok
    · exact ⟨_, (Except.ok.inj ok).symm⟩
  · exact ⟨_, (Except.ok.inj ok).symm⟩

theorem ofPath_first (ok : ofPath p = .ok uri) : p.toList.head? = some '/' := by
  rw [ofPath] at ok
  split at ok
  · cases ok
  · next rooted => exact Path.head?_tidyChars (not_imp_comm.mp Path.anchor_eq_nil_iff.mpr rooted)

/-- A path that a text leads to and that has a URI is in normal form. -/
theorem isNormal_of_toPath (ok : toPath cwd uri = .ok p) (named : ofPath p = .ok v) :
    Path.IsNormal p.toList := by
  have first := ofPath_first named
  obtain ⟨cs, rfl⟩ := exists_of_toPath ok
  rw [String.toList_ofList] at first ⊢
  exact Path.isNormal_absoluteChars_of_head? first

/-- The canonical URI of the document that a text names. -/
def canonical? (cwd uri : String) : Option String :=
  match toPath cwd uri with
  | .error _ => none
  | .ok p => (ofPath p).toOption

theorem canonical?_eq_some_iff :
    canonical? cwd uri = some v ↔ ∃ p, toPath cwd uri = .ok p ∧ ofPath p = .ok v := by
  unfold canonical?
  cases toPath cwd uri with
  | error fault => simp
  | ok p => cases named : ofPath p <;> simp [named, Except.toOption]

/-- A path from the root in normal form is read back from every URI that spells it, and from its
own; no other such path has the same one; and the canonical URI of a document stays as it is. -/
theorem paths_read_back (cwd : String) :
    (∀ p e : String, Path.isAbsolute p = true → Path.absolute cwd p = p →
      e.toList.head? = some '/' → Spells p.toList e.toList →
      toPath cwd (fileScheme ++ e) = .ok p) ∧
    (∀ p : String, Path.isAbsolute p = true → Path.absolute cwd p = p →
      ∃ uri, ofPath p = .ok uri ∧ toPath cwd uri = .ok p) ∧
    (∀ p q : String, Path.isAbsolute p = true → Path.absolute cwd p = p →
      Path.isAbsolute q = true → Path.absolute cwd q = q → ofPath p = ofPath q → p = q) ∧
    (∀ uri v : String, canonical? cwd uri = some v → canonical? cwd v = some v) := by
  have own {p : String} (h : Path.IsNormal p.toList) :
      ∃ uri, ofPath p = .ok uri ∧ toPath cwd uri = .ok p := by
    have named := ofPath_isNormal h
    have back := toPath_ofPath cwd h
    rw [String.ofList_toList] at named back
    exact ⟨_, named, back⟩
  refine ⟨?_, ?_, ?_, ?_⟩
  · intro p e _ same first spells
    exact toPath_spells same first spells
  · intro p rooted same
    exact own (Path.isNormal_toList rooted same)
  · intro p q rooted same rooted' same' equal
    obtain ⟨u, named, back⟩ := own (Path.isNormal_toList rooted same)
    obtain ⟨v, named', back'⟩ := own (Path.isNormal_toList rooted' same')
    obtain rfl : u = v := Except.ok.inj (named.symm.trans (equal.trans named'))
    exact Except.ok.inj (back.symm.trans back')
  · intro uri v canonical
    obtain ⟨p, leads, named⟩ := canonical?_eq_some_iff.mp canonical
    obtain ⟨u, named', back⟩ := own (isNormal_of_toPath leads named)
    obtain rfl : u = v := Except.ok.inj (named'.symm.trans named)
    exact canonical?_eq_some_iff.mpr ⟨p, back, named⟩

/-- A blank, two accents and a percent sign, written in three ways. -/
theorem paths_read_back_accented :
    (Path.absolute "/w" "/a éé%" = "/a éé%" ∧
      Spells "/a éé%".toList "/a%20é%C3%a9%25".toList ∧
      toPath "/w" (fileScheme ++ "/a%20é%C3%a9%25") = .ok "/a éé%") ∧
    (∃ uri, ofPath "/a éé%" = .ok uri ∧ toPath "/w" uri = .ok "/a éé%") ∧
    ("/a b" = "/a b" ∧ ofPath "/a b" = ofPath "/a b") ∧
    (canonical? "/w" "./é" = some "file:///w/%C3%A9" ∧
      canonical? "/w" "file:///w/%C3%A9" = some "file:///w/%C3%A9") := by
  have absolute : Path.absolute "/w" "/a éé%" = "/a éé%" := by decide
  have blank : Escapes (Utf8.encodeChar ' ') ['%', '2', '0'] :=
    .byte (x := 2) (y := 0) rfl rfl .nil
  have accent : Escapes (Utf8.encodeChar 'é') ['%', 'C', '3', '%', 'a', '9'] :=
    .byte (x := 12) (y := 3) rfl rfl (.byte (x := 10) (y := 9) rfl rfl .nil)
  have percent : Escapes (Utf8.encodeChar '%') ['%', '2', '5'] :=
    .byte (x := 2) (y := 5) rfl rfl .nil
  have spells : Spells "/a éé%".toList "/a%20é%C3%a9%25".toList :=
    .plain rfl (.plain rfl (.escaped blank (.plain rfl (.escaped accent (.escaped percent .nil)))))
  have canonical : canonical? "/w" "./é" = some "file:///w/%C3%A9" := by decide
  obtain ⟨back, own, apart, stays⟩ := paths_read_back "/w"
  refine ⟨⟨absolute, spells, back _ _ rfl absolute rfl spells⟩, own _ rfl absolute, ⟨?_, rfl⟩,
    canonical, stays _ _ canonical⟩
  exact apart _ _ rfl (by decide) rfl (by decide) rfl

end LspGateway.Uri
