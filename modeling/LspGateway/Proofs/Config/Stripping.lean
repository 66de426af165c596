import LspGateway.Proofs.Config.Comments

/-! # What is left of a text without its comments

A text falls apart into strings, comments and other characters. Seen so, dropping the comments
brings forth no new one: a mark of a comment would have to be closed by what a comment held apart,
and what a comment starts with closes it as well. A quote that was never closed may be closed
by what comes nearer, but all strings that were there stay.

A blank in the place of a comment keeps tokens apart that come together when it is dropped. That is
the only difference there is. Where two parts of a word or a number come together, or something
comes to stand after a backslash, there is no value with the blanks, and everywhere else the value
is the same either way.
-/

namespace LspGateway.Config
open LspGateway.Json

variable {c d : Char} {cs s g r t u body : List Char} {a : Char × Role}
  {ls : List (Char × Role)} {ss : List (List Char)} {v : Json}

/-! ## A text and its comments -/

/-- The characters that belong to the text. -/
def textOf (ls : List (Char × Role)) : List Char := (ls.filter (·.2 = .text)).map (·.1)

/-- Characters that all play this part. -/
def allAs (role : Role) (cs : List Char) : List (Char × Role) := cs.map (·, role)

/-- A slash before this text starts a comment. -/
def opensComment : List Char → Bool
  | '/' :: _ => true
  | '*' :: cs => closesBlock cs
  | _ => false

/-- A comment after its slash, where the text `r` follows. The newline that ends a line is no part
of it. -/
inductive CommentTail : List Char → List Char → Prop
  | block {body r : List Char} (unclosed : ¬ ['*', '/'] <:+: body) :
    CommentTail ('*' :: (body ++ ['*', '/'])) r
  | line {body r : List Char} (single : '\n' ∉ body) (stop : ∀ c ∈ r.head?, c = '\n') :
    CommentTail ('/' :: body) r

/-- The characters of a text with the parts they play, and the strings of the text, each from its
opening quote on. -/
inductive Labelled : List Char → List (Char × Role) → List (List Char) → Prop
  | nil : Labelled [] [] []
  | char {c : Char} {cs : List Char} {ls : List (Char × Role)} {ss : List (List Char)}
    (quote : c ≠ '"') (slash : c = '/' → opensComment cs = false) (rest : Labelled cs ls ss) :
    Labelled (c :: cs) ((c, .text) :: ls) ss
  /-- A quote that opens no string. -/
  | quote {cs : List Char} {ls : List (Char × Role)} {ss : List (List Char)}
    (unclosed : closesString cs = false) (rest : Labelled cs ls ss) :
    Labelled ('"' :: cs) (('"', .text) :: ls) ss
  | string {s cs : List Char} {ls : List (Char × Role)} {ss : List (List Char)}
    (tail : StringTail s) (rest : Labelled cs ls ss) :
    Labelled ('"' :: (s ++ cs)) (('"', .text) :: (allAs .text s ++ ls)) (('"' :: s) :: ss)
  | comment {g cs : List Char} {ls : List (Char × Role)} {ss : List (List Char)}
    (tail : CommentTail g cs) (rest : Labelled cs ls ss) :
    Labelled ('/' :: (g ++ cs)) (('/', .opener) :: (allAs .comment g ++ ls)) ss

@[simp] theorem textOf_nil : textOf [] = [] := rfl

@[simp] theorem textOf_text : textOf ((c, .text) :: ls) = c :: textOf ls := by simp [textOf]

@[simp] theorem textOf_string : textOf (allAs .text s ++ ls) = s ++ textOf ls := by
  induction s with
  | nil => rfl
  | cons c s ih => exact textOf_text.trans (congrArg (c :: ·) ih)

theorem textOf_allAs : textOf (allAs .text s) = s := by
  have whole : textOf (allAs .text s ++ []) = s ++ textOf [] := textOf_string
  simpa using whole

@[simp] theorem textOf_comment :
    textOf (('/', .opener) :: (allAs .comment g ++ ls)) = textOf ls := by
  simp [textOf, allAs, List.filter_map, Function.comp_def]

theorem stripComments_eq_textOf (cs : List Char) :
    stripComments cs = textOf (label .plain cs) := rfl

/-! ### Labels -/

theorem label_char (quote : c ≠ '"') (slash : c = '/' → opensComment cs = false) :
    label .plain (c :: cs) = (c, .text) :: label .plain cs := by
  by_cases e : c = '/'
  · subst e
    have plain := slash rfl
    cases cs with
    | nil => rfl
    | cons d cs =>
      by_cases line : d = '/'
      · subst line
        cases plain
      · by_cases block : d = '*'
        · subst block
          have unclosed : closesBlock cs = false := plain
          simp [label, unclosed]
        · rw [label] <;> simp_all
  · rw [label] <;> simp_all

theorem label_string (tail : StringTail s) (r : List Char) :
    label .string (s ++ r) = allAs .text s ++ label .plain r := by
  induction tail with
  | close => rfl
  | escape c _ ih => exact congrArg (fun ls => ('\\', .text) :: (c, .text) :: ls) ih
  | @plain c s quote slash _ ih =>
    rw [List.cons_append, label, ih]
    · rfl
    · simpa using quote
    · simp [slash]

theorem label_blockBody (unclosed : ¬ ['*', '/'] <:+: body) (r : List Char) :
    label .block (body ++ '*' :: '/' :: r) =
      allAs .comment (body ++ ['*', '/']) ++ label .plain r := by
  induction body with
  | nil => rfl
  | cons c body ih =>
    have inner : ¬ ['*', '/'] <:+: body := fun h =>
      unclosed (h.trans (List.infix_cons List.infix_rfl))
    rw [List.cons_append, label, ih inner]
    · rfl
    · rintro cs rfl start
      cases body with
      | nil => simp at start
      | cons d body =>
        obtain ⟨rfl, -⟩ := List.cons.inj start
        exact unclosed ⟨[], body, rfl⟩

theorem label_lineBody (single : '\n' ∉ body) (stop : ∀ c ∈ r.head?, c = '\n') :
    label .line (body ++ r) = allAs .comment body ++ label .plain r := by
  induction body with
  | nil =>
    cases r with
    | nil => rfl
    | cons c r =>
      obtain rfl := stop c rfl
      rfl
  | cons c body ih =>
    obtain ⟨here, inner⟩ := not_or.mp (mt List.mem_cons.mpr single)
    rw [List.cons_append, label, ih inner]
    · rfl
    · exact fun e => here e.symm

theorem label_comment (tail : CommentTail g r) :
    label .plain ('/' :: (g ++ r)) = ('/', .opener) :: (allAs .comment g ++ label .plain r) := by
  cases tail with
  | @block body _ unclosed =>
    have closed := closesBlock_append body r
    simp only [List.cons_append, List.append_assoc, List.nil_append]
    rw [label, if_pos closed, label_blockBody unclosed]
    rfl
  | line single stop =>
    rw [List.cons_append, label, label_lineBody single stop]
    rfl

theorem Labelled.label_eq (h : Labelled cs ls ss) : label .plain cs = ls := by
  induction h with
  | nil => rfl
  | char quote slash _ ih => rw [label_char quote slash, ih]
  | quote unclosed _ ih =>
    rw [label, unclosed, ← ih]
    rfl
  | string tail _ ih =>
    rw [label, closesString_tail tail, if_pos rfl, label_string tail, ih]
  | comment tail _ ih => rw [label_comment tail, ih]

/-! ### Every text falls apart -/

theorem exists_stringTail (closed : closesString cs = true) :
    ∃ s r, cs = s ++ r ∧ StringTail s := by
  fun_induction closesString cs with
  | case1 => cases closed
  | case2 cs => exact ⟨['"'], cs, rfl, .close⟩
  | case3 c cs ih =>
    obtain ⟨s, r, rfl, tail⟩ := ih closed
    exact ⟨_, r, rfl, .escape c tail⟩
  | case4 c cs quote slash ih =>
    obtain ⟨s, r, rfl, tail⟩ := ih closed
    refine ⟨c :: s, r, rfl, .plain quote ?_ tail⟩
    rintro rfl
    obtain ⟨d, s, rfl⟩ := List.exists_cons_of_ne_nil tail.ne_nil
    exact slash d _ rfl rfl

/-- A block is closed by the first mark that closes it. -/
theorem exists_block (closed : closesBlock cs = true) :
    ∃ body r, cs = body ++ '*' :: '/' :: r ∧ ¬ ['*', '/'] <:+: body := by
  fun_induction closesBlock cs with
  | case1 => cases closed
  | case2 cs => exact ⟨[], cs, rfl, by simp⟩
  | case3 c cs other ih =>
    obtain ⟨body, r, rfl, unclosed⟩ := ih closed
    refine ⟨c :: body, r, rfl, fun h => ?_⟩
    rcases List.infix_cons_iff.mp h with start | inner
    · obtain ⟨u, e⟩ := start
      obtain ⟨rfl, rfl⟩ := List.cons.inj e
      exact other _ rfl rfl
    · exact unclosed inner

theorem exists_commentTail (opens : opensComment cs = true) :
    ∃ g r, cs = g ++ r ∧ CommentTail g r := by
  unfold opensComment at opens
  split at opens
  · next cs =>
    refine ⟨'/' :: cs.takeWhile (· ≠ '\n'), cs.dropWhile (· ≠ '\n'), ?_, .line ?_ ?_⟩
    · rw [List.cons_append, List.takeWhile_append_dropWhile]
    · intro mem
      simpa using List.mem_takeWhile_imp mem
    · intro c start
      have first := List.head?_dropWhile_not (· ≠ '\n') cs
      rw [Option.mem_def.mp start] at first
      simpa using first
  · obtain ⟨body, r, rfl, unclosed⟩ := exists_block opens
    exact ⟨'*' :: (body ++ ['*', '/']), r, by simp, .block unclosed⟩
  · cases opens

theorem exists_labelled (cs : List Char) : ∃ ls ss, Labelled cs ls ss := by
  match cs with
  | [] => exact ⟨_, _, .nil⟩
  | c :: cs =>
    by_cases quote : c = '"'
    · subst quote
      cases closed : closesString cs with
      | false =>
        obtain ⟨ls, ss, rest⟩ := exists_labelled cs
        exact ⟨_, _, .quote closed rest⟩
      | true =>
        obtain ⟨s, r, e, tail⟩ := exists_stringTail closed
        obtain ⟨ls, ss, rest⟩ := exists_labelled r
        exact e ▸ ⟨_, _, .string tail rest⟩
    · by_cases slash : c = '/' ∧ opensComment cs = true
      · obtain ⟨rfl, opens⟩ := slash
        obtain ⟨g, r, e, tail⟩ := exists_commentTail opens
        obtain ⟨ls, ss, rest⟩ := exists_labelled r
        exact e ▸ ⟨_, _, .comment tail rest⟩
      · obtain ⟨ls, ss, rest⟩ := exists_labelled cs
        exact ⟨_, _, .char quote (fun e => by simpa [e] using slash) rest⟩
termination_by cs.length
decreasing_by
  all_goals
    subst_vars
    simp only [List.length_cons, List.length_append]
    omega

theorem labelled (cs : List Char) : ∃ ss, Labelled cs (label .plain cs) ss := by
  obtain ⟨ls, ss, h⟩ := exists_labelled cs
  exact ⟨ss, h.label_eq ▸ h⟩

/-! ## No comment appears -/

theorem closesBlock_iff : closesBlock cs = true ↔ ['*', '/'] <:+: cs := by
  constructor
  · intro closed
    obtain ⟨body, r, rfl, -⟩ := exists_block closed
    exact ⟨body, r, by simp⟩
  · rintro ⟨body, r, rfl⟩
    simpa using closesBlock_append body r

theorem infix_append_quote :
    ['*', '/'] <:+: s ++ '"' :: t ↔ ['*', '/'] <:+: s ∨ ['*', '/'] <:+: t := by
  induction s with
  | nil => simp [List.infix_cons_iff, List.prefix_cons_iff]
  | cons c s ih =>
    rw [List.cons_append, List.infix_cons_iff, ih, List.infix_cons_iff, or_assoc]
    refine or_congr_left ?_
    cases s <;> simp [List.prefix_cons_iff]

theorem StringTail.eq_append (tail : StringTail s) : ∃ s', s = s' ++ ['"'] := by
  induction tail with
  | close => exact ⟨[], rfl⟩
  | escape c _ ih =>
    obtain ⟨s', rfl⟩ := ih
    exact ⟨'\\' :: c :: s', rfl⟩
  | @plain c _ _ _ _ ih =>
    obtain ⟨s', rfl⟩ := ih
    exact ⟨c :: s', rfl⟩

/-- What does not start with a comment starts the same without comments. -/
theorem Labelled.head?_textOf (h : Labelled cs ls ss) (slash : cs.head? ≠ some '/') :
    (textOf ls).head? = cs.head? := by
  cases h with
  | comment => exact absurd rfl slash
  | _ => simp

/-- A block that is never closed is not closed by what comes nearer: a comment starts with the
slash that closes it. -/
theorem Labelled.not_infix (h : Labelled cs ls ss) (unclosed : ¬ ['*', '/'] <:+: cs) :
    ¬ ['*', '/'] <:+: textOf ls := by
  induction h with
  | nil => exact unclosed
  | @char c cs ls _ _ _ rest ih =>
    rw [List.infix_cons_iff, not_or] at unclosed
    rw [textOf_text, List.infix_cons_iff, not_or]
    refine ⟨fun start => unclosed.1 ?_, ih unclosed.2⟩
    obtain ⟨rfl, slash⟩ := List.cons_prefix_cons.mp start
    by_cases here : cs.head? = some '/'
    · obtain ⟨t, rfl⟩ := List.head?_eq_some_iff.mp here
      exact ⟨t, rfl⟩
    · have same := rest.head?_textOf here
      obtain ⟨u, e⟩ := slash
      rw [← e] at same
      exact absurd same.symm here
  | quote _ _ ih =>
    rw [List.infix_cons_iff, not_or] at unclosed
    rw [textOf_text, List.infix_cons_iff, not_or]
    refine ⟨?_, ih unclosed.2⟩
    simp [List.prefix_cons_iff]
  | string tail _ ih =>
    obtain ⟨s, rfl⟩ := StringTail.eq_append tail
    rw [textOf_text, textOf_string, List.append_assoc, List.singleton_append, ← List.cons_append,
      infix_append_quote] at *
    exact fun h => unclosed (h.imp_right fun inner => absurd inner (ih fun h => unclosed (.inr h)))
  | comment _ _ ih =>
    rw [textOf_comment]
    exact ih fun inner => unclosed (inner.trans ((List.suffix_append _ _).isInfix.trans
      (List.infix_cons List.infix_rfl)))

/-- A slash that starts no comment starts none without the comments that follow. -/
theorem Labelled.opensComment_textOf (h : Labelled cs ls ss) (plain : opensComment cs = false) :
    opensComment (textOf ls) = false := by
  cases h with
  | nil => rfl
  | @char c cs ls _ _ _ rest =>
    rw [textOf_text]
    by_cases line : c = '/'
    · subst line
      cases plain
    · by_cases block : c = '*'
      · subst block
        have unclosed : closesBlock cs = false := plain
        rw [← Bool.not_eq_true, closesBlock_iff] at unclosed
        exact Bool.eq_false_iff.mpr (mt closesBlock_iff.mp (rest.not_infix unclosed))
      · rw [opensComment.eq_def]
        split <;> simp_all
  | quote => rfl
  | string => rfl
  | comment => cases plain

/-! ## No string is read differently -/

/-- No quote of the text is closed. -/
def AllOpen (cs : List Char) : Prop := ∀ u r, cs = u ++ '"' :: r → closesString r = false

theorem AllOpen.suffix (h : AllOpen cs) (suffix : r <:+ cs) : AllOpen r := by
  rintro u r' rfl
  obtain ⟨p, rfl⟩ := suffix
  exact h (p ++ u) r' (by simp)

/-- A quote behind one that is never closed would have to be escaped, and what follows it is read
the same from either. -/
theorem allOpen_of_unclosed (unclosed : closesString cs = false) : AllOpen cs := by
  fun_induction closesString cs with
  | case1 =>
    rintro u r e
    simp at e
  | case2 => cases unclosed
  | case3 c cs ih =>
    rintro (_ | ⟨d, _ | ⟨e, u⟩⟩) r same
    · cases same
    · obtain ⟨-, rfl⟩ := List.cons.inj (List.cons.inj same).2
      exact unclosed
    · exact ih unclosed u r (List.cons.inj (List.cons.inj same).2).2
  | case4 c cs quote slash ih =>
    rintro (_ | ⟨d, u⟩) r same
    · exact absurd (List.cons.inj same).1 quote
    · exact ih unclosed u r (List.cons.inj same).2

/-- The strings of a text that is left as it is. -/
def Keeps (t : List Char) (ss : List (List Char)) : Prop := Labelled t (allAs .text t) ss

theorem Keeps.string (tail : StringTail s) (rest : Keeps r ss) :
    Keeps ('"' :: (s ++ r)) (('"' :: s) :: ss) := by
  have parts : allAs .text ('"' :: (s ++ r)) =
      ('"', .text) :: (allAs .text s ++ allAs .text r) := by
    simp [allAs]
  rw [Keeps, parts]
  exact Labelled.string tail rest

/-- A quote may be closed by what has come nearer. -/
theorem exists_keeps_quote (each : ∀ r, r <:+ t → ∃ ss, Keeps r ss) :
    ∃ ss, Keeps ('"' :: t) ss := by
  cases closed : closesString t with
  | false =>
    obtain ⟨ss, whole⟩ := each t List.suffix_rfl
    exact ⟨ss, .quote closed whole⟩
  | true =>
    obtain ⟨s, r, rfl, tail⟩ := exists_stringTail closed
    obtain ⟨ss, rest⟩ := each r (List.suffix_append s r)
    exact ⟨_, rest.string tail⟩

/-- Where no quote is closed there are no strings, and whatever is left of the text from some place
on stays as it is. -/
theorem Labelled.keeps_suffix (h : Labelled cs ls ss) (unclosed : AllOpen cs) :
    ss = [] ∧ ∀ r, r <:+ textOf ls → ∃ ss', Keeps r ss' := by
  induction h with
  | nil => exact ⟨rfl, fun r suffix => ⟨[], by rw [List.suffix_nil.mp suffix]; exact .nil⟩⟩
  | @char c cs ls ss quote slash rest ih =>
    obtain ⟨none, each⟩ := ih (unclosed.suffix (List.suffix_cons c cs))
    refine ⟨none, fun r suffix => ?_⟩
    rw [textOf_text] at suffix
    rcases List.suffix_cons_iff.mp suffix with rfl | suffix
    · obtain ⟨ss', whole⟩ := each _ List.suffix_rfl
      exact ⟨ss', .char quote (fun e => rest.opensComment_textOf (slash e)) whole⟩
    · exact each r suffix
  | @quote cs ls ss _ _ ih =>
    obtain ⟨none, each⟩ := ih (unclosed.suffix (List.suffix_cons _ cs))
    refine ⟨none, fun r suffix => ?_⟩
    rw [textOf_text] at suffix
    rcases List.suffix_cons_iff.mp suffix with rfl | suffix
    · exact exists_keeps_quote each
    · exact each r suffix
  | @string s cs _ _ tail =>
    have closed := closesString_tail tail cs
    rw [unclosed [] _ rfl] at closed
    cases closed
  | @comment g cs _ _ _ _ ih =>
    rw [textOf_comment]
    exact ih (unclosed.suffix ((List.suffix_append g cs).trans (List.suffix_cons _ _)))

/-- What is left of a text stays as it is, and has the strings of the text. More of them only come
at the end. -/
theorem Labelled.keeps (h : Labelled cs ls ss) : ∃ ss', Keeps (textOf ls) (ss ++ ss') := by
  induction h with
  | nil => exact ⟨[], .nil⟩
  | char quote slash rest ih =>
    obtain ⟨ss', whole⟩ := ih
    rw [textOf_text]
    exact ⟨ss', .char quote (fun e => rest.opensComment_textOf (slash e)) whole⟩
  | quote unclosed rest _ =>
    obtain ⟨rfl, each⟩ := rest.keeps_suffix (allOpen_of_unclosed unclosed)
    rw [textOf_text]
    exact exists_keeps_quote each
  | string tail _ ih =>
    obtain ⟨ss', rest⟩ := ih
    rw [textOf_text, textOf_string]
    exact ⟨ss', rest.string tail⟩
  | comment _ _ ih =>
    rw [textOf_comment]
    exact ih

/-- Dropping the comments of a text leaves none. The strings of the text are the first ones that are
read in what is left of it. -/
theorem stripComments_idempotent (cs : List Char) :
    stripComments (stripComments cs) = stripComments cs ∧
      ∃ ss ss', Labelled cs (label .plain cs) ss ∧
        Labelled (stripComments cs) (label .plain (stripComments cs)) (ss ++ ss') := by
  obtain ⟨ss, h⟩ := labelled cs
  obtain ⟨ss', kept⟩ := h.keeps
  have same := Labelled.label_eq kept
  rw [stripComments_eq_textOf cs]
  refine ⟨?_, ss, ss', h, ?_⟩
  · rw [stripComments_eq_textOf, same, textOf_allAs]
  · rw [same]
    exact kept

/-! ## What comes together -/

/-- The text with a blank in the place of each comment. -/
def blankedOf (ls : List (Char × Role)) : List Char :=
  ls.filterMap fun (c, role) =>
    match role with
    | .text => some c
    | .opener => some ' '
    | .comment => none

theorem blankComments_eq_blankedOf (cs : List Char) :
    blankComments cs = blankedOf (label .plain cs) := rfl

@[simp] theorem blankedOf_text : blankedOf ((c, .text) :: ls) = c :: blankedOf ls := rfl

@[simp] theorem blankedOf_string : blankedOf (allAs .text s ++ ls) = s ++ blankedOf ls := by
  induction s with
  | nil => rfl
  | cons c s ih => exact congrArg (c :: ·) ih

@[simp] theorem blankedOf_comment :
    blankedOf (('/', .opener) :: (allAs .comment g ++ ls)) = ' ' :: blankedOf ls := by
  refine congrArg (' ' :: ·) ?_
  induction g with
  | nil => rfl
  | cons c g ih => exact ih

/-- The characters of the text that come together when the comments between them are dropped. -/
def joins : List (Char × Role) → List (Char × Char)
  | [] => []
  | a :: ls =>
    if a.2 = .text ∧ ls.head?.map (·.2) = some .opener then
      (textOf ls).head?.toList.map (fun c => (a.1, c)) ++ joins ls
    else joins ls

/-- Where comments are dropped, nothing comes to stand after a backslash, and no two characters of
words or numbers come together. -/
def Apart (ls : List (Char × Role)) : Prop :=
  ∀ a ∈ joins ls, a.1 ≠ '\\' ∧ ¬ (isScalar a.1 = true ∧ isScalar a.2 = true)

instance : Decidable (Apart ls) := inferInstanceAs (Decidable (∀ a ∈ joins ls, _))

theorem Apart.of_cons (h : Apart (a :: ls)) : Apart ls := by
  intro b mem
  refine h b ?_
  rw [joins]
  split
  · exact List.mem_append_right _ mem
  · exact mem

theorem Apart.of_append {ls' : List (Char × Role)} (h : Apart (ls' ++ ls)) : Apart ls := by
  induction ls' with
  | nil => exact h
  | cons a ls' ih => exact ih h.of_cons

theorem Apart.of_comment (h : Apart (('/', .opener) :: (allAs .comment g ++ ls))) : Apart ls :=
  h.of_cons.of_append

/-- A comment stands between the first character and the next one of the text. -/
theorem Apart.join (h : Apart ((c, .text) :: ls)) (gap : ls.head?.map (·.2) = some .opener)
    (next : (textOf ls).head? = some d) : c ≠ '\\' ∧ ¬ (isScalar c = true ∧ isScalar d = true) := by
  refine h (c, d) ?_
  rw [joins, if_pos ⟨rfl, gap⟩, next]
  exact List.mem_append_left _ (List.mem_singleton_self _)

/-! ### Quotes stay open -/

theorem closesString_cons (quote : c ≠ '"') (slash : c ≠ '\\') :
    closesString (c :: cs) = closesString cs := by
  rw [closesString] <;> simp_all

theorem closesString_slash : closesString ('\\' :: cs) = closesString (cs.drop 1) := by
  cases cs <;> rfl

/-- What is read up to a character that is neither a quote nor a backslash does not matter for
what comes after it. -/
theorem unclosed_of_append (quote : c ≠ '"') (slash : c ≠ '\\') :
    ∀ {u : List Char}, closesString (u ++ c :: r) = false → closesString r = false
  | [], unclosed => by rwa [List.nil_append, closesString_cons quote slash] at unclosed
  | d :: u, unclosed => by
    by_cases open' : d = '"'
    · subst open'
      cases unclosed
    · by_cases escape : d = '\\'
      · subst escape
        rw [List.cons_append, closesString_slash] at unclosed
        cases u with
        | nil => exact unclosed
        | cons e u => exact unclosed_of_append quote slash (u := u) unclosed
      · rw [List.cons_append, closesString_cons open' escape] at unclosed
        exact unclosed_of_append quote slash unclosed

/-- What ends a comment is no quote and no backslash. -/
theorem CommentTail.unclosed (tail : CommentTail g r) (unclosed : closesString (g ++ r) = false) :
    closesString r = false := by
  cases tail with
  | @block body =>
    refine unclosed_of_append (c := '/') (u := '*' :: (body ++ ['*'])) (by decide) (by decide) ?_
    simpa using unclosed
  | @line body _ _ stop =>
    cases r with
    | nil => rfl
    | cons c r =>
      obtain rfl := stop c rfl
      rw [closesString_cons (by decide) (by decide)]
      exact unclosed_of_append (u := '/' :: body) (by decide) (by decide) unclosed

/-- A quote that is never closed is not closed by what comes nearer, if nothing comes to stand
after a backslash. The second part is what is left to look at after a backslash. -/
theorem Labelled.unclosed_textOf (h : Labelled cs ls ss) (apart : Apart ls) :
    (closesString cs = false → closesString (textOf ls) = false) ∧
      (ls.head?.map (·.2) ≠ some .opener → closesString (cs.drop 1) = false →
        closesString ((textOf ls).drop 1) = false) := by
  induction h with
  | nil => exact ⟨id, fun _ => id⟩
  | @char c cs ls ss quote _ rest ih =>
    obtain ⟨whole, later⟩ := ih apart.of_cons
    rw [textOf_text]
    refine ⟨fun unclosed => ?_, fun _ => whole⟩
    by_cases slash : c = '\\'
    · subst slash
      rw [closesString_slash] at unclosed ⊢
      by_cases gap : ls.head?.map (·.2) = some .opener
      · cases next : (textOf ls).head? with
        | none => rw [List.head?_eq_none_iff.mp next]; rfl
        | some d => exact absurd rfl (apart.join gap next).1
      · exact later gap unclosed
    · rw [closesString_cons quote slash] at unclosed ⊢
      exact whole unclosed
  | quote _ _ ih =>
    rw [textOf_text]
    exact ⟨nofun, fun _ => (ih apart.of_cons).1⟩
  | @string s cs _ _ tail _ _ =>
    refine ⟨nofun, fun _ unclosed => ?_⟩
    have closed := closesString_tail tail cs
    rw [List.drop_one, List.tail_cons, closed] at unclosed
    cases unclosed
  | comment tail _ ih =>
    rw [textOf_comment]
    refine ⟨fun unclosed => (ih apart.of_comment).1 (tail.unclosed ?_),
      fun opener => absurd rfl opener⟩
    rwa [closesString_cons (by decide) (by decide)] at unclosed

/-! ### Tokens stay whole -/

/-- The characters of a word or a number stand together. -/
theorem Labelled.scalar (h : Labelled cs ls ss) (apart : Apart ls) (nonempty : s ≠ [])
    (all : ∀ c ∈ s, isScalar c = true) (start : ls.head?.map (·.2) ≠ some .opener)
    (text : textOf ls = s ++ t) :
    ∃ r ls', cs = s ++ r ∧ ls = allAs .text s ++ ls' ∧ Labelled r ls' ss ∧ textOf ls' = t := by
  induction s generalizing cs ls with
  | nil => exact absurd rfl nonempty
  | cons x s ih =>
    obtain ⟨scalar, others⟩ := List.forall_mem_cons.mp all
    have other : x ≠ '"' := by
      rintro rfl
      exact absurd scalar (by decide)
    cases h with
    | nil => cases text
    | @char c cs ls _ _ _ rest =>
      rw [textOf_text] at text
      obtain ⟨rfl, after⟩ := List.cons.inj text
      cases s with
      | nil => exact ⟨cs, ls, rfl, rfl, rest, after⟩
      | cons y s =>
        have close : ls.head?.map (·.2) ≠ some .opener := by
          intro gap
          have next : (textOf ls).head? = some y := by rw [after]; rfl
          exact (apart.join gap next).2 ⟨scalar, others y List.mem_cons_self⟩
        obtain ⟨r, ls', rfl, rfl, more, last⟩ :=
          ih rest apart.of_cons (List.cons_ne_nil y s) others close after
        exact ⟨r, ls', rfl, rfl, more, last⟩
    | quote => exact absurd (List.cons.inj text).1.symm other
    | string => exact absurd (List.cons.inj text).1.symm other
    | comment => exact absurd rfl start

/-- Comments stand between the tokens of what is left of the text. -/
theorem Labelled.spaced (h : Labelled cs ls ss) (apart : Apart ls)
    (passes : Passes (textOf ls) []) : Spaced (textOf ls) (blankedOf ls) := by
  induction size : cs.length using Nat.strong_induction_on generalizing cs ls ss with
  | _ n ih =>
    subst size
    cases h with
    | nil => exact .nil
    | @char c cs ls _ quote slash rest =>
      rw [textOf_text] at passes
      obtain ⟨s, r, token, text, later, -⟩ := passes.first
      cases token with
      | string => exact absurd (List.cons.inj text).1 quote
      | mark =>
        obtain ⟨rfl, rfl⟩ := List.cons.inj text
        rw [textOf_text, blankedOf_text]
        exact .token (s := [c]) (.mark ‹_›)
          (ih cs.length (Nat.lt_succ_self _) rest apart.of_cons later rfl)
      | scalar nonempty all ends =>
        obtain ⟨r', ls', e, e', rest', rfl⟩ := (Labelled.char quote slash rest).scalar apart
          nonempty all (by simp) (textOf_text.trans text)
        have shorter : r'.length < (c :: cs).length := by
          have := List.length_pos_iff.mpr nonempty
          rw [e, List.length_append]
          omega
        rw [e', textOf_string, blankedOf_string]
        rw [e'] at apart
        exact .token (.scalar nonempty all ends) (ih _ shorter rest' apart.of_append later rfl)
    | quote unclosed rest =>
      rw [textOf_text] at passes
      obtain ⟨s, r, token, text, -⟩ := passes.first
      obtain ⟨s, tail, rfl, joined⟩ := token.string_of_quote text
      have still := (rest.unclosed_textOf apart.of_cons).1 unclosed
      rw [joined, closesString_tail tail] at still
      cases still
    | @string s cs ls _ tail rest =>
      rw [textOf_text, textOf_string] at passes
      obtain ⟨s', r, token, text, later, -⟩ := passes.first
      have shorter : cs.length < ('"' :: (s ++ cs)).length := by
        rw [List.length_cons, List.length_append]
        omega
      rw [textOf_text, textOf_string, blankedOf_text, blankedOf_string]
      refine .token (s := '"' :: s) (.string tail)
        (ih _ shorter rest apart.of_cons.of_append ?_ rfl)
      obtain ⟨s', tail', rfl, same⟩ := token.string_of_quote text
      obtain ⟨-, rfl⟩ := tail.unique tail' same
      exact later
    | @comment g cs ls _ tail rest =>
      have shorter : cs.length < ('/' :: (g ++ cs)).length := by
        rw [List.length_cons, List.length_append]
        omega
      rw [textOf_comment] at passes ⊢
      rw [blankedOf_comment]
      exact .piece (p := [' ']) (by simp; decide) (ih _ shorter rest apart.of_comment passes rfl)

/-! ### Tokens that come together -/

/-- A quote that is never closed is not closed by what comes nearer to it. -/
theorem Labelled.unclosed_blankedOf (h : Labelled cs ls ss) :
    (closesString cs = false → closesString (blankedOf ls) = false) ∧
      (closesString (cs.drop 1) = false → closesString ((blankedOf ls).drop 1) = false) := by
  induction h with
  | nil => exact ⟨id, id⟩
  | @char c cs ls ss quote _ rest ih =>
    rw [blankedOf_text]
    refine ⟨fun unclosed => ?_, ih.1⟩
    by_cases slash : c = '\\'
    · subst slash
      rw [closesString_slash] at unclosed ⊢
      exact ih.2 unclosed
    · rw [closesString_cons quote slash] at unclosed ⊢
      exact ih.1 unclosed
  | quote _ _ ih => exact ⟨nofun, ih.1⟩
  | @string s cs _ _ tail _ _ =>
    refine ⟨nofun, fun unclosed => ?_⟩
    have closed := closesString_tail tail cs
    rw [List.drop_one, List.tail_cons, closed] at unclosed
    cases unclosed
  | comment tail _ ih =>
    rw [blankedOf_comment]
    refine ⟨fun unclosed => ?_, fun unclosed => ih.1 (tail.unclosed unclosed)⟩
    rw [closesString_cons (by decide) (by decide)] at unclosed ⊢
    exact ih.1 (tail.unclosed unclosed)

/-- Behind blanks in the places of comments stands what comes nearer. -/
theorem Labelled.skip_blankedOf (h : Labelled cs ls ss) (next : (textOf ls).head? = some d)
    (dark : isSpace d = false) : (skipSpace (blankedOf ls)).head? = some d := by
  induction h with
  | nil => cases next
  | char =>
    rw [textOf_text] at next
    obtain rfl := Option.some.inj next
    rw [blankedOf_text, skipSpace_cons dark]
    rfl
  | quote => exact next
  | string => exact next
  | comment _ _ ih =>
    rw [textOf_comment] at next
    rw [blankedOf_comment]
    exact ih next

theorem Labelled.head_blankedOf (h : Labelled cs ls ss) (gap : ls.head?.map (·.2) = some .opener) :
    ∀ c ∈ (blankedOf ls).head?, isSpace c = true := by
  cases h with
  | comment =>
    rw [blankedOf_comment]
    rintro _ ⟨⟩
    rfl
  | _ => cases gap

theorem apart_cons (here : (ls.head?.map (·.2) = some .opener) → ∀ d, (textOf ls).head? = some d →
    c ≠ '\\' ∧ ¬ (isScalar c = true ∧ isScalar d = true)) (rest : Apart ls) :
    Apart ((c, .text) :: ls) := by
  intro a mem
  rw [joins] at mem
  split at mem
  · next gap =>
    rcases List.mem_append.mp mem with first | later
    · obtain ⟨d, next, rfl⟩ := List.mem_map.mp first
      exact here gap.2 d (Option.mem_toList.mp next)
    · exact rest a later
  · exact rest a mem

/-- Nothing but a quote comes to stand before what follows a string. -/
theorem apart_string (tail : StringTail s) (rest : Apart ls) : Apart (allAs .text s ++ ls) := by
  have closing : Apart (('"', .text) :: ls) :=
    apart_cons (fun _ _ _ => ⟨by decide, fun both => absurd both.1 (by decide)⟩) rest
  induction tail with
  | close => exact closing
  | escape c tail ih =>
    obtain ⟨d, s, rfl⟩ := List.exists_cons_of_ne_nil tail.ne_nil
    have escaped : Apart ((c, .text) :: (allAs .text (d :: s) ++ ls)) := apart_cons nofun ih
    exact apart_cons nofun escaped
  | plain _ _ tail ih =>
    obtain ⟨d, s, rfl⟩ := List.exists_cons_of_ne_nil tail.ne_nil
    exact apart_cons nofun ih

theorem apart_comment (rest : Apart ls) : Apart (('/', .opener) :: (allAs .comment g ++ ls)) := by
  have inner : Apart (allAs .comment g ++ ls) := by
    induction g with
    | nil => exact rest
    | cons c g ih => exact fun a mem => ih a mem
  exact fun a mem => inner a mem

/-- Where a blank keeps two parts of a word or a number apart, or stands after a backslash, the text
is not made of tokens. -/
theorem Labelled.apart (h : Labelled cs ls ss) (passes : Passes (blankedOf ls) []) : Apart ls := by
  induction h with
  | nil => exact nofun
  | @char c cs ls ss quote _ rest ih =>
    rw [blankedOf_text] at passes
    obtain ⟨later, kind⟩ := passes.tail quote
    refine apart_cons (fun gap d next => ?_) (ih later)
    rcases kind with mark | ⟨scalar, ends⟩
    · refine ⟨?_, fun both => ?_⟩
      · rintro rfl
        exact absurd mark (by decide)
      · rw [isScalar_of_isMark mark] at both
        exact absurd both.1 (by decide)
    · refine ⟨?_, fun both => ?_⟩
      · rintro rfl
        exact absurd scalar (by decide)
      · have start := rest.skip_blankedOf next (not_isSpace_of_isScalar both.2)
        have stop := ends (rest.head_blankedOf gap) d start
        rw [both.2] at stop
        cases stop
  | quote unclosed rest _ =>
    rw [blankedOf_text] at passes
    obtain ⟨s, r, token, text, -⟩ := passes.first
    obtain ⟨s, tail, rfl, joined⟩ := token.string_of_quote text
    have still := rest.unclosed_blankedOf.1 unclosed
    rw [joined, closesString_tail tail] at still
    cases still
  | string tail rest ih =>
    rw [blankedOf_text, blankedOf_string] at passes
    obtain ⟨s', r, token, text, later, -⟩ := passes.first
    obtain ⟨s', tail', rfl, same⟩ := token.string_of_quote text
    obtain ⟨-, rfl⟩ := tail.unique tail' same
    refine apart_cons ?_ (apart_string tail (ih later))
    obtain ⟨d, s, rfl⟩ := List.exists_cons_of_ne_nil tail.ne_nil
    exact nofun
  | comment _ _ ih =>
    rw [blankedOf_comment] at passes
    exact apart_comment (ih (passes.tail (by decide)).1)

/-- With a blank in the place of each comment a text has the value of what is left without them if
and only if nothing comes to stand after a backslash, and no two characters of words or numbers come
together, where comments are dropped. It never has another value. -/
theorem parse_blankComments (read : parse (stripComments cs) = .ok v) :
    (parse (blankComments cs) = .ok v ↔ Apart (label .plain cs)) ∧
      ∀ w, parse (blankComments cs) = .ok w → w = v := by
  rw [stripComments_eq_textOf] at read
  rw [blankComments_eq_blankedOf]
  obtain ⟨ss, h⟩ := labelled cs
  have same (apart : Apart (label .plain cs)) : parse (blankedOf (label .plain cs)) = .ok v :=
    parse_spaced (h.spaced apart (passes_of_parse read)) read
  have apart (w : Json) (read' : parse (blankedOf (label .plain cs)) = .ok w) :
      Apart (label .plain cs) := h.apart (passes_of_parse read')
  refine ⟨⟨apart v, same⟩, fun w read' => ?_⟩
  exact Except.ok.inj (read'.symm.trans (same (apart w read')))

/-- Comments between the tokens of a text, one of which holds a backslash. -/
theorem parse_blankComments_between :
    parse (stripComments ['[', '/', '*', '\\', '*', '/', '1', '/', '/', '2', '\n', ']']) =
        .ok (.arr [.int 1]) ∧
      parse (blankComments ['[', '/', '*', '\\', '*', '/', '1', '/', '/', '2', '\n', ']']) =
        .ok (.arr [.int 1]) := by
  have read :
      parse (stripComments ['[', '/', '*', '\\', '*', '/', '1', '/', '/', '2', '\n', ']']) =
        .ok (.arr [.int 1]) := by
    rfl
  exact ⟨read, (parse_blankComments read).1.mpr (by decide)⟩

/-- Two numbers with nothing but a comment between them become one. -/
theorem parse_glued :
    parse (stripComments ['1', '/', '*', '*', '/', '2']) = .ok (.int 12) ∧
      (∀ w, parse (blankComments ['1', '/', '*', '*', '/', '2']) ≠ .ok w) := by
  have read : parse (stripComments ['1', '/', '*', '*', '/', '2']) = .ok (.int 12) := by rfl
  refine ⟨read, fun w read' => ?_⟩
  cases read'

end LspGateway.Config
