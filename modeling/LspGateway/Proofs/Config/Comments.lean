import LspGateway.Config.Comments
import LspGateway.Proofs.Json.Tokens

/-! # Comments change nothing

Comments put between the tokens of a text are taken out again whole, except for the
newline that ends a line comment. Strings are passed over as they are, whatever marks
of comments they hold. What is left is the text with newlines between its tokens, and
has its value.
-/

namespace LspGateway.Config
open LspGateway.Json

/-- A comment that may stand before the text `rest`. -/
inductive Comment : List Char → List Char → Prop
  | block {body rest : List Char} (unclosed : ¬ ['*', '/'] <:+: body) :
    Comment ('/' :: '*' :: (body ++ ['*', '/'])) rest
  /-- With the newline that ends it. -/
  | line {body rest : List Char} (single : '\n' ∉ body) :
    Comment ('/' :: '/' :: (body ++ ['\n'])) rest
  /-- Up to a newline of the text or to its end. -/
  | rest {body rest : List Char} (single : '\n' ∉ body) (stop : ∀ c ∈ rest.head?, c = '\n') :
    Comment ('/' :: '/' :: body) rest

/-- What is kept of a text from a mode on. -/
def kept (mode : Mode) (cs : List Char) : List Char :=
  ((label mode cs).filter (·.2 = .text)).map (·.1)

theorem stripComments_eq (cs : List Char) : stripComments cs = kept .plain cs := rfl

/-- The characters of the text are kept in this mode, and not dropped as a comment. -/
def Mode.keeps : Mode → Bool
  | .plain | .string => true
  | .line | .block => false

/-- Before the text `cs` the character opens and closes nothing in this mode. -/
def Mode.Ignores (c : Char) (cs : List Char) : Mode → Prop
  | .plain => c ≠ '"' ∧ c ≠ '/'
  | .string => c ≠ '"' ∧ c ≠ '\\'
  | .line => c ≠ '\n'
  | .block => ¬ ['*', '/'] <+: c :: cs

section Kept

variable {c : Char} {cs s t t' r body : List Char}

@[simp] theorem kept_nil (mode : Mode) : kept mode [] = [] := by cases mode <;> rfl

theorem kept_quote (cs : List Char) :
    kept .plain ('"' :: cs) = '"' :: kept (if closesString cs then .string else .plain) cs := rfl

theorem kept_ignored (mode : Mode) (h : mode.Ignores c cs) :
    kept mode (c :: cs) = if mode.keeps then c :: kept mode cs else kept mode cs := by
  cases mode with
  | plain =>
    obtain ⟨quote, slash⟩ := h
    simp [kept, label, slash, Mode.keeps]
  | string =>
    obtain ⟨quote, slash⟩ := h
    simp [kept, label, slash, Mode.keeps]
  | line =>
    have other : c ≠ '\n' := h
    simp [kept, label, Mode.keeps]
  | block =>
    rw [kept, label]
    · rfl
    · rintro r rfl rfl
      exact h ⟨r, rfl⟩

theorem kept_plain (quote : c ≠ '"') (slash : c ≠ '/') (cs : List Char) :
    kept .plain (c :: cs) = c :: kept .plain cs :=
  kept_ignored .plain ⟨quote, slash⟩

theorem kept_openLine (cs : List Char) : kept .plain ('/' :: '/' :: cs) = kept .line cs := rfl

theorem kept_openBlock (h : closesBlock cs = true) :
    kept .plain ('/' :: '*' :: cs) = kept .block cs := by
  simp [kept, label, h]

theorem kept_newline (cs : List Char) : kept .line ('\n' :: cs) = '\n' :: kept .plain cs := rfl

theorem kept_line (h : c ≠ '\n') (cs : List Char) : kept .line (c :: cs) = kept .line cs :=
  kept_ignored .line h

theorem kept_closeBlock (cs : List Char) :
    kept .block ('*' :: '/' :: cs) = kept .plain cs := rfl

theorem kept_block (h : ¬ ['*', '/'] <+: c :: cs) : kept .block (c :: cs) = kept .block cs :=
  kept_ignored .block h

/-! ## Tokens -/

theorem closesString_tail (h : StringTail s) (r : List Char) : closesString (s ++ r) = true := by
  induction h with
  | close => rfl
  | escape c _ ih => exact ih
  | plain quote slash _ ih =>
    rw [List.cons_append, closesString] <;> simp_all

theorem kept_tail (h : StringTail s) (r : List Char) :
    kept .string (s ++ r) = s ++ kept .plain r := by
  induction h with
  | close => rfl
  | escape c _ ih => exact congrArg (fun cs => '\\' :: c :: cs) ih
  | @plain c s quote slash _ ih =>
    rw [List.cons_append, kept_ignored .string ⟨quote, slash⟩, ih]
    rfl

theorem kept_scalar (all : ∀ c ∈ s, isScalar c = true) (r : List Char) :
    kept .plain (s ++ r) = s ++ kept .plain r := by
  induction s with
  | nil => rfl
  | cons c s ih =>
    have scalar := all c List.mem_cons_self
    have other : c ≠ '"' ∧ c ≠ '/' := by
      constructor <;> (rintro rfl; exact absurd scalar (by decide))
    rw [List.cons_append, kept_plain other.1 other.2,
      ih fun d hd => all d (List.mem_cons_of_mem c hd)]
    rfl

theorem kept_mark (mark : isMark c = true) (r : List Char) :
    kept .plain (c :: r) = c :: kept .plain r := by
  refine kept_plain ?_ ?_ r <;> (rintro rfl; exact absurd mark (by decide))

/-- A token is kept as it is, with what it holds of marks of comments. -/
theorem kept_token (h : Token s t) (r : List Char) :
    kept .plain (s ++ r) = s ++ kept .plain r := by
  cases h with
  | string tail =>
    rw [List.cons_append, kept_quote, if_pos (closesString_tail tail r), kept_tail tail]
    rfl
  | scalar _ all => exact kept_scalar all r
  | mark mark => exact kept_mark mark r

/-! ## Comments -/

theorem closesBlock_append (body r : List Char) : closesBlock (body ++ '*' :: '/' :: r) = true := by
  induction body with
  | nil => rfl
  | cons c body ih =>
    rw [List.cons_append, closesBlock.eq_def]
    split <;> simp_all

/-- A block goes on up to its first closing mark. -/
theorem kept_blockBody (unclosed : ¬ ['*', '/'] <:+: body) (r : List Char) :
    kept .block (body ++ '*' :: '/' :: r) = kept .plain r := by
  induction body with
  | nil => exact kept_closeBlock r
  | cons c body ih =>
    have inner : ¬ ['*', '/'] <:+: body := fun h =>
      unclosed (h.trans (List.infix_cons List.infix_rfl))
    have here : ¬ ['*', '/'] <+: c :: (body ++ '*' :: '/' :: r) := by
      rintro ⟨u, hu⟩
      cases body with
      | nil => simp at hu
      | cons d body =>
        obtain ⟨rfl, rfl, -⟩ := by simpa using hu
        exact unclosed ⟨[], body, rfl⟩
    rw [List.cons_append, kept_block here, ih inner]

theorem kept_lineBody (single : '\n' ∉ body) (r : List Char) :
    kept .line (body ++ r) = kept .line r := by
  induction body with
  | nil => rfl
  | cons c body ih =>
    obtain ⟨here, inner⟩ := not_or.mp (mt List.mem_cons.mpr single)
    rw [List.cons_append, kept_line (Ne.symm here), ih inner]

/-- Before a newline or the end, the line of a comment is over. -/
theorem kept_stop (stop : ∀ c ∈ r.head?, c = '\n') : kept .line r = kept .plain r := by
  cases r with
  | nil => simp
  | cons c r =>
    obtain rfl := stop c rfl
    rw [kept_newline, kept_plain (by decide) (by decide)]

/-- Of a comment nothing is kept, or the newline that ends it. -/
theorem kept_comment (h : Comment s r) :
    kept .plain (s ++ r) = kept .plain r ∨ kept .plain (s ++ r) = '\n' :: kept .plain r := by
  cases h with
  | block unclosed =>
    left
    simp only [List.cons_append, List.append_assoc, List.nil_append]
    rw [kept_openBlock (closesBlock_append _ r), kept_blockBody unclosed]
  | line single =>
    right
    simp only [List.cons_append, List.append_assoc, List.nil_append]
    rw [kept_openLine, kept_lineBody single, kept_newline]
  | rest single stop =>
    left
    rw [List.cons_append, List.cons_append, kept_openLine, kept_lineBody single, kept_stop stop]

/-- Without its comments a text has newlines in their places. -/
theorem interspersed_kept (h : Interspersed Comment t t') :
    Interspersed (fun p _ => p = ['\n']) t (kept .plain t') := by
  induction h with
  | nil => exact .nil
  | token token _ ih =>
    rw [kept_token token]
    exact .token token ih
  | piece comment _ ih =>
    rcases kept_comment comment with nothing | newline
    · rwa [nothing]
    · rw [newline]
      exact .piece (p := ['\n']) rfl ih

end Kept

variable {t : List Char} {v : Json}

/-- A text that has a value is made of tokens. With comments put between them it is the
same again when these are dropped, but for newlines between its tokens, and has the
same value. -/
theorem parse_stripComments (read : parse t = .ok v) :
    Interspersed Comment t t ∧
      ∀ t', Interspersed Comment t t' →
        Interspersed (fun p _ => p = ['\n']) t (stripComments t') ∧
          parse (stripComments t') = .ok v := by
  refine ⟨(passes_of_parse read).interspersed, fun t' h => ?_⟩
  have newlines := interspersed_kept h
  rw [← stripComments_eq] at newlines
  refine ⟨newlines, parse_spaced (newlines.mono ?_) read⟩
  rintro p _ rfl c hc
  obtain rfl := List.mem_singleton.mp hc
  rfl

/-- A text whose key holds marks of comments and an escaped quote, with comments that
hold quotes, next to each other, and at both ends. -/
theorem parse_stripComments_marks :
    parse ['\x7b', '"', '/', '/', '\\', '"', '/', '*', '"', ':', '1', '\x7d'] =
        .ok (.obj [("//\"/*", .int 1)]) ∧
      parse (stripComments ['/', '*', '"', '*', '/', '\x7b', '/', '/', '"', '\n',
        '"', '/', '/', '\\', '"', '/', '*', '"', '/', '*', '*', '/', '/', '*', '*', '*', '/',
        ':', '1', '\x7d', '/', '/', '*']) = .ok (.obj [("//\"/*", .int 1)]) := by
  have read : parse ['\x7b', '"', '/', '/', '\\', '"', '/', '*', '"', ':', '1', '\x7d'] =
      .ok (.obj [("//\"/*", .int 1)]) := by rfl
  have key : StringTail ['/', '/', '\\', '"', '/', '*', '"'] :=
    .plain (by decide) (by decide) (.plain (by decide) (by decide) (.escape '"'
      (.plain (by decide) (by decide) (.plain (by decide) (by decide) .close))))
  have number : Token ['1'] ['\x7d'] := .scalar (by decide) (by simp; decide) (by simp; decide)
  refine ⟨read, ((parse_stripComments read).2 _ ?_).2⟩
  refine .piece (@Comment.block ['"'] _ (by decide)) ?_
  refine .token (s := ['\x7b']) (.mark rfl) ?_
  refine .piece (@Comment.line ['"'] _ (by decide)) ?_
  refine .token (.string key) ?_
  refine .piece (@Comment.block [] _ (by decide)) (.piece (@Comment.block ['*'] _ (by decide)) ?_)
  refine .token (s := [':']) (.mark rfl) (.token number (.token (s := ['\x7d']) (.mark rfl) ?_))
  exact .piece (@Comment.rest ['*'] [] (by decide) (by simp)) .nil

end LspGateway.Config
