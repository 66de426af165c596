/-! # Comments in configuration text

A line comment runs up to the end of its line, a block comment up to its closing
mark. Neither starts inside a string, and a string or block that is never closed
is no string and no block. Every character is labelled with its part in this
grammar, so that dropping the comments is a filter.
-/

namespace LspGateway.Config

/-- The part a character plays. -/
inductive Role
  /-- Belongs to the text. -/
  | text
  /-- Starts a comment. -/
  | opener
  /-- Belongs to a comment. -/
  | comment
  deriving DecidableEq, Repr

/-- What the characters before have opened. -/
inductive Mode
  | plain
  | string
  | line
  | block
  deriving DecidableEq, Repr

/-- Whether a string that was opened is closed: a quote that no backslash escapes
follows. -/
def closesString : List Char → Bool
  | [] => false
  | '"' :: _ => true
  | '\\' :: _ :: cs => closesString cs
  | _ :: cs => closesString cs

/-- Whether a block that was opened is closed. -/
def closesBlock : List Char → Bool
  | [] => false
  | '*' :: '/' :: _ => true
  | _ :: cs => closesBlock cs

/-- The characters of a text with their roles. -/
def label : Mode → List Char → List (Char × Role)
  | _, [] => []
  | .plain, '"' :: cs =>
    ('"', .text) :: label (if closesString cs then .string else .plain) cs
  | .plain, '/' :: '/' :: cs => ('/', .opener) :: ('/', .comment) :: label .line cs
  | .plain, '/' :: '*' :: cs =>
    if closesBlock cs then ('/', .opener) :: ('*', .comment) :: label .block cs
    else ('/', .text) :: label .plain ('*' :: cs)
  | .plain, c :: cs => (c, .text) :: label .plain cs
  | .string, '"' :: cs => ('"', .text) :: label .plain cs
  | .string, '\\' :: c :: cs => ('\\', .text) :: (c, .text) :: label .string cs
  | .string, c :: cs => (c, .text) :: label .string cs
  | .line, '\n' :: cs => ('\n', .text) :: label .plain cs
  | .line, c :: cs => (c, .comment) :: label .line cs
  | .block, '*' :: '/' :: cs => ('*', .comment) :: ('/', .comment) :: label .plain cs
  | .block, c :: cs => (c, .comment) :: label .block cs

/-- The text without its comments. -/
def stripComments (cs : List Char) : List Char :=
  ((label .plain cs).filter (·.2 = .text)).map (·.1)

/-- The text with a blank in place of each comment. -/
def blankComments (cs : List Char) : List Char :=
  (label .plain cs).filterMap fun (c, role) =>
    match role with
    | .text => some c
    | .opener => some ' '
    | .comment => none

end LspGateway.Config
