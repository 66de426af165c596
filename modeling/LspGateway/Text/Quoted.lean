import LspGateway.Text.Digits
import LspGateway.Text.PrintTable

/-! # Quoted text

How a text is shown inside a message: between single quotes, or double quotes
if it holds single quotes only, with escapes for the quote, the backslash and
every character without a visible form.
-/

namespace LspGateway.Text

/-- Has a visible form, or is the space. -/
def isVisible (c : Char) : Bool :=
  let n := c.toNat
  if n < 127 then 32 ≤ n else !(PrintTable.hidden.any fun (a, b) => a ≤ n && n ≤ b)

/-- One character of a quoted text. -/
def quoteChar (q c : Char) : List Char :=
  if c = q || c = '\\' then ['\\', c]
  else if c = '\t' then ['\\', 't']
  else if c = '\n' then ['\\', 'n']
  else if c = '\r' then ['\\', 'r']
  else if isVisible c then [c]
  else if c.toNat < 0x100 then '\\' :: 'x' :: (hex 2 c.toNat).toList
  else if c.toNat < 0x10000 then '\\' :: 'u' :: (hex 4 c.toNat).toList
  else '\\' :: 'U' :: (hex 8 c.toNat).toList

/-- The quote used for a text: double only if it holds single quotes and no
double one. -/
def quoteFor (cs : List Char) : Char :=
  if cs.contains '\'' && !cs.contains '"' then '"' else '\''

/-- The text between quotes. -/
def quoted (s : String) : String :=
  let cs := s.toList
  let q := quoteFor cs
  .ofList (q :: cs.flatMap (quoteChar q) ++ [q])

end LspGateway.Text
