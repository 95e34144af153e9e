import GuidedJson.Text.Hex
import GuidedJson.Text.Printable

/-! # Quoted texts

How a text is shown inside a message: in single quotes, or in double quotes where it holds a
single quote and no double one. The quote in use, the backslash and everything unprintable are
escaped.
-/

namespace GuidedJson.Text

/-- The quote that needs the fewest escapes: single, unless only single quotes occur. -/
def quoteFor (cs : List Char) : Char :=
  if cs.contains '\'' && !cs.contains '"' then '"' else '\''

/-- One character between quotes. -/
def escapeChar (quote c : Char) : List Char :=
  let n := c.toNat
  if c = quote || c = '\\' then ['\\', c]
  else if c = '\n' then ['\\', 'n']
  else if c = '\r' then ['\\', 'r']
  else if c = '\t' then ['\\', 't']
  else if isPrintable n then [c]
  else if n < 0x100 then '\\' :: 'x' :: hexDigits 2 n
  else if n < 0x10000 then '\\' :: 'u' :: hexDigits 4 n
  else '\\' :: 'U' :: hexDigits 8 n

/-- The text between quotes. -/
def quoted (s : String) : String :=
  let cs := s.toList
  let quote := quoteFor cs
  String.ofList (quote :: cs.flatMap (escapeChar quote) ++ [quote])

/-! ## Lists in messages -/

/-- Items between brackets, separated by commas. -/
def bracketed (items : List String) : String := "[" ++ ", ".intercalate items ++ "]"

/-- A list of texts as a message shows it. -/
def quotedList (items : List String) : String := bracketed (items.map quoted)

end GuidedJson.Text
