import GuidedJson.Json.Printer

/-! # JSON texts in ASCII

A document can be written with ASCII characters alone: every other character is an escape of its
UTF-16 units. Such characters occur only inside strings, so the finished text is escaped.
-/

namespace GuidedJson.Json

/-- The escape of a UTF-16 unit. -/
def escapedUnit (n : Nat) : List Char := '\\' :: 'u' :: Text.hexDigits 4 n

/-- A character as ASCII; beyond the first plane it has two units. -/
def asciiChar (c : Char) : List Char :=
  let n := c.toNat
  if n < 127 then [c]
  else if n < 0x10000 then escapedUnit n
  else escapedUnit (0xD800 + (n - 0x10000) / 0x400) ++ escapedUnit (0xDC00 + (n - 0x10000) % 0x400)

/-- A JSON text with the escapes. -/
def asciiText (s : String) : String := String.ofList (s.toList.flatMap asciiChar)

end GuidedJson.Json
