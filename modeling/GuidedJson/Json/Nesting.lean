import GuidedJson.Failure

/-! # Nesting

How deep the collections of a text are nested. A document from outside is read only as far as it is
nested no deeper than a limit.
-/

namespace GuidedJson.Json

/-! ## Depth -/

/-- Where a reader of brackets is: how far and how deep, whether inside a string and behind a
backslash in one. The first bracket that is too deep is kept with its offset. -/
structure Nesting where
  offset : Nat := 0
  depth : Nat := 0
  quoted : Bool := false
  escaped : Bool := false
  excess : Option (Nat × Char) := none

namespace Nesting

/-- What a character does to the depth and to strings. -/
def enter (n : Nesting) (c : Char) : Nesting :=
  if n.escaped then { n with escaped := false }
  else if n.quoted then { n with escaped := c = '\\', quoted := c ≠ '"' }
  else if c = '"' then { n with quoted := true }
  else if c = '[' || c = '\x7b' then { n with depth := n.depth + 1 }
  else if c = ']' || c = '\x7d' then { n with depth := n.depth - 1 }
  else n

/-- One character further. -/
def step (limit : Nat) (n : Nesting) (c : Char) : Nesting :=
  let m := n.enter c
  { m with
    offset := n.offset + 1
    excess := if n.excess.isNone && limit < m.depth then some (n.offset, c) else n.excess }

end Nesting

/-- The first bracket of a text that is nested deeper than a limit, after its offset. -/
def excess? (limit : Nat) (cs : List Char) : Option (Nat × Char) :=
  (cs.foldl (Nesting.step limit) {}).excess

/-! ## Reading -/

/-- How deep a document from outside may be nested. -/
def nestingLimit : Nat := 990

/-- A collection that is too deep, by its bracket. -/
def tooDeep (bracket : Char) : Failure :=
  .tooDeep (" while decoding a JSON " ++ (if bracket = '[' then "array" else "object") ++
    " from a unicode string")

/-- The document of a text from outside. A fault before the text is too deep comes first. -/
def readWithin (limit : Nat) (malformed : Fault → Failure) (text : String) :
    Except Failure Value :=
  match excess? limit text.toList, parse text with
  | none, answer => answer.mapError (.ofJson malformed)
  | some (offset, bracket), .error (.malformed fault) =>
    .error (if fault.offset < offset then malformed fault else tooDeep bracket)
  | some (_, bracket), _ => .error (tooDeep bracket)

end GuidedJson.Json
