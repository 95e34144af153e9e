import GuidedJson.Failure

/-! # Nesting of groups

How deep the groups of a pattern are nested. A bracket in a class or behind a backslash is none.
-/

namespace GuidedJson.Pattern

/-- Where a reader of groups is: how deep and how deep at most, whether in a class and behind a
backslash. -/
structure Groups where
  depth : Nat := 0
  deepest : Nat := 0
  inClass : Bool := false
  escaped : Bool := false

/-- One character further. -/
def Groups.step (g : Groups) (c : Char) : Groups :=
  if g.escaped then { g with escaped := false }
  else if c = '\\' then { g with escaped := true }
  else if g.inClass then { g with inClass := c ≠ ']' }
  else if c = '[' then { g with inClass := true }
  else if c = '(' then { g with depth := g.depth + 1, deepest := max g.deepest (g.depth + 1) }
  else if c = ')' then { g with depth := g.depth - 1 }
  else g

/-- The depth of the deepest group of a pattern. -/
def groupDepth (text : String) : Nat := (text.toList.foldl Groups.step {}).deepest

/-- How deep the groups of a pattern from outside may be nested. -/
def groupLimit : Nat := 120

/-- Checks that the groups of a pattern are not nested too deep to be read. -/
def checkGroups (text : String) : Except Failure Unit :=
  if groupLimit < groupDepth text then .error (.tooDeep "") else .ok ()

end GuidedJson.Pattern
