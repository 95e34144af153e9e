import GuidedJson.Json.Value
import GuidedJson.Number.Shortest
import GuidedJson.Text.Quoted

/-! # JSON texts

Two layouts: on one line with `, ` and `: `, and with every item on its own line, indented by a
number of spaces per level. Characters beyond ASCII are written as themselves.
-/

namespace GuidedJson

open Number (Binary)

/-! ## Layout -/

/-- The white space around the punctuation of a collection. -/
structure Spacing where
  afterOpen : String
  between : String
  beforeClose : String
  afterKey : String
deriving DecidableEq, Repr

/-- The spaces of one level; a width below zero gives none. -/
def indentation (indent : Int) : List Char := List.replicate indent.toNat ' '

/-- A new line and the indentation of every level that it stands in. -/
def newLine (indent depth : Int) : String :=
  "\n" ++ String.ofList (List.replicate depth.toNat (indentation indent)).flatten

/-- Indentations are a row of spaces. -/
theorem newLine_eq (indent depth : Int) :
    newLine indent depth = "\n" ++ String.ofList (List.replicate (depth.toNat * indent.toNat) ' ') := by
  rw [newLine, indentation, List.flatten_replicate_replicate]

/-- Spacing at a nesting depth; without an indentation everything is on one line. -/
def Spacing.at (indent : Option Int) (depth : Int) : Spacing :=
  match indent with
  | none => ⟨"", ", ", "", ": "⟩
  | some n => ⟨newLine n (depth + 1), "," ++ newLine n (depth + 1), newLine n depth, ": "⟩

@[simp] theorem Spacing.afterKey_at (indent : Option Int) (depth : Int) :
    (Spacing.at indent depth).afterKey = ": " := by
  cases indent <;> rfl

/-! ## Strings -/

/-- One character inside a JSON string. -/
def jsonChar (c : Char) : List Char :=
  if c = '"' then ['\\', '"']
  else if c = '\\' then ['\\', '\\']
  else if c = '\n' then ['\\', 'n']
  else if c = '\r' then ['\\', 'r']
  else if c = '\t' then ['\\', 't']
  else if c.toNat = 8 then ['\\', 'b']
  else if c.toNat = 12 then ['\\', 'f']
  else if c.toNat < 32 then '\\' :: 'u' :: Text.hexDigits 4 c.toNat
  else [c]

def jsonChars (cs : List Char) : List Char := '"' :: cs.flatMap jsonChar ++ ['"']

/-- A text as a JSON string. -/
def jsonString (s : String) : String := String.ofList (jsonChars s.toList)

/-! ## Documents -/

/-- Items between brackets in a layout. -/
def enclose (spacing : Spacing) (left right : String) (items : List String) : String :=
  if items.isEmpty then left ++ right
  else
    left ++ spacing.afterOpen ++ spacing.between.intercalate items ++ spacing.beforeClose ++ right

namespace Value

mutual
/-- The text of a value that stands at a nesting depth. -/
def renderAt (indent : Option Int) (depth : Int) : Value → String
  | .null => "null"
  | .bool b => if b then "true" else "false"
  | .int n => toString n
  | .float x => x.text .json
  | .string s => jsonString s
  | .array items =>
    enclose (Spacing.at indent depth) "[" "]" (renderItems indent (depth + 1) items)
  | .object ms =>
    enclose (Spacing.at indent depth) "\x7b" "\x7d" (renderMembers indent (depth + 1) ms)

def renderItems (indent : Option Int) (depth : Int) : List Value → List String
  | [] => []
  | v :: vs => v.renderAt indent depth :: renderItems indent depth vs

def renderMembers (indent : Option Int) (depth : Int) : List (String × Value) → List String
  | [] => []
  | (k, v) :: ms =>
    (jsonString k ++ ": " ++ v.renderAt indent depth) :: renderMembers indent depth ms
end

/-- The text of a document, whatever integers there are in it. -/
def render (indent : Option Int) (v : Value) : String := v.renderAt indent 0

/-- The text of a document that can be written. -/
def write? (indent : Option Int) (v : Value) : Option String :=
  if v.isWritable then some (v.render indent) else none

end Value

end GuidedJson
