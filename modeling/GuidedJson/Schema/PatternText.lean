import GuidedJson.Json.Printer
import GuidedJson.Schema.Node

/-! # Pattern texts

The pattern of a schema describes the texts of its values in one layout. White space is never
free: the indentation fixes where it stands. Bounds go into the pattern as they are written in
messages, and a bound that has no number before it is a mismatch.
-/

namespace GuidedJson

namespace Value

/-- The number before a bound. -/
def pred : Value → Except Failure Value
  | .bool b => .ok (.int (if b then 0 else -1))
  | .int n => .ok (.int (n - 1))
  | .float x => .ok (.float x.pred)
  | v => .error (.mismatch (.noOperator "-" v.kindName "int"))

/-- The larger of a value and zero; the value where neither is larger. -/
def atLeastZero (v : Value) : Value :=
  if ((Value.int 0).exceeds v).toOption = some true then .int 0 else v

/-- A bound as it is written into a pattern. -/
def boundText (v : Value) : Except Failure String := Failure.written v.display?

/-- A bound, or zero where it says nothing. -/
def orZero (v : Value) : Value := if v.truthy then v else .int 0

end Value

namespace Schema

/-! ## Literals -/

/-- Characters with a meaning of their own in a pattern. -/
def isSpecial (c : Char) : Bool := "\\.^$*+?\x7b\x7d[]()|".toList.contains c

def escapeLiteralChar (c : Char) : List Char := if isSpecial c then ['\\', c] else [c]

/-- The pattern that matches exactly a text. -/
def escapeLiteral (s : String) : String := String.ofList (s.toList.flatMap escapeLiteralChar)

/-- The pattern that matches exactly the JSON form of a text. -/
def jsonLiteral (s : String) : String := escapeLiteral (jsonString s)

/-! ## White space -/

/-- Whether a width counts characters. -/
def CountsCharacters (width : Int) : Prop := -Nat.pow 2 63 ≤ width ∧ width < Nat.pow 2 63

instance (width : Int) : Decidable (CountsCharacters width) := inferInstanceAs (Decidable (_ ∧ _))

/-- A row of spaces, none for a width below zero. A width that counts no characters is refused. -/
def spaces (width : Int) : Except Failure String :=
  if CountsCharacters width then .ok (String.ofList (List.replicate width.toNat ' '))
  else .error .tooWide

/-- The white space around the punctuation of a collection at a nesting depth; without an
indentation everything is on one line. -/
def layout (indent : Option Int) (depth : Int) : Except Failure Spacing :=
  match indent with
  | none => .ok ⟨"", ", ", "", ": "⟩
  | some n => do
    let inner ← spaces (n * (depth + 1))
    let outer ← spaces (n * depth)
    return ⟨"\n" ++ inner, ",\n" ++ inner, "\n" ++ outer, ": "⟩

/-! ## Leaves -/

/-- One character of a JSON string: raw, with a short escape, or by its code. -/
def stringCharPattern : String :=
  "([^\"\\\\\\x00-\\x1f]|\\\\[\"\\\\/bfnrt]|\\\\u[0-9a-fA-F]\x7b4\x7d)"

def integerPattern : String := "-?(0|[1-9][0-9]*)"

def numberPattern : String := integerPattern ++ "(\\.[0-9]+)?([eE][+-]?[0-9]+)?"

/-- A repetition between two bounds. -/
def braces (least most : String) : String := "\x7b" ++ least ++ "," ++ most ++ "\x7d"

/-- How often the characters of a string are repeated. -/
def lengthQuantifier (least most : Value) : Except Failure String :=
  if most.isNull then
    if least.isNull then return "*" else return braces (← least.boundText) ""
  else do
    let low ← least.orZero.boundText
    let high ← most.boundText
    return braces low high

/-- Alternatives in parentheses. -/
def alternatives (patterns : List String) : String := "(" ++ "|".intercalate patterns ++ ")"

/-! ## Arrays -/

/-- How often the items after the first are repeated; `least` is not null. -/
def tailQuantifier (least most : Value) : Except Failure String :=
  if most.isNull then do
    if ← (least.exceeds (.int 1)).mapError .mismatch then
      return braces (← (← least.pred).boundText) ""
    else return "*"
  else do
    let low ← (← least.pred).atLeastZero.boundText
    let high ← (← most.pred).boundText
    return braces low high

/-- An array given the pattern of an item. -/
def arrayPattern (spacing : Spacing) (item : String) (least most : Value) :
    Except Failure String := do
  let least := least.orZero
  let repetition ←
    if most.isNumber 1 then pure ""
    else
      (tailQuantifier least most).map fun q => "(" ++ spacing.between ++ item ++ ")" ++ q
  let body := spacing.afterOpen ++ item ++ repetition ++ spacing.beforeClose
  if least.isNumber 0 then return "\\[(" ++ body ++ ")?\\]" else return "\\[" ++ body ++ "\\]"

/-! ## Schemas -/

namespace Node

mutual
/-- The pattern of a schema whose value stands at a nesting depth. -/
def patternAt (indent : Option Int) (depth : Int) : Node → Except Failure String
  | .boolean => .ok "(true|false)"
  | .integer => .ok integerPattern
  | .number => .ok numberPattern
  | .null => .ok "null"
  | .text least most =>
    (lengthQuantifier least most).map fun q => "\"" ++ stringCharPattern ++ q ++ "\""
  | .choice choices => .ok (alternatives (choices.map jsonLiteral))
  | .object properties =>
    if properties.isEmpty then .ok "\\\x7b\\\x7d"
    else do
      let spacing ← layout indent depth
      let members ← propertyPatterns spacing.afterKey indent (depth + 1) properties
      return "\\\x7b" ++ spacing.afterOpen ++ spacing.between.intercalate members ++
        spacing.beforeClose ++ "\\\x7d"
  | .array items least most =>
    if most.isNumber 0 then .ok "\\[\\]"
    else do
      let spacing ← layout indent depth
      let item ← items.patternAt indent (depth + 1)
      arrayPattern spacing item least most
  | .union members => do
    match ← patterns indent depth members with
    | [p] => return p
    | ps => return alternatives ps

def patterns (indent : Option Int) (depth : Int) : List Node → Except Failure (List String)
  | [] => .ok []
  | n :: ns => do
    let p ← n.patternAt indent depth
    let ps ← patterns indent depth ns
    return p :: ps

def propertyPatterns (afterKey : String) (indent : Option Int) (depth : Int) :
    List (Property Node) → Except Failure (List String)
  | [] => .ok []
  | ⟨name, schema, _⟩ :: ps => do
    let p ← schema.patternAt indent depth
    let rest ← propertyPatterns afterKey indent depth ps
    return (jsonLiteral name ++ afterKey ++ p) :: rest
end

/-- The indentation of a layout is not negative. -/
def checkIndent : Option Int → Except Failure Unit
  | some n => if n < 0 then .error (.argument (.indent n)) else .ok ()
  | none => .ok ()

/-- The pattern of a whole text. -/
def pattern (indent : Option Int) (n : Node) : Except Failure String := do
  checkIndent indent
  n.patternAt indent 0

@[simp] theorem checkIndent_none : checkIndent none = .ok () := rfl

theorem checkIndent_some {n : Int} (h : 0 ≤ n) : checkIndent (some n) = .ok () := by
  simp [checkIndent, Int.not_lt.2 h]

end Node

end Schema

end GuidedJson
