import GuidedJson.Json.Nesting

/-! # Nesting of schemas

Reading a schema takes one step for itself and one for what it describes, and one more where several
schemas are read for it. Schemas inside one another take no more steps than a limit.
-/

namespace GuidedJson.Schema

/-- The steps for an array of types in place of one. -/
def typeSteps : Value → Nat
  | .array _ => 3
  | _ => 0

mutual
/-- The steps that reading a schema takes inside one another. -/
def steps : Value → Nat
  | .object ms => 1 + typeSteps (Value.field "type" ms) + stepsOfMembers ms
  | _ => 1

/-- The steps of the deepest schema among the members of a schema. -/
def stepsOfMembers : List (String × Value) → Nat
  | [] => 0
  | (key, v) :: ms => max (stepsOfMember key v) (stepsOfMembers ms)

def stepsOfMember (key : String) : Value → Nat
  | .object ms =>
    if key = "properties" then 1 + stepsOfNamed ms
    else if key = "items" then 2 + typeSteps (Value.field "type" ms) + stepsOfMembers ms
    else 0
  | .array vs => if key = "anyOf" || key = "oneOf" then 2 + stepsOfAll vs else 0
  | _ => 0

/-- The steps of the deepest of named schemas. -/
def stepsOfNamed : List (String × Value) → Nat
  | [] => 0
  | (_, v) :: ms => max (steps v) (stepsOfNamed ms)

/-- The steps of the deepest of several schemas. -/
def stepsOfAll : List Value → Nat
  | [] => 0
  | v :: vs => max (steps v) (stepsOfAll vs)
end

/-- How many steps reading a schema from outside may take. -/
def stepLimit : Nat := 990

/-- Checks that schemas are not nested too deep to be read. -/
def checkSteps (v : Value) : Except Failure Unit :=
  if stepLimit < steps v then .error (.tooDeep "") else .ok ()

/-- The document of a schema from outside. -/
def readWithin (text : String) : Except Failure Value := do
  let v ← Json.readWithin Json.nestingLimit .json text
  checkSteps v
  return v

/-- Checks that a text is not nested too deep; whether it is a schema does not matter. -/
def checkText (text : String) : Except Failure Unit :=
  match readWithin text with
  | .error (.tooDeep place) => .error (.tooDeep place)
  | _ => .ok ()

end GuidedJson.Schema
