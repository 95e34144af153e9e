import GuidedJson.Json.Value

/-! # Parts of documents

Access to the parts of a document whose shape is known. What is missing or of another kind counts
as null, as empty, or as zero.
-/

namespace GuidedJson.Value

/-- The members of an object. -/
def asMembers : Value → List (String × Value)
  | .object ms => ms
  | _ => []

/-- The items of an array. -/
def asItems : Value → List Value
  | .array vs => vs
  | _ => []

/-- The member of a key. -/
def member (v : Value) (key : String) : Value := field key v.asMembers

def hasMember (v : Value) (key : String) : Bool := hasKey key v.asMembers

/-- The member of a key, or a default where the key is missing. -/
def memberD (v : Value) (key : String) (default : Value) : Value :=
  (lookup key v.asMembers).getD default

def asText? : Value → Option String
  | .string s => some s
  | _ => none

def asText (v : Value) : String := v.asText?.getD ""

/-- An integer; false and true are 0 and 1. -/
def asInt? : Value → Option Int
  | .int n => some n
  | .bool b => some (if b then 1 else 0)
  | _ => none

def asInt (v : Value) : Int := v.asInt?.getD 0

def asNat (v : Value) : Nat := v.asInt.toNat

/-- A number, or one of the texts for what is no finite number. -/
def asFloat : Value → Number.Binary
  | .string "inf" => .infinite false
  | .string "-inf" => .infinite true
  | .int n => .ofInt n
  | .float x => x
  | .bool b => .exact (if b then 1 else 0)
  | _ => .nan

end GuidedJson.Value
