import GuidedJson.Number.Binary
import GuidedJson.Text.Integer

/-! # JSON values

A parsed JSON document. Members of an object keep their order and have distinct keys; numbers
without fraction and exponent are integers, the others binary64 numbers.
-/

namespace GuidedJson

open Number (Binary)

/-- A JSON document. -/
inductive Value where
  | null
  | bool (b : Bool)
  | int (n : Int)
  | float (x : Binary)
  | string (s : String)
  | array (items : List Value)
  | object (members : List (String × Value))
deriving Repr, Inhabited

namespace Value

/-! ## Equality as data -/

mutual
/-- Equality of documents with the order of their members. -/
def beq : Value → Value → Bool
  | .null, .null => true
  | .bool a, .bool b => a == b
  | .int a, .int b => a == b
  | .float a, .float b => a == b
  | .string a, .string b => a == b
  | .array a, .array b => beqItems a b
  | .object a, .object b => beqMembers a b
  | _, _ => false

def beqItems : List Value → List Value → Bool
  | [], [] => true
  | a :: as, b :: bs => a.beq b && beqItems as bs
  | _, _ => false

def beqMembers : List (String × Value) → List (String × Value) → Bool
  | [], [] => true
  | (k, a) :: as, (l, b) :: bs => k == l && a.beq b && beqMembers as bs
  | _, _ => false
end

instance : BEq Value := ⟨beq⟩

/-! ## Members -/

/-- The value of a key among members. -/
def lookup (key : String) : List (String × Value) → Option Value
  | [] => none
  | (k, v) :: rest => if k = key then some v else lookup key rest

/-- Members with a key set: in place if it is there, at the end otherwise. -/
def insertMember (key : String) (value : Value) : List (String × Value) → List (String × Value)
  | [] => [(key, value)]
  | (k, v) :: rest =>
    if k = key then (k, value) :: rest else (k, v) :: insertMember key value rest

/-- Members of a text, where a repeated key keeps its first place and its last value. -/
def members (pairs : List (String × Value)) : List (String × Value) :=
  pairs.foldl (fun ms (k, v) => insertMember k v ms) []

/-- The value of a key of an object, null where it is missing. -/
def field (key : String) (ms : List (String × Value)) : Value := (lookup key ms).getD .null

def hasKey (key : String) (ms : List (String × Value)) : Bool := (lookup key ms).isSome

@[simp] theorem lookup_nil (key : String) : lookup key [] = none := rfl

theorem lookup_insertMember_self (key : String) (v : Value) (ms : List (String × Value)) :
    lookup key (insertMember key v ms) = some v := by
  induction ms with
  | nil => simp [insertMember, lookup]
  | cons m ms ih =>
    obtain ⟨k, w⟩ := m
    by_cases h : k = key
    · simp [insertMember, lookup, h]
    · simp [insertMember, lookup, h, ih]

theorem lookup_insertMember_of_ne {key other : String} (h : other ≠ key) (v : Value)
    (ms : List (String × Value)) : lookup other (insertMember key v ms) = lookup other ms := by
  induction ms with
  | nil => simp [insertMember, lookup, Ne.symm h]
  | cons m ms ih =>
    obtain ⟨k, w⟩ := m
    by_cases hk : k = key
    · simp [insertMember, lookup, hk, Ne.symm h]
    · simp [insertMember, lookup, hk, ih]

/-! ## Kinds -/

/-- The name of a value's kind in messages. -/
def kindName : Value → String
  | .null => "NoneType"
  | .bool _ => "bool"
  | .int _ => "int"
  | .float _ => "float"
  | .string _ => "str"
  | .array _ => "list"
  | .object _ => "dict"

def isNull : Value → Bool
  | .null => true
  | _ => false

/-- Everything but null, false, zero and what is empty. -/
def truthy : Value → Bool
  | .null => false
  | .bool b => b
  | .int n => n != 0
  | .float x => !x.isZero
  | .string s => s != ""
  | .array xs => !xs.isEmpty
  | .object ms => !ms.isEmpty

/-! ## Numbers -/

/-- The number that a value stands for; false and true are 0 and 1. -/
def numeric? : Value → Option Binary
  | .bool b => some (.exact (if b then 1 else 0))
  | .int n => some (.exact n)
  | .float x => some x
  | _ => none

mutual
/-- Whether no integer in a value has more digits than are written. -/
def isWritable : Value → Bool
  | .int n => Text.isWritable n
  | .array items => areWritable items
  | .object ms => haveWritable ms
  | _ => true

def areWritable : List Value → Bool
  | [] => true
  | v :: vs => v.isWritable && areWritable vs

def haveWritable : List (String × Value) → Bool
  | [] => true
  | (_, v) :: ms => v.isWritable && haveWritable ms
end

/-- Whether a value is the given integer as a number. -/
def isNumber (v : Value) (n : Int) : Bool :=
  match v.numeric? with
  | some x => x.same (.exact n)
  | none => false

end Value

end GuidedJson
