import GuidedJson.Json.Value
import GuidedJson.Number.Shortest
import GuidedJson.Text.Quoted

/-! # Values in messages

How a value appears inside a message: texts are quoted when they stand in a collection or are
shown as data, and bare when they are inserted.
-/

namespace GuidedJson

open Number (Binary)

namespace Value

mutual
/-- A value shown as data. -/
def inspect : Value → String
  | .null => "None"
  | .bool b => if b then "True" else "False"
  | .int n => toString n
  | .float x => x.text .message
  | .string s => Text.quoted s
  | .array items => Text.bracketed (inspectItems items)
  | .object ms => "\x7b" ++ ", ".intercalate (inspectMembers ms) ++ "\x7d"

def inspectItems : List Value → List String
  | [] => []
  | v :: vs => v.inspect :: inspectItems vs

def inspectMembers : List (String × Value) → List String
  | [] => []
  | (k, v) :: ms => (Text.quoted k ++ ": " ++ v.inspect) :: inspectMembers ms
end

/-- A value inserted into a sentence: a text stands bare. -/
def display : Value → String
  | .string s => s
  | v => v.inspect

/-- A value shown as data, if it can be written. -/
def inspect? (v : Value) : Option String := if v.isWritable then some v.inspect else none

/-- A value inserted into a sentence, if it can be written. -/
def display? (v : Value) : Option String := if v.isWritable then some v.display else none

/-! ## Conversion to an integer -/

/-- Why a value is no integer. -/
inductive IntegerFault where
  | literal (text : String)
  | digits (count : Option Nat)
  | kind (name : String)
  | nan
  | infinity
deriving DecidableEq, Repr

/-- What is wrong with a value; of a long text only the beginning is shown. -/
def IntegerFault.message : IntegerFault → String
  | .literal text =>
    "invalid literal for int() with base 10: " ++ String.ofList ((Text.quoted text).toList.take 200)
  | .digits count => Text.tooManyDigits count
  | .kind name =>
    "int() argument must be a string, a bytes-like object or a real number, not '" ++ name ++ "'"
  | .nan => "cannot convert float NaN to integer"
  | .infinity => "cannot convert float infinity to integer"

/-- The integer that a value stands for: texts are read, fractions cut off. -/
def toInteger : Value → Except IntegerFault Int
  | .bool b => .ok (if b then 1 else 0)
  | .int n => .ok n
  | .float .nan => .error .nan
  | .float x =>
    match x.truncate? with
    | some n => .ok n
    | none => .error .infinity
  | .string s =>
    match Text.readInteger s with
    | .ok n => .ok n
    | .error .form => .error (.literal s)
    | .error (.digits count) => .error (.digits (some count))
  | v => .error (.kind v.kindName)

@[simp] theorem toInteger_int (n : Int) : toInteger (.int n) = .ok n := rfl

end Value

end GuidedJson
