import GuidedJson.Json.Display

/-! # Values of the wrong kind

An operation that is not defined for a value names the kinds of what it was given.
-/

namespace GuidedJson

/-- Values that an operation is not defined for, by the names of their kinds. -/
inductive Mismatch where
  | notIterable (kind : String)
  | noMembership (kind : String)
  | unhashable (kind : String)
  | noOrder (operator left right : String)
  | noOperator (operator left right : String)
  | noConcatenation (kind : String)
  | noRepetition (kind : String)
  | integer (fault : Value.IntegerFault)
  | noBackend (kind : String)
  | noIndexing (kind : String)
  | listIndex (kind : String)
  | textIndex (kind : String)
  | noText (kind : String)
  | noLevel

def Mismatch.message : Mismatch → String
  | .notIterable kind => "'" ++ kind ++ "' object is not iterable"
  | .noMembership kind => "argument of type '" ++ kind ++ "' is not iterable"
  | .unhashable kind => "unhashable type: '" ++ kind ++ "'"
  | .noOrder operator left right =>
    "'" ++ operator ++ "' not supported between instances of '" ++ left ++ "' and '" ++ right ++ "'"
  | .noOperator operator left right =>
    "unsupported operand type(s) for " ++ operator ++ ": '" ++ left ++ "' and '" ++ right ++ "'"
  | .noConcatenation kind =>
    "can only concatenate " ++ kind ++ " (not \"int\") to " ++ kind
  | .noRepetition kind => "can't multiply sequence by non-int of type '" ++ kind ++ "'"
  | .integer fault => fault.message
  | .noBackend kind => kind ++ " has no backend tokenizer; a fast tokenizer is required"
  | .noIndexing kind => "'" ++ kind ++ "' object is not subscriptable"
  | .listIndex kind => "list indices must be integers or slices, not " ++ kind
  | .textIndex kind => "string indices must be integers, not '" ++ kind ++ "'"
  | .noText kind => "expected string or bytes-like object, got '" ++ kind ++ "'"
  | .noLevel => "Level not an integer or a valid string"

namespace Value

/-! ## Going through values -/

/-- What going through a value gives: the characters of a text, the items of an array, the keys of
an object. -/
def elements : Value → Except Mismatch (List Value)
  | .string s => .ok (s.toList.map fun c => .string (String.singleton c))
  | .array items => .ok items
  | .object ms => .ok (ms.map fun m => .string m.1)
  | v => .error (.notIterable v.kindName)

/-- Collections cannot be members of a set, nor be looked up. -/
def checkHashable : Value → Except Mismatch Unit
  | v@(.array _) | v@(.object _) => .error (.unhashable v.kindName)
  | _ => .ok ()

end Value

end GuidedJson
