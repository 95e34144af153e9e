import GuidedJson.Logged
import GuidedJson.Schema.Node

/-! # Reading schemas

A JSON document becomes a schema, or the first fault is reported with its place. Every declared
property of an object is required: a list that says otherwise is widened, with a warning. Places
are written `$` for the root, `.name` for a property, `[]` for the items of an array and `|i` for
the members of a union.
-/

namespace GuidedJson.Schema

open Value (lookup field hasKey)

/-! ## Required members -/

/-- The texts among values that are all texts. -/
def texts? (vs : List Value) : Option (List String) :=
  vs.mapM fun
    | .string s => some s
    | _ => none

/-- Whether values are, as a set, exactly these names. -/
def namesExactly (vs : List Value) (names : List String) : Bool :=
  match texts? vs with
  | some texts => texts.all (names.contains ·) && names.all (texts.contains ·)
  | none => false

/-- Required members that are not exactly the given names, in ascending order. -/
def otherRequired (required : Value) (names : List String) :
    Except Mismatch (Option (List Value)) := do
  let vs ← required.elements
  vs.forM Value.checkHashable
  if namesExactly vs names then return none else some <$> Value.sorted vs

/-- Warns of a list of required members that is not the list of all. -/
def checkRequired (path : String) (required : Value) (names : List String) : Logged Unit :=
  if required.isNull then pure ()
  else
    match otherRequired required names with
    | .error fault => throw (.mismatch fault)
    | .ok none => pure ()
    | .ok (some vs) => do
      let listed ← Failure.written (Value.array vs).inspect?
      Logged.warning ("Object at " ++ path ++ " lists required=" ++ listed ++ "; all " ++
        toString names.length ++ " properties will be required")

/-! ## Texts -/

/-- Lifts a refused node to its place in the document. -/
def placed (path : String) : Except NodeFault Node → Logged Node
  | .ok n => pure n
  | .error fault => throw (.schema (.node path fault))

/-- The values a text is restricted to: a constant goes before a list of choices. -/
def choicesOf (ms : List (String × Value)) : Value :=
  match lookup "const" ms with
  | some v => .array [v]
  | none => field "enum" ms

def parseText (path : String) (ms : List (String × Value)) : Logged Node :=
  let choices := choicesOf ms
  if choices.isNull then pure (.text (field "minLength" ms) (field "maxLength" ms))
  else
    match choices.elements with
    | .error fault => throw (.mismatch fault)
    | .ok vs =>
      match texts? vs with
      | none => throw (.schema (.choices path))
      | some texts => placed path (Node.ofChoices texts)

/-! ## Types -/

/-- Keywords that the language does not have, in the order in which they are looked for. -/
def unsupportedKeywords : List String := ["$ref", "allOf", "not", "if", "then", "else"]

/-- The type of a schema that does not name one. -/
def impliedType? (ms : List (String × Value)) : Option String :=
  if hasKey "properties" ms then some "object"
  else if hasKey "items" ms then some "array"
  else if hasKey "enum" ms then some "string"
  else none

/-- A union of one member is that member. -/
def joinMembers : List Node → Node
  | [n] => n
  | ns => .union ns

def memberPath (path : String) (i : Nat) : String := path ++ "|" ++ toString i

mutual
/-- A schema whose type is given by a value: a name, a list of types, or nothing. -/
def parseTyped (named : String → String → Logged Node) (implied : Option String) (path : String) :
    Value → Logged Node
  | .null =>
    match implied with
    | some name => named path name
    | none => throw (.schema (.noType path))
  | .array types =>
    if types.isEmpty then throw (.schema (.union path))
    else return joinMembers (← parseTypedMembers named implied path 0 types)
  | .string name => named path name
  | v => throw (.ofUnknownType path v)

def parseTypedMembers (named : String → String → Logged Node) (implied : Option String)
    (path : String) (i : Nat) : List Value → Logged (List Node)
  | [] => pure []
  | t :: ts => do
    let n ← parseTyped named implied (memberPath path i) t
    let ns ← parseTypedMembers named implied path (i + 1) ts
    return n :: ns
end

/-- A schema of a named type, given how its items and its properties are read. -/
def parseNamed (ms : List (String × Value)) (items : String → Option (Logged Node))
    (properties : String → Option (Logged (List (Property Node)))) (path name : String) :
    Logged Node :=
  match name with
  | "object" =>
    match lookup "properties" ms with
    | some (.object ps) => do
      checkRequired path (field "required" ms) (ps.map (·.1))
      return .object (← (properties path).getD (pure []))
    | none => do
      checkRequired path (field "required" ms) []
      return .object []
    | some _ => throw (.schema (.properties path))
  | "array" =>
    match items path with
    | none => throw (.schema (.noItems path))
    | some read => do
      let n ← read
      match Node.ofItems n (field "minItems" ms) (field "maxItems" ms) with
      | .error fault => throw (.mismatch fault)
      | .ok r => placed path r
  | "string" => parseText path ms
  | "integer" => pure .integer
  | "number" => pure .number
  | "boolean" => pure .boolean
  | "null" => pure .null
  | name => throw (.schema (.unknownType path (.string name)))

/-! ## Documents -/

mutual
/-- The schema of a document at a place. -/
def parseNode (path : String) : Value → Logged Node
  | .object ms =>
    match unsupportedKeywords.find? (hasKey · ms) with
    | some name => throw (.schema (.keyword path name))
    | none =>
      match parseUnionAt "anyOf" path ms with
      | some r => r
      | none =>
        match parseUnionAt "oneOf" path ms with
        | some r => r
        | none =>
          parseTyped
            (parseNamed ms (fun path => parseItemsAt path ms)
              (fun path => parsePropertiesAt path ms))
            (impliedType? ms) path (field "type" ms)
  | v => throw (.schema (.notObject path v.kindName))

/-- The union under a key, if the key is there. -/
def parseUnionAt (key path : String) : List (String × Value) → Option (Logged Node)
  | [] => none
  | (k, v) :: ms => if k = key then some (parseUnion path v) else parseUnionAt key path ms

def parseUnion (path : String) : Value → Logged Node
  | .array members =>
    if members.isEmpty then throw (.schema (.union path))
    else return joinMembers (← parseMembers path 0 members)
  | _ => throw (.schema (.union path))

def parseMembers (path : String) (i : Nat) : List Value → Logged (List Node)
  | [] => pure []
  | v :: vs => do
    let n ← parseNode (memberPath path i) v
    let ns ← parseMembers path (i + 1) vs
    return n :: ns

/-- The schema of the items of an array, if there is one that is not null. -/
def parseItemsAt (path : String) : List (String × Value) → Option (Logged Node)
  | [] => none
  | (k, v) :: ms =>
    if k = "items" then if v.isNull then none else some (parseNode (path ++ "[]") v)
    else parseItemsAt path ms

/-- The properties of an object, if it declares them. -/
def parsePropertiesAt (path : String) :
    List (String × Value) → Option (Logged (List (Property Node)))
  | [] => none
  | (k, v) :: ms =>
    if k = "properties" then some (parsePropertyMap path v) else parsePropertiesAt path ms

def parsePropertyMap (path : String) : Value → Logged (List (Property Node))
  | .object ps => parseProperties path ps
  | _ => pure []

def parseProperties (path : String) : List (String × Value) → Logged (List (Property Node))
  | [] => pure []
  | (name, v) :: ps => do
    let description := match v with
      | .object ms => field "description" ms
      | _ => .null
    let n ← parseNode (path ++ "." ++ name) v
    let rest ← parseProperties path ps
    return ⟨name, n, description⟩ :: rest
end

/-- The schema of a document. -/
def parse (v : Value) : Logged Node := parseNode "$" v

/-! ## Laws -/

theorem parseUnionAt_eq (key path : String) (ms : List (String × Value)) :
    parseUnionAt key path ms = (lookup key ms).map (parseUnion path) := by
  induction ms with
  | nil => simp [parseUnionAt, lookup]
  | cons m ms ih =>
    obtain ⟨k, v⟩ := m
    by_cases h : k = key <;> simp [parseUnionAt, lookup, h, ih]

theorem parsePropertiesAt_eq (path : String) (ms : List (String × Value)) :
    parsePropertiesAt path ms = (lookup "properties" ms).map (parsePropertyMap path) := by
  induction ms with
  | nil => simp [parsePropertiesAt, lookup]
  | cons m ms ih =>
    obtain ⟨k, v⟩ := m
    by_cases h : k = "properties" <;> simp [parsePropertiesAt, lookup, h, ih]

end GuidedJson.Schema
