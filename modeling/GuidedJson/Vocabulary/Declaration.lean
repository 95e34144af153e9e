import GuidedJson.Failure
import GuidedJson.Json.Access
import GuidedJson.Json.Nesting
import GuidedJson.Json.Order

/-! # Declarations of tokens

Three documents declare the tokens of a model: one of its tokenizer, one of the tokenizer's
configuration and one of the model's. A declaration holds what they say, whatever its kind; what
cannot be used shows when the vocabulary is built.
-/

namespace GuidedJson.Vocabulary

/-- An added token as it is declared. -/
structure DeclaredToken where
  id : Value
  content : Value
  special : Value

/-- What the documents of a tokenizer say. -/
structure Declaration where
  base : List (Value × Value)
  added : List DeclaredToken
  stages : List Value
  eos : Value
  size : Value

namespace Declaration

/-! ## Members of values of any kind -/

/-- A member of an object, null where it is missing; nothing else has members. -/
def member (key : String) : Value → Except Failure Value
  | .object ms => .ok (Value.field key ms)
  | v => .error (.noAttribute v.kindName "get")

/-- A member of a value; nothing but an object may say something here. -/
def optionalMember (key : String) (v : Value) : Except Failure Value :=
  if v.truthy then member key v else .ok .null

/-- The items of a value that is gone through, none where it says nothing. -/
def itemsOf (v : Value) : Except Failure (List Value) :=
  if v.truthy then v.elements.mapError .mismatch else .ok []

/-! ## Base tokens -/

/-- Sets the id of a token: in place if it is there, at the end otherwise. -/
def setId (token id : Value) : List (Value × Value) → List (Value × Value)
  | [] => [(token, id)]
  | (t, i) :: rest => if t.same token then (t, id) :: rest else (t, i) :: setId token id rest

/-- The first item of an entry in a list. -/
def firstItem : Value → Except Failure Value
  | .array (v :: _) => .ok v
  | .array [] => .error (.index "list index out of range")
  | .string s =>
    match s.toList with
    | c :: _ => .ok (.string (String.singleton c))
    | [] => .error (.index "string index out of range")
  | .object _ => .error (.noKey (.int 0))
  | v => .error (.mismatch (.noIndexing v.kindName))

/-- The entries of a list have their places as ids. -/
def listedTokens : (i : Nat) → List Value → List (Value × Value) →
    Except Failure (List (Value × Value))
  | _, [], found => .ok found
  | i, v :: vs, found => do
    let token ← firstItem v
    token.checkHashable.mapError .mismatch
    listedTokens (i + 1) vs (setId token (.int i) found)

/-- The base tokens: a map from tokens to ids, or a list in the order of the ids. -/
def baseTokens (v : Value) : Except Failure (List (Value × Value)) :=
  if !v.truthy then .ok []
  else
    match v with
    | .array items => listedTokens 0 items []
    | .object ms => .ok (ms.map fun (k, v) => (.string k, v))
    | .string _ => .error (.argument (.pairLength 1))
    | v => .error (.mismatch (.notIterable v.kindName))

/-! ## Added tokens -/

/-- Whether a text occurs in another one. -/
def occursIn (part : List Char) : List Char → Bool
  | [] => part.isEmpty
  | c :: cs => part.isPrefixOf (c :: cs) || occursIn part cs

/-- Whether a value has a key: a member of an object, an item of an array, a part of a text. -/
def hasPart (key : String) : Value → Except Failure Bool
  | .object ms => .ok (Value.hasKey key ms)
  | .array items => .ok (items.any fun v => v.same (.string key))
  | .string s => .ok (occursIn key.toList s.toList)
  | v => .error (.mismatch (.noMembership v.kindName))

/-- An added token; one without an id or a content is passed over. -/
def addedToken (v : Value) : Except Failure (Option DeclaredToken) := do
  if !(← hasPart "id" v) then return none
  if !(← hasPart "content" v) then return none
  match v with
  | .object ms =>
    match (Value.field "id" ms).toInteger with
    | .error fault => .error (.ofIntegerFault fault)
    | .ok id =>
      let special := (Value.field "special" ms).truthy
      return some ⟨.int id, Value.field "content" ms, .bool special⟩
  | .array _ => .error (.mismatch (.listIndex "str"))
  | .string _ => .error (.mismatch (.textIndex "str"))
  | v => .error (.mismatch (.noIndexing v.kindName))

def addedTokens (v : Value) : Except Failure (List DeclaredToken) := do
  return (← (← itemsOf v).mapM addedToken).filterMap id

/-! ## Decoding stages -/

mutual
/-- The stages of a decoder; a sequence has those of its parts. -/
def stagesOf : Value → Except Failure (List Value)
  | .object ms =>
    if (Value.field "type" ms).same (.string "Sequence") then stagesAt ms
    else .ok ((Value.lookup "type" ms).toList)
  | v => if v.truthy then .error (.noAttribute v.kindName "get") else .ok []

/-- The stages of the parts of a sequence. -/
def stagesAt : List (String × Value) → Except Failure (List Value)
  | [] => .ok []
  | (k, v) :: ms => if k = "decoders" then stagesOfParts v else stagesAt ms

def stagesOfParts : Value → Except Failure (List Value)
  | .array parts => stagesOfAll parts
  | .object [] => .ok []
  | .object ((k, _) :: rest) =>
    if k = "" && rest.isEmpty then .ok [] else .error (.noAttribute "str" "get")
  | .string s => if s = "" then .ok [] else .error (.noAttribute "str" "get")
  | v => if v.truthy then .error (.mismatch (.notIterable v.kindName)) else .ok []

def stagesOfAll : List Value → Except Failure (List Value)
  | [] => .ok []
  | v :: vs => do
    let first ← stagesOf v
    let rest ← stagesOfAll vs
    return first ++ rest
end

/-! ## Declarations -/

/-- The text of a token in a configuration: the token itself, or its content. -/
def tokenContent : Value → Value
  | .object ms => Value.field "content" ms
  | .string s => .string s
  | _ => .null

/-- The size that the model's configuration declares, for itself or for its language model. -/
def declaredSize (model : Value) : Except Failure Value := do
  let size ← optionalMember "vocab_size" model
  if size.isNull && model.truthy then
    optionalMember "vocab_size" (← member "text_config" model)
  else return size

/-- What the three documents say; a tokenizer that is a text is read first. -/
def ofDocuments (tokenizer config model : Value) : Except Failure Declaration := do
  let tokenizer ← match tokenizer with
    | .string s => Json.readWithin Json.nestingLimit .json s
    | v => pure v
  let base ← baseTokens (← optionalMember "vocab" (← member "model" tokenizer))
  let added ← addedTokens (← member "added_tokens" tokenizer)
  let stages ← stagesOf (← member "decoder" tokenizer)
  let eos := tokenContent (← optionalMember "eos_token" config)
  return { base, added, stages, eos, size := ← declaredSize model }

end Declaration

end GuidedJson.Vocabulary
