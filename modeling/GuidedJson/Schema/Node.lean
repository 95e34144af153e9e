import GuidedJson.Failure
import GuidedJson.Json.Order

/-! # Schema nodes

A schema describes a set of JSON texts. Bounds and descriptions are whatever the document says,
null where it says nothing: they are judged where they are used. The constructors that can refuse
their parts are `ofChoices`, `ofProperties`, `ofMembers` and `ofItems`.
-/

namespace GuidedJson.Schema

/-- A named member of an object. The description never changes what is accepted. -/
structure Property (α : Type) where
  name : String
  schema : α
  description : Value
deriving Inhabited

inductive Node where
  | boolean
  | integer
  | number
  | null
  | text (least most : Value)
  | choice (choices : List String)
  | object (properties : List (Property Node))
  | array (items : Node) (least most : Value)
  | union (members : List Node)
deriving Inhabited

namespace Node

/-! ## Construction -/

/-- One of several texts: at least one, and no text twice. -/
def ofChoices (choices : List String) : Except NodeFault Node :=
  if choices.isEmpty then .error .noChoices
  else if choices.Nodup then .ok (.choice choices)
  else .error (.repeatedChoices choices)

/-- An object with these members in this order; no name twice. -/
def ofProperties (properties : List (Property Node)) : Except NodeFault Node :=
  let names := properties.map (·.name)
  if names.Nodup then .ok (.object properties) else .error (.repeatedNames names)

/-- Any one of several schemas, at least one. -/
def ofMembers (members : List Node) : Except NodeFault Node :=
  if members.isEmpty then .error .noMembers else .ok (.union members)

/-- The order of two bounds, of which either may be missing. -/
def boundsFault (least most : Value) : Except Mismatch (Option NodeFault) :=
  if least.isNull || most.isNull then .ok none
  else (least.exceeds most).map fun
    | true => some (.itemBounds least most)
    | false => none

/-- An array of items of one schema. Bounds without an order are a mismatch. -/
def ofItems (items : Node) (least most : Value) : Except Mismatch (Except NodeFault Node) :=
  (boundsFault least most).map fun
    | some fault => .error fault
    | none => .ok (.array items least most)

/-! ## Documents -/

/-- A member that is left out where it is null. -/
def optionalMember (key : String) (v : Value) : List (String × Value) :=
  if v.isNull then [] else [(key, v)]

/-- The name of a schema that consists of its type alone. -/
def bareType? : Node → Option String
  | .boolean => some "boolean"
  | .integer => some "integer"
  | .number => some "number"
  | .null => some "null"
  | .text least most => if least.isNull && most.isNull then some "string" else none
  | _ => none

/-- The document of a union: its types if they say everything, its members otherwise. -/
def unionDocument (types : List (Option String)) (documents : List Value) : Value :=
  match types.mapM id with
  | some names => .object [("type", .array (names.map .string))]
  | none => .object [("anyOf", .array documents)]

/-- A description after the members of a document. -/
def describe (description : Value) : Value → Value
  | .object ms =>
    .object (if description.isNull then ms else Value.insertMember "description" description ms)
  | v => v

mutual
/-- The JSON document of a schema. -/
def document : Node → Value
  | .boolean => .object [("type", .string "boolean")]
  | .integer => .object [("type", .string "integer")]
  | .number => .object [("type", .string "number")]
  | .null => .object [("type", .string "null")]
  | .text least most =>
    .object (("type", .string "string") ::
      (optionalMember "minLength" least ++ optionalMember "maxLength" most))
  | .choice choices =>
    .object [("type", .string "string"), ("enum", .array (choices.map .string))]
  | .object properties =>
    .object [
      ("type", .string "object"),
      ("properties", .object (propertyDocuments properties)),
      ("required", .array (properties.map fun p => .string p.name)),
      ("additionalProperties", .bool false)]
  | .array items least most =>
    .object (("type", .string "array") :: ("items", items.document) ::
      (optionalMember "minItems" least ++ optionalMember "maxItems" most))
  | .union members => unionDocument (members.map bareType?) (documents members)

def documents : List Node → List Value
  | [] => []
  | n :: ns => n.document :: documents ns

def propertyDocuments : List (Property Node) → List (String × Value)
  | [] => []
  | ⟨name, schema, description⟩ :: ps =>
    (name, describe description schema.document) :: propertyDocuments ps
end

/-! ## Laws -/

theorem documents_eq_map (ns : List Node) : documents ns = ns.map document := by
  induction ns with
  | nil => simp [documents]
  | cons n ns ih => simp [documents, ih]

theorem ofChoices_eq_ok_iff {choices : List String} {n : Node} :
    ofChoices choices = .ok n ↔ choices ≠ [] ∧ choices.Nodup ∧ n = .choice choices := by
  unfold ofChoices
  by_cases he : choices = []
  · simp [he]
  · by_cases hn : choices.Nodup
    · simpa [he, hn] using eq_comm
    · simp [he, hn]

theorem ofMembers_eq_ok_iff {members : List Node} {n : Node} :
    ofMembers members = .ok n ↔ members ≠ [] ∧ n = .union members := by
  unfold ofMembers
  by_cases he : members = []
  · simp [he]
  · simpa [he] using eq_comm

end Node

end GuidedJson.Schema
