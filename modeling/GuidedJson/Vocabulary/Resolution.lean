import GuidedJson.Vocabulary.Declaration
import GuidedJson.Vocabulary.Metadata

/-! # Vocabularies of declarations

A declaration becomes metadata, as far as what it says can be used: a size must be a number of
places, an id a place, and a token something that can be looked up. What ends up in the table need
not be a text; then the vocabulary knows it as foreign.
-/

namespace GuidedJson

/-- What there is room for on a machine. No machine is meant: whatever is built in it is built in
any, as far as there is room. -/
class Memory where
  places : Nat

namespace Vocabulary

/-! ## Stored tokens -/

/-- A token as it is declared. -/
structure StoredToken where
  value : Value
deriving Inhabited

/-- Equal values are one token, so that `1`, `1.0` and true are. -/
instance : BEq StoredToken := ⟨fun a b => a.value.same b.value⟩

namespace StoredToken

def text (s : String) : StoredToken := ⟨.string s⟩

/-- The text of a token, empty if it is none. -/
def asText (t : StoredToken) : String := t.value.asText

/-- The places of a table that hold no text. -/
def foreign (tokens : Array StoredToken) : List (Nat × Value) :=
  tokens.toList.zipIdx.filterMap fun (t, i) =>
    if t.value.asText?.isSome then none else some (i, t.value)

end StoredToken

namespace Declaration

/-! ## Sizes -/

/-- The most places that a table can have by its number. -/
def placeLimit : Int := Nat.pow 2 63 - 1

/-- A number of places. What is not positive declares no tokens, whatever else it is. -/
def placeCount [Memory] (size : Value) : Except Failure Int := do
  if ← (size.isAtMost (.int 0)).mapError .mismatch then return 0
  match size.asInt? with
  | none => throw (.mismatch (.noRepetition size.kindName))
  | some n =>
    if placeLimit < n then throw .tooWide
    else if Memory.places < n then throw .memory
    else return n

/-- The larger of two ids, the first unless the second exceeds it. -/
def largerId (a b : Value) : Except Mismatch Value :=
  return if ← b.exceeds a then b else a

/-- One more than an id. -/
def successor : Value → Except Mismatch Value
  | .bool b => .ok (.int (if b then 2 else 1))
  | .int n => .ok (.int (n + 1))
  | .float x => .ok (.float (x.add .binary64 (.exact 1)))
  | v@(.string _) | v@(.array _) => .error (.noConcatenation v.kindName)
  | v => .error (.noOperator "+" v.kindName "int")

/-- The size that ids need, one more than the largest. It has to have a written form. -/
def neededSize : List Value → Except Failure Value
  | [] => .ok (.int 0)
  | id :: ids => do
    let largest ← (ids.foldlM largerId id).mapError .mismatch
    match ← (successor largest).mapError .mismatch with
    | .int n => if (Text.writeInteger? n).isSome then return .int n else throw (.digits none)
    | size => return size

/-- The size of the table, declared or needed. -/
def tableSize [Memory] (d : Declaration) : Except Failure Int := do
  let size ←
    if d.size.isNull then neededSize (d.base.map (·.2) ++ d.added.map (·.id)) else .ok d.size
  placeCount size

/-! ## Places -/

/-- The place of an id in a table of a size, none if it is outside. -/
def placeOf (size : Int) (id : Value) : Except Mismatch (Option Int) := do
  if !(← (Value.int 0).isAtMost id) then return none
  if (← id.order "<" (.int size)) != some .lt then return none
  match id.asInt? with
  | some n => return some n
  | none => throw (.listIndex id.kindName)

/-- Declared base tokens with their places. -/
def placedBase (size : Int) (base : List (Value × Value)) :
    Except Mismatch (List (StoredToken × Int)) := do
  let placed ← base.mapM fun (token, id) => return (← placeOf size id).map (⟨token⟩, ·)
  return placed.filterMap id

/-- Declared added tokens with their places. -/
def placedAdded (size : Int) (added : List DeclaredToken) :
    Except Mismatch (List (AddedToken StoredToken)) := do
  let placed ← added.mapM fun a =>
    return (← placeOf size a.id).map fun i => ⟨i, ⟨a.content⟩, a.special.truthy⟩
  return placed.filterMap id

/-- The names of the stages up to the first one that shows an encoding. -/
def stageNames : List Value → Except Mismatch (List String)
  | [] => .ok []
  | v :: rest => do
    v.checkHashable
    match v with
    | .string s =>
      if (Encoding.ofStage? s).isSome then return [s] else return s :: (← stageNames rest)
    | _ => stageNames rest

/-! ## Vocabularies -/

/-- The metadata of a declaration for a table of a size. -/
def metadata (d : Declaration) (size : Int) : Except Mismatch (Metadata StoredToken) := do
  let base ← placedBase size d.base
  let added ← placedAdded size d.added
  let stages ← stageNames d.stages
  let m : Metadata StoredToken := { base, added, stages, eos := none, size := some size }
  (m.tokens (.text "") size.toNat).forM fun t => t.value.checkHashable
  d.eos.checkHashable
  return { m with eos := if d.eos.isNull then none else some ⟨d.eos⟩ }

/-- The vocabulary of a declaration; `extra` are further texts that end a text. -/
def vocabulary [Memory] (d : Declaration) (extra : List String) : Except Failure Vocabulary := do
  let size ← d.tableSize
  if size ≤ 0 then throw (.vocabulary .noDeclaredToken)
  let m ← (d.metadata size).mapError .mismatch
  let t ← (m.table (.text "") (extra.map .text)).mapError .vocabulary
  let v ← Vocabulary.of (t.tokens.map StoredToken.asText) t.encoding t.stop t.special
  return { v with foreign := StoredToken.foreign t.tokens }

end Declaration

end Vocabulary

end GuidedJson
