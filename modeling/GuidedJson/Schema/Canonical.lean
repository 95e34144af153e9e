import GuidedJson.Json.Printer
import GuidedJson.Schema.Node

/-! # Canonical text

Equal schemas have one text. The members of every object are sorted by key, except the map of the
properties of an object: their order is part of the schema. Documents are written with two
spaces per level.
-/

namespace GuidedJson

namespace Value

/-! ## Sorting members -/

/-- Inserts a member before the first larger key. -/
def insertSorted (m : String × Value) : List (String × Value) → List (String × Value)
  | [] => [m]
  | n :: ns => if m.1 < n.1 then m :: n :: ns else n :: insertSorted m ns

/-- Members in ascending order of their keys. -/
def sortMembers : List (String × Value) → List (String × Value)
  | [] => []
  | m :: ms => insertSorted m (sortMembers ms)

mutual
/-- The canonical form of a document; the members of a property map keep their order. -/
def canonical (propertyMap : Bool) : Value → Value
  | .object ms =>
    let ms := canonicalMembers propertyMap ms
    .object (if propertyMap then ms else sortMembers ms)
  | .array items => .array (canonicalItems items)
  | v => v

def canonicalItems : List Value → List Value
  | [] => []
  | v :: vs => v.canonical false :: canonicalItems vs

def canonicalMembers (propertyMap : Bool) : List (String × Value) → List (String × Value)
  | [] => []
  | (k, v) :: ms =>
    (k, v.canonical (k == "properties" && !propertyMap)) :: canonicalMembers propertyMap ms
end

/-- The canonical text of a document, as far as its integers can be written. -/
def canonicalText (v : Value) : Except Failure String :=
  Failure.written ((v.canonical false).write? (some 2))

theorem canonicalItems_eq_map (vs : List Value) :
    canonicalItems vs = vs.map (canonical false) := by
  induction vs with
  | nil => simp [canonicalItems]
  | cons v vs ih => simp [canonicalItems, ih]

theorem canonicalMembers_eq_map (propertyMap : Bool) (ms : List (String × Value)) :
    canonicalMembers propertyMap ms =
      ms.map fun (k, v) => (k, v.canonical (k == "properties" && !propertyMap)) := by
  induction ms with
  | nil => simp [canonicalMembers]
  | cons m ms ih => simp [canonicalMembers, ih]

theorem perm_insertSorted (m : String × Value) (ms : List (String × Value)) :
    (insertSorted m ms).Perm (m :: ms) := by
  induction ms with
  | nil => exact .refl _
  | cons n ns ih =>
    unfold insertSorted
    split
    · exact .refl _
    · exact (ih.cons n).trans (.swap m n ns)

/-- Sorting keeps the members. -/
theorem perm_sortMembers (ms : List (String × Value)) : (sortMembers ms).Perm ms := by
  induction ms with
  | nil => exact .refl _
  | cons m ms ih => exact (perm_insertSorted m _).trans (ih.cons m)

end Value

namespace Schema

/-- The canonical text of a schema. -/
def Node.canonicalText (n : Node) : Except Failure String := n.document.canonicalText

end Schema

end GuidedJson
