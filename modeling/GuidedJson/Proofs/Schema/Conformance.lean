import GuidedJson.Proofs.Json.Layout
import GuidedJson.Schema.Node

/-!
# Conformance

Which trees a schema admits. What is asked of the strings is left open: a conforming string has the
value that the schema names or so many code points, while the pattern of the schema fixes the
spelling of the one and the number of spelled characters of the other.
-/

namespace GuidedJson.Schema

open Computability
open Json (Tree bodies points charTexts integerTexts numberTexts)

/-! ## Bounds -/

/-- A bound that is missing or counts something. -/
def IsBound (v : Value) : Prop := v = .null ∨ ∃ n : Nat, v = .int n

/-- The count of a lower bound; a missing one is zero. -/
def lowest : Value → Nat
  | .int n => n.toNat
  | _ => 0

/-- The count of an upper bound, if there is one. -/
def highest : Value → Option Nat
  | .int n => some n.toNat
  | _ => none

/-- Whether a count lies between two bounds. -/
def Between (least most : Value) (count : Nat) : Prop :=
  lowest least ≤ count ∧ ∀ n ∈ highest most, count ≤ n

/-- Two bounds in order. -/
structure Ordered (least most : Value) : Prop where
  lower : IsBound least
  upper : IsBound most
  le : ∀ n ∈ highest most, lowest least ≤ n

/-- Whether one of two bounds has more digits than are written. -/
def Oversized (least most : Value) : Prop :=
  10 ^ Text.digitLimit ≤ lowest least ∨ ∃ n ∈ highest most, 10 ^ Text.digitLimit ≤ n

/-! ## Schemas inside a schema -/

namespace Node

mutual
/-- A schema and all schemas inside it. -/
def parts : Node → List Node
  | .object properties => .object properties :: partsOfProperties properties
  | .array items least most => .array items least most :: items.parts
  | .union members => .union members :: partsOfMembers members
  | n => [n]

def partsOfProperties : List (Property Node) → List Node
  | [] => []
  | ⟨_, schema, _⟩ :: ps => schema.parts ++ partsOfProperties ps

def partsOfMembers : List Node → List Node
  | [] => []
  | n :: ns => n.parts ++ partsOfMembers ns
end

/-- What is asked of a schema by itself: its bounds are in order, and there is something to choose
where it is a choice. -/
def Sound : Node → Prop
  | .text least most => Ordered least most
  | .array _ least most => Ordered least most
  | .choice choices => choices ≠ []
  | .union members => members ≠ []
  | _ => True

/-- Schemas whose bounds are missing or count something, the lower one first. -/
def WellFormed (n : Node) : Prop := ∀ m ∈ n.parts, m.Sound

/-- Whether a schema by itself has a bound with more digits than are written. -/
def Huge : Node → Prop
  | .text least most => Oversized least most
  | .array _ least most => Oversized least most
  | _ => False

end Node

/-! ## Admitted trees -/

/-- What is asked of the strings of a tree: of those with bounds and of those with a given value. -/
structure Wording where
  free : (least most : Value) → List Char → Prop
  fixed : String → List Char → Prop

namespace Node

mutual
/-- Whether a schema admits a tree. -/
def Admits (w : Wording) : Node → Tree → Prop
  | .boolean, .bool _ => True
  | .integer, .number cs => cs ∈ integerTexts
  | .number, .number cs => cs ∈ numberTexts
  | .null, .null => True
  | .text least most, .string body => w.free least most body
  | .choice choices, .string body => ∃ s ∈ choices, w.fixed s body
  | .object properties, .object members => AdmitsMembers w properties members
  | .array items least most, .array ts =>
    Between least most ts.length ∧ ∀ t ∈ ts, items.Admits w t
  | .union members, t => AdmitsSome w members t
  | _, _ => False

/-- Whether members have the names of properties in their order, and values that they admit. -/
def AdmitsMembers (w : Wording) : List (Property Node) → List (List Char × Tree) → Prop
  | [], [] => True
  | ⟨name, schema, _⟩ :: ps, (body, t) :: ms =>
    w.fixed name body ∧ schema.Admits w t ∧ AdmitsMembers w ps ms
  | _, _ => False

/-- Whether one of several schemas admits a tree. -/
def AdmitsSome (w : Wording) : List Node → Tree → Prop
  | [], _ => False
  | n :: ns, t => n.Admits w t ∨ AdmitsSome w ns t
end

/-- A string that conforms has the value it should have or, where lengths count, so many code points
as its bounds allow. -/
def conforming (lengths : Prop) : Wording where
  free least most body := body ∈ bodies ∧ (lengths → Between least most (points body).length)
  fixed s body := body ∈ bodies ∧ points body = s.toList.map Char.toNat

/-- Whether the value of a tree conforms to a schema. -/
def Conforms (n : Node) (lengths : Prop) (t : Tree) : Prop := n.Admits (conforming lengths) t

/-- A string that a pattern allows is spelled as it is printed or, where it has bounds, with so many
characters as they allow. -/
def spelling : Wording where
  free least most body := ∃ parts : List (List Char), Between least most parts.length ∧
    (∀ u ∈ parts, u ∈ charTexts) ∧ body = parts.flatten
  fixed s body := body = s.toList.flatMap jsonChar

/-! ## Other wordings -/

/-- Whether a wording asks of some strings no more than another one does. -/
structure Weaker (P : List Char → Prop) (v w : Wording) : Prop where
  free : ∀ least most body, P body → v.free least most body → w.free least most body
  fixed : ∀ s body, P body → v.fixed s body → w.fixed s body

section Wordings

variable {v w : Wording} {P : List Char → Prop}

mutual
/-- What is asked of the strings of a tree may be weakened. -/
theorem Admits.mono (hvw : Weaker P v w) {n : Node} {t : Tree} (ht : ∀ b ∈ t.strings, P b)
    (h : n.Admits v t) : n.Admits w t := by
  cases n with
  | boolean | integer | number | null => cases t <;> exact h
  | text least most =>
    cases t with
    | string body => exact hvw.free least most body (ht body List.mem_cons_self) h
    | _ => exact h.elim
  | choice choices =>
    cases t with
    | string body =>
      obtain ⟨s, hs, hbody⟩ := h
      exact ⟨s, hs, hvw.fixed s body (ht body List.mem_cons_self) hbody⟩
    | _ => exact h.elim
  | object properties =>
    cases t with
    | object members => exact AdmitsMembers.mono hvw ht h
    | _ => exact h.elim
  | array items least most =>
    cases t with
    | array ts =>
      refine ⟨h.1, fun t hmem => ?_⟩
      exact Admits.mono hvw (fun b hb => ht b (Tree.mem_stringsOfItems hmem hb)) (h.2 t hmem)
    | _ => exact h.elim
  | union members => exact AdmitsSome.mono hvw ht h

theorem AdmitsMembers.mono (hvw : Weaker P v w) {ps : List (Property Node)}
    {ms : List (List Char × Tree)} (hms : ∀ b ∈ Tree.stringsOfMembers ms, P b)
    (h : AdmitsMembers v ps ms) : AdmitsMembers w ps ms := by
  cases ps with
  | nil => cases ms <;> exact h
  | cons p ps =>
    cases ms with
    | nil => exact h.elim
    | cons m ms =>
      obtain ⟨hname, hrest⟩ := List.forall_mem_cons.1 hms
      obtain ⟨hschema, hms⟩ := List.forall_mem_append.1 hrest
      exact ⟨hvw.fixed _ _ hname h.1, Admits.mono hvw hschema h.2.1,
        AdmitsMembers.mono hvw hms h.2.2⟩

theorem AdmitsSome.mono (hvw : Weaker P v w) {ns : List Node} {t : Tree}
    (ht : ∀ b ∈ t.strings, P b) (h : AdmitsSome v ns t) : AdmitsSome w ns t := by
  cases ns with
  | nil => exact h.elim
  | cons n ns =>
    rcases h with h | h
    · exact .inl (Admits.mono hvw ht h)
    · exact .inr (AdmitsSome.mono hvw ht h)
end

end Wordings

/-- What a pattern allows in a string has the value that it should have. -/
theorem weaker_conforming : Weaker (fun _ => True) spelling (conforming False) := by
  constructor
  · rintro least most body - ⟨parts, -, hparts, rfl⟩
    exact ⟨Language.join_mem_kstar hparts, False.elim⟩
  · rintro s body - rfl
    exact ⟨Json.flatMap_jsonChar_mem_bodies s.toList, Json.points_flatMap_jsonChar s.toList⟩

/-- A conforming string that is spelled as it is printed is one that the pattern allows. -/
theorem weaker_spelling : Weaker Json.Printed (conforming True) spelling := by
  constructor
  · rintro least most body ⟨cs, rfl⟩ ⟨-, hlength⟩
    refine ⟨cs.map jsonChar, ?_, ?_, List.flatMap_def⟩
    · have hcount := hlength trivial
      rw [Json.points_flatMap_jsonChar, List.length_map] at hcount
      rwa [List.length_map]
    · rw [List.forall_mem_map]
      exact fun c _ => Json.jsonChar_mem_charTexts c
  · rintro s body ⟨cs, rfl⟩ ⟨-, hpoints⟩
    rw [Json.points_flatMap_jsonChar] at hpoints
    have hcs : cs = s.toList := List.map_injective_iff.2 (fun _ _ => Char.toNat_inj.1) hpoints
    rw [hcs]
    rfl

mutual
/-- Trees whose values conform are spelled as JSON has them. -/
theorem Admits.spelled {lengths : Prop} {n : Node} {t : Tree}
    (h : n.Admits (conforming lengths) t) : t.Spelled := by
  cases n with
  | boolean | null =>
    cases t with
    | bool | null => trivial
    | _ => exact h.elim
  | integer =>
    cases t with
    | number cs => exact Json.mem_numberTexts_of_mem_integerTexts h
    | _ => exact h.elim
  | number =>
    cases t with
    | number cs => exact h
    | _ => exact h.elim
  | text least most =>
    cases t with
    | string body => exact h.1
    | _ => exact h.elim
  | choice choices =>
    cases t with
    | string body =>
      obtain ⟨s, -, hbody, -⟩ := h
      exact hbody
    | _ => exact h.elim
  | object properties =>
    cases t with
    | object members => exact AdmitsMembers.spelled h
    | _ => exact h.elim
  | array items least most =>
    cases t with
    | array ts =>
      rw [Tree.Spelled, Tree.allSpelled_iff]
      exact fun t ht => Admits.spelled (h.2 t ht)
    | _ => exact h.elim
  | union members => exact AdmitsSome.spelled h

theorem AdmitsMembers.spelled {lengths : Prop} {ps : List (Property Node)}
    {ms : List (List Char × Tree)} (h : AdmitsMembers (conforming lengths) ps ms) :
    Tree.MembersSpelled ms := by
  cases ps with
  | nil =>
    cases ms with
    | nil => trivial
    | cons m ms => exact h.elim
  | cons p ps =>
    cases ms with
    | nil => exact h.elim
    | cons m ms => exact ⟨h.1.1, Admits.spelled h.2.1, AdmitsMembers.spelled h.2.2⟩

theorem AdmitsSome.spelled {lengths : Prop} {ns : List Node} {t : Tree}
    (h : AdmitsSome (conforming lengths) ns t) : t.Spelled := by
  cases ns with
  | nil => exact h.elim
  | cons n ns =>
    rcases h with h | h
    · exact Admits.spelled h
    · exact AdmitsSome.spelled h
end

end Node

end GuidedJson.Schema
