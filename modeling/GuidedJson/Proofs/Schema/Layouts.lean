import GuidedJson.Proofs.Results
import GuidedJson.Schema.PatternText

/-!
# Layouts of patterns

The white space of a pattern is made from one width, that of a printed document level by level. They
are the same white space wherever the pattern has any: a width that counts no characters has none.
-/

namespace GuidedJson.Schema

/-! ## White space -/

/-- One width for all levels gives the spaces of each level, one after the other. -/
theorem newLine_eq_of_nonneg (indent : Int) {depth : Int} (h : 0 ≤ depth) :
    newLine indent depth = "\n" ++ String.ofList (List.replicate (indent * depth).toNat ' ') := by
  have hwidth : depth.toNat * indent.toNat = (indent * depth).toNat := by
    obtain ⟨d, rfl⟩ := Int.eq_ofNat_of_zero_le h
    rcases Int.le_total 0 indent with hindent | hindent
    · obtain ⟨n, rfl⟩ := Int.eq_ofNat_of_zero_le hindent
      rw [← Int.natCast_mul, Int.toNat_natCast, Int.toNat_natCast, Int.toNat_natCast, Nat.mul_comm]
    · have hproduct : indent * d ≤ 0 := Int.mul_nonpos_of_nonpos_of_nonneg hindent h
      rw [Int.toNat_of_nonpos hindent, Int.toNat_of_nonpos hproduct, Nat.mul_zero]
  rw [newLine_eq, hwidth]

/-- Whether there is white space for a collection at a nesting depth. -/
def HasLayout (indent : Option Int) (depth : Int) : Prop :=
  ∀ n ∈ indent, CountsCharacters (n * (depth + 1)) ∧ CountsCharacters (n * depth)

/-- Where a layout has white space, it is that of a printed document. -/
theorem layout_cases (indent : Option Int) {depth : Int} (hdepth : 0 ≤ depth) :
    (HasLayout indent depth ∧ layout indent depth = .ok (Spacing.at indent depth)) ∨
      (¬ HasLayout indent depth ∧ layout indent depth = .error .tooWide) := by
  cases indent with
  | none => exact .inl ⟨nofun, rfl⟩
  | some n =>
    have hiff : HasLayout (some n) depth ↔
        CountsCharacters (n * (depth + 1)) ∧ CountsCharacters (n * depth) := by simp [HasLayout]
    rw [hiff, layout]
    by_cases hinner : CountsCharacters (n * (depth + 1))
    · rw [spaces, if_pos hinner]
      by_cases houter : CountsCharacters (n * depth)
      · refine .inl ⟨⟨hinner, houter⟩, ?_⟩
        rw [spaces, if_pos houter, Spacing.at, newLine_eq_of_nonneg n (by omega),
          newLine_eq_of_nonneg n hdepth]
        simp only [bind, Except.bind, pure, Except.pure, ← String.append_assoc]
        rfl
      · rw [spaces, if_neg houter]
        exact .inr ⟨fun h => houter h.2, rfl⟩
    · rw [spaces, if_neg hinner]
      exact .inr ⟨fun h => hinner h.1, rfl⟩

/-- The white space inside a collection is the wider one, so that of an indentation it decides. -/
theorem hasLayout_iff {indent : Option Int} (hindent : ∀ n ∈ indent, 0 ≤ n) {depth : Int}
    (hdepth : 0 ≤ depth) :
    HasLayout indent depth ↔ ∀ n ∈ indent, n * (depth + 1) < Nat.pow 2 63 := by
  refine forall₂_congr fun n hn => ?_
  have hn := hindent n hn
  have houter : 0 ≤ n * depth := Int.mul_nonneg hn hdepth
  have hinner : n * (depth + 1) = n * depth + n := by rw [Int.mul_add, Int.mul_one]
  unfold CountsCharacters
  generalize (Nat.pow 2 63 : Int) = limit at *
  omega

/-! ## Schemas -/

namespace Node

mutual
/-- Whether there is white space for every collection that a pattern describes. -/
def LaidOut (indent : Option Int) (depth : Int) : Node → Prop
  | .object properties => properties.isEmpty = true ∨
      (HasLayout indent depth ∧ PropertiesLaidOut indent (depth + 1) properties)
  | .array items _ most => most.isNumber 0 = true ∨
      (HasLayout indent depth ∧ items.LaidOut indent (depth + 1))
  | .union members => MembersLaidOut indent depth members
  | _ => True

def MembersLaidOut (indent : Option Int) (depth : Int) : List Node → Prop
  | [] => True
  | n :: ns => n.LaidOut indent depth ∧ MembersLaidOut indent depth ns

def PropertiesLaidOut (indent : Option Int) (depth : Int) : List (Property Node) → Prop
  | [] => True
  | ⟨_, schema, _⟩ :: ps => schema.LaidOut indent depth ∧ PropertiesLaidOut indent depth ps
end

section LaidOut

variable {indent : Option Int} {depth : Int}

theorem membersLaidOut_iff {ns : List Node} :
    MembersLaidOut indent depth ns ↔ ∀ n ∈ ns, n.LaidOut indent depth := by
  induction ns with
  | nil => simp [MembersLaidOut]
  | cons n ns ih => rw [MembersLaidOut, ih, List.forall_mem_cons]

theorem propertiesLaidOut_iff {ps : List (Property Node)} :
    PropertiesLaidOut indent depth ps ↔ ∀ p ∈ ps, p.schema.LaidOut indent depth := by
  induction ps with
  | nil => simp [PropertiesLaidOut]
  | cons p ps ih => rw [PropertiesLaidOut, ih, List.forall_mem_cons]

end LaidOut

end Node

end GuidedJson.Schema
