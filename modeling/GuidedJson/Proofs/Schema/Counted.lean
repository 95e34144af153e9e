import GuidedJson.Proofs.Json.Numbers
import GuidedJson.Proofs.Schema.Joined
import GuidedJson.Proofs.Schema.Layouts
import GuidedJson.Proofs.Schema.Legible
import GuidedJson.Proofs.Schema.Quantifiers

/-!
# What writing a pattern needs

A schema has a pattern where the bounds of its arrays are counts, and there is white space for its
collections: there must be a number before the most items and before the least, unless the least
says nothing. Lengths of texts are written whatever they are.
-/

namespace GuidedJson

/-! ## Written integers -/

theorem Text.writeInteger?_eq_none_iff {n : Int} :
    Text.writeInteger? n = none ↔ ¬ Json.Fits n := by
  rw [Text.writeInteger?, ← Json.isWritable_iff]
  cases Text.isWritable n <;> simp

namespace Value

theorem fits_sub_one {n : Int} (h : Json.Fits n) (hn : 0 < n) : Json.Fits (n - 1) := by
  unfold Json.Fits at h ⊢
  generalize 10 ^ Text.digitLimit = bound at h ⊢
  omega

theorem fits_truth (b : Bool) : Json.Fits (if b then 0 else -1) :=
  Json.fits_of_lt_ten (by cases b <;> decide)

theorem needs_boundText (v : Value) : Needs v.Fits v.boundText := by
  by_cases h : v.Fits
  · rw [boundText_of_fits h]
    exact needs_ok h
  · rw [boundText_of_not_fits h]
    exact needs_digits h

/-! ## Numbers before bounds -/

theorem needs_pred (v : Value) : Needs v.IsNumeric v.pred := by
  cases v with
  | bool | int | float => exact needs_ok rfl
  | _ => exact needs_mismatch nofun

/-- Whether there is a number before a value, and it can be written into a pattern. -/
def HasPredecessor (v : Value) : Prop := ∃ w, v.pred = .ok w ∧ w.Fits

theorem hasPredecessor_iff {v w : Value} (hw : v.pred = .ok w) : v.HasPredecessor ↔ w.Fits :=
  ⟨fun ⟨_, hu, h⟩ => Except.ok.inj (hu.symm.trans hw) ▸ h, fun h => ⟨w, hw, h⟩⟩

theorem needs_boundText_pred (v : Value) : Needs v.HasPredecessor (v.pred >>= boundText) := by
  have hpred {w : Value} (hw : v.pred = .ok w) :
      Needs v.HasPredecessor (v.pred >>= boundText) := by
    rw [hasPredecessor_iff hw, hw]
    exact needs_boundText w
  cases v with
  | bool | int | float => exact hpred rfl
  | _ => exact needs_mismatch fun ⟨w, hw, _⟩ => nomatch hw

/-- Of a number only an integer may have a number before it that is too long. -/
theorem hasPredecessor_of_isNumeric {v : Value} (hv : v.IsNumeric)
    (hint : ∀ n, v = .int n → Json.Fits (n - 1)) : v.HasPredecessor := by
  cases v with
  | bool b => exact ⟨_, rfl, fits_int.2 (fits_truth b)⟩
  | int n => exact ⟨_, rfl, fits_int.2 (hint n rfl)⟩
  | float x => exact ⟨_, rfl, trivial⟩
  | _ => cases hv

/-- The number before a number that can be printed can be printed, with zero in the place of what is
less. -/
theorem fits_atLeastZero {v w : Value} (h : v.Fits) (hw : v.pred = .ok w) : w.atLeastZero.Fits := by
  have hint (n : Int) (hn : 0 ≤ n → Json.Fits n) : (Value.int n).atLeastZero.Fits := by
    rw [atLeastZero, exceeds_int]
    by_cases hneg : n < 0
    · simpa [hneg, Except.toOption] using fits_zero
    · simpa [hneg, Except.toOption] using fits_int.2 (hn (Int.not_lt.1 hneg))
  cases v with
  | bool b =>
    cases hw
    exact hint _ fun _ => fits_truth b
  | int n =>
    cases hw
    exact hint _ fun hn => fits_sub_one (fits_int.1 h) (by omega)
  | float x =>
    cases hw
    unfold atLeastZero
    split
    · exact fits_zero
    · trivial
  | _ => cases hw

/-- Numbers have an order among them, and with nothing else. -/
theorem exists_exceeds_iff {v w : Value} (hw : w.IsNumeric) :
    (∃ b, v.exceeds w = .ok b) ↔ v.IsNumeric := by
  cases w with
  | null | string | array | object => cases hw
  | bool | int | float =>
    cases v <;> simp [exceeds, order, Except.map, numeric?, IsNumeric]

/-- There is a number that can be written before a number above one. -/
theorem hasPredecessor_of_exceeds_one {v : Value} (h : v.Fits)
    (hexceeds : v.exceeds (.int 1) = .ok true) : v.HasPredecessor := by
  have hnumeric : v.IsNumeric := (exists_exceeds_iff (w := .int 1) rfl).1 ⟨true, hexceeds⟩
  refine hasPredecessor_of_isNumeric hnumeric fun n hn => ?_
  subst hn
  rw [exceeds_int] at hexceeds
  have hlt : 1 < n := of_decide_eq_true (Except.ok.inj hexceeds)
  exact fits_sub_one (fits_int.1 h) (by omega)

theorem fits_orZero {v : Value} (h : v.Fits) : v.orZero.Fits := by
  unfold orZero
  split
  · exact h
  · exact fits_zero

theorem isNumeric_orZero_iff {v : Value} :
    v.orZero.IsNumeric ↔ (v.truthy = true → v.IsNumeric) := by
  unfold orZero
  split
  next h => simp [h]
  next h => simp [h, IsNumeric, numeric?]

end Value

namespace Schema

open Value (HasPredecessor)

/-! ## Quantifiers -/

theorem exists_lengthQuantifier {least most : Value} (hleast : least.Fits) (hmost : most.Fits) :
    ∃ q, lengthQuantifier least most = .ok q := by
  unfold lengthQuantifier
  have hs := Value.boundText_of_fits hleast
  have hlow := Value.boundText_of_fits (Value.fits_orZero hleast)
  have hhigh := Value.boundText_of_fits hmost
  rw [hs, hlow, hhigh]
  split
  · split <;> exact ⟨_, rfl⟩
  · exact ⟨_, rfl⟩

/-- Whether the bounds of an array are counts that a pattern is written from. -/
structure CountBounds (least most : Value) : Prop where
  least : least.truthy = true → least.IsNumeric
  most : most.isNull = true ∨ most.HasPredecessor

theorem needs_tailQuantifier {least most : Value} (hleast : least.Fits) :
    Needs (least.IsNumeric ∧ (most.isNull = true ∨ most.HasPredecessor))
      (tailQuantifier least most) := by
  unfold tailQuantifier
  split
  next hnull =>
    have hiff := Value.exists_exceeds_iff (v := least) (w := .int 1) rfl
    cases hexceeds : least.exceeds (.int 1) with
    | error fault =>
      refine needs_mismatch fun h => ?_
      obtain ⟨b, hb⟩ := hiff.2 h.1
      cases hb.symm.trans hexceeds
    | ok b =>
      have hcounts : least.IsNumeric ∧ (most.isNull = true ∨ most.HasPredecessor) :=
        ⟨hiff.1 ⟨b, hexceeds⟩, .inl hnull⟩
      cases b with
      | false => exact needs_ok hcounts
      | true =>
        obtain ⟨w, hw, hfits⟩ := Value.hasPredecessor_of_exceeds_one hleast hexceeds
        have hs := Value.boundText_of_fits hfits
        simp only [Except.mapError, bind, Except.bind, hw, hs, if_true]
        exact needs_ok hcounts
  next hnull =>
    refine ((Value.needs_pred least).bind fun w hw => ?_).congr
      (and_congr_right' (or_iff_right hnull).symm)
    have hlow := Value.boundText_of_fits (Value.fits_atLeastZero hleast hw)
    rw [hlow]
    show Needs _ (most.pred >>= fun v => v.boundText >>= _)
    rw [← bind_assoc]
    exact (Value.needs_boundText_pred most).map _

/-- Bounds with an order between them are counts where the most is one. -/
theorem countBounds_of_isNumber_one {least most : Value} (h : Comparable least most)
    (hone : most.isNumber 1 = true) : CountBounds least most := by
  have hnumeric : most.IsNumeric := by
    cases most with
    | bool | int | float => rfl
    | _ => cases hone
  refine ⟨fun htruthy => ?_, .inr ?_⟩
  · rcases h with hnull | hnull | hexceeds
    · rw [eq_null_of_isNull hnull] at htruthy
      cases htruthy
    · rw [eq_null_of_isNull hnull] at hnumeric
      cases hnumeric
    · exact (Value.exists_exceeds_iff hnumeric).1 hexceeds
  · refine Value.hasPredecessor_of_isNumeric hnumeric fun n hn => ?_
    subst hn
    rw [Value.isNumber_int, decide_eq_true_eq] at hone
    subst hone
    exact Value.fits_int.1 Value.fits_zero

theorem needs_arrayPattern {least most : Value} (hleast : least.Fits)
    (hcomparable : Comparable least most) (spacing : Spacing) (item : String) :
    Needs (CountBounds least most) (arrayPattern spacing item least most) := by
  have hiff : least.orZero.IsNumeric ∧ (most.isNull = true ∨ most.HasPredecessor) ↔
      CountBounds least most := by
    rw [Value.isNumeric_orZero_iff]
    exact ⟨fun h => ⟨h.1, h.2⟩, fun h => ⟨h.1, h.2⟩⟩
  unfold arrayPattern
  dsimp only
  split
  next hone =>
    refine (needs_ok (countBounds_of_isNumber_one hcomparable hone)).bind_ok fun repetition => ?_
    split <;> exact ⟨_, rfl⟩
  next =>
    refine (((needs_tailQuantifier (Value.fits_orZero hleast)).congr hiff).map _).bind_ok fun repetition => ?_
    split <;> exact ⟨_, rfl⟩

namespace Node

theorem not_huge_of_carries {note : Value → Prop} {n : Node} (hsound : n.Sound)
    (h : n.Carries Value.Fits note) : ¬ n.Huge := by
  have hlong {v : Value} (hv : IsBound v) (hfits : v.Fits) :
      lowest v < 10 ^ Text.digitLimit ∧ ∀ k ∈ highest v, k < 10 ^ Text.digitLimit := by
    rcases hv with rfl | ⟨k, rfl⟩
    · exact ⟨Nat.pow_pos (by decide), nofun⟩
    · have hk : k < 10 ^ Text.digitLimit := Value.fits_int.1 hfits
      exact ⟨hk, by rintro _ ⟨⟩; exact hk⟩
  cases n with
  | text | array =>
    rintro (hleast | ⟨k, hk, hmost⟩)
    · exact absurd (hlong hsound.lower h.1).1 (Nat.not_lt.2 hleast)
    · exact absurd ((hlong hsound.upper h.2).2 k hk) (Nat.not_lt.2 hmost)
  | _ => exact id

mutual
/-- Whether the bounds of the arrays that a pattern describes are counts. Of an array without items
the pattern describes no more. -/
def Counted : Node → Prop
  | .object properties => CountedProperties properties
  | .array items least most => most.isNumber 0 = true ∨ (CountBounds least most ∧ items.Counted)
  | .union members => CountedMembers members
  | _ => True

def CountedMembers : List Node → Prop
  | [] => True
  | n :: ns => n.Counted ∧ CountedMembers ns

def CountedProperties : List (Property Node) → Prop
  | [] => True
  | ⟨_, schema, _⟩ :: ps => schema.Counted ∧ CountedProperties ps
end

section Patterns

variable {indent : Option Int} {depth : Int}

/-- What writing the pattern of a schema at a place needs. -/
def Writable (indent : Option Int) (depth : Int) (n : Node) : Prop :=
  n.Counted ∧ n.LaidOut indent depth

theorem needs_layout (indent : Option Int) (hdepth : 0 ≤ depth) :
    Needs (HasLayout indent depth) (layout indent depth) := by
  rcases layout_cases indent hdepth with ⟨h, heq⟩ | ⟨h, heq⟩
  · rw [heq]
    exact needs_ok h
  · rw [heq]
    exact needs_tooWide h

theorem needs_patterns {ns : List Node}
    (h : ∀ n ∈ ns, Needs (n.Writable indent depth) (n.patternAt indent depth)) :
    Needs (CountedMembers ns ∧ MembersLaidOut indent depth ns) (patterns indent depth ns) := by
  induction ns with
  | nil => exact needs_ok ⟨trivial, trivial⟩
  | cons n ns ih =>
    rw [List.forall_mem_cons] at h
    rw [patterns, CountedMembers, MembersLaidOut, and_and_and_comm]
    exact h.1.bind fun p _ => (ih h.2).map _

theorem needs_propertyPatterns (afterKey : String) {ps : List (Property Node)}
    (h : ∀ p ∈ ps, Needs (p.schema.Writable indent depth) (p.schema.patternAt indent depth)) :
    Needs (CountedProperties ps ∧ PropertiesLaidOut indent depth ps)
      (propertyPatterns afterKey indent depth ps) := by
  induction ps with
  | nil => exact needs_ok ⟨trivial, trivial⟩
  | cons p ps ih =>
    rw [List.forall_mem_cons] at h
    rw [propertyPatterns, CountedProperties, PropertiesLaidOut, and_and_and_comm]
    exact h.1.bind fun p _ => (ih h.2).map _

/-- Writing the pattern of a schema needs that the bounds of its arrays are counts, and that there is
white space for its collections. -/
theorem needs_patternAt {n : Node} {note : Value → Prop} (h : n.Built Value.Fits note)
    (hdepth : 0 ≤ depth) : Needs (n.Writable indent depth) (n.patternAt indent depth) := by
  induction n using induct generalizing depth with
  | boolean | integer | number | null | choice => exact needs_ok ⟨trivial, trivial⟩
  | text least most =>
    obtain ⟨-, hleast, hmost⟩ := h _ (mem_parts_self _)
    obtain ⟨q, hq⟩ := exists_lengthQuantifier hleast hmost
    rw [patternAt, hq]
    exact needs_ok ⟨trivial, trivial⟩
  | object ps ih =>
    have hparts := (forall_parts_object.1 h).2
    rw [patternAt]
    split
    next hempty =>
      obtain rfl := List.isEmpty_iff.1 hempty
      exact needs_ok ⟨trivial, .inl rfl⟩
    next hempty =>
      have hiff : (HasLayout indent depth ∧ CountedProperties ps ∧
          PropertiesLaidOut indent (depth + 1) ps) ↔ (Node.object ps).Writable indent depth := by
        rw [Writable, Counted, LaidOut, or_iff_right hempty, and_left_comm]
      refine ((needs_layout indent hdepth).bind fun spacing _ => ?_).congr hiff
      exact (needs_propertyPatterns _ fun p hp => ih p hp (hparts p hp) (by omega)).map _
  | array items least most ih =>
    obtain ⟨⟨hmade, hleast, hmost⟩, hparts⟩ := forall_parts_array.1 h
    rw [patternAt]
    split
    next hzero => exact needs_ok ⟨.inl hzero, .inl hzero⟩
    next hzero =>
      have hiff : (HasLayout indent depth ∧ items.Writable indent (depth + 1) ∧
          CountBounds least most) ↔ (Node.array items least most).Writable indent depth := by
        rw [Writable, Writable, Counted, LaidOut, or_iff_right hzero, or_iff_right hzero]
        tauto
      refine ((needs_layout indent hdepth).bind fun spacing _ => ?_).congr hiff
      exact (ih hparts (by omega)).bind fun item _ =>
        needs_arrayPattern hleast (exists_ofItems_iff.1 ⟨_, hmade⟩) spacing item
  | union ns ih =>
    have hparts := (forall_parts_union.1 h).2
    have hns := needs_patterns fun n hn => ih n hn (hparts n hn) hdepth
    rw [patternAt, Writable, Counted, LaidOut]
    refine hns.bind_ok fun ps => ?_
    split <;> exact ⟨_, rfl⟩

end Patterns

end Node

/-! ## Canonical bounds -/

section Canonical

variable {least most : Value}

namespace Node

theorem isNumber_canonical (v : Value) (n : Int) : (v.canonical false).isNumber n = v.isNumber n := by
  rw [Value.isNumber, Value.numeric_canonical, Value.isNumber]

theorem laidOut_joinMembers {ns : List Node} {indent : Option Int} {depth : Int} :
    (joinMembers ns).LaidOut indent depth ↔ ∀ n ∈ ns, n.LaidOut indent depth := by
  unfold joinMembers
  split
  next n => rw [List.forall_mem_singleton]
  next => rw [LaidOut, membersLaidOut_iff]

/-- The collections of a schema keep their places. -/
theorem laidOut_settle (n : Node) {indent : Option Int} : ∀ {depth : Int},
    (n.settle (Value.canonical false)).LaidOut indent depth ↔ n.LaidOut indent depth := by
  induction n using induct with
  | boolean | integer | number | null | text | choice => exact Iff.rfl
  | object ps ih =>
    intro depth
    rw [settle, settleProperties_eq_map, LaidOut, LaidOut, List.isEmpty_map, propertiesLaidOut_iff,
      propertiesLaidOut_iff, List.forall_mem_map]
    exact or_congr_right (and_congr_right' (forall₂_congr fun p hp => ih p hp))
  | array items least most ih =>
    intro depth
    rw [settle, LaidOut, LaidOut, ih, isNumber_canonical]
  | union ns ih =>
    intro depth
    rw [settle, settleMembers_eq_map, laidOut_joinMembers, LaidOut, membersLaidOut_iff,
      List.forall_mem_map]
    exact forall₂_congr fun n hn => ih n hn

end Node

end Canonical

end Schema

end GuidedJson
