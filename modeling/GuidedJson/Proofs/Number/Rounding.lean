import GuidedJson.Number.Binary
import Mathlib.Algebra.Order.Field.Power
import Mathlib.Data.Rat.Cast.Order
import Mathlib.Tactic.FieldSimp
import Mathlib.Tactic.Ring

/-!
# Numbers of a format

A finite number of a format stays finite where it is rounded to the format again: its mantissa fits
as it is, so that nothing is carried into the exponent.
-/

namespace GuidedJson.Number

/-! ## Powers of two -/

theorem powerOfTwo_pos (e : Int) : 0 < (powerOfTwo e).1 ∧ 0 < (powerOfTwo e).2 := by
  unfold powerOfTwo
  split
  · exact ⟨Nat.two_pow_pos _, Nat.one_pos⟩
  · exact ⟨Nat.one_pos, Nat.two_pow_pos _⟩

theorem powerOfTwo_eq (e : Int) : ((powerOfTwo e).1 : ℚ) = 2 ^ e * (powerOfTwo e).2 := by
  unfold powerOfTwo
  split
  · rename_i he
    lift e to ℕ using he
    simp [Nat.pow_eq]
  · rename_i he
    obtain ⟨n, rfl⟩ : ∃ n : ℕ, e = -n := ⟨(-e).toNat, by omega⟩
    simp [Nat.pow_eq]

/-! ## Magnitudes -/

section Magnitude

variable {num den : Nat}

/-- The places of two numbers tell those of their quotient up to one. -/
theorem log2_bounds (hnum : num ≠ 0) (hden : den ≠ 0) :
    (2 : ℚ) ^ ((Nat.log2 num : Int) - Nat.log2 den - 1) * den ≤ num ∧
      (num : ℚ) < 2 ^ ((Nat.log2 num : Int) - Nat.log2 den + 1) * den := by
  have htwo : (2 : ℚ) ≠ 0 := two_ne_zero
  have hnumLow : (2 : ℚ) ^ (Nat.log2 num : Int) ≤ num := by
    exact_mod_cast Nat.log2_self_le hnum
  have hnumHigh : (num : ℚ) < 2 ^ ((Nat.log2 num : Int) + 1) := by
    exact_mod_cast Nat.lt_log2_self (n := num)
  have hdenLow : (2 : ℚ) ^ (Nat.log2 den : Int) ≤ den := by
    exact_mod_cast Nat.log2_self_le hden
  have hdenHigh : (den : ℚ) < 2 ^ ((Nat.log2 den : Int) + 1) := by
    exact_mod_cast Nat.lt_log2_self (n := den)
  constructor
  · calc (2 : ℚ) ^ ((Nat.log2 num : Int) - Nat.log2 den - 1) * den
        ≤ 2 ^ ((Nat.log2 num : Int) - Nat.log2 den - 1) * 2 ^ ((Nat.log2 den : Int) + 1) := by
          gcongr
      _ = 2 ^ (Nat.log2 num : Int) := by
          rw [← zpow_add₀ htwo]
          congr 1
          omega
      _ ≤ num := hnumLow
  · calc (num : ℚ) < 2 ^ ((Nat.log2 num : Int) + 1) := hnumHigh
      _ = 2 ^ ((Nat.log2 num : Int) - Nat.log2 den + 1) * 2 ^ (Nat.log2 den : Int) := by
          rw [← zpow_add₀ htwo]
          congr 1
          omega
      _ ≤ 2 ^ ((Nat.log2 num : Int) - Nat.log2 den + 1) * den := by gcongr

theorem magnitude_bounds (hnum : num ≠ 0) (hden : den ≠ 0) :
    (2 : ℚ) ^ (magnitude num den - 1) * den ≤ num ∧ (num : ℚ) < 2 ^ magnitude num den * den := by
  obtain ⟨hlow, hhigh⟩ := log2_bounds hnum hden
  have hcompare : ∀ k, den * (powerOfTwo k).1 ≤ num * (powerOfTwo k).2 ↔
      (2 : ℚ) ^ k * den ≤ num := by
    intro k
    have hpos : (0 : ℚ) < (powerOfTwo k).2 := by exact_mod_cast (powerOfTwo_pos k).2
    rw [← Nat.cast_le (α := ℚ), Nat.cast_mul, Nat.cast_mul, powerOfTwo_eq, ← mul_assoc,
      mul_le_mul_iff_left₀ hpos, mul_comm (den : ℚ)]
  unfold magnitude
  simp only [hcompare]
  split
  · rename_i hle
    rw [add_sub_cancel_right]
    exact ⟨hle, hhigh⟩
  · rename_i hlt
    exact ⟨hlow, not_le.1 hlt⟩

end Magnitude

/-! ## Rounding -/

/-- The finite numbers of a format. -/
def Format.Holds (f : Format) : Binary → Prop
  | .finite _ m e => m < 2 ^ f.precision ∧ f.minExponent ≤ e ∧ e ≤ f.maxExponent
  | _ => False

theorem pow_toNat_mul {e unit : Int} (h : unit ≤ e) :
    ((2 ^ (e - unit).toNat : Nat) : ℚ) * 2 ^ unit = 2 ^ e := by
  rw [Nat.cast_pow, Nat.cast_two, ← zpow_natCast, Int.toNat_of_nonneg (Int.sub_nonneg.2 h),
    ← zpow_add₀ two_ne_zero, Int.sub_add_cancel]

/-- A quotient that is a whole number of units is rounded to that number. -/
theorem roundDiv_powerOfTwo {num den m : Nat} {e unit : Int} (hden : den ≠ 0)
    (hvalue : (num : ℚ) = m * 2 ^ e * den) (hunit : unit ≤ e) :
    roundDiv (num * (powerOfTwo unit).2) (den * (powerOfTwo unit).1) =
      m * 2 ^ (e - unit).toNat := by
  obtain ⟨hpos, -⟩ := powerOfTwo_pos unit
  have hexact : num * (powerOfTwo unit).2 =
      m * 2 ^ (e - unit).toNat * (den * (powerOfTwo unit).1) := by
    have hcast : ((num * (powerOfTwo unit).2 : Nat) : ℚ) =
        ((m * 2 ^ (e - unit).toNat * (den * (powerOfTwo unit).1) : Nat) : ℚ) := by
      rw [Nat.cast_mul, Nat.cast_mul, Nat.cast_mul, Nat.cast_mul, hvalue, powerOfTwo_eq,
        ← pow_toNat_mul hunit]
      ring
    exact_mod_cast hcast
  rw [hexact, roundDiv_mul _ _ (Nat.mul_pos (Nat.pos_of_ne_zero hden) hpos)]

/-- A number whose mantissa fits is not so large that its last place would be lost. -/
theorem sub_precision_le {m p : Nat} {e k : Int} (hm : m < 2 ^ p)
    (hlow : (2 : ℚ) ^ (k - 1) ≤ m * 2 ^ e) : k - p ≤ e := by
  have hmCast : (m : ℚ) < 2 ^ (p : Int) := by exact_mod_cast hm
  have hlt : (2 : ℚ) ^ (k - 1) < 2 ^ ((p : Int) + e) := by
    rw [zpow_add₀ two_ne_zero]
    exact hlow.trans_lt (mul_lt_mul_of_pos_right hmCast (by positivity))
  have hexponent := (zpow_lt_zpow_iff_right₀ one_lt_two).1 hlt
  omega

/-- Counted in a unit of the last place, a mantissa fits. -/
theorem mul_pow_lt {m p : Nat} {e k unit : Int} (hunit : unit ≤ e) (hk : k ≤ p + unit)
    (hhigh : (m : ℚ) * 2 ^ e < 2 ^ k) : m * 2 ^ (e - unit).toNat < 2 ^ p := by
  have hlt : ((m * 2 ^ (e - unit).toNat : Nat) : ℚ) * 2 ^ unit <
      ((2 ^ p : Nat) : ℚ) * 2 ^ unit := by
    calc ((m * 2 ^ (e - unit).toNat : Nat) : ℚ) * 2 ^ unit = m * 2 ^ e := by
          rw [Nat.cast_mul, mul_assoc, pow_toNat_mul hunit]
      _ < 2 ^ k := hhigh
      _ ≤ 2 ^ ((p : Int) + unit) := zpow_le_zpow_right₀ one_le_two hk
      _ = ((2 ^ p : Nat) : ℚ) * 2 ^ unit := by
          rw [zpow_add₀ two_ne_zero, zpow_natCast, Nat.cast_pow, Nat.cast_two]
  exact_mod_cast lt_of_mul_lt_mul_right hlt (by positivity)

/-- A quotient that is a number of a format is rounded to a finite one. -/
theorem exists_round_eq_finite (f : Format) (s : Bool) {num den m : Nat} {e : Int} (hden : den ≠ 0)
    (hvalue : (num : ℚ) = m * 2 ^ e * den) (hm : m < 2 ^ f.precision) (hmin : f.minExponent ≤ e)
    (hmax : e ≤ f.maxExponent) : ∃ n d, f.round s num den = .finite s n d := by
  by_cases hnum : num = 0
  · exact ⟨0, 0, by rw [Format.round, if_pos hnum]⟩
  have hdenPos : (0 : ℚ) < den := by exact_mod_cast Nat.pos_of_ne_zero hden
  obtain ⟨hlow, hhigh⟩ := magnitude_bounds hnum hden
  rw [hvalue] at hlow hhigh
  have hlow := le_of_mul_le_mul_right hlow hdenPos
  have hhigh := lt_of_mul_lt_mul_right hhigh hdenPos.le
  -- The unit of the last place is no larger than that of the number, so no place is lost.
  have hunit : max f.minExponent (magnitude num den - f.precision) ≤ e :=
    max_le hmin (sub_precision_le hm hlow)
  have hplaces : magnitude num den ≤
      f.precision + max f.minExponent (magnitude num den - f.precision) := by omega
  generalize hchosen : max f.minExponent (magnitude num den - f.precision) = unit at hunit hplaces
  have hround := roundDiv_powerOfTwo hden hvalue hunit
  have hsmall := mul_pow_lt hunit hplaces hhigh
  have hfits : ¬ f.maxExponent < unit := not_lt.2 (hunit.trans hmax)
  unfold Format.round
  rw [if_neg hnum]
  simp only [hchosen, hround, Nat.pow_eq, if_neg hsmall.ne, if_neg hfits]
  split
  · exact ⟨0, 0, rfl⟩
  · exact ⟨_, _, rfl⟩

namespace Binary

/-- A number is counted in a unit that is no larger than its own. -/
theorem scaled_value (s : Bool) (m : Nat) (e : Int) :
    (((scaled s m e (min e 0)).natAbs * (powerOfTwo (min e 0)).1 : Nat) : ℚ) =
      m * 2 ^ e * (powerOfTwo (min e 0)).2 := by
  have hscaled : (scaled s m e (min e 0)).natAbs = m * 2 ^ (e - min e 0).toNat := by
    unfold scaled
    split
    · rw [Int.natAbs_neg, Int.natAbs_natCast, Nat.pow_eq]
    · rw [Int.natAbs_natCast, Nat.pow_eq]
  rw [hscaled, Nat.cast_mul, Nat.cast_mul, powerOfTwo_eq, ← pow_toNat_mul (min_le_left e 0)]
  ring

/-- Zero adds nothing but a rounding, and the sign of a zero is lost. -/
theorem add_zero_eq (f : Format) (s : Bool) (m : Nat) (e : Int) : add f (.finite s m e) zero =
    if scaled s m e (min e 0) = 0 then zero
    else f.round (scaled s m e (min e 0) < 0)
      ((scaled s m e (min e 0)).natAbs * (powerOfTwo (min e 0)).1) (powerOfTwo (min e 0)).2 := by
  have hzero : scaled false 0 0 (min e 0) = 0 := by simp [scaled]
  simp only [zero, add, hzero, add_zero, Bool.and_false]

/-- A finite number of a format plus zero is finite in the format. -/
theorem exists_add_zero {f : Format} {x : Binary} (h : f.Holds x) :
    ∃ s n d, add f x zero = .finite s n d := by
  cases x with
  | nan => exact h.elim
  | infinite s => exact h.elim
  | finite s m e =>
    obtain ⟨hm, hmin, hmax⟩ := h
    rw [add_zero_eq]
    split
    · exact ⟨_, _, _, rfl⟩
    · obtain ⟨-, hden⟩ := powerOfTwo_pos (min e 0)
      obtain ⟨n, d, hround⟩ := exists_round_eq_finite f (scaled s m e (min e 0) < 0) hden.ne'
        (scaled_value s m e) hm hmin hmax
      exact ⟨_, n, d, hround⟩

/-- Nothing finite is left of a number to which negative infinity is added. -/
theorem add_negInfinity {f : Format} {x : Binary} (h : f.Holds x) :
    add f x (.infinite true) = .infinite true := by
  cases x with
  | nan => exact h.elim
  | infinite s => exact h.elim
  | finite s m e => rfl

end Binary

end GuidedJson.Number
