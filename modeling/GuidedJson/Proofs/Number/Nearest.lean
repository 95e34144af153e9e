import GuidedJson.Proofs.Number.Rounding
import Mathlib.Tactic.Linarith

/-!
# The nearest number of a format

Rounding sees nothing of a quotient but its value. It leaves numbers in one form, and a quotient
that is nearer to such a number than to its neighbours is rounded to it.
-/

namespace GuidedJson.Number

/-! ## Rounded quotients -/

section Quotients

variable {num den : Nat} {v : ℚ}

/-- A common factor does not change a rounded quotient. -/
theorem roundDiv_mul_right {c : Nat} (hc : 0 < c) :
    roundDiv (num * c) (den * c) = roundDiv num den := by
  have hlt : 2 * (num % den * c) < den * c ↔ 2 * (num % den) < den := by
    rw [← mul_assoc, Nat.mul_lt_mul_right hc]
  have hgt : den * c < 2 * (num % den * c) ↔ den < 2 * (num % den) := by
    rw [← mul_assoc, Nat.mul_lt_mul_right hc]
  simp only [roundDiv, Nat.mul_mod_mul_right, Nat.mul_div_mul_right _ _ hc, hlt, hgt]

/-- The rounded quotient is within half a unit. -/
theorem le_roundDiv (hden : 0 < den) : 2 * roundDiv num den * den ≤ 2 * num + den := by
  have hdiv := Nat.div_add_mod num den
  have hmod := Nat.mod_lt num hden
  generalize num / den = q at hdiv
  have hq : 2 * q * den = 2 * (den * q) := by ring
  have hsucc : 2 * (q + 1) * den = 2 * (den * q) + 2 * den := by ring
  simp only [roundDiv, show num / den = q by
    rw [← hdiv, Nat.mul_add_div hden, Nat.div_eq_of_lt hmod, add_zero]]
  split_ifs <;> omega

/-- A rounded quotient is within half of one from the value of the quotient. -/
theorem roundDiv_bounds (hden : den ≠ 0) (hvalue : (num : ℚ) = v * den) :
    (roundDiv num den : ℚ) - 1 / 2 ≤ v ∧ v ≤ roundDiv num den + 1 / 2 := by
  have hpos : (0 : ℚ) < den := by exact_mod_cast Nat.pos_of_ne_zero hden
  have hlow : (2 * roundDiv num den * den : ℚ) ≤ 2 * num + den := by
    exact_mod_cast le_roundDiv (Nat.pos_of_ne_zero hden)
  have hhigh : (2 * num : ℚ) ≤ (2 * roundDiv num den + 1) * den := by
    exact_mod_cast roundDiv_le num den (Nat.pos_of_ne_zero hden)
  rw [hvalue] at hlow hhigh
  constructor
  · refine le_of_mul_le_mul_right ?_ hpos
    linarith
  · refine le_of_mul_le_mul_right ?_ hpos
    linarith

/-- A quotient that is less than half of one away from a whole number is rounded to it. -/
theorem roundDiv_eq_of_near {q : Nat} (hden : den ≠ 0) (hvalue : (num : ℚ) = v * den)
    (hlow : (q : ℚ) - 1 / 2 < v) (hhigh : v < q + 1 / 2) : roundDiv num den = q := by
  obtain ⟨hle, hge⟩ := roundDiv_bounds hden hvalue
  have hlt : (roundDiv num den : ℚ) < (q + 1 : Nat) := by
    push_cast
    linarith
  have hgt : (q : ℚ) < (roundDiv num den + 1 : Nat) := by
    push_cast
    linarith
  have hlt := Nat.cast_lt.1 hlt
  have hgt := Nat.cast_lt.1 hgt
  omega

/-- Equal quotients are rounded alike. -/
theorem roundDiv_congr {num' den' : Nat} (hden : den ≠ 0) (hden' : den' ≠ 0)
    (hvalue : (num : ℚ) = v * den) (hvalue' : (num' : ℚ) = v * den') :
    roundDiv num den = roundDiv num' den' := by
  have hcross : num * den' = num' * den := by
    have hcast : ((num * den' : Nat) : ℚ) = (num' * den : Nat) := by
      rw [Nat.cast_mul, Nat.cast_mul, hvalue, hvalue']
      ring
    exact_mod_cast hcast
  rw [← roundDiv_mul_right (Nat.pos_of_ne_zero hden'), hcross, Nat.mul_comm den,
    roundDiv_mul_right (Nat.pos_of_ne_zero hden)]

/-- The value of a quotient lies between two powers of two, as its magnitude says. -/
theorem value_bounds (hnum : num ≠ 0) (hden : den ≠ 0) (hvalue : (num : ℚ) = v * den) :
    2 ^ (magnitude num den - 1) ≤ v ∧ v < 2 ^ magnitude num den := by
  have hpos : (0 : ℚ) < den := by exact_mod_cast Nat.pos_of_ne_zero hden
  obtain ⟨hlow, hhigh⟩ := magnitude_bounds hnum hden
  rw [hvalue] at hlow hhigh
  exact ⟨le_of_mul_le_mul_right hlow hpos, lt_of_mul_lt_mul_right hhigh hpos.le⟩

theorem magnitude_eq {k : Int} (hden : den ≠ 0) (hvalue : (num : ℚ) = v * den)
    (hlow : 2 ^ (k - 1) ≤ v) (hhigh : v < 2 ^ k) : magnitude num den = k := by
  have hpos : (0 : ℚ) < den := by exact_mod_cast Nat.pos_of_ne_zero hden
  have hv : 0 < v := lt_of_lt_of_le (by positivity) hlow
  have hnum : num ≠ 0 := by
    rintro rfl
    have hzero : v * den = 0 := by rw [← hvalue, Nat.cast_zero]
    exact (mul_pos hv hpos).ne' hzero
  obtain ⟨hle, hlt⟩ := value_bounds hnum hden hvalue
  have hbelow := (zpow_lt_zpow_iff_right₀ one_lt_two).1 (hle.trans_lt hhigh)
  have habove := (zpow_lt_zpow_iff_right₀ one_lt_two).1 (hlow.trans_lt hlt)
  omega

/-- A quotient is counted in a power of two. -/
theorem counted_eq (hvalue : (num : ℚ) = v * den) (e : Int) :
    ((num * (powerOfTwo e).2 : Nat) : ℚ) = v / 2 ^ e * (den * (powerOfTwo e).1 : Nat) := by
  have hpow : (2 : ℚ) ^ e ≠ 0 := by positivity
  rw [Nat.cast_mul, Nat.cast_mul, powerOfTwo_eq, hvalue]
  field_simp

theorem counted_den_ne_zero (hden : den ≠ 0) (e : Int) : den * (powerOfTwo e).1 ≠ 0 :=
  Nat.mul_ne_zero hden (powerOfTwo_pos e).1.ne'

end Quotients

/-! ## Rounded numbers -/

namespace Format

variable (f : Format)

/-- A rounded mantissa with its exponent: a zero has none, and a place too many is carried. -/
def assemble (s : Bool) (q : Nat) (e : Int) : Binary :=
  if q = 0 then .finite s 0 0
  else
    let (m, e) := if q = 2 ^ f.precision then (2 ^ (f.precision - 1), e + 1) else (q, e)
    if f.maxExponent < e then .infinite s else .finite s m e

/-- The forms in which rounding leaves numbers: the mantissa of a finite one fits, and has its first
place unless the exponent is the least. -/
def Keeps : Binary → Prop
  | .finite _ m e => (m = 0 ∧ e = 0) ∨ (m ≠ 0 ∧ m < 2 ^ f.precision ∧ f.minExponent ≤ e ∧
      e ≤ f.maxExponent ∧ (2 ^ (f.precision - 1) ≤ m ∨ e = f.minExponent))
  | _ => True

variable {f} {num den : Nat} {v : ℚ} {s : Bool}

theorem round_zero (s : Bool) (den : Nat) : f.round s 0 den = .finite s 0 0 := by
  simp [round]

theorem round_eq_assemble {e : Int} {q : Nat} (hnum : num ≠ 0)
    (he : max f.minExponent (magnitude num den - f.precision) = e)
    (hq : roundDiv (num * (powerOfTwo e).2) (den * (powerOfTwo e).1) = q) :
    f.round s num den = f.assemble s q e := by
  subst he hq
  rw [round, if_neg hnum]
  rfl

/-- Equal quotients are rounded to the same number. -/
theorem round_congr {num' den' : Nat} (hden : den ≠ 0) (hden' : den' ≠ 0)
    (hvalue : (num : ℚ) = v * den) (hvalue' : (num' : ℚ) = v * den') :
    f.round s num den = f.round s num' den' := by
  by_cases hv : v = 0
  · rw [hv, zero_mul, Nat.cast_eq_zero] at hvalue hvalue'
    rw [hvalue, hvalue', round_zero, round_zero]
  · have hnum : num ≠ 0 := by
      rintro rfl
      exact mul_ne_zero hv (Nat.cast_ne_zero.2 hden) (hvalue.symm.trans Nat.cast_zero)
    have hnum' : num' ≠ 0 := by
      rintro rfl
      exact mul_ne_zero hv (Nat.cast_ne_zero.2 hden') (hvalue'.symm.trans Nat.cast_zero)
    obtain ⟨hlow, hhigh⟩ := value_bounds hnum' hden' hvalue'
    have hmagnitude := magnitude_eq hden hvalue hlow hhigh
    have hround := roundDiv_congr (counted_den_ne_zero hden _) (counted_den_ne_zero hden' _)
      (counted_eq hvalue (max f.minExponent (magnitude num' den' - f.precision)))
      (counted_eq hvalue' _)
    rw [round_eq_assemble hnum (by rw [hmagnitude]) hround, round_eq_assemble hnum' rfl rfl]

/-- A rounded mantissa has no place too many unless it is the next power of two, and no place too
few unless the exponent is the least. -/
theorem mantissa_bounds {e : Int} (hprecision : f.precision ≠ 0) (hnum : num ≠ 0) (hden : den ≠ 0)
    (he : max f.minExponent (magnitude num den - f.precision) = e) :
    roundDiv (num * (powerOfTwo e).2) (den * (powerOfTwo e).1) ≤ 2 ^ f.precision ∧
      (e ≠ f.minExponent → 2 ^ (f.precision - 1) ≤
        roundDiv (num * (powerOfTwo e).2) (den * (powerOfTwo e).1)) := by
  obtain ⟨v, hvalue⟩ : ∃ v : ℚ, (num : ℚ) = v * den :=
    ⟨num / den, (div_mul_cancel₀ _ (Nat.cast_ne_zero.2 hden)).symm⟩
  obtain ⟨hlow, hhigh⟩ := value_bounds hnum hden hvalue
  obtain ⟨hle, hge⟩ := roundDiv_bounds (counted_den_ne_zero hden e) (counted_eq hvalue e)
  generalize roundDiv (num * (powerOfTwo e).2) (den * (powerOfTwo e).1) = q at hle hge ⊢
  have hunit : (0 : ℚ) < 2 ^ e := by positivity
  constructor
  · have hlt : v / 2 ^ e < 2 ^ f.precision := by
      rw [div_lt_iff₀ hunit, ← zpow_natCast, ← zpow_add₀ two_ne_zero]
      exact hhigh.trans_le (zpow_le_zpow_right₀ one_le_two (by omega))
    have hcast : (q : ℚ) < (2 ^ f.precision + 1 : Nat) := by
      push_cast
      linarith
    exact Nat.lt_succ_iff.1 (Nat.cast_lt.1 hcast)
  · intro hne
    have hle' : (2 : ℚ) ^ (f.precision - 1) ≤ v / 2 ^ e := by
      rw [le_div_iff₀ hunit, ← zpow_natCast, ← zpow_add₀ two_ne_zero]
      exact (zpow_le_zpow_right₀ one_le_two (by omega)).trans hlow
    have hcast : ((2 ^ (f.precision - 1) : Nat) : ℚ) < (q + 1 : Nat) := by
      push_cast
      linarith
    exact Nat.lt_succ_iff.1 (Nat.cast_lt.1 hcast)

theorem keeps_assemble {q : Nat} {e : Int} (hprecision : f.precision ≠ 0)
    (hmin : f.minExponent ≤ e) (hmost : q ≤ 2 ^ f.precision)
    (hleast : e ≠ f.minExponent → 2 ^ (f.precision - 1) ≤ q) : f.Keeps (f.assemble s q e) := by
  have hpow : 2 ^ (f.precision - 1) < 2 ^ f.precision :=
    Nat.pow_lt_pow_right one_lt_two (by omega)
  unfold assemble
  split
  · exact .inl ⟨rfl, rfl⟩
  rename_i hq
  by_cases hcarry : q = 2 ^ f.precision
  · simp only [if_pos hcarry]
    split
    · trivial
    · exact .inr ⟨(Nat.two_pow_pos _).ne', hpow, by omega, by omega, .inl le_rfl⟩
  · simp only [if_neg hcarry]
    split
    · trivial
    · refine .inr ⟨hq, by omega, hmin, by omega, ?_⟩
      by_cases hne : e = f.minExponent
      · exact .inr hne
      · exact .inl (hleast hne)

/-- What is rounded is in the form that rounding leaves. -/
theorem keeps_round (hprecision : f.precision ≠ 0) (hden : den ≠ 0) :
    f.Keeps (f.round s num den) := by
  by_cases hnum : num = 0
  · rw [hnum, round_zero]
    exact .inl ⟨rfl, rfl⟩
  · obtain ⟨hmost, hleast⟩ := mantissa_bounds hprecision hnum hden rfl
    rw [round_eq_assemble hnum rfl rfl]
    exact keeps_assemble hprecision (le_max_left _ _) hmost hleast

/-! ## Nearest numbers -/

/-- A number is rounded to its mantissa in the unit of that. -/
theorem round_eq_of_unit {m : Nat} {e : Int} (hm : m ≠ 0) (hfits : m < 2 ^ f.precision)
    (hmax : e ≤ f.maxExponent) (hnum : num ≠ 0) (hden : den ≠ 0) (hvalue : (num : ℚ) = v * den)
    (hunit : max f.minExponent (magnitude num den - f.precision) = e)
    (hlow : (m - 1 / 2) * 2 ^ e < v) (hhigh : v < (m + 1 / 2) * 2 ^ e) :
    f.round s num den = .finite s m e := by
  have hpos : (0 : ℚ) < 2 ^ e := by positivity
  have hround := roundDiv_eq_of_near (counted_den_ne_zero hden e) (counted_eq hvalue e)
    ((lt_div_iff₀ hpos).2 hlow) ((div_lt_iff₀ hpos).2 hhigh)
  rw [round_eq_assemble hnum hunit hround, assemble, if_neg hm]
  simp only [if_neg hfits.ne, if_neg hmax.not_gt]

/-- Just below a power of two the unit is half as large, and a place is carried. -/
theorem round_eq_of_carry {e : Int} (hprecision : f.precision ≠ 0) (hmin : f.minExponent < e)
    (hmax : e ≤ f.maxExponent) (hnum : num ≠ 0) (hden : den ≠ 0) (hvalue : (num : ℚ) = v * den)
    (hlow : ((2 ^ (f.precision - 1) : Nat) - 1 / 4 : ℚ) * 2 ^ e < v)
    (hhigh : v < (2 ^ (f.precision - 1) : Nat) * 2 ^ e) :
    f.round s num den = .finite s (2 ^ (f.precision - 1)) e := by
  obtain ⟨p, hp⟩ : ∃ p, f.precision = p + 1 := ⟨f.precision - 1, by omega⟩
  rw [hp, Nat.add_sub_cancel] at hlow hhigh ⊢
  obtain ⟨d, rfl⟩ : ∃ d, e = d + 1 := ⟨e - 1, by omega⟩
  have hpos : (0 : ℚ) < 2 ^ d := by positivity
  have htwo : (2 : ℚ) ^ (d + 1) = 2 * 2 ^ d := by rw [zpow_add_one₀ two_ne_zero, mul_comm]
  have hpow : ((2 ^ (p + 1) : Nat) : ℚ) = 2 * (2 ^ p : Nat) := by
    push_cast
    ring
  rw [htwo] at hlow hhigh
  have hone : (1 : ℚ) ≤ (2 ^ p : Nat) := by exact_mod_cast Nat.one_le_two_pow
  have hmagnitude : magnitude num den = p + 1 + d := by
    have hle : (2 : ℚ) ^ ((p : Int) + 1 + d - 1) = (2 ^ p : Nat) * 2 ^ d := by
      rw [show (p : Int) + 1 + d - 1 = p + d by omega, zpow_add₀ two_ne_zero, zpow_natCast]
      push_cast
      rfl
    have hlt : (2 : ℚ) ^ ((p : Int) + 1 + d) = (2 ^ p : Nat) * (2 * 2 ^ d) := by
      rw [show (p : Int) + 1 + d = p + (d + 1) by omega, zpow_add₀ two_ne_zero, zpow_natCast, htwo]
      push_cast
      rfl
    refine magnitude_eq hden hvalue ?_ (hlt ▸ hhigh)
    rw [hle]
    refine le_trans ?_ hlow.le
    nlinarith
  have hround := roundDiv_eq_of_near (q := 2 ^ (p + 1)) (counted_den_ne_zero hden d)
    (counted_eq hvalue d)
    ((lt_div_iff₀ hpos).2 (by rw [hpow]; linarith)) ((div_lt_iff₀ hpos).2 (by rw [hpow]; nlinarith))
  rw [round_eq_assemble hnum (by rw [hmagnitude, hp]; omega) hround, assemble,
    if_neg (Nat.two_pow_pos _).ne']
  simp only [hp, if_true, Nat.add_sub_cancel, if_neg hmax.not_gt]

/-- A quotient that is nearer to a number of the format than to its neighbours is rounded to it.
Below a power of two the neighbour is half as far away as above it. -/
theorem round_eq_of_near {m : Nat} {e : Int} (hprecision : f.precision ≠ 0) (hm : m ≠ 0)
    (hkeeps : f.Keeps (.finite s m e)) (hden : den ≠ 0) (hvalue : (num : ℚ) = v * den)
    (hlow : (m - 1 / 2) * 2 ^ e < v) (hhigh : v < (m + 1 / 2) * 2 ^ e)
    (hedge : m = 2 ^ (f.precision - 1) → (m - 1 / 4) * 2 ^ e < v) :
    f.round s num den = .finite s m e := by
  obtain ⟨hzero, -⟩ | ⟨-, hfits, hmin, hmax, hplace⟩ := hkeeps
  · exact absurd hzero hm
  have hpos : (0 : ℚ) < 2 ^ e := by positivity
  have hone : (1 : ℚ) ≤ m := by exact_mod_cast Nat.one_le_iff_ne_zero.2 hm
  have hv : 0 < v := lt_of_le_of_lt (by nlinarith) hlow
  have hnum : num ≠ 0 := by
    rintro rfl
    have hdenPos : (0 : ℚ) < den := by exact_mod_cast Nat.pos_of_ne_zero hden
    exact (mul_pos hv hdenPos).ne (Nat.cast_zero.symm.trans hvalue)
  obtain ⟨hbelow, habove⟩ := value_bounds hnum hden hvalue
  -- The quotient is below the next power of two behind the mantissa, so its unit is no larger.
  have hplaces : magnitude num den - 1 < f.precision + e := by
    refine (zpow_lt_zpow_iff_right₀ (one_lt_two (α := ℚ))).1 (hbelow.trans_lt ?_)
    have hfits' : (m : ℚ) + 1 ≤ 2 ^ f.precision := by exact_mod_cast hfits
    rw [zpow_add₀ two_ne_zero, zpow_natCast]
    nlinarith
  by_cases hunit : max f.minExponent (magnitude num den - f.precision) = e
  · exact round_eq_of_unit hm hfits hmax hnum hden hvalue hunit hlow hhigh
  -- Otherwise it is smaller, so the quotient is below the power of two that the mantissa is.
  have hsmaller : v < (2 ^ (f.precision - 1) : Nat) * 2 ^ e := by
    push_cast
    rw [← zpow_natCast, ← zpow_add₀ two_ne_zero]
    exact habove.trans_le (zpow_le_zpow_right₀ one_le_two (by omega))
  have hedge' : m = 2 ^ (f.precision - 1) := by
    have hle : 2 ^ (f.precision - 1) ≤ m := hplace.resolve_right (by omega)
    have hlt : (m : ℚ) < (2 ^ (f.precision - 1) + 1 : Nat) := by
      have hlt' := lt_of_mul_lt_mul_right (hlow.trans hsmaller) hpos.le
      push_cast at hlt' ⊢
      linarith
    exact le_antisymm (Nat.lt_succ_iff.1 (Nat.cast_lt.1 hlt)) hle
  have hlow' := hedge hedge'
  rw [hedge'] at hlow' ⊢
  exact round_eq_of_carry hprecision (by omega) hmax hnum hden hvalue hlow' hsmaller

end Format

namespace Binary

/-- A number of a format stays what it is where zero is added, but for the sign of a zero. -/
theorem add_zero_of_keeps {f : Format} (hprecision : f.precision ≠ 0) {x : Binary}
    (hx : f.Keeps x) : add f x zero = if x.isZero then zero else x := by
  cases x with
  | nan => rfl
  | infinite s => rfl
  | finite s m e =>
    rw [add_zero_eq]
    by_cases hm : m = 0
    · simp [hm, scaled, isZero]
    have hpos : (0 : ℚ) < 2 ^ e := by positivity
    have hcount : 0 < m * 2 ^ (e - min e 0).toNat :=
      Nat.mul_pos (Nat.pos_of_ne_zero hm) (Nat.two_pow_pos _)
    have hsign : decide (scaled s m e (min e 0) < 0) = s ∧ scaled s m e (min e 0) ≠ 0 := by
      cases s <;> simp [scaled, Nat.pow_eq] <;> omega
    have hiszero : (Binary.finite s m e).isZero = false := by
      cases m with
      | zero => exact absurd rfl hm
      | succ m => rfl
    obtain ⟨-, hden⟩ := powerOfTwo_pos (min e 0)
    rw [if_neg hsign.2, hsign.1, hiszero, if_neg Bool.false_ne_true]
    exact Format.round_eq_of_near hprecision hm hx hden.ne' (scaled_value s m e)
      (by linarith) (by linarith) (fun _ => by linarith)

end Binary

end GuidedJson.Number
