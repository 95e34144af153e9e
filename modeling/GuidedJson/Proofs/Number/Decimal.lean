import GuidedJson.Number.Shortest
import GuidedJson.Proofs.Number.Nearest

/-!
# Decimals

A decimal is read for its value alone, and the shortest decimal of a number is read as the number:
seventeen digits are enough to tell it from its neighbours.
-/

namespace GuidedJson.Number

/-! ## Places of numbers -/

theorem length_decimalDigits_pos (n : Nat) : 0 < (decimalDigits n).length :=
  Nat.length_toDigits_pos

theorem lt_ten_pow_length (n : Nat) : n < 10 ^ (decimalDigits n).length :=
  (Nat.length_toDigits_le_iff (by decide) (length_decimalDigits_pos n)).1 le_rfl

theorem ten_pow_le_of_lt_length {n k : Nat} (hk : k ≠ 0) (h : k < (decimalDigits n).length) :
    10 ^ k ≤ n := by
  by_contra hlt
  exact h.not_ge ((Nat.length_toDigits_le_iff (by decide) (Nat.pos_of_ne_zero hk)).2
    (Nat.not_le.1 hlt))

/-- A number with so many digits is no less than the power of ten with as many. -/
theorem ten_pow_length_le {n : Nat} (hn : n ≠ 0) : 10 ^ ((decimalDigits n).length - 1) ≤ n := by
  by_cases hone : (decimalDigits n).length - 1 = 0
  · rw [hone, pow_zero]
    exact Nat.one_le_iff_ne_zero.2 hn
  · exact ten_pow_le_of_lt_length hone (by have := length_decimalDigits_pos n; omega)

theorem length_decimalDigits_eq {n k : Nat} (hlow : 10 ^ k ≤ n) (hhigh : n < 10 ^ (k + 1)) :
    (decimalDigits n).length = k + 1 := by
  apply le_antisymm
  · exact (Nat.length_toDigits_le_iff (by decide) k.succ_pos).2 hhigh
  · exact (Nat.pow_lt_pow_iff_right (by decide)).1 (hlow.trans_lt (lt_ten_pow_length n))

section Places

variable {num den : Nat} {v : ℚ}

/-- A value with so many places before the point. -/
theorem ten_zpow_bounds {n : Nat} (hn : n ≠ 0) (e : Int) :
    (10 : ℚ) ^ (((decimalDigits n).length : Int) + e - 1) ≤ n * 10 ^ e ∧
      (n : ℚ) * 10 ^ e < 10 ^ (((decimalDigits n).length : Int) + e) := by
  have hten : (10 : ℚ) ≠ 0 := by norm_num
  have hpos : (0 : ℚ) < 10 ^ e := by positivity
  have hlow : ((10 ^ ((decimalDigits n).length - 1) : Nat) : ℚ) ≤ n := by
    exact_mod_cast ten_pow_length_le hn
  have hhigh : (n : ℚ) < (10 ^ (decimalDigits n).length : Nat) := by
    exact_mod_cast lt_ten_pow_length n
  have hlength := length_decimalDigits_pos n
  constructor
  · have hexponent : ((decimalDigits n).length : Int) + e - 1 =
        ((decimalDigits n).length - 1 : Nat) + e := by omega
    rw [hexponent, zpow_add₀ hten, zpow_natCast]
    push_cast at hlow
    gcongr
  · rw [zpow_add₀ hten, zpow_natCast]
    push_cast at hhigh
    gcongr

theorem eight_pow_lt_ten_pow {k : Nat} (hk : k ≠ 0) : (2 : ℚ) ^ (3 * k) < 10 ^ k := by
  rw [pow_mul]
  exact pow_lt_pow_left₀ (by norm_num) (by norm_num) hk

theorem ten_zpow_lt_iff {j k : Int} : (10 : ℚ) ^ j < 10 ^ k ↔ j < k :=
  zpow_lt_zpow_iff_right₀ (by norm_num)

/-- A value lies between two neighbouring powers of ten only. -/
theorem eq_of_ten_zpow_bounds {j k : Int} (hj : (10 : ℚ) ^ (j - 1) ≤ v) (hj' : v < 10 ^ j)
    (hk : (10 : ℚ) ^ (k - 1) ≤ v) (hk' : v < 10 ^ k) : j = k := by
  have hjk := ten_zpow_lt_iff.1 (hj.trans_lt hk')
  have hkj := ten_zpow_lt_iff.1 (hk.trans_lt hj')
  omega

/-! ## Powers of ten -/

theorem scaleTen_den_ne_zero (hden : den ≠ 0) (k : Int) : (scaleTen num den k).2 ≠ 0 := by
  unfold scaleTen
  split
  · exact hden
  · exact Nat.mul_ne_zero hden (Nat.pow_pos (by decide)).ne'

theorem scaleTen_eq (hvalue : (num : ℚ) = v * den) (k : Int) :
    ((scaleTen num den k).1 : ℚ) = v * 10 ^ k * (scaleTen num den k).2 := by
  unfold scaleTen
  split
  · rename_i hk
    lift k to ℕ using hk
    rw [Nat.cast_mul, hvalue, Int.toNat_natCast, zpow_natCast, Nat.pow_eq]
    push_cast
    ring
  · rename_i hk
    obtain ⟨n, rfl⟩ : ∃ n : ℕ, k = -n := ⟨(-k).toNat, by omega⟩
    rw [neg_neg, Int.toNat_natCast, Nat.cast_mul, Nat.pow_eq, zpow_neg, zpow_natCast, hvalue]
    push_cast
    field_simp

/-- A quotient is scaled to one or more exactly if its value is no less than the power of ten. -/
theorem scaleTen_le_iff (hden : den ≠ 0) (hvalue : (num : ℚ) = v * den) (k : Int) :
    (scaleTen num den (-k)).2 ≤ (scaleTen num den (-k)).1 ↔ 10 ^ k ≤ v := by
  have hpos : (0 : ℚ) < (scaleTen num den (-k)).2 := by
    exact_mod_cast Nat.pos_of_ne_zero (scaleTen_den_ne_zero hden (-k))
  rw [← Nat.cast_le (α := ℚ), scaleTen_eq hvalue, le_mul_iff_one_le_left hpos, zpow_neg,
    ← div_eq_mul_inv, one_le_div₀ (by positivity)]

/-- The lengths of a quotient's parts tell its value but for one power of ten. -/
theorem quotient_bounds (hnum : num ≠ 0) (hden : den ≠ 0) (hvalue : (num : ℚ) = v * den) :
    10 ^ (((decimalDigits num).length : Int) - (decimalDigits den).length - 1) ≤ v ∧
      v < 10 ^ (((decimalDigits num).length : Int) - (decimalDigits den).length + 1) := by
  have hten : (10 : ℚ) ≠ 0 := by norm_num
  have hpos : (0 : ℚ) < den := by exact_mod_cast Nat.pos_of_ne_zero hden
  obtain ⟨hnumLow, hnumHigh⟩ := ten_zpow_bounds hnum 0
  obtain ⟨hdenLow, hdenHigh⟩ := ten_zpow_bounds hden 0
  simp only [zpow_zero, mul_one, add_zero] at hnumLow hnumHigh hdenLow hdenHigh
  constructor
  · refine le_of_mul_le_mul_right ?_ hpos
    calc (10 : ℚ) ^ (((decimalDigits num).length : Int) - (decimalDigits den).length - 1) * den
        ≤ 10 ^ (((decimalDigits num).length : Int) - (decimalDigits den).length - 1) *
            10 ^ ((decimalDigits den).length : Int) := by gcongr
      _ = 10 ^ (((decimalDigits num).length : Int) - 1) := by
          rw [← zpow_add₀ hten]
          congr 1
          omega
      _ ≤ v * den := hvalue ▸ hnumLow
  · refine lt_of_mul_lt_mul_right ?_ hpos.le
    calc v * den < 10 ^ ((decimalDigits num).length : Int) := hvalue ▸ hnumHigh
      _ = 10 ^ (((decimalDigits num).length : Int) - (decimalDigits den).length + 1) *
            10 ^ (((decimalDigits den).length : Int) - 1) := by
          rw [← zpow_add₀ hten]
          congr 1
          omega
      _ ≤ 10 ^ (((decimalDigits num).length : Int) - (decimalDigits den).length + 1) * den := by
          gcongr

/-- The value of a quotient lies between two powers of ten, as the place of its point says. -/
theorem pointPlace_bounds (hnum : num ≠ 0) (hden : den ≠ 0) (hvalue : (num : ℚ) = v * den) :
    10 ^ (pointPlace num den - 1) ≤ v ∧ v < 10 ^ pointPlace num den := by
  obtain ⟨hlow, hhigh⟩ := quotient_bounds hnum hden hvalue
  unfold pointPlace
  simp only [scaleTen_le_iff hden hvalue]
  split
  · rename_i hle
    rw [add_sub_cancel_right]
    exact ⟨hle, hhigh⟩
  · rename_i hlt
    exact ⟨hlow, not_le.1 hlt⟩

end Places

/-! ## Decimals by their value -/

namespace Binary

theorem ofDecimal_zero (s : Bool) (e : Int) : ofDecimal s 0 e = .finite s 0 0 := by
  simp [ofDecimal]

/-- A decimal that is far too small is read as zero. -/
theorem ofDecimal_of_small {digits : Nat} {e : Int} (s : Bool)
    (h : ((decimalDigits digits).length : Int) + e < -400) :
    ofDecimal s digits e = .finite s 0 0 := by
  have hsmall : (digits = 0 || ((Nat.toDigits 10 digits).length : Int) + e < -400) = true :=
    Bool.or_eq_true_iff.2 (.inr (decide_eq_true h))
  simp only [ofDecimal, hsmall, if_true]

/-- A decimal that is far too large is read as infinity. -/
theorem ofDecimal_of_large {digits : Nat} {e : Int} (s : Bool) (hdigits : digits ≠ 0)
    (h : 400 < ((decimalDigits digits).length : Int) + e) : ofDecimal s digits e = .infinite s := by
  have hsmall : (digits = 0 || ((Nat.toDigits 10 digits).length : Int) + e < -400) = false :=
    Bool.or_eq_false_iff.2
      ⟨decide_eq_false hdigits, decide_eq_false (by unfold decimalDigits at h; omega)⟩
  have hlarge : 400 < ((Nat.toDigits 10 digits).length : Int) + e := h
  simp only [ofDecimal, hsmall, if_pos hlarge, Bool.false_eq_true, if_false]

/-- The value of a decimal as a quotient. -/
theorem exists_quotient (digits : Nat) (e : Int) :
    ∃ num den : Nat, den ≠ 0 ∧ (num : ℚ) = digits * 10 ^ e * den := by
  have hvalue : (digits : ℚ) = digits * (1 : Nat) := by rw [Nat.cast_one, mul_one]
  exact ⟨_, _, scaleTen_den_ne_zero one_ne_zero e, scaleTen_eq hvalue e⟩

/-- A decimal that is neither far too small nor far too large is rounded. -/
theorem ofDecimal_eq_round {s : Bool} {digits num den : Nat} {e : Int} (hdigits : digits ≠ 0)
    (hsmall : -400 ≤ ((decimalDigits digits).length : Int) + e)
    (hlarge : ((decimalDigits digits).length : Int) + e ≤ 400) (hden : den ≠ 0)
    (hvalue : (num : ℚ) = digits * 10 ^ e * den) :
    ofDecimal s digits e = Format.binary64.round s num den := by
  have hlow : (digits = 0 || ((Nat.toDigits 10 digits).length : Int) + e < -400) = false :=
    Bool.or_eq_false_iff.2 ⟨decide_eq_false hdigits, decide_eq_false hsmall.not_gt⟩
  have hhigh : ¬ 400 < ((Nat.toDigits 10 digits).length : Int) + e := hlarge.not_gt
  unfold ofDecimal
  simp only [hlow, Bool.false_eq_true, if_false, if_neg hhigh]
  split
  · rename_i he
    lift e to ℕ using he
    refine Format.round_congr one_ne_zero hden ?_ hvalue
    rw [Int.toNat_natCast, Nat.pow_eq, zpow_natCast]
    push_cast
    ring
  · rename_i he
    obtain ⟨n, rfl⟩ : ∃ n : ℕ, e = -n := ⟨(-e).toNat, by omega⟩
    refine Format.round_congr (Nat.pow_pos (by decide)).ne' hden ?_ hvalue
    rw [neg_neg, Int.toNat_natCast, Nat.pow_eq, zpow_neg, zpow_natCast]
    push_cast
    field_simp

/-- Decimals of one value are read as one number. -/
theorem ofDecimal_congr {s : Bool} {digits digits' : Nat} {e e' : Int}
    (h : (digits : ℚ) * 10 ^ e = digits' * 10 ^ e') :
    ofDecimal s digits e = ofDecimal s digits' e' := by
  have hpos : (0 : ℚ) < 10 ^ e := by positivity
  have hpos' : (0 : ℚ) < 10 ^ e' := by positivity
  by_cases hzero : digits = 0
  · have hzero' : digits' = 0 := by simpa [hzero, hpos'.ne'] using h
    rw [hzero, hzero', ofDecimal_zero, ofDecimal_zero]
  have hzero' : digits' ≠ 0 := by
    rintro rfl
    exact hzero (by simpa [hpos.ne'] using h)
  obtain ⟨hlow, hhigh⟩ := ten_zpow_bounds hzero e
  obtain ⟨hlow', hhigh'⟩ := ten_zpow_bounds hzero' e'
  have hplaces := eq_of_ten_zpow_bounds hlow hhigh (h ▸ hlow') (h ▸ hhigh')
  by_cases hsmall : ((decimalDigits digits).length : Int) + e < -400
  · rw [ofDecimal_of_small s hsmall, ofDecimal_of_small s (hplaces ▸ hsmall)]
  by_cases hlarge : 400 < ((decimalDigits digits).length : Int) + e
  · rw [ofDecimal_of_large s hzero hlarge, ofDecimal_of_large s hzero' (hplaces ▸ hlarge)]
  obtain ⟨num, den, hden, hvalue⟩ := exists_quotient digits e
  rw [ofDecimal_eq_round hzero (by omega) (by omega) hden hvalue,
    ofDecimal_eq_round hzero' (by omega) (by omega) hden (h ▸ hvalue)]

/-- What is read is in the form that rounding leaves. -/
theorem keeps_ofDecimal (s : Bool) (digits : Nat) (e : Int) :
    Format.binary64.Keeps (ofDecimal s digits e) := by
  have hzero : Format.binary64.Keeps (.finite s 0 0) := .inl ⟨rfl, rfl⟩
  by_cases hdigits : digits = 0
  · rwa [hdigits, ofDecimal_zero]
  by_cases hsmall : ((decimalDigits digits).length : Int) + e < -400
  · rwa [ofDecimal_of_small s hsmall]
  by_cases hlarge : 400 < ((decimalDigits digits).length : Int) + e
  · rw [ofDecimal_of_large s hdigits hlarge]
    trivial
  obtain ⟨num, den, hden, hvalue⟩ := exists_quotient digits e
  rw [ofDecimal_eq_round hdigits (by omega) (by omega) hden hvalue]
  exact Format.keeps_round (by decide) hden

/-- A decimal near a number of the format is neither far too small nor far too large. -/
theorem places_of_near {digits m : Nat} {d e : Int} (hm : m ≠ 0) (hdigits : digits ≠ 0)
    (hfits : m < 2 ^ 53) (hmin : -1074 ≤ e) (hmax : e ≤ 971)
    (hlow : (m - 1 / 2) * 2 ^ e < (digits : ℚ) * 10 ^ d)
    (hhigh : (digits : ℚ) * 10 ^ d < (m + 1 / 2) * 2 ^ e) :
    -400 ≤ ((decimalDigits digits).length : Int) + d ∧
      ((decimalDigits digits).length : Int) + d ≤ 400 := by
  have hone : (1 : ℚ) ≤ m := by exact_mod_cast Nat.one_le_iff_ne_zero.2 hm
  have hfits : (m : ℚ) + 1 ≤ 2 ^ (53 : Int) := by exact_mod_cast hfits
  obtain ⟨hfloor, hceil⟩ := ten_zpow_bounds hdigits d
  -- The numbers of the format lie between these powers of ten.
  have hsmall : (10 : ℚ) ^ (-(401 : Nat) : Int) < 2 ^ (-(3 * 401 : Nat) : Int) := by
    rw [zpow_neg, zpow_neg, zpow_natCast, zpow_natCast]
    exact inv_strictAnti₀ (by positivity) (eight_pow_lt_ten_pow (by decide))
  have hlarge : (2 : ℚ) ^ ((3 * 400 : Nat) : Int) < 10 ^ ((400 : Nat) : Int) := by
    rw [zpow_natCast, zpow_natCast]
    exact eight_pow_lt_ten_pow (by decide)
  have habove :
      (10 : ℚ) ^ (-(401 : Nat) : Int) < 10 ^ (((decimalDigits digits).length : Int) + d) := by
    calc (10 : ℚ) ^ (-(401 : Nat) : Int) < 2 ^ (-(3 * 401 : Nat) : Int) := hsmall
      _ ≤ 2 ^ (e - 1) := zpow_le_zpow_right₀ one_le_two (by omega)
      _ = 1 / 2 * 2 ^ e := by rw [zpow_sub_one₀ two_ne_zero]; ring
      _ ≤ (m - 1 / 2) * 2 ^ e := by gcongr; linarith
      _ < digits * 10 ^ d := hlow
      _ < _ := hceil
  have hbelow :
      (10 : ℚ) ^ (((decimalDigits digits).length : Int) + d - 1) < 10 ^ ((400 : Nat) : Int) := by
    calc (10 : ℚ) ^ (((decimalDigits digits).length : Int) + d - 1) ≤ digits * 10 ^ d := hfloor
      _ < (m + 1 / 2) * 2 ^ e := hhigh
      _ ≤ 2 ^ (53 : Int) * 2 ^ e := by gcongr; linarith
      _ = 2 ^ (53 + e) := by rw [zpow_add₀ two_ne_zero]
      _ ≤ 2 ^ ((3 * 400 : Nat) : Int) := zpow_le_zpow_right₀ one_le_two (by omega)
      _ < 10 ^ ((400 : Nat) : Int) := hlarge
  have habove := ten_zpow_lt_iff.1 habove
  have hbelow := ten_zpow_lt_iff.1 hbelow
  omega

/-- A decimal that is nearer to a number than to its neighbours is read as that number. -/
theorem ofDecimal_eq_of_near {s : Bool} {digits m : Nat} {d e : Int} (hm : m ≠ 0)
    (hkeeps : Format.binary64.Keeps (.finite s m e))
    (hlow : (m - 1 / 2) * 2 ^ e < (digits : ℚ) * 10 ^ d)
    (hhigh : (digits : ℚ) * 10 ^ d < (m + 1 / 2) * 2 ^ e)
    (hedge : m = 2 ^ 52 → (m - 1 / 4) * 2 ^ e < (digits : ℚ) * 10 ^ d) :
    ofDecimal s digits d = .finite s m e := by
  have hdigits : digits ≠ 0 := by
    have hone : (1 : ℚ) ≤ m := by exact_mod_cast Nat.one_le_iff_ne_zero.2 hm
    have hpos : (0 : ℚ) < 2 ^ e := by positivity
    rintro rfl
    rw [Nat.cast_zero, zero_mul] at hlow
    nlinarith
  have hkept := hkeeps
  obtain ⟨hzero, -⟩ | ⟨-, hfits, hmin, hmax, -⟩ := hkeeps
  · exact absurd hzero hm
  obtain ⟨hsmall, hlarge⟩ := places_of_near hm hdigits hfits hmin hmax hlow hhigh
  obtain ⟨num, den, hden, hvalue⟩ := exists_quotient digits d
  rw [ofDecimal_eq_round hdigits hsmall hlarge hden hvalue]
  exact Format.round_eq_of_near (by decide) hm hkept hden hvalue hlow hhigh hedge

end Binary

end GuidedJson.Number
