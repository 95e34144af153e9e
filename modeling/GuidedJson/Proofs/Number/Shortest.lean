import GuidedJson.Proofs.Number.Decimal

/-!
# Shortest decimals

The decimal that is written for a number has exactly as many digits as it counts, and is read as the
number: a shorter one is only taken where it is, and seventeen digits always are.
-/

namespace GuidedJson.Number

/-! ## Digits of a quotient -/

section Digits

variable {num den : Nat} {v : ℚ}

theorem div_le_roundDiv (num den : Nat) :
    num / den ≤ roundDiv num den ∧ roundDiv num den ≤ num / den + 1 := by
  simp only [roundDiv]
  split_ifs <;> omega

/-- The whole part of a quotient between two powers of ten. -/
theorem div_bounds {k : Nat} (hden : den ≠ 0) (hvalue : (num : ℚ) = v * den)
    (hlow : (10 : ℚ) ^ k ≤ v) (hhigh : v < 10 ^ (k + 1)) :
    10 ^ k ≤ num / den ∧ num / den < 10 ^ (k + 1) := by
  have hpos : (0 : ℚ) < den := by exact_mod_cast Nat.pos_of_ne_zero hden
  constructor
  · rw [Nat.le_div_iff_mul_le (Nat.pos_of_ne_zero hden)]
    have hcast : ((10 ^ k * den : Nat) : ℚ) ≤ num := by
      rw [hvalue]
      push_cast
      gcongr
    exact_mod_cast hcast
  · rw [Nat.div_lt_iff_lt_mul (Nat.pos_of_ne_zero hden)]
    have hcast : (num : ℚ) < (10 ^ (k + 1) * den : Nat) := by
      rw [hvalue]
      push_cast
      gcongr
    exact_mod_cast hcast

end Digits

/-! ## Decimals of a number -/

/-- Whether a decimal is read as a number, and has about as many digits as it counts. -/
structure Decimal.Writes (x : Binary) (s : Bool) (d : Decimal) : Prop where
  count : d.count ≠ 0
  low : 10 ^ (d.count - 1) ≤ d.digits
  high : d.digits ≤ 10 ^ d.count
  reads : Binary.ofDecimal s d.digits (d.point - d.count) = x

section Numbers

variable {s : Bool} {m : Nat} {e : Int} {num den : Nat} {point : Int}

theorem readsAs_iff {digits : Nat} {exponent : Int} :
    readsAs (.finite s m e) digits exponent = true ↔
      Binary.ofDecimal s digits exponent = .finite s m e := by
  simp [readsAs]

/-- The value of a number with its point moved behind so many places. -/
theorem scaled_bounds {v : ℚ} {k : Nat} (hlow : 10 ^ (point - 1) ≤ v) (hhigh : v < 10 ^ point) :
    (10 : ℚ) ^ k ≤ v * 10 ^ (-(point - (k + 1 : Nat))) ∧
      v * 10 ^ (-(point - (k + 1 : Nat))) < 10 ^ (k + 1) := by
  have hten : (10 : ℚ) ≠ 0 := by norm_num
  have hpos : (0 : ℚ) < 10 ^ (-(point - (k + 1 : Nat))) := by positivity
  constructor
  · calc (10 : ℚ) ^ k = 10 ^ (point - 1) * 10 ^ (-(point - (k + 1 : Nat))) := by
          rw [← zpow_add₀ hten, ← zpow_natCast]
          congr 1
          omega
      _ ≤ _ := by gcongr
  · calc v * 10 ^ (-(point - (k + 1 : Nat))) < 10 ^ point * 10 ^ (-(point - (k + 1 : Nat))) := by
          gcongr
      _ = 10 ^ (k + 1) := by
          rw [← zpow_add₀ hten, ← zpow_natCast]
          congr 1
          omega

section Search

variable {v : ℚ} (hden : den ≠ 0) (hvalue : (num : ℚ) = v * den)
  (hlow : 10 ^ (point - 1) ≤ v) (hhigh : v < 10 ^ point)
include hden hvalue hlow hhigh

/-- The digits before the point of a quotient that is moved behind so many places. -/
theorem places_bounds {count : Nat} (hcount : count ≠ 0) :
    10 ^ (count - 1) ≤ (scaleTen num den (-(point - count))).1 /
        (scaleTen num den (-(point - count))).2 ∧
      (scaleTen num den (-(point - count))).1 / (scaleTen num den (-(point - count))).2 <
        10 ^ count := by
  obtain ⟨k, rfl⟩ := Nat.exists_eq_succ_of_ne_zero hcount
  obtain ⟨hfrom, hto⟩ := scaled_bounds (k := k) hlow hhigh
  exact div_bounds (scaleTen_den_ne_zero hden _) (scaleTen_eq hvalue _) hfrom hto

/-- A decimal that is found is read as the number. -/
theorem writes_of_withDigits? {count : Nat} (hcount : count ≠ 0) {d : Decimal}
    (h : withDigits? (.finite s m e) num den point count = some d) :
    d.Writes (.finite s m e) s := by
  obtain ⟨hleast, hmost⟩ := places_bounds hden hvalue hlow hhigh hcount
  simp only [withDigits?] at h
  generalize (scaleTen num den (-(point - count))).1 = a at h hleast hmost
  generalize (scaleTen num den (-(point - count))).2 = b at h hleast hmost
  obtain ⟨hfloor, hceil⟩ := div_le_roundDiv a b
  split_ifs at h with hboth hone htwo
  · obtain rfl := Option.some.inj h
    rw [Bool.and_eq_true, readsAs_iff, readsAs_iff] at hboth
    refine ⟨hcount, hleast.trans hfloor, hceil.trans hmost, ?_⟩
    rcases Nat.le_or_eq_of_le_succ hceil with hle | heq
    · rw [le_antisymm hle hfloor]
      exact hboth.1
    · rw [heq]
      exact hboth.2
  · obtain rfl := Option.some.inj h
    exact ⟨hcount, hleast, hmost.le, readsAs_iff.1 hone⟩
  · obtain rfl := Option.some.inj h
    exact ⟨hcount, hleast.trans (Nat.le_succ _), hmost, readsAs_iff.1 htwo⟩

end Search

/-- Seventeen digits tell a number from its neighbours. -/
theorem ofDecimal_seventeen (hm : m ≠ 0) (hkeeps : Format.binary64.Keeps (.finite s m e))
    (hden : den ≠ 0) (hvalue : (num : ℚ) = m * 2 ^ e * den)
    (hlow : (10 : ℚ) ^ (point - 1) ≤ m * 2 ^ e) :
    Binary.ofDecimal s
      (roundDiv (scaleTen num den (17 - point)).1 (scaleTen num den (17 - point)).2)
      (point - 17) = .finite s m e := by
  have hten : (10 : ℚ) ≠ 0 := by norm_num
  have hunit : (0 : ℚ) < 10 ^ (point - 17) := by positivity
  have hpos : (0 : ℚ) < 2 ^ e := by positivity
  obtain ⟨hfloor, hceil⟩ := roundDiv_bounds (scaleTen_den_ne_zero hden (17 - point))
    (scaleTen_eq hvalue (17 - point))
  generalize roundDiv (scaleTen num den (17 - point)).1 (scaleTen num den (17 - point)).2 = n
    at hfloor hceil ⊢
  have hback : (m : ℚ) * 2 ^ e * 10 ^ (17 - point) * 10 ^ (point - 17) = m * 2 ^ e := by
    rw [mul_assoc, ← zpow_add₀ hten, show 17 - point + (point - 17) = 0 by omega, zpow_zero,
      mul_one]
  -- The decimal is half a unit of its last place away, which is so much less than the number.
  have hsmall : (10 : ℚ) ^ (point - 17) * 10 ^ (16 : Nat) ≤ m * 2 ^ e := by
    rw [← zpow_natCast, ← zpow_add₀ hten]
    exact le_trans (zpow_le_zpow_right₀ (by norm_num) (by omega)) hlow
  have hbelow : (m : ℚ) * 2 ^ e - 10 ^ (point - 17) / 2 ≤ n * 10 ^ (point - 17) := by
    have := mul_le_mul_of_nonneg_right hceil hunit.le
    rw [hback] at this
    linarith
  have habove : (n : ℚ) * 10 ^ (point - 17) ≤ m * 2 ^ e + 10 ^ (point - 17) / 2 := by
    have := mul_le_mul_of_nonneg_right hfloor hunit.le
    rw [hback] at this
    linarith
  have hmost : (m : ℚ) < 2 ^ 53 := by
    obtain ⟨hzero, -⟩ | ⟨-, hfits, -⟩ := hkeeps
    · exact absurd hzero hm
    · exact_mod_cast hfits
  refine Binary.ofDecimal_eq_of_near hm hkeeps ?_ ?_ ?_
  · nlinarith
  · nlinarith
  · intro hedge
    have hm' : (m : ℚ) = 2 ^ 52 := by exact_mod_cast hedge
    rw [hm'] at hbelow hsmall ⊢
    linarith

/-- The search ends with a decimal that is read as the number. -/
theorem writes_searchDigits (hm : m ≠ 0) (hkeeps : Format.binary64.Keeps (.finite s m e))
    (hden : den ≠ 0) (hvalue : (num : ℚ) = m * 2 ^ e * den)
    (hlow : (10 : ℚ) ^ (point - 1) ≤ m * 2 ^ e) (hhigh : (m : ℚ) * 2 ^ e < 10 ^ point)
    (fuel count : Nat) (hcount : count ≠ 0) (hfuel : fuel + count = 17) :
    (searchDigits (.finite s m e) num den point fuel count).Writes (.finite s m e) s := by
  induction fuel generalizing count with
  | zero =>
    obtain rfl : count = 17 := by omega
    obtain ⟨hleast, hmost⟩ := places_bounds hden hvalue hlow hhigh hcount
    rw [neg_sub] at hleast hmost
    obtain ⟨hfloor, hceil⟩ := div_le_roundDiv (scaleTen num den ((17 : Nat) - point)).1
      (scaleTen num den ((17 : Nat) - point)).2
    exact ⟨hcount, hleast.trans hfloor, hceil.trans hmost,
      ofDecimal_seventeen hm hkeeps hden hvalue hlow⟩
  | succ fuel ih =>
    rw [searchDigits]
    split
    · rename_i d hd
      exact writes_of_withDigits? hden hvalue hlow hhigh hcount hd
    · exact ih (count + 1) count.succ_ne_zero (by omega)

/-- A carry into a further digit is taken back without a change of the value. -/
theorem Decimal.Writes.normalize {x : Binary} {d : Decimal} (h : d.Writes x s) :
    d.normalize.Writes x s ∧ d.normalize.digits < 10 ^ d.normalize.count := by
  obtain ⟨hcount, hlow, hhigh, hreads⟩ := h
  obtain ⟨digits, count, point⟩ := d
  obtain ⟨k, rfl⟩ := Nat.exists_eq_succ_of_ne_zero hcount
  unfold Decimal.normalize
  split
  · rename_i hcarry
    have hdigits : digits = 10 ^ (k + 1) := hcarry
    have hten : digits / 10 = 10 ^ k := by rw [hdigits, pow_succ, Nat.mul_div_cancel _ (by decide)]
    refine ⟨⟨hcount, hten.ge, ?_, ?_⟩, ?_⟩
    · exact hten.trans_le (Nat.pow_le_pow_right (by decide) k.le_succ)
    · rw [← hreads]
      apply Binary.ofDecimal_congr
      show ((digits / 10 : Nat) : ℚ) * 10 ^ (point + 1 - (k + 1 : Nat)) =
        digits * 10 ^ (point - (k + 1 : Nat))
      rw [hten, hdigits, show point + 1 - (k + 1 : Nat) = 1 + (point - (k + 1 : Nat)) by omega,
        zpow_one_add₀ (by norm_num)]
      push_cast
      ring
    · exact hten.trans_lt (Nat.pow_lt_pow_right (by decide) k.lt_succ_self)
  · rename_i hcarry
    exact ⟨⟨hcount, hlow, hhigh, hreads⟩, lt_of_le_of_ne hhigh hcarry⟩

/-- The shortest decimal of a number has as many digits as it counts, and is read as the number. -/
theorem writes_shortest (hm : m ≠ 0) (hkeeps : Format.binary64.Keeps (.finite s m e)) :
    (shortest (.finite s m e) m e).Writes (.finite s m e) s ∧
      (shortest (.finite s m e) m e).digits < 10 ^ (shortest (.finite s m e) m e).count := by
  have hpos := powerOfTwo_pos e
  have hvalue : ((m * (powerOfTwo e).1 : Nat) : ℚ) = m * 2 ^ e * (powerOfTwo e).2 := by
    rw [Nat.cast_mul, powerOfTwo_eq, mul_assoc]
  obtain ⟨hlow, hhigh⟩ := pointPlace_bounds (Nat.mul_ne_zero hm hpos.1.ne') hpos.2.ne' hvalue
  exact (writes_searchDigits hm hkeeps hpos.2.ne' hvalue hlow hhigh 16 1 one_ne_zero rfl).normalize

end Numbers

end GuidedJson.Number
