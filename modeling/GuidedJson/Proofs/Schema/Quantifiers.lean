import GuidedJson.Proofs.Json.Readable
import GuidedJson.Proofs.Pattern.Reading
import GuidedJson.Proofs.Schema.Conformance
import GuidedJson.Schema.PatternText

/-!
# Quantifiers of patterns

How bounds are written into patterns. Bounds that are counts make the quantifier that repeats as
often as they say, unless one of them has more digits than are written.
-/

namespace GuidedJson

/-! ## Integers as values -/

namespace Number.Binary

theorem scaled_exact (n : Int) : scaled (n < 0) n.natAbs 0 0 = n := by
  have hpow : n.natAbs * Nat.pow 2 ((0 : Int) - 0).toNat = n.natAbs := Nat.mul_one _
  simp only [scaled, hpow, decide_eq_true_eq]
  split
  · omega
  · omega

theorem lt_exact (a b : Int) : (exact a).lt (exact b) = decide (a < b) := by
  simp only [exact, lt, Int.min_self, scaled_exact]

theorem same_exact (a b : Int) : (exact a).same (exact b) = decide (a = b) := by
  show (!(exact a).lt (exact b) && !(exact b).lt (exact a)) = _
  rw [lt_exact, lt_exact, Bool.eq_iff_iff]
  simp only [Bool.and_eq_true, Bool.not_eq_true', decide_eq_false_iff_not, decide_eq_true_eq]
  omega

end Number.Binary

namespace Value

theorem isNumber_int (a n : Int) : (int a).isNumber n = decide (a = n) :=
  Number.Binary.same_exact a n

theorem exceeds_int (a b : Int) : (int a).exceeds (int b) = .ok (decide (b < a)) := by
  have horder : (int a).order ">" (int b) =
      .ok (Value.orderNumbers (Number.Binary.exact a) (Number.Binary.exact b)) := by
    rw [order]
    · rfl
    · exact nofun
    · exact nofun
  rw [exceeds, horder, orderNumbers, Number.Binary.lt_exact, Number.Binary.lt_exact]
  rcases lt_trichotomy a b with h | h | h
  · simp [h, Int.not_lt.2 h.le, Except.map]
  · simp [h, Except.map, Number.Binary.same_exact]
  · simp [h, Int.not_lt.2 h.le, Except.map]

/-! ## Texts of bounds -/

theorem boundText_of_fits {v : Value} (h : v.Fits) : v.boundText = .ok v.display := by
  rw [boundText, display?, if_pos ((isWritable_iff v).2 h)]
  rfl

theorem boundText_of_not_fits {v : Value} (h : ¬ v.Fits) : v.boundText = .error (.digits none) := by
  rw [boundText, display?, if_neg (mt (isWritable_iff v).1 h)]
  rfl

end Value

namespace Schema

open Pattern (Quantifies quantifies_star quantifies_inBraces quantifies_inBraces_nil)

/-! ## What can be written -/

/-- Whether something is made as it should be, or is refused for a reason that there is. -/
def Written {α : Type} (x : Except Failure α) (good : α → Prop) (reason : Failure → Prop) : Prop :=
  (∃ a, x = .ok a ∧ good a) ∨ ∃ e, x = .error e ∧ reason e

/-- The reason that a bound is too long. -/
def TooLong (long : Prop) (e : Failure) : Prop := e = .digits none ∧ long

section Written

variable {α β : Type} {x : Except Failure α} {good : α → Prop} {better : β → Prop}
  {reason : Failure → Prop} {long : Prop}

theorem written_ok {a : α} (h : good a) : Written (.ok a) good reason := .inl ⟨a, rfl, h⟩

theorem Written.bind {f : α → Except Failure β} (h : Written x good reason)
    (hf : ∀ a, good a → Written (f a) better reason) : Written (x >>= f) better reason := by
  rcases h with ⟨a, rfl, ha⟩ | ⟨e, rfl, he⟩
  · exact hf a ha
  · exact .inr ⟨e, rfl, he⟩

theorem Written.map {f : α → β} (h : Written x good reason) (hf : ∀ a, good a → better (f a)) :
    Written (x.map f) better reason := by
  rcases h with ⟨a, rfl, ha⟩ | ⟨e, rfl, he⟩
  · exact .inl ⟨f a, rfl, hf a ha⟩
  · exact .inr ⟨e, rfl, he⟩

theorem Written.mono {reason' : Failure → Prop} (h : Written x good reason)
    (hreason : ∀ e, reason e → reason' e) : Written x good reason' :=
  h.imp_right fun ⟨e, hx, he⟩ => ⟨e, hx, hreason e he⟩

theorem Written.longer {longer : Prop} (h : Written x good (TooLong long)) (hlong : long → longer) :
    Written x good (TooLong longer) :=
  h.mono fun _ he => ⟨he.1, hlong he.2⟩

theorem Written.of_eq_ok (h : Written x good reason) {a : α} (ha : x = .ok a) : good a := by
  rcases h with ⟨b, hb, hgood⟩ | ⟨e, herror, -⟩
  · obtain rfl := Except.ok.inj (ha.symm.trans hb)
    exact hgood
  · rw [ha] at herror
    cases herror

end Written

/-! ## Bounds -/

theorem written_boundText (n : Nat) : Written (Value.int n).boundText
    (fun q => q.toList = Nat.toDigits 10 n ∧ n < 10 ^ Text.digitLimit)
    (TooLong (10 ^ Text.digitLimit ≤ n)) := by
  have hiff : Json.Fits n ↔ n < 10 ^ Text.digitLimit := by rw [Json.Fits, Int.natAbs_natCast]
  by_cases h : Json.Fits n
  · exact .inl ⟨_, Value.boundText_of_fits (Value.fits_int.2 h), String.toList_ofList, hiff.1 h⟩
  · exact .inr ⟨_, Value.boundText_of_not_fits (mt Value.fits_int.1 h), rfl,
      Nat.not_lt.1 (mt hiff.2 h)⟩

theorem IsBound.orZero {v : Value} (h : IsBound v) : v.orZero = .int (lowest v) := by
  rcases h with rfl | ⟨n, rfl⟩
  · rfl
  · by_cases hn : n = 0 <;> simp [Value.orZero, Value.truthy, lowest, hn]

theorem IsBound.isNumber_iff {v : Value} (h : IsBound v) (n : Nat) :
    v.isNumber n = true ↔ highest v = some n := by
  rcases h with rfl | ⟨m, rfl⟩
  · simp [Value.isNumber, Value.numeric?, highest]
  · rw [Value.isNumber_int, decide_eq_true_eq, Int.natCast_inj, highest, Option.some_inj,
      Int.toNat_natCast]

theorem toList_braces {least most : String} {n : Nat} (h : least.toList = Nat.toDigits 10 n) :
    (braces least most).toList = Pattern.inBraces n most.toList := by
  rw [braces]
  simp [Pattern.inBraces, h]

/-- The quantifier between two counts. -/
theorem written_braces (least most : Nat) : Written
    ((Value.int least).boundText >>= fun low => (Value.int most).boundText >>= fun high =>
      .ok (braces low high))
    (fun q => Quantifies q.toList least (some most))
    (TooLong (10 ^ Text.digitLimit ≤ least ∨ 10 ^ Text.digitLimit ≤ most)) := by
  apply (Written.longer (written_boundText least) .inl).bind
  rintro low ⟨hlow, hleast⟩
  apply (Written.longer (written_boundText most) .inr).bind
  rintro high ⟨hhigh, hmost⟩
  apply written_ok
  rw [toList_braces hlow, hhigh]
  exact quantifies_inBraces hleast hmost

/-- The quantifier from a count on. -/
theorem written_braces_nil (least : Nat) : Written
    ((Value.int least).boundText >>= fun low => .ok (braces low ""))
    (fun q => Quantifies q.toList least none) (TooLong (10 ^ Text.digitLimit ≤ least)) := by
  apply (written_boundText least).bind
  rintro low ⟨hlow, hleast⟩
  apply written_ok
  rw [toList_braces hlow]
  exact quantifies_inBraces_nil hleast

/-! ## Quantifiers -/

section Predecessors

variable (m : Nat)

theorem exceeds_one : (Value.int m).exceeds (.int 1) = .ok (decide (1 < m)) := by
  have hlt : (1 : Int) < m ↔ 1 < m := by omega
  rw [Value.exceeds_int, decide_eq_decide.2 hlt]

theorem pred_natCast {m : Nat} (hm : 0 < m) : (Value.int m).pred = .ok (.int (m - 1 : Nat)) := by
  rw [Value.pred, Int.natCast_sub hm, Int.natCast_one]

theorem atLeastZero_pred : (Value.int ((m : Int) - 1)).atLeastZero = .int (m - 1 : Nat) := by
  rw [Value.atLeastZero, Value.exceeds_int]
  by_cases hm : m = 0
  · simp [hm, Except.toOption]
  · have hpos : ¬ (m : Int) - 1 < 0 := by omega
    have hpred : ((m : Int) - 1) = ((m - 1 : Nat) : Int) := by omega
    rw [decide_eq_false hpos, hpred]
    rfl

end Predecessors

theorem tailQuantifier_null (m : Nat) : tailQuantifier (.int m) .null =
    if 1 < m then (Value.int (m - 1 : Nat)).boundText >>= fun low => .ok (braces low "")
    else .ok "*" := by
  simp only [tailQuantifier, Value.isNull, exceeds_one, Except.mapError, bind, Except.bind,
    if_true, decide_eq_true_eq]
  split
  · rename_i h
    rw [pred_natCast (by omega)]
    -- Whether the bound is written plays no part here.
    generalize Value.int (m - 1 : Nat) = low
    rfl
  · rfl

theorem tailQuantifier_int (m : Nat) {n : Nat} (hn : n ≠ 0) : tailQuantifier (.int m) (.int n) =
    (Value.int (m - 1 : Nat)).boundText >>= fun low => (Value.int (n - 1 : Nat)).boundText >>=
      fun high => .ok (braces low high) := by
  have hhigh := pred_natCast (Nat.pos_of_ne_zero hn)
  simp only [tailQuantifier, Value.isNull, hhigh]
  simp only [Value.pred, bind, Except.bind, atLeastZero_pred]
  generalize (Value.int (m - 1 : Nat)).boundText = low
  generalize (Value.int (n - 1 : Nat)).boundText = high
  rfl

section Quantifiers

variable {least most : Value} (hleast : IsBound least) (hmost : IsBound most)
include hleast hmost

theorem written_lengthQuantifier : Written (lengthQuantifier least most)
    (fun q => Quantifies q.toList (lowest least) (highest most))
    (TooLong (Oversized least most)) := by
  rcases hmost with rfl | ⟨n, rfl⟩
  · rcases hleast with rfl | ⟨m, rfl⟩
    · exact written_ok quantifies_star
    · exact (written_braces_nil m).longer .inl
  · have hzero : lengthQuantifier least (.int n) =
        (least.orZero.boundText >>= fun low => (Value.int n).boundText >>= fun high =>
          .ok (braces low high)) := rfl
    rw [hzero, hleast.orZero]
    apply (written_braces (lowest least) n).longer
    rintro (hlong | hlong)
    · exact .inl hlong
    · exact .inr ⟨n, rfl, hlong⟩

theorem written_tailQuantifier (hne : highest most ≠ some 0) :
    Written (tailQuantifier least.orZero most)
      (fun q => Quantifies q.toList (lowest least - 1) ((highest most).map (· - 1)))
      (TooLong (Oversized least most)) := by
  rw [hleast.orZero]
  rcases hmost with rfl | ⟨n, rfl⟩
  · rw [tailQuantifier_null]
    split
    · exact (written_braces_nil (lowest least - 1)).longer fun hlong =>
        .inl (hlong.trans (Nat.sub_le _ _))
    · rename_i hone
      have hzero : lowest least - 1 = 0 := by omega
      rw [hzero]
      exact written_ok quantifies_star
  · have hn : n ≠ 0 := by
      rintro rfl
      exact hne rfl
    rw [tailQuantifier_int _ hn]
    apply (written_braces (lowest least - 1) (n - 1)).longer
    rintro (hlong | hlong)
    · exact .inl (hlong.trans (Nat.sub_le _ _))
    · exact .inr ⟨n, rfl, hlong.trans (Nat.sub_le _ _)⟩

end Quantifiers

end Schema

end GuidedJson
