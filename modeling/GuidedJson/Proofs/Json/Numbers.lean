import GuidedJson.Json.Parser
import GuidedJson.Json.Printer
import GuidedJson.Proofs.Number.Shortest
import Mathlib.Data.List.Induction
import Mathlib.Data.List.TakeWhile

/-!
# Numbers that are read

A number that is printed is read as itself, whatever follows that is no part of it: an integer
unless it has too many digits, and a binary number in every form in which its shortest decimal is
laid out.
-/

namespace GuidedJson.Json

open Number

/-! ## Digits -/

theorem isDigit_iff {c : Char} : isDigit c = true ↔ c.isDigit = true := by
  simp only [isDigit, Char.isDigit, Bool.and_eq_true, decide_eq_true_eq, Char.le_def,
    UInt32.le_iff_toNat_le, ge_iff_le]

/-- Whether all characters are digits. -/
def Digits (ds : List Char) : Prop := ∀ d ∈ ds, isDigit d = true

theorem digits_decimalDigits (n : Nat) : Digits (decimalDigits n) := fun _ h =>
  isDigit_iff.2 (Nat.isDigit_of_mem_toDigits (by decide) (by decide) h)

theorem digits_zeros (n : Nat) : Digits (zeros n).toList := by
  intro d hd
  rw [zeros, String.toList_ofList] at hd
  rw [List.eq_of_mem_replicate hd]
  rfl

theorem Digits.append {ds es : List Char} (hds : Digits ds) (hes : Digits es) :
    Digits (ds ++ es) := fun _ h => (List.mem_append.1 h).elim (hds _) (hes _)

/-- Whether what follows a number is no part of it. -/
def EndsNumber (rest : List Char) : Prop :=
  ∀ c ∈ rest.head?, isDigit c = false ∧ c ≠ '.' ∧ c ≠ 'e' ∧ c ≠ 'E'

theorem EndsNumber.digit {rest : List Char} (h : EndsNumber rest) :
    ∀ c ∈ rest.head?, isDigit c = false := fun c hc => (h c hc).1

theorem endsNumber_cons {c : Char} (rest : List Char)
    (h : isDigit c = false ∧ c ≠ '.' ∧ c ≠ 'e' ∧ c ≠ 'E') : EndsNumber (c :: rest) := by
  intro d hd
  rwa [← Option.some.inj hd]

section Runs

variable {ds rest : List Char}

theorem takeWhile_isDigit (hds : Digits ds) (hrest : ∀ c ∈ rest.head?, isDigit c = false) :
    (ds ++ rest).takeWhile isDigit = ds ∧ (ds ++ rest).dropWhile isDigit = rest := by
  rw [List.takeWhile_append_of_pos hds, List.dropWhile_append_of_pos hds]
  cases rest with
  | nil => simp
  | cons c rest => simp [hrest c rfl]

/-- Whether digits are those of a whole number: no zero comes first unless it is the only one. -/
structure Whole (ds : List Char) : Prop where
  digits : Digits ds
  ne_nil : ds ≠ []
  zero : ds.head? = some '0' → ds = ['0']

/-- Whole digits are read up to what is no digit. -/
theorem readWhole_append (hds : Whole ds) (hrest : ∀ c ∈ rest.head?, isDigit c = false) :
    readWhole (ds ++ rest) = some (ds, rest) := by
  obtain ⟨hdigits, hne, hzero⟩ := hds
  obtain ⟨d, ds, rfl⟩ := List.exists_cons_of_ne_nil hne
  by_cases hd : d = '0'
  · rw [hzero (congrArg some hd)]
    rfl
  · obtain ⟨htake, hdrop⟩ := takeWhile_isDigit hdigits hrest
    rw [readWhole]
    · rw [htake]
      simp only [hdrop]
    · rintro rest' heq
      exact hd (List.cons.inj heq).1

end Runs

/-! ## Parts of a number -/

/-- The digits behind a point, if there are any. -/
def fractionText : List Char → List Char
  | [] => []
  | ds => '.' :: ds

/-- The power of ten that a number ends with: its sign and digits. -/
structure Power where
  negative : Bool
  digits : List Char

namespace Power

def text (p : Power) : List Char := 'e' :: (if p.negative then '-' else '+') :: p.digits

def value (p : Power) : Int :=
  if p.negative then -(digitsValue p.digits : Int) else digitsValue p.digits

/-- Whether a power has digits, and nothing else. -/
def Spelled (p : Power) : Prop := p.digits ≠ [] ∧ Digits p.digits

end Power

/-- What stands behind the whole digits of a number. -/
def tailText (fraction : List Char) (power : Option Power) : List Char :=
  fractionText fraction ++ power.elim [] Power.text

section Parts

variable {fraction rest : List Char} {power : Option Power}

variable (power) in
theorem head_powerText (hrest : EndsNumber rest) :
    ∀ c ∈ (power.elim [] Power.text ++ rest).head?, isDigit c = false ∧ c ≠ '.' := by
  intro c hc
  cases power with
  | none => exact ⟨(hrest c hc).1, (hrest c hc).2.1⟩
  | some p =>
    obtain rfl : 'e' = c := Option.some.inj hc
    decide

variable (fraction power) in
theorem head_tailText (hrest : EndsNumber rest) :
    ∀ c ∈ (tailText fraction power ++ rest).head?, isDigit c = false := by
  intro c hc
  cases fraction with
  | nil => exact (head_powerText power hrest c hc).1
  | cons d ds =>
    obtain rfl : '.' = c := Option.some.inj hc
    rfl

/-- A fraction is read up to what is no digit. -/
theorem readFraction_append (hfraction : Digits fraction)
    (hrest : ∀ c ∈ rest.head?, isDigit c = false ∧ c ≠ '.') :
    readFraction (fractionText fraction ++ rest) = (fraction, rest) := by
  cases fraction with
  | nil =>
    rw [fractionText, List.nil_append, readFraction]
    rintro rest' rfl
    exact (hrest '.' rfl).2 rfl
  | cons d ds =>
    obtain ⟨htake, hdrop⟩ := takeWhile_isDigit hfraction fun c hc => (hrest c hc).1
    rw [fractionText, List.cons_append, readFraction, htake]
    · simp only [hdrop]
    · exact nofun

/-- A power of ten is read with its sign. -/
theorem readExponent_append (hpower : ∀ p ∈ power, p.Spelled) (hrest : EndsNumber rest) :
    readExponent (power.elim [] Power.text ++ rest) = power.map fun p => (p.value, rest) := by
  cases power with
  | none =>
    cases rest with
    | nil => rfl
    | cons c rest =>
      obtain ⟨-, -, he, hE⟩ := hrest c rfl
      simp [readExponent, he, hE]
  | some p =>
    obtain ⟨negative, digits⟩ := p
    obtain ⟨hne, hdigits⟩ := hpower _ rfl
    obtain ⟨htake, hdrop⟩ := takeWhile_isDigit hdigits fun c hc => (hrest c hc).1
    obtain ⟨d, ds, rfl⟩ := List.exists_cons_of_ne_nil hne
    simp only [List.cons_append] at htake hdrop
    cases negative <;> simp only [Option.elim, Power.text, Power.value, readExponent, if_true,
      if_false, Bool.false_eq_true, List.cons_append, htake, hdrop, decide_true, Bool.true_or,
      Option.map]

end Parts

/-! ## The value of digits -/

theorem digitsValue_append (ds es : List Char) :
    digitsValue (ds ++ es) = digitsValue ds * 10 ^ es.length + digitsValue es := by
  unfold digitsValue
  rw [List.foldl_append]
  generalize ds.foldl (fun n c => 10 * n + (c.toNat - 48)) 0 = n
  induction es using List.reverseRecOn with
  | nil => simp
  | append_singleton es c ih =>
    simp only [List.foldl_append, List.foldl_cons, List.foldl_nil, ih, List.length_append,
      List.length_singleton, pow_succ]
    ring

theorem digitsValue_decimalDigits (n : Nat) : digitsValue (decimalDigits n) = n :=
  Nat.ofDigitChars_ten_toDigits

theorem digitsValue_replicate_zero (n : Nat) : digitsValue (List.replicate n '0') = 0 := by
  induction n with
  | zero => rfl
  | succ n ih => rw [List.replicate_succ', digitsValue_append, ih]; rfl

theorem digitsValue_lt {ds : List Char} (hds : Digits ds) : digitsValue ds < 10 ^ ds.length := by
  induction ds using List.reverseRecOn with
  | nil => simp [digitsValue]
  | append_singleton ds c ih =>
    have hc : digitsValue [c] < 10 := by
      have h := isDigit_iff.1 (hds c (by simp))
      have hle : c.toNat ≤ 57 := by
        simp only [Char.isDigit, Bool.and_eq_true, decide_eq_true_eq, ge_iff_le,
          UInt32.le_iff_toNat_le] at h
        exact h.2
      simp only [digitsValue, List.foldl_cons, List.foldl_nil]
      omega
    have hds' := ih fun d hd => hds d (List.mem_append_left _ hd)
    rw [digitsValue_append, List.length_append, List.length_singleton, pow_one, pow_succ]
    omega

/-- The digits of a number do not start with a zero. -/
theorem decimalDigits_eq_cons {n : Nat} (hn : n ≠ 0) :
    ∃ d ds, decimalDigits n = d :: ds ∧ d ≠ '0' := by
  cases h : decimalDigits n with
  | nil => exact absurd h Nat.toDigits_ne_nil
  | cons d ds =>
    refine ⟨d, ds, rfl, ?_⟩
    rintro rfl
    have hdigits := digits_decimalDigits n
    have hlow := ten_pow_length_le hn
    have hvalue := digitsValue_decimalDigits n
    rw [h] at hdigits hlow hvalue
    have hlt := digitsValue_lt fun c hc => hdigits c (List.mem_cons_of_mem _ hc)
    have hzero : digitsValue ('0' :: ds) = digitsValue ds := rfl
    rw [List.length_cons, Nat.add_sub_cancel] at hlow
    omega

/-- The digits of a number without the zeros at their end, and these. -/
theorem significant_append {n : Nat} (hn : n ≠ 0) :
    ∃ k, significant n ++ List.replicate k '0' = decimalDigits n := by
  have hsplit := List.takeWhile_append_dropWhile (p := (· == '0')) (l := (decimalDigits n).reverse)
  have hzeros : (decimalDigits n).reverse.takeWhile (· == '0') = List.replicate
      ((decimalDigits n).reverse.takeWhile (· == '0')).length '0' := by
    refine List.eq_replicate_of_mem fun c hc => ?_
    simpa using List.mem_takeWhile_imp hc
  refine ⟨((decimalDigits n).reverse.takeWhile (· == '0')).length, ?_⟩
  have hback := congrArg List.reverse hsplit
  rw [List.reverse_append, List.reverse_reverse, hzeros, List.reverse_replicate] at hback
  unfold significant
  cases h : (decimalDigits n).reverse.dropWhile (· == '0') with
  | nil =>
    obtain ⟨d, ds, hcons, hd⟩ := decimalDigits_eq_cons hn
    rw [h, List.reverse_nil, List.nil_append] at hback
    have hmem : d ∈ List.replicate _ '0' := hback ▸ hcons ▸ List.mem_cons_self
    exact absurd (List.eq_of_mem_replicate hmem) hd
  | cons c cs =>
    rw [h] at hback
    exact hback

/-! ## Numbers by their parts -/

section Numbers

variable {s : Bool} {cs whole fraction rest : List Char} {power : Option Power}

theorem readNumber_append (hwhole : Whole whole) (hfraction : Digits fraction)
    (hpower : ∀ p ∈ power, p.Spelled) (hfloat : fraction ≠ [] ∨ power ≠ none)
    (hrest : EndsNumber rest) :
    readNumber s cs (whole ++ (tailText fraction power ++ rest)) = .ok (.float (Binary.ofDecimal s
      (digitsValue (whole ++ fraction)) (power.elim 0 Power.value - fraction.length)), rest) := by
  have hdigits := readWhole_append hwhole (head_tailText fraction power hrest)
  rw [tailText, List.append_assoc] at hdigits ⊢
  simp only [readNumber, hdigits, readFraction_append hfraction (head_powerText power hrest),
    readExponent_append hpower hrest]
  cases power with
  | some p => rfl
  | none =>
    have hne : fraction.isEmpty = false := by simpa using hfloat
    simp [hne]

/-- Whole digits alone are an integer, unless there are too many. -/
theorem readNumber_whole (hwhole : Whole whole) (hrest : EndsNumber rest) :
    readNumber s cs (whole ++ rest) = if Text.digitLimit < whole.length then
        .error (.digits whole.length)
      else .ok (.int (if s then -(digitsValue whole : Int) else digitsValue whole), rest) := by
  have hfraction : readFraction rest = ([], rest) :=
    readFraction_append (List.forall_mem_nil _) (head_powerText none hrest)
  have hpower : readExponent rest = none := @readExponent_append _ none nofun hrest
  simp only [readNumber, readWhole_append hwhole hrest.digit, hfraction, hpower]
  rfl

end Numbers

/-! ## Laid out decimals -/

/-- Whether a text is whole digits with a fraction or a power of ten, which make a value. -/
def IsDecimalText (v : ℚ) (cs : List Char) : Prop :=
  ∃ whole fraction power, Whole whole ∧ Digits fraction ∧ (∀ p ∈ power, p.Spelled) ∧
    (fraction ≠ [] ∨ power ≠ none) ∧ cs = whole ++ tailText fraction power ∧
    (digitsValue (whole ++ fraction) : ℚ) * 10 ^ (power.elim 0 Power.value - fraction.length) = v

/-- An exponent is written as a sign and at least two digits. -/
theorem exists_exponentText (e : Int) :
    ∃ p : Power, p.Spelled ∧ p.value = e ∧ 'e' :: (exponentText e).toList = p.text := by
  refine ⟨⟨e < 0, (if e.natAbs < 10 then ['0'] else []) ++ decimalDigits e.natAbs⟩,
    ⟨?_, ?_⟩, ?_, ?_⟩
  · simp [decimalDigits, Nat.toDigits_ne_nil]
  · refine Digits.append ?_ (digits_decimalDigits _)
    split <;> simp [Digits, isDigit]
  · have hvalue : digitsValue ((if e.natAbs < 10 then ['0'] else []) ++ decimalDigits e.natAbs) =
        e.natAbs := by
      rw [digitsValue_append, digitsValue_decimalDigits]
      split <;> simp [digitsValue]
    simp only [Power.value, hvalue, decide_eq_true_eq]
    split <;> omega
  · unfold exponentText Power.text
    by_cases hneg : e < 0 <;> by_cases hten : e.natAbs < 10 <;> simp [hneg, hten]

/-- Digits with zeros before them have the value of the digits. -/
theorem digitsValue_zeros_append (n : Nat) (ds : List Char) :
    digitsValue ((zeros n).toList ++ ds) = digitsValue ds := by
  rw [digitsValue_append, zeros, String.toList_ofList, digitsValue_replicate_zero]
  simp

theorem digitsValue_append_zeros (ds : List Char) (n : Nat) :
    digitsValue (ds ++ (zeros n).toList) = digitsValue ds * 10 ^ n := by
  rw [digitsValue_append, zeros, String.toList_ofList, digitsValue_replicate_zero,
    List.length_replicate, add_zero]

theorem whole_cons {d : Char} {ds : List Char} (hds : Digits (d :: ds)) (hd : d ≠ '0') :
    Whole (d :: ds) :=
  ⟨hds, List.cons_ne_nil _ _, fun h => absurd (Option.some.inj h) hd⟩

section Layout

variable {d : Char} {ds : List Char}

/-- Digits behind the point, and zeros before them. -/
theorem isDecimalText_below (hds : Digits ds) (hne : ds ≠ []) (n : Nat) :
    IsDecimalText (digitsValue ds * 10 ^ (-(n : Int) - ds.length))
      ('0' :: '.' :: ((zeros n).toList ++ ds)) := by
  have hzero : Whole ['0'] := ⟨by simp [Digits, isDigit], by simp, fun _ => rfl⟩
  refine ⟨['0'], (zeros n).toList ++ ds, none, hzero, (digits_zeros _).append hds, nofun,
    .inl (by simp [hne]), ?_, ?_⟩
  · cases h : (zeros n).toList ++ ds with
    | nil => exact absurd h (by simp [hne])
    | cons c cs => simp [tailText, fractionText]
  · have hvalue : digitsValue (['0'] ++ ((zeros n).toList ++ ds)) = digitsValue ds :=
      digitsValue_zeros_append n ds
    have hlength : (zeros n).toList.length = n := by
      rw [zeros, String.toList_ofList, List.length_replicate]
    rw [hvalue, List.length_append, hlength]
    congr 2
    simp only [Option.elim]
    omega

/-- Digits before the point, and zeros behind them. -/
theorem isDecimalText_above (hds : Digits (d :: ds)) (hd : d ≠ '0') (n : Nat) :
    IsDecimalText (digitsValue (d :: ds) * 10 ^ n) (d :: ds ++ (zeros n).toList ++ ['.', '0']) := by
  refine ⟨d :: ds ++ (zeros n).toList, ['0'], none, whole_cons (hds.append (digits_zeros n)) hd,
    by simp [Digits, isDigit], nofun, .inl (by simp), rfl, ?_⟩
  have hone : digitsValue ['0'] = 0 := rfl
  rw [digitsValue_append, hone, digitsValue_append_zeros]
  simp only [Option.elim, List.length_singleton]
  push_cast
  rw [zpow_neg_one]
  ring

/-- Digits around the point. -/
theorem isDecimalText_around {es : List Char} (hds : Digits (d :: ds)) (hd : d ≠ '0')
    (hes : Digits es) (hne : es ≠ []) :
    IsDecimalText (digitsValue (d :: ds ++ es) * 10 ^ (-(es.length : Int)))
      (d :: ds ++ '.' :: es) := by
  refine ⟨d :: ds, es, none, whole_cons hds hd, hes, nofun, .inl hne, ?_, ?_⟩
  · obtain ⟨e, es, rfl⟩ := List.exists_cons_of_ne_nil hne
    simp [tailText, fractionText]
  · rw [Option.elim, zero_sub]

/-- The point behind the first digit, and a power of ten. -/
theorem isDecimalText_power (hds : Digits (d :: ds)) (hd : d ≠ '0') (e : Int) :
    IsDecimalText (digitsValue (d :: ds) * 10 ^ (e - ds.length))
      (d :: (fractionText ds ++ 'e' :: (exponentText e).toList)) := by
  obtain ⟨p, hspelled, hvalue, htext⟩ := exists_exponentText e
  refine ⟨[d], ds, some p, whole_cons (fun c hc => hds c (List.mem_cons.2 (.inl ?_))) hd,
    fun c hc => hds c (List.mem_cons_of_mem _ hc), ?_, .inr nofun, ?_, ?_⟩
  · exact List.mem_singleton.1 hc
  · rintro _ ⟨rfl⟩
    exact hspelled
  · simp [tailText, htext]
  · rw [Option.elim, hvalue]
    rfl

/-- The layout of a decimal has its value. -/
theorem isDecimalText_placeDigits (hds : Digits (d :: ds)) (hd : d ≠ '0') (point : Int) :
    IsDecimalText (digitsValue (d :: ds) * 10 ^ (point - (d :: ds).length))
      (placeDigits .json (d :: ds) point).toList := by
  simp only [placeDigits]
  split_ifs with hplace hsmall hlong
  · have h := isDecimalText_below hds (List.cons_ne_nil _ _) (-point).toNat
    rw [Int.toNat_of_nonneg (by omega), neg_neg] at h
    simpa using h
  · have h := isDecimalText_above hds hd (point.toNat - (d :: ds).length)
    rw [← zpow_natCast, Nat.cast_sub hlong, Int.toNat_of_nonneg (by omega)] at h
    simpa using h
  · obtain ⟨k, hk⟩ : ∃ k, point.toNat = k + 1 := ⟨point.toNat - 1, by omega⟩
    have hpoint : point = k + 1 := by omega
    rw [hk, List.length_cons] at hlong
    have hfront : Digits (d :: ds.take k) := fun c hc =>
      hds c (List.mem_of_mem_take (i := k + 1) hc)
    have hback : Digits (ds.drop k) := fun c hc => hds c (List.mem_of_mem_drop (i := k + 1) hc)
    have hne : ds.drop k ≠ [] := by simpa using hlong
    have h := isDecimalText_around hfront hd hback hne
    rw [List.cons_append, List.take_append_drop, List.length_drop, Nat.cast_sub (by omega)] at h
    have hexponent : point - ((d :: ds).length : Nat) = -((ds.length : Int) - k) := by
      rw [List.length_cons]
      omega
    rw [hexponent]
    simpa [hk] using h
  · have h := isDecimalText_power hds hd (point - 1)
    have hexponent : point - 1 - ds.length = point - ((d :: ds).length : Nat) := by
      rw [List.length_cons]
      omega
    rw [hexponent] at h
    cases ds with
    | nil => simpa [fractionText] using h
    | cons e es => simpa [fractionText] using h

end Layout

/-! ## Printed numbers -/

theorem Whole.exists_cons {ds : List Char} (h : Whole ds) :
    ∃ d es, ds = d :: es ∧ isDigit d = true := by
  obtain ⟨d, es, rfl⟩ := List.exists_cons_of_ne_nil h.ne_nil
  exact ⟨d, es, rfl, h.digits d List.mem_cons_self⟩

theorem whole_decimalDigits (n : Nat) : Whole (decimalDigits n) := by
  by_cases hn : n = 0
  · rw [hn]
    exact ⟨digits_decimalDigits 0, Nat.toDigits_ne_nil, fun _ => rfl⟩
  · obtain ⟨d, ds, h, hd⟩ := decimalDigits_eq_cons hn
    have hdigits := digits_decimalDigits n
    rw [h] at hdigits ⊢
    exact whole_cons hdigits hd

theorem readScalar_of_isDigit {c : Char} (hc : isDigit c = true) (cs : List Char) :
    readScalar (c :: cs) = readNumber false (c :: cs) (c :: cs) := by
  have hne : ∀ d, isDigit d = false → c ≠ d := by
    rintro d hd rfl
    rw [hc] at hd
    cases hd
  rw [readScalar]
  all_goals
    intro _ heq
    exact hne _ (by decide) (List.cons.inj heq).1

theorem readScalar_minus {c : Char} (hc : isDigit c = true) (cs : List Char) :
    readScalar ('-' :: c :: cs) = readNumber true ('-' :: c :: cs) (c :: cs) := by
  have hne : 'I' ≠ c := by
    rintro rfl
    exact absurd hc (by decide)
  have hword : dropWord? "Infinity".toList (c :: cs) = none := by
    simp [dropWord?, hne]
  rw [readScalar, hword]

/-- A number is read behind its sign. -/
theorem readScalar_sign (s : Bool) {whole : List Char} (hwhole : Whole whole) (rest : List Char) :
    readScalar ((signText s).toList ++ (whole ++ rest)) =
      readNumber s ((signText s).toList ++ (whole ++ rest)) (whole ++ rest) := by
  obtain ⟨d, ds, rfl, hd⟩ := hwhole.exists_cons
  cases s with
  | false => exact readScalar_of_isDigit hd _
  | true => exact readScalar_minus hd _

theorem toList_toString_int (n : Int) :
    (toString n).toList = (signText (n < 0)).toList ++ decimalDigits n.natAbs := by
  cases n with
  | ofNat n =>
    have hpos : ¬ (Int.ofNat n < 0) := by simp
    rw [decide_eq_false hpos]
    exact Nat.toList_repr
  | negSucc n =>
    rw [decide_eq_true (Int.negSucc_lt_zero n)]
    show ("-" ++ Nat.repr (n + 1)).toList = _
    rw [String.toList_append, Nat.toList_repr]
    rfl

/-- Whether an integer has no more digits than are read. -/
def Fits (n : Int) : Prop := n.natAbs < 10 ^ Text.digitLimit

theorem fits_iff {n : Int} : Fits n ↔ ¬ Text.digitLimit < (decimalDigits n.natAbs).length := by
  rw [Nat.not_lt]
  exact (Nat.length_toDigits_le_iff (by decide) (by decide)).symm

theorem isWritable_iff {n : Int} : Text.isWritable n = true ↔ Fits n := by
  unfold Text.isWritable Fits
  -- The limit is kept from being evaluated in the power of it.
  generalize Text.digitLimit = limit
  rw [decide_eq_true_eq, Nat.pow_eq]

theorem fits_of_lt_ten {n : Int} (h : n.natAbs < 10) : Fits n :=
  Nat.lt_of_lt_of_le h (Nat.le_self_pow (by decide) 10)

/-- A printed integer is read as itself, unless it has too many digits. -/
theorem readScalar_int (n : Int) {rest : List Char} (hrest : EndsNumber rest) :
    (Fits n → readScalar ((toString n).toList ++ rest) = .ok (.int n, rest)) ∧
      (¬ Fits n → ∃ count, readScalar ((toString n).toList ++ rest) = .error (.digits count)) := by
  have hvalue : (if (decide (n < 0)) = true then -(n.natAbs : Int) else n.natAbs) = n := by
    simp only [decide_eq_true_eq]
    split <;> omega
  rw [toList_toString_int, List.append_assoc, readScalar_sign _ (whole_decimalDigits _),
    readNumber_whole (whole_decimalDigits _) hrest, digitsValue_decimalDigits, hvalue]
  constructor
  · intro h
    rw [if_neg (fits_iff.1 h)]
  · intro h
    rw [if_pos (not_not.1 fun hlong => h (fits_iff.2 hlong))]
    exact ⟨_, rfl⟩

/-- A text with the value of a decimal is read as the decimal. -/
theorem readScalar_of_isDecimalText (s : Bool) {n : Nat} {e : Int} {cs rest : List Char}
    (h : IsDecimalText (n * 10 ^ e) cs) (hrest : EndsNumber rest) :
    readScalar ((signText s).toList ++ (cs ++ rest)) =
      .ok (.float (Binary.ofDecimal s n e), rest) := by
  obtain ⟨whole, fraction, power, hwhole, hfraction, hpower, hfloat, rfl, hvalue⟩ := h
  rw [List.append_assoc, readScalar_sign s hwhole,
    readNumber_append hwhole hfraction hpower hfloat hrest, Binary.ofDecimal_congr hvalue]

/-- The digits that are written of a decimal have its value. -/
theorem significant_value {n count : Nat} (hn : n ≠ 0) (hlength : (decimalDigits n).length = count)
    (point : Int) : ∃ d ds, significant n = d :: ds ∧ Digits (d :: ds) ∧ d ≠ '0' ∧
      (digitsValue (d :: ds) : ℚ) * 10 ^ (point - (d :: ds).length) = n * 10 ^ (point - count) := by
  obtain ⟨k, hk⟩ := significant_append hn
  obtain ⟨d, ds, hcons, hd⟩ := decimalDigits_eq_cons hn
  have hdigits := digits_decimalDigits n
  have hvalue := digitsValue_decimalDigits n
  rw [← hk] at hdigits hvalue hlength hcons
  cases hs : significant n with
  | nil =>
    rw [hs, List.nil_append] at hcons
    exact absurd (List.eq_of_mem_replicate (hcons ▸ List.mem_cons_self)) hd
  | cons c cs =>
    rw [hs] at hcons hdigits hvalue hlength
    obtain ⟨rfl, -⟩ := List.cons.inj hcons
    refine ⟨c, cs, rfl, fun x hx => hdigits x (List.mem_append_left _ hx), hd, ?_⟩
    rw [digitsValue_append, digitsValue_replicate_zero, List.length_replicate, add_zero] at hvalue
    rw [List.length_append, List.length_replicate] at hlength
    rw [← hvalue, ← hlength]
    push_cast
    rw [mul_assoc, ← zpow_natCast, ← zpow_add₀ (by norm_num)]
    congr 2
    omega

/-- A printed binary number is read as itself. -/
theorem readScalar_float {x : Binary} (hx : Format.binary64.Keeps x) {rest : List Char}
    (hrest : EndsNumber rest) :
    readScalar ((x.text .json).toList ++ rest) = .ok (.float x, rest) := by
  cases x with
  | nan => rfl
  | infinite s => cases s <;> rfl
  | finite s m e =>
    cases m with
    | zero =>
      obtain ⟨-, rfl⟩ | ⟨h, -⟩ := hx
      · have hzero : Digits ['0'] := by simp [Digits, isDigit]
        have htext : IsDecimalText ((0 : Nat) * 10 ^ (0 : Int)) ['0', '.', '0'] := by
          simpa [digitsValue, zeros] using isDecimalText_below hzero (by simp) 0
        have h := readScalar_of_isDecimalText s htext hrest
        rw [Binary.ofDecimal_zero] at h
        rw [Binary.text, String.toList_append, List.append_assoc]
        exact h
      · exact absurd rfl h
    | succ m =>
      obtain ⟨hwrites, hhigh⟩ := writes_shortest m.succ_ne_zero hx
      rw [Binary.text]
      · simp only [String.toList_append, List.append_assoc]
        generalize shortest (.finite s (m + 1) e) (m + 1) e = decimal at hwrites hhigh
        obtain ⟨hcount, hlow, -, hreads⟩ := hwrites
        obtain ⟨k, hk⟩ := Nat.exists_eq_succ_of_ne_zero hcount
        rw [hk, Nat.succ_sub_one] at hlow
        rw [hk] at hhigh
        have hne : decimal.digits ≠ 0 := (Nat.pos_of_ne_zero (by positivity)).trans_le hlow |>.ne'
        obtain ⟨d, ds, hsignificant, hdigits, hd, hvalue⟩ := significant_value hne
          ((length_decimalDigits_eq hlow hhigh).trans hk.symm) decimal.point
        have htext := isDecimalText_placeDigits hdigits hd decimal.point
        rw [hvalue] at htext
        rw [hsignificant, readScalar_of_isDecimalText s htext hrest, hreads]
      · exact nofun

end GuidedJson.Json
