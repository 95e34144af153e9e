/-! # Binary floating-point numbers

A number is kept as a mantissa and a power of two, so that every operation is exact arithmetic
followed by one rounding to a format. Rounding goes to the nearest number of the format, ties to
the even mantissa, and past the largest number to infinity.
-/

namespace GuidedJson.Number

/-- A binary floating-point value; `finite s m e` is `m * 2 ^ e`, negated if `s`. Zero has
exponent 0. -/
inductive Binary where
  | nan
  | infinite (negative : Bool)
  | finite (negative : Bool) (mantissa : Nat) (exponent : Int)
deriving DecidableEq, Repr, Inhabited

/-- A format: the bits of a mantissa and the exponents of its last place. -/
structure Format where
  precision : Nat
  minExponent : Int
  maxExponent : Int
deriving DecidableEq, Repr

namespace Format

def binary64 : Format := ⟨53, -1074, 971⟩
def binary32 : Format := ⟨24, -149, 104⟩
def binary16 : Format := ⟨11, -24, 5⟩
def bfloat16 : Format := ⟨8, -133, 120⟩

end Format

/-! ## Rounding a quotient -/

/-- The integer nearest to `num / den`, a half going to the even one. -/
def roundDiv (num den : Nat) : Nat :=
  let q := num / den
  let r := num % den
  if 2 * r < den then q
  else if den < 2 * r then q + 1
  else if q % 2 = 0 then q else q + 1

/-- A power of two with any exponent, as a numerator and a denominator. -/
def powerOfTwo (e : Int) : Nat × Nat :=
  if 0 ≤ e then (Nat.pow 2 e.toNat, 1) else (1, Nat.pow 2 (-e).toNat)

/-- The number `k` of binary places before the point: `2 ^ (k - 1) ≤ num / den < 2 ^ k`. -/
def magnitude (num den : Nat) : Int :=
  let k : Int := (Nat.log2 num : Int) - (Nat.log2 den : Int)
  let (a, b) := powerOfTwo k
  if den * a ≤ num * b then k + 1 else k

/-- The number of the format nearest to `num / den`. -/
def Format.round (f : Format) (negative : Bool) (num den : Nat) : Binary :=
  if num = 0 then .finite negative 0 0
  else
    let e := max f.minExponent (magnitude num den - f.precision)
    let (a, b) := powerOfTwo e
    let q := roundDiv (num * b) (den * a)
    if q = 0 then .finite negative 0 0
    else
      let (m, e) :=
        if q = Nat.pow 2 f.precision then (Nat.pow 2 (f.precision - 1), e + 1) else (q, e)
      if f.maxExponent < e then .infinite negative else .finite negative m e

namespace Binary

/-- Magnitude of a finite value as a quotient. -/
def quotient (m : Nat) (e : Int) : Nat × Nat :=
  let (a, b) := powerOfTwo e
  (m * a, b)

/-- The value in another format. -/
def convert (f : Format) : Binary → Binary
  | .finite s m e => let (num, den) := quotient m e; f.round s num den
  | x => x

/-- The binary64 number nearest to a decimal `digits * 10 ^ exponent`. Far outside the format the
answer is known without the power of ten. -/
def ofDecimal (negative : Bool) (digits : Nat) (exponent : Int) : Binary :=
  let places : Int := ((Nat.toDigits 10 digits).length : Int)
  if digits = 0 || places + exponent < -400 then .finite negative 0 0
  else if 400 < places + exponent then .infinite negative
  else if 0 ≤ exponent then Format.binary64.round negative (digits * Nat.pow 10 exponent.toNat) 1
  else Format.binary64.round negative digits (Nat.pow 10 (-exponent).toNat)

def ofInt (n : Int) : Binary := Format.binary64.round (n < 0) n.natAbs 1

def zero : Binary := .finite false 0 0

def isZero : Binary → Bool
  | .finite _ 0 _ => true
  | _ => false

/-- Sign and magnitude scaled to integers at a common exponent no larger than that of the
value. -/
def scaled (s : Bool) (m : Nat) (e common : Int) : Int :=
  let n : Int := (m * Nat.pow 2 (e - common).toNat : Nat)
  if s then -n else n

/-- Order of two values that are not NaN. -/
def lt : Binary → Binary → Bool
  | .nan, _ => false
  | _, .nan => false
  | .infinite s, .infinite t => s && !t
  | .infinite s, .finite .. => s
  | .finite .., .infinite t => !t
  | .finite s m e, .finite t n f =>
    let common := min e f
    scaled s m e common < scaled t n f common

/-- Numeric equality: NaN differs from itself, and the two zeros are equal. -/
def same : Binary → Binary → Bool
  | .nan, _ => false
  | _, .nan => false
  | x, y => !lt x y && !lt y x

/-- The difference of a value and one, in binary64. -/
def pred : Binary → Binary
  | .finite s m e =>
    let common := min e 0
    let n := scaled s m e common - (Nat.pow 2 (-common).toNat : Nat)
    let (a, b) := powerOfTwo common
    Format.binary64.round (n < 0) (n.natAbs * a) b
  | x => x

/-- The sum of two values, rounded to a format. Infinities of both signs have none, and the sum of
two zeros is positive unless both are negative. -/
def add (f : Format) : Binary → Binary → Binary
  | .nan, _ => .nan
  | _, .nan => .nan
  | .infinite s, .infinite t => if s = t then .infinite s else .nan
  | .infinite s, .finite .. => .infinite s
  | .finite .., .infinite t => .infinite t
  | .finite s m d, .finite t n e =>
    let common := min d e
    let sum := scaled s m d common + scaled t n e common
    if sum = 0 then .finite (m = 0 && n = 0 && s && t) 0 0
    else
      let (a, b) := powerOfTwo common
      f.round (sum < 0) (sum.natAbs * a) b

/-- An integer as an exact value. -/
def exact (n : Int) : Binary := .finite (n < 0) n.natAbs 0

/-- The integer part of a finite value. -/
def truncate? : Binary → Option Int
  | .finite s m e =>
    let (num, den) := quotient m e
    let n : Int := (num / den : Nat)
    some (if s then -n else n)
  | _ => none

end Binary

/-! ## Laws of rounding -/

/-- A whole quotient rounds to itself. -/
theorem roundDiv_mul (q den : Nat) (h : 0 < den) : roundDiv (q * den) den = q := by
  simp [roundDiv, Nat.mul_div_cancel _ h, h]

/-- The rounded quotient is within half a unit. -/
theorem roundDiv_le (num den : Nat) (h : 0 < den) :
    2 * num ≤ (2 * roundDiv num den + 1) * den := by
  have hd := Nat.div_add_mod num den
  have hr := Nat.mod_lt num h
  have key : ∀ q r : Nat, den * q + r = num → r < den →
      2 * num ≤ (2 * (if 2 * r < den then q else if den < 2 * r then q + 1
        else if q % 2 = 0 then q else q + 1) + 1) * den := by
    intro q r hq hlt
    have e1 : (2 * q + 1) * den = 2 * (den * q) + den := by
      rw [Nat.add_mul, Nat.one_mul, Nat.mul_assoc, Nat.mul_comm q den]
    have e2 : (2 * (q + 1) + 1) * den = 2 * (den * q) + 3 * den := by
      rw [show 2 * (q + 1) + 1 = (2 * q + 1) + 2 by omega, Nat.add_mul, e1]
      omega
    split
    · rw [e1]; omega
    · split
      · rw [e2]; omega
      · split
        · rw [e1]; omega
        · rw [e2]; omega
  exact key (num / den) (num % den) hd hr

namespace Binary

/-- Nothing is below negative infinity. -/
theorem not_lt_negInfinity (x : Binary) : x.lt (.infinite true) = false := by
  cases x with
  | nan => rfl
  | infinite s => cases s <;> rfl
  | finite s m e => rfl

theorem negInfinity_lt {x : Binary} (hnan : x ≠ .nan) (hx : x ≠ .infinite true) :
    lt (.infinite true) x = true := by
  cases x with
  | nan => exact absurd rfl hnan
  | infinite s =>
    cases s with
    | true => exact absurd rfl hx
    | false => rfl
  | finite s m e => rfl

end Binary

end GuidedJson.Number
