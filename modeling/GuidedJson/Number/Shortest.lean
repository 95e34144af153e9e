import GuidedJson.Number.Binary

/-! # Decimal texts of binary numbers

Two forms: the fewest digits that read back as the same number, and a fixed count of places
after the point.
-/

namespace GuidedJson.Number

/-- A decimal: `0.d₁d₂.. * 10 ^ point`, the digits given as one number of `count` digits. -/
structure Decimal where
  digits : Nat
  count : Nat
  point : Int
deriving DecidableEq, Repr

/-- Decimal digits of a number, at least one. -/
def decimalDigits (n : Nat) : List Char := Nat.toDigits 10 n

/-- A quotient times a power of ten. -/
def scaleTen (num den : Nat) (k : Int) : Nat × Nat :=
  if 0 ≤ k then (num * Nat.pow 10 k.toNat, den) else (num, den * Nat.pow 10 (-k).toNat)

/-- Where the point stands: `10 ^ (p - 1) ≤ num / den < 10 ^ p`. -/
def pointPlace (num den : Nat) : Int :=
  let guess : Int := ((decimalDigits num).length : Int) - ((decimalDigits den).length : Int)
  let (a, b) := scaleTen num den (-guess)
  if b ≤ a then guess + 1 else guess

/-- Whether `digits * 10 ^ exponent` is read as the number. -/
def readsAs (x : Binary) (digits : Nat) (exponent : Int) : Bool :=
  match x with
  | .finite s _ _ => Binary.ofDecimal s digits exponent = x
  | _ => false

/-- The decimal of `count` digits that reads back as the number and is nearest to it. -/
def withDigits? (x : Binary) (num den : Nat) (point : Int) (count : Nat) : Option Decimal :=
  let exponent := point - count
  let (a, b) := scaleTen num den (-exponent)
  let low := a / b
  let hitLow := readsAs x low exponent
  let hitHigh := readsAs x (low + 1) exponent
  if hitLow && hitHigh then some ⟨roundDiv a b, count, point⟩
  else if hitLow then some ⟨low, count, point⟩
  else if hitHigh then some ⟨low + 1, count, point⟩
  else none

/-- Tries one digit, two digits, and so on. -/
def searchDigits (x : Binary) (num den : Nat) (point : Int) : (fuel count : Nat) → Decimal
  | 0, count => let (a, b) := scaleTen num den (count - point); ⟨roundDiv a b, count, point⟩
  | fuel + 1, count =>
    match withDigits? x num den point count with
    | some d => d
    | none => searchDigits x num den point fuel (count + 1)

/-- A decimal whose digits have grown by a carry has one place less before its digits. -/
def Decimal.normalize (d : Decimal) : Decimal :=
  if d.digits = Nat.pow 10 d.count then ⟨d.digits / 10, d.count, d.point + 1⟩ else d

/-- The fewest digits that read back as a positive finite number. -/
def shortest (x : Binary) (m : Nat) (e : Int) : Decimal :=
  let (num, den) := Binary.quotient m e
  (searchDigits x num den (pointPlace num den) 16 1).normalize

/-! ## Layout of the digits -/

/-- How a shortest decimal is written: positionally while the point stands in a range, with an
exponent of at least two digits otherwise. -/
structure FloatStyle where
  minPoint : Int
  maxPoint : Int
  nan : String
  infinity : String

/-- Positional from `0.0001` up to sixteen places before the point. -/
def FloatStyle.message : FloatStyle := ⟨-3, 16, "nan", "inf"⟩

/-- The same digits, with the names that JSON texts use for what is not finite. -/
def FloatStyle.json : FloatStyle := ⟨-3, 16, "NaN", "Infinity"⟩

def zeros (n : Nat) : String := String.ofList (List.replicate n '0')

/-- Digits without the zeros at their end, but at least one digit. -/
def significant (n : Nat) : List Char :=
  match (decimalDigits n).reverse.dropWhile (· == '0') with
  | [] => ['0']
  | cs => cs.reverse

/-- At least two digits of an exponent. -/
def exponentText (e : Int) : String :=
  let ds := String.ofList (decimalDigits e.natAbs)
  let ds := if e.natAbs < 10 then "0" ++ ds else ds
  (if e < 0 then "-" else "+") ++ ds

/-- Digits `ds` with the point after the first `point` of them. -/
def placeDigits (style : FloatStyle) (ds : List Char) (point : Int) : String :=
  if style.minPoint ≤ point && point ≤ style.maxPoint then
    if point ≤ 0 then "0." ++ zeros (-point).toNat ++ String.ofList ds
    else
      let k := point.toNat
      if ds.length ≤ k then String.ofList ds ++ zeros (k - ds.length) ++ ".0"
      else String.ofList (ds.take k) ++ "." ++ String.ofList (ds.drop k)
  else
    match ds with
    | [] => ""
    | [d] => String.singleton d ++ "e" ++ exponentText (point - 1)
    | d :: rest =>
      String.singleton d ++ "." ++ String.ofList rest ++ "e" ++ exponentText (point - 1)

def signText (negative : Bool) : String := if negative then "-" else ""

/-- The shortest text of a number. -/
def Binary.text (style : FloatStyle) : Binary → String
  | .nan => style.nan
  | .infinite s => signText s ++ style.infinity
  | .finite s 0 _ => signText s ++ "0.0"
  | .finite s m e =>
    let d := shortest (.finite s m e) m e
    signText s ++ placeDigits style (significant d.digits) d.point

/-! ## Fixed places -/

/-- A number of units of the last of `places` places. -/
def placesText (places units : Nat) : String :=
  let ds := decimalDigits units
  let ds := List.replicate (places + 1 - ds.length) '0' ++ ds
  let whole := ds.length - places
  String.ofList (ds.take whole) ++ "." ++ String.ofList (ds.drop whole)

/-- The number with `places` digits after the point; a half goes to the even digit. -/
def Binary.fixed (places : Nat) : Binary → String
  | .nan => "nan"
  | .infinite s => signText s ++ "inf"
  | .finite s m e =>
    let (num, den) := Binary.quotient m e
    signText s ++ placesText places (roundDiv (num * Nat.pow 10 places) den)

/-- Numbers are reported with six places. -/
def Binary.sixPlaces (x : Binary) : String := x.fixed 6

end GuidedJson.Number
