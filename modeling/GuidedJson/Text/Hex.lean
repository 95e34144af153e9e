/-! # Hexadecimal texts

Numbers of a fixed width and octet strings in hexadecimal digits, written in lower case and read in
either.
-/

namespace GuidedJson.Text

def hexDigit (n : Nat) : Char :=
  if n < 10 then Char.ofNat (48 + n) else Char.ofNat (87 + n)

/-- The last `width` hexadecimal digits of a number. -/
def hexDigits : (width : Nat) → Nat → List Char
  | 0, _ => []
  | width + 1, n => hexDigits width (n / 16) ++ [hexDigit (n % 16)]

/-- An octet in two digits. -/
def hexOctet (b : UInt8) : List Char := hexDigits 2 b.toNat

/-- Octets, two digits each. -/
def hexText (bs : List UInt8) : String := String.ofList (bs.flatMap hexOctet)

/-- The value of a digit; a character that is none counts as zero. -/
def hexValue (c : Char) : Nat :=
  if '0' ≤ c && c ≤ '9' then c.toNat - 48
  else if 'a' ≤ c && c ≤ 'f' then c.toNat - 87
  else if 'A' ≤ c && c ≤ 'F' then c.toNat - 55
  else 0

/-- The octets of digits; a digit without a partner is left out. -/
def readHex : List Char → List UInt8
  | a :: b :: rest => UInt8.ofNat (16 * hexValue a + hexValue b) :: readHex rest
  | _ => []

/-! ## Laws -/

theorem hexValue_hexDigit {n : Nat} (h : n < 16) : hexValue (hexDigit n) = n := by
  have all : ∀ m ∈ List.range 16, hexValue (hexDigit m) = m := by decide
  exact all n (List.mem_range.mpr h)

/-- What is written of octets is read as them. -/
theorem readHex_flatMap_hexOctet (bs : List UInt8) : readHex (bs.flatMap hexOctet) = bs := by
  induction bs with
  | nil => rfl
  | cons b bs ih =>
    have hb : b.toNat < 256 := b.toNat_lt
    have h1 : b.toNat / 16 % 16 < 16 := Nat.mod_lt _ (by decide)
    have h2 : b.toNat % 16 < 16 := Nat.mod_lt _ (by decide)
    have e : 16 * (b.toNat / 16 % 16) + b.toNat % 16 = b.toNat := by omega
    simp [hexOctet, hexDigits, readHex, hexValue_hexDigit h1, hexValue_hexDigit h2, e, ih]

end GuidedJson.Text
