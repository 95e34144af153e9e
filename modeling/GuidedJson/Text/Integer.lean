import GuidedJson.Text.Blank

/-! # Reading integers

An integer is an optional sign and decimal digits of any script, with single underscores
between digits and blanks around the whole. The number of its digits is limited.
-/

namespace GuidedJson.Text

/-! ## The limit -/

/-- How many digits an integer may have when it is read or written. -/
def digitLimit : Nat := 4300

/-- What is said of an integer with more digits; how many there are is known of a text. -/
def tooManyDigits (count : Option Nat) : String :=
  "Exceeds the limit (" ++ toString digitLimit ++ " digits) for integer string conversion" ++
    (match count with
      | some n => ": value has " ++ toString n ++ " digits"
      | none => "") ++
    "; use sys.set_int_max_str_digits() to increase the limit"

/-! ## Digits -/

/-- The digits zero of the scripts that have decimal digits; each is followed by its one to
nine. -/
def digitZeros : List Nat := [
  0x30, 0x660, 0x6F0, 0x7C0, 0x966, 0x9E6, 0xA66, 0xAE6, 0xB66, 0xBE6,
  0xC66, 0xCE6, 0xD66, 0xDE6, 0xE50, 0xED0, 0xF20, 0x1040, 0x1090, 0x17E0,
  0x1810, 0x1946, 0x19D0, 0x1A80, 0x1A90, 0x1B50, 0x1BB0, 0x1C40, 0x1C50, 0xA620,
  0xA8D0, 0xA900, 0xA9D0, 0xA9F0, 0xAA50, 0xABF0, 0xFF10, 0x104A0, 0x10D30, 0x11066,
  0x110F0, 0x11136, 0x111D0, 0x112F0, 0x11450, 0x114D0, 0x11650, 0x116C0, 0x11730, 0x118E0,
  0x11950, 0x11C50, 0x11D50, 0x11DA0, 0x16A60, 0x16AC0, 0x16B50, 0x1D7CE, 0x1D7D8, 0x1D7E2,
  0x1D7EC, 0x1D7F6, 0x1E140, 0x1E2F0, 0x1E950, 0x1FBF0]

/-- The value of a decimal digit. -/
def digitValue? (c : Char) : Option Nat :=
  let n := c.toNat
  (digitZeros.find? (fun first => first ≤ n && n < first + 10)).map (n - ·)

/-! ## Numbers -/

/-- The blanks that may stand around a number: all but the information separators. -/
def isNumberBlank (c : Char) : Bool := isBlank c && !(28 ≤ c.toNat && c.toNat ≤ 31)

/-- A text without the blanks that may stand around a number. -/
def trimNumber (cs : List Char) : List Char :=
  ((cs.dropWhile isNumberBlank).reverse.dropWhile isNumberBlank).reverse

/-- The digits at the front and what follows them; an underscore needs a digit on both sides. -/
def digitsAtFront : (afterDigit : Bool) → List Char → Option (List Nat × List Char)
  | _, [] => some ([], [])
  | afterDigit, c :: rest =>
    if c = '_' then
      match afterDigit, rest.head?.bind digitValue? with
      | true, some _ => digitsAtFront false rest
      | _, _ => none
    else
      match digitValue? c with
      | some d => (digitsAtFront true rest).map fun (ds, after) => (d :: ds, after)
      | none => some ([], c :: rest)

/-- Why a text spells no integer. -/
inductive Misspelling where
  | form
  | digits (count : Nat)
deriving DecidableEq, Repr

/-- The number of digits that may be followed by blanks; how many they are counts first. -/
def readNatural (cs : List Char) : Except Misspelling Nat :=
  match digitsAtFront false cs with
  | none => .error .form
  | some (ds, after) =>
    if digitLimit < ds.length then .error (.digits ds.length)
    else if ds.isEmpty || !after.all isNumberBlank then .error .form
    else .ok (ds.foldl (fun n d => 10 * n + d) 0)

/-- The integer that a text spells. -/
def readInteger (s : String) : Except Misspelling Int :=
  match s.toList.dropWhile isNumberBlank with
  | '-' :: rest => (readNatural rest).map fun n => -(n : Int)
  | '+' :: rest => (readNatural rest).map fun n => (n : Int)
  | cs => (readNatural cs).map fun n => (n : Int)

/-- Whether an integer has no more digits than are written. -/
def isWritable (n : Int) : Bool := n.natAbs < Nat.pow 10 digitLimit

/-- The decimal digits of an integer, which are limited in number. -/
def writeInteger? (n : Int) : Option String := if isWritable n then some (toString n) else none

end GuidedJson.Text
