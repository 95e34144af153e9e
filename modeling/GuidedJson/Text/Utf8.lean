/-! # UTF-8

Octets are read one at a time. Between two characters the reader is at rest; inside one it owes a
number of octets, the next of which lies between two bounds. So overlong forms, surrogates and
code points past the last are refused at the first octet that shows them.
-/

namespace GuidedJson.Text.Utf8

/-- A character of which octets are owed: how many, the bits so far, and the bounds of the next
octet. -/
structure Partial where
  owed : Nat
  bits : Nat
  low : Nat
  high : Nat
deriving DecidableEq, Repr

/-- What one octet leads to. -/
inductive Outcome where
  | char (c : Char)
  | more (p : Partial)
  | refused
deriving Repr

/-! ## One octet -/

/-- The first octet of a character. -/
def first (b : Nat) : Outcome :=
  if b < 0x80 then .char (Char.ofNat b)
  else if b < 0xC2 then .refused
  else if b < 0xE0 then .more ⟨1, b - 0xC0, 0x80, 0xBF⟩
  else if b = 0xE0 then .more ⟨2, 0, 0xA0, 0xBF⟩
  else if b = 0xED then .more ⟨2, 0xD, 0x80, 0x9F⟩
  else if b < 0xF0 then .more ⟨2, b - 0xE0, 0x80, 0xBF⟩
  else if b = 0xF0 then .more ⟨3, 0, 0x90, 0xBF⟩
  else if b < 0xF4 then .more ⟨3, b - 0xF0, 0x80, 0xBF⟩
  else if b = 0xF4 then .more ⟨3, 4, 0x80, 0x8F⟩
  else .refused

/-- A later octet of a character. -/
def next (p : Partial) (b : Nat) : Outcome :=
  if p.low ≤ b && b ≤ p.high then
    let bits := p.bits * 64 + (b - 0x80)
    if p.owed ≤ 1 then .char (Char.ofNat bits) else .more ⟨p.owed - 1, bits, 0x80, 0xBF⟩
  else .refused

/-! ## Octet strings -/

/-- What an octet string spells: a text, the beginning of one that breaks off inside a character,
or nothing. -/
inductive Reading where
  | text (cs : List Char)
  | incomplete (p : Partial)
  | invalid
deriving Repr

/-- Reads on from inside a character, or from between two. -/
def readFrom : Option Partial → List UInt8 → Reading
  | none, [] => .text []
  | some p, [] => .incomplete p
  | state, b :: bs =>
    let outcome := match state with
      | none => first b.toNat
      | some p => next p b.toNat
    match outcome with
    | .char c =>
      match readFrom none bs with
      | .text cs => .text (c :: cs)
      | r => r
    | .more p => readFrom (some p) bs
    | .refused => .invalid

def read (bs : List UInt8) : Reading := readFrom none bs

/-- The text of an octet string that is whole. -/
def decode? (bs : List UInt8) : Option (List Char) :=
  match read bs with
  | .text cs => some cs
  | _ => none

/-! ## Encoding -/

/-- The octets of a character. -/
def encodeChar (c : Char) : List UInt8 := String.utf8EncodeChar c

def encode (cs : List Char) : List UInt8 := cs.flatMap encodeChar

/-- The octets of a text. -/
def ofString (s : String) : List UInt8 := encode s.toList

/-! ## Characters with a given beginning -/

/-- The first and the last code point that a broken off character can still become. -/
def Partial.span (p : Partial) : Nat × Nat :=
  let unit := Nat.pow 64 (p.owed - 1)
  (p.bits * 64 * unit + (p.low - 0x80) * unit, p.bits * 64 * unit + (p.high - 0x80 + 1) * unit - 1)

end GuidedJson.Text.Utf8
