import GuidedJson.Failure
import GuidedJson.Text.Utf8

/-! # Encodings of tokens

Tokens are stored as texts that stand for octets. Raw tokens stand for themselves. With byte
fallback a lower one eighth block is a space and `<0x0A>` is the octet that it names. Byte-level
tokens are spelled in an alphabet of 256 characters, one per octet; a token with any other
character stands for itself. Stored texts are lists of code points, since a token can hold half
of a surrogate pair: then it has no octets.
-/

namespace GuidedJson.Vocabulary

open Text

/-- How stored tokens stand for octets. -/
inductive Encoding where
  | raw
  | byteFallback
  | byteLevel
deriving DecidableEq, Repr

namespace Encoding

def code : Encoding → Nat
  | .raw => 0
  | .byteFallback => 1
  | .byteLevel => 2

def all : List Encoding := [.raw, .byteFallback, .byteLevel]

/-- The encoding of a code. -/
def ofCode (v : Value) : Except Failure Encoding :=
  match all.find? fun e => v.isNumber e.code with
  | some e => .ok e
  | none => .error (.argument (.encoding v))

def name : Encoding → String
  | .raw => "RAW"
  | .byteFallback => "BYTE_FALLBACK"
  | .byteLevel => "BYTE_LEVEL"

/-- The encoding that a decoding stage shows. -/
def ofStage? : String → Option Encoding
  | "ByteFallback" => some .byteFallback
  | "ByteLevel" => some .byteLevel
  | _ => none

/-- The encoding of the first stage that shows one, raw if none does. -/
def ofStages (stages : List String) : Encoding := (stages.findSome? ofStage?).getD .raw

end Encoding

/-! ## The alphabet of octets -/

/-- The octets that are their own character: those printed in Latin-1, without the soft hyphen. -/
def isShown (b : Nat) : Bool := (33 ≤ b && b ≤ 126) || (161 ≤ b && b ≤ 172) || (174 ≤ b && b ≤ 255)

/-- The other octets; their characters follow one another from 256 on. -/
def hiddenOctets : List Nat := (List.range 256).filter fun b => !isShown b

/-- The character of an octet. -/
def octetChar (b : UInt8) : Nat :=
  if isShown b.toNat then b.toNat else 256 + hiddenOctets.idxOf b.toNat

/-- The octet of a character. -/
def charOctet? (n : Nat) : Option UInt8 :=
  if n < 256 then if isShown n then some (UInt8.ofNat n) else none
  else (hiddenOctets[n - 256]?).map UInt8.ofNat

/-- The octets of a token that is spelled in the alphabet. -/
def spelledOctets? (cs : List Nat) : Option (List UInt8) := cs.mapM charOctet?

/-! ## Byte tokens -/

def hexValue? (n : Nat) : Option Nat :=
  if 48 ≤ n && n ≤ 57 then some (n - 48)
  else if 97 ≤ n && n ≤ 102 then some (n - 87)
  else if 65 ≤ n && n ≤ 70 then some (n - 55)
  else none

/-- The octet of a token `<0xHH>`; an end of line may follow it. -/
def namedOctet? (cs : List Nat) : Option UInt8 :=
  match cs with
  | 60 :: 48 :: 120 :: a :: b :: 62 :: rest =>
    if rest = [] || rest = [10] then
      match hexValue? a, hexValue? b with
      | some a, some b => some (UInt8.ofNat (16 * a + b))
      | _, _ => none
    else none
  | _ => none

/-- The mark of a space becomes a space. -/
def showSpaces (cs : List Nat) : List Nat := cs.map fun n => if n = 0x2581 then 32 else n

/-! ## Decoding -/

/-- The octets of code points, none if one of them is a surrogate. -/
def encodePoints? (cs : List Nat) : Option (List UInt8) :=
  (cs.mapM fun (n : Nat) =>
    if n.isValidChar then some (Utf8.encodeChar (Char.ofNat n)) else none).map List.flatten

/-- The octets that a token puts out. -/
def decodeOctets? (e : Encoding) (cs : List Nat) : Option (List UInt8) :=
  match e with
  | .raw => encodePoints? cs
  | .byteFallback =>
    match namedOctet? cs with
    | some b => some [b]
    | none => encodePoints? (showSpaces cs)
  | .byteLevel =>
    match spelledOctets? cs with
    | some bs => some bs
    | none => encodePoints? cs

/-- The text that a token puts out, none if its octets are no text on their own. -/
def decodeText? (e : Encoding) (cs : List Nat) : Option (List Nat) :=
  match e with
  | .raw => some cs
  | .byteFallback =>
    match namedOctet? cs with
    | some b => if b < 0x80 then some [b.toNat] else none
    | none => some (showSpaces cs)
  | .byteLevel =>
    match spelledOctets? cs with
    | some bs => (Utf8.decode? bs).map fun text => text.map Char.toNat
    | none => some cs

/-- The code points of a text. -/
def codePoints (s : String) : List Nat := s.toList.map Char.toNat

/-- The text of code points that are characters. -/
def ofCodePoints (cs : List Nat) : String := String.ofList (cs.map Char.ofNat)

end GuidedJson.Vocabulary
