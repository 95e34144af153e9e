/-! # SHA-256

The digest of an octet string: the string is padded to blocks of 64 octets, and each block is
mixed into eight words by 64 rounds.
-/

namespace GuidedJson.Digest

/-- The words of the rounds: fractional parts of the cube roots of the first 64 primes. -/
def roundWords : Array UInt32 := #[
  0x428a2f98, 0x71374491, 0xb5c0fbcf, 0xe9b5dba5, 0x3956c25b, 0x59f111f1, 0x923f82a4, 0xab1c5ed5,
  0xd807aa98, 0x12835b01, 0x243185be, 0x550c7dc3, 0x72be5d74, 0x80deb1fe, 0x9bdc06a7, 0xc19bf174,
  0xe49b69c1, 0xefbe4786, 0x0fc19dc6, 0x240ca1cc, 0x2de92c6f, 0x4a7484aa, 0x5cb0a9dc, 0x76f988da,
  0x983e5152, 0xa831c66d, 0xb00327c8, 0xbf597fc7, 0xc6e00bf3, 0xd5a79147, 0x06ca6351, 0x14292967,
  0x27b70a85, 0x2e1b2138, 0x4d2c6dfc, 0x53380d13, 0x650a7354, 0x766a0abb, 0x81c2c92e, 0x92722c85,
  0xa2bfe8a1, 0xa81a664b, 0xc24b8b70, 0xc76c51a3, 0xd192e819, 0xd6990624, 0xf40e3585, 0x106aa070,
  0x19a4c116, 0x1e376c08, 0x2748774c, 0x34b0bcb5, 0x391c0cb3, 0x4ed8aa4a, 0x5b9cca4f, 0x682e6ff3,
  0x748f82ee, 0x78a5636f, 0x84c87814, 0x8cc70208, 0x90befffa, 0xa4506ceb, 0xbef9a3f7, 0xc67178f2]

/-- The eight words that are mixed. -/
structure Words where
  a : UInt32
  b : UInt32
  c : UInt32
  d : UInt32
  e : UInt32
  f : UInt32
  g : UInt32
  h : UInt32

namespace Words

/-- Fractional parts of the square roots of the first eight primes. -/
def start : Words :=
  ⟨0x6a09e667, 0xbb67ae85, 0x3c6ef372, 0xa54ff53a, 0x510e527f, 0x9b05688c, 0x1f83d9ab, 0x5be0cd19⟩

def add (x y : Words) : Words :=
  ⟨x.a + y.a, x.b + y.b, x.c + y.c, x.d + y.d, x.e + y.e, x.f + y.f, x.g + y.g, x.h + y.h⟩

def toList (x : Words) : List UInt32 := [x.a, x.b, x.c, x.d, x.e, x.f, x.g, x.h]

end Words

def rotate (x : UInt32) (n : UInt32) : UInt32 := (x >>> n) ||| (x <<< (32 - n))

/-! ## Padding -/

/-- The `n` lowest octets of a number, the highest first. -/
def octets : (n : Nat) → Nat → List UInt8
  | 0, _ => []
  | n + 1, x => octets n (x / 256) ++ [UInt8.ofNat (x % 256)]

/-- A one bit, zeros, and the length in bits: together whole blocks. -/
def pad (message : List UInt8) : List UInt8 :=
  let zeros := (119 - message.length % 64) % 64
  message ++ 0x80 :: List.replicate zeros 0 ++ octets 8 (8 * message.length)

/-- Four octets as a word, the highest first. -/
def toWords : List UInt8 → List UInt32
  | a :: b :: c :: d :: rest =>
    ((a.toUInt32 <<< 24) ||| (b.toUInt32 <<< 16) ||| (c.toUInt32 <<< 8) ||| d.toUInt32) ::
      toWords rest
  | _ => []

/-! ## Blocks -/

/-- A word of the schedule: `back n` is the word `n` places before it. -/
def scheduleWord (back : Nat → UInt32) : UInt32 :=
  let x := back 15
  let y := back 2
  let s := rotate x 7 ^^^ rotate x 18 ^^^ (x >>> 3)
  let t := rotate y 17 ^^^ rotate y 19 ^^^ (y >>> 10)
  back 16 + s + back 7 + t

/-- The 64 words of a block of 16. -/
def schedule (block : Array UInt32) : Array UInt32 :=
  (List.range 48).foldl
    (fun ws _ => ws.push (scheduleWord fun n => ws.getD (ws.size - n) 0)) block

def mix (x : Words) (k w : UInt32) : Words :=
  let s := rotate x.e 6 ^^^ rotate x.e 11 ^^^ rotate x.e 25
  let choose := (x.e &&& x.f) ^^^ ((~~~x.e) &&& x.g)
  let t := x.h + s + choose + k + w
  let u := rotate x.a 2 ^^^ rotate x.a 13 ^^^ rotate x.a 22
  let majority := (x.a &&& x.b) ^^^ (x.a &&& x.c) ^^^ (x.b &&& x.c)
  ⟨t + u + majority, x.a, x.b, x.c, x.d + t, x.e, x.f, x.g⟩

/-- A block mixed into the words. -/
def absorb (x : Words) (block : List UInt32) : Words :=
  let ws := schedule block.toArray
  let y := (List.range 64).foldl (fun y i => mix y (roundWords.getD i 0) (ws.getD i 0)) x
  x.add y

/-- Absorbs words in blocks of 16. -/
def absorbAll : (blocks : Nat) → Words → List UInt32 → Words
  | 0, x, _ => x
  | n + 1, x, ws => absorbAll n (absorb x (ws.take 16)) (ws.drop 16)

/-- The digest of an octet string, 32 octets. -/
def sha256 (message : List UInt8) : List UInt8 :=
  let ws := toWords (pad message)
  (absorbAll (ws.length / 16) .start ws).toList.flatMap fun w => octets 4 w.toNat

end GuidedJson.Digest
