import GuidedJson.Failure
import GuidedJson.Vocabulary.Digest
import GuidedJson.Vocabulary.Encoding

/-! # Vocabularies

The table of tokens that a grammar is compiled against. Every id below the size has a token,
empty where the id is not in use. Stop tokens end a text and are ids of the table; special tokens
never put out anything.
-/

namespace GuidedJson

open Vocabulary (Encoding)

/-- A non-empty table of tokens. All lists of ids are ascending. -/
structure Vocabulary where
  tokens : Array String
  encoding : Encoding
  stop : List Nat
  special : List Int
  /-- The places that hold no text, with what they hold; their token is empty. -/
  foreign : List (Nat × Value) := []
  size_pos : 0 < tokens.size
  stop_lt : ∀ i ∈ stop, i < tokens.size

namespace Vocabulary

/-! ## Sets of ids -/

/-- Inserts a number into an ascending list, once. -/
def insertId (n : Int) : List Int → List Int
  | [] => [n]
  | m :: ms => if n < m then n :: m :: ms else if n = m then m :: ms else m :: insertId n ms

/-- The ascending list of a set of numbers. -/
def sortIds (ns : List Int) : List Int := ns.foldl (fun s n => insertId n s) []

theorem mem_insertId {n k : Int} (s : List Int) : k ∈ insertId n s ↔ k = n ∨ k ∈ s := by
  induction s with
  | nil => simp [insertId]
  | cons m ms ih =>
    unfold insertId
    split
    · simp
    · split <;> grind

theorem mem_sortIds {k : Int} (ns : List Int) : k ∈ sortIds ns ↔ k ∈ ns := by
  have key : ∀ ns s, k ∈ List.foldl (fun s n => insertId n s) s ns ↔ k ∈ ns ∨ k ∈ s := by
    intro ns
    induction ns with
    | nil => simp
    | cons n ns ih => intro s; simp [ih, mem_insertId]; grind
  simpa [sortIds] using key ns []

/-! ## Construction -/

/-- Whether an id is one of a table of a size. -/
def inTable (size : Nat) (i : Int) : Bool := 0 ≤ i && i < size

theorem inTable_iff {size : Nat} {i : Int} : inTable size i = true ↔ 0 ≤ i ∧ i < size := by
  rw [inTable, Bool.and_eq_true, decide_eq_true_eq, decide_eq_true_eq]

/-- A vocabulary; an empty table is refused, and stop tokens outside the table. -/
def of (tokens : Array String) (encoding : Encoding) (stop special : List Int) :
    Except Failure Vocabulary :=
  if hs : 0 < tokens.size then
    let stop := sortIds stop
    if ho : stop.all (inTable tokens.size) = true then
      .ok {
        tokens, encoding, special := sortIds special
        stop := stop.map Int.toNat
        size_pos := hs
        stop_lt := by
          intro i hi
          obtain ⟨k, hk, rfl⟩ := List.mem_map.1 hi
          have := List.all_eq_true.1 ho k hk
          simp [inTable] at this
          omega }
    else .error (.ofStopOutside (stop.filter fun i => !inTable tokens.size i) tokens.size)
  else .error (.vocabulary .empty)

variable (v : Vocabulary)

def size : Nat := v.tokens.size

/-- The number of words of a mask over the table. -/
def words : Nat := (v.size + 31) / 32

def isStop (i : Nat) : Bool := v.stop.contains i

def isSpecial (i : Int) : Bool := v.special.contains i

/-- Whether a place of the table holds no text. -/
def isForeign (i : Nat) : Bool := v.foreign.any (·.1 == i)

/-! ## Tokens -/

/-- The first id of a token. -/
def tokenId? (text : String) : Option Nat :=
  (List.range v.size).find? fun i => v.tokens[i]? == some text && !v.isForeign i

/-- The token of an id; ids below zero count from the end. -/
def token? (i : Int) : Option String :=
  if 0 ≤ i then v.tokens[i.toNat]? else
    let n := (-i).toNat
    if n ≤ v.size then v.tokens[v.size - n]? else none

/-- What looking a token up by its id finds: none for a special token. -/
def lookup {α : Type} (decode : Encoding → List Nat → Option α) (i : Int) :
    Except Failure (Option α) :=
  if v.isSpecial i then .ok none
  else
    match v.token? i with
    | some t => .ok (decode v.encoding (codePoints t))
    | none => .error (.index "tuple index out of range")

/-- The text that a token puts out. -/
def decodedText (i : Int) : Except Failure (Option (List Nat)) := v.lookup decodeText? i

/-- The octets that a token puts out. -/
def decodedOctets (i : Int) : Except Failure (Option (List UInt8)) := v.lookup decodeOctets? i

/-- The octets that a token of the table adds to a text; special tokens add none. -/
def octets (i : Nat) : List UInt8 :=
  if v.isSpecial i then []
  else
    match v.tokens[i]? with
    | some t => (decodeOctets? v.encoding (codePoints t)).getD []
    | none => []

/-- Whether a token adds to a text: it is no stop token and has octets. -/
def isMatchable (i : Nat) : Bool := i < v.size && !v.isStop i && !(v.octets i).isEmpty

/-! ## Tokens that are no texts -/

/-- What is said of a token that is no text when its octets are needed. -/
def Encoding.refusal (e : Encoding) (token : Value) : Failure :=
  match e with
  | .raw => .noAttribute token.kindName "encode"
  | .byteFallback => .mismatch (.noText token.kindName)
  | .byteLevel => .mismatch (.notIterable token.kindName)

/-- Every token whose octets count is a text: stop tokens and special tokens need not be. -/
def checkReadable : Except Failure Unit :=
  match v.foreign.find? fun (i, _) => !v.isStop i && !v.isSpecial i with
  | some (_, token) => .error (v.encoding.refusal token)
  | none => .ok ()

/-! ## Fingerprint -/

/-- What the fingerprint is the digest of: the encoding, the stop tokens, the size, and every token
after a zero. -/
def fingerprintInput : List UInt8 :=
  Text.Utf8.ofString (toString v.encoding.code ++ "|" ++
      Text.bracketed (v.stop.map toString) ++ "|" ++ toString v.size) ++
    v.tokens.toList.flatMap fun t => 0 :: Text.Utf8.ofString t

/-- Tells vocabularies apart by their tokens, encoding and stop tokens. -/
def fingerprint : String := Text.hexText (Digest.sha256 v.fingerprintInput)

/-- The fingerprint of a vocabulary of texts. -/
def fingerprint? : Except Failure String :=
  match v.foreign with
  | [] => .ok v.fingerprint
  | (_, token) :: _ => .error (Encoding.raw.refusal token)

end Vocabulary

end GuidedJson
