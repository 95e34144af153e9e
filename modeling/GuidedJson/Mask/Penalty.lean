import GuidedJson.Mask.Words

/-! # Penalties

A mask becomes a vector that is added to the scores of the tokens: zero where a token is allowed,
negative infinity where it is not.
-/

namespace GuidedJson

open Number (Binary Format)

/-- The floating-point types of scores. -/
inductive FloatType where
  | float32
  | float16
  | bfloat16
  | float64
deriving DecidableEq, Repr

namespace FloatType

def name : FloatType → String
  | .float32 => "torch.float32"
  | .float16 => "torch.float16"
  | .bfloat16 => "torch.bfloat16"
  | .float64 => "torch.float64"

def format : FloatType → Format
  | .float32 => .binary32
  | .float16 => .binary16
  | .bfloat16 => .bfloat16
  | .float64 => .binary64

def ofName? : String → Option FloatType
  | "float32" => some .float32
  | "float16" => some .float16
  | "bfloat16" => some .bfloat16
  | "float64" => some .float64
  | _ => none

end FloatType

namespace Mask

/-- What is added to the score of a token. -/
def penalty (allowed : Bool) : Binary := if allowed then .zero else .infinite true

/-- The penalties of the tokens of a table, by what they are for an allowed token and for another. -/
def penaltiesBy {α : Type} (penalty : Bool → α) (size : Nat) (m : Mask) : List α :=
  (List.range size).map fun i => penalty (m.test i)

/-- The penalties of the tokens of a table. -/
def penalties (size : Nat) (m : Mask) : List Binary := m.penaltiesBy penalty size

/-- The penalties of the eight bits of every octet. -/
def octetPenalties : List (List Binary) :=
  (List.range 256).map fun b => (List.range 8).map fun k => penalty (b.testBit k)

/-- The octets of a word, the least significant one first. -/
def octetsOf (w : BitVec 32) : List Nat := (List.range 4).map fun j => (w.toNat >>> (8 * j)) % 256

/-- The penalties of the bits of words, read from the table octet by octet. -/
def gather (ws : List (BitVec 32)) : List Binary :=
  ws.flatMap fun w => (octetsOf w).flatMap fun b => octetPenalties.getD b []

/-- The penalties of given words over a table of a given size: the size must be positive, the words
signed 32-bit ones, and there must be enough of them. Of the words that are needed every bit is
read; the bits past the size are dropped. -/
def expand (size : Int) (wordType : String) (m : Mask) : Except Failure (List Binary) :=
  if size ≤ 0 then .error (.argument (.vocabularySize size))
  else if wordType ≠ "torch.int32" then .error (.argument (.maskType wordType))
  else if (m.size : Int) < wordCount size then
    .error (.argument (.maskWords m.size (wordCount size)))
  else .ok ((gather (m.toList.take (wordCount size).toNat)).take size.toNat)

@[simp] theorem length_penalties (size : Nat) (m : Mask) : (m.penalties size).length = size := by
  simp [penalties, penaltiesBy]

/-- A token has no penalty exactly if its bit is set. -/
theorem getElem?_penalties {size i : Nat} (m : Mask) (h : i < size) :
    (m.penalties size)[i]? = some (penalty (m.test i)) := by
  simp [penalties, penaltiesBy, h]

end Mask

/-! ## Types of scores -/

/-- What is done with the numbers of a type of scores, as far as it can be: what the two penalties
become in it, what stands in place of negative infinity where there is no token, and sums. -/
structure Arithmetic (α : Type) where
  penalty : Except Failure (Bool → α)
  padding : Except Failure α
  add : Except Failure (α → α → α)

namespace Arithmetic

variable {α : Type}

/-- In a type of integers a penalty becomes some number, but there is no negative infinity. -/
def integers [Zero α] [Add α] (lowest : α) (name : String) : Arithmetic α where
  penalty := .ok fun allowed => if allowed then 0 else lowest
  padding := .error (.runtime ("value cannot be converted to type " ++ name ++ " without overflow"))
  add := .ok (· + ·)

/-- Penalties for so many numbers: further ones are left out, and missing ones filled in. -/
def fit (a : Arithmetic α) (ps : List α) (width : Nat) : Except Failure (List α) :=
  if ps.length < width then do
    return ps ++ List.replicate (width - ps.length) (← a.padding)
  else .ok (ps.take width)

theorem fit_of_padding {a : Arithmetic α} {p : α} (h : a.padding = .ok p) (ps : List α)
    (width : Nat) :
    a.fit ps width = .ok ((ps ++ List.replicate (width - ps.length) p).take width) := by
  rw [fit, h]
  split
  next hlt =>
    have hlength : (ps ++ List.replicate (width - ps.length) p).length = width := by
      rw [List.length_append, List.length_replicate]
      omega
    rw [List.take_of_length_le (Nat.le_of_eq hlength)]
    rfl
  next hle => rw [List.take_append_of_le_length (Nat.not_lt.1 hle)]

end Arithmetic

/-- Floating-point types have both penalties, and sums that are rounded. -/
def FloatType.arithmetic (type : FloatType) : Arithmetic Binary where
  penalty := .ok Mask.penalty
  padding := .ok (.infinite true)
  add := .ok (Binary.add type.format)

end GuidedJson
