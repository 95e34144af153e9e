import GuidedJson.Failure

/-! # Token masks

A set of token ids, packed into words of 32 bits: token `32 * w + k` is bit `k` of word `w`. Words
are written as signed numbers.
-/

namespace GuidedJson

/-- Packed token ids. -/
abbrev Mask := Array (BitVec 32)

namespace Mask

/-- The number of words for ids below a size, which may be anything. -/
def wordCount (size : Int) : Int := (size + 31).fdiv 32

/-- Whether a bit is set; bits past the words are not. -/
def test (m : Mask) (i : Nat) : Bool :=
  match m[i / 32]? with
  | some w => w.getLsbD (i % 32)
  | none => false

/-- Sets a bit. -/
def set (m : Mask) (i : Nat) : Mask :=
  m.modify (i / 32) fun w => w ||| BitVec.twoPow 32 (i % 32)

/-- So many words without a set bit. -/
def clear (words : Nat) : Mask := Array.replicate words 0

/-- So many words in which every bit is set. -/
def full (words : Nat) : Mask := Array.replicate words (BitVec.allOnes 32)

/-- The mask of ids over a table of a size. -/
def ofIds (size : Nat) (ids : List Nat) : Mask := ids.foldl set (clear ((size + 31) / 32))

/-- The signed words of a mask. -/
def toInts (m : Mask) : List Int := m.toList.map BitVec.toInt

def ofInts (ws : List Int) : Mask := (ws.map (BitVec.ofInt 32)).toArray

/-! ## Any ids and sizes -/

/-- A mask in which everything is allowed; a negative number of words is refused. -/
def allocate (size : Int) : Except Failure Mask :=
  let words := wordCount size
  if words < 0 then .error (.runtime "negative dimension")
  else .ok (full words.toNat)

/-- The bit of an id among `bits`; ids below zero count from the end. -/
def bitOf? (bits : Nat) (i : Int) : Option Nat :=
  if 0 ≤ i then if i < bits then some i.toNat else none
  else if -i ≤ bits then some (bits - (-i).toNat) else none

/-- So many bits, of which some are set. -/
def bitsOf (count : Nat) (ids : List Nat) : Array Bool :=
  ids.foldl (fun bits i => bits.setIfInBounds i true) (Array.replicate count false)

/-- The sum of the first bits, each shifted to its place. -/
def sumOf (count : Nat) (bit : Nat → Bool) : Nat :=
  (List.range count).foldl (fun sum k => sum + (bit k).toNat <<< k) 0

/-- A number of 32 bits as a signed one. -/
def signed (n : Nat) : Int := if Nat.pow 2 31 ≤ n then n - Nat.pow 2 32 else n

/-- The words of bits, of which every word takes 32. -/
def ofBits (words : Nat) (bits : Array Bool) : Mask :=
  (Array.range words).map fun j =>
    BitVec.ofInt 32 (signed (sumOf 32 fun k => bits.getD (32 * j + k) false))

/-- Packs ids. Any bit of the words may be set, those past the size among them. -/
def pack (ids : List Int) (size : Int) : Except Failure Mask :=
  let words := wordCount size
  if words < 0 then .error (.runtime "negative dimension")
  else if words = 0 && !ids.isEmpty then .error (.runtime "no dimension to index")
  else
    match ids.mapM (bitOf? (32 * words.toNat)) with
    | some bits => .ok (ofBits words.toNat (bitsOf (32 * words.toNat) bits))
    | none => .error (.index "index out of bounds")

/-! ## Laws -/

@[simp] theorem test_clear (words i : Nat) : (clear words).test i = false := by
  unfold test clear
  by_cases h : i / 32 < words
  · simp [h]
  · simp [h]

@[simp] theorem size_set (m : Mask) (i : Nat) : (m.set i).size = m.size := by
  simp [set]

/-- Setting a bit of the words changes that bit alone. -/
theorem test_set (m : Mask) (i j : Nat) (h : i < 32 * m.size) :
    (m.set i).test j = (decide (j = i) || m.test j) := by
  have hi : i / 32 < m.size := by omega
  unfold test set
  rw [Array.getElem?_modify]
  by_cases hw : i / 32 = j / 32
  · have hj : j / 32 < m.size := hw ▸ hi
    have hk : i % 32 = j % 32 ↔ j = i := by omega
    have hlt : i % 32 < 32 := by omega
    simp only [← hw, if_true, Array.getElem?_eq_getElem hi, Option.map_some, BitVec.getLsbD_or,
      BitVec.getLsbD_twoPow, hlt, decide_true, Bool.true_and]
    rw [Bool.or_comm]
    congr 1
    exact decide_eq_decide.2 hk
  · have hne : ¬ j = i := by
      rintro rfl
      exact hw rfl
    simp [hw, hne]

/-- Setting bits one after the other sets those bits and keeps all others. -/
theorem test_foldl_set (ids : List Nat) (m : Mask) (j : Nat) (h : ∀ i ∈ ids, i < 32 * m.size) :
    (ids.foldl set m).test j = (decide (j ∈ ids) || m.test j) := by
  induction ids generalizing m with
  | nil => simp
  | cons i ids ih =>
    have hi : i < 32 * m.size := h i List.mem_cons_self
    have hrest : ∀ k ∈ ids, k < 32 * (m.set i).size := by
      intro k hk
      rw [size_set]
      exact h k (List.mem_cons_of_mem i hk)
    rw [List.foldl_cons, ih (m.set i) hrest, test_set m i j hi]
    by_cases hj : j = i
    · simp [hj]
    · simp [hj]

@[simp] theorem size_foldl_set (ids : List Nat) (m : Mask) : (ids.foldl set m).size = m.size := by
  induction ids generalizing m with
  | nil => rfl
  | cons i ids ih => rw [List.foldl_cons, ih, size_set]

/-- A mask of ids has the words that its table needs. -/
theorem size_ofIds (size : Nat) (ids : List Nat) : (ofIds size ids).size = (size + 31) / 32 := by
  rw [ofIds, size_foldl_set, clear, Array.size_replicate]

/-- The mask of ids of a table has the bits of those ids. -/
theorem test_ofIds (size : Nat) (ids : List Nat) (j : Nat) (h : ∀ i ∈ ids, i < size) :
    (ofIds size ids).test j = decide (j ∈ ids) := by
  have bound : ∀ i ∈ ids, i < 32 * (clear ((size + 31) / 32)).size := by
    intro i hi
    have := h i hi
    simp only [clear, Array.size_replicate]
    omega
  rw [ofIds, test_foldl_set ids _ j bound, test_clear, Bool.or_false]

end Mask

end GuidedJson
