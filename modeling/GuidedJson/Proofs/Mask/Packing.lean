import GuidedJson.Mask.Penalty
import Mathlib.Algebra.Order.Ring.Int
import Mathlib.Data.List.Basic
import Mathlib.Tactic.Positivity

/-!
# Packing and expanding

A set of ids is packed into signed words, bit by bit, and words are expanded into penalties, octet
by octet. Each undoes the other: packed ids are expanded to zeros in their places, and the places of
zeros are packed into the words, up to the bits that stand for no id.
-/

namespace GuidedJson.Mask

open Number (Binary)

/-! ## Signed words -/

/-- Whether a number is a signed word. -/
def IsWord (w : Int) : Prop := -2 ^ 31 ≤ w ∧ w < 2 ^ 31

instance (w : Int) : Decidable (IsWord w) := inferInstanceAs (Decidable (_ ∧ _))

/-- A bit of a word is the last bit of the signed number that is shifted so far. -/
theorem getLsbD_iff_shiftRight {w : BitVec 32} {n : Nat} (hn : n < 32) :
    w.getLsbD n = true ↔ (w.toInt >>> n) % 2 = 1 := by
  have hbit : w.getLsbD n = (w.sshiftRight n).getLsbD 0 := by
    rw [BitVec.getLsbD_sshiftRight]
    simp [hn]
  rw [hbit, ← BitVec.toInt_sshiftRight, BitVec.getLsbD, Nat.testBit_zero, decide_eq_true_iff]
  -- The sign changes a number by a power of two, which is even.
  rw [BitVec.toInt_eq_toNat_cond]
  split <;> omega

theorem test_iff_shiftRight {k : Mask} {i : Nat} : k.test i = true ↔
    ∃ w, k.toInts[i / 32]? = some w ∧ (w >>> (i % 32)) % 2 = 1 := by
  have hword : k.toInts[i / 32]? = k[i / 32]?.map BitVec.toInt := by
    simp [toInts]
  have hlt : i % 32 < 32 := Nat.mod_lt i (by decide)
  rw [hword, test]
  cases k[i / 32]? with
  | none => simp
  | some w => simpa using getLsbD_iff_shiftRight hlt

/-- Signed words are words and back. -/
theorem toInts_ofInts {ws : List Int} (hws : ∀ w ∈ ws, IsWord w) : (ofInts ws).toInts = ws := by
  rw [toInts, ofInts, List.toList_toArray, List.map_map, List.map_congr_left, List.map_id]
  intro w hw
  obtain ⟨hlow, hhigh⟩ := hws w hw
  exact BitVec.toInt_ofInt_eq_self (by decide) hlow hhigh

theorem isWord_of_mem_toInts {k : Mask} {w : Int} (hw : w ∈ k.toInts) : IsWord w := by
  obtain ⟨b, -, rfl⟩ := List.mem_map.1 hw
  exact ⟨b.le_toInt, b.toInt_lt⟩

@[simp] theorem length_toInts (k : Mask) : k.toInts.length = k.size := by
  rw [toInts, List.length_map, Array.length_toList]

/-! ## Packing -/

section Pack

variable {size : Nat} {ids : List Int}

/-- A sum of shifted bits has those bits. -/
theorem testBit_sumOf (count : Nat) (bit : Nat → Bool) : sumOf count bit < 2 ^ count ∧
    ∀ i, (sumOf count bit).testBit i = (decide (i < count) && bit i) := by
  induction count with
  | zero => simp [sumOf]
  | succ n ih =>
    obtain ⟨hlt, hbits⟩ := ih
    have hsum : sumOf (n + 1) bit = 2 ^ n * (bit n).toNat + sumOf n bit := by
      rw [sumOf, List.range_succ, List.foldl_append, List.foldl_cons, List.foldl_nil,
        Nat.shiftLeft_eq, Nat.add_comm, Nat.mul_comm]
      rfl
    refine ⟨?_, fun i => ?_⟩
    · rw [hsum, pow_succ]
      cases bit n <;> simp <;> omega
    · rw [hsum, Nat.testBit_two_pow_mul_add _ hlt]
      split
      next hi => rw [hbits i, decide_eq_true hi, decide_eq_true (by omega)]
      next hi =>
        rcases Nat.eq_or_lt_of_le (Nat.not_lt.1 hi) with rfl | hlt'
        · rw [Nat.sub_self]
          cases bit n <;> simp
        -- Past the bit that was added there is none.
        · have htop : (bit n).toNat < 2 ^ (i - n) := calc
            (bit n).toNat < 2 ^ 1 := (bit n).toNat_lt
            _ ≤ 2 ^ (i - n) := Nat.pow_le_pow_right (by decide) (by omega)
          rw [Nat.testBit_lt_two_pow htop, decide_eq_false (by omega), Bool.false_and]

/-- The signed number of 32 bits is that of the word of the bits. -/
theorem ofInt_signed {n : Nat} (hn : n < 2 ^ 32) : BitVec.ofInt 32 (signed n) = BitVec.ofNat 32 n := by
  have htoInt : signed n = (BitVec.ofNat 32 n).toInt := by
    rw [BitVec.toInt_eq_toNat_cond, BitVec.toNat_ofNat, Nat.mod_eq_of_lt hn, signed, Nat.pow_eq,
      Nat.pow_eq]
    split <;> split <;> omega
  rw [htoInt, BitVec.ofInt_toInt]

theorem getD_foldl_setIfInBounds {bits : Array Bool} {ids : List Nat}
    (hids : ∀ i ∈ ids, i < bits.size) (i : Nat) :
    (ids.foldl (fun bits i => bits.setIfInBounds i true) bits).getD i false =
      (decide (i ∈ ids) || bits.getD i false) := by
  induction ids generalizing bits with
  | nil => simp
  | cons k ids ih =>
    obtain ⟨hk, hids⟩ := List.forall_mem_cons.1 hids
    have hrest : ∀ i ∈ ids, i < (bits.setIfInBounds k true).size := by simpa using hids
    rw [List.foldl_cons, ih hrest, Array.getD_eq_getD_getElem?, Array.getElem?_setIfInBounds]
    by_cases hki : k = i
    · simp [hki, hki ▸ hk]
    · have hne : i ≠ k := Ne.symm hki
      simp [hki, hne]

theorem getD_bitsOf {count : Nat} {ids : List Nat} (hids : ∀ i ∈ ids, i < count) (i : Nat) :
    (bitsOf count ids).getD i false = decide (i ∈ ids) := by
  rw [bitsOf, getD_foldl_setIfInBounds (by simpa using hids)]
  by_cases hi : i < count <;> simp [hi]

theorem test_of_getElem? {m : Mask} {j k : Nat} {b : BitVec 32} (hb : m[j]? = some b) (hk : k < 32) :
    m.test (32 * j + k) = b.getLsbD k := by
  have hdiv : (32 * j + k) / 32 = j := by omega
  have hmod : (32 * j + k) % 32 = k := by omega
  rw [test, hdiv, hmod, hb]

theorem test_ofBits {words : Nat} {bits : Array Bool} {j k : Nat} (hj : j < words) (hk : k < 32) :
    (ofBits words bits).test (32 * j + k) = bits.getD (32 * j + k) false := by
  obtain ⟨hlt, hbits⟩ := testBit_sumOf 32 fun k => bits.getD (32 * j + k) false
  have hword : (ofBits words bits)[j]? =
      some (BitVec.ofNat 32 (sumOf 32 fun k => bits.getD (32 * j + k) false)) := by
    rw [← ofInt_signed hlt, ofBits, Array.getElem?_map, Array.getElem?_range, if_pos hj]
    rfl
  rw [test_of_getElem? hword hk, BitVec.getLsbD_ofNat, hbits, decide_eq_true hk]
  rfl

/-- Masks of a size that have the same bits are the same. -/
theorem eq_of_test {m n : Mask} (hsize : m.size = n.size)
    (h : ∀ j < m.size, ∀ k < 32, m.test (32 * j + k) = n.test (32 * j + k)) : m = n := by
  refine Array.ext hsize fun j hm hn => BitVec.eq_of_getLsbD_eq fun k hk => ?_
  rw [← test_of_getElem? (Array.getElem?_eq_getElem hm) hk, h j hm k hk,
    test_of_getElem? (Array.getElem?_eq_getElem hn) hk]

/-- Words that are sums of shifted bits are those in which the bits are set one after the other. -/
theorem ofBits_bitsOf {words : Nat} {ids : List Nat} (hids : ∀ i ∈ ids, i < 32 * words) :
    ofBits words (bitsOf (32 * words) ids) = ids.foldl set (clear words) := by
  have hsize : (ofBits words (bitsOf (32 * words) ids)).size = words := by simp [ofBits]
  refine eq_of_test (by rw [hsize, size_foldl_set, clear, Array.size_replicate]) fun j hj k hk => ?_
  rw [test_ofBits (hsize ▸ hj) hk, getD_bitsOf hids, test_foldl_set ids _ _ (by simpa [clear] using hids),
    test_clear, Bool.or_false]

theorem wordCount_natCast (size : Nat) : wordCount size = ((size + 31) / 32 : Nat) := by
  rw [wordCount, Int.fdiv_eq_ediv_of_nonneg _ (by decide)]
  omega

/-- The bits of ids that the words hold are the ids. -/
theorem mapM_bitOf? {bits : Nat} (hids : ∀ i ∈ ids, 0 ≤ i ∧ i < bits) :
    ids.mapM (bitOf? bits) = some (ids.map Int.toNat) := by
  induction ids with
  | nil => rfl
  | cons i ids ih =>
    obtain ⟨⟨hnonneg, hlt⟩, hids⟩ := List.forall_mem_cons.1 hids
    have hbit : bitOf? bits i = some i.toNat := by rw [bitOf?, if_pos hnonneg, if_pos hlt]
    rw [List.mapM_cons, hbit, ih hids]
    rfl

/-- Ids of a table are packed into the mask of the table that has their bits. -/
theorem pack_eq_ok (hsize : 0 < size) (hids : ∀ i ∈ ids, 0 ≤ i ∧ i < size) :
    pack ids size = .ok (ofIds size (ids.map Int.toNat)) := by
  have hbits : ids.mapM (bitOf? (32 * ((size + 31) / 32))) = some (ids.map Int.toNat) := by
    refine mapM_bitOf? fun i hi => ?_
    have := hids i hi
    omega
  have hlt : ∀ i ∈ ids.map Int.toNat, i < 32 * ((size + 31) / 32) := by
    rw [List.forall_mem_map]
    intro i hi
    have := hids i hi
    omega
  rw [ofIds, ← ofBits_bitsOf hlt, pack, wordCount_natCast]
  simp only [Int.toNat_natCast, hbits]
  rw [if_neg (by omega), if_neg]
  simp only [Bool.and_eq_true, decide_eq_true_eq, not_and]
  omega

theorem test_packed (hids : ∀ i ∈ ids, 0 ≤ i ∧ i < size) {j : Nat} :
    (ofIds size (ids.map Int.toNat)).test j = true ↔ (j : Int) ∈ ids := by
  rw [test_ofIds, decide_eq_true_iff, List.mem_map]
  · constructor
    · rintro ⟨i, hi, rfl⟩
      rwa [Int.toNat_of_nonneg (hids i hi).1]
    · exact fun hj => ⟨j, hj, Int.toNat_natCast j⟩
  · rw [List.forall_mem_map]
    intro i hi
    obtain ⟨hnonneg, hlt⟩ := hids i hi
    omega

end Pack

/-! ## Expanding -/

/-- The bits of a word, octet by octet. -/
theorem flatMap_octetsOf (w : BitVec 32) : (octetsOf w).flatMap (fun b => octetPenalties.getD b []) =
    (List.range 32).map fun i => penalty (w.getLsbD i) := by
  have hrange : List.range 32 =
      (List.range 4).flatMap fun j => (List.range 8).map fun k => 8 * j + k := by decide
  rw [hrange, octetsOf, List.flatMap_map, List.map_flatMap]
  congr 1
  funext j
  have hlt : (w.toNat >>> (8 * j)) % 256 < 256 := Nat.mod_lt _ (by decide)
  rw [octetPenalties, List.getD_eq_getElem?_getD, List.getElem?_map, List.getElem?_range hlt,
    Option.map_some, Option.getD_some, List.map_map]
  refine List.map_congr_left fun k hk => ?_
  have hk : k < 8 := List.mem_range.1 hk
  rw [Function.comp_apply, show (256 : Nat) = 2 ^ 8 from rfl, Nat.testBit_mod_two_pow,
    Nat.testBit_shiftRight, BitVec.testBit_toNat, decide_eq_true hk, Bool.true_and]

/-- The penalty of a bit stands in the place of the bit. -/
theorem getElem?_gather (ws : List (BitVec 32)) (i : Nat) :
    (gather ws)[i]? = ws[i / 32]?.map fun w => penalty (w.getLsbD (i % 32)) := by
  induction ws generalizing i with
  | nil => rfl
  | cons w ws ih =>
    rw [gather, List.flatMap_cons, flatMap_octetsOf, ← gather]
    by_cases hi : i < 32
    · rw [List.getElem?_append_left (by simpa using hi), Nat.div_eq_of_lt hi, Nat.mod_eq_of_lt hi]
      simp [hi]
    · obtain ⟨j, rfl⟩ := Nat.exists_eq_add_of_le (Nat.not_lt.1 hi)
      rw [List.getElem?_append_right (by simp), ih]
      simp [Nat.add_div_left]

/-- Reading the table octet by octet is testing bit by bit. -/
theorem expand_eq_ok {size : Nat} {m : Mask} (hsize : 0 < size) (hm : (size + 31) / 32 ≤ m.size) :
    expand size "torch.int32" m = .ok (m.penalties size) := by
  rw [expand, wordCount_natCast, if_neg (by omega), if_neg (by simp), if_neg (by omega)]
  congr 1
  refine List.ext_getElem? fun i => ?_
  rw [Int.toNat_natCast, Int.toNat_natCast, List.getElem?_take]
  split
  next hi =>
    have hword : i / 32 < (size + 31) / 32 := by omega
    rw [getElem?_gather, List.getElem?_take, if_pos hword, getElem?_penalties m hi, test,
      Array.getElem?_toList, Array.getElem?_eq_getElem (by omega), Option.map_some]
  next hi => simp [penalties, penaltiesBy, Nat.not_lt.1 hi]

/-! ## Trimming -/

/-- The words that a table of a size needs, without their bits at and past the size. -/
def trimmed (size : Nat) (ws : List Int) : List Int :=
  (ws.take ((size + 31) / 32)).mapIdx fun j w => (w % 2 ^ (size - 32 * j)).bmod (2 ^ 32)

/-- Remainders by powers of two may be taken in any order. -/
theorem emod_two_pow_comm (w : Int) (s t : Nat) : w % 2 ^ t % 2 ^ s = w % 2 ^ s % 2 ^ t := by
  have key {a b : Nat} (hab : a ≤ b) : w % 2 ^ a % 2 ^ b = w % 2 ^ b % 2 ^ a := by
    have hlt : w % 2 ^ a < 2 ^ b :=
      (Int.emod_lt_of_pos w (by positivity)).trans_le (pow_le_pow_right₀ (by decide) hab)
    rw [Int.emod_eq_of_lt (Int.emod_nonneg w (by positivity)) hlt,
      Int.emod_emod_of_dvd w (pow_dvd_pow 2 hab)]
  rcases Nat.le_total s t with hst | hst
  · exact (key hst).symm
  · exact key hst

/-- Of a remainder by a power of two the bits below the power are those of the number. -/
theorem getLsbD_ofInt_emod (w : Int) (t k : Nat) : (BitVec.ofInt 32 (w % 2 ^ t)).getLsbD k =
    (decide (k < t) && (BitVec.ofInt 32 w).getLsbD k) := by
  have hnonneg : 0 ≤ w % 2 ^ 32 := Int.emod_nonneg w (by decide)
  have hnat : (w % 2 ^ t % 2 ^ 32).toNat = (w % 2 ^ 32).toNat % 2 ^ t := by
    rw [emod_two_pow_comm, Int.toNat_emod hnonneg (by positivity),
      Int.toNat_pow_of_nonneg (by decide)]
    rfl
  rw [← BitVec.testBit_toNat, ← BitVec.testBit_toNat, BitVec.toNat_ofInt, BitVec.toNat_ofInt,
    ← Nat.testBit_mod_two_pow]
  exact congrArg (Nat.testBit · k) hnat

/-- A mask of a table that has the bits of words below the size has the trimmed words. -/
theorem toInts_eq_trimmed {size : Nat} {ws : List Int} {m : Mask} (hm : m.size = (size + 31) / 32)
    (hws : (size + 31) / 32 ≤ ws.length)
    (htest : ∀ i, m.test i = (decide (i < size) && (ofInts ws).test i)) :
    m.toInts = trimmed size ws := by
  refine List.ext_getElem? fun j => ?_
  rw [toInts, trimmed, List.getElem?_map, List.getElem?_mapIdx, Array.getElem?_toList,
    List.getElem?_take]
  split
  next hj =>
    have hword : m[j]? = some m[j] := Array.getElem?_eq_getElem (by omega)
    have hgiven : ws[j]? = some ws[j] := List.getElem?_eq_getElem (by omega)
    rw [hword, hgiven, Option.map_some, Option.map_some, ← BitVec.toInt_ofInt]
    congr 2
    refine BitVec.eq_of_getLsbD_eq fun k hk => ?_
    have hbit : (ofInts ws).test (32 * j + k) = (BitVec.ofInt 32 ws[j]).getLsbD k :=
      test_of_getElem? (by simp [ofInts, hgiven]) hk
    have hbound : 32 * j + k < size ↔ k < size - 32 * j := by omega
    rw [← test_of_getElem? hword hk, htest, hbit, getLsbD_ofInt_emod, decide_eq_decide.2 hbound]
  next hj =>
    have hend : m[j]? = none := Array.getElem?_eq_none (by omega)
    rw [hend]
    rfl

/-! ## There and back -/

/-- What packing ids of a table gives: as many signed words as the table needs, with the bits of the
ids. -/
structure Packs (size : Nat) (ids ws : List Int) : Prop where
  length : ws.length = (size + 31) / 32
  signed : ∀ w ∈ ws, IsWord w
  bits : ∀ j w, ws[j]? = some w →
    ∀ k < 32, (w >>> k) % 2 = 1 ↔ ((32 * j + k : Nat) : Int) ∈ ids

/-- What expanding signed words gives: as many penalties as the table has ids, zero where the bit of
the id is set and negative infinity elsewhere. -/
structure Expands (size : Nat) (ws : List Int) (ps : List Binary) : Prop where
  length : ps.length = size
  bits : ∀ i < size, ∃ w, ws[i / 32]? = some w ∧
    ps[i]? = some (if (w >>> (i % 32)) % 2 = 1 then .zero else .infinite true)

theorem packs_ofIds {size : Nat} {ids : List Int} (hids : ∀ i ∈ ids, 0 ≤ i ∧ i < size) :
    Packs size ids (ofIds size (ids.map Int.toNat)).toInts where
  length := by rw [length_toInts, size_ofIds]
  signed := fun _ => isWord_of_mem_toInts
  bits := by
    intro j w hw k hk
    have hdiv : (32 * j + k) / 32 = j := by omega
    have hmod : (32 * j + k) % 32 = k := by omega
    rw [← test_packed hids, test_iff_shiftRight, hdiv, hmod, hw]
    simp

theorem expands_penalties {size : Nat} {ws : List Int} (hws : ∀ w ∈ ws, IsWord w)
    (henough : (size + 31) / 32 ≤ ws.length) : Expands size ws ((ofInts ws).penalties size) where
  length := length_penalties size _
  bits := by
    intro i hi
    have hword : ws[i / 32]? = some ws[i / 32] := List.getElem?_eq_getElem (by omega)
    refine ⟨ws[i / 32], hword, ?_⟩
    have htest : (ofInts ws).test i = true ↔ (ws[i / 32] >>> (i % 32)) % 2 = 1 := by
      rw [test_iff_shiftRight, toInts_ofInts hws, hword]
      simp
    rw [getElem?_penalties _ hi, penalty]
    simp only [htest]

/-- Where a penalty is zero. -/
theorem getElem?_penalties_eq_zero_iff {size : Nat} {m : Mask} {i : Nat} :
    (m.penalties size)[i]? = some .zero ↔ i < size ∧ m.test i = true := by
  by_cases hi : i < size
  · rw [getElem?_penalties m hi, penalty]
    cases m.test i <;> simp [hi, Binary.zero]
  · simp [penalties, penaltiesBy, hi]

/-- Packed ids are expanded to zeros in their places, and the places of the zeros of expanded words
are packed into the words that the table needs, trimmed. -/
theorem pack_expand {size : Nat} (hsize : 0 < size) {ids ws : List Int}
    (hids : ∀ i ∈ ids, 0 ≤ i ∧ i < size) (hws : ∀ w ∈ ws, IsWord w)
    (henough : (size + 31) / 32 ≤ ws.length) :
    (∃ m ps, pack ids size = .ok m ∧ Packs size ids m.toInts ∧
      expand size "torch.int32" m = .ok ps ∧ ps.length = size ∧
      ∀ i < size, ps[i]? = some (if (i : Int) ∈ ids then .zero else .infinite true)) ∧
    ∃ ps, expand size "torch.int32" (ofInts ws) = .ok ps ∧ Expands size ws ps ∧
      ∀ zeros : List Int, (∀ i, i ∈ zeros ↔ 0 ≤ i ∧ ps[i.toNat]? = some .zero) →
        ∃ m, pack zeros size = .ok m ∧ m.toInts = trimmed size ws := by
  constructor
  · refine ⟨_, _, pack_eq_ok hsize hids, packs_ofIds hids,
      expand_eq_ok hsize (size_ofIds _ _).ge, length_penalties _ _, fun i hi => ?_⟩
    rw [getElem?_penalties _ hi, penalty]
    simp only [test_packed hids]
  · have hwords : (size + 31) / 32 ≤ (ofInts ws).size := by simpa [ofInts] using henough
    refine ⟨_, expand_eq_ok hsize hwords, expands_penalties hws henough, fun zeros hzeros => ?_⟩
    simp only [getElem?_penalties_eq_zero_iff] at hzeros
    have hin : ∀ i ∈ zeros, 0 ≤ i ∧ i < size := by
      intro i hi
      obtain ⟨hnonneg, hlt, -⟩ := (hzeros i).1 hi
      omega
    refine ⟨_, pack_eq_ok hsize hin, toInts_eq_trimmed (size_ofIds _ _) henough fun i => ?_⟩
    rw [Bool.eq_iff_iff, test_packed hin, hzeros, Bool.and_eq_true, decide_eq_true_iff]
    simp

theorem pack_expand_forty :
    (∃ m ps, pack [39, 0, 31, 0] 40 = .ok m ∧ Packs 40 [39, 0, 31, 0] m.toInts ∧
      expand 40 "torch.int32" m = .ok ps ∧ ps[39]? = some .zero ∧
      ps[38]? = some (.infinite true)) ∧
    ∃ ps, expand 40 "torch.int32" (ofInts [-1, -1, 5]) = .ok ps ∧ Expands 40 [-1, -1, 5] ps ∧
      ∀ zeros : List Int, (∀ i, i ∈ zeros ↔ 0 ≤ i ∧ ps[i.toNat]? = some .zero) →
        ∃ m, pack zeros 40 = .ok m ∧ m.toInts = [-1, 255] := by
  obtain ⟨⟨m, ps, hm, hpacks, hps, -, hzeros⟩, qs, hqs, hexpands, hback⟩ :=
    @pack_expand 40 (by decide) [39, 0, 31, 0] [-1, -1, 5] (by decide) (by decide) (by decide)
  exact ⟨⟨m, ps, hm, hpacks, hps, hzeros 39 (by decide), hzeros 38 (by decide)⟩,
    qs, hqs, hexpands, hback⟩

end GuidedJson.Mask
