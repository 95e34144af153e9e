import GuidedJson.Proofs.Automaton.Tables

/-!
# Classes of symbols

The class of a character stands for it in every set of the expression: where the segments begin is
where some set begins or ends, so a segment lies inside or outside of a set as a whole. The classes
between two symbols are those of all symbols between them.
-/

namespace GuidedJson.Automaton

open Pattern (CharSet)
open Std (HashMap)

/-! ## Items, each once -/

section Distinct

variable {α : Type} [BEq α] [Hashable α] [LawfulBEq α]

theorem mem_distinct {a : α} {items : List α} : a ∈ distinct items ↔ a ∈ items := by
  have key : ∀ (items : List α) (seen : HashMap α Unit),
      a ∈ items.foldl (fun seen a => seen.insert a ()) seen ↔ a ∈ items ∨ a ∈ seen := by
    intro items
    induction items with
    | nil => simp
    | cons b items ih =>
      intro seen
      rw [List.foldl_cons, ih, HashMap.mem_insert, List.mem_cons, beq_iff_eq, eq_comm (a := b)]
      exact or_left_comm.trans or_assoc.symm
  rw [distinct, HashMap.mem_keys, key]
  simp

theorem nodup_distinct (items : List α) : (distinct items).Nodup := HashMap.nodup_keys

end Distinct

/-! ## Boundaries -/

namespace Alphabet

theorem mem_boundaries {sets : List CharSet} {n : Nat} : n ∈ boundaries sets ↔
    n = 0 ∨ n = Pattern.otherSymbol ∨ ∃ s ∈ sets, ∃ r ∈ s.ranges, n = r.1 ∨ n = r.2 + 1 := by
  simp [boundaries, mem_distinct, List.mem_mergeSort]

theorem pairwise_boundaries (sets : List CharSet) : (boundaries sets).Pairwise (· < ·) := by
  have hle : (boundaries sets).Pairwise (fun a b => decide (a ≤ b) = true) :=
    List.pairwise_mergeSort (by simp; omega) (by simp; omega) _
  have hne : (boundaries sets).Nodup :=
    (List.mergeSort_perm _ _).nodup_iff.2 (nodup_distinct _)
  apply (hle.and hne).imp
  intro a b h
  have := of_decide_eq_true h.1
  have := h.2
  omega

/-! ## Segments -/

variable {a : Alphabet}

/-- Where a symbol lies: behind the beginning of a segment and before the next one. -/
theorem segmentBetween_spec {n lo hi : Nat} (fuel : Nat) (hlo : a.starts.getD lo 0 ≤ n)
    (hlt : lo < hi) (hhi : hi = a.starts.size ∨ n < a.starts.getD hi 0) (hfuel : hi ≤ lo + fuel)
    (hsize : hi ≤ a.starts.size) :
    ∃ i, a.segmentBetween n fuel lo hi = i ∧ i < a.starts.size ∧ a.starts.getD i 0 ≤ n ∧
      (i + 1 = a.starts.size ∨ n < a.starts.getD (i + 1) 0) := by
  induction fuel generalizing lo hi with
  | zero => omega
  | succ fuel ih =>
    unfold segmentBetween
    by_cases hnext : lo + 1 < hi
    -- The symbol stays between the two bounds, whichever of them moves to the middle.
    · rw [if_pos hnext]
      by_cases hmid : a.starts.getD ((lo + hi) / 2) 0 ≤ n
      · simp only [if_pos hmid]
        exact ih hmid (by omega) hhi (by omega) hsize
      · simp only [if_neg hmid]
        exact ih hlo (by omega) (.inr (by omega)) (by omega) (by omega)
    · rw [if_neg hnext]
      obtain rfl : hi = lo + 1 := by omega
      exact ⟨lo, rfl, by omega, hlo, hhi⟩

/-- Segments that begin with the first symbol and come in ascending order. -/
structure Ordered (a : Alphabet) : Prop where
  zero : a.starts[0]? = some 0
  ascending : a.starts.toList.Pairwise (· < ·)

theorem Ordered.lt (h : a.Ordered) {i j : Nat} (hij : i < j) (hj : j < a.starts.size) :
    a.starts.getD i 0 < a.starts.getD j 0 := by
  have := List.pairwise_iff_getElem.1 h.ascending i j (by simp; omega) (by simpa using hj) hij
  simpa [Array.getD_eq_getD_getElem?, hj, show i < a.starts.size by omega] using this

theorem Ordered.segment_spec (h : a.Ordered) (n : Nat) :
    a.segment n < a.starts.size ∧ a.starts.getD (a.segment n) 0 ≤ n ∧
      ∀ j, a.segment n < j → j < a.starts.size → n < a.starts.getD j 0 := by
  have hpos : 0 < a.starts.size := (Array.getElem?_eq_some_iff.1 h.zero).1
  have hzero : a.starts.getD 0 0 ≤ n := by simp [Array.getD_eq_getD_getElem?, h.zero]
  obtain ⟨i, hi, hlt, hle, hnext⟩ :=
    segmentBetween_spec a.starts.size hzero hpos (.inl rfl) (by omega) (Nat.le_refl _)
  have hseg : a.segment n = i := hi
  rw [hseg]
  refine ⟨hlt, hle, ?_⟩
  intro j hij hj
  rcases hnext with hlast | hnext
  · omega
  · by_cases hj' : j = i + 1
    · rwa [hj']
    · exact hnext.trans (h.lt (by omega) hj)

theorem Ordered.segment_mono (h : a.Ordered) {m n : Nat} (hmn : m ≤ n) :
    a.segment m ≤ a.segment n := by
  obtain ⟨hlt, hle, -⟩ := h.segment_spec m
  by_contra hgt
  have := (h.segment_spec n).2.2 (a.segment m) (by omega) hlt
  omega

/-- The class of a symbol is one of the classes between two symbols that it lies between. -/
theorem Ordered.classOf_mem_classesBetween (h : a.Ordered) {low n high : Nat} (hlow : low ≤ n)
    (hhigh : n ≤ high) : a.classOf n ∈ a.classesBetween low high := by
  have hl := h.segment_mono hlow
  have hh := h.segment_mono hhigh
  refine List.mem_map.2 ⟨a.segment n - a.segment low, List.mem_range.2 (by omega), ?_⟩
  rw [Nat.add_sub_cancel' hl, classOf]

theorem Ordered.segment_start (h : a.Ordered) {j : Nat} (hj : j < a.starts.size) :
    a.segment (a.starts.getD j 0) = j := by
  obtain ⟨hlt, hle, hnext⟩ := h.segment_spec (a.starts.getD j 0)
  rcases Nat.lt_trichotomy (a.segment (a.starts.getD j 0)) j with hbelow | heq | habove
  · exact absurd (hnext j hbelow hj) (Nat.lt_irrefl _)
  · exact heq
  · exact absurd (h.lt habove hlt) (Nat.not_lt.2 hle)

/-- The classes between two symbols are those of the symbols between them. -/
theorem Ordered.mem_classesBetween_iff (h : a.Ordered) {low high k : Nat} (hle : low ≤ high) :
    k ∈ a.classesBetween low high ↔ ∃ n, low ≤ n ∧ n ≤ high ∧ a.classOf n = k := by
  constructor
  · intro hk
    obtain ⟨i, hi, rfl⟩ := List.mem_map.1 hk
    rw [List.mem_range] at hi
    rcases Nat.eq_zero_or_pos i with rfl | hpos
    · exact ⟨low, Nat.le_refl low, hle, rfl⟩
    -- A segment behind the first one begins between the two symbols.
    · obtain ⟨hlt, hstart, -⟩ := h.segment_spec high
      have hj : a.segment low + i < a.starts.size := by omega
      refine ⟨a.starts.getD (a.segment low + i) 0, ?_, ?_, ?_⟩
      · exact ((h.segment_spec low).2.2 _ (by omega) hj).le
      · have hle : a.segment low + i ≤ a.segment high := by omega
        rcases Nat.lt_or_eq_of_le hle with hlast | heq
        · exact (h.lt hlast hlt).le.trans hstart
        · rwa [heq]
      · rw [classOf, h.segment_start hj]
  · rintro ⟨n, hlow, hhigh, rfl⟩
    exact h.classOf_mem_classesBetween hlow hhigh

/-! ## Classes -/

/-- In which of some sets a symbol lies. -/
def signature (sets : List CharSet) (n : Nat) : List Bool := sets.map (·.has n)

theorem has_of_signature_eq {sets : List CharSet} {m n : Nat}
    (h : signature sets m = signature sets n) {s : CharSet} (hs : s ∈ sets) : s.has m = s.has n :=
  List.map_inj_left.1 h s hs

/-- What holds of the segments added so far: the symbol that a segment's class has for a sample lies
in the sets that the segment lies in. -/
structure Classified (sets : List CharSet) (a : Alphabet) (known : HashMap (List Bool) Nat) :
    Prop where
  size_eq : a.classes.size = a.starts.size
  sample : ∀ i < a.starts.size, ∃ n, a.samples[a.classes.getD i 0]? = some n ∧
    signature sets n = signature sets (a.starts.getD i 0)
  known_sample : ∀ (sig : List Bool) (k : Nat), known[sig]? = some k →
    ∃ n, a.samples[k]? = some n ∧ signature sets n = sig

theorem getD_push (xs : Array Nat) (x i : Nat) :
    (xs.push x).getD i 0 = if i = xs.size then x else xs.getD i 0 := by
  simp only [Array.getD_eq_getD_getElem?, Array.getElem?_push]
  split <;> rfl

theorem classified_addSegment {sets : List CharSet} {b : Alphabet} {known : HashMap (List Bool) Nat}
    (h : Classified sets b known) (start : Nat) :
    Classified sets (addSegment sets (b, known) start).1 (addSegment sets (b, known) start).2 ∧
      (addSegment sets (b, known) start).1.starts = b.starts.push start := by
  simp only [addSegment]
  cases hk : known[sets.map (·.has start)]? with
  | some k =>
    refine ⟨⟨by simp [h.size_eq], ?_, h.known_sample⟩, rfl⟩
    intro i hi
    simp only [getD_push, h.size_eq]
    -- The new segment takes the class of one that lies in the same sets.
    by_cases hnew : i = b.starts.size
    · rw [if_pos hnew, if_pos hnew]
      exact h.known_sample _ _ hk
    · rw [if_neg hnew, if_neg hnew]
      exact h.sample i (by simp at hi; omega)
  | none =>
    -- The samples there are keep their places.
    have keep : ∀ {k n : Nat}, b.samples[k]? = some n → (b.samples.push start)[k]? = some n := by
      intro k n hkn
      have hlt : k < b.samples.size := (Array.getElem?_eq_some_iff.1 hkn).1
      rw [Array.getElem?_push, if_neg (by omega), hkn]
    refine ⟨⟨by simp [h.size_eq], ?_, ?_⟩, rfl⟩
    · intro i hi
      simp only [getD_push, h.size_eq]
      by_cases hnew : i = b.starts.size
      · rw [if_pos hnew, if_pos hnew]
        exact ⟨start, by simp, rfl⟩
      · rw [if_neg hnew, if_neg hnew]
        obtain ⟨n, hn, hsig⟩ := h.sample i (by simp at hi; omega)
        exact ⟨n, keep hn, hsig⟩
    · intro sig k hsig
      rw [HashMap.getElem?_insert] at hsig
      split at hsig
      · rename_i heq
        cases hsig
        exact ⟨start, by simp, eq_of_beq heq⟩
      · obtain ⟨n, hn, hs⟩ := h.known_sample sig k hsig
        exact ⟨n, keep hn, hs⟩

theorem classified_foldl {sets : List CharSet} (bounds : List Nat) {b : Alphabet}
    {known : HashMap (List Bool) Nat} (h : Classified sets b known) :
    ∃ known', Classified sets (bounds.foldl (addSegment sets) (b, known)).1 known' ∧
      (bounds.foldl (addSegment sets) (b, known)).1.starts.toList = b.starts.toList ++ bounds := by
  induction bounds generalizing b known with
  | nil => exact ⟨known, h, by simp⟩
  | cons start bounds ih =>
    obtain ⟨hadd, hstarts⟩ := classified_addSegment h start
    obtain ⟨known', hc, hs⟩ := ih hadd
    exact ⟨known', hc, by rw [List.foldl_cons, hs, hstarts]; simp⟩

theorem classified_ofSets (sets : List CharSet) :
    (∃ known, Classified (distinct sets) (ofSets sets) known) ∧
      (ofSets sets).starts.toList = boundaries (distinct sets) := by
  have hempty : Classified (distinct sets) ⟨#[], #[], #[]⟩ ∅ :=
    ⟨rfl, by simp, by simp⟩
  obtain ⟨known, hc, hs⟩ := classified_foldl (boundaries (distinct sets)) hempty
  exact ⟨⟨known, hc⟩, hs.trans (List.nil_append _)⟩

theorem ordered_ofSets (sets : List CharSet) : (ofSets sets).Ordered := by
  have hstarts := (classified_ofSets sets).2
  have hasc : (ofSets sets).starts.toList.Pairwise (· < ·) := hstarts ▸ pairwise_boundaries _
  refine ⟨?_, hasc⟩
  have hmem : 0 ∈ (ofSets sets).starts.toList := hstarts ▸ mem_boundaries.2 (.inl rfl)
  -- The least of the starts is the first of them.
  cases hl : (ofSets sets).starts.toList with
  | nil => simp [hl] at hmem
  | cons n rest =>
    rw [hl] at hmem hasc
    rw [← Array.getElem?_toList, hl]
    rcases List.mem_cons.1 hmem with rfl | hrest
    · rfl
    · exact absurd (List.rel_of_pairwise_cons hasc hrest) (Nat.not_lt_zero n)

/-- A bound of a set lies in front of a symbol exactly if it lies in front of the symbol's
segment. -/
theorem Ordered.le_iff_of_mem (h : a.Ordered) {n m : Nat} (hm : m ∈ a.starts.toList) :
    m ≤ n ↔ m ≤ a.starts.getD (a.segment n) 0 := by
  obtain ⟨hlt, hle, hnext⟩ := h.segment_spec n
  obtain ⟨j, hj, rfl⟩ := List.getElem_of_mem hm
  have hj' : j < a.starts.size := by simpa using hj
  have hget : a.starts.toList[j] = a.starts.getD j 0 := by
    simp [Array.getD_eq_getD_getElem?, hj']
  rw [hget]
  constructor
  · intro hjn
    rcases Nat.lt_trichotomy (a.segment n) j with hgt | heq | hbelow
    · exact absurd (hnext j hgt hj') (by omega)
    · rw [heq]
    · exact (h.lt hbelow hlt).le
  · exact fun hjn => hjn.trans hle

theorem has_start_segment {sets : List CharSet} (n : Nat) {s : CharSet} (hs : s ∈ sets) :
    s.has ((ofSets sets).starts.getD ((ofSets sets).segment n) 0) = s.has n := by
  have hbound : ∀ {m : Nat}, m ∈ boundaries (distinct sets) →
      (m ≤ n ↔ m ≤ (ofSets sets).starts.getD ((ofSets sets).segment n) 0) := by
    intro m hm
    exact (ordered_ofSets sets).le_iff_of_mem ((classified_ofSets sets).2 ▸ hm)
  rw [Bool.eq_iff_iff]
  simp only [CharSet.has, List.any_eq_true, Bool.and_eq_true, decide_eq_true_eq]
  -- Both ends of every range are bounds, so the segment lies on the same side of them.
  apply exists_congr
  intro r
  apply and_congr_right
  intro hr
  have hlow := hbound (mem_boundaries.2
    (.inr (.inr ⟨s, mem_distinct.2 hs, r, hr, .inl rfl⟩)))
  have hhigh := hbound (mem_boundaries.2
    (.inr (.inr ⟨s, mem_distinct.2 hs, r, hr, .inr rfl⟩)))
  omega

/-- The sample of a symbol's class lies in the same sets as the symbol. -/
theorem has_sample_classOf {sets : List CharSet} {s : CharSet} (hs : s ∈ sets) (n : Nat) :
    ∃ h : (ofSets sets).classOf n < (ofSets sets).samples.size,
      s.has (ofSets sets).samples[(ofSets sets).classOf n] = s.has n := by
  obtain ⟨known, hc⟩ := (classified_ofSets sets).1
  obtain ⟨hlt, -, -⟩ := (ordered_ofSets sets).segment_spec n
  obtain ⟨m, hm, hsig⟩ := hc.sample _ hlt
  obtain ⟨hsize, hget⟩ := Array.getElem?_eq_some_iff.1 hm
  refine ⟨hsize, ?_⟩
  rw [← has_start_segment n hs, ← has_of_signature_eq hsig (mem_distinct.2 hs)]
  exact congrArg s.has hget

/-- The classes of an alphabet tell characters apart that lie in different sets. -/
theorem stands_ofSets {sets : List CharSet} {s : CharSet} (hs : s ∈ sets) :
    Stands (ofSets sets).samples (fun c => (ofSets sets).classOf c.toNat) s :=
  fun c => has_sample_classOf hs c.toNat

end Alphabet

end GuidedJson.Automaton
