import GuidedJson.Proofs.Automaton.Nets

/-!
# Nets of repetitions

A star accepts any number of copies, `times` so many of them or up to so many. Where a copy begins
is known by the state being the start of its table, which no table leads back to.
-/

namespace GuidedJson.Automaton

open Computability

namespace Net

variable {t : Table} {classes : Nat}

/-! ## Any number of copies -/

theorem mem_star_next {p q k : Nat} : q ∈ (star t).next p k ↔
    (p ≠ t.size ∧ t.next p k = some q) ∨
      ((p = t.size ∨ t.final p = true) ∧ t.next 0 k = some q) := by
  simp only [star]
  by_cases hp : p = t.size
  · simp [hp]
  · by_cases hf : t.final p = true <;> simp [hp, hf, mem_merge]

theorem proper_star (ht : t.Proper classes) : (star t).Proper classes := by
  have hlt : ∀ {p k q}, q ∈ (star t).next p k → q < t.size ∧ k < classes := by
    intro p k q hq
    rcases mem_star_next.1 hq with ⟨-, hq⟩ | ⟨-, hq⟩
    · exact (ht.target hq).2
    · exact (ht.target hq).2
  have hone : ∀ o : Option Nat, o.toList.Pairwise (· < ·) := by
    intro o
    cases o <;> simp
  refine ⟨List.pairwise_singleton .., ?_, ?_, ?_, ?_⟩
  · intro p hp
    rw [List.mem_singleton.1 hp]
    exact Nat.lt_succ_self _
  · intro p k
    simp only [star]
    split
    · exact hone _
    · split
      · exact pairwise_merge (hone _) (hone _)
      · exact pairwise_merge (hone _) .nil
  · intro p k q hq
    obtain ⟨hq, hk⟩ := hlt hq
    exact ⟨Nat.lt_succ_of_lt hq, hk⟩
  -- The point between copies is no state of the table, so nothing leads to it.
  · refine .inr ⟨t.size, List.mem_singleton_self _, ?_⟩
    intro q k hq
    exact Nat.lt_irrefl _ (hlt hq).1

/-- Between copies a star reads copies, and in a state what is left of a copy before them. -/
theorem ends_star (ht : t.Proper classes) (ks : List Nat) :
    ((star t).Ends t.size ks ↔ ks ∈ t.language∗) ∧
      ∀ s < t.size, (star t).Ends s ks ↔ ks ∈ t.languageAt s * t.language∗ := by
  induction ks with
  | nil =>
    refine ⟨by simp [Ends, star, Language.nil_mem_kstar], ?_⟩
    intro s hs
    rw [Table.nil_mem_languageAt_mul]
    simp [Ends, star, Language.nil_mem_kstar, Nat.ne_of_lt hs]
  | cons k ks ih =>
    -- A copy that begins here reads the class, and what is left of it comes before further copies.
    have hbegin : k :: ks ∈ t.language∗ ↔
        ∃ q, t.next 0 k = some q ∧ ks ∈ t.languageAt q * t.language∗ :=
      cons_mem_kstar.trans Table.exists_split_iff
    have hcopy : ∀ p, (∃ q, t.next p k = some q ∧ (star t).Ends q ks) ↔
        ∃ q, t.next p k = some q ∧ ks ∈ t.languageAt q * t.language∗ := by
      intro p
      exact exists_congr fun q => and_congr_right fun hq => ih.2 q (ht.target hq).2.1
    constructor
    · rw [hbegin, ← hcopy]
      simp [Ends, mem_star_next]
    · intro s hs
      rw [Table.cons_mem_languageAt_mul, hbegin, ← hcopy s, ← hcopy 0]
      simp only [Ends, mem_star_next, Nat.ne_of_lt hs, ne_eq, not_false_eq_true, true_and,
        false_or]
      constructor
      · rintro ⟨q, hq | ⟨hf, hq⟩, hend⟩
        · exact .inl ⟨q, hq, hend⟩
        · exact .inr ⟨hf, q, hq, hend⟩
      · rintro (⟨q, hq, hend⟩ | ⟨hf, q, hq, hend⟩)
        · exact ⟨q, .inl hq, hend⟩
        · exact ⟨q, .inr ⟨hf, hq⟩, hend⟩

theorem language_star (ht : t.Proper classes) : (star t).language = t.language∗ := by
  ext ks
  rw [mem_language, ← (ends_star ht ks).1]
  simp [star]

/-! ## So many copies -/

section Times

variable {count : Nat} {optional : Bool}

/-- The texts of one copy; nothing is one of them if copies can be left out. -/
def copyLanguage (t : Table) (optional : Bool) : Language Nat :=
  if optional then 1 + t.language else t.language

theorem nil_mem_copyLanguage :
    [] ∈ copyLanguage t optional ↔ optional = true ∨ t.final 0 = true := by
  cases optional with
  | false => simp [copyLanguage, Table.mem_language, Table.Ends]
  | true =>
    rw [copyLanguage, if_pos rfl, Language.mem_add]
    simp

theorem cons_mem_copyLanguage {k : Nat} {ks : List Nat} :
    k :: ks ∈ copyLanguage t optional ↔ k :: ks ∈ t.language := by
  cases optional with
  | false => simp [copyLanguage]
  | true =>
    rw [copyLanguage, if_pos rfl, Language.mem_add]
    simp

/-- A copy that begins here reads the class, and what is left of it comes before further copies. -/
theorem cons_mem_copyLanguage_pow {n k : Nat} {ks : List Nat} :
    k :: ks ∈ copyLanguage t optional ^ (n + 1) ↔
      ∃ q, t.next 0 k = some q ∧ ks ∈ t.languageAt q * copyLanguage t optional ^ n := by
  simp only [cons_mem_pow_succ, cons_mem_copyLanguage]
  exact Table.exists_split_iff

/-- The point of a state in a copy. -/
def point (t : Table) (i s : Nat) : Nat := i * t.size + s

theorem point_div {i s : Nat} (hs : s < t.size) : point t i s / t.size = i := by
  rw [point, Nat.mul_comm, Nat.mul_add_div (by omega), Nat.div_eq_of_lt hs, Nat.add_zero]

theorem point_mod {i s : Nat} (hs : s < t.size) : point t i s % t.size = s := by
  rw [point, Nat.mul_comm, Nat.mul_add_mod, Nat.mod_eq_of_lt hs]

theorem exists_point (ht : t.Proper classes) (p : Nat) : ∃ i s, s < t.size ∧ p = point t i s :=
  ⟨p / t.size, p % t.size, Nat.mod_lt _ ht.size_pos, (Nat.div_add_mod' p t.size).symm⟩

theorem point_zero_succ {i : Nat} : point t (i + 1) 0 = i * t.size + t.size := by
  rw [point, Nat.succ_mul, Nat.add_zero]

/-- A copy goes on, and where it may end the next one begins. -/
theorem mem_times_next {i s k p : Nat} (hs : s < t.size) :
    p ∈ (times t count optional).next (point t i s) k ↔
      i < count ∧ ∃ q, t.next s k = some q ∧
        (p = point t i q ∨ (t.final q = true ∧ p = point t (i + 1) 0)) := by
  simp only [times, point_div hs, point_mod hs]
  by_cases hi : i < count
  · cases hq : t.next s k with
    | none => simp [hi]
    | some q => by_cases hf : t.final q = true <;> simp [hi, hf, point, Nat.succ_mul]
  · simp [hi]

theorem times_final {i s : Nat} (hs : s < t.size) :
    (times t count optional).final (point t i s) = true ↔
      s = 0 ∧ ((optional = true ∨ t.final 0 = true) ∨ i = count) := by
  simp [times, point_div hs, point_mod hs]

theorem point_lt {i s : Nat} (hi : i ≤ count) (hs : s < t.size) :
    point t i s < t.size * (count + 1) := by
  have : i * t.size ≤ count * t.size := Nat.mul_le_mul_right _ hi
  rw [Nat.mul_succ, Nat.mul_comm t.size count]
  simp only [point]
  omega

theorem proper_times (ht : t.Proper classes) : (times t count optional).Proper classes := by
  refine ⟨List.pairwise_singleton .., ?_, ?_, ?_, ?_⟩
  · intro p hp
    rw [List.mem_singleton.1 hp]
    exact Nat.mul_pos ht.size_pos (Nat.succ_pos _)
  · intro p k
    simp only [times]
    split
    · split
      · exact .nil
      · next q hq =>
        have := (ht.target hq).2.1
        split
        · simpa using by omega
        · exact List.pairwise_singleton ..
    · exact .nil
  · intro p k q hq
    obtain ⟨i, s, hs, rfl⟩ := exists_point ht p
    obtain ⟨hi, r, hr, hq⟩ := (mem_times_next hs).1 hq
    obtain ⟨-, hlt, hk⟩ := ht.target hr
    rcases hq with rfl | ⟨-, rfl⟩
    · exact ⟨point_lt (Nat.le_of_lt hi) hlt, hk⟩
    · exact ⟨point_lt hi ht.size_pos, hk⟩
  · refine .inr ⟨0, List.mem_singleton_self 0, ?_⟩
    -- A step leads behind the start of a table, or to a copy that is not the first one.
    intro p k h0
    obtain ⟨i, s, hs, rfl⟩ := exists_point ht p
    obtain ⟨-, r, hr, h0⟩ := (mem_times_next hs).1 h0
    have hpos := (ht.target hr).1
    have hsize := ht.size_pos
    rcases h0 with h0 | ⟨-, h0⟩
    · simp only [point] at h0
      omega
    · rw [point_zero_succ] at h0
      omega

/-- Inside a copy the rest of it comes before the copies that are left. -/
theorem ends_times_copy (ht : t.Proper classes) {i s : Nat} {l : Language Nat} (hi : i < count)
    (hs : 0 < s) (hlt : s < t.size)
    (hl : ∀ ks, (times t count optional).Ends (point t (i + 1) 0) ks ↔ ks ∈ l) (ks : List Nat) :
    ((times t count optional).Ends (point t i s) ks ∨ (t.final s = true ∧ ks ∈ l)) ↔
      ks ∈ t.languageAt s * l := by
  induction ks generalizing s with
  | nil =>
    rw [Table.nil_mem_languageAt_mul]
    have hend : ¬ (times t count optional).Ends (point t i s) [] := by
      intro h
      have := ((times_final hlt).1 h).1
      omega
    simp [hend]
  | cons k ks ih =>
    rw [Table.cons_mem_languageAt_mul]
    refine or_congr ?_ Iff.rfl
    simp only [Ends, mem_times_next hlt]
    -- Behind the class the copy goes on, or it has ended and the next copy begins.
    constructor
    · rintro ⟨p, ⟨-, q, hq, hp⟩, hend⟩
      obtain ⟨hpos, hq', -⟩ := ht.target hq
      refine ⟨q, hq, (ih hpos hq').1 ?_⟩
      rcases hp with rfl | ⟨hf, rfl⟩
      · exact .inl hend
      · exact .inr ⟨hf, (hl ks).1 hend⟩
    · rintro ⟨q, hq, hks⟩
      obtain ⟨hpos, hq', -⟩ := ht.target hq
      rcases (ih hpos hq').2 hks with hend | ⟨hf, hks⟩
      · exact ⟨_, ⟨hi, q, hq, .inl rfl⟩, hend⟩
      · exact ⟨_, ⟨hi, q, hq, .inr ⟨hf, rfl⟩⟩, (hl ks).2 hks⟩

/-- Where a copy begins the copies that are left are read. The induction is on their number. -/
theorem ends_times_start (ht : t.Proper classes) {n i : Nat} (hi : n + i = count) (ks : List Nat) :
    (times t count optional).Ends (point t i 0) ks ↔ ks ∈ copyLanguage t optional ^ n := by
  induction n generalizing i ks with
  | zero =>
    cases ks with
    | nil => simp [Ends, times_final ht.size_pos, show i = count by omega]
    | cons k ks => simp [Ends, mem_times_next ht.size_pos, show ¬ i < count by omega]
  | succ n ih =>
    have hlt : i < count := by omega
    have hnext : ∀ ks, (times t count optional).Ends (point t (i + 1) 0) ks ↔
        ks ∈ copyLanguage t optional ^ n := fun ks => ih (by omega) ks
    cases ks with
    | nil =>
      rw [nil_mem_pow, nil_mem_copyLanguage]
      simp [Ends, times_final ht.size_pos, Nat.ne_of_lt hlt]
    | cons k ks =>
      rw [cons_mem_copyLanguage_pow]
      simp only [Ends, mem_times_next ht.size_pos]
      constructor
      · rintro ⟨p, ⟨-, q, hq, hp⟩, hend⟩
        obtain ⟨hpos, hq', -⟩ := ht.target hq
        refine ⟨q, hq, (ends_times_copy ht hlt hpos hq' hnext ks).1 ?_⟩
        rcases hp with rfl | ⟨hf, rfl⟩
        · exact .inl hend
        · exact .inr ⟨hf, (hnext ks).1 hend⟩
      · rintro ⟨q, hq, hks⟩
        obtain ⟨hpos, hq', -⟩ := ht.target hq
        rcases (ends_times_copy ht hlt hpos hq' hnext ks).2 hks with hend | ⟨hf, hks⟩
        · exact ⟨_, ⟨hlt, q, hq, .inl rfl⟩, hend⟩
        · exact ⟨_, ⟨hlt, q, hq, .inr ⟨hf, rfl⟩⟩, (hnext ks).2 hks⟩

theorem language_times (ht : t.Proper classes) :
    (times t count optional).language = copyLanguage t optional ^ count := by
  ext ks
  rw [mem_language, ← ends_times_start (i := 0) ht (Nat.add_zero count)]
  simp [times, point]

end Times

end Net

end GuidedJson.Automaton
