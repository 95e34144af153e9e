import GuidedJson.Automaton.Table
import Mathlib.Computability.Language
import Mathlib.Data.Finset.Card
import Mathlib.Data.List.Forall2

/-!
# Explored tables

A table that is made by following a system of states accepts what the system accepts, provided
the bound on the number of states was right. The states of a table are numbers, so the proof keeps
for every number the state of the system that it stands for.
-/

namespace GuidedJson.Automaton

open Std (HashMap)

/-! ## Languages -/

/-- Whether a text of classes may be read to an end from a state of a table. -/
def Table.Ends (t : Table) : Nat → List Nat → Prop
  | s, [] => t.final s = true
  | s, k :: ks => ∃ q, t.next s k = some q ∧ t.Ends q ks

/-- The texts of classes that a table accepts. -/
def Table.language (t : Table) : Language Nat := {ks | t.Ends 0 ks}

/-- Whether a text of classes may be read to an end from a state of a system. -/
def System.Ends {σ : Type} (sys : System σ) : σ → List Nat → Prop
  | s, [] => sys.final s = true
  | s, k :: ks => ∃ q, sys.next s k = some q ∧ sys.Ends q ks

/-- The texts of classes that a system accepts. -/
def System.language {σ : Type} (sys : System σ) : Language Nat := {ks | sys.Ends sys.start ks}

theorem Table.mem_language {t : Table} {ks : List Nat} : ks ∈ t.language ↔ t.Ends 0 ks := Iff.rfl

theorem System.mem_language {σ : Type} {sys : System σ} {ks : List Nat} :
    ks ∈ sys.language ↔ sys.Ends sys.start ks := Iff.rfl

/-! ## Tables whose numbers are in order -/

/-- What holds of every table that is made here: where a state leads is a state, and it is not the
start, which is why a copy of a repetition is known to begin where its table starts. -/
structure Table.Proper (t : Table) (classes : Nat) : Prop where
  size_pos : 0 < t.size
  finals_size : t.finals.size = t.size
  target : ∀ {s k q}, t.next s k = some q → 0 < q ∧ q < t.size ∧ k < classes

/-! ## Numberings -/

section Numbering

variable {σ : Type} [BEq σ] [Hashable σ]

/-- The two directions of a numbering agree. -/
def Numbering.Sound (n : Numbering σ) : Prop :=
  ∀ (s : σ) (i : Nat), n.numbers[s]? = some i ↔ n.states[i]? = some s

/-- A numbering that came later keeps all numbers. -/
def Numbering.Extends (n n' : Numbering σ) : Prop :=
  ∀ (i : Nat) (s : σ), n.states[i]? = some s → n'.states[i]? = some s

theorem Numbering.Extends.refl (n : Numbering σ) : n.Extends n := fun _ _ h => h

theorem Numbering.Extends.trans {n₁ n₂ n₃ : Numbering σ} (h : n₁.Extends n₂) (h' : n₂.Extends n₃) :
    n₁.Extends n₃ := fun i s hs => h' i s (h i s hs)

theorem Numbering.Extends.size_le {n n' : Numbering σ} (h : n.Extends n') :
    n.states.size ≤ n'.states.size := by
  by_contra hlt
  have hi : n'.states.size < n.states.size := by omega
  have := h _ _ (Array.getElem?_eq_getElem hi)
  rw [Array.getElem?_eq_none (Nat.le_refl _)] at this
  cases this

/-- No state has two numbers. -/
theorem Numbering.Sound.nodup {n : Numbering σ} (hn : n.Sound) : n.states.toList.Nodup := by
  rw [List.nodup_iff_getElem?_ne_getElem?]
  intro i j hij hj heq
  obtain ⟨s, hs⟩ : ∃ s, n.states.toList[j]? = some s := ⟨_, List.getElem?_eq_getElem hj⟩
  rw [hs, Array.getElem?_toList] at heq
  rw [Array.getElem?_toList] at hs
  have := (hn s i).2 heq
  rw [(hn s j).2 hs] at this
  exact absurd (Option.some.inj this) (by omega)

variable [LawfulBEq σ]

theorem Numbering.sound_ofStart (s : σ) : (Numbering.ofStart s).Sound := by
  intro q i
  simp only [Numbering.ofStart, Std.HashMap.getElem?_insert, Std.HashMap.getElem?_empty]
  cases i with
  | zero => by_cases h : s = q <;> simp [h]
  | succ i => by_cases h : s = q <;> simp [h]

/-- A new state takes the number behind those that are given. -/
theorem Numbering.Sound.push {n : Numbering σ} {s : σ} (hn : n.Sound) (hs : n.numbers[s]? = none) :
    Numbering.Sound ⟨n.states.push s, n.numbers.insert s n.states.size⟩ := by
  have hnew : ∀ j : Nat, n.states[j]? ≠ some s := by
    intro j hj
    rw [(hn s j).2 hj] at hs
    cases hs
  have hpast : ∀ q : σ, n.numbers[q]? ≠ some n.states.size := by
    intro q hq
    rw [hn q, Array.getElem?_eq_none (Nat.le_refl _)] at hq
    cases hq
  intro q j
  rw [Std.HashMap.getElem?_insert, Array.getElem?_push]
  by_cases hq : s = q
  · subst hq
    by_cases hj : j = n.states.size
    · simp [hj]
    · simpa [hj, eq_comm] using hnew j
  · by_cases hj : j = n.states.size
    · simpa [hq, hj] using hpast q
    · simpa [hq, hj] using hn q j

/-- Numbering a state keeps the numbers there are and adds no state but that one. -/
theorem Numbering.number_spec {n n' : Numbering σ} {s : σ} {i : Nat} (hn : n.Sound)
    (h : n.number s = (i, n')) :
    n'.Sound ∧ n.Extends n' ∧ n'.states[i]? = some s ∧
      ∀ (j : Nat) (q : σ), n'.states[j]? = some q → n.states[j]? = some q ∨ q = s := by
  unfold Numbering.number at h
  cases hs : n.numbers[s]? with
  | some j =>
    rw [hs] at h
    obtain ⟨rfl, rfl⟩ := Prod.mk.inj h
    exact ⟨hn, .refl n, (hn s j).1 hs, fun _ _ hq => .inl hq⟩
  | none =>
    rw [hs] at h
    obtain ⟨rfl, rfl⟩ := Prod.mk.inj h
    refine ⟨hn.push hs, ?_, by simp, ?_⟩
    · intro j q hj
      have hlt : j < n.states.size := (Array.getElem?_eq_some_iff.1 hj).1
      simpa [Array.getElem?_push, Nat.ne_of_lt hlt] using hj
    · intro j q hj
      rw [Array.getElem?_push] at hj
      split at hj
      · exact .inr (Option.some.inj hj).symm
      · exact .inl hj

end Numbering

/-! ## Rows -/

section Exploration

variable {σ : Type} [BEq σ] [Hashable σ]

/-- The entry of a row says where a state leads by a class. -/
def Numbering.Names (n : Numbering σ) (next : Option σ) : Option Nat → Prop
  | none => next = none
  | some i => ∃ q, next = some q ∧ n.states[i]? = some q

theorem Numbering.Names.mono {n n' : Numbering σ} (h : n.Extends n') {next : Option σ}
    {o : Option Nat} (ho : n.Names next o) : n'.Names next o := by
  cases o with
  | none => exact ho
  | some i =>
    obtain ⟨q, hq, hi⟩ := ho
    exact ⟨q, hq, h i q hi⟩

variable [LawfulBEq σ] {sys : System σ}

/-- A row says for every class where the state leads; only states that it leads to are added. -/
theorem System.row_spec {s : σ} {ks : List Nat} {done r : Array (Option Nat)} {n n' : Numbering σ}
    (hn : n.Sound) (h : sys.row s ks done n = (r, n')) :
    n'.Sound ∧ n.Extends n' ∧
      (∀ (j : Nat) (q : σ), n'.states[j]? = some q →
        n.states[j]? = some q ∨ ∃ k ∈ ks, sys.next s k = some q) ∧
      ∃ row, r.toList = done.toList ++ row ∧
        List.Forall₂ (fun k o => n'.Names (sys.next s k) o) ks row := by
  induction ks generalizing done n with
  | nil =>
    obtain ⟨rfl, rfl⟩ := Prod.mk.inj h
    exact ⟨hn, .refl n, fun _ _ hq => .inl hq, [], by simp, .nil⟩
  | cons k ks ih =>
    unfold System.row at h
    cases hk : sys.next s k with
    | none =>
      -- The entry is empty, and no state is added for it.
      rw [hk] at h
      obtain ⟨hs, he, ha, row, hrow, hnames⟩ := ih hn h
      refine ⟨hs, he, ?_, none :: row, by simp [hrow], .cons hk hnames⟩
      intro j q hq
      apply (ha j q hq).imp_right
      rintro ⟨l, hl, hq⟩
      exact ⟨l, List.mem_cons_of_mem k hl, hq⟩
    | some q =>
      simp only [hk] at h
      cases hnum : n.number q with
      | mk i n₁ =>
        simp only [hnum] at h
        -- The state has a number now, which it keeps while the rest of the row is made.
        obtain ⟨hs₁, he₁, hi, ha₁⟩ := Numbering.number_spec hn hnum
        obtain ⟨hs, he, ha, row, hrow, hnames⟩ := ih hs₁ h
        refine ⟨hs, he₁.trans he, ?_, some i :: row, by simp [hrow], .cons ?_ hnames⟩
        · intro j p hp
          rcases ha j p hp with hp | ⟨l, hl, hp⟩
          · apply (ha₁ j p hp).imp_right
            rintro rfl
            exact ⟨k, List.mem_cons_self, hk⟩
          · exact .inr ⟨l, List.mem_cons_of_mem k hl, hp⟩
        · rw [hk]
          exact ⟨q, rfl, he i q hi⟩

/-- What holds of the rows made so far: the states they are for come first, and every entry names
the next state. -/
structure System.Explored (sys : System σ) (classes : Nat) (rows : Array (Array (Option Nat)))
    (n : Numbering σ) : Prop where
  sound : n.Sound
  start : n.states[0]? = some sys.start
  size_le : rows.size ≤ n.states.size
  names : ∀ (i : Nat) (r : Array (Option Nat)) (s : σ), rows[i]? = some r → n.states[i]? = some s →
    List.Forall₂ (fun k o => n.Names (sys.next s k) o) (List.range classes) r.toList

theorem System.Explored.push {classes : Nat} {rows : Array (Array (Option Nat))}
    {n n' : Numbering σ} {s : σ} {r : Array (Option Nat)} (h : sys.Explored classes rows n)
    (hs : n.states[rows.size]? = some s) (hr : sys.row s (List.range classes) #[] n = (r, n')) :
    sys.Explored classes (rows.push r) n' := by
  obtain ⟨hsound, hext, -, row, hrow, hnames⟩ := System.row_spec h.sound hr
  have hlt : rows.size < n.states.size := (Array.getElem?_eq_some_iff.1 hs).1
  have hsize := hext.size_le
  refine ⟨hsound, hext _ _ h.start, by simp; omega, ?_⟩
  intro i r' q hr' hq
  -- The new row is for its own state; the others are for states that kept their numbers.
  rw [Array.getElem?_push] at hr'
  split at hr'
  next hi =>
    subst hi
    obtain rfl := Option.some.inj hr'
    rw [hext _ _ hs] at hq
    obtain rfl := Option.some.inj hq
    simpa [hrow] using hnames
  next hi =>
    have hi' : i < n.states.size := by
      have := (Array.getElem?_eq_some_iff.1 hr').1
      omega
    have hq' := hext _ _ (Array.getElem?_eq_getElem hi')
    rw [hq'] at hq
    obtain rfl := Option.some.inj hq
    refine (h.names i r' _ hr' (Array.getElem?_eq_getElem hi')).imp ?_
    exact fun k o ho => ho.mono hext

omit [LawfulBEq σ] in
theorem System.Explored.card_states {classes : Nat} {rows : Array (Array (Option Nat))}
    {n : Numbering σ} {S : Finset σ} (h : sys.Explored classes rows n)
    (hn : ∀ s ∈ n.states, s ∈ S) : n.states.size ≤ S.card := by
  classical
  have hsub : n.states.toList.toFinset ⊆ S := by
    intro s hs
    exact hn s (by simpa using hs)
  have := Finset.card_le_card hsub
  rwa [List.toFinset_card_of_nodup h.sound.nodup, Array.length_toList] at this

/-- States that the system never leaves bound the search, so that in the end all states have a
row. -/
theorem System.rows_spec {classes fuel : Nat} {done rows : Array (Array (Option Nat))}
    {n n' : Numbering σ} {S : Finset σ} (h : sys.Explored classes done n)
    (hS : ∀ s ∈ S, ∀ k q, sys.next s k = some q → q ∈ S) (hn : ∀ s ∈ n.states, s ∈ S)
    (hfuel : S.card < done.size + fuel)
    (hr : sys.rows (List.range classes) fuel done n = (rows, n')) :
    sys.Explored classes rows n' ∧ rows.size = n'.states.size ∧ ∀ s ∈ n'.states, s ∈ S := by
  induction fuel generalizing done n with
  | zero =>
    -- There are no more rows than states, and no more states than the set has.
    have := h.card_states hn
    have := h.size_le
    omega
  | succ fuel ih =>
    unfold System.rows at hr
    cases hs : n.states[done.size]? with
    | none =>
      rw [hs] at hr
      obtain ⟨rfl, rfl⟩ := Prod.mk.inj hr
      have := Array.getElem?_eq_none_iff.1 hs
      have := h.size_le
      exact ⟨h, by omega, hn⟩
    | some s =>
      cases hrow : sys.row s (List.range classes) #[] n with
      | mk r n₁ =>
        simp only [hs, hrow] at hr
        have hsS : s ∈ S := hn s (Array.mem_of_getElem? hs)
        obtain ⟨-, -, hadd, -⟩ := System.row_spec h.sound hrow
        apply ih (h.push hs hrow) ?_ (by simp; omega) hr
        -- A state that is added is one that the system goes to from a state of the set.
        intro q hq
        obtain ⟨j, hj⟩ := Array.mem_iff_getElem?.1 hq
        rcases hadd j q hj with hq | ⟨k, -, hk⟩
        · exact hn q (Array.mem_of_getElem? hq)
        · exact hS s hsS k q hk

/-- A system of no more states than the bound that never goes back to its start. -/
def System.Confined (sys : System σ) (classes bound : Nat) : Prop :=
  ∃ S : Finset σ, S.card ≤ bound ∧ sys.start ∈ S ∧
    ∀ s ∈ S, ∀ k q, sys.next s k = some q → q ∈ S ∧ q ≠ sys.start ∧ k < classes

/-- The finished table with the states that its numbers stand for. -/
theorem System.table_spec {classes bound : Nat} (h : sys.Confined classes bound) :
    ∃ n : Numbering σ, sys.Explored classes (sys.table classes bound).rows n ∧
      (sys.table classes bound).rows.size = n.states.size ∧
      (sys.table classes bound).finals = n.states.map sys.final ∧
      ∀ s ∈ n.states, ∀ k q, sys.next s k = some q → q ≠ sys.start ∧ k < classes := by
  obtain ⟨S, hcard, hstart, hS⟩ := h
  have hinit : sys.Explored classes #[] (.ofStart sys.start) :=
    ⟨Numbering.sound_ofStart _, by simp [Numbering.ofStart], by simp, by simp⟩
  cases hr : sys.rows (List.range classes) (bound + 1) #[] (.ofStart sys.start) with
  | mk rows n =>
    obtain ⟨hex, hsize, hmem⟩ := System.rows_spec (S := S) hinit
      (fun s hs k q hq => (hS s hs k q hq).1) (by simpa [Numbering.ofStart] using hstart)
      (by simp; omega) hr
    have htable : sys.table classes bound = ⟨rows, n.states.map sys.final⟩ := by
      simp only [System.table, hr]
    refine ⟨n, ?_, ?_, ?_, ?_⟩
    · rwa [htable]
    · rw [htable]; exact hsize
    · rw [htable]
    · intro s hs k q hq
      exact (hS s (hmem s hs) k q hq).2

omit [LawfulBEq σ] in
/-- An entry of the finished table names the next state, also past the classes. -/
theorem System.names_next {classes bound : Nat} {n : Numbering σ}
    (hex : sys.Explored classes (sys.table classes bound).rows n)
    (hsize : (sys.table classes bound).rows.size = n.states.size)
    (hclass : ∀ s ∈ n.states, ∀ k q, sys.next s k = some q → q ≠ sys.start ∧ k < classes)
    {i : Nat} {s : σ} (hs : n.states[i]? = some s) (k : Nat) :
    n.Names (sys.next s k) ((sys.table classes bound).next i k) := by
  have hi : i < (sys.table classes bound).rows.size := by
    rw [hsize]
    exact (Array.getElem?_eq_some_iff.1 hs).1
  have hrow := hex.names i _ s (Array.getElem?_eq_getElem hi) hs
  have hlen := hrow.length_eq
  rw [List.length_range, Array.length_toList] at hlen
  simp only [Table.next, Array.getD_eq_getD_getElem?, Array.getElem?_eq_getElem hi,
    Option.getD_some]
  by_cases hk : k < classes
  · have hnames := hrow.get (i := k) (by simpa using hk) (by simpa [← hlen] using hk)
    simp only [List.get_eq_getElem, List.getElem_range, Array.getElem_toList] at hnames
    rwa [Array.getElem?_eq_getElem (by omega), Option.getD_some]
  -- Past the classes the row has no entry, and the system goes nowhere.
  · rw [Array.getElem?_eq_none (by omega), Option.getD_none]
    show sys.next s k = none
    by_contra hne
    obtain ⟨q, hq⟩ := Option.ne_none_iff_exists'.1 hne
    exact hk (hclass s (Array.mem_of_getElem? hs) k q hq).2

theorem System.proper_table {classes bound : Nat} (h : sys.Confined classes bound) :
    (sys.table classes bound).Proper classes := by
  obtain ⟨n, hex, hsize, hfinals, hclass⟩ := System.table_spec h
  have hsize' : (sys.table classes bound).size = n.states.size := hsize
  refine ⟨?_, by rw [hfinals, Array.size_map, hsize'], ?_⟩
  · rw [hsize']
    exact (Array.getElem?_eq_some_iff.1 hex.start).1
  · intro i k j hj
    by_cases hi : i < n.states.size
    · have hnames := System.names_next hex hsize hclass (Array.getElem?_eq_getElem hi) k
      rw [hj] at hnames
      obtain ⟨q, hq, hqj⟩ := hnames
      obtain ⟨hne, hk⟩ := hclass _ (Array.getElem_mem hi) k q hq
      refine ⟨?_, by rw [hsize']; exact (Array.getElem?_eq_some_iff.1 hqj).1, hk⟩
      -- The number of the start is zero, and the system does not go back to its start.
      by_contra h0
      obtain rfl : j = 0 := by omega
      rw [hex.start] at hqj
      exact hne (Option.some.inj hqj).symm
    · have hrow : (sys.table classes bound).rows[i]? = none := Array.getElem?_eq_none (by omega)
      simp [Table.next, hrow] at hj

omit [LawfulBEq σ] in
/-- From the number of a state the finished table reads to an end what the system reads from the
state. -/
theorem System.ends_table {classes bound : Nat} {n : Numbering σ}
    (hex : sys.Explored classes (sys.table classes bound).rows n)
    (hsize : (sys.table classes bound).rows.size = n.states.size)
    (hfinals : (sys.table classes bound).finals = n.states.map sys.final)
    (hclass : ∀ s ∈ n.states, ∀ k q, sys.next s k = some q → q ≠ sys.start ∧ k < classes)
    {ks : List Nat} {i : Nat} {s : σ} (hs : n.states[i]? = some s) :
    (sys.table classes bound).Ends i ks ↔ sys.Ends s ks := by
  induction ks generalizing i s with
  | nil => simp [Table.Ends, System.Ends, Table.final, hfinals, hs]
  | cons k ks ih =>
    have hnames := System.names_next hex hsize hclass hs k
    simp only [Table.Ends, System.Ends]
    cases hj : (sys.table classes bound).next i k with
    | none =>
      rw [hj] at hnames
      have hnone : sys.next s k = none := hnames
      simp [hnone]
    | some j =>
      rw [hj] at hnames
      obtain ⟨q, hq, hqj⟩ := hnames
      simp [hq, ih hqj]

/-- A table accepts what its system accepts. -/
theorem System.language_table {classes bound : Nat} (h : sys.Confined classes bound) :
    (sys.table classes bound).language = sys.language := by
  obtain ⟨n, hex, hsize, hfinals, hclass⟩ := System.table_spec h
  ext ks
  exact System.ends_table hex hsize hfinals hclass hex.start

end Exploration

end GuidedJson.Automaton
