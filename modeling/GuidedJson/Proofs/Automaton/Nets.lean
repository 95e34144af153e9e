import GuidedJson.Automaton.Net
import GuidedJson.Proofs.Automaton.Exploration
import GuidedJson.Proofs.Language
import Mathlib.Data.List.Sort
import Mathlib.Data.List.Sublists

/-!
# Languages of nets

The table of a net accepts what the net accepts: the sets of points that it stands at are ascending
lists, of which there are no more than the bound says. Nets of automata one after the other, beside
each other and again and again accept products, sums, stars and powers.
-/

namespace GuidedJson.Automaton

open Computability

/-! ## Ascending lists -/

theorem pairwise_merge {s t : Points} (hs : s.Pairwise (· < ·)) (ht : t.Pairwise (· < ·)) :
    (merge s t).Pairwise (· < ·) := by
  fun_induction merge s t with
  | case1 => exact ht
  | case2 => exact hs
  | case3 a s b t h ih =>
    rw [List.pairwise_cons] at hs
    refine List.pairwise_cons.2 ⟨?_, ih hs.2 ht⟩
    intro x hx
    rcases (mem_merge s (b :: t)).1 hx with hx | hx
    · exact hs.1 x hx
    · rcases List.mem_cons.1 hx with rfl | hx
      · exact h
      · exact Nat.lt_trans h ((List.pairwise_cons.1 ht).1 x hx)
  | case4 a s b t h h' ih =>
    rw [List.pairwise_cons] at ht
    refine List.pairwise_cons.2 ⟨?_, ih hs ht.2⟩
    intro x hx
    rcases (mem_merge (a :: s) t).1 hx with hx | hx
    · rcases List.mem_cons.1 hx with rfl | hx
      · exact h'
      · exact Nat.lt_trans h' ((List.pairwise_cons.1 hs).1 x hx)
    · exact ht.1 x hx
  | case5 a s b t h h' ih =>
    obtain rfl : a = b := by omega
    rw [List.pairwise_cons] at hs ht
    refine List.pairwise_cons.2 ⟨?_, ih hs.2 ht.2⟩
    intro x hx
    rcases (mem_merge s t).1 hx with hx | hx
    · exact hs.1 x hx
    · exact ht.1 x hx

/-- An ascending list of numbers below a bound is a part of all of them. -/
theorem sublist_range {s : Points} {n : Nat} (hs : s.Pairwise (· < ·)) (hn : ∀ p ∈ s, p < n) :
    s.Sublist (List.range n) := by
  have hnodup : s.Nodup := hs.imp fun h => Nat.ne_of_lt h
  have hsub : s ⊆ List.range n := fun p hp => List.mem_range.2 (hn p hp)
  exact List.sublist_of_subperm_of_pairwise (hnodup.subperm hsub) hs List.pairwise_lt_range

/-! ## Nets -/

/-- Whether a text may be read to an end from a point. -/
def Net.Ends (n : Net) : Nat → List Nat → Prop
  | p, [] => n.final p = true
  | p, k :: ks => ∃ q ∈ n.next p k, n.Ends q ks

/-- The texts of classes that a net accepts. -/
def Net.language (n : Net) : Language Nat := {ks | ∃ p ∈ n.start, n.Ends p ks}

theorem Net.mem_language {n : Net} {ks : List Nat} :
    ks ∈ n.language ↔ ∃ p ∈ n.start, n.Ends p ks := Iff.rfl

/-- What holds of every net that is made here. Some point of the start is never led to, so the net
never stands at its start again. -/
structure Net.Proper (n : Net) (classes : Nat) : Prop where
  start_ascending : n.start.Pairwise (· < ·)
  start_lt : ∀ p ∈ n.start, p < n.size
  next_ascending : ∀ p k, (n.next p k).Pairwise (· < ·)
  next_lt : ∀ {p k q}, q ∈ n.next p k → q < n.size ∧ k < classes
  fresh : n.start = [] ∨ ∃ p ∈ n.start, ∀ q k, p ∉ n.next q k

theorem Net.pairwise_step {n : Net} {classes : Nat} (hn : n.Proper classes) (s : Points) (k : Nat) :
    (n.step s k).Pairwise (· < ·) := by
  unfold Net.step
  induction s with
  | nil => exact .nil
  | cons p s ih => exact pairwise_merge (hn.next_ascending p k) ih

theorem Net.system_next {n : Net} {s t : Points} {k : Nat} :
    n.system.next s k = some t ↔ n.step s k = t ∧ t ≠ [] := by
  simp only [Net.system]
  cases h : n.step s k with
  | nil =>
    constructor
    · rintro ⟨⟩
    · rintro ⟨rfl, ht⟩
      exact absurd rfl ht
  | cons p s =>
    constructor
    · intro ht
      obtain rfl := Option.some.inj ht
      exact ⟨rfl, List.cons_ne_nil _ _⟩
    · rintro ⟨rfl, -⟩
      rfl

theorem Net.confined_system {n : Net} {classes : Nat} (hn : n.Proper classes) :
    n.system.Confined classes (Nat.pow 2 n.size) := by
  refine ⟨(List.range n.size).sublists.toFinset, ?_, ?_, ?_⟩
  · apply (List.toFinset_card_le _).trans
    rw [List.length_sublists, List.length_range]
    exact Nat.le_refl _
  · rw [List.mem_toFinset, List.mem_sublists]
    exact sublist_range hn.start_ascending hn.start_lt
  · intro s hs k t ht
    obtain ⟨rfl, hne⟩ := Net.system_next.1 ht
    have hmem : ∀ q ∈ n.step s k, ∃ p ∈ s, q ∈ n.next p k := fun q hq => Net.mem_step.1 hq
    refine ⟨?_, ?_, ?_⟩
    · rw [List.mem_toFinset, List.mem_sublists]
      apply sublist_range (Net.pairwise_step hn s k)
      intro q hq
      obtain ⟨p, -, hp⟩ := hmem q hq
      exact (hn.next_lt hp).1
    · intro heq
      have hstart : n.step s k = n.start := heq
      -- Some point of the start is led to from nowhere, so no step stands at it.
      rcases hn.fresh with hnil | ⟨p, hp, hfresh⟩
      · exact hne (hstart.trans hnil)
      · obtain ⟨q, -, hq⟩ := hmem p (hstart ▸ hp)
        exact hfresh q k hq
    · obtain ⟨q, hq⟩ := List.exists_mem_of_ne_nil _ hne
      obtain ⟨p, -, hp⟩ := hmem q hq
      exact (hn.next_lt hp).2

theorem Net.ends_system {n : Net} {s : Points} {ks : List Nat} :
    n.system.Ends s ks ↔ ∃ p ∈ s, n.Ends p ks := by
  induction ks generalizing s with
  | nil => simp [System.Ends, Net.Ends, Net.system]
  | cons k ks ih =>
    simp only [System.Ends, Net.Ends, Net.system_next, ih]
    constructor
    · rintro ⟨t, ⟨rfl, -⟩, q, hq, hend⟩
      obtain ⟨p, hp, hpq⟩ := Net.mem_step.1 hq
      exact ⟨p, hp, q, hpq, hend⟩
    · rintro ⟨p, hp, q, hpq, hend⟩
      have hq : q ∈ n.step s k := Net.mem_step.2 ⟨p, hp, hpq⟩
      exact ⟨_, ⟨rfl, List.ne_nil_of_mem hq⟩, q, hq, hend⟩

theorem Net.proper_table {n : Net} {classes : Nat} (hn : n.Proper classes) :
    (n.table classes).Proper classes := System.proper_table (Net.confined_system hn)

/-- The table of a net accepts what the net accepts. -/
theorem Net.language_table {n : Net} {classes : Nat} (hn : n.Proper classes) :
    (n.table classes).language = n.language := by
  rw [Net.table, System.language_table (Net.confined_system hn)]
  ext ks
  exact Net.ends_system

/-! ## One after the other -/

/-- The texts that a table accepts from a state. -/
def Table.languageAt (t : Table) (s : Nat) : Language Nat := {ks | t.Ends s ks}

theorem Table.nil_mem_languageAt_mul {t : Table} {s : Nat} {l : Language Nat} :
    [] ∈ t.languageAt s * l ↔ t.final s = true ∧ [] ∈ l := nil_mem_mul

/-- What the table reads with the first class it reads from where that class leads. -/
theorem Table.exists_split_iff {t : Table} {s k : Nat} {ks : List Nat} {l : Language Nat} :
    (∃ u v, ks = u ++ v ∧ k :: u ∈ t.languageAt s ∧ v ∈ l) ↔
      ∃ q, t.next s k = some q ∧ ks ∈ t.languageAt q * l := by
  constructor
  · rintro ⟨u, v, rfl, ⟨q, hq, hu⟩, hv⟩
    exact ⟨q, hq, Language.append_mem_mul hu hv⟩
  · rintro ⟨q, hq, h⟩
    obtain ⟨u, hu, v, hv, rfl⟩ := Language.mem_mul.1 h
    exact ⟨u, v, rfl, ⟨q, hq, hu⟩, hv⟩

/-- The first class is read by the table, or the table has ended before. -/
theorem Table.cons_mem_languageAt_mul {t : Table} {s k : Nat} {ks : List Nat} {l : Language Nat} :
    k :: ks ∈ t.languageAt s * l ↔
      (∃ q, t.next s k = some q ∧ ks ∈ t.languageAt q * l) ∨
        (t.final s = true ∧ k :: ks ∈ l) := by
  rw [cons_mem_mul, Table.exists_split_iff]
  rfl

namespace Net

/-- Where a point leads in rows that are written out. -/
def Rows.next (n : Rows) (p k : Nat) : Points := (n.rows.getD p #[]).getD k []

/-- A net of rows that are written out. -/
def Rows.net (n : Rows) (final : Nat → Bool) : Net where
  size := n.rows.size
  start := n.start
  next := n.next
  final := final

/-- Rows with an automaton added behind them; `lead` says what standing in a state of it means. -/
def Rows.extend (n : Rows) (t : Table) (start : Points) (lead : Nat → Points) : Rows :=
  ⟨start, n.rows ++ t.rows.map fun row => row.map fun o => o.elim [] lead⟩

section Extend

variable {n : Rows} {t : Table} {start : Points} {lead : Nat → Points} {classes : Nat}
  {final final' : Nat → Bool}

theorem Rows.eq_extend {entry : Option Nat → Points} (h : ∀ o, entry o = o.elim [] lead) :
    ⟨start, n.rows ++ t.rows.map fun row => row.map entry⟩ = n.extend t start lead := by
  rw [funext h]
  rfl

theorem Rows.size_extend : (n.extend t start lead).rows.size = n.rows.size + t.size := by
  simp [Rows.extend, Table.size]

theorem Rows.next_extend_of_lt {p : Nat} (h : p < n.rows.size) (k : Nat) :
    (n.extend t start lead).next p k = n.next p k := by
  simp [Rows.next, Rows.extend, Array.getElem?_append, h]

theorem Rows.next_extend_add (s k : Nat) :
    (n.extend t start lead).next (n.rows.size + s) k = (t.next s k).elim [] lead := by
  have hlt : ¬ n.rows.size + s < n.rows.size := by omega
  simp only [Rows.next, Rows.extend, Table.next, Array.getD_eq_getD_getElem?, Array.getElem?_append,
    Array.getElem?_map, hlt, if_false, Nat.add_sub_cancel_left]
  cases hs : t.rows[s]? with
  | none => simp
  | some row => cases hk : row[k]? <;> simp [hk]

theorem Rows.mem_next_extend {p q k : Nat} (hq : q ∈ (n.extend t start lead).next p k) :
    (p < n.rows.size ∧ q ∈ n.next p k) ∨
      ∃ s r, p = n.rows.size + s ∧ t.next s k = some r ∧ q ∈ lead r := by
  by_cases hp : p < n.rows.size
  · rw [Rows.next_extend_of_lt hp] at hq
    exact .inl ⟨hp, hq⟩
  · obtain ⟨s, rfl⟩ := Nat.exists_eq_add_of_le (Nat.le_of_not_lt hp)
    rw [Rows.next_extend_add] at hq
    cases hr : t.next s k with
    | none => simp [hr] at hq
    | some r => exact .inr ⟨s, r, rfl, hr, by simpa [hr] using hq⟩

theorem Rows.proper_extend (hn : (n.net final).Proper classes) (ht : t.Proper classes)
    (hstart : start.Pairwise (· < ·)) (hstart_lt : ∀ p ∈ start, p < n.rows.size + t.size)
    (hlead : ∀ q, (lead q).Pairwise (· < ·))
    (hlead_lt : ∀ q < t.size, ∀ p ∈ lead q, p < n.rows.size + t.size)
    (hfresh : ∃ p ∈ start, ∀ q k, p ∉ (n.extend t start lead).next q k) :
    ((n.extend t start lead).net final').Proper classes := by
  refine ⟨hstart, ?_, ?_, ?_, .inr hfresh⟩
  · intro p hp
    show p < (n.extend t start lead).rows.size
    rw [Rows.size_extend]
    exact hstart_lt p hp
  · intro p k
    show ((n.extend t start lead).next p k).Pairwise (· < ·)
    -- A point is one of the net, or it is that of a state of the automaton.
    by_cases hp : p < n.rows.size
    · rw [Rows.next_extend_of_lt hp]
      exact hn.next_ascending p k
    · obtain ⟨s, rfl⟩ := Nat.exists_eq_add_of_le (Nat.le_of_not_lt hp)
      rw [Rows.next_extend_add]
      cases t.next s k with
      | none => exact .nil
      | some r => exact hlead r
  · intro p k q hq
    show q < (n.extend t start lead).rows.size ∧ k < classes
    rw [Rows.size_extend]
    rcases Rows.mem_next_extend hq with ⟨-, hq⟩ | ⟨s, r, -, hr, hq⟩
    · have hlt : q < n.rows.size := (hn.next_lt hq).1
      exact ⟨by omega, (hn.next_lt hq).2⟩
    · obtain ⟨-, hr, hk⟩ := ht.target hr
      exact ⟨hlead_lt r hr q hq, hk⟩

/-- The points that were there before accept what they accepted. -/
theorem Rows.ends_extend_of_lt (hn : (n.net final).Proper classes)
    (hfinal : ∀ p < n.rows.size, final' p = final p) {p : Nat} (hp : p < n.rows.size)
    (ks : List Nat) :
    ((n.extend t start lead).net final').Ends p ks ↔ (n.net final).Ends p ks := by
  induction ks generalizing p with
  | nil => simp [Net.Ends, Rows.net, hfinal p hp]
  | cons k ks ih =>
    have hnext : ((n.extend t start lead).net final').next p k = (n.net final).next p k :=
      Rows.next_extend_of_lt hp k
    simp only [Net.Ends, hnext]
    exact exists_congr fun q => and_congr_right fun hq => ih (hn.next_lt hq).1

theorem Rows.ends_extend_add {s k : Nat} {ks : List Nat} :
    ((n.extend t start lead).net final).Ends (n.rows.size + s) (k :: ks) ↔
      ∃ q, t.next s k = some q ∧ ∃ p ∈ lead q, ((n.extend t start lead).net final).Ends p ks := by
  have hnext : ((n.extend t start lead).net final).next (n.rows.size + s) k =
      (t.next s k).elim [] lead := Rows.next_extend_add s k
  simp only [Net.Ends, hnext]
  cases t.next s k <;> simp

end Extend

/-- Where a net stands when an automaton before it stands in a state. -/
def Rows.enter (t : Table) (n : Rows) (q : Nat) : Points :=
  if t.final q then n.start ++ [n.rows.size + q] else [n.rows.size + q]

theorem Rows.before_eq (t : Table) (n : Rows) :
    Rows.before t n = n.extend t (Rows.enter t n 0) (Rows.enter t n) := by
  apply Rows.eq_extend
  intro o
  cases o with
  | none => rfl
  | some q => rfl

theorem Rows.mem_enter {t : Table} {n : Rows} {p q : Nat} :
    p ∈ Rows.enter t n q ↔ (t.final q = true ∧ p ∈ n.start) ∨ p = n.rows.size + q := by
  unfold Rows.enter
  by_cases h : t.final q = true <;> simp [h]

theorem Rows.proper_before {t : Table} {n : Rows} {classes : Nat} {final final' : Nat → Bool}
    (hn : (n.net final).Proper classes) (ht : t.Proper classes) :
    ((Rows.before t n).net final').Proper classes := by
  have hlt : ∀ p ∈ n.start, p < n.rows.size := hn.start_lt
  have henter : ∀ q, (Rows.enter t n q).Pairwise (· < ·) := by
    intro q
    unfold Rows.enter
    split
    · refine List.pairwise_append.2 ⟨hn.start_ascending, List.pairwise_singleton .., ?_⟩
      intro p hp r hr
      have := hlt p hp
      rw [List.mem_singleton.1 hr]
      omega
    · exact List.pairwise_singleton ..
  have henter_lt : ∀ q < t.size, ∀ p ∈ Rows.enter t n q, p < n.rows.size + t.size := by
    intro q hq p hp
    rcases Rows.mem_enter.1 hp with ⟨-, hp⟩ | rfl
    · have := hlt p hp
      omega
    · omega
  rw [Rows.before_eq]
  apply Rows.proper_extend hn ht (henter 0) (henter_lt 0 ht.size_pos) henter henter_lt
  -- The first state of the automaton is where nothing leads.
  refine ⟨n.rows.size + 0, Rows.mem_enter.2 (.inr rfl), ?_⟩
  intro p k hp
  rcases Rows.mem_next_extend hp with ⟨-, hp⟩ | ⟨s, r, -, hr, hp⟩
  · have : n.rows.size + 0 < n.rows.size := (hn.next_lt hp).1
    omega
  · have hr0 := (ht.target hr).1
    rcases Rows.mem_enter.1 hp with ⟨-, hp⟩ | hp
    · have := hlt _ hp
      omega
    · omega

/-- Where a net stands with an automaton before it in a state, it reads to an end what the automaton
reads from that state with what the net reads behind it. -/
theorem Rows.ends_before {t : Table} {n : Rows} {classes : Nat}
    (hn : (n.net (· == 0)).Proper classes) (hpos : 0 < n.rows.size) {ks : List Nat} {s : Nat} :
    (∃ p ∈ Rows.enter t n s, ((Rows.before t n).net (· == 0)).Ends p ks) ↔
      ks ∈ t.languageAt s * (n.net (· == 0)).language := by
  induction ks generalizing s with
  | nil =>
    rw [Table.nil_mem_languageAt_mul]
    constructor
    · rintro ⟨p, hp, hend⟩
      obtain rfl : p = 0 := by simpa [Net.Ends, Rows.net] using hend
      rcases Rows.mem_enter.1 hp with ⟨hf, hp⟩ | hp
      · exact ⟨hf, 0, hp, rfl⟩
      -- The end is a point of the net, and the automaton's points come behind those.
      · omega
    · rintro ⟨hf, p, hp, hend⟩
      exact ⟨p, Rows.mem_enter.2 (.inl ⟨hf, hp⟩), hend⟩
  | cons k ks ih =>
    have hold : ∀ p ∈ n.start, ((Rows.before t n).net (· == 0)).Ends p (k :: ks) ↔
        (n.net (· == 0)).Ends p (k :: ks) := by
      intro p hp
      rw [Rows.before_eq]
      exact Rows.ends_extend_of_lt hn (fun _ _ => rfl) (hn.start_lt p hp) _
    have hnew : ((Rows.before t n).net (· == 0)).Ends (n.rows.size + s) (k :: ks) ↔
        ∃ q, t.next s k = some q ∧ ks ∈ t.languageAt q * (n.net (· == 0)).language := by
      rw [Rows.before_eq, Rows.ends_extend_add, ← Rows.before_eq]
      exact exists_congr fun q => and_congr_right fun _ => ih
    rw [Table.cons_mem_languageAt_mul, ← hnew]
    constructor
    · rintro ⟨p, hp, hend⟩
      rcases Rows.mem_enter.1 hp with ⟨hf, hp⟩ | rfl
      · exact .inr ⟨hf, p, hp, (hold p hp).1 hend⟩
      · exact .inl hend
    · rintro (hend | ⟨hf, p, hp, hend⟩)
      · exact ⟨_, Rows.mem_enter.2 (.inr rfl), hend⟩
      · exact ⟨p, Rows.mem_enter.2 (.inl ⟨hf, hp⟩), (hold p hp).2 hend⟩

/-- An automaton before a net accepts products. -/
theorem Rows.language_before {t : Table} {n : Rows} {classes : Nat}
    (hn : (n.net (· == 0)).Proper classes) (hpos : 0 < n.rows.size) :
    ((Rows.before t n).net (· == 0)).language = t.language * (n.net (· == 0)).language := by
  ext ks
  exact Rows.ends_before hn hpos

theorem Rows.next_behind (p k : Nat) : Rows.behind.next p k = [] := by
  cases p <;> simp [Rows.next, Rows.behind]

theorem Rows.proper_behind {classes : Nat} : (Rows.behind.net (· == 0)).Proper classes := by
  have hnext : ∀ p k, (Rows.behind.net (· == 0)).next p k = [] := Rows.next_behind
  refine ⟨List.pairwise_singleton .., by simp [Rows.net, Rows.behind], ?_, ?_, ?_⟩
  · intro p k
    rw [hnext]
    exact .nil
  · intro p k q hq
    rw [hnext] at hq
    cases hq
  · refine .inr ⟨0, List.mem_singleton_self 0, ?_⟩
    intro q k
    rw [hnext]
    exact List.not_mem_nil

theorem Rows.language_behind : (Rows.behind.net (· == 0)).language = 1 := by
  ext ks
  rw [Language.mem_one, Net.mem_language]
  cases ks with
  | nil => simp [Net.Ends, Rows.net, Rows.behind]
  | cons k ks =>
    have hnext : ∀ p k, (Rows.behind.net (· == 0)).next p k = [] := Rows.next_behind
    simp [Net.Ends, hnext]

theorem chain_spec {classes : Nat} {parts : List Table} (h : ∀ t ∈ parts, t.Proper classes) :
    (chain parts).Proper classes ∧ (chain parts).language = (parts.map Table.language).prod := by
  have key : ((parts.foldr Rows.before Rows.behind).net (· == 0)).Proper classes ∧
      0 < (parts.foldr Rows.before Rows.behind).rows.size ∧
      ((parts.foldr Rows.before Rows.behind).net (· == 0)).language =
        (parts.map Table.language).prod := by
    induction parts with
    | nil => exact ⟨Rows.proper_behind, by simp [Rows.behind], Rows.language_behind⟩
    | cons t parts ih =>
      obtain ⟨hp, hpos, hl⟩ := ih fun u hu => h u (List.mem_cons_of_mem t hu)
      have ht := h t List.mem_cons_self
      refine ⟨Rows.proper_before hp ht, ?_, ?_⟩
      · rw [List.foldr_cons, Rows.before_eq, Rows.size_extend]
        omega
      · rw [List.foldr_cons, Rows.language_before hp hpos, hl, List.map_cons, List.prod_cons]
  exact ⟨key.1, key.2.2⟩

/-! ## Beside each other -/

theorem Rows.beside_eq (t : Table) (n : Rows) :
    n.beside t = n.extend t (n.start ++ [n.rows.size]) (fun q => [n.rows.size + q]) := by
  apply Rows.eq_extend
  intro o
  cases o with
  | none => rfl
  | some q => rfl

/-- The net of automata beside each other, with the points where a text may end. -/
def Rows.choiceNet (n : Rows) (finals : Array Bool) : Net := n.net fun p => finals.getD p false

section Beside

variable {n : Rows} {t : Table} {finals : Array Bool} {classes : Nat}

theorem Rows.proper_beside (hn : (n.choiceNet finals).Proper classes) (ht : t.Proper classes) :
    ((n.beside t).choiceNet (finals ++ t.finals)).Proper classes := by
  have hlt : ∀ p ∈ n.start, p < n.rows.size := hn.start_lt
  have hpos := ht.size_pos
  have hstart : (n.start ++ [n.rows.size]).Pairwise (· < ·) := by
    refine List.pairwise_append.2 ⟨hn.start_ascending, List.pairwise_singleton .., ?_⟩
    intro p hp r hr
    rw [List.mem_singleton.1 hr]
    exact hlt p hp
  have hstart_lt : ∀ p ∈ n.start ++ [n.rows.size], p < n.rows.size + t.size := by
    intro p hp
    rcases List.mem_append.1 hp with hp | hp
    · have := hlt p hp
      omega
    · rw [List.mem_singleton.1 hp]
      omega
  rw [Rows.beside_eq]
  refine Rows.proper_extend hn ht hstart hstart_lt (fun q => List.pairwise_singleton ..)
    (fun q hq p hp => by rw [List.mem_singleton.1 hp]; omega) ?_
  -- The first state of the automaton is where nothing leads.
  refine ⟨n.rows.size, by simp, ?_⟩
  intro q k hq
  rcases Rows.mem_next_extend hq with ⟨-, hq⟩ | ⟨s, r, -, hr, hq⟩
  · exact Nat.lt_irrefl _ (hn.next_lt hq).1
  · have := (ht.target hr).1
    have := List.mem_singleton.1 hq
    omega

/-- The points of the net lead to each other only. -/
theorem Rows.ends_beside_of_lt (hn : (n.choiceNet finals).Proper classes)
    (hfinals : finals.size = n.rows.size) {p : Nat} (hp : p < n.rows.size) (ks : List Nat) :
    ((n.beside t).choiceNet (finals ++ t.finals)).Ends p ks ↔ (n.choiceNet finals).Ends p ks := by
  rw [Rows.beside_eq]
  refine Rows.ends_extend_of_lt hn ?_ hp ks
  intro q hq
  simp [Array.getElem?_append, hfinals, hq]

/-- So do the points of the automaton. -/
theorem Rows.ends_beside_add (hfinals : finals.size = n.rows.size) (ks : List Nat) (s : Nat) :
    ((n.beside t).choiceNet (finals ++ t.finals)).Ends (n.rows.size + s) ks ↔ t.Ends s ks := by
  induction ks generalizing s with
  | nil =>
    have hlt : ¬ n.rows.size + s < n.rows.size := by omega
    simp [Net.Ends, Table.Ends, Rows.choiceNet, Rows.net, Table.final, Array.getElem?_append,
      hfinals, hlt]
  | cons k ks ih =>
    have hstep : ((n.beside t).choiceNet (finals ++ t.finals)).Ends (n.rows.size + s) (k :: ks) ↔
        ∃ q, t.next s k = some q ∧
          ((n.beside t).choiceNet (finals ++ t.finals)).Ends (n.rows.size + q) ks := by
      rw [Rows.beside_eq, Rows.choiceNet, Rows.ends_extend_add]
      simp
    rw [hstep]
    exact exists_congr fun q => and_congr_right fun _ => ih q

/-- An automaton beside a net accepts sums. -/
theorem Rows.language_beside (hn : (n.choiceNet finals).Proper classes)
    (hfinals : finals.size = n.rows.size) :
    ((n.beside t).choiceNet (finals ++ t.finals)).language =
      (n.choiceNet finals).language + t.language := by
  have hold {p : Nat} (hp : p ∈ n.start) (ks : List Nat) :=
    Rows.ends_beside_of_lt (t := t) hn hfinals (hn.start_lt p hp) ks
  have hstart : ((n.beside t).choiceNet (finals ++ t.finals)).start = n.start ++ [n.rows.size] :=
    rfl
  ext ks
  rw [Language.mem_add, Net.mem_language, hstart]
  constructor
  · rintro ⟨p, hp, hend⟩
    rcases List.mem_append.1 hp with hp | hp
    · exact .inl ⟨p, hp, (hold hp ks).1 hend⟩
    · obtain rfl := List.mem_singleton.1 hp
      exact .inr ((Rows.ends_beside_add hfinals ks 0).1 hend)
  · rintro (⟨p, hp, hend⟩ | hend)
    · exact ⟨p, List.mem_append_left _ hp, (hold hp ks).2 hend⟩
    · exact ⟨n.rows.size, by simp, (Rows.ends_beside_add hfinals ks 0).2 hend⟩

end Beside

theorem proper_choiceNet_empty {classes : Nat} :
    (Rows.choiceNet ⟨[], #[]⟩ #[]).Proper classes := by
  have hnext : ∀ p k, (Rows.choiceNet ⟨[], #[]⟩ #[]).next p k = [] := by
    intro p k
    simp [Rows.choiceNet, Rows.net, Rows.next]
  refine ⟨.nil, by simp [Rows.choiceNet, Rows.net], ?_, ?_, .inl rfl⟩
  · intro p k
    rw [hnext]
    exact .nil
  · intro p k q hq
    rw [hnext] at hq
    cases hq

/-- The automata that were put beside each other so far are a net of their own. -/
theorem choiceNet_foldl {classes : Nat} {options : List Table} {n : Rows} {finals : Array Bool}
    (h : ∀ t ∈ options, t.Proper classes) (hn : (n.choiceNet finals).Proper classes)
    (hfinals : finals.size = n.rows.size) :
    ((options.foldl Rows.beside n).choiceNet
      (options.foldl (fun found t => found ++ t.finals) finals)).Proper classes ∧
    ((options.foldl Rows.beside n).choiceNet
      (options.foldl (fun found t => found ++ t.finals) finals)).language =
        (n.choiceNet finals).language + (options.map Table.language).sum := by
  induction options generalizing n finals with
  | nil => exact ⟨hn, (add_zero _).symm⟩
  | cons t options ih =>
    obtain ⟨ht, h⟩ := List.forall_mem_cons.1 h
    have hsize : (finals ++ t.finals).size = (n.beside t).rows.size := by
      rw [Rows.beside_eq, Rows.size_extend, Array.size_append, hfinals, ht.finals_size]
    obtain ⟨hp, hl⟩ := ih h (Rows.proper_beside hn ht) hsize
    refine ⟨hp, ?_⟩
    rw [List.foldl_cons, List.foldl_cons, hl, Rows.language_beside hn hfinals, List.map_cons,
      List.sum_cons, add_assoc]

theorem choice_spec {classes : Nat} {options : List Table} (h : ∀ t ∈ options, t.Proper classes) :
    (choice options).Proper classes ∧
      (choice options).language = (options.map Table.language).sum := by
  obtain ⟨hp, hl⟩ := choiceNet_foldl h proper_choiceNet_empty rfl
  have hempty : (Rows.choiceNet ⟨[], #[]⟩ #[]).language = 0 := by
    ext ks
    simp [Net.mem_language, Rows.choiceNet, Rows.net]
  rw [hempty, zero_add] at hl
  exact ⟨hp, hl⟩

end Net

end GuidedJson.Automaton
