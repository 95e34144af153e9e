import GuidedJson.Automaton.Machine
import GuidedJson.Proofs.Automaton.Repetition
import GuidedJson.Proofs.Pattern.Language
import Mathlib.Data.Finset.Prod

/-!
# Tables of expressions

The table of an expression accepts a text, read class by class, exactly if the expression matches
it. What is asked of the classes is that characters of one class lie in the same sets.
-/

namespace GuidedJson.Automaton

open Computability
open Pattern (CharSet Regex)

/-! ## Two tables at once -/

section Side

variable {t u : Table} {test : Bool → Bool → Bool} {classes : Nat}

/-- Whether a text may be read to an end from where an automaton stands, if it stands anywhere. -/
def Table.EndsAt (t : Table) (s : Option Nat) (ks : List Nat) : Prop :=
  ∃ q, s = some q ∧ t.Ends q ks

theorem Table.endsAt_nil {s : Option Nat} : t.EndsAt s [] ↔ t.finalAt s = true := by
  cases s <;> simp [Table.EndsAt, Table.finalAt, Table.Ends]

theorem Table.endsAt_cons {s : Option Nat} {k : Nat} {ks : List Nat} :
    t.EndsAt s (k :: ks) ↔ t.EndsAt (t.nextOf s k) ks := by
  cases s <;> simp [Table.EndsAt, Table.nextOf, Table.Ends]

theorem Table.side_next {s p : Pair} {k : Nat} :
    (t.side u test).next s k = some p ↔
      p = (t.nextOf s.1 k, u.nextOf s.2 k) ∧ p ≠ (none, none) := by
  simp only [Table.side]
  cases t.nextOf s.1 k <;> cases u.nextOf s.2 k <;> simp [eq_comm]
  all_goals
    rintro rfl
    simp

/-- Where an automaton can stand: nowhere, or in one of its states. -/
def Table.places (t : Table) : List (Option Nat) := none :: (List.range t.size).map some

theorem Table.mem_places {s : Option Nat} : s ∈ t.places ↔ ∀ q, s = some q → q < t.size := by
  cases s <;> simp [Table.places]

theorem Table.nextOf_spec (ht : t.Proper classes) {s : Option Nat} {k q : Nat}
    (h : t.nextOf s k = some q) : 0 < q ∧ q < t.size ∧ k < classes := by
  obtain ⟨p, -, hp⟩ := Option.bind_eq_some_iff.1 h
  exact ht.target hp

theorem Table.confined_side (ht : t.Proper classes) (hu : u.Proper classes) :
    (t.side u test).Confined classes ((t.size + 1) * (u.size + 1)) := by
  refine ⟨t.places.toFinset ×ˢ u.places.toFinset, ?_, ?_, ?_⟩
  · rw [Finset.card_product]
    apply Nat.mul_le_mul
    · exact (List.toFinset_card_le _).trans (by simp [Table.places])
    · exact (List.toFinset_card_le _).trans (by simp [Table.places])
  · simp [Table.side, Table.mem_places, ht.size_pos, hu.size_pos]
  · intro s _ k p hp
    obtain ⟨rfl, hne⟩ := Table.side_next.1 hp
    refine ⟨?_, ?_, ?_⟩
    · rw [Finset.mem_product, List.mem_toFinset, List.mem_toFinset, Table.mem_places,
        Table.mem_places]
      exact ⟨fun q hq => (Table.nextOf_spec ht hq).2.1, fun q hq => (Table.nextOf_spec hu hq).2.1⟩
    -- One of the two would be led back to its start.
    · intro heq
      have hstart : t.nextOf s.1 k = some 0 := congrArg Prod.fst heq
      exact Nat.lt_irrefl _ (Table.nextOf_spec ht hstart).1
    · cases hq : t.nextOf s.1 k with
      | some q => exact (Table.nextOf_spec ht hq).2.2
      | none =>
        cases hr : u.nextOf s.2 k with
        | some r => exact (Table.nextOf_spec hu hr).2.2
        | none => exact absurd (by rw [hq, hr]) hne

open Classical in
theorem Table.ends_side (htest : test false false = false) {s : Pair} {ks : List Nat} :
    (t.side u test).Ends s ks ↔ test (t.EndsAt s.1 ks) (u.EndsAt s.2 ks) = true := by
  induction ks generalizing s with
  | nil => simp [System.Ends, Table.side, Table.endsAt_nil]
  | cons k ks ih =>
    simp only [System.Ends, Table.side_next, Table.endsAt_cons, ih]
    constructor
    · rintro ⟨p, ⟨rfl, -⟩, hp⟩
      exact hp
    · intro h
      refine ⟨_, ⟨rfl, ?_⟩, h⟩
      -- Where both stand nowhere neither reads to an end, and the test is for one that does.
      intro heq
      have ht : t.nextOf s.1 k = none := congrArg Prod.fst heq
      have hu : u.nextOf s.2 k = none := congrArg Prod.snd heq
      simp [ht, hu, Table.EndsAt, htest] at h

theorem Table.proper_combine (ht : t.Proper classes) (hu : u.Proper classes) :
    (Table.combine classes test t u).Proper classes :=
  System.proper_table (Table.confined_side ht hu)

open Classical in
theorem Table.mem_language_combine (ht : t.Proper classes) (hu : u.Proper classes)
    (htest : test false false = false) {ks : List Nat} :
    ks ∈ (Table.combine classes test t u).language ↔
      test (ks ∈ t.language) (ks ∈ u.language) = true := by
  rw [Table.combine, System.language_table (Table.confined_side ht hu), System.mem_language,
    Table.ends_side htest]
  simp [Table.side, Table.EndsAt, Table.mem_language]

end Side

/-! ## Repetitions -/

section Repeated

variable {t : Table} {classes : Nat}

theorem Table.star_spec (ht : t.Proper classes) :
    ((Net.star t).table classes).Proper classes ∧
      ((Net.star t).table classes).language = t.language∗ := by
  have hstar := Net.proper_star ht
  exact ⟨Net.proper_table hstar, by rw [Net.language_table hstar, Net.language_star ht]⟩

theorem Table.times_spec (ht : t.Proper classes) (count : Nat) (optional : Bool) :
    ((Net.times t count optional).table classes).Proper classes ∧
      ((Net.times t count optional).table classes).language =
        Net.copyLanguage t optional ^ count := by
  have htimes : (Net.times t count optional).Proper classes := Net.proper_times ht
  exact ⟨Net.proper_table htimes, by rw [Net.language_table htimes, Net.language_times ht]⟩

theorem Table.chain_spec {parts : List Table} (h : ∀ t ∈ parts, t.Proper classes) :
    ((Net.chain parts).table classes).Proper classes ∧
      ((Net.chain parts).table classes).language = (parts.map Table.language).prod := by
  obtain ⟨hchain, hl⟩ := Net.chain_spec h
  exact ⟨Net.proper_table hchain, by rw [Net.language_table hchain, hl]⟩

theorem Table.choice_spec {options : List Table} (h : ∀ t ∈ options, t.Proper classes) :
    ((Net.choice options).table classes).Proper classes ∧
      ((Net.choice options).table classes).language = (options.map Table.language).sum := by
  obtain ⟨hchoice, hl⟩ := Net.choice_spec h
  exact ⟨Net.proper_table hchoice, by rw [Net.language_table hchoice, hl]⟩

/-- The copies that may follow those that must be there. -/
def Table.further (t : Table) (classes : Nat) : Option Nat → Table
  | none => (Net.star t).table classes
  | some n => (Net.times t n true).table classes

theorem Table.further_spec (ht : t.Proper classes) (least : Nat) (more : Option Nat) :
    (t.further classes more).Proper classes ∧
      t.language ^ least * (t.further classes more).language = copies t.language least more := by
  cases more with
  | none =>
    obtain ⟨hstar, hl⟩ := Table.star_spec ht
    exact ⟨hstar, congrArg (t.language ^ least * ·) hl⟩
  | some n =>
    obtain ⟨htimes, hl⟩ := Table.times_spec ht n true
    exact ⟨htimes, congrArg (t.language ^ least * ·) hl⟩

theorem Table.repeated_eq (least : Nat) (more : Option Nat) :
    t.repeated classes least more =
      if least = 0 then t.further classes more
      else if more = some 0 then (Net.times t least false).table classes
      else (Net.chain [(Net.times t least false).table classes, t.further classes more]).table
        classes := by
  cases more <;> rfl

theorem Table.repeated_spec (ht : t.Proper classes) (least : Nat) (more : Option Nat) :
    (t.repeated classes least more).Proper classes ∧
      (t.repeated classes least more).language = copies t.language least more := by
  obtain ⟨hfurther, hfurtherL⟩ := Table.further_spec ht least more
  obtain ⟨hcopies, hcopiesL⟩ := Table.times_spec ht least false
  rw [show Net.copyLanguage t false = t.language from rfl] at hcopiesL
  rw [Table.repeated_eq, ← hfurtherL]
  -- Without copies that must be there, or others behind them, no chain is made.
  by_cases h0 : least = 0
  · rw [if_pos h0, h0, pow_zero, one_mul]
    exact ⟨hfurther, rfl⟩
  · rw [if_neg h0]
    by_cases hmore : more = some 0
    · subst hmore
      rw [if_pos rfl, hfurtherL, copies, pow_zero, mul_one]
      exact ⟨hcopies, hcopiesL⟩
    · rw [if_neg hmore]
      obtain ⟨hchain, hchainL⟩ := Table.chain_spec
        (List.forall_mem_cons.2 ⟨hcopies, List.forall_mem_singleton.2 hfurther⟩)
      refine ⟨hchain, ?_⟩
      rw [hchainL, List.map_cons, List.map_singleton, List.prod_pair, hcopiesL]

end Repeated

/-! ## One symbol -/

section OfSet

variable {samples : Array Nat} {s : CharSet}

theorem Table.ofSet_next {p k q : Nat} : (Table.ofSet samples s).next p k = some q ↔
    p = 0 ∧ q = 1 ∧ ∃ h : k < samples.size, s.has samples[k] = true := by
  match p with
  | 0 =>
    by_cases hk : k < samples.size
    · by_cases hs : s.has samples[k] = true
      · simp [Table.ofSet, Table.next, hk, hs, eq_comm (a := q)]
      · simp [Table.ofSet, Table.next, hk, hs]
    · simp [Table.ofSet, Table.next, hk]
  | 1 => simp [Table.ofSet, Table.next]
  | p + 2 => simp [Table.ofSet, Table.next]

theorem Table.ofSet_final {p : Nat} : (Table.ofSet samples s).final p = true ↔ p = 1 := by
  match p with
  | 0 => simp [Table.ofSet, Table.final]
  | 1 => simp [Table.ofSet, Table.final]
  | p + 2 => simp [Table.ofSet, Table.final]

theorem Table.proper_ofSet : (Table.ofSet samples s).Proper samples.size := by
  refine ⟨Nat.succ_pos 1, rfl, ?_⟩
  intro p k q hq
  obtain ⟨-, rfl, hk, -⟩ := Table.ofSet_next.1 hq
  exact ⟨Nat.one_pos, Nat.lt_succ_self 1, hk⟩

theorem Table.mem_language_ofSet {ks : List Nat} : ks ∈ (Table.ofSet samples s).language ↔
    ∃ k, ks = [k] ∧ ∃ h : k < samples.size, s.has samples[k] = true := by
  match ks with
  | [] => simp [Table.mem_language, Table.Ends, Table.ofSet_final]
  | [k] => simp [Table.mem_language, Table.Ends, Table.ofSet_next, Table.ofSet_final]
  | k :: l :: ks => simp [Table.mem_language, Table.Ends, Table.ofSet_next]

end OfSet

/-! ## Expressions -/

mutual
/-- Sets that were found before are still found. -/
theorem mem_setsOf_of_mem {s : CharSet} {r : Regex} {found : List CharSet} (h : s ∈ found) :
    s ∈ setsOf r found := by
  cases r with
  | chars t => exact List.mem_cons_of_mem t h
  | chain parts => exact mem_setsOfAll_of_mem h
  | choice options => exact mem_setsOfAll_of_mem h
  | repeated r least more => exact mem_setsOf_of_mem (r := r) h
  | both r t => exact mem_setsOf_of_mem (r := r) (mem_setsOf_of_mem (r := t) h)
  | without r t => exact mem_setsOf_of_mem (r := r) (mem_setsOf_of_mem (r := t) h)

theorem mem_setsOfAll_of_mem {s : CharSet} {rs : List Regex} {found : List CharSet}
    (h : s ∈ found) : s ∈ setsOfAll rs found := by
  cases rs with
  | nil => exact h
  | cons r rs =>
    have hrest : s ∈ setsOfAll rs found := mem_setsOfAll_of_mem h
    exact mem_setsOf_of_mem (r := r) hrest
end

/-- A class stands for a character, as far as a set can tell. -/
def Stands (samples : Array Nat) (cls : Char → Nat) (s : CharSet) : Prop :=
  ∀ c : Char, ∃ h : cls c < samples.size, s.has samples[cls c] = s.has c.toNat

theorem readBack_language_ofSet {samples : Array Nat} {cls : Char → Nat} {s : CharSet}
    (h : Stands samples cls s) :
    readBack cls (Table.ofSet samples s).language = (Regex.chars s).language := by
  ext w
  rw [mem_readBack, Table.mem_language_ofSet, Regex.mem_language, Regex.matches_chars]
  constructor
  · rintro ⟨k, hw, hk, hs⟩
    obtain ⟨c, rfl, rfl⟩ := List.map_eq_singleton_iff.1 hw
    obtain ⟨_, hc⟩ := h c
    exact ⟨c, hc.symm.trans hs, rfl⟩
  · rintro ⟨c, hs, rfl⟩
    obtain ⟨hk, hc⟩ := h c
    exact ⟨cls c, rfl, hk, hc.trans hs⟩

mutual
/-- A table accepts the classes of the texts that its expression matches. -/
theorem tableOf_spec {samples : Array Nat} {cls : Char → Nat} {r : Regex} {found : List CharSet}
    (h : ∀ s ∈ setsOf r found, Stands samples cls s) :
    (tableOf samples r).Proper samples.size ∧
      readBack cls (tableOf samples r).language = r.language := by
  cases r with
  | chars s => exact ⟨Table.proper_ofSet, readBack_language_ofSet (h s List.mem_cons_self)⟩
  | chain parts =>
    obtain ⟨hp, hl⟩ := tablesOf_spec parts h
    obtain ⟨hchain, hchainL⟩ := Table.chain_spec hp
    refine ⟨hchain, ?_⟩
    rw [tableOf, hchainL, readBack_prod, List.map_map, Regex.language_chain, ← hl]
    rfl
  | choice options =>
    obtain ⟨hp, hl⟩ := tablesOf_spec options h
    obtain ⟨hchoice, hchoiceL⟩ := Table.choice_spec hp
    refine ⟨hchoice, ?_⟩
    rw [tableOf, hchoiceL, readBack_sum, List.map_map, Regex.language_choice, ← hl]
    rfl
  | repeated r least more =>
    obtain ⟨hp, hl⟩ := tableOf_spec (r := r) h
    obtain ⟨hrep, hrepL⟩ := Table.repeated_spec hp least more
    refine ⟨hrep, ?_⟩
    rw [tableOf, hrepL, readBack_copies, hl, Regex.language_repeated]
  | both r t =>
    obtain ⟨hr, hrL⟩ := tableOf_spec (r := r) h
    obtain ⟨ht, htL⟩ := tableOf_spec (r := t) fun s hs =>
      h s (mem_setsOf_of_mem (r := r) hs)
    refine ⟨Table.proper_combine hr ht, ?_⟩
    ext w
    rw [mem_readBack, tableOf, Table.mem_language_combine hr ht rfl, Regex.mem_language,
      Regex.matches_both, ← Regex.mem_language, ← Regex.mem_language, ← hrL, ← htL]
    simp [mem_readBack]
  | without r t =>
    obtain ⟨hr, hrL⟩ := tableOf_spec (r := r) h
    obtain ⟨ht, htL⟩ := tableOf_spec (r := t) fun s hs =>
      h s (mem_setsOf_of_mem (r := r) hs)
    refine ⟨Table.proper_combine hr ht, ?_⟩
    ext w
    rw [mem_readBack, tableOf, Table.mem_language_combine hr ht rfl, Regex.mem_language,
      Regex.matches_without, ← Regex.mem_language, ← Regex.mem_language, ← hrL, ← htL]
    simp [mem_readBack]

theorem tablesOf_spec {samples : Array Nat} {cls : Char → Nat} (rs : List Regex)
    {found : List CharSet} (h : ∀ s ∈ setsOfAll rs found, Stands samples cls s) :
    (∀ t ∈ tablesOf samples rs, t.Proper samples.size) ∧
      (tablesOf samples rs).map (fun t => readBack cls t.language) = rs.map Regex.language := by
  cases rs with
  | nil => exact ⟨by simp [tablesOf], rfl⟩
  | cons r rs =>
    obtain ⟨hr, hrL⟩ := tableOf_spec (r := r) h
    obtain ⟨hrs, hrsL⟩ := tablesOf_spec rs fun s hs => h s (mem_setsOf_of_mem (r := r) hs)
    refine ⟨List.forall_mem_cons.2 ⟨hr, hrs⟩, ?_⟩
    rw [tablesOf, List.map_cons, hrL, hrsL, List.map_cons]
end

end GuidedJson.Automaton
