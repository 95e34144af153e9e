import GuidedJson.Proofs.Automaton.Classes
import GuidedJson.Proofs.Reachability

/-!
# States that are alive

The search backwards from the states where a text may end finds the states from which some text can
be ended.
-/

namespace GuidedJson.Automaton

namespace Table

variable {t : Table}

/-! ## Predecessors -/

/-- A state becomes a predecessor of one that it leads to. -/
def addPredecessor (s : Nat) (back : Array (List Nat)) : Option Nat → Array (List Nat)
  | some q => back.modify q (s :: ·)
  | none => back

theorem predecessors_eq : t.predecessors = (List.range t.size).foldl
    (fun back s => (t.rows.getD s #[]).toList.foldl (addPredecessor s) back)
    (Array.replicate t.size []) := by
  simp only [predecessors, Array.foldl_toList]
  rfl

/-- A state becomes a predecessor of all that its row leads to. -/
theorem mem_foldl_row {s x p : Nat} (row : List (Option Nat)) (back : Array (List Nat)) :
    (row.foldl (addPredecessor s) back).size = back.size ∧
      (x ∈ (row.foldl (addPredecessor s) back).getD p [] ↔
        x ∈ back.getD p [] ∨ x = s ∧ p < back.size ∧ some p ∈ row) := by
  induction row generalizing back with
  | nil => simp
  | cons q row ih =>
    rw [List.foldl_cons]
    cases q with
    | none => simpa [addPredecessor] using ih back
    | some q =>
      obtain ⟨hsize, hmem⟩ := ih (back.modify q (s :: ·))
      refine ⟨hsize.trans (by simp), ?_⟩
      -- Only the list of the state that the entry leads to changes, if there is such a state.
      have hget : x ∈ (back.modify q (s :: ·)).getD p [] ↔
          x ∈ back.getD p [] ∨ x = s ∧ p < back.size ∧ p = q := by
        simp only [Array.getD_eq_getD_getElem?, Array.getElem?_modify]
        by_cases hq : q = p
        · subst hq
          by_cases hlt : q < back.size
          · simp [hlt, or_comm]
          · simp [hlt]
        · simp [hq, Ne.symm hq]
      rw [addPredecessor, hmem, hget, Array.size_modify, List.mem_cons, Option.some.injEq]
      constructor
      · rintro ((h | ⟨hx, hlt, hpq⟩) | ⟨hx, hlt, hrow⟩)
        · exact .inl h
        · exact .inr ⟨hx, hlt, .inl hpq⟩
        · exact .inr ⟨hx, hlt, .inr hrow⟩
      · rintro (h | ⟨hx, hlt, hpq | hrow⟩)
        · exact .inl (.inl h)
        · exact .inl (.inr ⟨hx, hlt, hpq⟩)
        · exact .inr ⟨hx, hlt, hrow⟩

theorem some_mem_row {s q : Nat} :
    some q ∈ (t.rows.getD s #[]).toList ↔ ∃ k, t.next s k = some q := by
  rw [List.mem_iff_getElem?]
  apply exists_congr
  intro k
  rw [next, Array.getElem?_toList, Array.getD_eq_getD_getElem? (i := k)]
  cases h : (t.rows.getD s #[])[k]? with
  | none => simp
  | some p => simp

/-- Every state becomes a predecessor of all that its row leads to. -/
theorem mem_foldl_rows {s q : Nat} (states : List Nat) (back : Array (List Nat)) :
    s ∈ (states.foldl (fun back s => (t.rows.getD s #[]).toList.foldl (addPredecessor s) back)
      back).getD q [] ↔
      s ∈ back.getD q [] ∨ s ∈ states ∧ q < back.size ∧ ∃ k, t.next s k = some q := by
  induction states generalizing back with
  | nil => simp
  | cons p states ih =>
    obtain ⟨hsize, hmem⟩ := mem_foldl_row (s := p) (x := s) (p := q) (t.rows.getD p #[]).toList back
    rw [List.foldl_cons, ih, hsize, hmem, List.mem_cons, some_mem_row]
    constructor
    · rintro ((h | ⟨rfl, hlt, hk⟩) | ⟨hs, hlt, hk⟩)
      · exact .inl h
      · exact .inr ⟨.inl rfl, hlt, hk⟩
      · exact .inr ⟨.inr hs, hlt, hk⟩
    · rintro (h | ⟨rfl | hs, hlt, hk⟩)
      · exact .inl (.inl h)
      · exact .inl (.inr ⟨rfl, hlt, hk⟩)
      · exact .inr ⟨hs, hlt, hk⟩

theorem mem_predecessors {s q : Nat} :
    s ∈ t.predecessors.getD q [] ↔ s < t.size ∧ q < t.size ∧ ∃ k, t.next s k = some q := by
  have hempty : (Array.replicate t.size ([] : List Nat)).getD q [] = [] := by
    rw [Array.getD_eq_getD_getElem?, Array.getElem?_replicate]
    split <;> rfl
  rw [predecessors_eq, mem_foldl_rows, hempty, Array.size_replicate, List.mem_range]
  simp

/-! ## Living states -/

variable {classes : Nat}

/-- Going backwards from the states where a text may end, exactly the states are found from which
one can be ended. -/
theorem reachedFrom_finals (ht : t.Proper classes) {s : Nat} (hs : s < t.size) :
    ReachedFrom (fun s => t.predecessors.getD s []) id ((List.range t.size).filter t.final) s ↔
      ∃ ks, t.Ends s ks := by
  constructor
  · rintro ⟨f, hf, hfs⟩
    induction hfs with
    | refl => exact ⟨[], (List.mem_filter.1 hf).2⟩
    | tail _ hbc ih =>
      obtain ⟨-, hlt, k, hk⟩ := mem_predecessors.1 hbc
      obtain ⟨ks, hks⟩ := ih hlt
      exact ⟨k :: ks, _, hk, hks⟩
  · rintro ⟨ks, hks⟩
    induction ks generalizing s with
    | nil => exact .of_mem (List.mem_filter.2 ⟨List.mem_range.2 hs, hks⟩)
    | cons k ks ih =>
      obtain ⟨q, hq, hks⟩ := hks
      have hlt := (ht.target hq).2.1
      exact (ih hlt hks).tail (mem_predecessors.2 ⟨hs, hlt, k, hq⟩)

theorem living_eq_true_iff (ht : t.Proper classes) {s : Nat} :
    t.living.getD s false = true ↔ s < t.size ∧ ∃ ks, t.Ends s ks := by
  have harea : ∀ s, ReachedFrom (fun s => t.predecessors.getD s []) id
      ((List.range t.size).filter t.final) s → s ∈ Finset.range t.size := by
    intro s hs
    refine hs.induction (fun q hq => ?_) (fun q _ p hp => ?_)
    · exact Finset.mem_range.2 (List.mem_range.1 (List.mem_filter.1 hq).1)
    · exact Finset.mem_range.2 (mem_predecessors.1 hp).1
  have hnodup : ((List.range t.size).filter t.final).Nodup := List.nodup_range.filter _
  obtain ⟨u, hends⟩ := Spread.exists_ends _ hnodup harea
  by_cases hs : s < t.size
  · have hget : t.living.getD s false = u.marked.contains s := by
      simp only [living, Spread.found_eq hends]
      simp [Array.getD_eq_getD_getElem?, hs]
    rw [hget, Std.HashSet.contains_iff_mem, Spread.mem_marked_iff hnodup hends, reachedFrom_finals ht hs]
    exact ⟨fun h => ⟨hs, h⟩, fun h => h.2⟩
  · simp [living, Array.getD_eq_getD_getElem?, hs]

end Table

/-! ## Machines -/

namespace Machine

open Pattern (Regex)

/-- What holds of the machine of an expression: its segments and its table are in order, and its
living states are those from which a text of classes can be ended. -/
structure Made (m : Machine) (classes : Nat) : Prop where
  ordered : m.alphabet.Ordered
  proper : m.table.Proper classes
  living : m.living = m.table.living

theorem tableOf_ofRegex (r : Regex) :
    (Machine.ofRegex r).table.Proper (Alphabet.ofRegex r).samples.size ∧
      readBack (fun c => (Alphabet.ofRegex r).classOf c.toNat) (Machine.ofRegex r).table.language =
        r.language := by
  have hstands : ∀ s ∈ setsOf r [], Stands (Alphabet.ofRegex r).samples
      (fun c => (Alphabet.ofRegex r).classOf c.toNat) s := fun _ hs => Alphabet.stands_ofSets hs
  exact tableOf_spec hstands

theorem made_ofRegex (r : Regex) :
    (Machine.ofRegex r).Made (Alphabet.ofRegex r).samples.size :=
  ⟨Alphabet.ordered_ofSets _, (tableOf_ofRegex r).1, rfl⟩

variable {m : Machine} {classes : Nat}

theorem Made.alive_iff (hm : m.Made classes) {s : Nat} :
    m.alive s = true ↔ s < m.table.size ∧ ∃ ks, m.table.Ends s ks := by
  rw [alive, hm.living, Table.living_eq_true_iff hm.proper]

/-- A step is taken wherever a text can still be ended behind it. -/
theorem Made.stepClass_eq_some_iff (hm : m.Made classes) {s k q : Nat} :
    m.stepClass s k = some q ↔ m.table.next s k = some q ∧ ∃ ks, m.table.Ends q ks := by
  rw [stepClass, Option.filter_eq_some_iff, hm.alive_iff]
  exact and_congr_right fun h => ⟨fun hq => hq.2, fun hq => ⟨(hm.proper.target h).2.1, hq⟩⟩

/-- The machine walks a text to where it may end exactly if the table accepts its classes. -/
theorem Made.run_final_iff (hm : m.Made classes) {s : Nat} {w : List Char} :
    (∃ q, m.run s w = some q ∧ m.final q = true) ↔
      m.table.Ends s (w.map fun c => m.alphabet.classOf c.toNat) := by
  induction w generalizing s with
  | nil => simp [Machine.final, Table.Ends]
  | cons c w ih =>
    rw [List.map_cons, Table.Ends, Machine.run]
    constructor
    · rintro ⟨q, hq, hf⟩
      obtain ⟨p, hp, hq⟩ := Option.bind_eq_some_iff.1 hq
      exact ⟨p, (hm.stepClass_eq_some_iff.1 hp).1, ih.1 ⟨q, hq, hf⟩⟩
    -- The table reads the rest of the text to an end, so the state behind the step is alive.
    · rintro ⟨p, hp, hends⟩
      obtain ⟨q, hq, hf⟩ := ih.2 hends
      have hstep : m.step s c = some p := hm.stepClass_eq_some_iff.2 ⟨hp, _, hends⟩
      exact ⟨q, by rw [hstep, Option.bind_some, hq], hf⟩

/-- What is read to an end behind a text is read to an end behind its classes. -/
theorem Made.ends_append (hm : m.Made classes) {s q : Nat} {w : List Char} {ks : List Nat}
    (h : m.run s w = some q) (hends : m.table.Ends q ks) :
    m.table.Ends s (w.map (fun c => m.alphabet.classOf c.toNat) ++ ks) := by
  induction w generalizing s with
  | nil =>
    cases h
    exact hends
  | cons c w ih =>
    obtain ⟨p, hp, hq⟩ := Option.bind_eq_some_iff.1 h
    exact ⟨p, (hm.stepClass_eq_some_iff.1 hp).1, ih hq⟩

/-- A state that a character leaves can be left by one between any code points that enclose it. -/
theorem Made.canRead_of_step (hm : m.Made classes) {s q low high : Nat} {c : Char}
    (h : m.step s c = some q) (hlow : low ≤ c.toNat) (hhigh : c.toNat ≤ high) :
    m.canRead s low high = true := by
  have hany : ((m.alphabet.classesBetween low high).any fun k =>
      (m.stepClass s k).isSome) = true := by
    refine List.any_eq_true.2 ⟨_, hm.ordered.classOf_mem_classesBetween hlow hhigh, ?_⟩
    exact Option.isSome_iff_exists.2 ⟨q, h⟩
  simp [canRead, hany]

theorem mem_language_ofRegex {r : Regex} {w : List Char} :
    (∃ q, (Machine.ofRegex r).run Machine.start w = some q ∧ (Machine.ofRegex r).final q = true) ↔
      r.Matches w := by
  rw [(made_ofRegex r).run_final_iff, ← Regex.mem_language, ← (tableOf_ofRegex r).2]
  rfl

end Machine

end GuidedJson.Automaton
