import GuidedJson.Proofs.Grammar.Edges
import Mathlib.Data.Finset.Filter

/-!
# What the index holds

The index has the positions that matchable tokens spell from the start, as far as more of them can
spell the way to an end. The mask of such a position has the tokens that lead to another one, and
the stop tokens where a text may end.
-/

namespace GuidedJson

open Automaton (Machine Position)
open Std (HashMap HashSet)

namespace Vocabulary

/-- The octets of tokens one after the other. -/
def spell (v : Vocabulary) (ids : List Nat) : List UInt8 := ids.flatMap v.octets

variable {v : Vocabulary}

theorem octets_of_isSpecial {i : Nat} (h : v.isSpecial i = true) : v.octets i = [] := by
  rw [octets, if_pos h]

theorem isMatchable_iff {i : Nat} :
    v.isMatchable i = true ↔ i < v.size ∧ i ∉ v.stop ∧ v.octets i ≠ [] := by
  simp [isMatchable, isStop, and_assoc]

@[simp] theorem spell_nil : v.spell [] = [] := rfl

@[simp] theorem spell_cons (i : Nat) (ids : List Nat) :
    v.spell (i :: ids) = v.octets i ++ v.spell ids := rfl

@[simp] theorem spell_append (ids js : List Nat) :
    v.spell (ids ++ js) = v.spell ids ++ v.spell js := List.flatMap_append

/-- Matchable tokens one after the other. -/
def Matchable (v : Vocabulary) (ids : List Nat) : Prop := ∀ i ∈ ids, v.isMatchable i = true

theorem matchable_cons {i : Nat} {ids : List Nat} :
    v.Matchable (i :: ids) ↔ v.isMatchable i = true ∧ v.Matchable ids := List.forall_mem_cons

theorem matchable_append {ids js : List Nat} :
    v.Matchable (ids ++ js) ↔ v.Matchable ids ∧ v.Matchable js := List.forall_mem_append

end Vocabulary

namespace Index

open Vocabulary (Trie)

variable {m : Machine} {v : Vocabulary}

/-! ## Positions that tokens lead to -/

/-- Whether matchable tokens lead from the start to a position. -/
def Spelled (m : Machine) (v : Vocabulary) (p : Position) : Prop :=
  ∃ ids, v.Matchable ids ∧ m.walk Machine.origin (v.spell ids) = some p

/-- Whether matchable tokens lead from a position to an end. -/
def Productive (m : Machine) (v : Vocabulary) (p : Position) : Prop :=
  ∃ ids, v.Matchable ids ∧ ∃ q, m.walk p (v.spell ids) = some q ∧ m.finalAt q = true

theorem Spelled.walk {p q : Position} {i : Nat} (h : Spelled m v p) (hi : v.isMatchable i = true)
    (hq : m.walk p (v.octets i) = some q) : Spelled m v q := by
  obtain ⟨ids, hids, hp⟩ := h
  refine ⟨ids ++ [i], Vocabulary.matchable_append.2 ⟨hids, by simpa [Vocabulary.Matchable]⟩, ?_⟩
  rw [Vocabulary.spell_append, Machine.walk_append, hp, Option.bind_some]
  simpa using hq

theorem spelled_iff_reachedFrom {p : Position} :
    ReachedFrom (tokenEdges m (.ofVocabulary v)) targets [Machine.origin] p ↔ Spelled m v p := by
  constructor
  · rintro ⟨s, hs, hsp⟩
    obtain rfl := List.mem_singleton.1 hs
    induction hsp with
    | refl => exact ⟨[], by simp [Vocabulary.Matchable], rfl⟩
    | tail _ hbc ih =>
      obtain ⟨i, hi, hq⟩ := mem_targets_tokenEdges.1 hbc
      exact ih.walk hi hq
  · rintro ⟨ids, hids, hp⟩
    refine ⟨Machine.origin, List.mem_singleton_self _, ?_⟩
    -- The tokens may be walked from anywhere, so the start is forgotten before the induction.
    generalize Machine.origin = s at hp
    induction ids generalizing s with
    | nil =>
      cases hp
      exact .refl
    | cons i ids ih =>
      obtain ⟨hi, hids⟩ := Vocabulary.matchable_cons.1 hids
      rw [Vocabulary.spell_cons, Machine.walk_append] at hp
      obtain ⟨q, hq, hp⟩ := Option.bind_eq_some_iff.1 hp
      exact .head (mem_targets_tokenEdges.2 ⟨i, hi, hq⟩) (ih hids q hp)

/-- What is asked of found positions: they are those that tokens lead to, with their edges. -/
def Explores (m : Machine) (v : Vocabulary) (edges : HashMap Position Edges) : Prop :=
  ∀ (p : Position) (out : Edges), edges[p]? = some out ↔
    Spelled m v p ∧ out = tokenEdges m (.ofVocabulary v) p

/-- The search from the start ends, as there are no more positions to find than states and
beginnings of characters. -/
theorem exists_ends_reachable : ∃ t, Ends (Search.turn (tokenEdges m (.ofVocabulary v)) targets)
    Search.next? (Search.start [Machine.origin]) t := by
  apply Search.exists_ends m.positions
  intro p hp
  obtain ⟨ids, -, hwalk⟩ := spelled_iff_reachedFrom.1 hp
  exact Machine.walk_mem_positions hwalk

theorem explores_reachable : Explores m v (reachable m (.ofVocabulary v)) := by
  obtain ⟨t, hends⟩ := exists_ends_reachable (m := m) (v := v)
  intro p out
  rw [reachable, Search.found_eq hends, Search.getElem?_settled_iff hends, spelled_iff_reachedFrom]

theorem Explores.mem_iff {edges : HashMap Position Edges} (h : Explores m v edges) {p : Position} :
    p ∈ edges ↔ Spelled m v p := by
  rw [HashMap.mem_iff_isSome_getElem?, Option.isSome_iff_exists]
  simp only [h p]
  exact ⟨fun ⟨_, h, _⟩ => h, fun h => ⟨_, h, rfl⟩⟩

/-! ## Productive positions -/

/-- A position becomes a predecessor of all that its edges lead to. -/
theorem mem_foldl_insert {p q : Position} {x : Position} (out : Edges)
    (back : HashMap Position (List Position)) :
    p ∈ (out.foldl (fun back e => back.insert e.1 (x :: back.getD e.1 [])) back).getD q [] ↔
      p ∈ back.getD q [] ∨ p = x ∧ q ∈ targets out := by
  induction out generalizing back with
  | nil => simp [targets]
  | cons e out ih =>
    rw [List.foldl_cons, ih, HashMap.getD_insert]
    have htargets : targets (e :: out) = e.1 :: targets out := rfl
    rw [htargets, List.mem_cons]
    by_cases he : e.1 = q
    · subst he
      simp only [beq_self_eq_true, if_true, List.mem_cons, true_or, and_true]
      constructor
      · rintro ((rfl | h) | ⟨rfl, -⟩)
        · exact .inr rfl
        · exact .inl h
        · exact .inr rfl
      · rintro (h | rfl)
        · exact .inl (.inr h)
        · exact .inl (.inl rfl)
    · simp [he, Ne.symm he]

theorem mem_foldl_predecessors {p q : Position} (es : List (Position × Edges))
    (back : HashMap Position (List Position)) :
    p ∈ (es.foldl (fun back e => e.2.foldl
      (fun back f => back.insert f.1 (e.1 :: back.getD f.1 [])) back) back).getD q [] ↔
      p ∈ back.getD q [] ∨ ∃ out, (p, out) ∈ es ∧ q ∈ targets out := by
  induction es generalizing back with
  | nil => simp
  | cons e es ih =>
    obtain ⟨x, out⟩ := e
    rw [List.foldl_cons, ih, mem_foldl_insert]
    simp only [List.mem_cons, Prod.mk.injEq, or_and_right, exists_or, and_assoc,
      exists_and_left, exists_eq_left, or_assoc]

/-- The edges into a position come from the positions that have an edge to it. -/
theorem mem_predecessors {edges : HashMap Position Edges} {p q : Position} :
    p ∈ (predecessors edges).getD q [] ↔ ∃ out, edges[p]? = some out ∧ q ∈ targets out := by
  rw [predecessors, HashMap.fold_eq_foldl_toList, mem_foldl_predecessors]
  simp [HashMap.mem_toList_iff_getElem?_eq_some]

theorem nodup_ends (edges : HashMap Position Edges) : (edges.keys.filter m.finalAt).Nodup := HashMap.nodup_keys.filter _

/-- Going backwards ends, as only positions are marked that were found. -/
theorem exists_ends_productive (m : Machine) (edges : HashMap Position Edges) :
    ∃ t, Ends (Spread.turn fun p => (predecessors edges).getD p []) Spread.next?
      (Spread.start (edges.keys.filter m.finalAt)) t := by
  apply Spread.exists_ends edges.keys.toFinset (nodup_ends edges)
  intro p hp
  refine hp.induction (fun q hq => List.mem_toFinset.2 (List.mem_filter.1 hq).1) ?_
  intro q _ r hr
  obtain ⟨out, hout, -⟩ := mem_predecessors.1 hr
  rw [List.mem_toFinset, HashMap.mem_keys, HashMap.mem_iff_isSome_getElem?, hout]
  rfl

section Found

variable {edges : HashMap Position Edges} (hedges : Explores m v edges)
include hedges

theorem Explores.reachedFrom_iff {p : Position} (hp : Spelled m v p) :
    ReachedFrom (fun p => (predecessors edges).getD p []) id (edges.keys.filter m.finalAt) p ↔
      Productive m v p := by
  constructor
  · rintro ⟨f, hf, hfp⟩
    -- Edges are only found from positions that tokens lead to, so this need not be carried along.
    clear hp
    induction hfp with
    | refl =>
      exact ⟨[], by simp [Vocabulary.Matchable], f, rfl, (List.mem_filter.1 hf).2⟩
    | tail _ hbc ih =>
      obtain ⟨out, hout, hq⟩ := mem_predecessors.1 hbc
      obtain ⟨-, rfl⟩ := (hedges _ _).1 hout
      obtain ⟨i, hi, hwalk⟩ := mem_targets_tokenEdges.1 hq
      obtain ⟨ids, hids, r, hr, hf⟩ := ih
      refine ⟨i :: ids, Vocabulary.matchable_cons.2 ⟨hi, hids⟩, r, ?_, hf⟩
      rw [Vocabulary.spell_cons, Machine.walk_append, hwalk, Option.bind_some, hr]
  · rintro ⟨ids, hids, q, hq, hf⟩
    induction ids generalizing p with
    | nil =>
      cases hq
      exact .of_mem (List.mem_filter.2 ⟨HashMap.mem_keys.2 (hedges.mem_iff.2 hp), hf⟩)
    | cons i ids ih =>
      obtain ⟨hi, hids⟩ := Vocabulary.matchable_cons.1 hids
      rw [Vocabulary.spell_cons, Machine.walk_append] at hq
      obtain ⟨r, hr, hq⟩ := Option.bind_eq_some_iff.1 hq
      apply (ih (hp.walk hi hr) hids hq).tail
      apply mem_predecessors.2
      exact ⟨_, (hedges p _).2 ⟨hp, rfl⟩, mem_targets_tokenEdges.2 ⟨i, hi, hr⟩⟩

/-- Going backwards finds the positions that lead to an end, among those that tokens lead to. -/
theorem Explores.contains_productive {p : Position} (hp : Spelled m v p) :
    (productive m edges).contains p = true ↔ Productive m v p := by
  obtain ⟨t, hends⟩ := exists_ends_productive m edges
  rw [HashSet.contains_iff_mem, productive, Spread.found_eq hends,
    Spread.mem_marked_iff (nodup_ends edges) hends, hedges.reachedFrom_iff hp]

end Found

/-! ## Masks -/

section Kept

variable {β γ : Type} {good : Position → Bool} {f : Position → β → γ} {p : Position} {x : γ}

/-- Going through entries and keeping what is good. The induction is from the back: what comes last
is what is kept, and no key comes twice. -/
theorem getElem?_foldl_insert {es : List (Position × β)}
    (h : es.Pairwise fun a b => (a.1 == b.1) = false) :
    (es.foldl (fun found e => if good e.1 then found.insert e.1 (f e.1 e.2) else found)
      (∅ : HashMap Position γ))[p]? = some x ↔
      good p = true ∧ ∃ out, (p, out) ∈ es ∧ x = f p out := by
  induction es using List.reverseRecOn with
  | nil => simp
  | append_singleton es e ih =>
    obtain ⟨q, out⟩ := e
    obtain ⟨hes, -, hlast⟩ := List.pairwise_append.1 h
    simp only [List.foldl_append, List.foldl_cons, List.foldl_nil, List.mem_append,
      List.mem_singleton, Prod.mk.injEq]
    by_cases hgood : good q = true
    · rw [if_pos hgood, HashMap.getElem?_insert]
      by_cases hqp : q = p
      · subst hqp
        -- No entry before has this key, so what is inserted is all there is of it.
        have hnew : ∀ out', (q, out') ∉ es := by
          intro out' hmem
          have := hlast _ hmem _ (List.mem_singleton_self _)
          simp at this
        simp [hgood, hnew, eq_comm]
      · simp only [beq_iff_eq, hqp, if_false, ih hes, Ne.symm hqp, false_and, or_false]
    · rw [if_neg hgood, ih hes]
      by_cases hqp : q = p
      · simp [← hqp, hgood]
      · simp [Ne.symm hqp]

theorem getElem?_fold_insert {edges : HashMap Position β} :
    (edges.fold (fun found p out => if good p then found.insert p (f p out) else found)
      (∅ : HashMap Position γ))[p]? = some x ↔
      good p = true ∧ ∃ out, edges[p]? = some out ∧ x = f p out := by
  rw [HashMap.fold_eq_foldl_toList, getElem?_foldl_insert HashMap.distinct_keys_toList]
  simp only [HashMap.mem_toList_iff_getElem?_eq_some]

end Kept

/-- The tokens that are allowed at a position: those that lead to a position that leads on to an
end, and where a text may end the stop tokens. -/
def Allowed (m : Machine) (v : Vocabulary) (p : Position) (i : Nat) : Prop :=
  (v.isMatchable i = true ∧ ∃ q, m.walk p (v.octets i) = some q ∧ Productive m v q) ∨
    m.finalAt p = true ∧ i ∈ v.stop

theorem Allowed.lt_size {p : Position} {i : Nat} (h : Allowed m v p i) : i < v.size := by
  rcases h with ⟨hi, -⟩ | ⟨-, hi⟩
  · exact Vocabulary.lt_size_of_isMatchable hi
  · exact v.stop_lt i hi

theorem Explores.mem_allowedIds {edges : HashMap Position Edges} (hedges : Explores m v edges)
    {p : Position} (hp : Spelled m v p) {i : Nat} :
    i ∈ allowedIds m v (productive m edges).contains p (tokenEdges m (.ofVocabulary v) p) ↔
      Allowed m v p i := by
  rw [allowedIds, List.mem_append, List.mem_flatMap, Allowed]
  apply or_congr
  · constructor
    · rintro ⟨⟨q, ids⟩, hmem, hi⟩
      simp only at hi
      split at hi
      · rename_i hgood
        obtain ⟨hi, hwalk⟩ := leadsTo_tokenEdges.1 ⟨ids, hmem, hi⟩
        exact ⟨hi, q, hwalk, (hedges.contains_productive (hp.walk hi hwalk)).1 hgood⟩
      · simp at hi
    · rintro ⟨hi, q, hwalk, hq⟩
      obtain ⟨ids, hmem, hids⟩ := leadsTo_tokenEdges.2 ⟨hi, hwalk⟩
      refine ⟨(q, ids), hmem, ?_⟩
      show i ∈ if (productive m edges).contains q = true then ids else []
      rw [if_pos ((hedges.contains_productive (hp.walk hi hwalk)).2 hq)]
      exact hids
  · split <;> simp [*]

/-- The index has the positions that tokens lead to and on from to an end; the bits of their masks
are the tokens that are allowed. -/
theorem getElem?_masks {p : Position} {mask : Mask}
    (h : (masks m (.ofVocabulary v) v)[p]? = some mask) (i : Nat) :
    mask.test i = true ↔ Allowed m v p i := by
  rw [masks] at h
  have hedges := explores_reachable (m := m) (v := v)
  generalize reachable m (.ofVocabulary v) = edges at h hedges
  obtain ⟨-, out, hout, rfl⟩ := getElem?_fold_insert.1 h
  obtain ⟨hp, rfl⟩ := (hedges p out).1 hout
  rw [Mask.test_ofIds, decide_eq_true_iff, hedges.mem_allowedIds hp]
  intro j hj
  exact ((hedges.mem_allowedIds hp).1 hj).lt_size

theorem size_of_getElem?_masks {p : Position} {mask : Mask}
    (h : (masks m (.ofVocabulary v) v)[p]? = some mask) : mask.size = v.words := by
  rw [masks] at h
  obtain ⟨-, _, -, rfl⟩ := getElem?_fold_insert.1 h
  exact Mask.size_ofIds ..

theorem mem_masks {p : Position} :
    p ∈ masks m (.ofVocabulary v) v ↔ Spelled m v p ∧ Productive m v p := by
  rw [masks]
  have hedges := explores_reachable (m := m) (v := v)
  generalize reachable m (.ofVocabulary v) = edges at hedges
  rw [HashMap.mem_iff_isSome_getElem?, Option.isSome_iff_exists]
  simp only [getElem?_fold_insert]
  constructor
  · rintro ⟨_, hgood, out, hout, rfl⟩
    have hp := ((hedges p out).1 hout).1
    exact ⟨hp, (hedges.contains_productive hp).1 hgood⟩
  · rintro ⟨hp, hprod⟩
    exact ⟨_, (hedges.contains_productive hp).2 hprod, _, (hedges p _).2 ⟨hp, rfl⟩, rfl⟩

end Index

end GuidedJson
