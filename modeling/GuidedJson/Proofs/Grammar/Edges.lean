import GuidedJson.Grammar.Index
import GuidedJson.Proofs.Automaton.Walks
import GuidedJson.Proofs.Reachability
import GuidedJson.Proofs.Vocabulary.Trie

/-!
# Edges of tokens

The edges that leave a position are the matchable tokens whose octets walk on from it. Walking the
trie finds the same tokens as walking each token by itself.
-/

namespace GuidedJson.Index

open Automaton (Machine Position)
open Std (HashMap)
open Vocabulary (Trie)

/-! ## Tokens on edges -/

/-- Whether a token leads to a position. -/
def LeadsTo (edges : Edges) (i : Nat) (q : Position) : Prop := ∃ ids, (q, ids) ∈ edges ∧ i ∈ ids

theorem not_leadsTo_nil {i : Nat} {q : Position} : ¬ LeadsTo [] i q := by
  simp [LeadsTo]

theorem leadsTo_addEdge {edges : Edges} {p q : Position} {ids : List Nat} {i : Nat} :
    LeadsTo (addEdge p ids edges) i q ↔ LeadsTo edges i q ∨ q = p ∧ i ∈ ids := by
  induction edges with
  | nil => simp [LeadsTo, addEdge]
  | cons e edges ih =>
    obtain ⟨r, js⟩ := e
    unfold addEdge
    by_cases hr : r = p
    · simp only [if_pos hr, LeadsTo, List.mem_cons, Prod.mk.injEq, or_and_right, exists_or,
        and_assoc, exists_and_left, exists_eq_left, List.mem_append]
      subst hr
      constructor
      · rintro (⟨hq, hi | hi⟩ | h)
        · exact .inl (.inl ⟨hq, hi⟩)
        · exact .inr ⟨hq, hi⟩
        · exact .inl (.inr h)
      · rintro ((⟨hq, hi⟩ | h) | ⟨hq, hi⟩)
        · exact .inl ⟨hq, .inl hi⟩
        · exact .inr h
        · exact .inl ⟨hq, .inr hi⟩
    · simp only [LeadsTo] at ih
      simp only [if_neg hr, LeadsTo, List.mem_cons, or_and_right, exists_or, ih, or_assoc]

/-- Every edge has a token. -/
def Filled (edges : Edges) : Prop := ∀ e ∈ edges, e.2 ≠ []

theorem Filled.addEdge {edges : Edges} {p : Position} {ids : List Nat} (h : Filled edges)
    (hids : ids ≠ []) : Filled (addEdge p ids edges) := by
  induction edges with
  | nil => simpa [Filled, Index.addEdge] using hids
  | cons e edges ih =>
    obtain ⟨r, js⟩ := e
    obtain ⟨hjs, hrest⟩ := List.forall_mem_cons.1 h
    unfold Index.addEdge
    split
    · exact List.forall_mem_cons.2 ⟨by simp [hids], hrest⟩
    · exact List.forall_mem_cons.2 ⟨hjs, ih hrest⟩

theorem Filled.mem_targets {edges : Edges} (h : Filled edges) {q : Position} :
    q ∈ targets edges ↔ ∃ i, LeadsTo edges i q := by
  rw [targets, List.mem_map]
  constructor
  · rintro ⟨⟨p, ids⟩, he, rfl⟩
    obtain ⟨i, hi⟩ := List.exists_mem_of_ne_nil ids (h _ he)
    exact ⟨i, ids, he, hi⟩
  · rintro ⟨i, ids, he, -⟩
    exact ⟨(q, ids), he, rfl⟩

/-! ## Walking a trie -/

variable {m : Machine}

mutual
/-- The induction follows the trie: below a child lie the tokens that go on with its octet. -/
theorem leadsTo_ends {t : Trie} {p q : Position} {found : Edges} {i : Nat} (h : Filled found) :
    Filled (ends m p t found) ∧ (LeadsTo (ends m p t found) i q ↔
      LeadsTo found i q ∨ ∃ bs, Trie.Holds bs t i ∧ m.walk p bs = some q) := by
  obtain ⟨ids, children⟩ := t
  have hfilled : Filled (if ids.isEmpty then found else addEdge p ids found) := by
    split
    · exact h
    · rename_i hids
      exact h.addEdge (by simpa using hids)
  have hhere : LeadsTo (if ids.isEmpty then found else addEdge p ids found) i q ↔
      LeadsTo found i q ∨ i ∈ ids ∧ p = q := by
    split
    · rename_i hids
      simp [List.isEmpty_iff.1 hids]
    · rw [leadsTo_addEdge, and_comm, eq_comm]
  obtain ⟨hchildren, hbelow⟩ := leadsTo_childEnds children (p := p) (q := q) (i := i) hfilled
  unfold ends
  refine ⟨hchildren, ?_⟩
  rw [hbelow, hhere, or_assoc]
  apply or_congr_right
  -- A token ends at this node, or it goes on with the octet of a child.
  constructor
  · rintro (⟨hi, hpq⟩ | ⟨b, bs, c, hc, hbs, hwalk⟩)
    · exact ⟨[], hi, by rw [Machine.walk_nil, hpq]⟩
    · exact ⟨b :: bs, ⟨c, hc, hbs⟩, hwalk⟩
  · rintro ⟨bs, hbs, hwalk⟩
    cases bs with
    | nil => exact .inl ⟨hbs, by simpa using hwalk⟩
    | cons b bs =>
      obtain ⟨c, hc, hbs⟩ := hbs
      exact .inr ⟨b, bs, c, hc, hbs, hwalk⟩

theorem leadsTo_childEnds (children : List (UInt8 × Trie)) {p q : Position} {found : Edges}
    {i : Nat} (h : Filled found) : Filled (childEnds m p children found) ∧
      (LeadsTo (childEnds m p children found) i q ↔ LeadsTo found i q ∨
        ∃ b bs c, (b, c) ∈ children ∧ Trie.Holds bs c i ∧ m.walk p (b :: bs) = some q) := by
  cases children with
  | nil => simpa [childEnds] using h
  | cons child rest =>
    obtain ⟨b, t⟩ := child
    simp only [childEnds, List.mem_cons, Prod.mk.injEq, or_and_right, exists_or]
    cases hb : m.consume p b with
    | none =>
      -- No token below this child is walked.
      obtain ⟨hfilled, hrest⟩ := leadsTo_childEnds rest (p := p) (q := q) (i := i) h
      refine ⟨hfilled, hrest.trans (or_congr_right ?_)⟩
      constructor
      · exact .inr
      · rintro (⟨_, bs, _, ⟨rfl, rfl⟩, -, hwalk⟩ | h)
        · simp [Machine.walk, hb] at hwalk
        · exact h
    | some r =>
      obtain ⟨hfirst, hmem⟩ := leadsTo_ends (t := t) (p := r) (q := q) (i := i) h
      obtain ⟨hfilled, hrest⟩ := leadsTo_childEnds rest (p := p) (q := q) (i := i) hfirst
      refine ⟨hfilled, ?_⟩
      rw [hrest, hmem, or_assoc]
      apply or_congr_right
      apply or_congr_left
      constructor
      · rintro ⟨bs, hbs, hwalk⟩
        exact ⟨b, bs, t, ⟨rfl, rfl⟩, hbs, by simpa [Machine.walk, hb] using hwalk⟩
      · rintro ⟨_, bs, _, ⟨rfl, rfl⟩, hbs, hwalk⟩
        exact ⟨bs, hbs, by simpa [Machine.walk, hb] using hwalk⟩
end

variable {v : Vocabulary}

theorem filled_tokenEdges {trie : Trie} {p : Position} : Filled (tokenEdges m trie p) :=
  (leadsTo_childEnds _ (i := 0) (q := p) (by simp [Filled])).1

/-- The edges that leave a position are the matchable tokens that are walked from it. -/
theorem leadsTo_tokenEdges {p q : Position} {i : Nat} :
    LeadsTo (tokenEdges m (.ofVocabulary v) p) i q ↔
      v.isMatchable i = true ∧ m.walk p (v.octets i) = some q := by
  rw [tokenEdges, (leadsTo_childEnds _ (by simp [Filled])).2]
  constructor
  · rintro (h | ⟨b, bs, c, hc, hbs, hwalk⟩)
    · exact absurd h not_leadsTo_nil
    · have hholds : Trie.Holds (b :: bs) (.ofVocabulary v) i := ⟨c, hc, hbs⟩
      obtain ⟨hi, hoctets⟩ := Trie.holds_ofVocabulary.1 hholds
      exact ⟨hi, hoctets ▸ hwalk⟩
  · rintro ⟨hi, hwalk⟩
    have hholds : Trie.Holds (v.octets i) (.ofVocabulary v) i := Trie.holds_ofVocabulary.2 ⟨hi, rfl⟩
    cases hoctets : v.octets i with
    | nil => simp [Vocabulary.isMatchable, hoctets] at hi
    | cons b bs =>
      rw [hoctets] at hholds hwalk
      obtain ⟨c, hc, hbs⟩ := hholds
      exact .inr ⟨b, bs, c, hc, hbs, hwalk⟩

theorem mem_targets_tokenEdges {p q : Position} :
    q ∈ targets (tokenEdges m (.ofVocabulary v) p) ↔
      ∃ i, v.isMatchable i = true ∧ m.walk p (v.octets i) = some q := by
  rw [filled_tokenEdges.mem_targets]
  exact exists_congr fun _ => leadsTo_tokenEdges

end GuidedJson.Index
