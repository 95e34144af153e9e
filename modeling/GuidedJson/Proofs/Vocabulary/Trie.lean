import GuidedJson.Vocabulary.Trie
import Mathlib.Tactic.Common

/-!
# What tries hold

A trie holds an id at a string of octets if a walk along the octets ends at a node with that id.
Adding a token adds it at its octets and nothing else, so the trie of a vocabulary holds every
matchable token at what it puts out.
-/

namespace GuidedJson.Vocabulary

theorem lt_size_of_isMatchable {v : Vocabulary} {i : Nat} (h : v.isMatchable i = true) :
    i < v.size := by
  simp only [isMatchable, Bool.and_eq_true, decide_eq_true_eq] at h
  exact h.1.1

namespace Trie

/-- Whether a trie holds an id at some octets. -/
def Holds : List UInt8 → Trie → Nat → Prop
  | [], t, i => i ∈ t.ids
  | b :: bs, t, i => ∃ c, (b, c) ∈ t.children ∧ Holds bs c i

theorem not_holds_empty {bs : List UInt8} {i : Nat} : ¬ Holds bs empty i := by
  cases bs <;> simp [Holds, empty, ids, children]

/-- Changing the child of an octet adds to what the children hold at that octet what the change
adds to every child, the empty one included. -/
theorem exists_mem_changeChild {P : Trie → Prop} {Q : Prop} {a b : UInt8} {f : Trie → Trie}
    (hf : ∀ t, P (f t) ↔ P t ∨ Q) (hempty : ¬ P empty) (children : List (UInt8 × Trie)) :
    (∃ t, (a, t) ∈ changeChild b f children ∧ P t) ↔
      (∃ t, (a, t) ∈ children ∧ P t) ∨ a = b ∧ Q := by
  induction children with
  | nil =>
    simp only [changeChild, List.mem_singleton, Prod.mk.injEq, List.not_mem_nil, false_and,
      exists_false, false_or]
    constructor
    · rintro ⟨t, ⟨hab, rfl⟩, ht⟩
      exact ⟨hab, ((hf empty).1 ht).resolve_left hempty⟩
    · rintro ⟨hab, hq⟩
      exact ⟨f empty, ⟨hab, rfl⟩, (hf empty).2 (.inr hq)⟩
  | cons child children ih =>
    obtain ⟨c, u⟩ := child
    unfold changeChild
    by_cases hc : c = b
    -- The first child of the octet is changed, and those behind it stay as they are.
    · simp only [if_pos hc, List.mem_cons, Prod.mk.injEq, or_and_right, exists_or]
      constructor
      · rintro (⟨t, ⟨hac, rfl⟩, ht⟩ | h)
        · rcases (hf u).1 ht with hu | hq
          · exact .inl (.inl ⟨u, ⟨hac, rfl⟩, hu⟩)
          · exact .inr ⟨hac.trans hc, hq⟩
        · exact .inl (.inr h)
      · rintro ((⟨t, ⟨hac, rfl⟩, ht⟩ | h) | ⟨hab, hq⟩)
        · exact .inl ⟨f t, ⟨hac, rfl⟩, (hf t).2 (.inl ht)⟩
        · exact .inr h
        · exact .inl ⟨f u, ⟨hab.trans hc.symm, rfl⟩, (hf u).2 (.inr hq)⟩
    · simp only [if_neg hc, List.mem_cons, or_and_right, exists_or, ih, or_assoc]

/-- Adding a token adds it at its octets. -/
theorem holds_insert {j i : Nat} {bs cs : List UInt8} {t : Trie} :
    Holds cs (t.insert j bs) i ↔ Holds cs t i ∨ cs = bs ∧ i = j := by
  induction bs generalizing cs t with
  | nil =>
    obtain ⟨ids, children⟩ := t
    cases cs with
    | nil => simp [Holds, insert, Trie.ids]
    | cons c cs => simp [Holds, insert, Trie.children]
  | cons b bs ih =>
    obtain ⟨ids, children⟩ := t
    cases cs with
    | nil => simp [Holds, insert, Trie.ids]
    | cons c cs =>
      have hchange := exists_mem_changeChild (P := (Holds cs · i)) (Q := cs = bs ∧ i = j) (a := c)
        (b := b) (f := insert j bs) (fun _ => ih) not_holds_empty children
      simp only [Holds, insert, Trie.children, List.cons.injEq, and_assoc]
      exact hchange

/-- Adding tokens adds those of them that are matchable. -/
theorem holds_foldl_insert {v : Vocabulary} {bs : List UInt8} {i : Nat} (tokens : List Nat)
    (t : Trie) : Holds bs (tokens.foldl
        (fun t i => if v.isMatchable i then t.insert i (v.octets i) else t) t) i ↔
      Holds bs t i ∨ i ∈ tokens ∧ v.isMatchable i = true ∧ bs = v.octets i := by
  induction tokens generalizing t with
  | nil => simp
  | cons j tokens ih =>
    rw [List.foldl_cons, ih, List.mem_cons]
    by_cases hj : v.isMatchable j = true
    · rw [if_pos hj, holds_insert]
      constructor
      · rintro ((h | ⟨hbs, rfl⟩) | ⟨hi, h⟩)
        · exact .inl h
        · exact .inr ⟨.inl rfl, hj, hbs⟩
        · exact .inr ⟨.inr hi, h⟩
      · rintro (h | ⟨rfl | hi, h⟩)
        · exact .inl (.inl h)
        · exact .inl (.inr ⟨h.2, rfl⟩)
        · exact .inr ⟨hi, h⟩
    · rw [if_neg hj]
      constructor
      · rintro (h | ⟨hi, h⟩)
        · exact .inl h
        · exact .inr ⟨.inr hi, h⟩
      · rintro (h | ⟨rfl | hi, h⟩)
        · exact .inl h
        · exact absurd h.1 hj
        · exact .inr ⟨hi, h⟩

/-- The trie of a vocabulary holds the matchable tokens at their octets. -/
theorem holds_ofVocabulary {v : Vocabulary} {bs : List UInt8} {i : Nat} :
    Holds bs (ofVocabulary v) i ↔ v.isMatchable i = true ∧ bs = v.octets i := by
  rw [ofVocabulary, holds_foldl_insert]
  constructor
  · rintro (h | ⟨-, h⟩)
    · exact absurd h not_holds_empty
    · exact h
  · intro h
    exact .inr ⟨List.mem_range.2 (lt_size_of_isMatchable h.1), h⟩

/-! ## Entries -/

mutual
/-- The ids that a trie stores, each with its octets. -/
def entries : Trie → List (List UInt8 × Nat)
  | .node ids children => ids.map ([], ·) ++ childEntries children

def childEntries : List (UInt8 × Trie) → List (List UInt8 × Nat)
  | [] => []
  | (b, t) :: rest => t.entries.map (fun (bs, i) => (b :: bs, i)) ++ childEntries rest
end

theorem entries_eq (t : Trie) : t.entries = t.ids.map ([], ·) ++ childEntries t.children := by
  obtain ⟨ids, children⟩ := t
  rw [entries, Trie.ids, Trie.children]

theorem entries_empty : empty.entries = [] := by simp [empty, entries, childEntries]

theorem childEntries_changeChild {b : UInt8} {f : Trie → Trie} {bs : List UInt8} {id : Nat}
    (hf : ∀ t, ((f t).entries).Perm ((bs, id) :: t.entries)) (children : List (UInt8 × Trie)) :
    (childEntries (changeChild b f children)).Perm ((b :: bs, id) :: childEntries children) := by
  induction children with
  | nil =>
    have hempty := (hf empty).map fun (cs, i) => (b :: cs, i)
    simpa [changeChild, childEntries, entries_empty] using hempty
  | cons child children ih =>
    obtain ⟨c, t⟩ := child
    unfold changeChild
    by_cases hc : c = b
    · subst hc
      rw [if_pos rfl, childEntries, childEntries]
      exact ((hf t).map _).append_right _
    · rw [if_neg hc, childEntries, childEntries]
      exact (ih.append_left _).trans List.perm_middle

/-- Adding a token adds one entry. -/
theorem entries_insert (id : Nat) (bs : List UInt8) (t : Trie) :
    (t.insert id bs).entries.Perm ((bs, id) :: t.entries) := by
  induction bs generalizing t with
  | nil =>
    obtain ⟨ids, children⟩ := t
    rw [insert, entries, entries, List.map_append, List.append_assoc]
    exact List.perm_middle
  | cons b bs ih =>
    obtain ⟨ids, children⟩ := t
    rw [insert, entries, entries]
    exact ((childEntries_changeChild ih children).append_left _).trans List.perm_middle

theorem entries_foldl_insert {v : Vocabulary} (tokens : List Nat) (t : Trie) :
    (tokens.foldl
      (fun t i => if v.isMatchable i then t.insert i (v.octets i) else t) t).entries.Perm
      ((tokens.filter v.isMatchable).map (fun i => (v.octets i, i)) ++ t.entries) := by
  induction tokens generalizing t with
  | nil => rfl
  | cons j tokens ih =>
    rw [List.foldl_cons]
    refine (ih _).trans ?_
    by_cases hj : v.isMatchable j = true
    · rw [if_pos hj, List.filter_cons_of_pos hj]
      exact ((entries_insert j (v.octets j) t).append_left _).trans List.perm_middle
    · rw [if_neg hj, List.filter_cons_of_neg hj]

/-- The trie of a vocabulary stores the matchable tokens, each once. -/
theorem entries_ofVocabulary (v : Vocabulary) : (ofVocabulary v).entries.Perm
    (((List.range v.size).filter v.isMatchable).map fun i => (v.octets i, i)) := by
  have h := entries_foldl_insert (v := v) (List.range v.size) empty
  rwa [entries_empty, List.append_nil] at h

end Trie

end GuidedJson.Vocabulary
