import GuidedJson.Proofs.Grammar.Acceptance

/-!
# Indexing

The index of a machine is made by two loops. The first one searches the positions that tokens lead
to, from the start on; a position may wait several times in its queue, and is settled once. The
second one goes backwards from the ends among them. Neither of them is bounded, and both come to an
end: a walk stands in one of finitely many states, with at most three octets of a character.
-/

namespace GuidedJson

open Automaton (Machine Position)

namespace Grammar

/-- Tokens that are checked have an index exactly if they spell a way from the start to an end. -/
theorem index_eq_ok_iff_productive {m : Machine} {v : Vocabulary}
    {masks : Std.HashMap Position Mask} : index m v = .ok masks ↔ v.checkReadable = .ok () ∧
      Vocabulary.Trie.tokenCount v ≠ 0 ∧ m.alive Machine.start = true ∧
      Index.Productive m v Machine.origin ∧ masks = Index.masks m (.ofVocabulary v) v := by
  have hstart : Index.Spelled m v Machine.origin := ⟨[], by simp [Vocabulary.Matchable], rfl⟩
  rw [index_eq_ok]
  constructor
  · rintro ⟨hreadable, hcount, halive, rfl, horigin⟩
    exact ⟨hreadable, hcount, halive, (Index.mem_masks.1 horigin).2, rfl⟩
  · rintro ⟨hreadable, hcount, halive, hproductive, rfl⟩
    exact ⟨hreadable, hcount, halive, rfl, Index.mem_masks.2 ⟨hstart, hproductive⟩⟩

/-- Whatever the machine and the vocabulary, both loops come to an end and take no position twice.
They lead to an index if the start is productive, unless a check fails before; and the productive
positions of an index are those that matchable tokens spell from the start and from which matchable
tokens spell the way to an end. -/
theorem indexing_exact (m : Machine) (v : Vocabulary) :
    (∃ found marked,
      Ends (Search.turn (Index.tokenEdges m (.ofVocabulary v)) Index.targets) Search.next?
        (.start [Machine.origin]) found ∧
      Index.reachable m (.ofVocabulary v) = found.settled ∧
      Ends (Spread.turn fun p => (Index.predecessors found.settled).getD p []) Spread.next?
        (.start (found.settled.keys.filter m.finalAt)) marked ∧
      Index.productive m found.settled = marked.marked) ∧
    (∀ masks, index m v = .ok masks ↔ v.checkReadable = .ok () ∧
      Vocabulary.Trie.tokenCount v ≠ 0 ∧ m.alive Machine.start = true ∧
      Index.Productive m v Machine.origin ∧ masks = Index.masks m (.ofVocabulary v) v) ∧
    ∀ g : Grammar, index m v = .ok g.masks → ∀ p,
      g.isProductive p = true ↔ Index.Spelled m v p ∧ Index.Productive m v p := by
  obtain ⟨found, hfound⟩ := Index.exists_ends_reachable (m := m) (v := v)
  obtain ⟨marked, hmarked⟩ := Index.exists_ends_productive m found.settled
  refine ⟨⟨found, marked, hfound, Search.found_eq hfound, hmarked, Spread.found_eq hmarked⟩,
    fun masks => index_eq_ok_iff_productive, ?_⟩
  intro g hindex p
  obtain ⟨-, -, -, hmasks, -⟩ := index_eq_ok.1 hindex
  rw [isProductive, Std.HashMap.contains_iff_mem, hmasks, Index.mem_masks]

theorem indexing_exact_pieces : ∃ g : Grammar, index g.machine Matcher.pieces = .ok g.masks ∧
    Machine.origin ∈ g.masks ∧ ∀ p, g.isProductive p = true ↔
      Index.Spelled g.machine Matcher.pieces p ∧ Index.Productive g.machine Matcher.pieces p := by
  obtain ⟨g, hcompile⟩ := Matcher.exists_compile_pieces
  obtain ⟨-, -, -, -, hindex⟩ := compile_eq_ok.1 hcompile
  obtain ⟨-, -, -, -, horigin⟩ := index_eq_ok.1 hindex
  exact ⟨g, hindex, horigin, (indexing_exact g.machine Matcher.pieces).2.2 g hindex⟩

end Grammar

end GuidedJson
