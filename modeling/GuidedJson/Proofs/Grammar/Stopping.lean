import GuidedJson.Proofs.Grammar.Masks
import GuidedJson.Proofs.Mask.Packing

/-!
# Where a text may stop

A matcher can be asked of its position whether a text may stop, or of the stop tokens in its mask,
whose words are signed numbers that are read bit by bit. Both give one answer as long as there is a
stop token. Without one nothing is found in the mask, while the position may well be an end.
-/

namespace GuidedJson

namespace Matcher

/-! ## The two answers -/

/-- What it means that a matcher answers `b` of its position and `c` of its mask when it is asked
whether a text may stop: `c` is whether some stop token is in the mask `k` that it fills, and `b`
says the same unless there is no stop token at all. -/
structure MayStop (m : Matcher) (v : Vocabulary) (k : Mask) (b c : Bool) : Prop where
  fill : m.fill = .ok { m with buffer := k }
  position : ({ m with stopCheck := .position } : Matcher).canTerminate = .ok b
  mask : ({ m with stopCheck := .mask } : Matcher).canTerminate = .ok c
  inMask : c = true ↔ ∃ i ∈ v.stop, ∃ w, k.toInts[i / 32]? = some w ∧ (w >>> (i % 32)) % 2 = 1
  agree : c = true ↔ b = true ∧ v.stop ≠ []

section Standing

variable {g : Grammar} {r : Pattern.Regex} {m : Matcher}

/-- A stop token is in the mask at an end, and once one was accepted. -/
theorem Stands.test_mask_stop_iff (hm : m.Stands g) (hg : g.Compiled r) {i : Nat}
    (hi : i ∈ g.vocabulary.stop) :
    m.mask.test i = true ↔ (m.terminated || m.grammar.machine.finalAt m.position) = true := by
  -- A stop token spells nothing, so nothing but the end of a text can allow it.
  have hmatchable : ¬ g.vocabulary.isMatchable i = true := fun h =>
    not_mem_stop_of_isMatchable h hi
  rw [hm.test_mask_iff hg, hm.grammar]
  cases m.terminated with
  | true => simp [hi]
  | false => simp [Index.Allowed, hi, hmatchable]

theorem Stands.stopAllowed_iff (hm : m.Stands g) (hg : g.Compiled r) : m.stopAllowed = true ↔
    (m.terminated || m.grammar.machine.finalAt m.position) = true ∧ g.vocabulary.stop ≠ [] := by
  rw [stopAllowed, List.any_eq_true, hm.grammar]
  constructor
  · rintro ⟨i, hi, htest⟩
    have hends := (hm.test_mask_stop_iff hg hi).1 htest
    exact ⟨hm.grammar ▸ hends, List.ne_nil_of_mem hi⟩
  · rintro ⟨hends, hstop⟩
    obtain ⟨i, hi⟩ := List.exists_mem_of_ne_nil _ hstop
    exact ⟨i, hi, (hm.test_mask_stop_iff hg hi).2 (hm.grammar ▸ hends)⟩

theorem Stands.mayStop (hm : m.Stands g) (hg : g.Compiled r) :
    m.MayStop g.vocabulary m.mask (m.terminated || m.grammar.machine.finalAt m.position)
      m.stopAllowed where
  fill := fill_of_open hm.isOpen
  position := canTerminate_of_open (m := { m with stopCheck := .position }) hm.isOpen
  mask := canTerminate_of_open (m := { m with stopCheck := .mask }) hm.isOpen
  inMask := by
    rw [stopAllowed, hm.grammar, List.any_eq_true]
    simp only [Mask.test_iff_shiftRight]
  agree := hm.stopAllowed_iff hg

end Standing

/-- After any calls the two ways to ask a matcher of a compiled grammar whether a text may stop give
one answer where there is a stop token, and that is whether one is in the mask. -/
theorem mayStop_of_calls {source : Schema.Source} {v : Vocabulary} {g : Grammar}
    (h : (Grammar.compile source v).result = .ok g) (check : StopCheck) (cs : List Call) :
    ∃ as m, (fresh g check).calls cs = .ok (as, m) ∧ ∃ k b c, m.MayStop v k b c := by
  obtain ⟨r, hg⟩ := Grammar.exists_compiled h
  obtain ⟨-, rfl, -, -, -⟩ := Grammar.compile_eq_ok.1 h
  obtain ⟨as, m, hcalls, hm⟩ := (stands_fresh hg check).calls hg cs
  exact ⟨as, m, hcalls, _, _, _, hm.mayStop hg⟩

theorem mayStop_of_calls_pieces : ∃ g, (Grammar.compile truthSource pieces).result = .ok g ∧
    ∃ as m, (fresh g .mask).calls [.advance 2, .canTerminate, .advance 1, .advance 0, .fill] =
      .ok (as, m) ∧ ∃ k b c, m.MayStop pieces k b c := by
  obtain ⟨g, hg⟩ := exists_compile_pieces
  exact ⟨g, hg, mayStop_of_calls hg .mask _⟩

/-! ## A vocabulary without a stop token -/

/-- One token that is a whole text, and none that stops it. -/
def wholeTruth : Vocabulary where
  tokens := #["true"]
  encoding := .raw
  stop := []
  special := []
  size_pos := by decide
  stop_lt := by decide

/-- Behind a whole text the position is an end, and no stop token is in the mask. -/
theorem mayStop_without_stop : ∃ g, (Grammar.compile truthSource wholeTruth).result = .ok g ∧
    ∃ m, (fresh g .position).TakesAll [0] m ∧
      ({ m with stopCheck := .position } : Matcher).canTerminate = .ok true ∧
      ({ m with stopCheck := .mask } : Matcher).canTerminate = .ok false ∧
      ∀ i ∈ wholeTruth.stop, m.mask.test i = false := by
  have hmatchable : wholeTruth.Matchable [0] := List.forall_mem_singleton.2 (by decide)
  have hdescribes := describes_truthSource.2 (.inl rfl)
  obtain ⟨g, hcompile⟩ := Grammar.exists_compile_eq_ok (v := wholeTruth) rfl hmatchable (by simp)
    (by decide) hdescribes
  obtain ⟨r, hg⟩ := Grammar.exists_compiled hcompile
  obtain ⟨-, hv, -, -, -⟩ := Grammar.compile_eq_ok.1 hcompile
  rw [← hv] at hmatchable
  have hwhole : ∃ w, g.vocabulary.spell [0] = Text.Utf8.encode w ∧ r.Matches w :=
    ⟨"true".toList, by rw [hv]; decide, (Grammar.describes_iff hcompile hg).1 hdescribes⟩
  obtain ⟨q, hq, hf⟩ := hg.walk_final_iff.2 hwhole
  have hnothing : g.vocabulary.Matchable [] := List.forall_mem_nil _
  obtain ⟨m, hm⟩ := (at_fresh hg .position).exists_takesAll hg hmatchable hnothing hq hf
  have hstop : ∀ id ∈ [(0 : Int)], ∀ i ∈ g.vocabulary.stop, id ≠ (i : Int) := by
    rw [hv]
    decide
  obtain ⟨js, hjs, hat⟩ := (at_fresh hg .position).of_takesAll hg hstop hm
  obtain rfl : [0] = js := List.map_injective_iff.2 (fun _ _ => Int.natCast_inj.1) hjs
  have hend : (m.terminated || m.grammar.machine.finalAt m.position) = true := by
    rw [hat.grammar, (hat.finalAt_iff hg).2 hwhole, Bool.or_true]
  have hanswers := (At.stands hat hg).mayStop hg
  refine ⟨g, hcompile, m, hm, hend ▸ hanswers.position, ?_, by simp [wholeTruth]⟩
  have hnone : m.stopAllowed = false := by
    rw [Bool.eq_false_iff]
    intro h
    exact (hanswers.agree.1 h).2 (by rw [hv]; rfl)
  exact hnone ▸ hanswers.mask

end Matcher

end GuidedJson
