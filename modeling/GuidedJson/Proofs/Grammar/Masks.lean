import GuidedJson.Proofs.Grammar.Acceptance

/-!
# Masks and matchers

What a matcher shows in its mask is what it accepts, whatever it was asked before: masks are packed
when a grammar is compiled, and a token is walked when it comes, but both go by the same positions.
-/

namespace GuidedJson

open Automaton (Machine)
open Pattern (Regex)

namespace Matcher

/-! ## Calls -/

/-- What an open matcher can be asked. -/
inductive Call where
  | fill
  | advance (id : Int)
  | reset
  | canTerminate
  | isTerminated
deriving DecidableEq, Repr

/-- What a matcher answers; a filled buffer is an answer. -/
inductive Answer where
  | done
  | truth (b : Bool)
  | mask (k : Mask)
deriving DecidableEq

/-- Asks a matcher: its answer, and the matcher after it. -/
def call (m : Matcher) : Call → Except Failure (Answer × Matcher)
  | .fill => do
    let n ← m.fill
    return (.mask n.buffer, n)
  | .advance id => do
    let (b, n) ← m.advance id
    return (.truth b, n)
  | .reset => do
    let n ← m.reset
    return (.done, n)
  | .canTerminate => do
    let b ← m.canTerminate
    return (.truth b, m)
  | .isTerminated => do
    let b ← m.isTerminated
    return (.truth b, m)

/-- Calls one after the other. -/
def calls : Matcher → List Call → Except Failure (List Answer × Matcher)
  | m, [] => .ok ([], m)
  | m, c :: cs => do
    let (a, m) ← m.call c
    let (as, m) ← calls m cs
    return (a :: as, m)

/-! ## What calls keep -/

/-- What holds of a matcher after any calls, whatever it took: tokens lead to its position, and on
from it to an end. -/
structure Stands (m : Matcher) (g : Grammar) : Prop where
  grammar : m.grammar = g
  isOpen : m.closed = false
  productive : g.isProductive m.position = true

section Standing

variable {g : Grammar} {r : Regex} {m n : Matcher}

theorem stands_fresh (hg : g.Compiled r) (check : StopCheck) : (fresh g check).Stands g :=
  ⟨rfl, rfl, Std.HashMap.contains_iff_mem.2 hg.origin⟩

theorem At.stands {ids : List Nat} (hm : m.At g ids) (hg : g.Compiled r) : m.Stands g :=
  ⟨hm.grammar, hm.isOpen, hg.isProductive_iff.2 ⟨⟨ids, hm.matchable, hm.walk⟩, hm.productive⟩⟩

theorem Stands.accept? (hm : m.Stands g) {id : Int} (h : m.accept? id = some n) : n.Stands g := by
  obtain ⟨i, rfl⟩ := exists_natCast_of_accept? h
  obtain ⟨-, ⟨-, -, rfl⟩ | ⟨-, q, -, hq, rfl⟩⟩ := accept?_natCast.1 h
  · exact ⟨hm.grammar, hm.isOpen, hm.productive⟩
  · exact ⟨hm.grammar, hm.isOpen, hm.grammar ▸ hq⟩

/-- An open matcher answers every call, and stands after it. -/
theorem Stands.call (hm : m.Stands g) (hg : g.Compiled r) (c : Call) :
    ∃ a n, m.call c = .ok (a, n) ∧ n.Stands g := by
  cases c with
  | fill =>
    rw [Matcher.call, fill_of_open hm.isOpen]
    exact ⟨_, _, rfl, hm.grammar, hm.isOpen, hm.productive⟩
  | advance id =>
    rw [Matcher.call, advance_of_open hm.isOpen]
    cases h : m.accept? id with
    | none => exact ⟨_, _, rfl, hm⟩
    | some n => exact ⟨_, _, rfl, hm.accept? h⟩
  | reset =>
    rw [Matcher.call, reset_of_open hm.isOpen]
    exact ⟨_, _, rfl, hm.grammar, hm.isOpen, Std.HashMap.contains_iff_mem.2 hg.origin⟩
  | canTerminate =>
    rw [Matcher.call, canTerminate_of_open hm.isOpen]
    exact ⟨_, _, rfl, hm⟩
  | isTerminated =>
    rw [Matcher.call, isTerminated_of_open hm.isOpen]
    exact ⟨_, _, rfl, hm⟩

/-- An open matcher answers all calls, one after the other. -/
theorem Stands.calls (hm : m.Stands g) (hg : g.Compiled r) (cs : List Call) :
    ∃ as n, m.calls cs = .ok (as, n) ∧ n.Stands g := by
  induction cs generalizing m with
  | nil => exact ⟨[], m, rfl, hm⟩
  | cons c cs ih =>
    obtain ⟨a, k, hc, hk⟩ := hm.call hg c
    obtain ⟨as, n, hcs, hn⟩ := ih hk
    refine ⟨a :: as, n, ?_, hn⟩
    simp only [Matcher.calls, hc, bind, Except.bind, hcs]
    rfl

/-! ## What is in the mask -/

theorem Stands.exists_accept?_iff (hm : m.Stands g) (hg : g.Compiled r)
    (hrunning : m.terminated = false) {i : Nat} :
    (∃ n, m.accept? i = some n) ↔ Index.Allowed g.machine g.vocabulary m.position i := by
  -- The tokens that led to the position stand in front of every token that is walked from it.
  obtain ⟨rfl, -, hproductive⟩ := hm
  have hspelled := (hg.isProductive_iff.1 hproductive).1
  simp only [accept?_natCast, hrunning, true_and, exists_or, Index.Allowed]
  -- A token of octets is walked at run time; the index asks only whether an end can be reached.
  rw [or_comm]
  apply or_congr
  · constructor
    · rintro ⟨_, hi, q, hq, hprod, -⟩
      exact ⟨hi, q, hq, (hg.isProductive_iff.1 hprod).2⟩
    · rintro ⟨hi, q, hq, hprod⟩
      exact ⟨_, hi, q, hq, hg.isProductive_iff.2 ⟨hspelled.walk hi hq, hprod⟩, rfl⟩
  · constructor
    · rintro ⟨_, hi, hf, -⟩
      exact ⟨hf, hi⟩
    · rintro ⟨hf, hi⟩
      exact ⟨_, hi, hf, rfl⟩

/-- The mask of a matcher has the tokens that it accepts, and once it accepted a stop token the
stop tokens. -/
theorem Stands.test_mask_iff (hm : m.Stands g) (hg : g.Compiled r) {i : Nat} :
    m.mask.test i = true ↔ if m.terminated then i ∈ g.vocabulary.stop
      else Index.Allowed g.machine g.vocabulary m.position i := by
  obtain ⟨rfl, -, hproductive⟩ := hm
  cases hterminated : m.terminated with
  | true =>
    have hstop := m.grammar.vocabulary.stop_lt
    rw [Matcher.mask, hterminated, if_pos rfl, if_pos rfl, Grammar.stopMask,
      Mask.test_ofIds m.grammar.vocabulary.size _ _ hstop, decide_eq_true_iff]
  | false =>
    rw [Matcher.mask, hterminated]
    exact hg.test_maskAt hproductive i

end Standing

/-! ## Agreement -/

/-- What it means that a matcher agrees with the mask that it fills. Of a running matcher, the mask
has exactly the tokens that it accepts; after a stop token it accepts none, and the mask has the
stop tokens. -/
structure Agrees (m : Matcher) (v : Vocabulary) (k : Mask) : Prop where
  fill : m.fill = .ok { m with buffer := k }
  size : k.size = v.words
  running : m.isTerminated = .ok false → ∀ id : Int,
    ∃ n, m.advance id = .ok (decide (0 ≤ id ∧ id < v.size ∧ k.test id.toNat = true), n)
  terminated : m.isTerminated = .ok true →
    (∀ i, k.test i = true ↔ i ∈ v.stop) ∧ ∀ id : Int, m.advance id = .ok (false, m)
  beyond : ∀ i, v.size ≤ i → k.test i = false
  silent : ∀ i ∉ v.stop, v.isSpecial i = true ∨ v.octets i = [] → k.test i = false

section Standing

variable {g : Grammar} {r : Regex} {m : Matcher}

/-- What is in the mask of a matcher is a token of the table: a stop token or one with octets. -/
theorem Stands.lt_size_of_test (hm : m.Stands g) (hg : g.Compiled r) {i : Nat}
    (h : m.mask.test i = true) :
    i < g.vocabulary.size ∧ (i ∈ g.vocabulary.stop ∨ g.vocabulary.isMatchable i = true) := by
  rw [hm.test_mask_iff hg] at h
  split at h
  · exact ⟨g.vocabulary.stop_lt i h, .inl h⟩
  · refine ⟨h.lt_size, ?_⟩
    obtain ⟨hi, -⟩ | ⟨-, hi⟩ := h
    · exact .inr hi
    · exact .inl hi

theorem size_mask (hm : m.grammar = g) (hg : g.Compiled r) :
    m.mask.size = g.vocabulary.words := by
  subst hm
  cases hterminated : m.terminated with
  | true =>
    rw [Matcher.mask, hterminated]
    exact Mask.size_ofIds ..
  | false =>
    rw [Matcher.mask, hterminated]
    exact hg.size_maskAt m.position

theorem Stands.advance_of_running (hm : m.Stands g) (hg : g.Compiled r)
    (hrunning : m.terminated = false) (id : Int) : ∃ n, m.advance id =
      .ok (decide (0 ≤ id ∧ id < g.vocabulary.size ∧ m.mask.test id.toNat = true), n) := by
  rw [advance_of_open hm.isOpen]
  cases h : m.accept? id with
  | some n =>
    obtain ⟨i, rfl⟩ := exists_natCast_of_accept? h
    have htest : m.mask.test i = true := by
      rw [hm.test_mask_iff hg, hrunning]
      exact (hm.exists_accept?_iff hg hrunning).1 ⟨n, h⟩
    have hlt := (hm.lt_size_of_test hg htest).1
    exact ⟨n, by simp [htest, hlt]⟩
  | none =>
    refine ⟨m, ?_⟩
    rw [decide_eq_false]
    rintro ⟨hid, -, htest⟩
    rw [hm.test_mask_iff hg, hrunning] at htest
    obtain ⟨n, hn⟩ := (hm.exists_accept?_iff hg hrunning).2 htest
    rw [Int.toNat_of_nonneg hid, h] at hn
    cases hn

theorem Stands.agrees (hm : m.Stands g) (hg : g.Compiled r) : m.Agrees g.vocabulary m.mask where
  fill := fill_of_open hm.isOpen
  size := size_mask hm.grammar hg
  running h := by
    rw [isTerminated_of_open hm.isOpen] at h
    exact hm.advance_of_running hg (Except.ok.inj h)
  terminated h := by
    rw [isTerminated_of_open hm.isOpen] at h
    have hterminated : m.terminated = true := Except.ok.inj h
    refine ⟨fun i => ?_, fun id => ?_⟩
    · rw [hm.test_mask_iff hg, hterminated, if_pos rfl]
    · rw [advance_of_open hm.isOpen, Matcher.accept?, hterminated]
      rfl
  beyond i hi := by
    rw [Bool.eq_false_iff]
    exact fun h => absurd (hm.lt_size_of_test hg h).1 (Nat.not_lt.2 hi)
  silent i hstop hsilent := by
    rw [Bool.eq_false_iff]
    intro h
    have hoctets : g.vocabulary.octets i = [] := hsilent.elim Vocabulary.octets_of_isSpecial id
    have hi := (hm.lt_size_of_test hg h).2.resolve_left hstop
    simp [Vocabulary.isMatchable, hoctets] at hi

end Standing

/-- After any calls a matcher of a compiled grammar agrees with the mask that it fills. -/
theorem agrees_of_calls {source : Schema.Source} {v : Vocabulary} {g : Grammar}
    (h : (Grammar.compile source v).result = .ok g) (check : StopCheck) (cs : List Call) :
    ∃ as m, (fresh g check).calls cs = .ok (as, m) ∧ ∃ k, m.Agrees v k := by
  obtain ⟨r, hg⟩ := Grammar.exists_compiled h
  obtain ⟨-, rfl, -, -, -⟩ := Grammar.compile_eq_ok.1 h
  obtain ⟨as, m, hcalls, hm⟩ := (stands_fresh hg check).calls hg cs
  exact ⟨as, m, hcalls, m.mask, hm.agrees hg⟩

theorem agrees_of_calls_pieces : ∃ g, (Grammar.compile truthSource pieces).result = .ok g ∧
    ∃ as m, (fresh g .position).calls [.advance 0, .advance 2, .fill, .advance 1, .advance 2, .reset,
      .advance (-1), .canTerminate] = .ok (as, m) ∧ ∃ k, m.Agrees pieces k := by
  obtain ⟨g, hg⟩ := exists_compile_pieces
  exact ⟨g, hg, agrees_of_calls hg .position _⟩

end Matcher

end GuidedJson
