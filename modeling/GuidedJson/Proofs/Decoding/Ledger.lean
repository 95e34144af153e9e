import GuidedJson.Proofs.Decoding.Histories
import GuidedJson.Proofs.Decoding.Hooks

/-!
# What a step counts

A sampled token that the matcher does not take cannot be taken back, and the matcher starts again
behind it, if the token can be noted in the log. So a step stands where a fresh matcher stands that is
fed the tokens since then, or since the prompt started; and every sampled token is counted once, as
accepted or as rejected.
-/

namespace GuidedJson

open Automaton (Machine)

/-! ## Refused tokens -/

namespace Matcher

/-- Whether a matcher has no place for a token: it took a stop token already, the token is none of
the table, or it is not in the mask. -/
def refuses (m : Matcher) (id : Int) : Bool :=
  m.terminated || !Vocabulary.inTable m.grammar.vocabulary.size id || !m.mask.test id.toNat

/-- A matcher takes the tokens that it has a place for. -/
theorem Stands.accept?_isSome {g : Grammar} {r : Pattern.Regex} {m : Matcher} (hm : m.Stands g)
    (hg : g.Compiled r) (id : Int) : (m.accept? id).isSome = !m.refuses id := by
  obtain rfl := hm.grammar
  cases hterminated : m.terminated with
  | true => simp [refuses, Matcher.accept?, hterminated]
  | false =>
    obtain ⟨n, hn⟩ := hm.advance_of_running hg hterminated id
    rw [advance_of_open hm.isOpen] at hn
    have hsome : (m.accept? id).isSome =
        decide (0 ≤ id ∧ id < m.grammar.vocabulary.size ∧ m.mask.test id.toNat = true) := by
      cases hid : m.accept? id with
      | none =>
        rw [hid] at hn
        exact congrArg Prod.fst (Except.ok.inj hn)
      | some k =>
        rw [hid] at hn
        exact congrArg Prod.fst (Except.ok.inj hn)
    rw [hsome, refuses, hterminated, Vocabulary.inTable]
    cases m.mask.test id.toNat <;> simp

end Matcher

namespace Decoding

/-! ## Noting tokens -/

/-- The token that a call samples, if it is an integer. -/
def Hook.id? {α : Type} : Hook α → Option Int
  | .sampled token => token.toInteger.toOption
  | _ => none

/-- Where a step is, and the tokens that were sampled since a prompt started or the rejection of one
was noted. -/
structure Ledger where
  matcher : Matcher
  counts : Counts
  since : List Int

namespace Ledger

/-- A call of a hook, whether it answers or fails. -/
def call {α : Type} (l : Ledger) (h : Hook α) : Ledger :=
  let (m, c) := (h.call.run (l.matcher, l.counts)).2
  { matcher := m
    counts := c
    since := match h with
      | .promptStart => []
      | _ =>
        if l.counts.rejected < c.rejected then
          if h.id?.any Text.isWritable then [] else l.since
        else l.since ++ h.id?.toList }

/-- A call of the hook for a sampled token. -/
def sample (l : Ledger) (id : Int) : Ledger := l.call (.sampled (.int id) : Hook Number.Binary)

/-- Whether a step stands where a fresh matcher stands that took the tokens that were noted. Only
what is in the buffers may differ. -/
def Follows (l : Ledger) (g : Grammar) (check : StopCheck) : Prop :=
  ∃ n, (Matcher.fresh g check).TakesAll l.since n ∧ l.matcher = { n with buffer := l.matcher.buffer }

/-! ## Calls of an open matcher -/

section Calls

variable {α : Type} {l : Ledger} {token : Value}

theorem call_promptStart (h : l.matcher.closed = false) : l.call (.promptStart : Hook α) =
    ⟨{ l.matcher with position := Machine.origin, terminated := false }, l.counts, []⟩ := by
  have hcall := (Hook.yields_call_promptStart (α := α) (m := l.matcher) (c := l.counts)).2
  rw [Matcher.reset_of_open h] at hcall
  rw [call, hcall]
  rfl

theorem call_process (h : l.matcher.closed = false) (a : Arithmetic α) (s : Scores α) :
    l.call (.process a s) = ⟨{ l.matcher with buffer := l.matcher.mask }, l.counts, l.since⟩ := by
  rw [call, Hook.snd_run_call_process, filled_of_open h]
  simp [Hook.id?]

theorem call_sampled_of_error (h : l.matcher.closed = false) {fault : Value.IntegerFault}
    (htoken : token.toInteger = .error fault) : l.call (.sampled token : Hook α) = l := by
  rw [call, Hook.snd_run_call_sampled, sampled_snd_of_open h, htoken]
  simp [Hook.id?, htoken, Except.toOption]

/-- A token is counted once: as accepted where the matcher takes it, and as rejected otherwise. Where
the rejection cannot be noted, the matcher stays. -/
theorem call_sampled (h : l.matcher.closed = false) {id : Int} (htoken : token.toInteger = .ok id) :
    l.call (.sampled token : Hook α) = match l.matcher.accept? id with
      | some n => ⟨n, { l.counts with accepted := l.counts.accepted + 1 }, l.since ++ [id]⟩
      | none =>
        if Text.isWritable id then
          ⟨{ l.matcher with position := Machine.origin, terminated := false },
            { l.counts with rejected := l.counts.rejected + 1 }, []⟩
        else { l with counts := { l.counts with rejected := l.counts.rejected + 1 } } := by
  rw [call, Hook.snd_run_call_sampled, sampled_snd_of_open h, htoken]
  cases hid : l.matcher.accept? id with
  | some n => simp [Hook.id?, htoken, Except.toOption, hid]
  | none => cases hwritable : Text.isWritable id <;>
      simp [Hook.id?, htoken, Except.toOption, hid, hwritable]

end Calls

/-! ## What calls keep -/

section Follows

variable {g : Grammar} {r : Pattern.Regex} {check : StopCheck} {l : Ledger}

theorem Follows.isOpen (h : l.Follows g check) : l.matcher.closed = false := by
  obtain ⟨n, hn, hl⟩ := h
  have hfresh := hn.eq rfl
  rw [hl, hfresh]
  rfl

theorem Follows.grammar (h : l.Follows g check) : l.matcher.grammar = g := by
  obtain ⟨n, hn, hl⟩ := h
  rw [hl, hn.eq rfl]
  rfl

theorem Follows.stands (h : l.Follows g check) (hg : g.Compiled r) : l.matcher.Stands g := by
  obtain ⟨n, hn, hl⟩ := h
  have hstands := (Matcher.stands_fresh hg check).of_takesAll hn
  rw [hl]
  exact ⟨hstands.grammar, hstands.isOpen, hstands.productive⟩

/-- A matcher that starts again is fresh, but for its buffer. -/
theorem Follows.restart (h : l.Follows g check) (c : Counts) : Follows
    ⟨{ l.matcher with position := Machine.origin, terminated := false }, c, []⟩ g check := by
  obtain ⟨n, hn, hl⟩ := h
  have hfresh := hn.eq rfl
  refine ⟨.fresh g check, Matcher.takesAll_nil.2 rfl, ?_⟩
  rw [hl, hfresh]
  rfl

theorem Follows.accept (h : l.Follows g check) {id : Int} {k : Matcher}
    (hk : l.matcher.accept? id = some k) (c : Counts) :
    Follows ⟨k, c, l.since ++ [id]⟩ g check := by
  obtain ⟨n, hn, hl⟩ := h
  have hopen : n.closed = false := by rw [hn.eq rfl]; rfl
  -- What is in the buffer plays no part in what is accepted.
  rw [hl, Matcher.accept?_buffer] at hk
  obtain ⟨j, hj, rfl⟩ := Option.map_eq_some_iff.1 hk
  exact ⟨j, hn.snoc ((Matcher.takes_iff hopen).2 hj), rfl⟩

theorem Follows.call {α : Type} (h : l.Follows g check) (x : Hook α) :
    (l.call x).Follows g check := by
  have hopen := h.isOpen
  cases x with
  | promptStart =>
    rw [call_promptStart hopen]
    exact h.restart _
  | process a s =>
    obtain ⟨n, hn, hl⟩ := h
    rw [call_process hopen]
    exact ⟨n, hn, by rw [hl]⟩
  | sampled token =>
    cases htoken : token.toInteger with
    | error fault =>
      rw [call_sampled_of_error hopen htoken]
      exact h
    | ok id =>
      rw [call_sampled hopen htoken]
      cases hid : l.matcher.accept? id with
      | some k => exact h.accept hid _
      | none =>
        dsimp only
        split
        · exact h.restart _
        · exact h

/-- How many sampled tokens were counted. -/
def total (l : Ledger) : Nat := l.counts.accepted + l.counts.rejected

theorem total_call {α : Type} (h : l.matcher.closed = false) (x : Hook α) :
    (l.call x).total = l.total + x.id?.toList.length := by
  cases x with
  | promptStart =>
    rw [call_promptStart h]
    rfl
  | process a s =>
    rw [call_process h]
    rfl
  | sampled token =>
    cases htoken : token.toInteger with
    | error fault =>
      rw [call_sampled_of_error h htoken]
      simp [Hook.id?, htoken, Except.toOption]
    | ok id =>
      rw [call_sampled h htoken]
      cases l.matcher.accept? id with
      | some k => simp [Hook.id?, htoken, Except.toOption, total, Nat.add_assoc, Nat.add_comm 1]
      | none => cases Text.isWritable id <;>
          simp [Hook.id?, htoken, Except.toOption, total, Nat.add_assoc]

/-- What a sampled token is counted as, and where it leads if it is not taken. -/
theorem Follows.sample (h : l.Follows g check) (hg : g.Compiled r) (id : Int) :
    (l.matcher.refuses id = false →
      (l.sample id).counts = { l.counts with accepted := l.counts.accepted + 1 }) ∧
    (l.matcher.refuses id = true →
      (l.sample id).counts = { l.counts with rejected := l.counts.rejected + 1 } ∧
      (¬ Json.Fits id → (l.sample id).matcher = l.matcher)) := by
  have hsome := (h.stands hg).accept?_isSome hg id
  have hsample : l.sample id = _ := call_sampled h.isOpen (Value.toInteger_int id)
  rw [hsample]
  cases hid : l.matcher.accept? id with
  | some n =>
    rw [hid, Option.isSome_some, eq_comm, Bool.not_eq_true'] at hsome
    exact ⟨fun _ => rfl, fun hrefuses => by simp [hsome] at hrefuses⟩
  | none =>
    rw [hid, Option.isSome_none, eq_comm, Bool.not_eq_false'] at hsome
    refine ⟨fun hrefuses => by simp [hsome] at hrefuses, fun _ => ?_⟩
    rw [← Json.isWritable_iff]
    cases Text.isWritable id <;> exact ⟨rfl, by simp⟩

/-- The hook answers about a token, but for one that is not taken and cannot be noted. -/
theorem Follows.exists_yields_iff (h : l.Follows g check) (hg : g.Compiled r) (id : Int) :
    (∃ a y, (Hook.sampled (.int id) : Hook Number.Binary).call.Yields (l.matcher, l.counts) a y) ↔
      (l.matcher.refuses id = true → Json.Fits id) := by
  have hsome := (h.stands hg).accept?_isSome hg id
  rw [Hook.exists_yields_iff, Hook.Handled]
  simp only [h.isOpen, Value.toInteger_int, Except.ok.injEq, exists_eq_left', true_and, hsome,
    Value.Fits]
  cases l.matcher.refuses id <;> simp

end Follows

/-! ## Runs -/

/-- What a step's counts and its matcher say of the tokens that were sampled, so many in all. Each
one was counted, the next one is rejected exactly if the matcher has no place for it, and the
matcher is where a fresh one is that took the tokens since a prompt started or the rejection of one
was noted. A rejection that cannot be noted is counted, but is not answered, and the matcher stays
where it was. -/
structure Exact (l : Ledger) (g : Grammar) (check : StopCheck) (n : Nat) : Prop where
  total : l.counts.accepted + l.counts.rejected = n
  accepts : ∀ id, l.matcher.refuses id = false →
    (l.sample id).counts = { l.counts with accepted := l.counts.accepted + 1 }
  rejects : ∀ id, l.matcher.refuses id = true →
    (l.sample id).counts = { l.counts with rejected := l.counts.rejected + 1 }
  answers : ∀ id, (∃ a y, (Hook.sampled (.int id) : Hook Number.Binary).call.Yields
    (l.matcher, l.counts) a y) ↔ (l.matcher.refuses id = true → Json.Fits id)
  unnoted : ∀ id, l.matcher.refuses id = true → ¬ Json.Fits id → (l.sample id).matcher = l.matcher
  follows : l.Follows g check

theorem follows_foldl_call {α : Type} {g : Grammar} {check : StopCheck} {l : Ledger}
    (h : l.Follows g check) (xs : List (Hook α)) : (xs.foldl call l).Follows g check ∧
      (xs.foldl call l).total = l.total + (xs.filterMap Hook.id?).length := by
  induction xs generalizing l with
  | nil => exact ⟨h, rfl⟩
  | cons x xs ih =>
    obtain ⟨hfollows, htotal⟩ := ih (h.call x)
    refine ⟨hfollows, ?_⟩
    rw [List.foldl_cons, htotal, total_call h.isOpen, List.filterMap_cons]
    cases x.id? <;> simp [Nat.add_assoc, Nat.add_comm 1]

/-- After any calls of its hooks, the counts of a step over a matcher of a compiled grammar are
exact, whatever the matcher took before. -/
theorem exact_of_hooks {α : Type} {source : Schema.Source} {v : Vocabulary} {g : Grammar}
    (h : (Grammar.compile source v).result = .ok g) {check : StopCheck} {before : List Int}
    {m : Matcher} (hm : (Matcher.fresh g check).TakesAll before m) (c : Counts)
    (xs : List (Hook α)) : (xs.foldl call ⟨m, c, before⟩).Exact g check
      (c.accepted + c.rejected + (xs.filterMap Hook.id?).length) := by
  obtain ⟨r, hg⟩ := Grammar.exists_compiled h
  have hstart : Follows ⟨m, c, before⟩ g check := ⟨m, hm, rfl⟩
  obtain ⟨hfollows, htotal⟩ := follows_foldl_call hstart xs
  exact ⟨htotal, fun id => (hfollows.sample hg id).1,
    fun id hid => ((hfollows.sample hg id).2 hid).1,
    hfollows.exists_yields_iff hg, fun id hid => ((hfollows.sample hg id).2 hid).2,
    hfollows⟩

theorem exact_of_hooks_pieces : ∃ g,
    (Grammar.compile Matcher.truthSource Matcher.pieces).result = .ok g ∧
      (Matcher.fresh g .position).TakesAll [] (.fresh g .position) ∧
      Exact (([.promptStart, .sampled (.int 2), .sampled (.int 1), .sampled (.int 2),
          .sampled (.int (-1)), .sampled (.int 2)] : List (Hook Number.Binary)).foldl call
            ⟨.fresh g .position, {}, []⟩) g .position 5 := by
  obtain ⟨g, hg⟩ := Matcher.exists_compile_pieces
  have hfresh : (Matcher.fresh g .position).TakesAll [] (.fresh g .position) :=
    Matcher.takesAll_nil.2 rfl
  exact ⟨g, hg, hfresh, exact_of_hooks hg hfresh {} _⟩

/-- A rejected token that is too long to be written leaves the matcher behind the text that it took
before, where a fresh one is not. -/
theorem not_restarted_of_long : ∃ g,
    (Grammar.compile Matcher.truthSource Matcher.pieces).result = .ok g ∧ ∃ l : Ledger,
      ([.sampled (.int 2), .sampled (.int (10 ^ Text.digitLimit : Nat))] :
        List (Hook Number.Binary)).foldl call ⟨.fresh g .position, {}, []⟩ = l ∧
      l.counts = { accepted := 1, rejected := 1 } ∧ l.matcher.canTerminate = .ok true ∧
      (Matcher.fresh g .position).canTerminate = .ok false := by
  obtain ⟨g, hg⟩ := Matcher.exists_compile_pieces
  obtain ⟨n, hn, hstop⟩ := Matcher.exists_takes_false hg
  obtain ⟨-, hv, -, -, -⟩ := Grammar.compile_eq_ok.1 hg
  have haccept : (Matcher.fresh g .position).accept? 2 = some n := (Matcher.takes_iff rfl).1 hn
  have hmoved := Matcher.eq_of_accept? haccept
  have hopen : n.closed = false := by
    rw [hmoved]
    rfl
  have hlong : Text.isWritable (10 ^ Text.digitLimit : Nat) = false := by
    rw [← Bool.not_eq_true, Json.isWritable_iff, Json.Fits, Int.natAbs_natCast]
    exact lt_irrefl _
  -- The token is none of the table.
  have hrefused : n.accept? (10 ^ Text.digitLimit : Nat) = none := by
    have hsize : n.grammar.vocabulary.size = 3 := by
      rw [hmoved]
      exact congrArg Vocabulary.size hv
    have hlimit : 10 ^ 1 ≤ 10 ^ Text.digitLimit := Nat.pow_le_pow_right (by decide) (by decide)
    rw [Matcher.accept?, if_pos]
    rw [hsize, Bool.or_eq_true, Bool.not_eq_true', ← Bool.not_eq_true, Vocabulary.inTable_iff]
    omega
  have hfirst : call ⟨.fresh g .position, {}, []⟩ (.sampled (.int 2) : Hook Number.Binary) =
      ⟨n, { accepted := 1 }, [2]⟩ := by
    rw [call_sampled rfl (Value.toInteger_int 2)]
    dsimp only
    rw [haccept]
    rfl
  have hsecond : call ⟨n, { accepted := 1 }, [2]⟩
      (.sampled (.int (10 ^ Text.digitLimit : Nat)) : Hook Number.Binary) =
        ⟨n, { accepted := 1, rejected := 1 }, [2]⟩ := by
    rw [call_sampled hopen (Value.toInteger_int _)]
    dsimp only
    rw [hrefused, hlong]
    rfl
  refine ⟨g, hg, ⟨n, { accepted := 1, rejected := 1 }, [2]⟩, ?_, rfl, hstop, ?_⟩
  · rw [List.foldl_cons, hfirst, List.foldl_cons, hsecond]
    rfl
  · rw [Matcher.canTerminate_of_open rfl]
    exact congrArg Except.ok (Matcher.finalAt_origin_pieces hg)

end Ledger

end Decoding

end GuidedJson
