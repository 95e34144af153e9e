import GuidedJson.Proofs.Decoding.Sharing

/-!
# Rows of a workspace

A step and its matcher are where a row of a batch stands. Whatever hook is called, the row goes to
where the hook leads its matcher and its counts, and the rows of other matchers stay where they are.
-/

namespace GuidedJson.Decoding

/-! ## Hooks and buffers -/

section Hooks

variable {β γ : Type}

theorem result_promptStart (m : Matcher β) :
    (promptStart m).result = .ok (m.reset.toOption.getD m) := by
  unfold promptStart
  cases m.reset <;> rfl

theorem reset_withBuffer (m : Matcher β) (b : γ) :
    (m.withBuffer b).reset.toOption.getD (m.withBuffer b) =
      (m.reset.toOption.getD m).withBuffer b := by
  unfold Matcher.reset Matcher.guardOpen Matcher.withBuffer
  dsimp only
  split <;> rfl

theorem advance_withBuffer (m : Matcher β) (b : γ) (id : Int) :
    (m.withBuffer b).advance id = (m.advance id).map fun r => (r.1, r.2.withBuffer b) := by
  unfold Matcher.advance
  rw [Matcher.accept?_withBuffer]
  have hguard : (m.withBuffer b).guardOpen = m.guardOpen := rfl
  rw [hguard]
  cases m.guardOpen with
  | error e => rfl
  | ok u => cases m.accept? id <;> rfl

/-- What the buffer holds goes along with a sampled token. -/
theorem sampled_withBuffer (m : Matcher β) (b : γ) (t : Value) (c : Counts) :
    sampled t (m.withBuffer b) c =
      ((sampled t m c).1, (sampled t m c).2.1.withBuffer b, (sampled t m c).2.2) := by
  unfold sampled
  cases t.toInteger with
  | error fault => rfl
  | ok id =>
    dsimp only
    rw [advance_withBuffer]
    cases m.advance id with
    | error e => rfl
    | ok r =>
      obtain ⟨accepted, n⟩ := r
      cases accepted with
      | true => rfl
      | false =>
        dsimp only [Except.map]
        rw [reset_withBuffer]
        cases Text.writeInteger? id <;> rfl

/-- A matcher that moved: only its position, and whether it is terminated, may be others. -/
structure Moved (m n : Matcher β) : Prop where
  grammar : n.grammar = m.grammar
  buffer : n.buffer = m.buffer
  closed : n.closed = m.closed

theorem moved_reset (m : Matcher β) : Moved m (m.reset.toOption.getD m) := by
  unfold Matcher.reset Matcher.guardOpen
  split <;> exact ⟨rfl, rfl, rfl⟩

theorem moved_of_advance {m n : Matcher β} {id : Int} {r : Bool}
    (h : m.advance id = .ok (r, n)) : Moved m n := by
  obtain ⟨-, -, h⟩ := exceptBind_eq_ok.1 h
  cases haccept : m.accept? id with
  | none =>
    rw [haccept] at h
    cases h
    exact ⟨rfl, rfl, rfl⟩
  | some k =>
    rw [haccept] at h
    cases h
    rw [Matcher.eq_of_accept? haccept]
    exact ⟨rfl, rfl, rfl⟩

theorem moved_sampled (t : Value) (m : Matcher β) (c : Counts) : Moved m (sampled t m c).2.1 := by
  unfold sampled
  cases t.toInteger with
  | error fault => exact ⟨rfl, rfl, rfl⟩
  | ok id =>
    dsimp only
    cases hadvance : m.advance id with
    | error e => exact ⟨rfl, rfl, rfl⟩
    | ok r =>
      obtain ⟨accepted, n⟩ := r
      have hmoved := moved_of_advance hadvance
      cases accepted with
      | true => exact hmoved
      | false =>
        dsimp only
        cases Text.writeInteger? id with
        | none => exact hmoved
        | some text =>
          have hreset := moved_reset n
          exact ⟨hreset.grammar.trans hmoved.grammar, hreset.buffer.trans hmoved.buffer,
            hreset.closed.trans hmoved.closed⟩

end Hooks

namespace Workspace

/-! ## Rows -/

/-- The number of the matcher of a step. -/
def owner (w : Workspace) (k : Nat) : Option Nat := w.steps[k]?.map (·.matcher)

/-- Where a step is: its matcher, with what its buffer holds, and its counts. -/
def row (w : Workspace) (k : Nat) : Option (Matcher × Counts) := do
  let s ← w.steps[k]?
  let m ← w.matcherAt s.matcher
  return (m, s.counts)

/-- What a workspace keeps while some of its steps go somewhere else. -/
structure Keeps (w : Workspace) (ks : List Nat) (v : Workspace) : Prop where
  sessions : v.sessions = w.sessions
  processors : v.processors = w.processors
  owner : v.owner = w.owner
  row : ∀ j, w.owner j ∉ ks.map w.owner → v.row j = w.row j

/-- What a hook leaves of a workspace: its step has gone somewhere. -/
structure Goes (w : Workspace) (k : Nat) (x : Matcher × Counts) (v : Workspace) : Prop where
  sound : v.Sound
  keeps : Keeps w [k] v
  row : v.row k = some x

section Moves

variable {w v u : Workspace} {i k : Nat} {ks : List Nat} {x y : Matcher × Counts} {m n : Matcher}
  {c d : Counts}

theorem row_eq_some : w.row k = some (m, c) ↔
    ∃ s, w.steps[k]? = some s ∧ w.matcherAt s.matcher = some m ∧ s.counts = c := by
  simp [row, Option.bind_eq_some_iff]

theorem Keeps.refl (w : Workspace) (ks : List Nat) : Keeps w ks w :=
  ⟨rfl, rfl, rfl, fun _ _ => rfl⟩

theorem Keeps.trans (h : Keeps w ks v) (h' : Keeps v ks u) : Keeps w ks u := by
  refine ⟨h'.sessions.trans h.sessions, h'.processors.trans h.processors,
    h'.owner.trans h.owner, fun j hj => ?_⟩
  rw [h'.row j (by rwa [h.owner]), h.row j hj]

theorem Goes.refl (hw : w.Sound) (h : w.row k = some x) : Goes w k x w := ⟨hw, .refl w [k], h⟩

theorem Goes.trans (h : Goes w k x v) (h' : Goes v k y u) : Goes w k y u :=
  ⟨h'.sound, h.keeps.trans h'.keeps, h'.row⟩

/-- Soundness is about matchers and tensors alone. -/
theorem Sound.congr (hw : w.Sound) (steps : Array Step) (sessions : Array Session)
    (processors : Array Processor) : ({ w with steps, sessions, processors } : Workspace).Sound := by
  obtain ⟨use, hw⟩ := hw
  exact ⟨use, hw.shares, hw.grammar, hw.owns⟩

/-- When the matcher of a step has moved and its counts are set, the step has gone there. -/
theorem goes_of_turns {s : Step} (hs : w.steps[k]? = some s) (hv : Turns w s.matcher n v)
    (d : Counts) :
    Goes w k (n, d) { v with steps := v.steps.setIfInBounds k { s with counts := d } } := by
  have hsteps : v.steps = w.steps := by rw [hv.rest]
  have hlt := (Array.getElem?_eq_some_iff.1 hs).1
  have hself : (v.steps.setIfInBounds k { s with counts := d })[k]? =
      some { s with counts := d } := by
    rw [hsteps]
    exact Array.getElem?_setIfInBounds_self_of_lt hlt
  have hothers {j : Nat} (hne : j ≠ k) :
      (v.steps.setIfInBounds k { s with counts := d })[j]? = w.steps[j]? := by
    rw [hsteps]
    exact Array.getElem?_setIfInBounds_ne hne.symm
  refine ⟨hv.sound.congr _ _ _, ⟨by rw [hv.rest], by rw [hv.rest], ?_, fun j hj => ?_⟩, ?_⟩
  · funext j
    unfold owner
    dsimp only
    by_cases hne : j = k
    · subst hne
      rw [hself, hs]
      rfl
    · rw [hothers hne]
  · have hne : w.owner j ≠ w.owner k := by simpa using hj
    have hjk : j ≠ k := by
      rintro rfl
      exact hne rfl
    unfold row
    dsimp only
    rw [hothers hjk]
    cases ht : w.steps[j]? with
    | none => rfl
    -- A step over another matcher is where it was, as that matcher did not move.
    | some t =>
      have hmatchers : t.matcher ≠ s.matcher := by
        intro heq
        rw [owner, owner, hs, ht, Option.map_some, Option.map_some, heq] at hne
        exact hne rfl
      have hmatcher : matcherAt { v with steps := v.steps.setIfInBounds k { s with counts := d } }
          t.matcher = w.matcherAt t.matcher := hv.others hmatchers
      simp only [Option.bind_eq_bind, Option.bind_some, hmatcher]
  · exact row_eq_some.2 ⟨_, hself, hv.matcher, rfl⟩

theorem goes_of_turns_self {s : Step} (hs : w.steps[k]? = some s) (hv : Turns w s.matcher n v) :
    Goes w k (n, s.counts) v := by
  have hgoes := goes_of_turns hs hv s.counts
  have hsteps : v.steps = w.steps := by rw [hv.rest]
  rwa [setIfInBounds_self (by rw [hsteps, hs])] at hgoes

/-! ### Hooks of a step -/

theorem exists_promptStart_row (hw : w.Sound) (h : w.row k = some (m, c)) :
    ∃ v, (promptStart k).Yields w () v ∧ Goes w k (m.reset.toOption.getD m, c) v := by
  obtain ⟨s, hs, hm, rfl⟩ := row_eq_some.1 h
  obtain ⟨use, hw⟩ := hw
  obtain ⟨b, l, hb, hl, rfl⟩ := matcherAt_eq_some.1 hm
  have hmoved := moved_reset b
  have hturns := turns_put hw hb hl hmoved.grammar hmoved.buffer
  rw [← reset_withBuffer] at hturns
  refine ⟨_, ?_, goes_of_turns_self hs hturns⟩
  refine (yields_step hs).bind ((yields_matcher hb).bind ?_)
  exact (yields_result (result_promptStart b)).bind ⟨rfl, rfl⟩

theorem exists_sampled_row {t : Value} (hw : w.Sound) (h : w.row k = some (m, c))
    (ht : (Decoding.sampled t m c).1.result = .ok ()) :
    ∃ v, (sampled k t).Yields w () v ∧ Goes w k (Decoding.sampled t m c).2 v := by
  obtain ⟨s, hs, hm, rfl⟩ := row_eq_some.1 h
  obtain ⟨use, hw⟩ := hw
  obtain ⟨b, l, hb, hl, rfl⟩ := matcherAt_eq_some.1 hm
  have hmoved := moved_sampled t b s.counts
  have hturns := turns_put hw hb hl hmoved.grammar hmoved.buffer
  rw [sampled_withBuffer] at ht ⊢
  refine ⟨_, ?_, goes_of_turns hs hturns _⟩
  refine (yields_step hs).bind ((yields_matcher hb).bind ?_)
  exact ⟨ht, rfl⟩

/-- Scores are masked by the tensor that the matcher hands out. -/
theorem exists_process_row {type : FloatType} {s : Scores} {a : Masked} (hw : w.Sound)
    (h : w.row k = some (m, c)) (ha : (Decoding.process type s m).1.result = .ok a) :
    ∃ v, (process k type s).Yields w a v ∧ Goes w k ((Decoding.process type s m).2, c) v := by
  obtain ⟨t, hs, hm, rfl⟩ := row_eq_some.1 h
  obtain ⟨b, l, hb, -, heq⟩ := matcherAt_eq_some.1 hm
  have hgrammar : b.grammar = m.grammar := by
    rw [← heq]
    rfl
  cases hclosed : m.closed with
  -- A closed matcher hands out nothing, and the failure is a value here.
  | true =>
    obtain ⟨r, hr, hresult⟩ := (fails_fill hm hclosed).observe
    rw [Decoding.process, maskScores, Matcher.fill_of_closed hclosed] at ha ⊢
    refine ⟨w, ?_, .refl hw h⟩
    refine (yields_step hs).bind ((yields_matcher hb).bind (hr.bind ?_))
    rw [hresult]
    exact yields_result ha
  | false =>
    obtain ⟨i, v, hfill, hi, hturns⟩ := exists_fill hw hm hclosed
    have hread : (read i).Yields v m.mask v :=
      yields_read_handle hturns.matcher (by rw [hturns.handle, hi])
    obtain ⟨r, hr, hresult⟩ := hfill.observe
    rw [Decoding.process, maskScores, Matcher.fill_of_open hclosed] at ha ⊢
    refine ⟨v, ?_, goes_of_turns_self hs hturns⟩
    refine (yields_step hs).bind ((yields_matcher hb).bind (hr.bind ?_))
    rw [hresult, hgrammar]
    exact hread.bind (yields_result ha)

end Moves

/-! ## Opening rows -/

/-- What is left of a workspace that something is added to: all of it. -/
structure Grows (w v : Workspace) : Prop where
  sound : v.Sound
  grammar : v.grammar = w.grammar
  sessions : v.sessions = w.sessions
  processors : v.processors = w.processors
  matchers : w.matchers.size ≤ v.matchers.size
  owner : ∀ {k i}, w.owner k = some i → v.owner k = some i
  row : ∀ {k x}, w.row k = some x → v.row k = some x

section Opening

variable {w v u : Workspace} {i k : Nat} {m : Matcher} {check : StopCheck}

theorem Grows.refl (hw : w.Sound) : Grows w w := ⟨hw, rfl, rfl, rfl, le_rfl, id, id⟩

theorem Grows.trans (h : Grows w v) (h' : Grows v u) : Grows w u :=
  ⟨h'.sound, h'.grammar.trans h.grammar, h'.sessions.trans h.sessions,
    h'.processors.trans h.processors, h.matchers.trans h'.matchers, h'.owner ∘ h.owner,
    h'.row ∘ h.row⟩

theorem Opens.grows (h : Opens w check v) : Grows w v := by
  have hsteps : v.steps = w.steps := by rw [h.rest]
  refine ⟨h.sound, by rw [h.rest], by rw [h.rest], by rw [h.rest], ?_, fun hk => ?_, fun {k x} hk => ?_⟩
  · rw [h.size]
    exact Nat.le_succ _
  · rwa [owner, hsteps]
  · obtain ⟨m, c⟩ := x
    obtain ⟨s, hs, hm, hc⟩ := row_eq_some.1 hk
    obtain ⟨b, -, hb, -⟩ := matcherAt_eq_some.1 hm
    refine row_eq_some.2 ⟨s, by rw [hsteps, hs], ?_, hc⟩
    rw [h.others (Array.getElem?_eq_some_iff.1 hb).1, hm]

theorem exists_newStep (hw : w.Sound) (hm : w.matcherAt i = some m) :
    ∃ v, (newStep i).Yields w w.steps.size v ∧ Grows w v ∧ v.owner w.steps.size = some i ∧
      v.row w.steps.size = some (m, {}) := by
  obtain ⟨b, -, hb, -⟩ := matcherAt_eq_some.1 hm
  have hself : (w.steps.push ⟨i, {}⟩)[w.steps.size]? = some ⟨i, {}⟩ := Array.getElem?_push_size
  have hothers {k : Nat} {s : Step} (hs : w.steps[k]? = some s) :
      (w.steps.push ⟨i, {}⟩)[k]? = some s := by
    obtain ⟨hlt, rfl⟩ := Array.getElem?_eq_some_iff.1 hs
    exact Array.getElem?_push_lt hlt
  refine ⟨{ w with steps := w.steps.push ⟨i, {}⟩ }, ?_, ⟨hw.congr _ _ _, rfl, rfl, rfl, le_rfl,
    fun hk => ?_, fun {k x} hk => ?_⟩, ?_, row_eq_some.2 ⟨_, hself, hm, rfl⟩⟩
  · refine (yields_matcher hb).bind ?_
    exact Action.Yields.bind (a := w) ⟨rfl, rfl⟩ ⟨rfl, rfl⟩
  · obtain ⟨s, hs, rfl⟩ := Option.map_eq_some_iff.1 hk
    rw [owner, hothers hs]
    rfl
  · obtain ⟨m, c⟩ := x
    obtain ⟨s, hs, hm, hc⟩ := row_eq_some.1 hk
    exact row_eq_some.2 ⟨s, hothers hs, hm, hc⟩
  · rw [owner, hself]
    rfl

/-- A processor is opened over steps that are there. -/
theorem yields_newProcessor {ks : List Nat} (h : ∀ k ∈ ks, ∃ x, w.row k = some x) :
    (newProcessor ks).Yields w w.processors.size
      { w with processors := w.processors.push ⟨ks, none⟩ } := by
  have hloop : (forIn ks PUnit.unit fun k _ => do
      let _ ← step k
      pure (ForInStep.yield PUnit.unit) : Request PUnit).Yields w ⟨⟩ w := by
    induction ks with
    | nil => exact ⟨rfl, rfl⟩
    | cons k ks ih =>
      obtain ⟨⟨⟨m, c⟩, hk⟩, hks⟩ := List.forall_mem_cons.1 h
      obtain ⟨s, hs, -⟩ := row_eq_some.1 hk
      rw [List.forIn_cons]
      have hstep : (do let _ ← step k; pure (ForInStep.yield PUnit.unit) : Request _).Yields w
          (ForInStep.yield PUnit.unit) w := (yields_step hs).bind ⟨rfl, rfl⟩
      exact hstep.bind (ih hks)
  exact hloop.bind (Action.Yields.bind (a := w) ⟨rfl, rfl⟩ ⟨rfl, rfl⟩)

end Opening

end Workspace

end GuidedJson.Decoding
