import GuidedJson.Proofs.Decoding.Rows

/-!
# One session

A session has a matcher, a step and a processor of its own. What one call of the processor does: it
starts the prompt or tells the matcher of a new token, and then masks the scores of the one row.
-/

namespace GuidedJson.Decoding.Workspace

/-- What holds of a workspace with an open session: the first step is over the first matcher, both
belong to the session, and the first processor is for that step and has seen so many columns. -/
structure Seats (w : Workspace) (m : Matcher) (c : Counts) (seen : Option Nat) : Prop where
  sound : w.Sound
  row : w.row 0 = some (m, c)
  owner : w.owner 0 = some 0
  session : w.sessions[0]? = some ⟨0, 0, false⟩
  processor : w.processors[0]? = some ⟨[0], seen⟩

section Seats

variable {g : Grammar} {w v : Workspace} {m n : Matcher} {c d : Counts} {seen : Option Nat}
  {type : FloatType} {s masked : Scores} {ids : List Value}

/-! ## Opening -/

theorem exists_newSession (g : Grammar) : ∃ v, newSession.Yields (.ofGrammar g) (0, 0, 0) v ∧
    v.Sound ∧ v.row 0 = some (.fresh g .position, {}) ∧ v.owner 0 = some 0 ∧
      v.sessions = #[⟨0, 0, false⟩] ∧ v.processors = #[] := by
  obtain ⟨u, hnew, hu⟩ := exists_newMatcher (sound_ofGrammar g) .position
  have hsteps : u.steps.size = 0 := by
    rw [hu.rest]
    rfl
  obtain ⟨v, hstep, hv, howner, hrow⟩ := exists_newStep hu.sound hu.matcher
  rw [hsteps] at hstep howner hrow
  have hsessions : v.sessions = #[] := by
    rw [hv.sessions, hu.rest]
    rfl
  have hprocessors : v.processors = #[] := by
    rw [hv.processors, hu.rest]
    rfl
  refine ⟨{ v with sessions := #[⟨0, 0, false⟩] }, ?_, hv.sound.congr _ _ _, hrow, howner, rfl,
    hprocessors⟩
  refine hnew.bind (hstep.bind ?_)
  refine Action.Yields.bind (a := v) ⟨rfl, rfl⟩ ?_
  simp only [hsessions]
  exact ⟨rfl, rfl⟩

theorem yields_session {x : Session} (h : w.sessions[0]? = some x) :
    (session 0).Yields w x w :=
  Action.Yields.bind (a := w) ⟨rfl, rfl⟩ ⟨item_eq_ok h, rfl⟩

/-- A session is opened, and its processor. -/
theorem exists_seats (g : Grammar) : ∃ u v, newSession.Yields (.ofGrammar g) (0, 0, 0) u ∧
    (sessionProcessor 0).Yields u 0 v ∧ v.Seats (.fresh g .position) {} none := by
  obtain ⟨u, hsession, hu, hrow, howner, hsessions, hprocessors⟩ := exists_newSession g
  have hopen : u.sessions[0]? = some ⟨0, 0, false⟩ := by
    rw [hsessions]
    rfl
  have hnew := yields_newProcessor (w := u) (List.forall_mem_singleton.2 ⟨_, hrow⟩)
  rw [hprocessors] at hnew
  exact ⟨u, _, hsession, (yields_session hopen).bind hnew, hu.congr _ _ _, hrow, howner, hopen, rfl⟩

/-! ## Calls -/

theorem Seats.goes (hw : w.Seats m c seen) (hv : Goes w 0 (n, d) v) : v.Seats n d seen :=
  ⟨hv.sound, hv.row, by rw [hv.keeps.owner, hw.owner], by rw [hv.keeps.sessions, hw.session],
    by rw [hv.keeps.processors, hw.processor]⟩

/-- The columns that a processor has seen are noted down. -/
theorem Seats.note (hw : w.Seats m c seen) (l : Option Nat) :
    ({ w with processors := w.processors.setIfInBounds 0 ⟨[0], l⟩ } : Workspace).Seats m c l :=
  ⟨hw.sound.congr _ _ _, hw.row, hw.owner, hw.session,
    Array.getElem?_setIfInBounds_self_of_lt (Array.getElem?_eq_some_iff.1 hw.processor).1⟩

theorem Seats.exists_resetProcessor (hw : w.Seats m c seen) :
    ∃ v, (resetProcessor 0).Yields w ⟨⟩ v ∧ v.Seats m c none :=
  ⟨_, (yields_processor hw.processor).bind ⟨rfl, rfl⟩, hw.note none⟩

/-- The step was told what is new; then the columns are noted down, and the scores are masked. -/
theorem Seats.exists_call {k : Matcher} (hw : w.Seats m c seen)
    (htell : (tellRows [0] [ids] seen).Yields w () v) (hv : Goes w 0 (k, d) v)
    (hprocess : Decoding.process type s k = (pure (.scores masked), n)) :
    ∃ u, (call 0 type [ids] (.rows [s])).Yields w (.rows [masked]) u ∧
      u.Seats n d (some ids.length) := by
  have hnoted := (hw.goes hv).note (some ids.length)
  have hanswer : (Decoding.process type s k).1.result = .ok (.scores masked) := by
    rw [hprocess]
    rfl
  obtain ⟨u, hmask, hu⟩ := exists_process_row hnoted.sound hnoted.row hanswer
  rw [hprocess] at hu
  refine ⟨u, ?_, hnoted.goes hu⟩
  refine (yields_processor hw.processor).bind (htell.bind ?_)
  refine Action.Yields.bind (a := ⟨⟩) ⟨rfl, rfl⟩ ?_
  refine Action.Yields.bind (a := [s]) ⟨rfl, rfl⟩ ?_
  have hrows : (maskRows type [0] [s]).Yields _ [masked] u := hmask.bind ⟨rfl, rfl⟩
  exact hrows.bind ⟨rfl, rfl⟩

/-- The first call starts the prompt, and masks by the matcher that is at the start then. -/
theorem Seats.exists_call_first {k : Matcher} (hw : w.Seats m c none)
    (hstart : m.reset.toOption.getD m = k)
    (hprocess : Decoding.process type s k = (pure (.scores masked), n)) :
    ∃ v, (call 0 type [ids] (.rows [s])).Yields w (.rows [masked]) v ∧
      v.Seats n c (some ids.length) := by
  obtain ⟨v, hprompt, hv⟩ := exists_promptStart_row hw.sound hw.row
  rw [hstart] at hv
  have htell : (tellRows [0] [ids] none).Yields w () v := hprompt.bind ⟨rfl, rfl⟩
  exact hw.exists_call htell hv hprocess

/-- A later call tells the matcher of the one token that was added, and masks by what it is then. -/
theorem Seats.exists_call_next {t : Value} {l : Nat} {k : Matcher} (hw : w.Seats m c (some l))
    (hids : ids.drop l = [t]) (hsampled : Decoding.sampled t m c = (pure (), k, d))
    (hprocess : Decoding.process type s k = (pure (.scores masked), n)) :
    ∃ v, (call 0 type [ids] (.rows [s])).Yields w (.rows [masked]) v ∧
      v.Seats n d (some ids.length) := by
  obtain ⟨v, htold, hv⟩ := exists_sampled_row (t := t) hw.sound hw.row (by rw [hsampled]; rfl)
  rw [hsampled] at hv
  have hfeed : (feedRows [0] [[t]]).Yields w () v := by
    refine Action.Yields.bind (a := ⟨⟩) ?_ ⟨rfl, rfl⟩
    exact htold.bind ⟨rfl, rfl⟩
  rw [← hids] at hfeed
  exact hw.exists_call hfeed hv hprocess

/-! ## Closing -/

theorem Seats.exists_step (hw : w.Seats m c seen) :
    ∃ x, w.steps[0]? = some x ∧ w.matcherAt 0 = some m ∧ x.counts = c := by
  obtain ⟨x, hx, hm, hc⟩ := row_eq_some.1 hw.row
  have howner : some x.matcher = some 0 := by
    rw [← hw.owner, Workspace.owner, hx, Option.map_some]
  exact ⟨x, hx, Option.some.inj howner ▸ hm, hc⟩

/-- At the end the matcher is asked whether a text may stop, the counts are read, and the session
and its matcher are closed. -/
theorem Seats.exists_end (hw : w.Seats m c seen) (hopen : m.closed = false) {b : Bool}
    (hb : m.canTerminate = .ok b) : ∃ v x u, (canTerminate 0).Yields w b v ∧
      (step 0).Yields v x v ∧ x.counts = c ∧ (closeSession 0).Yields v () u := by
  obtain ⟨x, hx, hm, hcounts⟩ := hw.exists_step
  obtain ⟨t, v, ht, hcan, hv⟩ := exists_canTerminate hw.sound hm hopen
  obtain rfl := Except.ok.inj (hb.symm.trans ht)
  have hstep : v.steps[0]? = some x := by rw [hv.rest, hx]
  have hsession : v.sessions[0]? = some ⟨0, 0, false⟩ := by rw [hv.rest, hw.session]
  obtain ⟨k, -, hk, -⟩ := matcherAt_eq_some.1 hv.matcher
  obtain ⟨y, hy⟩ : ∃ y, y = { v with sessions := v.sessions.setIfInBounds 0 ⟨0, 0, true⟩ } :=
    ⟨_, rfl⟩
  have hmatcher : y.matchers[0]? = some k := by
    rw [hy]
    exact hk
  have hclose : (close 0).Yields y () { y with matchers := y.matchers.setIfInBounds 0 k.close } :=
    (yields_matcher hmatcher).bind ⟨rfl, rfl⟩
  have hend : (closeSession 0).Yields v ()
      { y with matchers := y.matchers.setIfInBounds 0 k.close } := by
    refine (yields_session hsession).bind ?_
    exact Action.Yields.bind (a := ⟨⟩) (t := y) ⟨rfl, hy.symm⟩ hclose
  exact ⟨v, x, _, hcan, yields_step hstep, hcounts, hend⟩

end Seats

end GuidedJson.Decoding.Workspace
