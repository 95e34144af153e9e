import GuidedJson.Proofs.Decoding.Requests
import GuidedJson.Proofs.Grammar.Acceptance

/-!
# Shared tensors

The masks of a grammar are shared by all its matchers, and the buffer of a matcher is shared with
whoever it was handed out to. As long as no tensor is used for two things, a matcher goes its way
as if its buffer were its own: what is done to one matcher moves that matcher alone.
-/

namespace GuidedJson.Decoding.Workspace

open Automaton (Position)

/-! ## Uses of tensors -/

/-- What a tensor is used for: a mask of the grammar, the buffer of a matcher, or the tensor in which
a matcher looks for stop tokens. -/
inductive Use where
  | mask
  | buffer (i : Nat)
  | scratch (i : Nat)

/-- Whether the masks of a grammar lie in tensors that are used for nothing else. -/
structure Shares (g : Grammar) (shared : SharedMasks) (s : Store) (use : Handle → Use) : Prop where
  stop : use shared.stop = .mask
  stopMask : s.read? shared.stop = some g.stopMask
  position : ∀ {p : Position} {h}, shared.positions[p]? = some h → use h = .mask
  maskAt : ∀ {p : Position} {h}, shared.positions[p]? = some h → s.read? h = some (g.maskAt p)
  unmasked : ∀ {p : Position}, shared.positions[p]? = none →
    g.maskAt p = Mask.clear g.vocabulary.words

/-- Whether the tensors of a matcher are used for nothing else. -/
structure Owns (s : Store) (use : Handle → Use) (i : Nat) (t : Tensors) : Prop where
  buffer : use t.handle = .buffer i
  allocated : ∃ k, s.read? t.handle = some k
  scratch : ∀ h, t.scratch = some h → use h = .scratch i ∧ ∃ k, s.read? h = some k

/-- Whether every tensor of a workspace is used for one thing. -/
structure Separates (w : Workspace) (use : Handle → Use) : Prop where
  shares : Shares w.grammar w.shared w.store use
  grammar : ∀ {i : Nat} {m}, w.matchers[i]? = some m → m.grammar = w.grammar
  owns : ∀ {i : Nat} {m}, w.matchers[i]? = some m → Owns w.store use i m.buffer

/-- Whether no tensor of a workspace is used for two things. -/
def Sound (w : Workspace) : Prop := ∃ use, w.Separates use

/-- What is left of the tensors when something is done for one matcher: all of them are still there,
for the same use, and only those of the matcher may hold other words. -/
structure Spares (i : Nat) (s : Store) (use : Handle → Use) (t : Store) (use' : Handle → Use) :
    Prop where
  same : ∀ {h k}, s.read? h = some k → use' h = use h
  read : ∀ {h k}, s.read? h = some k → ∃ l, t.read? h = some l
  words : ∀ {h k}, s.read? h = some k → use h ≠ .buffer i → use h ≠ .scratch i →
    t.read? h = some k

section Spares

variable {g : Grammar} {shared : SharedMasks} {i j : Nat} {s t : Store}
  {use use' : Handle → Use} {h : Handle} {k : Mask} {b : Tensors}

theorem Spares.refl (i : Nat) (s : Store) (use : Handle → Use) : Spares i s use s use :=
  ⟨fun _ => rfl, fun hread => ⟨_, hread⟩, fun hread _ _ => hread⟩

theorem Spares.write (hh : use h = .buffer i ∨ use h = .scratch i) (k : Mask) :
    Spares i s use (s.write h k) use where
  same _ := rfl
  read := Store.exists_read?_write
  words hread hbuffer hscratch := by
    refine (Store.read?_write_of_ne ?_).trans hread
    rintro rfl
    rcases hh with hh | hh
    · exact hbuffer hh
    · exact hscratch hh

/-- A tensor that is allocated is used for what it is allocated for. -/
theorem Spares.allocate (i : Nat) (s : Store) (use : Handle → Use) (k : Mask) (a : Use) :
    Spares i s use (s.allocate k) (Function.update use s.next a) where
  same hread := Function.update_of_ne (Store.ne_next hread) _ _
  read hread := ⟨_, Store.read?_allocate hread⟩
  words hread _ _ := Store.read?_allocate hread

theorem Shares.of_spares (h : Shares g shared s use) (hst : Spares i s use t use') :
    Shares g shared t use' where
  stop := (hst.same h.stopMask).trans h.stop
  stopMask := hst.words h.stopMask (by simp [h.stop]) (by simp [h.stop])
  position hp := (hst.same (h.maskAt hp)).trans (h.position hp)
  maskAt hp := hst.words (h.maskAt hp) (by simp [h.position hp]) (by simp [h.position hp])
  unmasked := h.unmasked

theorem Owns.of_spares (h : Owns s use j b) (hst : Spares i s use t use') : Owns t use' j b := by
  obtain ⟨k, hk⟩ := h.allocated
  refine ⟨(hst.same hk).trans h.buffer, hst.read hk, fun a ha => ?_⟩
  obtain ⟨hscratch, l, hl⟩ := h.scratch a ha
  exact ⟨(hst.same hl).trans hscratch, hst.read hl⟩

/-- What is in the buffer of another matcher stays there. -/
theorem Owns.read_of_spares (h : Owns s use j b) (hst : Spares i s use t use') (hne : j ≠ i) :
    t.read? b.handle = s.read? b.handle := by
  obtain ⟨k, hk⟩ := h.allocated
  exact (hst.words hk (by simpa [h.buffer] using hne) (by simp [h.buffer])).trans hk.symm

end Spares

/-! ## Matchers of a workspace -/

/-- A matcher of a workspace with what its buffer holds. -/
def matcherAt (w : Workspace) (i : Nat) : Option Matcher := do
  let m ← w.matchers[i]?
  return m.withBuffer (← w.store.read? m.buffer.handle)

/-- The tensor that a matcher hands out. -/
def handle? (w : Workspace) (i : Nat) : Option Handle := w.matchers[i]?.map (·.buffer.handle)

/-- What an operation on a matcher leaves of a workspace: that matcher has moved, and its buffer is
still the same tensor. -/
structure Turns (w : Workspace) (i : Nat) (n : Matcher) (v : Workspace) : Prop where
  sound : v.Sound
  matcher : v.matcherAt i = some n
  others : ∀ {j}, j ≠ i → v.matcherAt j = w.matcherAt j
  handle : v.handle? = w.handle?
  rest : v = { w with store := v.store, matchers := v.matchers }

section Turns

variable {w v : Workspace} {use : Handle → Use} {i j : Nat} {m : Matcher} {b : Matcher Tensors}
  {k : Mask}

theorem matcherAt_eq_some : w.matcherAt i = some m ↔
    ∃ b k, w.matchers[i]? = some b ∧ w.store.read? b.buffer.handle = some k ∧
      b.withBuffer k = m := by
  simp [matcherAt, Option.bind_eq_some_iff]

theorem handle?_eq (hb : w.matchers[i]? = some b) : w.handle? i = some b.buffer.handle := by
  rw [handle?, hb]
  rfl

/-- Tensors stay apart where a matcher is added or put back that has tensors of its own. -/
theorem Separates.of_matchers {s : Store} {use' : Handle → Use} {ms : Array (Matcher Tensors)}
    (hw : w.Separates use) (hs : Spares i w.store use s use')
    (hms : ∀ {j n}, ms[j]? = some n → w.matchers[j]? = some n ∨
      n.grammar = w.grammar ∧ Owns s use' j n.buffer) :
    Separates { w with store := s, matchers := ms } use' where
  shares := hw.shares.of_spares hs
  grammar hj := (hms hj).elim hw.grammar And.left
  owns hj := (hms hj).elim (fun hj => (hw.owns hj).of_spares hs) And.right

/-- A matcher is where it was while something is done for another one. -/
theorem Separates.matcherAt_eq {s : Store} {use' : Handle → Use} {ms : Array (Matcher Tensors)}
    (hw : w.Separates use) (hs : Spares i w.store use s use') (hne : j ≠ i)
    (hms : ms[j]? = w.matchers[j]?) :
    matcherAt { w with store := s, matchers := ms } j = w.matcherAt j := by
  unfold matcherAt
  dsimp only
  rw [hms]
  cases hj : w.matchers[j]? with
  | none => rfl
  | some m => simp only [Option.bind_eq_bind, Option.bind_some, (hw.owns hj).read_of_spares hs hne]

theorem Turns.refl (hw : w.Sound) (hm : w.matcherAt i = some m) : Turns w i m w :=
  ⟨hw, hm, fun _ => rfl, rfl, rfl⟩

/-- When only tensors of one matcher get other words and only that matcher is put back, it is where
it was put back, and its buffer holds what is there now. -/
theorem turns_of_spares {s : Store} {use' : Handle → Use} {n : Matcher Tensors}
    (hw : w.Separates use) (hb : w.matchers[i]? = some b) (hs : Spares i w.store use s use')
    (hgrammar : n.grammar = b.grammar) (hhandle : n.buffer.handle = b.buffer.handle)
    (howns : Owns s use' i n.buffer) (hk : s.read? n.buffer.handle = some k) :
    Turns w i (n.withBuffer k)
      { w with store := s, matchers := w.matchers.setIfInBounds i n } := by
  have hlt := (Array.getElem?_eq_some_iff.1 hb).1
  have hself : (w.matchers.setIfInBounds i n)[i]? = some n :=
    Array.getElem?_setIfInBounds_self_of_lt hlt
  have hothers {j : Nat} (hne : j ≠ i) : (w.matchers.setIfInBounds i n)[j]? = w.matchers[j]? :=
    Array.getElem?_setIfInBounds_ne hne.symm
  refine ⟨⟨use', hw.of_matchers hs fun {j m} hj => ?_⟩,
    matcherAt_eq_some.2 ⟨n, k, hself, hk, rfl⟩, fun hne => hw.matcherAt_eq hs hne (hothers hne),
    ?_, rfl⟩
  -- The tensors of the matcher that is put back are its own; those of the others were spared.
  · by_cases hne : j = i
    · subst hne
      obtain rfl := Option.some.inj (hself.symm.trans hj)
      exact .inr ⟨hgrammar.trans (hw.grammar hb), howns⟩
    · exact .inl ((hothers hne).symm.trans hj)
  · funext j
    unfold handle?
    by_cases hne : j = i
    · subst hne
      rw [hself, hb, Option.map_some, Option.map_some, hhandle]
    · rw [hothers hne]

/-- Matchers that turn one after the other. -/
theorem Turns.trans {u : Workspace} {n : Matcher} (hu : Turns w i m u) (hv : Turns u i n v) :
    Turns w i n v := by
  refine ⟨hv.sound, hv.matcher, fun hne => (hv.others hne).trans (hu.others hne),
    hv.handle.trans hu.handle, ?_⟩
  have hrest := hv.rest
  rw [hu.rest] at hrest
  exact hrest

/-- A matcher that kept its grammar and its tensors is put back. -/
theorem turns_put {n : Matcher Tensors} (hw : w.Separates use) (hb : w.matchers[i]? = some b)
    (hk : w.store.read? b.buffer.handle = some k) (hgrammar : n.grammar = b.grammar)
    (hbuffer : n.buffer = b.buffer) :
    Turns w i (n.withBuffer k) { w with matchers := w.matchers.setIfInBounds i n } :=
  turns_of_spares hw hb (.refl i w.store use) hgrammar (by rw [hbuffer]) (hbuffer ▸ hw.owns hb)
    (by rwa [hbuffer])

/-- A tensor of a matcher gets other words. -/
theorem turns_write {h : Handle} {l : Mask} (hw : w.Separates use) (hb : w.matchers[i]? = some b)
    (hh : use h = .buffer i ∨ use h = .scratch i)
    (hk : (w.store.write h l).read? b.buffer.handle = some k) :
    Turns w i (b.withBuffer k) { w with store := w.store.write h l } := by
  have hspares : Spares i w.store use (w.store.write h l) use := .write hh l
  have hturns := turns_of_spares hw hb hspares rfl rfl ((hw.owns hb).of_spares hspares) hk
  rwa [setIfInBounds_self hb] at hturns

end Turns

/-! ## Requests to a matcher -/

section Requests

variable {w v : Workspace} {use : Handle → Use} {i j : Nat} {m : Matcher} {b : Matcher Tensors}
  {h : Handle} {k l : Mask}

theorem yields_read (hk : w.store.read? h = some k) : (read h).Yields w k w :=
  Action.Yields.bind (a := w) ⟨rfl, rfl⟩ ⟨item_eq_ok hk, rfl⟩

theorem yields_write : (write h k).Yields w () { w with store := w.store.write h k } := ⟨rfl, rfl⟩

theorem yields_allocate :
    (allocate k).Yields w w.store.next { w with store := w.store.allocate k } := ⟨rfl, rfl⟩

/-- The mask of a matcher lies in the tensor that is its source, or nothing is allowed. -/
theorem Separates.source?_cases (hw : w.Separates use) (hb : b.grammar = w.grammar) :
    (∃ h, w.source? b = some h ∧ w.store.read? h = some b.mask) ∨
      w.source? b = none ∧ b.mask = Mask.clear b.grammar.vocabulary.words := by
  unfold source? Matcher.mask
  rw [hb]
  split
  next => exact .inl ⟨_, rfl, hw.shares.stopMask⟩
  next =>
    cases hp : w.shared.positions[b.position]? with
    | none => exact .inr ⟨rfl, hw.shares.unmasked hp⟩
    | some h => exact .inl ⟨h, rfl, hw.shares.maskAt hp⟩

theorem Separates.yields_copyMask (hw : w.Separates use) (hb : b.grammar = w.grammar)
    (h : Handle) : (copyMask b h).Yields w () { w with store := w.store.write h b.mask } := by
  refine Action.Yields.bind (a := w) ⟨rfl, rfl⟩ ?_
  obtain ⟨source, hsource, hread⟩ | ⟨hsource, hmask⟩ := hw.source?_cases hb
  · rw [hsource]
    exact (yields_read hread).bind yields_write
  · rw [hsource, hmask]
    exact yields_write

theorem exists_fill (hw : w.Sound) (hm : w.matcherAt i = some m) (hopen : m.closed = false) :
    ∃ h v, (fill i).Yields w h v ∧ w.handle? i = some h ∧
      Turns w i { m with buffer := m.mask } v := by
  obtain ⟨use, hw⟩ := hw
  obtain ⟨b, k, hb, hk, rfl⟩ := matcherAt_eq_some.1 hm
  have hguard : b.guardOpen = .ok () := Matcher.guardOpen_of_open hopen
  refine ⟨b.buffer.handle, _, ?_, handle?_eq hb, turns_write hw hb (.inl (hw.owns hb).buffer)
    (Store.read?_write_self hk)⟩
  refine (yields_matcher hb).bind ((yields_ok hguard).bind ?_)
  exact (hw.yields_copyMask (hw.grammar hb) b.buffer.handle).bind ⟨rfl, rfl⟩

theorem fails_fill (hm : w.matcherAt i = some m) (hclosed : m.closed = true) :
    (fill i).Fails w (.closed m.stopCheck.owner) w := by
  obtain ⟨b, k, hb, -, rfl⟩ := matcherAt_eq_some.1 hm
  have hguard : b.guardOpen = .error (.closed b.stopCheck.owner) :=
    Matcher.guardOpen_of_closed hclosed
  refine (yields_matcher hb).bind_fails ?_
  rw [hguard]
  exact Action.Fails.bind ⟨rfl, rfl⟩ _

theorem exists_advance (hw : w.Sound) (hm : w.matcherAt i = some m) (hopen : m.closed = false)
    (id : Int) : ∃ v, (advance i id).Yields w (m.accept? id).isSome v ∧
      Turns w i ((m.accept? id).getD m) v := by
  obtain ⟨use, hw⟩ := hw
  obtain ⟨b, k, hb, hk, rfl⟩ := matcherAt_eq_some.1 hm
  have hadvance := Matcher.advance_of_open (m := b) hopen id
  rw [Matcher.accept?_withBuffer]
  cases haccept : b.accept? id with
  | none =>
    rw [haccept] at hadvance
    refine ⟨_, ?_, turns_put hw hb hk rfl rfl⟩
    exact (yields_matcher hb).bind ((yields_ok hadvance).bind ⟨rfl, rfl⟩)
  | some n =>
    rw [haccept] at hadvance
    have hmoved := Matcher.eq_of_accept? haccept
    refine ⟨_, ?_, turns_put hw hb hk (by rw [hmoved]) (by rw [hmoved])⟩
    exact (yields_matcher hb).bind ((yields_ok hadvance).bind ⟨rfl, rfl⟩)

theorem exists_reset (hw : w.Sound) (hm : w.matcherAt i = some m) (hopen : m.closed = false) :
    ∃ v, (reset i).Yields w () v ∧
      Turns w i { m with position := Automaton.Machine.origin, terminated := false } v := by
  obtain ⟨use, hw⟩ := hw
  obtain ⟨b, k, hb, hk, rfl⟩ := matcherAt_eq_some.1 hm
  have hreset := Matcher.reset_of_open (m := b) hopen
  refine ⟨_, ?_, turns_put (n := { b with
    position := Automaton.Machine.origin, terminated := false }) hw hb hk rfl rfl⟩
  exact (yields_matcher hb).bind ((yields_ok hreset).bind ⟨rfl, rfl⟩)

theorem yields_isTerminated (hm : w.matcherAt i = some m) (hopen : m.closed = false) :
    (isTerminated i).Yields w m.terminated w := by
  obtain ⟨b, k, hb, -, rfl⟩ := matcherAt_eq_some.1 hm
  exact (yields_matcher hb).bind (yields_ok (Matcher.isTerminated_of_open (m := b) hopen))

/-- A matcher has its tensor for stop tokens, or gets one, and is where it was. -/
theorem Separates.exists_scratch (hw : w.Separates use) (hb : w.matchers[i]? = some b)
    (hk : w.store.read? b.buffer.handle = some k) :
    ∃ h n v, (scratch i).Yields w h v ∧ v.matchers[i]? = some n ∧ n.buffer.scratch = some h ∧
      Turns w i (b.withBuffer k) v := by
  cases hscratch : b.buffer.scratch with
  | some h =>
    refine ⟨h, b, w, (yields_matcher hb).bind ?_, hb, hscratch,
      .refl ⟨use, hw⟩ (matcherAt_eq_some.2 ⟨b, k, hb, hk, rfl⟩)⟩
    rw [hscratch]
    exact ⟨rfl, rfl⟩
  -- The tensor that is allocated is used for nothing yet.
  | none =>
    have hspares : Spares i w.store use (w.store.allocate (Mask.full b.grammar.vocabulary.words)) _ :=
      .allocate i w.store use _ (.scratch i)
    have howns := (hw.owns hb).of_spares hspares
    have howns' : Owns (w.store.allocate (Mask.full b.grammar.vocabulary.words))
        (Function.update use w.store.next (.scratch i)) i
        ⟨b.buffer.handle, some w.store.next⟩ := by
      refine ⟨howns.buffer, howns.allocated, fun h hh => ?_⟩
      obtain rfl := Option.some.inj hh
      exact ⟨Function.update_self .., _, Store.read?_allocate_next⟩
    have hlt := (Array.getElem?_eq_some_iff.1 hb).1
    refine ⟨w.store.next, b.withBuffer ⟨b.buffer.handle, some w.store.next⟩, { w with
      store := w.store.allocate (Mask.full b.grammar.vocabulary.words)
      matchers := w.matchers.setIfInBounds i (b.withBuffer ⟨b.buffer.handle, some w.store.next⟩) },
      (yields_matcher hb).bind ?_, Array.getElem?_setIfInBounds_self_of_lt hlt, rfl, ?_⟩
    · rw [hscratch]
      exact yields_allocate.bind ⟨rfl, rfl⟩
    · exact turns_of_spares (n := b.withBuffer ⟨b.buffer.handle, some w.store.next⟩) hw hb hspares
        rfl rfl howns' (Store.read?_allocate hk)

/-- Asking whether a text may stop leaves a matcher where it is, and its buffer as it is. -/
theorem exists_canTerminate (hw : w.Sound) (hm : w.matcherAt i = some m)
    (hopen : m.closed = false) : ∃ t v, m.canTerminate = .ok t ∧
      (canTerminate i).Yields w t v ∧ Turns w i m v := by
  have hrefl := Turns.refl hw hm
  obtain ⟨use, hw⟩ := hw
  obtain ⟨b, k, hb, hk, rfl⟩ := matcherAt_eq_some.1 hm
  have hguard : b.guardOpen = .ok () := Matcher.guardOpen_of_open hopen
  cases hcheck : b.stopCheck with
  | position =>
    refine ⟨b.isFinal, w, ?_, ?_, hrefl⟩
    · rw [Matcher.canTerminate_of_open hopen]
      simp only [Matcher.withBuffer, hcheck, Matcher.isFinal]
    · refine (yields_matcher hb).bind ((yields_ok hguard).bind ?_)
      rw [hcheck]
      exact ⟨rfl, rfl⟩
  | mask =>
    obtain ⟨h, n, v, hscratch, hn, hh, hturns⟩ := hw.exists_scratch hb hk
    obtain ⟨use', hv⟩ := hturns.sound
    obtain ⟨n', k', hn', hk', heq⟩ := matcherAt_eq_some.1 hturns.matcher
    obtain rfl := Option.some.inj (hn.symm.trans hn')
    have hgrammar : b.grammar = v.grammar := (hw.grammar hb).trans (by rw [hturns.rest])
    obtain ⟨huse, l, hl⟩ := (hv.owns hn).scratch h hh
    -- The tensor for stop tokens is not the buffer, as the two have different uses.
    have hne : h ≠ n.buffer.handle := by
      rintro rfl
      cases huse.symm.trans (hv.owns hn).buffer
    have hwrite := turns_write hv hn (.inr huse) ((Store.read?_write_of_ne hne).trans hk')
      (l := b.mask)
    rw [heq] at hwrite
    refine ⟨b.stopAllowed, _, ?_, ?_, hturns.trans hwrite⟩
    · rw [Matcher.canTerminate_of_open hopen]
      simp only [Matcher.withBuffer, hcheck, Matcher.stopAllowed, Matcher.mask]
    · refine (yields_matcher hb).bind ((yields_ok hguard).bind ?_)
      rw [hcheck]
      refine hscratch.bind ((hv.yields_copyMask hgrammar h).bind ?_)
      exact (yields_read (Store.read?_write_self hl)).bind ⟨rfl, rfl⟩

/-- Whoever has the buffer of a matcher may write there: the matcher is where it was. -/
theorem exists_overwrite (hw : w.Sound) (hm : w.matcherAt i = some m) (hh : w.handle? i = some h)
    (f : Mask → Mask) : ∃ v, (overwrite h f).Yields w () v ∧
      Turns w i { m with buffer := f m.buffer } v := by
  obtain ⟨use, hw⟩ := hw
  obtain ⟨b, k, hb, hk, rfl⟩ := matcherAt_eq_some.1 hm
  obtain rfl := Option.some.inj ((handle?_eq hb).symm.trans hh)
  exact ⟨_, (yields_read hk).bind yields_write,
    turns_write hw hb (.inl (hw.owns hb).buffer) (Store.read?_write_self hk)⟩

theorem yields_read_handle (hm : w.matcherAt i = some m) (hh : w.handle? i = some h) :
    (read h).Yields w m.buffer w := by
  obtain ⟨b, k, hb, hk, rfl⟩ := matcherAt_eq_some.1 hm
  obtain rfl := Option.some.inj ((handle?_eq hb).symm.trans hh)
  exact yields_read hk

end Requests

/-! ## Workspaces of a grammar -/

section Opened

variable {g : Grammar} {w : Workspace} {p : Position} {k : Mask}

/-- The mask of a position lies in the tensor that is noted for it. -/
theorem exists_position_ofGrammar (h : g.masks[p]? = some k) :
    ∃ i, (ofGrammar g).shared.positions[p]? = some i ∧ (ofGrammar g).store.read? i = some k := by
  have hmem := Std.HashMap.mem_toList_iff_getElem?_eq_some.2 h
  -- The tensors stand in the order of this list, behind that of the stop tokens.
  obtain ⟨i, hi⟩ := List.getElem?_of_mem hmem
  have hdistinct : g.masks.toList.zipIdx.Pairwise fun x y => (x.1.1 == y.1.1) = false := by
    have hkeys := Std.HashMap.distinct_keys_toList (m := g.masks)
    rw [← List.zipIdx_map_fst 0 g.masks.toList] at hkeys
    exact hkeys.of_map Prod.fst fun _ _ hne => hne
  have hplace : (p, (⟨i + 1⟩ : Handle)) ∈
      g.masks.toList.zipIdx.map fun x => (x.1.1, (⟨x.2 + 1⟩ : Handle)) :=
    List.mem_map.2 ⟨((p, k), i), List.mem_zipIdx_iff_getElem?.2 hi, rfl⟩
  refine ⟨⟨i + 1⟩, Std.HashMap.getElem?_ofList_of_mem BEq.rfl (List.pairwise_map.2 hdistinct) hplace,
    ?_⟩
  rw [Store.read?, ofGrammar, List.getElem?_toArray, List.getElem?_cons_succ, List.getElem?_map, hi]
  rfl

theorem positions_ofGrammar (h : g.masks[p]? = none) :
    (ofGrammar g).shared.positions[p]? = none := by
  refine Std.HashMap.getElem?_ofList_of_contains_eq_false ?_
  rw [List.map_map, List.contains_eq_any_beq, List.any_eq_false]
  rintro q hq hpq
  obtain ⟨⟨⟨q', k⟩, i⟩, hmem, rfl⟩ := List.mem_map.1 hq
  obtain rfl : p = q' := eq_of_beq hpq
  have hk := Std.HashMap.mem_toList_iff_getElem?_eq_some.1
    (List.mem_of_getElem? (List.mem_zipIdx_iff_getElem?.1 hmem))
  rw [h] at hk
  cases hk

theorem shares_ofGrammar (g : Grammar) :
    Shares g (ofGrammar g).shared (ofGrammar g).store fun _ => .mask := by
  have hmaskAt (p : Position) : g.maskAt p = (g.masks[p]?).getD (Mask.clear g.vocabulary.words) :=
    Std.HashMap.getD_eq_getD_getElem?
  refine ⟨rfl, rfl, fun _ => rfl, ?_, ?_⟩
  · intro p h hp
    cases hk : g.masks[p]? with
    | none =>
      rw [positions_ofGrammar hk] at hp
      cases hp
    | some k =>
      obtain ⟨i, hi, hread⟩ := exists_position_ofGrammar hk
      obtain rfl := Option.some.inj (hi.symm.trans hp)
      rw [hread, hmaskAt, hk]
      rfl
  · intro p hp
    cases hk : g.masks[p]? with
    | none =>
      rw [hmaskAt, hk]
      rfl
    | some k =>
      obtain ⟨i, hi, -⟩ := exists_position_ofGrammar hk
      rw [hi] at hp
      cases hp

theorem sound_ofGrammar (g : Grammar) : (ofGrammar g).Sound :=
  ⟨_, shares_ofGrammar g, by simp [ofGrammar], by simp [ofGrammar]⟩

/-- What opening a matcher leaves of a workspace: a fresh matcher behind the others. -/
structure Opens (w : Workspace) (check : StopCheck) (v : Workspace) : Prop where
  sound : v.Sound
  size : v.matchers.size = w.matchers.size + 1
  matcher : v.matcherAt w.matchers.size = some (.fresh w.grammar check)
  others : ∀ {j}, j < w.matchers.size → v.matcherAt j = w.matcherAt j
  handle : ∀ {j}, j < w.matchers.size → v.handle? j = w.handle? j
  rest : v = { w with store := v.store, matchers := v.matchers }

theorem exists_newMatcher (hw : w.Sound) (check : StopCheck) :
    ∃ v, (newMatcher check).Yields w w.matchers.size v ∧ Opens w check v := by
  obtain ⟨use, hw⟩ := hw
  obtain ⟨k, hk⟩ : ∃ k, k = (Matcher.fresh w.grammar check).buffer := ⟨_, rfl⟩
  have hspares : Spares w.matchers.size w.store use (w.store.allocate k) _ :=
    .allocate w.matchers.size w.store use k (.buffer w.matchers.size)
  have howns : Owns (w.store.allocate k)
      (Function.update use w.store.next (.buffer w.matchers.size)) w.matchers.size
      ⟨w.store.next, none⟩ :=
    ⟨Function.update_self .., ⟨k, Store.read?_allocate_next⟩, by simp⟩
  obtain ⟨b, hb⟩ : ∃ b, b = (Matcher.fresh w.grammar check).withBuffer
      (⟨w.store.next, none⟩ : Tensors) := ⟨_, rfl⟩
  have hpush {j : Nat} (hj : j < w.matchers.size) : (w.matchers.push b)[j]? = w.matchers[j]? := by
    rw [Array.getElem?_push_lt hj, Array.getElem?_eq_getElem hj]
  refine ⟨{ w with store := w.store.allocate k, matchers := w.matchers.push b }, ?_,
    ⟨⟨_, hw.of_matchers hspares fun {j m} hj => ?_⟩, by simp, ?_,
      fun hj => hw.matcherAt_eq hspares (Nat.ne_of_lt hj) (hpush hj),
      fun hj => congrArg (Option.map _) (hpush hj), rfl⟩⟩
  · subst hb hk
    exact Action.Yields.bind (a := w) ⟨rfl, rfl⟩ (yields_allocate.bind ⟨rfl, rfl⟩)
  · rw [Array.getElem?_push] at hj
    split at hj
    next hsize =>
      obtain rfl := Option.some.inj hj
      rw [hsize, hb]
      exact .inr ⟨rfl, howns⟩
    next => exact .inl hj
  · refine matcherAt_eq_some.2 ⟨b, k, Array.getElem?_push_size, ?_, ?_⟩
    · rw [hb]
      exact Store.read?_allocate_next
    · rw [hb, hk]
      rfl

end Opened

end GuidedJson.Decoding.Workspace
