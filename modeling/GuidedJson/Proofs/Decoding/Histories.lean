import GuidedJson.Proofs.Decoding.Sharing
import GuidedJson.Proofs.Grammar.Masks

/-!
# Histories of matchers

Several matchers of one grammar are asked in any order, and whoever was handed a buffer may write
into it. What a matcher answers depends on nothing but the tokens that it accepted since it was last
reset: a fresh matcher that shares its buffer with nobody and is fed those tokens answers the same.
-/

namespace GuidedJson

open Pattern (Regex)

namespace Matcher

/-! ## What accepting tokens keeps -/

section Kept

variable {g : Grammar} {r : Regex} {m n : Matcher} {id : Int} {ids js : List Int}

theorem TakesAll.eq (hopen : m.closed = false) (h : m.TakesAll ids n) :
    n = { m with position := n.position, terminated := n.terminated } := by
  induction ids generalizing m with
  | nil =>
    obtain rfl := takesAll_nil.1 h
    rfl
  | cons id ids ih =>
    obtain ⟨k, hk, h⟩ := takesAll_cons.1 h
    have hmoved := eq_of_accept? ((takes_iff hopen).1 hk)
    have hk : k.closed = false := by rw [hmoved, hopen]
    rw [ih hk h, hmoved]

theorem TakesAll.snoc (h : m.TakesAll ids n) {k : Matcher} (hk : n.Takes id k) :
    m.TakesAll (ids ++ [id]) k := by
  induction ids generalizing m with
  | nil =>
    obtain rfl := takesAll_nil.1 h
    exact takesAll_cons.2 ⟨k, hk, takesAll_nil.2 rfl⟩
  | cons j js ih =>
    obtain ⟨l, hl, h⟩ := takesAll_cons.1 h
    exact takesAll_cons.2 ⟨l, hl, ih h⟩

theorem Stands.of_takesAll (hm : m.Stands g) (h : m.TakesAll ids n) : n.Stands g := by
  induction ids generalizing m with
  | nil =>
    obtain rfl := takesAll_nil.1 h
    exact hm
  | cons id ids ih =>
    obtain ⟨k, hk, h⟩ := takesAll_cons.1 h
    exact ih (hm.accept? ((takes_iff hm.isOpen).1 hk)) h

end Kept

end Matcher

namespace Decoding.Workspace

open Matcher (Answer Call)

/-! ## Operations -/

/-- What is done in a workspace: a matcher is asked, or one of the tensors that it handed out is
written or read. Those are counted in the order in which they were handed out. -/
inductive Operation where
  | ask (i : Nat) (c : Call)
  | write (i n : Nat) (f : Mask → Mask)
  | read (i n : Nat)

namespace Operation

/-- The matcher that an operation is about. -/
def target : Operation → Nat
  | .ask i _ | .write i _ _ | .read i _ => i

/-- Whether an operation has a matcher hand out a tensor. -/
def fills (i : Nat) : Operation → Bool
  | .ask j .fill => j == i
  | _ => false

/-- Whether an operation can be done behind others: there are so many matchers, and as many tensors
were handed out as it needs. -/
def Possible (count : Nat) (before : List Operation) : Operation → Prop
  | .ask i _ => i < count
  | .write i n _ | .read i n => i < count ∧ n < before.countP (fills i)

/-- Whether operations can be done one after the other, behind others. -/
def PossibleAll (count : Nat) : (before : List Operation) → List Operation → Prop
  | _, [] => True
  | before, o :: os => o.Possible count before ∧ PossibleAll count (before ++ [o]) os

end Operation

/-- What is replied: a matcher that fills its buffer hands it out, with the words that are there
now. -/
inductive Reply where
  | tensor (h : Handle) (k : Mask)
  | mask (k : Mask)
  | truth (b : Bool)
  | done

/-- What a matcher answers that shares its buffer with nobody. -/
def Reply.answer : Reply → Answer
  | .tensor _ k | .mask k => .mask k
  | .truth b => .truth b
  | .done => .done

/-- Asks a matcher of the workspace. -/
def ask (i : Nat) : Call → Request Reply
  | .fill => do
    let h ← fill i
    return .tensor h (← read h)
  | .advance id => return .truth (← advance i id)
  | .reset => do
    reset i
    return .done
  | .canTerminate => return .truth (← canTerminate i)
  | .isTerminated => return .truth (← isTerminated i)

/-- An operation and its reply. -/
abbrev Event := Operation × Reply

/-- The tensor that a matcher handed out. -/
def Event.handed (i : Nat) : Event → Option Handle
  | (.ask j .fill, .tensor h _) => if j = i then some h else none
  | _ => none

/-- The tensors that a matcher handed out. -/
def handles (i : Nat) (history : List Event) : List Handle := history.filterMap (Event.handed i)

/-- Does what can be done by someone who was there all the time. -/
def perform (history : List Event) : Operation → Request Reply
  | .ask i c => ask i c
  | .write i n f => do
    overwrite (← item (handles i history).toArray n) f
    return .done
  | .read i n => return .mask (← read (← item (handles i history).toArray n))

/-- Operations one after the other: all of them, with their replies. -/
def performAll (history : List Event) : List Operation → Request (List Event)
  | [] => return []
  | o :: os => do
    let a ← perform history o
    return (o, a) :: (← performAll (history ++ [(o, a)]) os)

/-- New matchers, one for each way to ask whether a text may stop. -/
def openAll : List StopCheck → Request Unit
  | [] => return ()
  | check :: checks => do
    let _ ← newMatcher check
    openAll checks

/-! ## Histories -/

namespace Event

/-- The tokens that a matcher accepted since it was last reset, after one more event. -/
def accepted (i : Nat) (ids : List Int) : Event → List Int
  | (.ask j (.advance id), .truth true) => if j = i then ids ++ [id] else ids
  | (.ask j .reset, _) => if j = i then [] else ids
  | _ => ids

/-- What is in the buffer of a matcher, after one more event. -/
def held (i : Nat) (b : Mask) : Event → Mask
  | (.ask j .fill, .tensor _ k) => if j = i then k else b
  | (.write j _ f, _) => if j = i then f b else b
  | _ => b

end Event

/-- The tokens that a matcher accepted since it was last reset. -/
def accepted (i : Nat) (history : List Event) : List Int := history.foldl (Event.accepted i) []

/-- What is in the buffer of a matcher: what it was last filled with, and what was written since into
a tensor that the matcher handed out. -/
def held (g : Grammar) (i : Nat) (history : List Event) : Mask :=
  history.foldl (Event.held i) (Mask.full g.vocabulary.words)

/-- Whether the reply of an event is the one that the history asks for. A matcher answers as a fresh
one does that was fed the tokens it accepted since it was last reset. -/
def Follows (g : Grammar) (checks : List StopCheck) (history : List Event) : Event → Prop
  | (.ask i c, a) => ∃ check, checks[i]? = some check ∧ ∃ m,
    (Matcher.fresh g check).TakesAll (accepted i history) m ∧ m.Stands g ∧
      ∃ n, m.call c = .ok (a.answer, n)
  | (.write _ _ _, a) => a = .done
  | (.read i _, a) => a = .mask (held g i history)

/-! ## One operation -/

section Steps

variable {g : Grammar} {r : Regex} {checks : List StopCheck} {history : List Event} {e : Event}
  {w v : Workspace} {i : Nat} {m n : Matcher} {a : Reply}

@[simp] theorem accepted_snoc (i : Nat) (history : List Event) (e : Event) :
    accepted i (history ++ [e]) = e.accepted i (accepted i history) := by
  simp [accepted]

@[simp] theorem held_snoc (g : Grammar) (i : Nat) (history : List Event) (e : Event) :
    held g i (history ++ [e]) = e.held i (held g i history) := by
  simp [held]

@[simp] theorem handles_snoc (i : Nat) (history : List Event) (e : Event) :
    handles i (history ++ [e]) = handles i history ++ (e.handed i).toList := by
  rw [handles, List.filterMap_append]
  cases h : e.handed i <;> simp [handles, h]

theorem Event.accepted_of_ne (h : e.1.target ≠ i) (ids : List Int) : e.accepted i ids = ids := by
  obtain ⟨o, a⟩ := e
  unfold Event.accepted
  split
  next hevent =>
    cases hevent
    exact if_neg h
  next hevent =>
    cases hevent
    exact if_neg h
  next => rfl

theorem Event.held_of_ne (h : e.1.target ≠ i) (b : Mask) : e.held i b = b := by
  obtain ⟨o, a⟩ := e
  unfold Event.held
  split
  next hevent =>
    cases hevent
    exact if_neg h
  next hevent =>
    cases hevent
    exact if_neg h
  next => rfl

theorem Operation.fills_of_ne {o : Operation} (h : o.target ≠ i) : o.fills i = false := by
  unfold Operation.fills
  split
  next => exact beq_eq_false_iff_ne.2 h
  next => rfl

theorem Event.handed_of_ne (h : e.1.target ≠ i) : e.handed i = none := by
  obtain ⟨o, a⟩ := e
  unfold Event.handed
  split
  next hevent =>
    cases hevent
    exact if_neg h
  next => rfl

/-- What a workspace holds after some events: of every matcher, a fresh one that took the tokens it
accepted, with what its buffer holds; and what a matcher handed out is its buffer. -/
structure Holds (g : Grammar) (checks : List StopCheck) (history : List Event) (w : Workspace) :
    Prop where
  sound : w.Sound
  matcher : ∀ i check, checks[i]? = some check → ∃ m,
    (Matcher.fresh g check).TakesAll (accepted i history) m ∧
      w.matcherAt i = some { m with buffer := held g i history }
  handle : ∀ i, ∀ h ∈ handles i history, w.handle? i = some h
  count : ∀ i, (handles i history).length = (history.map Prod.fst).countP (Operation.fills i)

/-- Asking a matcher of a sound workspace is asking a matcher that shares its buffer with nobody. -/
theorem exists_ask {check : StopCheck} {ids : List Int} {b : Mask} (hw : w.Sound)
    (hm : (Matcher.fresh g check).TakesAll ids m)
    (hb : w.matcherAt i = some { m with buffer := b }) (c : Call) :
    ∃ a v, (ask i c).Yields w a v ∧ (∃ k, m.call c = .ok (a.answer, k)) ∧
      (∃ n, (Matcher.fresh g check).TakesAll (Event.accepted i ids (.ask i c, a)) n ∧
        Turns w i { n with buffer := Event.held i b (.ask i c, a) } v) ∧
      Event.handed i (.ask i c, a) = if Operation.fills i (.ask i c) then w.handle? i else none := by
  have hm' := hm.eq rfl
  have hopen : m.closed = false := by
    rw [hm']
    rfl
  have hopen' : ({ m with buffer := b } : Matcher).closed = false := hopen
  cases c with
  | fill =>
    obtain ⟨h, v, hfill, hh, hturns⟩ := exists_fill hw hb hopen'
    have hread : (read h).Yields v m.mask v :=
      yields_read_handle hturns.matcher (by rw [hturns.handle, hh])
    refine ⟨.tensor h m.mask, v, hfill.bind (hread.bind ⟨rfl, rfl⟩),
      ⟨{ m with buffer := m.mask }, ?_⟩, ⟨m, hm, ?_⟩, ?_⟩
    · rw [Matcher.call, Matcher.fill_of_open hopen]
      rfl
    · rw [Event.held, if_pos rfl]
      exact hturns
    · rw [Event.handed, if_pos rfl, hh, Operation.fills, beq_self_eq_true, if_pos rfl]
  | advance id =>
    obtain ⟨v, hadvance, hturns⟩ := exists_advance hw hb hopen' id
    rw [Matcher.accept?_buffer] at hadvance hturns
    refine ⟨.truth (m.accept? id).isSome, v, ?_, ?_, ?_, rfl⟩
    · rw [Option.isSome_map] at hadvance
      exact hadvance.bind ⟨rfl, rfl⟩
    · rw [Matcher.call, Matcher.advance_of_open hopen]
      cases m.accept? id <;> exact ⟨_, rfl⟩
    · cases haccept : m.accept? id with
      | none =>
        rw [haccept] at hturns
        exact ⟨m, hm, hturns⟩
      | some n =>
        rw [haccept] at hturns
        refine ⟨n, ?_, hturns⟩
        rw [Option.isSome_some, Event.accepted, if_pos rfl]
        exact hm.snoc ((Matcher.takes_iff hopen).2 haccept)
  | reset =>
    obtain ⟨v, hreset, hturns⟩ := exists_reset hw hb hopen'
    refine ⟨.done, v, hreset.bind ⟨rfl, rfl⟩,
      ⟨{ m with position := Automaton.Machine.origin, terminated := false }, ?_⟩,
      ⟨Matcher.fresh g check, ?_, ?_⟩, rfl⟩
    · rw [Matcher.call, Matcher.reset_of_open hopen]
      rfl
    · rw [Event.accepted, if_pos rfl]
      exact Matcher.takesAll_nil.2 rfl
    · rw [hm'] at hturns
      exact hturns
  | canTerminate =>
    obtain ⟨t, v, ht, hterminate, hturns⟩ := exists_canTerminate hw hb hopen'
    refine ⟨.truth t, v, hterminate.bind ⟨rfl, rfl⟩, ⟨m, ?_⟩, ⟨m, hm, hturns⟩, rfl⟩
    have ht' : m.canTerminate = .ok t := ht
    rw [Matcher.call, ht']
    rfl
  | isTerminated =>
    have hterminated := yields_isTerminated hb hopen'
    refine ⟨.truth m.terminated, w, hterminated.bind ⟨rfl, rfl⟩, ⟨m, ?_⟩,
      ⟨m, hm, .refl hw hb⟩, rfl⟩
    rw [Matcher.call, Matcher.isTerminated_of_open hopen]
    rfl

/-- Matchers other than the one that an event is about stay as they are. -/
theorem Holds.snoc (hw : Holds g checks history w) {check : StopCheck}
    (hcheck : checks[i]? = some check) (he : e.1.target = i)
    (hn : (Matcher.fresh g check).TakesAll (e.accepted i (accepted i history)) n)
    (hv : Turns w i { n with buffer := e.held i (held g i history) } v)
    (hhanded : e.handed i = if e.1.fills i then w.handle? i else none) :
    Holds g checks (history ++ [e]) v := by
  obtain ⟨m, -, hm⟩ := hw.matcher i check hcheck
  obtain ⟨b, -, hb, -⟩ := matcherAt_eq_some.1 hm
  have hhandle : w.handle? i = some b.buffer.handle := handle?_eq hb
  refine ⟨hv.sound, fun j check' hcheck' => ?_, fun j h hh => ?_, fun j => ?_⟩
  -- For the matcher of the event the history goes on; for the others it stays as it is.
  · rw [accepted_snoc, held_snoc]
    by_cases hij : i = j
    · subst hij
      obtain rfl := Option.some.inj (hcheck.symm.trans hcheck')
      exact ⟨n, hn, hv.matcher⟩
    · have hne : e.1.target ≠ j := he ▸ hij
      obtain ⟨m, hm, hmatcher⟩ := hw.matcher j check' hcheck'
      rw [Event.accepted_of_ne hne, Event.held_of_ne hne]
      exact ⟨m, hm, (hv.others (Ne.symm hij)).trans hmatcher⟩
  · rw [hv.handle]
    rw [handles_snoc, List.mem_append] at hh
    rcases hh with hh | hh
    · exact hw.handle j h hh
    · rw [Option.mem_toList] at hh
      by_cases hij : i = j
      · subst hij
        rw [hhanded] at hh
        split at hh
        next => exact hh
        next => cases hh
      · rw [Event.handed_of_ne (he ▸ hij)] at hh
        cases hh
  · rw [handles_snoc, List.length_append, hw.count j, List.map_append, List.countP_append]
    congr 1
    by_cases hij : i = j
    · subst hij
      rw [hhanded, hhandle]
      cases hfills : e.1.fills i <;> simp [hfills]
    · have hne : e.1.target ≠ j := he ▸ hij
      simp [Event.handed_of_ne hne, Operation.fills_of_ne hne]

/-- A tensor that a matcher handed out is its buffer. -/
theorem Holds.exists_handle (hw : Holds g checks history w) {k : Nat}
    (hk : k < (history.map Prod.fst).countP (Operation.fills i)) :
    ∃ h, (handles i history).toArray[k]? = some h ∧ w.handle? i = some h := by
  rw [← hw.count i] at hk
  refine ⟨_, ?_, hw.handle i _ (List.getElem_mem hk)⟩
  rw [List.getElem?_toArray, List.getElem?_eq_getElem hk]

/-- One operation: its reply follows, and what the workspace holds then is what the history tells. -/
theorem Holds.perform (hg : g.Compiled r) (hw : Holds g checks history w) {o : Operation}
    (ho : o.Possible checks.length (history.map Prod.fst)) :
    ∃ a v, (perform history o).Yields w a v ∧ Follows g checks history (o, a) ∧
      Holds g checks (history ++ [(o, a)]) v := by
  cases o with
  | ask i c =>
    have hcheck := List.getElem?_eq_getElem ho
    obtain ⟨m, hm, hmatcher⟩ := hw.matcher _ _ hcheck
    obtain ⟨a, v, hask, hcall, ⟨n, hn, hturns⟩, hhanded⟩ := exists_ask hw.sound hm hmatcher c
    have hstands := (Matcher.stands_fresh hg checks[i]).of_takesAll hm
    exact ⟨a, v, hask, ⟨_, hcheck, m, hm, hstands, hcall⟩, hw.snoc hcheck rfl hn hturns hhanded⟩
  | write i k f =>
    have hcheck := List.getElem?_eq_getElem ho.1
    obtain ⟨m, hm, hmatcher⟩ := hw.matcher _ _ hcheck
    obtain ⟨h, hitem, hh⟩ := hw.exists_handle ho.2
    obtain ⟨v, hwrite, hturns⟩ := exists_overwrite hw.sound hmatcher hh f
    refine ⟨.done, v, ?_, rfl, hw.snoc hcheck rfl hm ?_ rfl⟩
    · exact (yields_ok (item_eq_ok hitem)).bind (hwrite.bind ⟨rfl, rfl⟩)
    · rw [Event.held, if_pos rfl]
      exact hturns
  | read i k =>
    have hcheck := List.getElem?_eq_getElem ho.1
    obtain ⟨m, hm, hmatcher⟩ := hw.matcher _ _ hcheck
    obtain ⟨h, hitem, hh⟩ := hw.exists_handle ho.2
    have hread := yields_read_handle hmatcher hh
    refine ⟨.mask (held g i history), w, ?_, rfl,
      hw.snoc hcheck rfl hm (.refl hw.sound hmatcher) rfl⟩
    exact (yields_ok (item_eq_ok hitem)).bind (hread.bind ⟨rfl, rfl⟩)

/-! ## Operations one after the other -/

/-- Matchers that are opened one after the other took nothing. -/
theorem exists_openAll (before checks : List StopCheck) (hw : w.Sound) (hg : w.grammar = g)
    (hsize : w.matchers.size = before.length)
    (hfresh : ∀ i check, before[i]? = some check → w.matcherAt i = some (.fresh g check)) :
    ∃ v, (openAll checks).Yields w () v ∧ v.Sound ∧
      ∀ i check, (before ++ checks)[i]? = some check → v.matcherAt i = some (.fresh g check) := by
  -- The matchers that are open already are kept apart: the next one goes behind them.
  induction checks generalizing before w with
  | nil =>
    rw [List.append_nil]
    exact ⟨w, ⟨rfl, rfl⟩, hw, hfresh⟩
  | cons check checks ih =>
    obtain ⟨u, hnew, hu⟩ := exists_newMatcher hw check
    have hug : u.grammar = g := by
      rw [hu.rest]
      exact hg
    have husize : u.matchers.size = (before ++ [check]).length := by
      rw [hu.size, hsize, List.length_append, List.length_singleton]
    have hufresh : ∀ i check', (before ++ [check])[i]? = some check' →
        u.matcherAt i = some (.fresh g check') := by
      intro i check' hi
      rw [List.getElem?_append] at hi
      split at hi
      next hlt => rw [hu.others (hsize ▸ hlt), hfresh i check' hi]
      next hle =>
        obtain ⟨hzero, rfl⟩ := List.getElem?_eq_some_iff.1 hi
        obtain rfl : i = w.matchers.size := by
          rw [List.length_singleton] at hzero
          omega
        rw [hu.matcher, hg]
        simp
    obtain ⟨v, hopen, hv, hvfresh⟩ := ih (before ++ [check]) hu.sound hug husize hufresh
    rw [List.append_assoc] at hvfresh
    exact ⟨v, hnew.bind hopen, hv, hvfresh⟩

theorem exists_holds_opened (g : Grammar) (checks : List StopCheck) :
    ∃ w, (openAll checks).Yields (.ofGrammar g) () w ∧ Holds g checks [] w := by
  obtain ⟨w, hopen, hw, hfresh⟩ := exists_openAll [] checks (sound_ofGrammar g) rfl rfl (by simp)
  refine ⟨w, hopen, hw, fun i check hcheck => ?_, by simp [handles], fun _ => rfl⟩
  exact ⟨Matcher.fresh g check, Matcher.takesAll_nil.2 rfl, hfresh i check hcheck⟩

theorem Holds.performAll (hg : g.Compiled r) (hw : Holds g checks history w) {os : List Operation}
    (hos : Operation.PossibleAll checks.length (history.map Prod.fst) os) :
    ∃ events v, (performAll history os).Yields w events v ∧ events.map Prod.fst = os ∧
      ∀ before e after, events = before ++ e :: after → Follows g checks (history ++ before) e := by
  induction os generalizing history w with
  | nil => exact ⟨[], w, ⟨rfl, rfl⟩, rfl, by simp⟩
  | cons o os ih =>
    obtain ⟨ho, hos⟩ := hos
    obtain ⟨a, v, hyields, hfollows, hv⟩ := hw.perform hg ho
    obtain ⟨events, u, hall, hmap, hlater⟩ := ih hv (by simpa using hos)
    refine ⟨(o, a) :: events, u, hyields.bind (hall.bind ⟨rfl, rfl⟩), ?_, ?_⟩
    · rw [List.map_cons, hmap]
    · intro before e after hsplit
      -- The history of a later operation begins with this one.
      cases before with
      | nil =>
        obtain ⟨rfl, -⟩ := List.cons.inj hsplit
        simpa using hfollows
      | cons d before =>
        obtain ⟨rfl, hrest⟩ := List.cons.inj hsplit
        have hnext := hlater before e after hrest
        rwa [List.append_assoc] at hnext

end Steps

/-- Any number of matchers of a compiled grammar are asked, and the buffers that they handed out are
written and read, in any order: every operation has a reply, and it is the one that the history
before it asks for. -/
theorem follows_of_compile {source : Schema.Source} {v : Vocabulary} {g : Grammar}
    (h : (Grammar.compile source v).result = .ok g) (checks : List StopCheck)
    (os : List Operation) (hos : Operation.PossibleAll checks.length [] os) :
    ∃ events w, (do openAll checks; performAll [] os).Yields (.ofGrammar g) events w ∧
      events.map Prod.fst = os ∧
      ∀ before e after, events = before ++ e :: after → Follows g checks before e := by
  obtain ⟨r, hg⟩ := Grammar.exists_compiled h
  obtain ⟨u, hopen, hu⟩ := exists_holds_opened g checks
  obtain ⟨events, w, hall, hmap, hfollows⟩ := hu.performAll hg hos
  exact ⟨events, w, hopen.bind hall, hmap, hfollows⟩

/-- Two matchers in turn: the buffer of one is cleared, and a token is rejected, between the tokens
that they accept. -/
def interleaved : List Operation := [
  .ask 0 .fill, .write 0 0 (fun b => Mask.clear b.size), .ask 1 (.advance 2), .ask 0 (.advance 1),
  .ask 0 (.advance 2), .ask 1 .canTerminate, .read 0 0, .ask 1 .reset, .ask 1 .fill,
  .ask 0 .canTerminate, .ask 0 (.advance 1), .ask 0 .isTerminated]

theorem follows_of_compile_pieces :
    ∃ g, (Grammar.compile Matcher.truthSource Matcher.pieces).result = .ok g ∧
      Operation.PossibleAll [StopCheck.position, .mask].length [] interleaved ∧
      ∃ events w,
        (do openAll [.position, .mask]; performAll [] interleaved).Yields (.ofGrammar g) events w ∧
        events.map Prod.fst = interleaved ∧
        ∀ before e after, events = before ++ e :: after →
          Follows g [.position, .mask] before e := by
  obtain ⟨g, hg⟩ := Matcher.exists_compile_pieces
  have hpossible : Operation.PossibleAll [StopCheck.position, .mask].length [] interleaved := by
    simp [interleaved, Operation.PossibleAll, Operation.Possible, Operation.fills]
  exact ⟨g, hg, hpossible, follows_of_compile hg _ interleaved hpossible⟩

end Decoding.Workspace

end GuidedJson
