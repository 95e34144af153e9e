import GuidedJson.Decoding.Trace
import GuidedJson.Proofs.Decoding.Ledger

/-!
# What a trace says

A trace passes over texts that are no tokens, and starts again behind a rejected one. Its verdict is
whether a text may stop behind the last row, and so it is about the tokens since the last rejection
only; of all of them it tells together with the rows, if every one of them was accepted.
-/

namespace GuidedJson.Decoding

/-! ## One token -/

namespace Ledger

/-- A text is told to a step, if it is a token. -/
def tell (l : Ledger) (text : String) : Ledger :=
  match l.matcher.grammar.vocabulary.tokenId? text with
  | some id => l.sample id
  | none => l

section Tell

variable {g : Grammar} {l : Ledger} {text : String}

theorem Follows.tell {check : StopCheck} (h : l.Follows g check) (text : String) :
    (l.tell text).Follows g check := by
  unfold Ledger.tell
  cases l.matcher.grammar.vocabulary.tokenId? text with
  | some id => exact h.call _
  | none => exact h

/-- A token that the matcher takes is counted and noted. -/
theorem tell_of_takes (h : l.matcher.closed = false) {id : Nat} {k : Matcher}
    (hid : l.matcher.grammar.vocabulary.tokenId? text = some id) (hk : l.matcher.Takes id k) :
    l.tell text =
      ⟨k, { l.counts with accepted := l.counts.accepted + 1 }, l.since ++ [(id : Int)]⟩ := by
  rw [Ledger.tell, hid]
  have hsample : l.sample id = _ := call_sampled h (Value.toInteger_int id)
  rw [(Matcher.takes_iff h).1 hk] at hsample
  exact hsample

/-- A token that the matcher does not take leads back to the start, where nothing is noted. -/
theorem tell_of_rejected (h : l.matcher.closed = false) {id : Nat} (hfits : Json.Fits id)
    (hid : l.matcher.grammar.vocabulary.tokenId? text = some id)
    (hk : l.matcher.accept? id = none) :
    l.tell text = ⟨{ l.matcher with position := Automaton.Machine.origin, terminated := false },
      { l.counts with rejected := l.counts.rejected + 1 }, []⟩ := by
  rw [Ledger.tell, hid]
  have hsample : l.sample id = _ := call_sampled h (Value.toInteger_int id)
  rw [hk] at hsample
  dsimp only at hsample
  rw [if_pos (Json.isWritable_iff.2 hfits)] at hsample
  exact hsample

/-- Whether a text may stop is asked of the matcher that took the tokens that were noted. -/
theorem Follows.canTerminate_iff (h : l.Follows g .position) {b : Bool} :
    l.matcher.canTerminate = .ok b ↔
      ∃ n, (Matcher.fresh g .position).TakesAll l.since n ∧ n.canTerminate = .ok b := by
  obtain ⟨n, hn, hl⟩ := h
  have hsame : l.matcher.canTerminate = n.canTerminate := by
    rw [hl]
    rfl
  rw [hsame]
  constructor
  · exact fun hb => ⟨n, hn, hb⟩
  · rintro ⟨k, hk, hb⟩
    have heq : k = n := congrArg Prod.snd (Except.ok.inj (hk.symm.trans hn))
    rwa [← heq]

end Tell

end Ledger

/-- What a row tells of its text, given where the step was before it. -/
structure TraceRow.Tells (row : TraceRow) (l : Ledger) (text : String) : Prop where
  token : row.token = text
  accepted : row.accepted = true ↔
    ∃ id : Nat, l.matcher.grammar.vocabulary.tokenId? text = some id ∧
      l.matcher.Takes id (l.tell text).matcher
  canTerminate : (l.tell text).matcher.canTerminate = .ok row.canTerminate

section Rows

variable {g : Grammar} {l : Ledger}

/-- The tokens of a table that can be counted in writing have ids that can be written. -/
theorem fits_of_tokenId? {v : Vocabulary} (hv : Json.Fits v.size) {text : String} {id : Nat}
    (h : v.tokenId? text = some id) : Json.Fits id := by
  have hid : id < v.size := List.mem_range.1 (List.mem_of_find?_eq_some h)
  exact Nat.lt_trans hid hv

/-- The step of a row is a call of the hook for its token, if there is one. -/
theorem exists_ofToken {check : StopCheck} (h : l.Follows g check)
    (hsize : Json.Fits g.vocabulary.size) (text : String) :
    ∃ row : TraceRow, row.Tells l text ∧ (TraceRow.ofToken text l.matcher l.counts).result =
      .ok (row, (l.tell text).matcher, (l.tell text).counts) := by
  obtain ⟨b, hb⟩ : ∃ b, (l.tell text).matcher.canTerminate = .ok b :=
    ⟨_, Matcher.canTerminate_of_open (h.tell text).isOpen⟩
  unfold TraceRow.ofToken
  cases hid : l.matcher.grammar.vocabulary.tokenId? text with
  | none =>
    have htell : l.tell text = l := by rw [Ledger.tell, hid]
    rw [htell] at hb ⊢
    refine ⟨⟨text, none, TraceRow.allowedCount l.matcher, false, false, b⟩,
      ⟨rfl, by simp [hid], by rwa [htell]⟩, ?_⟩
    exact Logged.result_bind_eq_ok.2 ⟨b, hb, rfl⟩
  | some id =>
    have htell : l.tell text = l.sample id := by rw [Ledger.tell, hid]
    have hfits : (Value.int id).Fits := fits_of_tokenId? (h.grammar ▸ hsize) hid
    have hsampled := result_sampled_of_fits hfits l.matcher l.counts
    have hgoes : (sampled (.int id) l.matcher l.counts).2 =
        ((l.tell text).matcher, (l.tell text).counts) := by
      rw [htell, Ledger.sample, Ledger.call, Hook.snd_run_call_sampled]
    -- The matcher took the token exactly if no rejection was counted.
    have haccepted : ((l.tell text).counts.rejected == l.counts.rejected) = true ↔
        l.matcher.Takes id (l.tell text).matcher := by
      have hsample : l.sample id = _ := Ledger.call_sampled h.isOpen (Value.toInteger_int id)
      rw [Matcher.takes_iff h.isOpen, htell, hsample]
      cases l.matcher.accept? id with
      | some n => simp
      | none => cases Text.isWritable id <;> simp
    dsimp only
    generalize sampled (.int id) l.matcher l.counts = r at hsampled hgoes ⊢
    obtain ⟨answer, n, d⟩ := r
    obtain ⟨rfl, rfl⟩ := Prod.mk.inj hgoes
    refine ⟨⟨text, some id, TraceRow.allowedCount l.matcher, l.matcher.mask.test id, _, b⟩,
      ⟨rfl, ?_, hb⟩,
      Logged.result_bind_eq_ok.2 ⟨(), hsampled, Logged.result_bind_eq_ok.2 ⟨b, hb, rfl⟩⟩⟩
    simpa [hid] using haccepted

/-! ## All tokens -/

/-- Whether a matcher takes all of some texts, which are tokens, and the matcher after them. -/
def TakesTexts (m : Matcher) (texts : List String) (n : Matcher) : Prop :=
  ∃ ids : List Nat, texts.map m.grammar.vocabulary.tokenId? = ids.map some ∧
    m.TakesAll (ids.map (↑)) n

theorem takesTexts_nil {m n : Matcher} : TakesTexts m [] n ↔ n = m := by
  constructor
  · rintro ⟨ids, hids, h⟩
    obtain rfl : ids = [] := by simpa using hids.symm
    exact Matcher.takesAll_nil.1 h
  · rintro rfl
    exact ⟨[], rfl, Matcher.takesAll_nil.2 rfl⟩

theorem takesTexts_cons {m n : Matcher} {text : String} {texts : List String}
    (hopen : m.closed = false) : TakesTexts m (text :: texts) n ↔
      ∃ (id : Nat) (k : Matcher), m.grammar.vocabulary.tokenId? text = some id ∧ m.Takes id k ∧
        TakesTexts k texts n := by
  have hgrammar : ∀ {id : Int} {k : Matcher}, m.Takes id k → k.grammar = m.grammar := by
    intro id k hk
    rw [Matcher.eq_of_accept? ((Matcher.takes_iff hopen).1 hk)]
  constructor
  · rintro ⟨ids, hids, h⟩
    cases ids with
    | nil => simp at hids
    | cons id ids =>
      obtain ⟨hid, hids⟩ := List.cons.inj hids
      obtain ⟨k, hk, h⟩ := Matcher.takesAll_cons.1 h
      exact ⟨id, k, hid, hk, ids, by rwa [hgrammar hk], h⟩
  · rintro ⟨id, k, hid, hk, ids, hids, h⟩
    rw [hgrammar hk] at hids
    exact ⟨id :: ids, by simp [hid, hids], Matcher.takesAll_cons.2 ⟨k, hk, h⟩⟩

/-- What the rows of texts tell together: all were accepted exactly if the matcher takes all texts,
and behind the last row the step is where it was told to go. -/
structure Tell (rows : List TraceRow) (l : Ledger) (texts : List String) : Prop where
  tokens : rows.map (·.token) = texts
  accepted : (∀ row ∈ rows, row.accepted = true) ↔
    TakesTexts l.matcher texts (texts.foldl Ledger.tell l).matcher
  last : ∀ row, rows.getLast? = some row →
    (texts.foldl Ledger.tell l).matcher.canTerminate = .ok row.canTerminate

theorem exists_ofTokens {check : StopCheck} (h : l.Follows g check)
    (hsize : Json.Fits g.vocabulary.size) (texts : List String) :
    ∃ rows, (TraceRow.ofTokens texts l.matcher l.counts).result = .ok rows ∧ Tell rows l texts := by
  induction texts generalizing l with
  | nil => exact ⟨[], rfl, rfl, by simp [takesTexts_nil], by simp⟩
  | cons text texts ih =>
    obtain ⟨row, hrow, hresult⟩ := exists_ofToken h hsize text
    obtain ⟨rows, hresults, hrows⟩ := ih (h.tell text)
    refine ⟨row :: rows, ?_, ?_, ?_, ?_⟩
    · exact Logged.result_bind_eq_ok.2 ⟨_, hresult, Logged.result_bind_eq_ok.2
        ⟨rows, hresults, rfl⟩⟩
    · rw [List.map_cons, hrow.token, hrows.tokens]
    · rw [List.forall_mem_cons, hrow.accepted, hrows.accepted, takesTexts_cons h.isOpen]
      constructor
      · rintro ⟨⟨id, hid, htakes⟩, hrest⟩
        exact ⟨id, _, hid, htakes, hrest⟩
      · rintro ⟨id, k, hid, htakes, hrest⟩
        have hmatcher : (l.tell text).matcher = k := by
          rw [Ledger.tell_of_takes h.isOpen hid htakes]
        rw [hmatcher]
        exact ⟨⟨id, hid, htakes⟩, hrest⟩
    · intro last hlast
      cases rows with
      | nil =>
        obtain rfl : texts = [] := by simpa using hrows.tokens.symm
        cases hlast
        exact hrow.canTerminate
      | cons next rows =>
        rw [List.getLast?_cons_cons] at hlast
        exact hrows.last last hlast

/-- Where all texts are tokens that the matcher takes, the step is told to go where it goes. -/
theorem matcher_foldl_tell {check : StopCheck} (h : l.Follows g check) {texts : List String}
    {n : Matcher} (hn : TakesTexts l.matcher texts n) :
    (texts.foldl Ledger.tell l).matcher = n := by
  induction texts generalizing l with
  | nil => exact (takesTexts_nil.1 hn).symm
  | cons text texts ih =>
    obtain ⟨id, k, hid, hk, hrest⟩ := (takesTexts_cons h.isOpen).1 hn
    refine ih (h.tell text) ?_
    rwa [Ledger.tell_of_takes h.isOpen hid hk]

end Rows

/-! ## Verdicts -/

/-- A step over a fresh matcher, before it is told anything. -/
def Ledger.start (g : Grammar) : Ledger := ⟨.fresh g .position, {}, []⟩

theorem Ledger.follows_start (g : Grammar) : (start g).Follows g .position :=
  ⟨.fresh g .position, Matcher.takesAll_nil.2 rfl, rfl⟩

/-- What the rows of a trace say. A complete match is reported exactly if a text may stop behind the
tokens since the last rejection; and it is reported with every row accepted exactly if all texts are
tokens that a fresh matcher takes one after the other, and a text may stop behind them. -/
structure Verdict (rows : List TraceRow) (g : Grammar) (texts : List String) : Prop where
  tokens : rows.map (·.token) = texts
  since : isComplete rows = true ↔ texts ≠ [] ∧ ∃ n, (Matcher.fresh g .position).TakesAll
    (texts.foldl Ledger.tell (.start g)).since n ∧ n.canTerminate = .ok true
  whole : isComplete rows = true ∧ (∀ row ∈ rows, row.accepted = true) ↔ texts ≠ [] ∧
    ∃ n, TakesTexts (.fresh g .position) texts n ∧ n.canTerminate = .ok true

section Verdict

variable {g : Grammar} {texts : List String} {rows : List TraceRow}

theorem follows_foldl_tell {check : StopCheck} {l : Ledger} (h : l.Follows g check)
    (texts : List String) : (texts.foldl Ledger.tell l).Follows g check := by
  induction texts generalizing l with
  | nil => exact h
  | cons text texts ih => exact ih (h.tell text)

/-- The verdict is what the step would answer behind the last text. -/
theorem Tell.isComplete_iff {l : Ledger} (h : Tell rows l texts) : isComplete rows = true ↔
    texts ≠ [] ∧ (texts.foldl Ledger.tell l).matcher.canTerminate = .ok true := by
  rw [isComplete]
  cases hlast : rows.getLast? with
  | none =>
    obtain rfl : rows = [] := List.getLast?_eq_none_iff.1 hlast
    simp [← h.tokens]
  | some row =>
    have hrows : rows ≠ [] := by
      rintro rfl
      cases hlast
    have hne : texts ≠ [] := by
      rw [← h.tokens]
      simpa using hrows
    rw [h.last row hlast, Option.any_some]
    simp [hne]

theorem exists_trace (hsize : Json.Fits g.vocabulary.size) (texts : List String) :
    ∃ rows, (trace g texts).result = .ok rows ∧ Verdict rows g texts := by
  have hstart := Ledger.follows_start g
  obtain ⟨rows, hresult, htell⟩ := exists_ofTokens hstart hsize texts
  have hend := follows_foldl_tell hstart texts
  refine ⟨rows, ?_, htell.tokens, ?_, ?_⟩
  · exact Logged.result_bind_eq_ok.2 ⟨_, result_promptStart _, hresult⟩
  · rw [htell.isComplete_iff, hend.canTerminate_iff]
  · rw [htell.isComplete_iff, htell.accepted]
    constructor
    · rintro ⟨⟨hne, hstop⟩, htakes⟩
      exact ⟨hne, _, htakes, hstop⟩
    · rintro ⟨hne, n, htakes, hstop⟩
      have hn := matcher_foldl_tell hstart htakes
      rw [hn]
      exact ⟨⟨hne, hstop⟩, htakes⟩

end Verdict

end GuidedJson.Decoding
