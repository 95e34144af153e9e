import GuidedJson.Decoding.Step
import GuidedJson.Proofs.Decoding.Masking
import GuidedJson.Proofs.Grammar.Masks
import GuidedJson.Proofs.Number.Rounding

/-!
# The decoding loop

A loop masks a row of scores, chooses a token whose score is not negative infinity, and tells the
matcher so. The tokens that are left to choose from are those that the matcher takes; so none is
rejected, there is always one, and the loop can come to an end from everywhere.
-/

namespace GuidedJson.Decoding

open Automaton (Machine)
open Number (Binary)
open Text (Utf8.encode)

/-! ## Masked scores -/

/-- A row of scores of a type. -/
structure Row where
  type : FloatType
  numbers : List Binary

/-- Whether a row has finite numbers of its type, for every token of a table at least. -/
structure Row.Fits (size : Nat) (row : Row) : Prop where
  wide : size ≤ row.numbers.length
  finite : ∀ x ∈ row.numbers, row.type.format.Holds x

/-- Of a masked row those scores are left that belong to allowed tokens of the table. -/
theorem Row.Fits.masked_iff {size : Nat} {row : Row} (h : row.Fits size) (mask : Mask) (i : Nat) :
    (∃ y, (addPenalties row.type (mask.penalties size) row.numbers)[i]? = some y ∧
      y ≠ .infinite true) ↔ i < size ∧ mask.test i = true := by
  rw [getElem?_addPenalties]
  cases hx : row.numbers[i]? with
  | none =>
    have hlen : row.numbers.length ≤ i := List.getElem?_eq_none_iff.1 hx
    have hlt : ¬ i < size := Nat.not_lt.2 (h.wide.trans hlen)
    simp [hlt]
  | some x =>
    have hfinite := h.finite x (List.mem_of_getElem? hx)
    have hallowed : (i < size ∧ mask.test i = true) ↔
        (decide (i < size) && mask.test i) = true := by
      rw [Bool.and_eq_true, decide_eq_true_iff]
    rw [Option.map_some, getD_penalties, hallowed]
    -- An allowed score is added to zero, and stays finite since it is a number of its type.
    cases decide (i < size) && mask.test i with
    | true =>
      obtain ⟨s, n, d, hsum⟩ := Binary.exists_add_zero hfinite
      simp [Mask.penalty, hsum]
    | false => simp [Mask.penalty, Binary.add_negInfinity hfinite]

/-! ## Turns -/

/-- The numbers that a loop chooses from. -/
def Masked.numbers (s : Scores) : Masked → List Binary
  | .scores t => t.flat
  | .untouched => s.flat

/-- Where a loop is. -/
structure Loop where
  matcher : Matcher
  counts : Counts

/-- A row of scores and the token that is chosen by them. -/
structure Turn where
  row : Row
  token : Nat

/-- Masks the scores of a row. -/
def Row.process (row : Row) (m : Matcher) : Logged Masked × Matcher :=
  Decoding.process row.type (.vector row.numbers) m

/-- Whether masking a row leaves a token to choose: its score is not negative infinity then. -/
def Row.Leaves (row : Row) (m : Matcher) (token : Nat) : Prop :=
  ∃ masked, (row.process m).1.result = .ok masked ∧
    ∃ y, (masked.numbers (.vector row.numbers))[token]? = some y ∧ y ≠ .infinite true

/-- Whether a loop makes a turn, over a table of a size, and where it is then: the token is one that
masking leaves, and is sampled. -/
structure Loop.Moves (size : Nat) (l : Loop) (t : Turn) (k : Loop) : Prop where
  fits : t.row.Fits size
  left : t.row.Leaves l.matcher t.token
  told : (sampled (.int t.token) (t.row.process l.matcher).2 l.counts).1.result = .ok ()
  goes : (sampled (.int t.token) (t.row.process l.matcher).2 l.counts).2 = (k.matcher, k.counts)

/-- Turns one after the other. -/
inductive Loop.Runs (size : Nat) : Loop → List Turn → Loop → Prop
  | nil {l} : Runs size l [] l
  | cons {l k n t ts} : l.Moves size t k → Runs size k ts n → Runs size l (t :: ts) n

/-! ## One turn -/

section Standing

variable {g : Grammar} {r : Pattern.Regex} {m n : Matcher} {l k : Loop} {ids : List Nat} {t : Turn}

theorem Row.process_of_at (hm : m.At g ids) (row : Row) : row.process m =
    (pure (.scores (.vector (addPenalties row.type
      ((g.maskAt m.position).penalties g.vocabulary.size) row.numbers))),
      { m with buffer := g.maskAt m.position }) := by
  obtain ⟨rfl, hrunning, hopen, -, -, -⟩ := hm
  have hmask : m.mask = m.grammar.maskAt m.position := by
    rw [Matcher.mask, hrunning]
    rfl
  rw [process, process_of_fill (Matcher.fill_of_open hopen), hmask, Scores.penalize_vector]
  rfl

/-- A matcher stands where it stood when its buffer is overwritten. -/
theorem at_buffer (hm : m.At g ids) (buffer : Mask) :
    Matcher.At { m with buffer := buffer } g ids :=
  ⟨hm.grammar, hm.running, hm.isOpen, hm.matchable, hm.walk, hm.productive⟩

/-- The tokens of the mask are those that the matcher takes. -/
theorem exists_takes_iff (hm : m.At g ids) (hg : g.Compiled r) {i : Nat} :
    (∃ n, m.Takes i n) ↔ Index.Allowed g.machine g.vocabulary m.position i := by
  simp only [Matcher.takes_iff hm.isOpen]
  exact (hm.stands hg).exists_accept?_iff hg hm.running

theorem test_maskAt_iff (hm : m.At g ids) (hg : g.Compiled r) {i : Nat} :
    (g.maskAt m.position).test i = true ↔ Index.Allowed g.machine g.vocabulary m.position i :=
  hg.test_maskAt (hm.stands hg).productive i

theorem sampled_of_takes {i : Nat} (h : m.Takes i n) (c : Counts) :
    sampled (.int i) m c = (pure (), n, { c with accepted := c.accepted + 1 }) := by
  have hadvance : m.advance i = .ok (true, n) := h
  unfold sampled
  simp only [Value.toInteger_int, hadvance]

/-- What masking a row leaves to choose from is what the matcher takes. -/
theorem Row.Fits.leaves_iff {row : Row} (hrow : row.Fits g.vocabulary.size) (hm : m.At g ids)
    (hg : g.Compiled r) {i : Nat} : row.Leaves m i ↔
      ∃ n, Matcher.Takes { m with buffer := g.maskAt m.position } i n := by
  have hmasked := hrow.masked_iff (g.maskAt m.position) i
  rw [exists_takes_iff (at_buffer hm (g.maskAt m.position)) hg, Row.Leaves,
    Row.process_of_at hm row]
  constructor
  · rintro ⟨masked, hresult, hy⟩
    cases hresult
    exact (test_maskAt_iff hm hg).1 (hmasked.1 hy).2
  · intro hallowed
    exact ⟨_, rfl, hmasked.2 ⟨hallowed.lt_size, (test_maskAt_iff hm hg).2 hallowed⟩⟩

/-- A turn can be made exactly with a token that the matcher takes, and counts as accepted. -/
theorem Loop.moves_iff (hl : l.matcher.At g ids) (hg : g.Compiled r) :
    l.Moves g.vocabulary.size t k ↔ t.row.Fits g.vocabulary.size ∧
      Matcher.Takes { l.matcher with buffer := g.maskAt l.matcher.position } t.token k.matcher ∧
      k.counts = { l.counts with accepted := l.counts.accepted + 1 } := by
  have hprocess := Row.process_of_at hl t.row
  constructor
  · rintro ⟨hfits, hleft, -, hgoes⟩
    obtain ⟨n, hn⟩ := (hfits.leaves_iff hl hg).1 hleft
    rw [hprocess, sampled_of_takes hn] at hgoes
    obtain ⟨rfl, hcounts⟩ := Prod.mk.inj hgoes
    exact ⟨hfits, hn, hcounts.symm⟩
  · rintro ⟨hfits, htakes, hcounts⟩
    refine ⟨hfits, (hfits.leaves_iff hl hg).2 ⟨_, htakes⟩, ?_, ?_⟩
    · rw [hprocess, sampled_of_takes htakes]
      rfl
    · rw [hprocess, sampled_of_takes htakes, ← hcounts]

/-- A turn can be made with every token that masking leaves. -/
theorem Loop.exists_moves_of_leaves (hl : l.matcher.At g ids) (hg : g.Compiled r) {row : Row}
    (hrow : row.Fits g.vocabulary.size) {i : Nat} (hi : row.Leaves l.matcher i) :
    ∃ k, l.Moves g.vocabulary.size ⟨row, i⟩ k := by
  obtain ⟨n, hn⟩ := (hrow.leaves_iff hl hg).1 hi
  exact ⟨⟨n, _⟩, (moves_iff hl hg).2 ⟨hrow, hn, rfl⟩⟩

/-- With a token that stops nothing a turn leads on. -/
theorem Loop.Moves.at (hl : l.matcher.At g ids) (hg : g.Compiled r)
    (h : l.Moves g.vocabulary.size t k) (hstop : t.token ∉ g.vocabulary.stop) :
    k.matcher.At g (ids ++ [t.token]) ∧ k.counts.rejected = l.counts.rejected := by
  obtain ⟨-, htakes, hcounts⟩ := (moves_iff hl hg).1 h
  have hbuffer := at_buffer hl (g.maskAt l.matcher.position)
  obtain ⟨hmatchable, q, hq, hprod, hk⟩ := (hbuffer.takes_iff hg hstop).1 htakes
  rw [hk, hcounts]
  exact ⟨hbuffer.snoc hmatchable hq hprod, rfl⟩

/-- With a stop token a turn is made where a text may end. -/
theorem Loop.Moves.finalAt (hl : l.matcher.At g ids) (hg : g.Compiled r)
    (h : l.Moves g.vocabulary.size t k) (hstop : t.token ∈ g.vocabulary.stop) :
    g.machine.finalAt l.matcher.position = true ∧ k.counts.rejected = l.counts.rejected := by
  obtain ⟨-, htakes, hcounts⟩ := (moves_iff hl hg).1 h
  have hbuffer := at_buffer hl (g.maskAt l.matcher.position)
  rw [hcounts]
  exact ⟨((hbuffer.takes_stop_iff hstop).1 htakes).1, rfl⟩

/-- There is always a token to choose: one that leads on to an end, or a stop token at one. -/
theorem exists_allowed (hm : m.At g ids) (hstop : g.vocabulary.stop ≠ []) :
    ∃ i, Index.Allowed g.machine g.vocabulary m.position i := by
  obtain ⟨us, hus, q, hq, hf⟩ := hm.productive
  cases us with
  | nil =>
    -- The text may end here, so a stop token may be chosen.
    cases hq
    obtain ⟨i, hi⟩ := List.exists_mem_of_ne_nil _ hstop
    exact ⟨i, .inr ⟨hf, hi⟩⟩
  | cons i us =>
    obtain ⟨hi, hus⟩ := Vocabulary.matchable_cons.1 hus
    rw [Vocabulary.spell_cons, Machine.walk_append] at hq
    obtain ⟨p, hp, hq⟩ := Option.bind_eq_some_iff.1 hq
    exact ⟨i, .inl ⟨hi, p, hp, us, hus, q, hq, hf⟩⟩

theorem exists_masked (hm : m.At g ids) (hg : g.Compiled r) (hstop : g.vocabulary.stop ≠ [])
    {row : Row} (hrow : row.Fits g.vocabulary.size) : ∃ masked,
      (row.process m).1.result = .ok (.scores masked) ∧ ∃ y ∈ masked.flat, y ≠ .infinite true := by
  obtain ⟨i, hi⟩ := exists_allowed hm hstop
  obtain ⟨y, hy, hne⟩ := (hrow.masked_iff (g.maskAt m.position) i).2
    ⟨hi.lt_size, (test_maskAt_iff hm hg).2 hi⟩
  rw [Row.process_of_at hm]
  exact ⟨_, rfl, y, List.mem_of_getElem? hy, hne⟩

/-! ## Runs -/

/-- What one turn keeps a run keeps: the matcher stands behind the chosen tokens. -/
theorem Loop.Runs.at {ts : List Turn} (h : l.Runs g.vocabulary.size ts k) (hg : g.Compiled r)
    (hl : l.matcher.At g ids) (hts : ∀ t ∈ ts, t.token ∉ g.vocabulary.stop) :
    k.matcher.At g (ids ++ ts.map (·.token)) ∧ k.counts.rejected = l.counts.rejected := by
  induction h generalizing ids with
  | nil => simpa using hl
  | cons hmoves _ ih =>
    obtain ⟨ht, hts⟩ := List.forall_mem_cons.1 hts
    obtain ⟨hn, hcount⟩ := hmoves.at hl hg ht
    obtain ⟨hk, hcounts⟩ := ih hn hts
    exact ⟨by simpa using hk, hcounts.trans hcount⟩

/-- A token that leads on to an end can be chosen, whatever the scores are. -/
theorem Loop.exists_moves (hl : l.matcher.At g ids) (hg : g.Compiled r) {row : Row}
    (hrow : row.Fits g.vocabulary.size) {i : Nat} (hi : g.vocabulary.isMatchable i = true)
    {p : Automaton.Position}
    (hp : g.machine.walk l.matcher.position (g.vocabulary.octets i) = some p)
    (hprod : Index.Productive g.machine g.vocabulary p) :
    ∃ k, l.Moves g.vocabulary.size ⟨row, i⟩ k ∧ k.matcher.At g (ids ++ [i]) ∧
      k.matcher.position = p := by
  have hbuffer := at_buffer hl (g.maskAt l.matcher.position)
  have htakes := (hbuffer.takes_iff hg (Matcher.not_mem_stop_of_isMatchable hi)).2
    ⟨hi, p, hp, hprod, rfl⟩
  exact ⟨⟨_, _⟩, (moves_iff hl hg).2 ⟨hrow, htakes, rfl⟩, hbuffer.snoc hi hp hprod, rfl⟩

/-- Where a text may end a stop token can be chosen, whatever the scores are. -/
theorem Loop.exists_moves_stop (hl : l.matcher.At g ids) (hg : g.Compiled r) {row : Row}
    (hrow : row.Fits g.vocabulary.size) {s : Nat} (hs : s ∈ g.vocabulary.stop)
    (hf : g.machine.finalAt l.matcher.position = true) :
    ∃ k, l.Moves g.vocabulary.size ⟨row, s⟩ k := by
  have hbuffer := at_buffer hl (g.maskAt l.matcher.position)
  have htakes := (hbuffer.takes_stop_iff hs).2 ⟨hf, rfl⟩
  exact ⟨⟨_, _⟩, (moves_iff hl hg).2 ⟨hrow, htakes, rfl⟩⟩

/-- Tokens that lead to an end can be chosen one after the other, whatever the scores are, and a
stop token behind them. -/
theorem Loop.exists_runs (hl : l.matcher.At g ids) (hg : g.Compiled r) {us : List Nat}
    (hus : g.vocabulary.Matchable us) {q : Automaton.Position}
    (hq : g.machine.walk l.matcher.position (g.vocabulary.spell us) = some q)
    (hf : g.machine.finalAt q = true) {s : Nat} (hs : s ∈ g.vocabulary.stop) {rows : List Row}
    (hlen : rows.length = us.length + 1) (hrows : ∀ row ∈ rows, row.Fits g.vocabulary.size) :
    ∃ k, l.Runs g.vocabulary.size (List.zipWith Turn.mk rows (us ++ [s])) k := by
  induction us generalizing l ids rows with
  | nil =>
    obtain ⟨row, rfl⟩ := List.length_eq_one_iff.1 hlen
    cases hq
    obtain ⟨k, hk⟩ := exists_moves_stop hl hg (hrows row List.mem_cons_self) hs hf
    exact ⟨k, .cons hk .nil⟩
  | cons u us ih =>
    obtain ⟨row, rows, rfl⟩ := List.exists_cons_of_length_eq_add_one hlen
    obtain ⟨hrow, hrows⟩ := List.forall_mem_cons.1 hrows
    obtain ⟨hu, hus⟩ := Vocabulary.matchable_cons.1 hus
    rw [Vocabulary.spell_cons, Machine.walk_append] at hq
    obtain ⟨p, hp, hq⟩ := Option.bind_eq_some_iff.1 hq
    obtain ⟨n, hn, hat, rfl⟩ := exists_moves hl hg hrow hu hp ⟨us, hus, q, hq, hf⟩
    obtain ⟨k, hk⟩ := ih hat hus hq (by simpa using hlen) hrows
    exact ⟨k, .cons hn hk⟩

end Standing

/-! ## The loop -/

theorem promptStart_of_open {m : Matcher} (h : m.closed = false) : promptStart m =
    pure { m with position := Machine.origin, terminated := false } := by
  rw [promptStart, Matcher.reset_of_open h]

/-- A loop that masks its scores by a grammar, from the start of a prompt on: as long as no stop
token is chosen there is a token to choose, every token that is left can be sampled, none was
rejected, and whatever the scores will be, some tokens and a stop token behind them can be chosen;
and where a stop token is chosen it is not rejected, and the tokens before it put out a text of the
source. -/
theorem runs_of_promptStart {source : Schema.Source} {v : Vocabulary} {g : Grammar}
    (h : (Grammar.compile source v).result = .ok g) (hstop : v.stop ≠ []) {m : Matcher}
    (hgrammar : m.grammar = g) (hopen : m.closed = false) (c : Counts) :
    ∃ start, (promptStart m).result = .ok start ∧ ∀ (ts : List Turn) (l : Loop),
      Loop.Runs v.size ⟨start, c⟩ ts l → (∀ t ∈ ts, t.token ∉ v.stop) →
        (∀ row : Row, row.Fits v.size → ∃ masked,
          (row.process l.matcher).1.result = .ok (.scores masked) ∧
            ∃ y ∈ masked.flat, y ≠ .infinite true) ∧
        (∀ (row : Row) (i : Nat), row.Fits v.size → row.Leaves l.matcher i →
          ∃ k, l.Moves v.size ⟨row, i⟩ k) ∧
        l.counts.rejected = c.rejected ∧
        (∃ (us : List Nat) (s : Nat), (∀ u ∈ us, u ∉ v.stop) ∧ s ∈ v.stop ∧
          ∀ rows : List Row, rows.length = us.length + 1 → (∀ row ∈ rows, row.Fits v.size) →
            ∃ k, l.Runs v.size (List.zipWith Turn.mk rows (us ++ [s])) k) ∧
        ∀ (t : Turn) (k : Loop), t.token ∈ v.stop → l.Moves v.size t k →
          k.counts.rejected = c.rejected ∧
            ∃ w, v.spell (ts.map (·.token)) = Utf8.encode w ∧ source.Describes w := by
  obtain ⟨r, hg⟩ := Grammar.exists_compiled h
  obtain ⟨-, rfl, -, -, -⟩ := Grammar.compile_eq_ok.1 h
  refine ⟨_, by rw [promptStart_of_open hopen]; rfl, ?_⟩
  intro ts l hrun hts
  have hstart : Matcher.At { m with position := Machine.origin, terminated := false } g [] :=
    ⟨hgrammar, rfl, hopen, by simp [Vocabulary.Matchable], rfl,
      (Matcher.at_fresh hg .position).productive⟩
  -- Wherever the run has come, the matcher stands behind the tokens that were chosen.
  obtain ⟨hl, hcounts⟩ := hrun.at hg hstart hts
  rw [List.nil_append] at hl
  refine ⟨fun row hrow => exists_masked hl hg hstop hrow,
    fun row i hrow hi => Loop.exists_moves_of_leaves hl hg hrow hi, hcounts, ?_, ?_⟩
  · obtain ⟨us, hus, q, hq, hf⟩ := hl.productive
    obtain ⟨s, hs⟩ := List.exists_mem_of_ne_nil _ hstop
    refine ⟨us, s, fun u hu => Matcher.not_mem_stop_of_isMatchable (hus u hu), hs, ?_⟩
    exact fun rows hlen hrows => Loop.exists_runs hl hg hus hq hf hs hlen hrows
  · intro t k ht hmoves
    obtain ⟨hf, hcount⟩ := hmoves.finalAt hl hg ht
    refine ⟨hcount.trans hcounts, ?_⟩
    simp only [Grammar.describes_iff h hg]
    exact (hl.finalAt_iff hg).1 hf

theorem runs_of_promptStart_pieces : ∃ g start,
    (Grammar.compile Matcher.truthSource Matcher.pieces).result = .ok g ∧
      (promptStart (.fresh g .position)).result = .ok start ∧
      ∃ us s k, s ∈ Matcher.pieces.stop ∧ Loop.Runs Matcher.pieces.size ⟨start, {}⟩
        (List.zipWith Turn.mk (List.replicate (us.length + 1)
          ⟨.float32, [.zero, .zero, .zero]⟩) (us ++ [s])) k := by
  obtain ⟨g, hg⟩ := Matcher.exists_compile_pieces
  obtain ⟨start, hstart, hruns⟩ := runs_of_promptStart hg (by decide : Matcher.pieces.stop ≠ [])
    (rfl : (Matcher.fresh g .position).grammar = g) rfl {}
  obtain ⟨-, -, -, ⟨us, s, -, hs, hmore⟩, -⟩ := hruns [] ⟨start, {}⟩ .nil (by simp)
  have hzero : FloatType.float32.format.Holds .zero := ⟨by decide, by decide, by decide⟩
  have hfits : Row.Fits Matcher.pieces.size ⟨.float32, [.zero, .zero, .zero]⟩ :=
    ⟨by decide, by simpa using hzero⟩
  have hrows : ∀ row ∈ List.replicate (us.length + 1) (Row.mk .float32 [.zero, .zero, .zero]),
      row.Fits Matcher.pieces.size := by
    intro row hrow
    rw [(List.mem_replicate.1 hrow).2]
    exact hfits
  obtain ⟨k, hk⟩ := hmore _ (by rw [List.length_replicate]) hrows
  exact ⟨g, start, hg, hstart, us, s, k, hs, hk⟩

end GuidedJson.Decoding
