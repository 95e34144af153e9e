import GuidedJson.Proofs.Decoding.Rows
import GuidedJson.Proofs.Json.Reading
import Mathlib.Algebra.GroupWithZero.Nat

/-!
# Batches

A processor drives one step for every row of a batch. From call to call the rows grow by columns of
tokens, and every token is told once, to the step of its row: where that step is after a call, and
what it leaves of the scores, depends on nothing but the tokens that its row got after the prompt.
-/

namespace GuidedJson.Decoding

/-! ## One row -/

/-- A matcher with its buffer filled, if it is open. -/
def filled (m : Matcher) : Matcher := m.fill.toOption.getD m

/-- Tokens are sampled one after the other. -/
def sampledAll : List Value → Matcher → Counts → Logged (Matcher × Counts)
  | [], m, c => pure (m, c)
  | t :: ts, m, c => do
    let (told, m, c) := sampled t m c
    told
    sampledAll ts m c

/-- A prompt starts, and then tokens are sampled. -/
def told (ids : List Value) (m : Matcher) (c : Counts) : Logged (Matcher × Counts) := do
  let m ← promptStart m
  sampledAll ids m c

section Rows

variable {m n k : Matcher} {c d : Counts} {t : Value} {ts us : List Value} {type : FloatType}
  {b : Mask}

theorem filled_of_open (h : m.closed = false) : filled m = { m with buffer := m.mask } := by
  rw [filled, Matcher.fill_of_open h]
  rfl

theorem filled_of_closed (h : m.closed = true) : filled m = m := by
  rw [filled, Matcher.fill_of_closed h]
  rfl

/-- Filling a buffer hides what was in it. -/
theorem filled_buffer (h : m.closed = false) (b : Mask) :
    filled { m with buffer := b } = filled m := by
  have h' : ({ m with buffer := b } : Matcher).closed = false := h
  rw [filled_of_open h, filled_of_open h']
  rfl

theorem closed_filled (m : Matcher) : (filled m).closed = m.closed := by
  cases h : m.closed with
  | true => rw [filled_of_closed h, h]
  | false => rw [filled_of_open h, h]

/-- Matchers that are the same once filled differ at most in what is in their buffers. -/
theorem eq_or_of_filled_eq (h : filled m = filled n) :
    n = m ∨ m.closed = false ∧ ∃ b, n = { m with buffer := b } := by
  have hclosed : m.closed = n.closed := by rw [← closed_filled, h, closed_filled]
  cases hm : m.closed with
  | true =>
    rw [filled_of_closed hm, filled_of_closed (hclosed ▸ hm)] at h
    exact .inl h.symm
  | false =>
    rw [filled_of_open hm, filled_of_open (hclosed ▸ hm)] at h
    refine .inr ⟨rfl, n.buffer, ?_⟩
    cases m
    cases n
    simp_all

theorem filled_filled (m : Matcher) : filled (filled m) = filled m := by
  cases h : m.closed with
  | true => rw [filled_of_closed h, filled_of_closed h]
  | false => rw [filled_of_open h, filled_buffer h, filled_of_open h]

/-! ### Hooks -/

/-- Where an open matcher and its counts are after a sampled token. A rejected one that is too long to
be written does not lead back to the start. -/
theorem sampled_snd_of_open (h : m.closed = false) (t : Value) (c : Counts) :
    (sampled t m c).2 = match t.toInteger with
      | .error _ => (m, c)
      | .ok id => match m.accept? id with
        | some n => (n, { c with accepted := c.accepted + 1 })
        | none => (if Text.isWritable id then
            { m with position := Automaton.Machine.origin, terminated := false } else m,
            { c with rejected := c.rejected + 1 }) := by
  unfold sampled
  cases t.toInteger with
  | error fault => rfl
  | ok id =>
    dsimp only
    rw [Matcher.advance_of_open h]
    cases m.accept? id with
    | some n => rfl
    | none =>
      dsimp only
      rw [Text.writeInteger?, Matcher.reset_of_open h]
      cases Text.isWritable id <;> rfl

/-- What goes wrong with a token is logged, if the token can be written. -/
theorem result_failed (t : Value) (message : String) : (sampled.failed t message).result =
    if t.isWritable then .ok () else .error (.digits none) := by
  rw [sampled.failed, Value.display?]
  cases t.isWritable <;> rfl

/-- The hook for sampled tokens answers, if the token can be written. -/
theorem result_sampled_of_fits (h : t.Fits) (m : Matcher) (c : Counts) :
    (sampled t m c).1.result = .ok () := by
  have hfailed (message : String) : (sampled.failed t message).result = .ok () := by
    rw [result_failed, if_pos ((Value.isWritable_iff t).2 h)]
  unfold sampled
  cases t.toInteger with
  | error fault => exact hfailed _
  | ok id =>
    dsimp only
    cases m.advance id with
    | error e => exact hfailed _
    | ok r =>
      obtain ⟨accepted, n⟩ := r
      cases accepted with
      | true => rfl
      | false =>
        dsimp only
        cases Text.writeInteger? id with
        | none => exact hfailed _
        | some text => rfl

theorem sampled_of_filled_eq (h : filled m = filled n) (t : Value) (c : Counts) :
    (sampled t n c).1 = (sampled t m c).1 ∧ (sampled t n c).2.2 = (sampled t m c).2.2 ∧
      filled (sampled t m c).2.1 = filled (sampled t n c).2.1 := by
  obtain rfl | ⟨hopen, b, rfl⟩ := eq_or_of_filled_eq h
  · exact ⟨rfl, rfl, rfl⟩
  · have hsampled : sampled t { m with buffer := b } c =
        ((sampled t m c).1, { (sampled t m c).2.1 with buffer := b }, (sampled t m c).2.2) :=
      sampled_withBuffer m b t c
    rw [hsampled]
    exact ⟨rfl, rfl, (filled_buffer ((moved_sampled t m c).closed.trans hopen) b).symm⟩

theorem sampledAll_cons_eq_ok {y : Matcher × Counts} : (sampledAll (t :: ts) m c).result = .ok y ↔
    (sampled t m c).1.result = .ok () ∧
      (sampledAll ts (sampled t m c).2.1 (sampled t m c).2.2).result = .ok y := by
  constructor
  · intro h
    obtain ⟨⟨⟩, htold, h⟩ := Logged.result_bind_eq_ok.1 h
    exact ⟨htold, h⟩
  · exact fun h => Logged.result_bind_eq_ok.2 ⟨(), h⟩

theorem sampledAll_of_filled_eq (h : filled m = filled n) {k : Matcher}
    (hk : (sampledAll ts m c).result = .ok (k, d)) :
    ∃ l, (sampledAll ts n c).result = .ok (l, d) ∧ filled k = filled l := by
  induction ts generalizing m n c with
  | nil =>
    cases hk
    exact ⟨n, rfl, h⟩
  | cons t ts ih =>
    obtain ⟨htold, hk⟩ := sampledAll_cons_eq_ok.1 hk
    obtain ⟨hanswer, hcounts, hfilled⟩ := sampled_of_filled_eq h t c
    obtain ⟨l, hl, hkl⟩ := ih hfilled hk
    refine ⟨l, sampledAll_cons_eq_ok.2 ⟨?_, ?_⟩, hkl⟩
    · rw [hanswer, htold]
    · rw [hcounts, hl]

theorem exists_result_sampledAll (h : ∀ t ∈ ts, t.Fits) (m : Matcher) (c : Counts) :
    ∃ y, (sampledAll ts m c).result = .ok y := by
  induction ts generalizing m c with
  | nil => exact ⟨_, rfl⟩
  | cons t ts ih =>
    obtain ⟨ht, hts⟩ := List.forall_mem_cons.1 h
    obtain ⟨y, hy⟩ := ih hts (sampled t m c).2.1 (sampled t m c).2.2
    exact ⟨y, sampledAll_cons_eq_ok.2 ⟨result_sampled_of_fits ht m c, hy⟩⟩

theorem sampledAll_append {k l : Matcher} {e : Counts}
    (hk : (sampledAll ts m c).result = .ok (k, d)) (hl : (sampledAll us k d).result = .ok (l, e)) :
    (sampledAll (ts ++ us) m c).result = .ok (l, e) := by
  induction ts generalizing m c with
  | nil =>
    cases hk
    exact hl
  | cons t ts ih =>
    obtain ⟨htold, hk⟩ := sampledAll_cons_eq_ok.1 hk
    exact sampledAll_cons_eq_ok.2 ⟨htold, ih hk⟩

/-- Where a step is that was told some tokens, and then masked scores. -/
def Told (ids : List Value) (x y : Matcher × Counts) : Prop :=
  ∃ k, (told ids x.1 x.2).result = .ok (k, y.2) ∧ y.1 = filled k

/-- A step that is told more tokens is where it would be had it been told all of them at once. -/
theorem Told.append {x y : Matcher × Counts} (h : Told ts x y) {k : Matcher}
    (hk : (sampledAll us y.1 y.2).result = .ok (k, d)) : Told (ts ++ us) x (filled k, d) := by
  obtain ⟨n, hn, hy⟩ := h
  obtain ⟨p, hp, hn⟩ := Logged.result_bind_eq_ok.1 hn
  -- Masking between the calls filled the buffer, which the next tokens do not look at.
  have hfilled : filled y.1 = filled n := by rw [hy, filled_filled]
  obtain ⟨l, hl, hkl⟩ := sampledAll_of_filled_eq hfilled hk
  exact ⟨l, Logged.result_bind_eq_ok.2 ⟨p, hp, sampledAll_append hn hl⟩, hkl⟩

/-! ### Masked scores -/

/-- Scores are masked by what a matcher is once filled. -/
theorem process_of_filled_eq (h : filled m = filled n) (type : FloatType) (s : Scores) :
    process type s m = process type s n := by
  obtain rfl | ⟨hopen, b, rfl⟩ := eq_or_of_filled_eq h
  · rfl
  · have hopen' : ({ m with buffer := b } : Matcher).closed = false := hopen
    rw [process, process, maskScores, maskScores, Matcher.fill_of_open hopen,
      Matcher.fill_of_open hopen']
    rfl

/-- Of a row of scores something is left, and the buffer of the matcher is filled. -/
theorem exists_process (m : Matcher) (type : FloatType) (xs : List Number.Binary) :
    ∃ a, (process type (.vector xs) m).1.result = .ok a ∧
      (process type (.vector xs) m).2 = filled m := by
  unfold filled
  cases hfill : m.fill with
  | error e =>
    rw [process, maskScores, hfill]
    exact ⟨_, rfl, rfl⟩
  | ok n =>
    rw [process_of_fill hfill, Scores.penalize_vector]
    exact ⟨_, rfl, rfl⟩

end Rows

namespace Workspace

/-! ## One row after the other -/

section Lanes

variable {w v u : Workspace} {k : Nat} {x y : Matcher × Counts} {ι : Type} {l : ι} {ls : List ι}
  {lane : ι → Nat} {before after : ι → Matcher × Counts}

/-- Sampling tokens moves a step to where they lead. -/
theorem exists_forM_sampled {ts : List Value} (hw : w.Sound) (h : w.row k = some x)
    (hy : (sampledAll ts x.1 x.2).result = .ok y) :
    ∃ v, (ts.forM (sampled k)).Yields w () v ∧ Goes w k y v := by
  induction ts generalizing w x with
  | nil =>
    cases hy
    exact ⟨w, ⟨rfl, rfl⟩, .refl hw h⟩
  | cons t ts ih =>
    obtain ⟨htold, hy⟩ := sampledAll_cons_eq_ok.1 hy
    obtain ⟨u, hsampled, hu⟩ := exists_sampled_row hw h htold
    obtain ⟨v, hrest, hv⟩ := ih hu.sound hu.row hy
    exact ⟨v, hsampled.bind hrest, hu.trans hv⟩

/-- Steps over distinct matchers that are somewhere. -/
structure Places (w : Workspace) (lane : ι → Nat) (ls : List ι) (x : ι → Matcher × Counts) :
    Prop where
  sound : w.Sound
  distinct : (ls.map fun l => w.owner (lane l)).Nodup
  row : ∀ l ∈ ls, w.row (lane l) = some (x l)

/-- What a workspace holds after its steps went on: each of them is somewhere else. -/
structure Arrives (w : Workspace) (lane : ι → Nat) (ls : List ι) (y : ι → Matcher × Counts)
    (v : Workspace) : Prop where
  sound : v.Sound
  keeps : Keeps w (ls.map lane) v
  row : ∀ l ∈ ls, v.row (lane l) = some (y l)

theorem Places.tail (h : Places w lane (l :: ls) before) (hu : Goes w (lane l) y u) :
    Places u lane ls before := by
  obtain ⟨hl, hls⟩ := List.nodup_cons.1 h.distinct
  refine ⟨hu.sound, by simpa [hu.keeps.owner] using hls, fun k hk => ?_⟩
  have hne : w.owner (lane k) ∉ [lane l].map w.owner := by
    intro hmem
    exact hl (List.mem_map.2 ⟨k, hk, List.mem_singleton.1 hmem⟩)
  -- The matchers are distinct, so the other steps did not move.
  rw [hu.keeps.row _ hne]
  exact h.row k (List.mem_cons_of_mem l hk)

/-- A step that went on stays where it is while the others go on. -/
theorem Places.arrives_cons (h : Places w lane (l :: ls) before)
    (hu : Goes w (lane l) (after l) u) (hv : Arrives u lane ls after v) :
    Arrives w lane (l :: ls) after v := by
  obtain ⟨hl, -⟩ := List.nodup_cons.1 h.distinct
  have hstay : v.row (lane l) = some (after l) := by
    rw [hv.keeps.row _ (by simpa [hu.keeps.owner] using hl)]
    exact hu.row
  refine ⟨hv.sound, ⟨?_, ?_, ?_, ?_⟩, List.forall_mem_cons.2 ⟨hstay, hv.row⟩⟩
  · rw [hv.keeps.sessions, hu.keeps.sessions]
  · rw [hv.keeps.processors, hu.keeps.processors]
  · rw [hv.keeps.owner, hu.keeps.owner]
  · intro j hj
    rw [List.map_cons, List.map_cons, List.mem_cons, not_or] at hj
    rw [hv.keeps.row j (by rw [hu.keeps.owner]; exact hj.2),
      hu.keeps.row j (by simpa using hj.1)]

/-- A loop over steps in which every turn moves one of them. -/
theorem exists_each {act : ι → Request Unit} (run : List ι → Request Unit)
    (hnil : run [] = pure ()) (hcons : ∀ l ls, run (l :: ls) = act l >>= fun _ => run ls)
    (hact : ∀ l ∈ ls, ∀ w : Workspace, w.Sound → w.row (lane l) = some (before l) →
      ∃ v, (act l).Yields w () v ∧ Goes w (lane l) (after l) v)
    (h : Places w lane ls before) : ∃ v, (run ls).Yields w () v ∧ Arrives w lane ls after v := by
  induction ls generalizing w with
  | nil =>
    rw [hnil]
    exact ⟨w, ⟨rfl, rfl⟩, h.sound, .refl w _, by simp⟩
  | cons l ls ih =>
    obtain ⟨hl, hls⟩ := List.forall_mem_cons.1 hact
    obtain ⟨u, hfirst, hu⟩ := hl w h.sound (h.row l List.mem_cons_self)
    obtain ⟨v, hyields, hv⟩ := ih hls (h.tail hu)
    rw [hcons]
    exact ⟨v, hfirst.bind hyields, h.arrives_cons hu hv⟩

/-- Where a step is when its prompt starts. -/
def started (x : Matcher × Counts) : Matcher × Counts := (x.1.reset.toOption.getD x.1, x.2)

/-- Prompts start in all rows. -/
theorem yields_tellRows_none (h : Places w lane ls before) (ids : List (List Value)) :
    ∃ v, (tellRows (ls.map lane) ids none).Yields w () v ∧
      Arrives w lane ls (fun l => started (before l)) v := by
  have hact : ∀ l ∈ ls, ∀ w : Workspace, w.Sound → w.row (lane l) = some (before l) →
      ∃ v, (promptStart (lane l)).Yields w () v ∧ Goes w (lane l) (started (before l)) v :=
    fun l _ w hw hrow => exists_promptStart_row hw hrow
  exact exists_each (fun ls => (ls.map lane).forM promptStart) rfl (fun _ _ => rfl) hact h

/-- Every row is told its own tokens. -/
theorem yields_tellRows_some {rows tokens : ι → List Value} {seen : Nat}
    (h : Places w lane ls before) (hrows : ∀ l ∈ ls, (rows l).drop seen = tokens l)
    (hafter : ∀ l ∈ ls,
      (sampledAll (tokens l) (before l).1 (before l).2).result = .ok (after l)) :
    ∃ v, (tellRows (ls.map lane) (ls.map rows) (some seen)).Yields w () v ∧
      Arrives w lane ls after v := by
  have hact : ∀ l ∈ ls, ∀ w : Workspace, w.Sound → w.row (lane l) = some (before l) →
      ∃ v, ((tokens l).forM (sampled (lane l))).Yields w () v ∧ Goes w (lane l) (after l) v :=
    fun l hl w hw hrow => exists_forM_sampled hw hrow (hafter l hl)
  have hdrop : (ls.map rows).map (·.drop seen) = ls.map tokens := by
    rw [List.map_map]
    exact List.map_congr_left hrows
  rw [tellRows, hdrop]
  exact exists_each (fun ls => feedRows (ls.map lane) (ls.map tokens)) rfl (fun _ _ => rfl) hact h

/-- The scores of every row are masked by its own step, and rows without a step stay as they are. -/
theorem yields_maskRows_rows (type : FloatType) (numbers : ι → List Number.Binary)
    (rest : List Scores) (h : Places w lane ls before) :
    ∃ masked v, (maskRows type (ls.map lane) (ls.map (fun l => .vector (numbers l)) ++ rest)).Yields
        w (masked ++ rest) v ∧
      Arrives w lane ls (fun l => (filled (before l).1, (before l).2)) v ∧
      List.Forall₂ (fun l t => ∃ a,
        (Decoding.process type (.vector (numbers l)) (before l).1).1.result = .ok a ∧
          t = a.over (.vector (numbers l))) ls masked := by
  induction ls generalizing w with
  | nil => exact ⟨[], w, ⟨rfl, rfl⟩, ⟨h.sound, .refl w _, by simp⟩, .nil⟩
  | cons l ls ih =>
    obtain ⟨a, ha, hfilled⟩ := exists_process (before l).1 type (numbers l)
    obtain ⟨u, hhead, hu⟩ := exists_process_row h.sound (h.row l List.mem_cons_self) ha
    rw [hfilled] at hu
    obtain ⟨masked, v, hyields, hv, hmasked⟩ := ih (h.tail hu)
    refine ⟨a.over (.vector (numbers l)) :: masked, v, ?_, h.arrives_cons hu hv,
      .cons ⟨a, ha, rfl⟩ hmasked⟩
    exact hhead.bind (hyields.bind ⟨rfl, rfl⟩)

end Lanes

/-! ## Calls -/

/-- Columns of tokens: every row has one token in each of them. The numbers of a tensor are never too
long to be written. -/
structure Columns (b : Nat) where
  count : Nat
  rows : Fin b → List Value
  length_rows : ∀ r, (rows r).length = count
  fits : ∀ r, ∀ t ∈ rows r, t.Fits

namespace Columns

variable {b : Nat}

def empty (b : Nat) : Columns b := ⟨0, fun _ => [], fun _ => rfl, fun _ => List.forall_mem_nil _⟩

def append (x y : Columns b) : Columns b where
  count := x.count + y.count
  rows r := x.rows r ++ y.rows r
  length_rows r := by rw [List.length_append, x.length_rows, y.length_rows]
  fits r := List.forall_mem_append.2 ⟨x.fits r, y.fits r⟩

/-- The rows as a list. -/
def list (x : Columns b) : List (List Value) := (List.finRange b).map x.rows

end Columns

/-- What a processor is called with: the columns that were added, and scores of every row. -/
structure Exchange (b : Nat) where
  columns : Columns b
  type : FloatType
  scores : List (List Number.Binary)
  enough : b ≤ scores.length

section Calls

variable {b : Nat}

/-- Calls a processor with the columns that it has seen and those that were added. -/
def exchange (p : Nat) (seen : Columns b) (e : Exchange b) : Request Scores :=
  callColumns p e.type (seen.append e.columns).count (seen.append e.columns).list
    (.rows (e.scores.map .vector))

/-- Calls one after the other, each with more columns: what the last one gives. -/
def exchanges (p : Nat) (seen : Columns b) : List (Exchange b) → Exchange b → Request Scores
  | [], e => exchange p seen e
  | d :: ds, e => do
    let _ ← exchange p seen d
    exchanges p (seen.append d.columns) ds e

/-- The tokens that a row got. -/
def appended (r : Fin b) (es : List (Exchange b)) : List Value := es.flatMap (·.columns.rows r)

/-- The columns of calls. -/
def columnCount (es : List (Exchange b)) : Nat := (es.map (·.columns.count)).sum

/-- A processor over steps that have matchers of their own, and the columns that it has seen. -/
structure Drives (w : Workspace) (p : Nat) (ks : List Nat) (seen : Option Nat) : Prop where
  sound : w.Sound
  processor : w.processors[p]? = some ⟨ks, seen⟩
  distinct : (ks.map w.owner).Nodup
  row : ∀ k ∈ ks, ∃ x, w.row k = some x

/-- The steps of the rows of a batch: the first ones. -/
def laneOf {ks : List Nat} (hb : b ≤ ks.length) (r : Fin b) : Nat := ks.get (r.castLE hb)

variable {w v u : Workspace} {p : Nat} {ks : List Nat} {seen : Columns b} {q : Option Nat}
  {e : Exchange b} {x mid : Fin b → Matcher × Counts}

/-- The first items of a list, by their places. -/
theorem map_get_castLE {α : Type} {xs : List α} (hb : b ≤ xs.length) :
    (List.finRange b).map (fun r => xs.get (r.castLE hb)) = xs.take b := by
  apply List.ext_getElem
  · simp [hb]
  · intro i h h'
    simp

theorem map_laneOf (hb : b ≤ ks.length) : (List.finRange b).map (laneOf hb) = ks.take b :=
  map_get_castLE hb

/-- What masking leaves of the scores of a call, where the matchers of the rows are given. -/
structure MaskedBy (e : Exchange b) (k : Fin b → Matcher) (masked : List Scores) : Prop where
  row : ∀ r : Fin b, ∃ xs a, e.scores[r.val]? = some xs ∧
    (Decoding.process e.type (.vector xs) (k r)).1.result = .ok a ∧
      masked[r.val]? = some (a.over (.vector xs))
  beyond : ∀ i, b ≤ i → masked[i]? = (e.scores.map .vector)[i]?

/-- What a call leaves of a workspace: the steps of the rows went on, the others are where they
were. -/
structure Leaves (w : Workspace) (p : Nat) {ks : List Nat} (hb : b ≤ ks.length) (count : Nat)
    (y : Fin b → Matcher × Counts) (v : Workspace) : Prop where
  drives : v.Drives p ks (some count)
  row : ∀ r, v.row (laneOf hb r) = some (y r)
  others : ∀ k ∈ ks.drop b, v.row k = w.row k

/-- The matchers of the rows that get no tokens are none of those of the rows that do. -/
theorem Drives.owner_not_mem (hw : w.Drives p ks q) (hb : b ≤ ks.length) {k : Nat}
    (hk : k ∈ ks.drop b) : w.owner k ∉ ((List.finRange b).map (laneOf hb)).map w.owner := by
  have hnodup := hw.distinct
  rw [← List.take_append_drop b ks, List.map_append] at hnodup
  rw [map_laneOf]
  exact fun hmem => (List.nodup_append.1 hnodup).2.2 _ hmem _ (List.mem_map_of_mem hk) rfl

theorem Drives.places (hw : w.Drives p ks q) (hb : b ≤ ks.length) {x : Fin b → Matcher × Counts}
    (hx : ∀ r, w.row (laneOf hb r) = some (x r)) :
    Places w (laneOf hb) (List.finRange b) x := by
  refine ⟨hw.sound, ?_, fun r _ => hx r⟩
  have hmap : (List.finRange b).map (fun r => w.owner (laneOf hb r)) = (ks.take b).map w.owner := by
    rw [← map_laneOf hb, List.map_map]
    rfl
  rw [hmap, List.map_take]
  exact hw.distinct.sublist (List.take_sublist _ _)

theorem Places.of_owner {ι : Type} {lane : ι → Nat} {ls : List ι} {x y : ι → Matcher × Counts}
    (h : Places w lane ls x) (hv : v.Sound) (howner : v.owner = w.owner)
    (hrow : ∀ l ∈ ls, v.row (lane l) = some (y l)) : Places v lane ls y := by
  refine ⟨hv, ?_, hrow⟩
  rw [howner]
  exact h.distinct

/-- The scores of a call are those of the rows, masked, and then those of no row. -/
theorem maskedBy_append {k : Fin b → Matcher} {masked : List Scores}
    (h : List.Forall₂ (fun r t => ∃ a,
      (Decoding.process e.type (.vector (e.scores.get (r.castLE e.enough))) (k r)).1.result = .ok a ∧
        t = a.over (.vector (e.scores.get (r.castLE e.enough)))) (List.finRange b) masked) :
    MaskedBy e k (masked ++ (e.scores.map .vector).drop b) := by
  obtain ⟨hlength, hrow⟩ := List.forall₂_iff_get.1 h
  rw [List.length_finRange] at hlength
  constructor
  · intro r
    have hr : r.val < masked.length := hlength ▸ r.isLt
    obtain ⟨a, ha, ht⟩ := hrow r.val (by simp) hr
    simp only [List.get_finRange, Fin.cast_mk, Fin.eta] at ha ht
    refine ⟨e.scores.get (r.castLE e.enough), a, ?_, ha, ?_⟩
    · simp
    · rw [List.getElem?_append_left hr, ← ht]
      simp
  · intro i hi
    rw [List.getElem?_append_right (hlength ▸ hi), List.getElem?_drop, ← hlength,
      Nat.add_sub_of_le (hlength ▸ hi)]

/-- A call notes down the columns after its steps were told what is new, and moves them once more
when it masks. -/
theorem leaves_of_arrives (hw : w.Drives p ks q) (hb : b ≤ ks.length) {count : Nat}
    {y : Fin b → Matcher × Counts} (hu : Arrives w (laneOf hb) (List.finRange b) mid u)
    (hv : Arrives { u with processors := u.processors.setIfInBounds p ⟨ks, some count⟩ } (laneOf hb)
      (List.finRange b) y v) : Leaves w p hb count y v := by
  have howner : v.owner = w.owner := hv.keeps.owner.trans hu.keeps.owner
  have hothers : ∀ k ∈ ks.drop b, v.row k = w.row k := by
    intro k hk
    have hk := hw.owner_not_mem hb hk
    have hk' : u.owner k ∉ ((List.finRange b).map (laneOf hb)).map u.owner := by
      rwa [hu.keeps.owner]
    have hsecond : v.row k = u.row k := hv.keeps.row k hk'
    rw [hsecond, hu.keeps.row k hk]
  have hrow : ∀ r, v.row (laneOf hb r) = some (y r) := fun r => hv.row r (List.mem_finRange r)
  refine ⟨⟨hv.sound, ?_, ?_, ?_⟩, hrow, hothers⟩
  · have hlt := (Array.getElem?_eq_some_iff.1 hw.processor).1
    rw [hv.keeps.processors, hu.keeps.processors]
    exact Array.getElem?_setIfInBounds_self_of_lt hlt
  · rw [howner]
    exact hw.distinct
  · intro k hk
    rw [← List.take_append_drop b ks, List.mem_append, ← map_laneOf hb] at hk
    rcases hk with hk | hk
    · obtain ⟨r, -, rfl⟩ := List.mem_map.1 hk
      exact ⟨_, hrow r⟩
    · rw [hothers k hk]
      exact hw.row k (List.mem_of_mem_drop hk)

theorem yields_exchange (hw : w.Drives p ks q) (hb : b ≤ ks.length)
    (hx : Places w (laneOf hb) (List.finRange b) x)
    (htell : (tellRows ((List.finRange b).map (laneOf hb)) (seen.append e.columns).list q).Yields
      w () u) (hu : Arrives w (laneOf hb) (List.finRange b) mid u) :
    ∃ masked v, (exchange p seen e).Yields w (.rows masked) v ∧
      Leaves w p hb (seen.append e.columns).count (fun r => (filled (mid r).1, (mid r).2)) v ∧
      MaskedBy e (fun r => (mid r).1) masked := by
  have hlength : (seen.append e.columns).list.length = b := by simp [Columns.list]
  -- The columns are noted down between telling and masking.
  obtain ⟨u', hu'⟩ : ∃ u', u' = { u with
      processors := u.processors.setIfInBounds p ⟨ks, some (seen.append e.columns).count⟩ } :=
    ⟨_, rfl⟩
  have howner : u'.owner = w.owner := by
    rw [hu']
    exact hu.keeps.owner
  have hplaces : Places u' (laneOf hb) (List.finRange b) mid := by
    refine hx.of_owner (hu' ▸ hu.sound.congr u.steps u.sessions _) howner fun r hr => ?_
    rw [hu']
    exact hu.row r hr
  have hscores : (List.finRange b).map (fun r => Scores.vector (e.scores.get (r.castLE e.enough))) ++
      (e.scores.map .vector).drop b = e.scores.map .vector := by
    have htake : (List.finRange b).map (fun r => Scores.vector (e.scores.get (r.castLE e.enough))) =
        (e.scores.map .vector).take b := by
      rw [← List.map_take, ← map_get_castLE e.enough, List.map_map]
      rfl
    rw [htake, List.take_append_drop]
  obtain ⟨masked, v, hmask, hv, hmasked⟩ := yields_maskRows_rows e.type
    (fun r => e.scores.get (r.castLE e.enough)) ((e.scores.map .vector).drop b) hplaces
  rw [hscores] at hmask
  refine ⟨masked ++ (e.scores.map .vector).drop b, v, ?_, ?_, ?_⟩
  · rw [map_laneOf] at htell hmask
    refine (yields_processor hw.processor).bind ?_
    simp only [hlength]
    rw [if_neg (Nat.not_lt.2 hb)]
    refine htell.bind ?_
    refine Action.Yields.bind (a := ()) (t := u') ⟨rfl, hu'.symm⟩ ?_
    exact Action.Yields.bind (a := e.scores.map .vector) ⟨rfl, rfl⟩ (hmask.bind ⟨rfl, rfl⟩)
  · exact leaves_of_arrives hw hb hu (hu' ▸ hv)
  · exact maskedBy_append hmasked

/-! ### Calls one after the other -/

theorem Leaves.trans {hb : b ≤ ks.length} {count count' : Nat} {y z : Fin b → Matcher × Counts}
    (h : Leaves w p hb count y u) (h' : Leaves u p hb count' z v) : Leaves w p hb count' z v :=
  ⟨h'.drives, h'.row, fun k hk => (h'.others k hk).trans (h.others k hk)⟩

theorem MaskedBy.congr {k k' : Fin b → Matcher} {masked : List Scores} (h : MaskedBy e k masked)
    (hk : ∀ r, filled (k r) = filled (k' r)) : MaskedBy e k' masked := by
  refine ⟨fun r => ?_, h.beyond⟩
  obtain ⟨xs, a, hxs, ha, hmasked⟩ := h.row r
  rw [process_of_filled_eq (hk r)] at ha
  exact ⟨xs, a, hxs, ha, hmasked⟩

/-- What calls leave of a workspace in which the steps of the rows were at some places: they were
told the tokens of their rows, and masked the scores of the last call. -/
structure Delivered (w : Workspace) (p : Nat) {ks : List Nat} (hb : b ≤ ks.length)
    (x : Fin b → Matcher × Counts) (tokens : Fin b → List Value) (count : Nat) (e : Exchange b)
    (masked : List Scores) (v : Workspace) (k : Fin b → Matcher × Counts) : Prop where
  told : ∀ r, (told (tokens r) (x r).1 (x r).2).result = .ok (k r)
  leaves : Leaves w p hb count (fun r => (filled (k r).1, (k r).2)) v
  masked : MaskedBy e (fun r => (k r).1) masked

/-- The first call starts the prompt in every row. -/
theorem delivered_first (hw : w.Drives p ks none) (hb : b ≤ ks.length)
    (hx : ∀ r, w.row (laneOf hb r) = some (x r)) (seen : Columns b) (e : Exchange b) :
    ∃ masked v k, (exchange p seen e).Yields w (.rows masked) v ∧
      Delivered w p hb x (fun _ => []) (seen.append e.columns).count e masked v k := by
  have hplaces := hw.places hb hx
  obtain ⟨u, htell, hu⟩ := yields_tellRows_none hplaces (seen.append e.columns).list
  obtain ⟨masked, v, hyields, hleaves, hmasked⟩ := yields_exchange hw hb hplaces htell hu
  refine ⟨masked, v, fun r => started (x r), hyields, fun r => ?_, hleaves, hmasked⟩
  exact Logged.result_bind_eq_ok.2 ⟨_, result_promptStart _, rfl⟩

/-- A later call tells every row the tokens that were added to it. -/
theorem Delivered.next {hb : b ≤ ks.length} {tokens : Fin b → List Value} {masked : List Scores}
    {k : Fin b → Matcher × Counts} {d : Exchange b}
    (h : Delivered w p hb x tokens seen.count d masked v k) (e : Exchange b) :
    ∃ masked u l, (exchange p seen e).Yields v (.rows masked) u ∧
      Delivered w p hb x (fun r => tokens r ++ e.columns.rows r) (seen.append e.columns).count e
        masked u l := by
  have hplaces := h.leaves.drives.places hb h.leaves.row
  choose mid hmid using fun r =>
    exists_result_sampledAll (e.columns.fits r) (filled (k r).1) (k r).2
  have hdrop : ∀ r ∈ List.finRange b, ((seen.append e.columns).rows r).drop seen.count =
      e.columns.rows r := fun r _ => List.drop_left' (seen.length_rows r)
  obtain ⟨w', htell, hw'⟩ := yields_tellRows_some hplaces hdrop fun r _ => hmid r
  obtain ⟨masked, u, hyields, hleaves, hmasked⟩ :=
    yields_exchange h.leaves.drives hb hplaces htell hw'
  -- What the steps are told now goes on from where they were told the tokens before.
  have htold (r : Fin b) : Told (tokens r) (x r) (filled (k r).1, (k r).2) := ⟨_, h.told r, rfl⟩
  choose l hl hfilled using fun r => (htold r).append (hmid r)
  have hplace : (fun r => (filled (mid r).1, (mid r).2)) = fun r => (filled (l r), (mid r).2) :=
    funext fun r => by rw [← hfilled r]
  refine ⟨masked, u, fun r => (l r, (mid r).2), hyields, hl, ?_, hmasked.congr hfilled⟩
  exact h.leaves.trans (hplace ▸ hleaves)

/-- The calls after the first one tell every row the tokens that were added to it since. -/
theorem Delivered.exchanges {hb : b ≤ ks.length} {tokens : Fin b → List Value}
    {masked : List Scores} {k : Fin b → Matcher × Counts} {d : Exchange b}
    (h : Delivered w p hb x tokens seen.count d masked v k) (es : List (Exchange b))
    (e : Exchange b) : ∃ masked u l, (exchanges p seen es e).Yields v (.rows masked) u ∧
      Delivered w p hb x (fun r => tokens r ++ appended r (es ++ [e]))
        (seen.count + columnCount (es ++ [e])) e masked u l := by
  induction es generalizing seen tokens masked v k d with
  | nil =>
    obtain ⟨masked, u, l, hyields, hu⟩ := h.next e
    exact ⟨masked, u, l, hyields, by simpa [appended, columnCount, Columns.append] using hu⟩
  | cons c cs ih =>
    obtain ⟨masked', u', l', hyields', hu'⟩ := h.next c
    -- The tokens that were told so far are in the hypothesis, and so it goes on from there.
    obtain ⟨masked, u, l, hyields, hu⟩ := ih hu'
    refine ⟨masked, u, l, hyields'.bind hyields, ?_⟩
    have hcount : (seen.append c.columns).count + columnCount (cs ++ [e]) =
        seen.count + columnCount (c :: cs ++ [e]) := by
      simp [columnCount, Columns.append, Nat.add_assoc]
    rw [← hcount]
    simpa [appended, List.append_assoc] using hu

/-- A generation: the first call starts the prompt in every row, and the calls after it tell every
row the tokens that were added to it since. -/
theorem Drives.generates (hw : w.Drives p ks none) (hb : b ≤ ks.length)
    (hx : ∀ r, w.row (laneOf hb r) = some (x r)) (es : List (Exchange b)) (e : Exchange b) :
    ∃ masked v k, (exchanges p (.empty b) es e).Yields w (.rows masked) v ∧
      Delivered w p hb x (fun r => appended r (es ++ [e]).tail) (columnCount (es ++ [e])) e masked v
        k := by
  -- The first of the calls is the one with the prompt, of which no step is told.
  cases es with
  | nil =>
    obtain ⟨masked, v, k, hyields, hv⟩ := delivered_first hw hb hx (.empty b) e
    refine ⟨masked, v, k, hyields, ?_⟩
    simpa [appended, columnCount, Columns.append, Columns.empty] using hv
  | cons d ds =>
    obtain ⟨masked', v', k', hyields', hv'⟩ := delivered_first hw hb hx (.empty b) d
    obtain ⟨masked, v, k, hyields, hv⟩ := hv'.exchanges ds e
    refine ⟨masked, v, k, hyields'.bind hyields, ?_⟩
    simpa [appended, columnCount, Columns.append, Columns.empty] using hv

end Calls

/-! ## Generations -/

/-- What a processor does whose steps have matchers of their own. When it is reset, the next call
starts a generation. Calls with more rows than steps are refused, and change nothing. In a
generation, a first call with a prompt and then any calls that add columns to it, every step of a
row is where it would be had its prompt started and then the tokens been sampled that its row got
after the prompt, the scores of its row are masked by its matcher, and the other steps stay where
they are. -/
theorem generates_of_drives {w : Workspace} {p : Nat} {ks : List Nat} {seen : Option Nat}
    (hw : w.Drives p ks seen) :
    (∃ v, (resetProcessor p).Yields w () v ∧ v.Drives p ks none ∧ v.row = w.row) ∧
    (∀ type columns ids scores, ks.length < ids.length →
      (callColumns p type columns ids scores).Fails w
        (.argument (.batch ids.length ks.length)) w) ∧
    (seen = none → ∀ b ≤ ks.length, ∀ (es : List (Exchange b)) (e : Exchange b), ∃ masked v,
      (exchanges p (.empty b) es e).Yields w (.rows masked) v ∧
      v.Drives p ks (some (columnCount (es ++ [e]))) ∧
      (∀ k ∈ ks.drop b, v.row k = w.row k) ∧
      (∀ i, b ≤ i → masked[i]? = (e.scores.map Scores.vector)[i]?) ∧
      ∀ (r : Fin b) (k : Nat), ks[r.val]? = some k → ∀ m c, w.row k = some (m, c) →
        ∃ n d, (told (appended r (es ++ [e]).tail) m c).result = .ok (n, d) ∧
          v.row k = some (filled n, d) ∧ ∃ xs a, e.scores[r.val]? = some xs ∧
            (Decoding.process e.type (.vector xs) n).1.result = .ok a ∧
            masked[r.val]? = some (a.over (.vector xs))) := by
  refine ⟨?_, fun type columns ids scores hids => ?_, ?_⟩
  · have hlt := (Array.getElem?_eq_some_iff.1 hw.processor).1
    refine ⟨_, (yields_processor hw.processor).bind ⟨rfl, rfl⟩,
      ⟨hw.sound.congr w.steps w.sessions _, ?_, hw.distinct, hw.row⟩, rfl⟩
    exact Array.getElem?_setIfInBounds_self_of_lt hlt
  · refine (yields_processor hw.processor).bind_fails ?_
    rw [if_pos hids]
    exact Action.Fails.bind ⟨rfl, rfl⟩ _
  · rintro rfl b hb es e
    have hmem (r : Fin b) : laneOf hb r ∈ ks := List.get_mem ks _
    choose x hx using fun r => hw.row _ (hmem r)
    obtain ⟨masked, v, k, hyields, hv⟩ := hw.generates hb hx es e
    refine ⟨masked, v, hyields, hv.leaves.drives, hv.leaves.others, hv.masked.beyond, ?_⟩
    intro r j hj m c hm
    obtain rfl : laneOf hb r = j := by
      rw [List.getElem?_eq_getElem (r.isLt.trans_le hb)] at hj
      exact Option.some.inj hj
    have hxr : x r = (m, c) := Option.some.inj ((hx r).symm.trans hm)
    have htold := hv.told r
    rw [hxr] at htold
    exact ⟨(k r).1, (k r).2, htold, hv.leaves.row r, hv.masked.row r⟩

/-! ## Opening a batch -/

/-- A step over a new matcher. -/
def newRow (check : StopCheck) : Request Nat := do newStep (← newMatcher check)

/-- A step over a matcher of its own for every row. -/
def openRows : List StopCheck → Request (List Nat)
  | [] => return []
  | check :: checks => do
    let k ← newRow check
    return k :: (← openRows checks)

/-- A processor over steps with matchers of their own. -/
def openBatch (checks : List StopCheck) : Request Nat := do newProcessor (← openRows checks)

section Opening

variable {g : Grammar} {w v u : Workspace} {m n : Matcher} {k : Nat} {ks : List Nat}
  {checks : List StopCheck}

theorem exists_newRow (hw : w.Sound) (check : StopCheck) :
    ∃ v, (newRow check).Yields w w.steps.size v ∧ Grows w v ∧
      v.owner w.steps.size = some w.matchers.size ∧ w.matchers.size < v.matchers.size ∧
      v.row w.steps.size = some (.fresh w.grammar check, {}) := by
  obtain ⟨u, hnew, hu⟩ := exists_newMatcher hw check
  have hsteps : u.steps = w.steps := by rw [hu.rest]
  obtain ⟨v, hstep, hv, howner, hrow⟩ := exists_newStep hu.sound hu.matcher
  rw [hsteps] at hstep howner hrow
  have hsize : w.matchers.size < u.matchers.size := by
    rw [hu.size]
    exact Nat.lt_succ_self _
  exact ⟨v, hnew.bind hstep, hu.grows.trans hv, howner, hsize.trans_le hv.matchers, hrow⟩

/-- The matchers of the rows are opened one after the other, and so they are distinct. -/
theorem exists_openRows (checks : List StopCheck) (hw : w.Sound) (hg : w.grammar = g) : ∃ ks v,
    (openRows checks).Yields w ks v ∧ Grows w v ∧
      (∀ k ∈ ks, (∃ x, v.row k = some x) ∧ ∃ i, w.matchers.size ≤ i ∧ v.owner k = some i) ∧
      (ks.map v.owner).Nodup ∧
      List.Forall₂ (fun check k => v.row k = some (.fresh g check, {})) checks ks := by
  induction checks generalizing w with
  | nil => exact ⟨[], w, ⟨rfl, rfl⟩, .refl hw, by simp, .nil, .nil⟩
  | cons check checks ih =>
    obtain ⟨u, hnew, hu, howner, hsize, hrow⟩ := exists_newRow hw check
    obtain ⟨ks, v, hopen, hv, howners, hdistinct, hrows⟩ := ih hu.sound (hu.grammar.trans hg)
    have hfirst := hv.owner howner
    refine ⟨w.steps.size :: ks, v, ?_, hu.trans hv, ?_, ?_, .cons (hv.row (hg ▸ hrow)) hrows⟩
    · exact hnew.bind (hopen.bind ⟨rfl, rfl⟩)
    · refine List.forall_mem_cons.2 ⟨⟨⟨_, hv.row hrow⟩, _, le_rfl, hfirst⟩, fun k hk => ?_⟩
      obtain ⟨hrow, i, hi, hki⟩ := howners k hk
      exact ⟨hrow, i, hsize.le.trans hi, hki⟩
    · refine List.nodup_cons.2 ⟨fun hmem => ?_, hdistinct⟩
      obtain ⟨k, hk, heq⟩ := List.mem_map.1 hmem
      obtain ⟨-, i, hi, hki⟩ := howners k hk
      rw [hki, hfirst] at heq
      obtain rfl := Option.some.inj heq
      exact absurd hi (Nat.not_le.2 hsize)

/-- A batch that is opened has a processor over steps with matchers of their own, which are all at
the start. -/
theorem exists_openBatch (g : Grammar) (checks : List StopCheck) :
    ∃ ks v, (openBatch checks).Yields (.ofGrammar g) 0 v ∧ v.Drives 0 ks none ∧
      List.Forall₂ (fun check k => v.row k = some (.fresh g check, {})) checks ks := by
  obtain ⟨ks, u, hopen, hu, howners, hdistinct, hrows⟩ :=
    exists_openRows checks (sound_ofGrammar g) rfl
  have hprocessors : u.processors = #[] := hu.processors
  have hrow : ∀ k ∈ ks, ∃ x, u.row k = some x := fun k hk => (howners k hk).1
  refine ⟨ks, { u with processors := #[⟨ks, none⟩] }, ?_,
    ⟨hu.sound.congr _ _ _, rfl, hdistinct, hrow⟩, hrows⟩
  have hnew := yields_newProcessor hrow
  rw [hprocessors] at hnew
  exact hopen.bind hnew

end Opening

/-- A prompt of one column. -/
def promptColumn : Exchange 2 where
  columns := ⟨1, fun r => [.int r.val], fun _ => rfl, fun r => List.forall_mem_singleton.2
    (Json.fits_of_lt_ten (Nat.lt_of_lt_of_le r.isLt (by decide)))⟩
  type := .float32
  scores := [[.zero, .zero, .zero], [.zero, .zero, .zero]]
  enough := le_rfl

/-- Two more columns: the first row gets a token that ends its text after one that makes it, and
the second one a token that its grammar rejects. -/
def twoColumns : Exchange 2 where
  columns := ⟨2, fun r => if r = 0 then [.int 2, .int 1] else [.int 0, .int 2],
    fun r => by split <;> rfl, fun r => by
      have hfits : ∀ i < 10, (Value.int (i : Nat)).Fits := fun i hi => Json.fits_of_lt_ten hi
      split
      · exact List.forall_mem_cons.2
          ⟨hfits 2 (by decide), List.forall_mem_singleton.2 (hfits 1 (by decide))⟩
      · exact List.forall_mem_cons.2
          ⟨hfits 0 (by decide), List.forall_mem_singleton.2 (hfits 2 (by decide))⟩⟩
  type := .float32
  scores := [[.zero, .zero, .zero], [.zero, .zero, .zero]]
  enough := le_rfl

theorem generates_of_drives_pieces :
    ∃ g w, (Grammar.compile Matcher.truthSource Matcher.pieces).result = .ok g ∧
      (openBatch [.position, .mask]).Yields (.ofGrammar g) 0 w ∧ ∃ k₀ k₁,
      w.Drives 0 [k₀, k₁] none ∧ ∃ masked v,
      (exchanges 0 (.empty 2) [promptColumn] twoColumns).Yields w (.rows masked) v ∧
      v.Drives 0 [k₀, k₁] (some 3) ∧ ∃ n d,
        (told [.int 2, .int 1] (.fresh g .position) {}).result = .ok (n, d) ∧
        v.row k₀ = some (filled n, d) := by
  obtain ⟨g, hg⟩ := Matcher.exists_compile_pieces
  obtain ⟨ks, w, hopen, hw, hrows⟩ := exists_openBatch g [.position, .mask]
  obtain ⟨k₀, ks, hk₀, hrest, rfl⟩ := List.forall₂_cons_left_iff.1 hrows
  obtain ⟨k₁, ks, hk₁, hnil, rfl⟩ := List.forall₂_cons_left_iff.1 hrest
  obtain rfl := List.forall₂_nil_left_iff.1 hnil
  obtain ⟨-, -, hgenerates⟩ := generates_of_drives hw
  obtain ⟨masked, v, hyields, hv, -, -, hrows⟩ := hgenerates rfl 2 le_rfl [promptColumn] twoColumns
  obtain ⟨n, d, htold, hrow, -⟩ := hrows 0 k₀ rfl _ _ hk₀
  exact ⟨g, w, hg, hopen, k₀, k₁, hw, masked, v, hyields, hv, n, d, htold, hrow⟩

end Workspace

end GuidedJson.Decoding
