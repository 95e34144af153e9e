import GuidedJson.Grammar.Matcher
import GuidedJson.Proofs.Grammar.Compiled
import GuidedJson.Proofs.Schema.Leaves

/-!
# What matchers accept

A fresh matcher accepts tokens one after the other exactly as long as more tokens can make a text
of the source out of what they spell.
-/

namespace GuidedJson

open Automaton (Machine Position)
open Pattern (Regex)
open Text (Utf8.encode)

namespace Matcher

/-! ## One token -/

/-- Whether a matcher takes a token, and the matcher after it. -/
def Takes (m : Matcher) (id : Int) (n : Matcher) : Prop := m.advance id = .ok (true, n)

theorem takes_iff {m n : Matcher} (hopen : m.closed = false) {id : Int} :
    m.Takes id n ↔ m.accept? id = some n := by
  rw [Takes, advance_of_open hopen]
  cases m.accept? id <;> simp

theorem isStop_iff {v : Vocabulary} {i : Nat} : v.isStop i = true ↔ i ∈ v.stop := by
  rw [Vocabulary.isStop, List.contains_iff_mem]

theorem not_mem_stop_of_isMatchable {v : Vocabulary} {i : Nat} (h : v.isMatchable i = true) :
    i ∉ v.stop := by
  intro hstop
  simp [Vocabulary.isMatchable, isStop_iff.2 hstop] at h

/-- The tokens that a matcher can take: a stop token where a text may end, and a token whose octets
lead to a position that leads on to an end. -/
theorem accept?_natCast {m n : Matcher} {i : Nat} : m.accept? i = some n ↔ m.terminated = false ∧
    (i ∈ m.grammar.vocabulary.stop ∧ m.grammar.machine.finalAt m.position = true ∧
        n = { m with terminated := true } ∨
      m.grammar.vocabulary.isMatchable i = true ∧
        ∃ q, m.grammar.machine.walk m.position (m.grammar.vocabulary.octets i) = some q ∧
          m.grammar.isProductive q = true ∧ n = { m with position := q }) := by
  unfold accept?
  cases hrunning : m.terminated with
  | true => simp
  | false =>
    have htable : Vocabulary.inTable m.grammar.vocabulary.size i =
        decide (i < m.grammar.vocabulary.size) := by
      simp [Vocabulary.inTable]
    rw [Bool.false_or, htable, Int.toNat_natCast, Vocabulary.isMatchable]
    by_cases hlt : i < m.grammar.vocabulary.size
    -- A stop token is taken without its octets, any other token by walking along them.
    · simp only [hlt, decide_true, Bool.not_true, Bool.false_eq_true, if_false, Bool.true_and,
        true_and]
      by_cases hstop : m.grammar.vocabulary.isStop i = true
      · simp only [hstop, if_true, isStop_iff.1 hstop, true_and, Bool.not_true, Bool.false_and,
          Bool.false_eq_true, false_and, or_false]
        split <;> simp [*, eq_comm]
      · have hmem : i ∉ m.grammar.vocabulary.stop := fun h => hstop (isStop_iff.2 h)
        simp only [hstop, hmem, Bool.not_false, Bool.true_and, false_and, false_or]
        cases (m.grammar.vocabulary.octets i).isEmpty with
        | true => simp
        | false =>
          cases m.grammar.machine.walk m.position (m.grammar.vocabulary.octets i) with
          | none => simp
          | some q =>
            cases hprod : m.grammar.isProductive q with
            | true =>
              simp only [Bool.false_eq_true, if_false, hprod, if_true, Option.some.injEq,
                exists_eq_left', true_and, Bool.not_false]
              exact eq_comm
            | false => simp [hprod]
    · have hmem : i ∉ m.grammar.vocabulary.stop := fun h => hlt (m.grammar.vocabulary.stop_lt i h)
      simp [hlt, hmem]

theorem exists_natCast_of_accept? {m n : Matcher} {id : Int} (h : m.accept? id = some n) :
    ∃ i : Nat, id = i := by
  unfold accept? at h
  split at h
  · cases h
  · rename_i hid
    simp only [Vocabulary.inTable, Bool.or_eq_true, Bool.not_eq_true', Bool.and_eq_false_iff,
      decide_eq_false_iff_not, not_or, not_not] at hid
    exact ⟨id.toNat, (Int.toNat_of_nonneg hid.2.1).symm⟩

/-- The buffer plays no part in what is accepted, and stays as it is. -/
theorem accept?_withBuffer {β γ : Type} (m : Matcher β) (b : γ) (id : Int) :
    (m.withBuffer b).accept? id = (m.accept? id).map (·.withBuffer b) := by
  unfold accept? withBuffer
  dsimp only
  split
  · rfl
  · split
    · split <;> rfl
    · split
      · rfl
      · cases m.grammar.machine.walk m.position (m.grammar.vocabulary.octets id.toNat) with
        | none => rfl
        | some q => dsimp only; split <;> rfl

theorem accept?_buffer (m : Matcher) (b : Mask) (id : Int) :
    ({ m with buffer := b } : Matcher).accept? id =
      (m.accept? id).map fun n => { n with buffer := b } :=
  accept?_withBuffer m b id

/-- Accepting a token moves a matcher, and changes nothing else of it. -/
theorem eq_of_accept? {β : Type} {m n : Matcher β} {id : Int} (h : m.accept? id = some n) :
    n = { m with position := n.position, terminated := n.terminated } := by
  unfold accept? at h
  dsimp only at h
  split at h
  · cases h
  · split at h
    · split at h <;> cases h
      rfl
    · split at h
      · cases h
      · cases hwalk : m.grammar.machine.walk m.position (m.grammar.vocabulary.octets id.toNat) with
        | none =>
          rw [hwalk] at h
          cases h
        | some q =>
          rw [hwalk] at h
          dsimp only at h
          split at h <;> cases h
          rfl

/-! ## Where matchers stand -/

/-- What holds of a matcher that took some tokens and no stop token: their octets lead to its
position, from which others lead on to an end. -/
structure At (m : Matcher) (g : Grammar) (ids : List Nat) : Prop where
  grammar : m.grammar = g
  running : m.terminated = false
  isOpen : m.closed = false
  matchable : g.vocabulary.Matchable ids
  walk : g.machine.walk Machine.origin (g.vocabulary.spell ids) = some m.position
  productive : Index.Productive g.machine g.vocabulary m.position

section Standing

variable {g : Grammar} {r : Regex} {m n : Matcher} {ids : List Nat}

theorem at_fresh (hg : g.Compiled r) (check : StopCheck) : (fresh g check).At g [] :=
  ⟨rfl, rfl, rfl, by simp [Vocabulary.Matchable], rfl,
    (hg.isProductive_iff.1 (Std.HashMap.contains_iff_mem.2 hg.origin)).2⟩

theorem At.isProductive_iff (hm : m.At g ids) (hg : g.Compiled r) {i : Nat}
    (hi : g.vocabulary.isMatchable i = true) {q : Position}
    (hq : g.machine.walk m.position (g.vocabulary.octets i) = some q) :
    g.isProductive q = true ↔ Index.Productive g.machine g.vocabulary q := by
  have hspelled : Index.Spelled g.machine g.vocabulary m.position := ⟨ids, hm.matchable, hm.walk⟩
  rw [hg.isProductive_iff, and_iff_right (hspelled.walk hi hq)]

/-- A token that stops nothing takes a matcher to where its octets lead. -/
theorem At.takes_iff (hm : m.At g ids) (hg : g.Compiled r) {i : Nat}
    (hi : i ∉ g.vocabulary.stop) : m.Takes i n ↔ g.vocabulary.isMatchable i = true ∧
      ∃ q, g.machine.walk m.position (g.vocabulary.octets i) = some q ∧
        Index.Productive g.machine g.vocabulary q ∧ n = { m with position := q } := by
  obtain rfl := hm.grammar
  rw [Matcher.takes_iff hm.isOpen, accept?_natCast, and_iff_right hm.running]
  simp only [hi, false_and, false_or]
  apply and_congr_right
  intro hmatchable
  apply exists_congr
  intro q
  apply and_congr_right
  intro hq
  rw [hm.isProductive_iff hg hmatchable hq]

theorem At.snoc (hm : m.At g ids) {i : Nat} (hi : g.vocabulary.isMatchable i = true) {q : Position}
    (hq : g.machine.walk m.position (g.vocabulary.octets i) = some q)
    (hprod : Index.Productive g.machine g.vocabulary q) :
    Matcher.At { m with position := q } g (ids ++ [i]) := by
  refine ⟨hm.grammar, hm.running, hm.isOpen, ?_, ?_, hprod⟩
  · exact Vocabulary.matchable_append.2 ⟨hm.matchable, by simpa [Vocabulary.Matchable]⟩
  · rw [Vocabulary.spell_append, Machine.walk_append, hm.walk, Option.bind_some]
    simpa using hq

/-- A text may end where a matcher stands exactly if the tokens it took spell a whole text. -/
theorem At.finalAt_iff (hm : m.At g ids) (hg : g.Compiled r) :
    g.machine.finalAt m.position = true ↔
      ∃ w, g.vocabulary.spell ids = Utf8.encode w ∧ r.Matches w := by
  rw [← hg.walk_final_iff, hm.walk]
  simp

/-- A stop token is taken exactly where a text may end. -/
theorem At.takes_stop_iff (hm : m.At g ids) {i : Nat} (hi : i ∈ g.vocabulary.stop) :
    m.Takes i n ↔ g.machine.finalAt m.position = true ∧ n = { m with terminated := true } := by
  obtain rfl := hm.grammar
  have hmatchable : ¬ m.grammar.vocabulary.isMatchable i = true := fun h =>
    not_mem_stop_of_isMatchable h hi
  rw [Matcher.takes_iff hm.isOpen, accept?_natCast, and_iff_right hm.running]
  simp [hi, hmatchable]

/-! ## Tokens one after the other -/

/-- Whether a matcher takes all of some tokens, and the matcher after them. -/
def TakesAll (m : Matcher) (ids : List Int) (n : Matcher) : Prop :=
  m.advanceAll ids = .ok (List.replicate ids.length true, n)

theorem takesAll_nil : m.TakesAll [] n ↔ n = m := by
  simp [TakesAll, advanceAll, eq_comm]

theorem takesAll_cons {id : Int} {ids : List Int} :
    m.TakesAll (id :: ids) n ↔ ∃ k, m.Takes id k ∧ k.TakesAll ids n := by
  simp only [TakesAll, Takes, advanceAll, bind, Except.bind, pure, Except.pure, List.length_cons,
    List.replicate_succ]
  cases hid : m.advance id with
  | error e => simp
  | ok first =>
    obtain ⟨b, k⟩ := first
    simp only [Except.ok.injEq, Prod.mk.injEq]
    constructor
    · intro h
      split at h
      · cases h
      · rename_i rest hrest
        obtain ⟨bs, l⟩ := rest
        simp only [Except.ok.injEq, Prod.mk.injEq, List.cons.injEq] at h
        obtain ⟨⟨rfl, rfl⟩, rfl⟩ := h
        exact ⟨k, ⟨rfl, rfl⟩, hrest⟩
    · rintro ⟨_, ⟨rfl, rfl⟩, hrest⟩
      simp [hrest]

theorem At.of_takesAll {is : List Int} (hm : m.At g ids) (hg : g.Compiled r)
    (his : ∀ id ∈ is, ∀ i ∈ g.vocabulary.stop, id ≠ (i : Int)) (h : m.TakesAll is n) :
    ∃ js : List Nat, is = js.map (↑) ∧ n.At g (ids ++ js) := by
  induction is generalizing m ids with
  | nil =>
    obtain rfl := takesAll_nil.1 h
    exact ⟨[], rfl, by simpa using hm⟩
  | cons id is ih =>
    obtain ⟨hid, hrest⟩ := List.forall_mem_cons.1 his
    obtain ⟨k, hk, h⟩ := takesAll_cons.1 h
    obtain ⟨i, rfl⟩ := exists_natCast_of_accept? ((Matcher.takes_iff hm.isOpen).1 hk)
    obtain ⟨hi, q, hq, hprod, rfl⟩ := (hm.takes_iff hg fun hi => hid i hi rfl).1 hk
    obtain ⟨js, rfl, hn⟩ := ih (hm.snoc hi hq hprod) hrest h
    exact ⟨i :: js, rfl, by simpa using hn⟩

/-- Tokens that lead to a position from which others lead on to an end are all taken: what leads on
from the last position leads on from those before it. -/
theorem At.exists_takesAll (hm : m.At g ids) (hg : g.Compiled r) {js us : List Nat}
    (hjs : g.vocabulary.Matchable js) (hus : g.vocabulary.Matchable us) {q : Position}
    (hq : g.machine.walk m.position (g.vocabulary.spell (js ++ us)) = some q)
    (hf : g.machine.finalAt q = true) : ∃ n, m.TakesAll (js.map (↑)) n := by
  induction js generalizing m ids with
  | nil => exact ⟨m, takesAll_nil.2 rfl⟩
  | cons j js ih =>
    obtain ⟨hj, hjs⟩ := Vocabulary.matchable_cons.1 hjs
    rw [List.cons_append, Vocabulary.spell_cons, Machine.walk_append] at hq
    obtain ⟨p, hp, hq⟩ := Option.bind_eq_some_iff.1 hq
    -- The tokens that are left lead from here to the end.
    have hprod : Index.Productive g.machine g.vocabulary p :=
      ⟨js ++ us, Vocabulary.matchable_append.2 ⟨hjs, hus⟩, q, hq, hf⟩
    have hstop := not_mem_stop_of_isMatchable hj
    obtain ⟨n, hn⟩ := ih (hm.snoc hj hp hprod) hjs hq
    exact ⟨n, takesAll_cons.2 ⟨_, (hm.takes_iff hg hstop).2 ⟨hj, p, hp, hprod, rfl⟩, hn⟩⟩

/-- More tokens make a text of what a matcher took. -/
theorem At.exists_text (hm : m.At g ids) (hg : g.Compiled r) : ∃ us, g.vocabulary.Matchable us ∧
    ∃ w, g.vocabulary.spell ids ++ g.vocabulary.spell us = Utf8.encode w ∧ r.Matches w := by
  obtain ⟨us, hus, q, hq, hf⟩ := hm.productive
  refine ⟨us, hus, hg.walk_final_iff.1 ⟨q, ?_, hf⟩⟩
  rw [Machine.walk_append, hm.walk, Option.bind_some, hq]

end Standing

/-! ## Exactness -/

/-- A fresh matcher takes tokens that stop nothing exactly if they are matchable and more matchable
tokens make the octets of a text of the source out of theirs; then a stop token is taken exactly
if they make one by themselves. -/
theorem takesAll_fresh_iff {source : Schema.Source} {v : Vocabulary} {g : Grammar}
    (h : (Grammar.compile source v).result = .ok g) (check : StopCheck) (ids : List Int)
    (hids : ∀ id ∈ ids, ∀ i ∈ v.stop, id ≠ (i : Int)) :
    ((∃ m, (fresh g check).TakesAll ids m) ↔
      ∃ js : List Nat, ids = js.map (↑) ∧ v.Matchable js ∧ ∃ us, v.Matchable us ∧
        ∃ w, v.spell js ++ v.spell us = Utf8.encode w ∧ source.Describes w) ∧
    ∀ m, (fresh g check).TakesAll ids m → ∀ i ∈ v.stop,
      ((∃ n, m.Takes i n) ↔
        ∃ w, v.spell (ids.map Int.toNat) = Utf8.encode w ∧ source.Describes w) := by
  obtain ⟨r, hg⟩ := Grammar.exists_compiled h
  obtain ⟨-, rfl, -, -, -⟩ := Grammar.compile_eq_ok.1 h
  have hfresh := at_fresh hg check
  simp only [Grammar.describes_iff h hg]
  refine ⟨⟨?_, ?_⟩, ?_⟩
  · rintro ⟨m, hm⟩
    obtain ⟨js, rfl, hjs⟩ := hfresh.of_takesAll hg hids hm
    exact ⟨js, rfl, hjs.matchable, At.exists_text hjs hg⟩
  · rintro ⟨js, rfl, hjs, us, hus, hw⟩
    -- The octets of a text of the source lead to an end, and so the tokens are taken on the way.
    obtain ⟨q, hq, hf⟩ := hg.walk_final_iff.2 hw
    refine hfresh.exists_takesAll hg hjs hus ?_ hf
    rw [Vocabulary.spell_append]
    exact hq
  · intro m hm i hi
    obtain ⟨js, rfl, hjs⟩ := hfresh.of_takesAll hg hids hm
    have htoNat : (js.map ((↑) : Nat → Int)).map Int.toNat = js := by
      simp [Function.comp_def]
    have hjs : m.At g js := hjs
    rw [htoNat, ← hjs.finalAt_iff hg]
    simp only [hjs.takes_stop_iff hi, exists_and_left, exists_eq, and_true]

/-! ## A source of two texts -/

/-- The source of the schema that admits true and false. -/
def truthSource : Schema.Source := ⟨"\x7b\n  \"type\": \"boolean\"\n\x7d", none⟩

theorem describes_truthSource {w : List Char} :
    truthSource.Describes w ↔ w = "true".toList ∨ w = "false".toList := by
  have hpattern : (Grammar.patternOf truthSource).result = .ok "(true|false)" := by cbv
  have htrue : Pattern.Spells "true".toList {"true".toList} := Schema.spells_plain (by decide)
  have hfalse : Pattern.Spells "false".toList {"false".toList} := Schema.spells_plain (by decide)
  have hspells : Pattern.Spells "(true|false)".toList ({"true".toList} + {"false".toList}) :=
    (htrue.cons_options hfalse.options).group
  obtain ⟨r, hr, hl⟩ := hspells.options.exists_read
  have hmatches : r.Matches w ↔ w = "true".toList ∨ w = "false".toList := by
    rw [← Regex.mem_language, hl]
    rfl
  rw [← hmatches]
  constructor
  · rintro ⟨p, s, hp, hs, hw⟩
    rw [hpattern] at hp
    cases hp
    rw [hr] at hs
    cases hs
    exact hw
  · exact fun hw => ⟨_, r, hpattern, hr, hw⟩

/-- Three tokens, of which the second stops a text although it has octets. -/
def pieces : Vocabulary where
  tokens := #["tru", "e", "false"]
  encoding := .raw
  stop := [1]
  special := []
  size_pos := by decide
  stop_lt := by decide

theorem exists_compile_pieces : ∃ g, (Grammar.compile truthSource pieces).result = .ok g := by
  have hmatchable : pieces.Matchable [2] := List.forall_mem_singleton.2 (by decide)
  have hspell : pieces.spell [2] = Utf8.encode "false".toList := by decide
  exact Grammar.exists_compile_eq_ok rfl hmatchable (by simp) hspell
    (describes_truthSource.2 (.inr rfl))

/-- The empty text is not one of the source. -/
theorem finalAt_origin_pieces {g : Grammar}
    (h : (Grammar.compile truthSource pieces).result = .ok g) :
    g.machine.finalAt Machine.origin = false := by
  obtain ⟨r, hg⟩ := Grammar.exists_compiled h
  rw [← Bool.not_eq_true]
  intro hf
  obtain ⟨w, hw, hmatches⟩ := ((at_fresh hg .position).finalAt_iff hg).1 hf
  have hnil : w = [] := Text.Utf8.encode_injective hw.symm
  rw [hnil, ← Grammar.describes_iff h hg, describes_truthSource] at hmatches
  exact absurd hmatches (by decide)

/-- A whole text is taken, and may stop. -/
theorem exists_takes_false {g : Grammar}
    (h : (Grammar.compile truthSource pieces).result = .ok g) :
    ∃ n, (fresh g .position).Takes (2 : Nat) n ∧ n.canTerminate = .ok true := by
  obtain ⟨r, hg⟩ := Grammar.exists_compiled h
  obtain ⟨-, hv, -, -, -⟩ := Grammar.compile_eq_ok.1 h
  have hmatches : r.Matches "false".toList :=
    (Grammar.describes_iff h hg).1 (describes_truthSource.2 (.inr rfl))
  obtain ⟨q, hq, hf⟩ := hg.walk_final_iff.2 ⟨_, rfl, hmatches⟩
  have hmatchable : g.vocabulary.isMatchable 2 = true := by
    rw [hv]
    decide
  have hoctets : g.vocabulary.octets 2 = Text.Utf8.encode "false".toList := by
    rw [hv]
    decide
  have hproductive : Index.Productive g.machine g.vocabulary q :=
    ⟨[], by simp [Vocabulary.Matchable], q, rfl, hf⟩
  refine ⟨_, ((at_fresh hg .position).takes_iff hg
    (not_mem_stop_of_isMatchable hmatchable)).2
      ⟨hmatchable, q, by rw [hoctets]; exact hq, hproductive, rfl⟩, ?_⟩
  rw [canTerminate_of_open rfl]
  simp [fresh, hf]

theorem takesAll_fresh_iff_pieces : ∃ g, (Grammar.compile truthSource pieces).result = .ok g ∧
    ∃ m, (fresh g .position).TakesAll [2] m ∧ ∃ n, m.Takes 1 n := by
  obtain ⟨g, hg⟩ := exists_compile_pieces
  have hstop : ∀ id ∈ [(2 : Int)], ∀ i ∈ pieces.stop, id ≠ (i : Int) := by decide
  obtain ⟨htakes, hends⟩ := takesAll_fresh_iff hg .position [2] hstop
  have hwhole : ∃ w, pieces.spell [2] = Utf8.encode w ∧ truthSource.Describes w :=
    ⟨"false".toList, by decide, describes_truthSource.2 (.inr rfl)⟩
  have hmatchable : pieces.Matchable [2] := List.forall_mem_singleton.2 (by decide)
  have hmore : ∃ us, pieces.Matchable us ∧
      ∃ w, pieces.spell [2] ++ pieces.spell us = Utf8.encode w ∧ truthSource.Describes w :=
    ⟨[], by simp [Vocabulary.Matchable], by simpa using hwhole⟩
  obtain ⟨m, hm⟩ := htakes.2 ⟨[2], rfl, hmatchable, hmore⟩
  exact ⟨g, hg, m, hm, (hends m hm 1 (by decide)).2 hwhole⟩

/-- What a stop token puts out makes no text: with it the first token could be completed to one,
and yet no matcher takes that token. -/
theorem not_takesAll_of_stop_octets : ∃ g, (Grammar.compile truthSource pieces).result = .ok g ∧
    0 ∉ pieces.stop ∧
    (∀ i ∈ [0, 1], i < pieces.size ∧ pieces.isSpecial i = false ∧ pieces.octets i ≠ []) ∧
    (∃ w, pieces.spell [0] ++ pieces.spell [1] = Utf8.encode w ∧ truthSource.Describes w) ∧
    ¬ ∃ m, (fresh g .position).TakesAll [0] m := by
  obtain ⟨g, hcompile⟩ := exists_compile_pieces
  have hwhole : ∃ w, pieces.spell [0] ++ pieces.spell [1] = Utf8.encode w ∧
      truthSource.Describes w := ⟨"true".toList, by decide, describes_truthSource.2 (.inl rfl)⟩
  refine ⟨g, hcompile, by decide, by decide, hwhole, ?_⟩
  rintro ⟨m, hm⟩
  obtain ⟨r, hg⟩ := Grammar.exists_compiled hcompile
  obtain ⟨-, hv, -, -, -⟩ := Grammar.compile_eq_ok.1 hcompile
  have hstop : ∀ id ∈ [(0 : Int)], ∀ i ∈ g.vocabulary.stop, id ≠ (i : Int) := by
    rw [hv]
    decide
  obtain ⟨js, hjs, hat⟩ := (at_fresh hg .position).of_takesAll hg hstop hm
  obtain rfl : [0] = js := List.map_injective_iff.2 (fun _ _ => Int.natCast_inj.1) hjs
  obtain ⟨us, hus, w, hspell, hw⟩ := hat.exists_text hg
  rw [hv] at hus hspell
  rcases describes_truthSource.1 ((Grammar.describes_iff hcompile hg).2 hw) with rfl | rfl
  · have htext : [116, 114, 117] ++ pieces.spell us = [116, 114, 117] ++ [101] := hspell
    have hrest : pieces.spell us = [101] := List.append_cancel_left htext
    -- Every token that adds to a text begins with the first letter of one of the two.
    have hfirst : ∀ i < 3, pieces.isMatchable i = true →
        (pieces.octets i).head? ∉ [none, some 101] := by
      decide
    cases us with
    | nil => cases hrest
    | cons i us =>
      have hi := (Vocabulary.matchable_cons.1 hus).1
      have hmem := hfirst i (Vocabulary.lt_size_of_isMatchable hi) hi
      rw [Vocabulary.spell_cons] at hrest
      cases hoctets : pieces.octets i with
      | nil => simp [hoctets] at hmem
      | cons b bs =>
        rw [hoctets] at hrest hmem
        rw [(List.cons.inj hrest).1] at hmem
        simp at hmem
  · have hhead : (116 : UInt8) = 102 := (List.cons.inj hspell).1
    cases hhead

end Matcher

end GuidedJson
