import GuidedJson.Generation.Generator
import GuidedJson.Proofs.Cache
import GuidedJson.Proofs.Decoding.Loop
import GuidedJson.Proofs.Decoding.Session

/-!
# What a generation reports

The processor tells the matcher of a token when the next one is asked for, and after the last token
none is asked for. So a generation is reported complete exactly if the tokens before its last one
put out a text of the source. Behind a stop token that is right; where a generation is cut off by
its limit, the report is about a shorter text than the one that was generated.
-/

namespace GuidedJson

open Automaton (Machine)
open Decoding (Counts Row Scores Workspace)
open Text (Utf8.encode)

/-! ## Runs -/

/-- Whether every one of some tokens is in the mask that is in force for it: that of the matcher
that was told of the tokens before it. -/
def Matcher.Permits : Matcher → List Nat → Prop
  | _, [] => True
  | m, i :: is => m.mask.test i = true ∧ ∀ b n, m.advance i = .ok (b, n) → n.Permits is

namespace Generation

/-- Whether tokens end a generation of at most so many: with its first stop token, or at the
limit. -/
inductive Ends (stop : List Nat) : (limit : Nat) → List Nat → Prop
  | limit : Ends stop 0 []
  | stop {n i} : i ∈ stop → Ends stop (n + 1) [i]
  | more {n i is} : i ∉ stop → Ends stop n is → Ends stop (n + 1) (i :: is)

/-- Whether a sampler scores the tokens of one row at every step. -/
def Sampler.ScoresRow (s : Sampler) : Prop := ∀ i, ∃ xs, s.scores i = .rows [.vector xs]

/-- Whether a sampler picks tokens one after the other, from some step on. -/
def Sampler.Picks (s : Sampler) (first : Nat) (ids : List Nat) : Prop :=
  ∀ (i t : Nat), ids[i]? = some t → ∀ masked, s.pick (first + i) masked = t

/-- Where a workspace stands before the call for the next token: at the start, or behind tokens of
which the matcher is still to be told the last. -/
inductive Poised (g : Grammar) (prompt : List Int) : List Nat → Workspace → Prop
  | start {w m c} : w.Seats m c none → m.At g [] → m.stopCheck = .position → c.rejected = 0 →
      Poised g prompt [] w
  | next {w m c ids i} : w.Seats m c (some (prompt.length + ids.length)) → m.At g ids →
      m.stopCheck = .position → c.rejected = 0 →
      Index.Allowed g.machine g.vocabulary m.position i → i ∉ g.vocabulary.stop →
      Poised g prompt (ids ++ [i]) w

section Runs

variable {g : Grammar} {r : Pattern.Regex} {m n : Matcher} {prompt : List Int} {ids js : List Nat}
  {w : Workspace} {s : Sampler} {limit : Nat}

theorem sampled_of_allowed (hm : m.At g ids) (hg : g.Compiled r) {i : Nat}
    (hi : Index.Allowed g.machine g.vocabulary m.position i) (hstop : i ∉ g.vocabulary.stop)
    (c : Counts) : ∃ n, Decoding.sampled (.int i) m c =
      (pure (), n, { c with accepted := c.accepted + 1 }) ∧
      n.At g (ids ++ [i]) ∧ n.stopCheck = m.stopCheck := by
  obtain ⟨n, hn⟩ := (Decoding.exists_takes_iff hm hg).2 hi
  obtain ⟨hmatchable, q, hq, hprod, rfl⟩ := (hm.takes_iff hg hstop).1 hn
  exact ⟨_, Decoding.sampled_of_takes hn c, hm.snoc hmatchable hq hprod, rfl⟩

/-- The tokens as they are fed. -/
def numbers (ids : List Nat) : List Int := ids.map Nat.cast

/-- A call for the next token tells the matcher of all tokens so far. -/
theorem Poised.yields_call (hw : Poised g prompt ids w) (hg : g.Compiled r)
    (xs : List Number.Binary) :
    ∃ masked m c v, (Workspace.call 0 .float32 [(prompt ++ numbers ids).map Value.int]
        (.rows [.vector xs])).Yields w (.rows [masked]) v ∧
      v.Seats m c (some (prompt.length + ids.length)) ∧
      m.At g ids ∧ m.stopCheck = .position ∧ c.rejected = 0 := by
  have hlen : ((prompt ++ numbers ids).map Value.int).length = prompt.length + ids.length := by
    simp [numbers]
  rw [← hlen]
  cases hw with
  | @start w m c hseats hm hcheck hc =>
    have horigin : Machine.origin = m.position := Option.some.inj hm.walk
    have hreset : m.reset.toOption.getD m =
        { m with position := Machine.origin, terminated := false } := by
      rw [Matcher.reset_of_open hm.isOpen]
      rfl
    have hat : Matcher.At { m with position := Machine.origin, terminated := false } g [] := by
      rw [horigin, ← hm.running]
      exact hm
    obtain ⟨v, hcall, hv⟩ := hseats.exists_call_first hreset (Row.process_of_at hat ⟨.float32, xs⟩)
    exact ⟨_, _, c, v, hcall, hv, Decoding.at_buffer hat _, hcheck, hc⟩
  | @next w m c ids i hseats hm hcheck hc hi hstop =>
    obtain ⟨k, hsampled, hk, hcheck'⟩ := sampled_of_allowed hm hg hi hstop c
    have hrow : ((prompt ++ numbers (ids ++ [i])).map Value.int).drop
        (prompt.length + ids.length) = [.int i] := by
      simp [numbers, List.drop_append, List.drop_eq_nil_of_le]
    obtain ⟨v, hcall, hv⟩ := hseats.exists_call_next hrow hsampled
      (Row.process_of_at hk ⟨.float32, xs⟩)
    exact ⟨_, _, _, v, hcall, hv, Decoding.at_buffer hk _, hcheck'.trans hcheck, hc⟩

theorem Poised.at_dropLast (hw : Poised g prompt ids w) : ∃ m c seen, w.Seats m c seen ∧
    m.At g ids.dropLast ∧ m.stopCheck = .position ∧ c.rejected = 0 := by
  cases hw with
  | start hseats hm hcheck hc => exact ⟨_, _, _, hseats, hm, hcheck, hc⟩
  | next hseats hm hcheck hc => exact ⟨_, _, _, hseats, by simpa using hm, hcheck, hc⟩

/-- A step of a generation: the call, and what is done behind the token that is picked. -/
theorem yields_extend_succ {stop : List Nat} {xs : List Number.Binary} {masked : Scores} {i : Nat}
    {u x : Workspace} {out : List Int} (hxs : s.scores ids.length = .rows [.vector xs])
    (hcall : (Workspace.call 0 .float32 [(prompt ++ numbers ids).map Value.int]
      (.rows [.vector xs])).Yields w masked u)
    (hpick : s.pick ids.length masked.flat = i)
    (hrest : Action.Yields (if i ∈ stop then pure (numbers (ids ++ [i]))
      else s.extend stop 0 prompt limit (numbers (ids ++ [i]))) u out x) :
    (s.extend stop 0 prompt (limit + 1) (numbers ids)).Yields w out x := by
  have hlen : (numbers ids).length = ids.length := by simp [numbers]
  have hsnoc : numbers ids ++ [(i : Int)] = numbers (ids ++ [i]) := by simp [numbers]
  have hany : (stop.any fun id => (id : Int) == (i : Int)) = decide (i ∈ stop) := by
    rw [Bool.eq_iff_iff, List.any_eq_true, decide_eq_true_iff]
    simp
  rw [Sampler.extend, hlen, hxs]
  refine hcall.bind ?_
  dsimp only
  rw [hpick, hsnoc, hany]
  simpa only [decide_eq_true_iff] using hrest

/-- What the masks permit is what the matcher takes. -/
theorem permits_cons (hn : n.At g ids) (hg : g.Compiled r) {i : Nat} :
    n.Permits (i :: js) ↔ ∃ k, n.Takes i k ∧ k.Permits js := by
  have hmask : n.mask = g.maskAt n.position := by
    rw [Matcher.mask, hn.running, hn.grammar]
    rfl
  rw [Matcher.Permits, hmask, Decoding.test_maskAt_iff hn hg, ← Decoding.exists_takes_iff hn hg]
  constructor
  · rintro ⟨⟨k, hk⟩, hrest⟩
    exact ⟨k, hk, hrest _ _ hk⟩
  · rintro ⟨k, hk, hrest⟩
    refine ⟨⟨k, hk⟩, fun b l hl => ?_⟩
    obtain ⟨-, rfl⟩ := Prod.mk.inj (Except.ok.inj (hk.symm.trans hl))
    exact hrest

/-- A generation with tokens that the masks permit ends with a matcher that was told of all tokens
but the last, and rejected none. If the last one is a stop token, a text may end there. -/
theorem Poised.yields_extend {stop : List Nat} (hg : g.Compiled r)
    (hstop : g.vocabulary.stop = stop) (hscores : s.ScoresRow) (hends : Ends stop limit js)
    (hw : Poised g prompt ids w) (hn : n.At g ids) (hpermits : n.Permits js)
    (hpicks : s.Picks ids.length js) :
    ∃ m c seen v, (s.extend stop 0 prompt limit (numbers ids)).Yields w (numbers (ids ++ js)) v ∧
      v.Seats m c seen ∧ m.At g (ids ++ js).dropLast ∧ m.stopCheck = .position ∧ c.rejected = 0 ∧
      ((∃ j ∈ js, j ∈ stop) → g.machine.finalAt m.position = true) := by
  induction hends generalizing ids w n with
  | limit =>
    obtain ⟨m, c, seen, hseats, hm, hcheck, hc⟩ := hw.at_dropLast
    rw [List.append_nil]
    exact ⟨m, c, seen, w, ⟨rfl, rfl⟩, hseats, hm, hcheck, hc, by simp⟩
  | @stop limit i hi =>
    obtain ⟨xs, hxs⟩ := hscores ids.length
    obtain ⟨masked, m, c, v, hcall, hv, hm, hcheck, hc⟩ := hw.yields_call hg xs
    have hposition : n.position = m.position := Option.some.inj (hn.walk.symm.trans hm.walk)
    have hfinal : g.machine.finalAt m.position = true := by
      obtain ⟨k, hk, -⟩ := (permits_cons hn hg).1 hpermits
      rw [← hposition]
      exact ((hn.takes_stop_iff (hstop ▸ hi)).1 hk).1
    rw [List.dropLast_concat]
    refine ⟨m, c, some (prompt.length + ids.length), v, ?_, hv, hm, hcheck, hc, fun _ => hfinal⟩
    refine yields_extend_succ hxs hcall (hpicks 0 i rfl _) ?_
    rw [if_pos hi]
    exact ⟨rfl, rfl⟩
  | @more limit i js hi hends ih =>
    obtain ⟨xs, hxs⟩ := hscores ids.length
    obtain ⟨masked, m, c, v, hcall, hv, hm, hcheck, hc⟩ := hw.yields_call hg xs
    obtain ⟨k, hk, hpermits⟩ := (permits_cons hn hg).1 hpermits
    -- What a matcher takes that was told of all tokens is allowed for the one in the workspace too.
    have hallowed := (Decoding.exists_takes_iff hn hg).1 ⟨k, hk⟩
    have hposition : n.position = m.position := Option.some.inj (hn.walk.symm.trans hm.walk)
    obtain ⟨hmatchable, q, hq, hprod, hkq⟩ := (hn.takes_iff hg (hstop ▸ hi)).1 hk
    have hk' : k.At g (ids ++ [i]) := hkq ▸ hn.snoc hmatchable hq hprod
    have hpoised : Poised g prompt (ids ++ [i]) v :=
      .next hv hm hcheck hc (hposition ▸ hallowed) (hstop ▸ hi)
    have hpicks' : s.Picks (ids ++ [i]).length js := by
      intro j t ht masked
      have h := hpicks (j + 1) t ht masked
      rwa [List.length_append, List.length_singleton, add_assoc, add_comm 1]
    obtain ⟨o, d, seen, u, hrest, hu, ho, hcheck', hd, hfinal⟩ := ih hpoised hk' hpermits hpicks'
    rw [List.append_assoc, List.singleton_append] at hrest ho
    refine ⟨o, d, seen, u, yields_extend_succ hxs hcall (hpicks 0 i rfl _) ?_, hu, ho, hcheck', hd,
      ?_⟩
    · rwa [if_neg hi]
    · rintro ⟨j, hj, hjstop⟩
      refine hfinal ⟨j, (List.mem_cons.1 hj).resolve_left ?_, hjstop⟩
      rintro rfl
      exact hi hjstop

end Runs

/-! ## Outcomes -/

section Outcomes

variable {g : Grammar} {m : Matcher} {c : Counts} {seen : Option Nat} {model : Model} {task : Task}

/-- What is reported of a generation: whether a text may stop where its matcher is at the end. -/
theorem result_perform {generated : Generated} {b : Bool} {u w v : Workspace}
    (hsession : Workspace.newSession.Yields (.ofGrammar g) (0, 0, 0) u)
    (hprocessor : (Workspace.sessionProcessor 0).Yields u 0 w)
    (hmodel : (model task 0).Yields w generated v) (hv : v.Seats m c seen)
    (hopen : m.closed = false) (hb : m.canTerminate = .ok b) : (perform model g task).result =
      .ok ⟨generated.text, b, c.rejected, generated.ids.length⟩ := by
  refine (Logged.result_bind_ok (a := ⟨generated.text, b, c.rejected, generated.ids.length⟩) ?_
    _).trans ?_
  -- The session is opened, the model is run, the matcher is asked, and the session is closed.
  · obtain ⟨x, k, y, hcan, hstep, rfl, hclose⟩ := hv.exists_end hopen hb
    exact (hsession.bind (hprocessor.bind (hmodel.bind (hcan.bind
      (hstep.bind (hclose.bind (u := y) ⟨rfl, rfl⟩)))))).1
  · dsimp only
    split <;> rfl

end Outcomes

section Generators

variable {generator : Generator} {cache : Cache Grammar} {input : Schema.Input}
  {indent : Option Int}
  {source : Schema.Source} {g : Grammar} {s : Sampler} {limit : Int} {ids : List Nat}

/-- Where the matcher of a generator is at the end of a generation that the masks permit, and what
is reported from there. -/
theorem exists_at_of_generate (hg : (Grammar.compile source generator.vocabulary).result = .ok g)
    (hserved : ((generator.grammar input indent).run cache).1.result = .ok g)
    (hscores : s.ScoresRow) (hends : Ends generator.vocabulary.stop limit.toNat ids)
    (hpermits : (Matcher.fresh g .position).Permits ids) (hpicks : s.Picks 0 ids)
    (text : String) (prompt : List Int) (temperature : Number.Binary)
    (others : List (String × Value)) : ∃ m : Matcher, m.At g ids.dropLast ∧
      ((generator.generate (s.model generator.vocabulary prompt) input indent
        (generator.task text limit temperature others)).run cache).1.result =
        .ok ⟨storedText generator.vocabulary (numbers ids), g.machine.finalAt m.position, 0,
          ids.length⟩ ∧
      ((∃ i ∈ ids, i ∈ generator.vocabulary.stop) → g.machine.finalAt m.position = true) := by
  obtain ⟨r, hcompiled⟩ := Grammar.exists_compiled hg
  obtain ⟨-, hv, -, -, -⟩ := Grammar.compile_eq_ok.1 hg
  have hfresh := Matcher.at_fresh hcompiled .position
  obtain ⟨u, w, hsession, hprocessor, hw⟩ := Workspace.exists_seats g
  obtain ⟨x, hreset, hx⟩ := hw.exists_resetProcessor
  have hstart : Poised g prompt [] x := .start hx hfresh rfl rfl
  obtain ⟨m, c, seen, y, hextend, hy, hm, hcheck, hc, hfinal⟩ := hstart.yields_extend hcompiled
    (by rw [hv]) hscores hends hfresh hpermits hpicks
  have hmodel : (s.model generator.vocabulary prompt (generator.task text limit temperature others)
      0).Yields w ⟨storedText generator.vocabulary (numbers ids), numbers ids⟩ y := by
    refine Action.Yields.bind ?_ ⟨rfl, rfl⟩
    exact hreset.bind hextend
  have hcan : m.canTerminate = .ok (g.machine.finalAt m.position) := by
    rw [Matcher.canTerminate_of_open hm.isOpen, hcheck, hm.running, hm.grammar, Bool.false_or]
  refine ⟨m, hm, ?_, hfinal⟩
  rw [Generator.generate, Action.run_bind_ok _ hserved]
  refine (result_perform hsession hprocessor hmodel hy hm.isOpen hcan).trans ?_
  simp [hc, numbers]

end Generators

/-- A generator is served a compiled grammar, and its model samples tokens that the masks permit, up
to a stop token or the limit. Then none is rejected, and the outcome is complete exactly if the
tokens before the last one put out a text of the source; so it is complete behind a stop token. -/
theorem complete_generate_iff {generator : Generator} {cache : Cache Grammar} {input : Schema.Input}
    {indent : Option Int} {source : Schema.Source} {g : Grammar}
    (hg : (Grammar.compile source generator.vocabulary).result = .ok g)
    (hserved : ((generator.grammar input indent).run cache).1.result = .ok g) {s : Sampler}
    (hscores : s.ScoresRow) {limit : Int} {ids : List Nat}
    (hends : Ends generator.vocabulary.stop limit.toNat ids)
    (hpermits : (Matcher.fresh g .position).Permits ids) (hpicks : s.Picks 0 ids)
    (text : String) (prompt : List Int) (temperature : Number.Binary)
    (others : List (String × Value)) :
    ∃ complete, ((generator.generate (s.model generator.vocabulary prompt) input indent
        (generator.task text limit temperature others)).run cache).1.result =
        .ok ⟨storedText generator.vocabulary (numbers ids), complete, 0, ids.length⟩ ∧
      (complete = true ↔
        ∃ w, generator.vocabulary.spell ids.dropLast = Utf8.encode w ∧ source.Describes w) ∧
      ((∃ i ∈ ids, i ∈ generator.vocabulary.stop) → complete = true) := by
  obtain ⟨r, hcompiled⟩ := Grammar.exists_compiled hg
  obtain ⟨-, hv, -, -, -⟩ := Grammar.compile_eq_ok.1 hg
  obtain ⟨m, hm, hresult, hfinal⟩ := exists_at_of_generate hg hserved hscores hends hpermits hpicks
    text prompt temperature others
  refine ⟨_, hresult, ?_, hfinal⟩
  simp only [hm.finalAt_iff hcompiled, hv, Grammar.describes_iff hg hcompiled]

/-! ## A generation that is cut off -/

/-- A generator over three tokens, of which the second stops a text. -/
def piecesGenerator : Generator where
  name := "m"
  device := none
  extraEos := []
  vocabulary := Matcher.pieces
  engine := .automaton

/-- A sampler that picks tokens one after the other, whatever their scores are. -/
def scripted (ids : List Nat) : Sampler where
  scores _ := .rows [.vector [.zero, .zero, .zero]]
  pick i _ := (ids[i]?).elim 0 Nat.cast

theorem scoresRow_scripted (ids : List Nat) : (scripted ids).ScoresRow := fun _ => ⟨_, rfl⟩

theorem picks_scripted (ids : List Nat) : (scripted ids).Picks 0 ids := by
  intro i t ht masked
  simp [scripted, ht]

theorem served_pieces {g : Grammar}
    (hg : (Grammar.compile Matcher.truthSource Matcher.pieces).result = .ok g) :
    ((piecesGenerator.grammar (truthRequest Matcher.pieces).input none).run
      (Cache.empty 2 (.bool true))).1.result = .ok g := by
  obtain ⟨key, hkey⟩ : ∃ key, CacheKey.of .automaton Matcher.truthSource Matcher.pieces = .ok key :=
    ⟨_, CacheKey.of_eq_ok.2 ⟨rfl, rfl⟩⟩
  have hserve := (names_truthRequest Matcher.pieces).serve_of_key
    (c := Cache.empty 2 (.bool true)) rfl hkey
  have hcompile : (Engine.automaton.compile Matcher.truthSource
      (truthRequest Matcher.pieces).vocabulary).result = .ok g := hg
  have hgrammar : piecesGenerator.grammar (truthRequest Matcher.pieces).input none =
      (truthRequest Matcher.pieces).serve := rfl
  rw [hgrammar, hserve.1, Cache.getOrPut_of_ok (Cache.find?_empty ..) hcompile]

/-- The third of the tokens spells a text, so that the second may stop it. -/
theorem permits_pieces {g : Grammar}
    (hg : (Grammar.compile Matcher.truthSource Matcher.pieces).result = .ok g) :
    (Matcher.fresh g .position).Permits [2, 1] := by
  obtain ⟨r, hcompiled⟩ := Grammar.exists_compiled hg
  obtain ⟨-, hv, -, -, -⟩ := Grammar.compile_eq_ok.1 hg
  have hfresh := Matcher.at_fresh hcompiled .position
  have hmatchable : g.vocabulary.isMatchable 2 = true := by rw [hv]; decide
  have hwhole : ∃ w, g.vocabulary.spell [2] = Utf8.encode w ∧ r.Matches w :=
    ⟨"false".toList, by rw [hv]; decide, (Grammar.describes_iff hg hcompiled).1
      (Matcher.describes_truthSource.2 (.inr rfl))⟩
  obtain ⟨q, hq, hf⟩ := hcompiled.walk_final_iff.2 hwhole
  have hprod : Index.Productive g.machine g.vocabulary q :=
    ⟨[], by simp [Vocabulary.Matchable], q, rfl, hf⟩
  have hwalk : g.machine.walk Machine.origin (g.vocabulary.octets 2) = some q := by
    simpa [Vocabulary.spell_cons] using hq
  have htakes := (hfresh.takes_iff hcompiled (Matcher.not_mem_stop_of_isMatchable hmatchable)).2
    ⟨hmatchable, q, hwalk, hprod, rfl⟩
  have hnext := hfresh.snoc hmatchable hwalk hprod
  have hstop : 1 ∈ g.vocabulary.stop := by rw [hv]; decide
  exact (permits_cons hfresh hcompiled).2 ⟨_, htakes, (permits_cons hnext hcompiled).2
    ⟨_, (hnext.takes_stop_iff hstop).2 ⟨hf, rfl⟩, trivial⟩⟩

theorem complete_generate_iff_pieces : ∃ g,
    (Grammar.compile Matcher.truthSource piecesGenerator.vocabulary).result = .ok g ∧
    (Matcher.fresh g .position).Permits [2, 1] ∧
    Ends piecesGenerator.vocabulary.stop (Int.toNat 5) [2, 1] ∧
    ((piecesGenerator.generate ((scripted [2, 1]).model piecesGenerator.vocabulary [7, 7])
      (truthRequest Matcher.pieces).input none (piecesGenerator.task "" 5 .zero [])).run
      (Cache.empty 2 (.bool true))).1.result = .ok ⟨"false", true, 0, 2⟩ := by
  obtain ⟨g, hg⟩ : ∃ g, (Grammar.compile Matcher.truthSource
      piecesGenerator.vocabulary).result = .ok g := Matcher.exists_compile_pieces
  have hends : Ends piecesGenerator.vocabulary.stop (Int.toNat 5) [2, 1] :=
    .more (by decide) (.stop (by decide))
  obtain ⟨complete, hresult, -, hstop⟩ := complete_generate_iff hg
    (served_pieces hg) (scoresRow_scripted _) hends (permits_pieces hg) (picks_scripted [2, 1]) ""
    [7, 7] .zero []
  obtain rfl := hstop ⟨1, by decide, by decide⟩
  have htext : storedText piecesGenerator.vocabulary (numbers [2, 1]) = "false" := by decide
  rw [htext] at hresult
  exact ⟨g, hg, permits_pieces hg, hends, hresult⟩

/-- A generation that is cut off behind a whole text is not complete: nobody asks for the next
token, and so the matcher is never told of the last one. -/
theorem not_complete_of_cut_off : ∃ g,
    (Grammar.compile Matcher.truthSource piecesGenerator.vocabulary).result = .ok g ∧
    (Matcher.fresh g .position).Permits [2] ∧
    Ends piecesGenerator.vocabulary.stop (Int.toNat 1) [2] ∧
    piecesGenerator.vocabulary.spell [2] = Utf8.encode "false".toList ∧
    Matcher.truthSource.Describes "false".toList ∧
    ((piecesGenerator.generate ((scripted [2]).model piecesGenerator.vocabulary [7, 7])
      (truthRequest Matcher.pieces).input none (piecesGenerator.task "" 1 .zero [])).run
      (Cache.empty 2 (.bool true))).1.result = .ok ⟨"false", false, 0, 1⟩ := by
  obtain ⟨g, hg⟩ : ∃ g, (Grammar.compile Matcher.truthSource
      piecesGenerator.vocabulary).result = .ok g := Matcher.exists_compile_pieces
  obtain ⟨r, hcompiled⟩ := Grammar.exists_compiled hg
  have hpermits : (Matcher.fresh g .position).Permits [2] :=
    ⟨(permits_pieces hg).1, fun _ _ _ => trivial⟩
  have hends : Ends piecesGenerator.vocabulary.stop (Int.toNat 1) [2] := .more (by decide) .limit
  obtain ⟨m, hm, hresult, -⟩ := exists_at_of_generate hg
    (served_pieces hg) (scoresRow_scripted _) hends hpermits (picks_scripted [2]) "" [7, 7] .zero []
  have hfinal : g.machine.finalAt m.position = false := by
    rw [Bool.eq_false_iff]
    intro h
    obtain ⟨w, hw, hmatches⟩ := (hm.finalAt_iff hcompiled).1 h
    have hlen : w = [] := Text.Utf8.encode_injective hw.symm
    rcases Matcher.describes_truthSource.1 ((Grammar.describes_iff hg hcompiled).2 hmatches) with
      rfl | rfl <;> cases hlen
  have htext : storedText piecesGenerator.vocabulary (numbers [2]) = "false" := by decide
  rw [hfinal, htext] at hresult
  exact ⟨g, hg, hpermits, hends, by decide, Matcher.describes_truthSource.2 (.inr rfl), hresult⟩

end Generation

end GuidedJson
