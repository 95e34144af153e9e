import GuidedJson.Grammar.Basic
import GuidedJson.Proofs.Grammar.Index
import GuidedJson.Proofs.Results

/-!
# Compiled grammars

What a compilation that succeeds has made, and when it succeeds: there are texts to spell, and
tokens that spell one.
-/

namespace GuidedJson

open Automaton (Machine Position)
open Pattern (Regex)
open Text (Utf8.encode)

/-! ## Texts -/

/-- Whether a text is one that a source describes: its pattern matches it. -/
def Schema.Source.Describes (source : Schema.Source) (w : List Char) : Prop :=
  ∃ pattern r, (Grammar.patternOf source).result = .ok pattern ∧ Regex.read pattern = .ok r ∧
    r.Matches w

namespace Grammar

/-- What a compilation makes of the expression that a pattern spells. -/
structure Compiled (g : Grammar) (r : Regex) : Prop where
  read : Regex.read g.pattern = .ok r
  machine : g.machine = .ofRegex r
  masks : g.masks = Index.masks g.machine (.ofVocabulary g.vocabulary) g.vocabulary
  origin : Machine.origin ∈ g.masks

theorem index_eq_ok {machine : Machine} {v : Vocabulary} {masks : Std.HashMap Position Mask} :
    index machine v = .ok masks ↔ v.checkReadable = .ok () ∧ Vocabulary.Trie.tokenCount v ≠ 0 ∧
      machine.alive Machine.start = true ∧ masks = Index.masks machine (.ofVocabulary v) v ∧
      Machine.origin ∈ masks := by
  unfold index
  -- What the index is made of plays no part in the checks.
  generalize Index.masks machine (.ofVocabulary v) v = found
  rw [exceptBind_eq_ok]
  by_cases hcount : Vocabulary.Trie.tokenCount v = 0
  · simp [hcount, bind, Except.bind, throw, throwThe, MonadExceptOf.throw]
  cases halive : machine.alive Machine.start with
  | false => simp [hcount, bind, Except.bind, throw, throwThe, MonadExceptOf.throw]
  | true =>
    by_cases horigin : found.contains Machine.origin = true
    · have hmem := Std.HashMap.contains_iff_mem.1 horigin
      simp only [if_neg hcount, if_pos horigin, Bool.not_true, Bool.false_eq_true, if_false, bind,
        Except.bind, pure, Except.pure, Except.ok.injEq, true_and]
      constructor
      · rintro ⟨_, hreadable, rfl⟩
        exact ⟨hreadable, hcount, rfl, hmem⟩
      · rintro ⟨hreadable, -, rfl, -⟩
        exact ⟨(), hreadable, rfl⟩
    · have hmem : Machine.origin ∉ found := fun h => horigin (Std.HashMap.contains_iff_mem.2 h)
      simp only [if_neg hcount, if_neg horigin, Bool.not_true, Bool.false_eq_true, if_false, bind,
        Except.bind, pure, Except.pure, throw, throwThe, MonadExceptOf.throw, reduceCtorEq,
        and_false, exists_false, false_iff]
      rintro ⟨-, -, -, rfl, h⟩
      exact hmem h

theorem machineOf_eq_ok {pattern : String} {machine : Machine} :
    machineOf pattern = .ok machine ↔ ∃ r, Regex.read pattern = .ok r ∧ machine = .ofRegex r := by
  unfold machineOf Machine.ofPattern
  cases Regex.read pattern with
  | error e => simp [Except.map, Except.mapError]
  | ok r => simp [Except.map, Except.mapError, eq_comm]

theorem compile_eq_ok {source : Schema.Source} {v : Vocabulary} {g : Grammar} :
    (compile source v).result = .ok g ↔ g.source = source ∧ g.vocabulary = v ∧
      (patternOf source).result = .ok g.pattern ∧ machineOf g.pattern = .ok g.machine ∧
      index g.machine v = .ok g.masks := by
  unfold compile
  rw [Logged.result_bind_eq_ok]
  constructor
  · rintro ⟨pattern, hpattern, h⟩
    obtain ⟨machine, hmachine, h⟩ := Logged.result_bind_eq_ok.1 h
    obtain ⟨masks, hmasks, h⟩ := Logged.result_bind_eq_ok.1 h
    cases h
    exact ⟨rfl, rfl, hpattern, hmachine, hmasks⟩
  · rintro ⟨rfl, rfl, hpattern, hmachine, hmasks⟩
    refine ⟨_, hpattern, Logged.result_bind_eq_ok.2 ⟨_, hmachine, ?_⟩⟩
    exact Logged.result_bind_eq_ok.2 ⟨_, hmasks, rfl⟩

theorem exists_compiled {source : Schema.Source} {v : Vocabulary} {g : Grammar}
    (h : (compile source v).result = .ok g) : ∃ r, g.Compiled r := by
  obtain ⟨-, rfl, -, hmachine, hmasks⟩ := compile_eq_ok.1 h
  obtain ⟨r, hr, hmachine⟩ := machineOf_eq_ok.1 hmachine
  obtain ⟨-, -, -, hmasks, horigin⟩ := index_eq_ok.1 hmasks
  exact ⟨r, hr, hmachine, hmasks, horigin⟩

/-- The expression of a compiled grammar tells which texts its source describes. -/
theorem describes_iff {source : Schema.Source} {v : Vocabulary} {g : Grammar} {r : Regex}
    (h : (compile source v).result = .ok g) (hg : g.Compiled r) {w : List Char} :
    source.Describes w ↔ r.Matches w := by
  obtain ⟨-, -, hpattern, -, -⟩ := compile_eq_ok.1 h
  constructor
  · rintro ⟨pattern, s, hp, hs, hw⟩
    rw [hpattern] at hp
    cases hp
    rw [hg.read] at hs
    cases hs
    exact hw
  · exact fun hw => ⟨g.pattern, r, hpattern, hg.read, hw⟩

/-! ## Positions -/

section Positions

variable {g : Grammar} {r : Regex}

theorem getElem?_masks_of_isProductive {p : Position} (hp : g.isProductive p = true) :
    g.masks[p]? = some (g.maskAt p) := by
  have hmem : p ∈ g.masks := Std.HashMap.contains_iff_mem.1 hp
  rw [maskAt, Std.HashMap.getD_eq_getD_getElem?, Std.HashMap.getElem?_eq_some_getElem hmem,
    Option.getD_some]

variable (hg : g.Compiled r)
include hg

theorem Compiled.made : g.machine.Made (Automaton.Alphabet.ofRegex r).samples.size :=
  hg.machine ▸ Machine.made_ofRegex r

/-- Octets lead to an end exactly if they are those of a text that the expression matches. -/
theorem Compiled.walk_final_iff {bs : List UInt8} :
    (∃ p, g.machine.walk Machine.origin bs = some p ∧ g.machine.finalAt p = true) ↔
      ∃ w, bs = Utf8.encode w ∧ r.Matches w := by
  rw [hg.made.walk_final_iff]
  apply exists_congr
  intro w
  apply and_congr_right
  intro _
  rw [hg.machine]
  exact Machine.mem_language_ofRegex

theorem Compiled.isProductive_iff {p : Position} : g.isProductive p = true ↔
    Index.Spelled g.machine g.vocabulary p ∧ Index.Productive g.machine g.vocabulary p := by
  rw [isProductive, Std.HashMap.contains_iff_mem, hg.masks, Index.mem_masks]

theorem Compiled.test_maskAt {p : Position} (hp : g.isProductive p = true) (i : Nat) :
    (g.maskAt p).test i = true ↔ Index.Allowed g.machine g.vocabulary p i :=
  Index.getElem?_masks (hg.masks ▸ getElem?_masks_of_isProductive hp) i

theorem Compiled.size_maskAt (p : Position) : (g.maskAt p).size = g.vocabulary.words := by
  by_cases hp : p ∈ g.masks
  · have hmask := getElem?_masks_of_isProductive (Std.HashMap.contains_iff_mem.2 hp)
    exact Index.size_of_getElem?_masks (hg.masks ▸ hmask)
  · rw [maskAt, Std.HashMap.getD_eq_fallback hp, Mask.clear, Array.size_replicate]

end Positions

/-! ## Success -/

theorem tokenCount_ne_zero {v : Vocabulary} {i : Nat} (h : v.isMatchable i = true) :
    Vocabulary.Trie.tokenCount v ≠ 0 := by
  have hmem : i ∈ (List.range v.size).filter v.isMatchable :=
    List.mem_filter.2 ⟨List.mem_range.2 (Vocabulary.lt_size_of_isMatchable h), h⟩
  exact Nat.ne_of_gt (List.length_pos_of_mem hmem)

/-- Where tokens with text spell a text of the source, the source is compiled. -/
theorem exists_compile_eq_ok {source : Schema.Source} {v : Vocabulary} {ids : List Nat}
    {w : List Char} (hreadable : v.checkReadable = .ok ()) (hids : v.Matchable ids) (hne : ids ≠ [])
    (hspell : v.spell ids = Utf8.encode w) (hw : source.Describes w) :
    ∃ g, (compile source v).result = .ok g := by
  obtain ⟨pattern, r, hpattern, hr, hw⟩ := hw
  have hmade := Machine.made_ofRegex r
  obtain ⟨q, hq, hf⟩ := Machine.mem_language_ofRegex.2 hw
  obtain ⟨p, hp, hpf⟩ := hmade.walk_final_iff.2 ⟨w, rfl, q, hq, hf⟩
  have halive : (Machine.ofRegex r).alive Machine.start = true :=
    hmade.alive_iff.2 ⟨hmade.proper.size_pos, _, hmade.run_final_iff.1 ⟨q, hq, hf⟩⟩
  have horigin : Machine.origin ∈ Index.masks (Machine.ofRegex r) (.ofVocabulary v) v := by
    have hstart : Index.Spelled (Machine.ofRegex r) v Machine.origin :=
      ⟨[], by simp [Vocabulary.Matchable], rfl⟩
    refine Index.mem_masks.2 ⟨hstart, ids, hids, p, ?_, hpf⟩
    rw [hspell, hp]
  obtain ⟨i, hi⟩ := List.exists_mem_of_ne_nil ids hne
  -- The index is named by an equation, so that nothing unfolds it.
  obtain ⟨masks, hmasks⟩ : ∃ masks, masks = Index.masks (.ofRegex r) (.ofVocabulary v) v := ⟨_, rfl⟩
  have hindex : index (.ofRegex r) v = .ok masks := index_eq_ok.2
    ⟨hreadable, tokenCount_ne_zero (hids i hi), halive, hmasks, hmasks ▸ horigin⟩
  exact ⟨⟨source, v, pattern, .ofRegex r, masks⟩,
    compile_eq_ok.2 ⟨rfl, rfl, hpattern, machineOf_eq_ok.2 ⟨r, hr, rfl⟩, hindex⟩⟩

end Grammar

end GuidedJson
