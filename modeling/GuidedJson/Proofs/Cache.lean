import GuidedJson.Cache
import GuidedJson.Proofs.Grammar.Masks
import GuidedJson.Proofs.Vocabulary.Fingerprint
import Mathlib.Data.List.Forall2
import Mathlib.Data.Set.Function

/-!
# What the cache serves

A cache serves what a compilation would give, as long as a key stands for one request only. A key
has the digest of a vocabulary, and so that is a question of what the digest is taken of.
-/

namespace GuidedJson

namespace Cache

/-! ## What a cache holds -/

section Holds

variable {α : Type} {c : Cache α} {P : CacheKey → α → Prop} {key : CacheKey} {a : α}

/-- Whether every grammar in a cache is one that its key may have. -/
def Holds (c : Cache α) (P : CacheKey → α → Prop) : Prop := ∀ e ∈ c.entries, P e.1 e.2

theorem holds_empty (most : Int) (switch : Value) : (empty most switch : Cache α).Holds P := by
  intro e he
  cases he

theorem Holds.of_find? (h : c.Holds P) (hkey : c.find? key = some a) : P key a := by
  obtain ⟨e, he, rfl⟩ := Option.map_eq_some_iff.1 hkey
  obtain rfl : e.1 = key := by simpa using List.find?_some he
  exact h e (List.mem_of_find?_eq_some he)

theorem Holds.renew (h : c.Holds P) (ha : P key a) : ∀ e ∈ c.renew key a, P e.1 e.2 := by
  intro e he
  rcases List.mem_append.1 he with he | he
  · exact h e (List.mem_filter.1 he).1
  · obtain rfl := List.mem_singleton.1 he
    exact ha

theorem Holds.lookup (h : c.Holds P) : (c.lookup key).2.Holds P := by
  rw [Cache.lookup]
  cases hkey : c.find? key with
  | none => exact h
  | some a => exact h.renew (h.of_find? hkey)

/-- What is stored under a key may be its grammar; what falls out at the old end harms nothing. -/
theorem Holds.put (h : c.Holds P) (ha : P key a) : (c.put key a).2.Holds P := by
  rw [Cache.put]
  cases hkey : c.find? key with
  | none =>
    intro e he
    rcases List.mem_append.1 (List.mem_of_mem_drop he) with he | he
    · exact h e he
    · obtain rfl := List.mem_singleton.1 he
      exact ha
  | some b => exact h.renew (h.of_find? hkey)

theorem isEnabled_lookup : (c.lookup key).2.isEnabled = c.isEnabled := by
  rw [Cache.lookup]
  cases c.find? key <;> rfl

theorem isEnabled_put : (c.put key a).2.isEnabled = c.isEnabled := by
  rw [Cache.put]
  cases c.find? key <;> rfl

/-- A lookup that finds nothing leaves nothing to be found. -/
theorem find?_lookup_of_none (h : c.find? key = none) : (c.lookup key).2.find? key = none := by
  rw [Cache.lookup, h]
  exact h

/-- What is stored under a new key is found there, if there is any room. -/
theorem find?_put_of_none (h : c.find? key = none) (hmost : 0 < c.most) :
    (c.put key a).2.find? key = some a := by
  have hnone : c.entries.find? (·.1 = key) = none := Option.map_eq_none_iff.1 h
  -- With room for one grammar at least, only older ones fall out.
  have hexcess : c.entries.length + 1 - c.most ≤ c.entries.length := by omega
  have hold : (c.entries.drop (c.entries.length + 1 - c.most)).find? (·.1 = key) = none := by
    rw [List.find?_eq_none] at hnone ⊢
    exact fun e he => hnone e (List.mem_of_mem_drop he)
  rw [Cache.put, h]
  simp only [Cache.find?, List.length_append, List.length_singleton]
  rw [List.drop_append_of_le_length hexcess, List.find?_append, hold]
  simp

theorem most_lookup : (c.lookup key).2.most = c.most := by
  rw [Cache.lookup]
  cases c.find? key <;> rfl

end Holds

/-! ## One request -/

section Storing

variable {α : Type} {c : Cache α} {P : CacheKey → α → Prop} {key : CacheKey} {compile : Logged α}

theorem getOrPut_of_some {a : α} (h : c.find? key = some a) :
    (getOrPut key compile).run c = (pure a, (c.lookup key).2) := by
  have hlookup : c.lookup key = (some a, (c.lookup key).2) := by rw [← h, ← lookup_fst]
  rw [getOrPut, Action.run_get_bind, hlookup]
  exact Action.run_set_bind _ _

/-- What is not found is compiled and stored, in the cache as the lookup left it. -/
theorem getOrPut_of_none (h : c.find? key = none) : (getOrPut key compile).run c =
    (do
      let a ← compile
      let d ← get
      set (d.put key a).2
      return (d.put key a).1 : Action (Cache α) α).run (c.lookup key).2 := by
  have hlookup : c.lookup key = (none, (c.lookup key).2) := by rw [← h, ← lookup_fst]
  rw [getOrPut, Action.run_get_bind, hlookup]
  exact Action.run_set_bind _ _

theorem getOrPut_of_ok {a : α} (h : c.find? key = none) (ha : compile.result = .ok a) :
    (getOrPut key compile).run c =
      (⟨compile.log, .ok a⟩, ((c.lookup key).2.put key a).2) := by
  -- Nothing has been stored since the lookup, so what is stored now is what comes back.
  have hput : ((c.lookup key).2.put key a).1 = a := by
    rw [put_fst, find?_lookup_of_none h]
    rfl
  rw [getOrPut_of_none h, Action.run_logged_bind_ok _ ha, Action.run_get_bind,
    Action.run_set_bind, hput, Action.run_pure]
  simp

theorem getOrPut_of_error {e : Failure} (h : c.find? key = none) (he : compile.result = .error e) :
    (getOrPut key compile).run c = (⟨compile.log, .error e⟩, (c.lookup key).2) := by
  rw [getOrPut_of_none h]
  exact Action.run_logged_bind_error _ he

/-- Where a key may have exactly what the compilation gives, a cache gives just that, and holds on
to what keys may have. -/
theorem Holds.getOrPut (hc : c.Holds P) (hkey : ∀ a, P key a ↔ compile.result = .ok a) :
    ((getOrPut key compile).run c).1.result = compile.result ∧
      ((Cache.getOrPut key compile).run c).2.Holds P ∧
      ((Cache.getOrPut key compile).run c).2.isEnabled = c.isEnabled := by
  cases hfind : c.find? key with
  | some a =>
    rw [getOrPut_of_some hfind]
    exact ⟨((hkey a).1 (hc.of_find? hfind)).symm, hc.lookup, isEnabled_lookup⟩
  | none =>
    cases hcompile : compile.result with
    | ok a =>
      rw [getOrPut_of_ok hfind hcompile]
      exact ⟨rfl, hc.lookup.put ((hkey a).2 hcompile), isEnabled_put.trans isEnabled_lookup⟩
    | error e =>
      rw [getOrPut_of_error hfind hcompile]
      exact ⟨rfl, hc.lookup, isEnabled_lookup⟩

end Storing

end Cache

/-! ## Requests -/

/-- A request for the grammar of a schema. -/
structure Request where
  settings : Settings
  input : Schema.Input
  vocabulary : Vocabulary
  indent : Option Int
  choice : EngineChoice

namespace Request

/-- The grammar of a request, compiled afresh. -/
def compile (q : Request) : Logged Grammar :=
  Grammar.ofSchema q.settings q.input q.vocabulary q.indent q.choice

/-- The grammar of a request, asked of a cache. -/
def serve (q : Request) : Action (Cache Grammar) Grammar :=
  Cache.getOrCompile q.settings Engine.compile q.input q.vocabulary q.indent q.choice

/-- What a request is about: an engine and a source. -/
structure Names (q : Request) (e : Engine) (source : Schema.Source) : Prop where
  engine : q.choice.resolve q.settings = .ok e
  source : (q.input.source q.indent).result = .ok source

section Serving

variable {q : Request} {e : Engine} {source : Schema.Source} {c : Cache Grammar} {g : Grammar}

theorem Names.result_compile (h : q.Names e source) :
    q.compile.result = (e.compile source q.vocabulary).result := by
  have hengine : (liftM (q.choice.resolve q.settings) : Logged Engine).result = .ok e := h.engine
  rw [compile, Grammar.ofSchema, Logged.result_bind_ok h.source, Logged.result_bind_ok hengine]

theorem exists_names_of_compile (h : q.compile.result = .ok g) : ∃ e source, q.Names e source := by
  obtain ⟨source, hsource, h⟩ := Logged.result_bind_eq_ok.1 h
  obtain ⟨e, he, -⟩ := Logged.result_bind_eq_ok.1 h
  exact ⟨e, source, he, hsource⟩

/-- A request that names nothing gets nothing, and changes nothing. -/
theorem serve_of_not_names (h : ¬ ∃ e source, q.Names e source) :
    (∀ g, (q.serve.run c).1.result ≠ .ok g) ∧ (q.serve.run c).2 = c := by
  rw [serve, Cache.getOrCompile]
  cases he : q.choice.resolve q.settings with
  | error f =>
    rw [Action.run_error_bind]
    exact ⟨nofun, rfl⟩
  | ok e =>
    rw [Action.run_ok_bind]
    cases hs : (q.input.source q.indent).result with
    | error f =>
      rw [Action.run_logged_bind_error _ hs]
      exact ⟨nofun, rfl⟩
    | ok source => exact absurd ⟨e, source, he, hs⟩ h

/-- What a cache does for a request that names an engine and a source. -/
theorem Names.serve (h : q.Names e source) : q.serve.run c =
    let (r, d) := (if !c.isEnabled then liftM (e.compile source q.vocabulary) else do
      let key ← (CacheKey.of e source q.vocabulary : Except Failure CacheKey)
      Cache.getOrPut key (e.compile source q.vocabulary) : Action (Cache Grammar) Grammar).run c
    (⟨(q.input.source q.indent).log ++ r.log, r.result⟩, d) := by
  rw [Request.serve, Cache.getOrCompile, h.engine, Action.run_ok_bind,
    Action.run_logged_bind_ok _ h.source, Action.run_get_bind]

theorem Names.serve_of_disabled (h : q.Names e source) (hc : c.isEnabled = false) :
    (q.serve.run c).1.result = (e.compile source q.vocabulary).result ∧ (q.serve.run c).2 = c := by
  rw [h.serve, hc]
  exact ⟨rfl, rfl⟩

theorem Names.serve_of_no_key (h : q.Names e source) (hc : c.isEnabled = true) {f : Failure}
    (hkey : CacheKey.of e source q.vocabulary = .error f) :
    (q.serve.run c).1.result = .error f ∧ (q.serve.run c).2 = c := by
  rw [h.serve, hc, hkey]
  simp only [Bool.not_true, Bool.false_eq_true, if_false]
  rw [Action.run_error_bind]
  exact ⟨rfl, rfl⟩

theorem Names.serve_of_key (h : q.Names e source) (hc : c.isEnabled = true) {key : CacheKey}
    (hkey : CacheKey.of e source q.vocabulary = .ok key) :
    (q.serve.run c).1.result =
        ((Cache.getOrPut key (e.compile source q.vocabulary)).run c).1.result ∧
      (q.serve.run c).2 = ((Cache.getOrPut key (e.compile source q.vocabulary)).run c).2 := by
  rw [h.serve, hc, hkey]
  simp only [Bool.not_true, Bool.false_eq_true, if_false]
  rw [Action.run_ok_bind]
  exact ⟨rfl, rfl⟩

end Serving

end Request

/-! ## Keys -/

section Keys

variable {e f : Engine} {source : Schema.Source} {v w : Vocabulary} {key : CacheKey}

theorem CacheKey.of_eq_ok : CacheKey.of e source v = .ok key ↔
    v.foreign = [] ∧ key = ⟨e.name, source.text, source.indent, v.fingerprint⟩ := by
  rw [CacheKey.of, Vocabulary.fingerprint?]
  cases v.foreign <;> simp [Except.map, eq_comm]

theorem Engine.name_injective : Function.Injective Engine.name := by
  intro e f
  cases e <;> cases f <;> decide

/-- Vocabularies whose fingerprints tell them apart: the digest has no collision among them, no
token holds a zero, and the special tokens go with what is digested. -/
structure Distinct (V : Set Vocabulary) : Prop where
  digest : Set.InjOn Digest.sha256 (Vocabulary.fingerprintInput '' V)
  zeroFree : ∀ v ∈ V, v.ZeroFree
  special : ∀ v ∈ V, ∀ w ∈ V, v.tokens = w.tokens → v.encoding = w.encoding → v.stop = w.stop →
    v.special = w.special

variable {V : Set Vocabulary}

theorem Distinct.eq_of_fingerprint_eq (hV : Distinct V) (hv : v ∈ V) (hw : w ∈ V)
    (hforeign : v.foreign = w.foreign) (h : v.fingerprint = w.fingerprint) : v = w := by
  have hinput : v.fingerprintInput = w.fingerprintInput :=
    hV.digest ⟨v, hv, rfl⟩ ⟨w, hw, rfl⟩ (Text.hexText_injective h)
  obtain ⟨htokens, hencoding, hstop⟩ :=
    (Vocabulary.fingerprintInput_eq_iff (hV.zeroFree v hv)).1 hinput
  have hspecial := hV.special v hv w hw htokens hencoding hstop
  cases v
  cases w
  simp only at htokens hencoding hstop hspecial hforeign
  subst htokens hencoding hstop hspecial hforeign
  rfl

/-- Where fingerprints tell vocabularies apart, a key stands for one compilation. -/
theorem Distinct.key_injective (hV : Distinct V) {source' : Schema.Source} (hv : v ∈ V) (hw : w ∈ V)
    (hkey : CacheKey.of e source v = .ok key) (hkey' : CacheKey.of f source' w = .ok key) :
    e = f ∧ source = source' ∧ v = w := by
  obtain ⟨hforeign, rfl⟩ := CacheKey.of_eq_ok.1 hkey
  obtain ⟨hforeign', heq⟩ := CacheKey.of_eq_ok.1 hkey'
  obtain ⟨hname, htext, hindent, hfingerprint⟩ := CacheKey.mk.inj heq
  refine ⟨Engine.name_injective hname, ?_, ?_⟩
  · cases source
    cases source'
    simp only at htext hindent
    rw [htext, hindent]
  · exact hV.eq_of_fingerprint_eq hv hw (hforeign.trans hforeign'.symm) hfingerprint

end Keys

/-! ## Requests one after the other -/

/-- The grammar that a key may have: every compilation that it stands for gives it. -/
def Serves (V : Set Vocabulary) (key : CacheKey) (g : Grammar) : Prop :=
  ∀ (e : Engine) (source : Schema.Source), ∀ v ∈ V, CacheKey.of e source v = .ok key →
    (e.compile source v).result = .ok g

/-- What a cache answers to a request, and what it holds then: the grammar that is compiled afresh,
where the request has a key at all. -/
structure Request.Served (V : Set Vocabulary) (c : Cache Grammar) (q : Request) : Prop where
  result : ∀ g, (q.serve.run c).1.result = .ok g ↔
    q.compile.result = .ok g ∧ (c.isEnabled = true → q.vocabulary.foreign = [])
  holds : (q.serve.run c).2.Holds (Serves V)
  isEnabled : (q.serve.run c).2.isEnabled = c.isEnabled

theorem Request.served {V : Set Vocabulary} (hV : Distinct V) {c : Cache Grammar}
    (hc : c.Holds (Serves V)) {q : Request} (hq : q.vocabulary ∈ V) : q.Served V c := by
  by_cases hnames : ∃ e source, q.Names e source
  · obtain ⟨e, source, hnames⟩ := hnames
    cases henabled : c.isEnabled with
    | false =>
      obtain ⟨hresult, hcache⟩ := hnames.serve_of_disabled henabled
      refine ⟨fun g => ?_, by rwa [hcache], by rw [hcache]⟩
      rw [hresult, hnames.result_compile, henabled]
      simp
    | true =>
      cases hkey : CacheKey.of e source q.vocabulary with
      | error f =>
        obtain ⟨hresult, hcache⟩ := hnames.serve_of_no_key henabled hkey
        refine ⟨fun g => ?_, by rwa [hcache], by rw [hcache]⟩
        have hforeign : q.vocabulary.foreign ≠ [] := by
          intro h
          rw [CacheKey.of_eq_ok.2 ⟨h, rfl⟩] at hkey
          cases hkey
        rw [hresult]
        simp [henabled, hforeign]
      | ok key =>
        obtain ⟨hresult, hcache⟩ := hnames.serve_of_key henabled hkey
        have hserves : ∀ g, Serves V key g ↔ (e.compile source q.vocabulary).result = .ok g := by
          intro g
          constructor
          · exact fun h => h e source q.vocabulary hq hkey
          -- No other compilation has the key, so the one grammar is right for all that have it.
          · intro hg f source' w hw hkey'
            obtain ⟨rfl, rfl, rfl⟩ := hV.key_injective hq hw hkey hkey'
            exact hg
        obtain ⟨hfound, hholds, hstill⟩ := hc.getOrPut hserves
        refine ⟨fun g => ?_, by rwa [hcache], by rw [hcache, hstill]⟩
        rw [hresult, hfound, hnames.result_compile]
        simp [(CacheKey.of_eq_ok.1 hkey).1]
  · obtain ⟨hresult, hcache⟩ := serve_of_not_names (c := c) hnames
    refine ⟨fun g => ?_, by rwa [hcache], by rw [hcache]⟩
    have hcompile : q.compile.result ≠ .ok g := fun h => hnames (exists_names_of_compile h)
    simp [hresult g, hcompile]

/-- What a cache answers to requests one after the other. -/
def Cache.serveAll : Cache Grammar → List Request → List (Except Failure Grammar)
  | _, [] => []
  | c, q :: qs =>
    let (x, c) := q.serve.run c
    x.result :: serveAll c qs

theorem Cache.Holds.serveAll {V : Set Vocabulary} (hV : Distinct V) {c : Cache Grammar}
    (hc : c.Holds (Serves V)) {qs : List Request} (hqs : ∀ q ∈ qs, q.vocabulary ∈ V) :
    List.Forall₂ (fun q x => ∀ g, x = .ok g ↔
      q.compile.result = .ok g ∧ (c.isEnabled = true → q.vocabulary.foreign = []))
      qs (c.serveAll qs) := by
  induction qs generalizing c with
  | nil => exact .nil
  | cons q qs ih =>
    obtain ⟨hq, hqs⟩ := List.forall_mem_cons.1 hqs
    obtain ⟨hresult, hholds, hstill⟩ := Request.served hV hc hq
    refine .cons hresult ?_
    have hrest := ih hholds hqs
    rw [hstill] at hrest
    exact hrest

/-- Two requests with one key get one grammar, whatever tells them apart. -/
theorem Cache.serveAll_of_key {c : Cache Grammar} {q q' : Request} {e : Engine}
    {source : Schema.Source} {key : CacheKey} {g : Grammar} (hc : c.isEnabled = true)
    (hfind : c.find? key = none) (hq : q.Names e source) (hq' : q'.Names e source)
    (hkey : CacheKey.of e source q.vocabulary = .ok key)
    (hkey' : CacheKey.of e source q'.vocabulary = .ok key)
    (hg : (e.compile source q.vocabulary).result = .ok g) :
    c.serveAll [q, q'] = [.ok g, .ok g] := by
  have hmost : 0 < c.most := by
    rw [isEnabled, Bool.and_eq_true, decide_eq_true_iff] at hc
    exact hc.2
  -- The first request is compiled and stored, and the second finds it under the key.
  obtain ⟨hresult, hcache⟩ := hq.serve_of_key hc hkey
  rw [getOrPut_of_ok hfind hg] at hresult hcache
  have henabled : (q.serve.run c).2.isEnabled = true := by
    rw [hcache, isEnabled_put, isEnabled_lookup, hc]
  have hfind' : (q.serve.run c).2.find? key = some g := by
    rw [hcache]
    exact find?_put_of_none (find?_lookup_of_none hfind) (by rwa [most_lookup])
  obtain ⟨hresult', -⟩ := hq'.serve_of_key henabled hkey'
  rw [getOrPut_of_some hfind'] at hresult'
  simp only [serveAll, hresult, hresult']
  rfl

/-- A cache that starts empty, of any size, gives to each request the grammar that is compiled
afresh for it, as long as fingerprints tell the vocabularies of the requests apart. -/
theorem Cache.serveAll_empty {qs : List Request}
    (h : Distinct {v | ∃ q ∈ qs, q.vocabulary = v}) (most : Int) (switch : Value) :
    List.Forall₂ (fun q x => ∀ g, x = .ok g ↔ q.compile.result = .ok g ∧
        ((empty most switch : Cache Grammar).isEnabled = true → q.vocabulary.foreign = []))
      qs ((empty most switch).serveAll qs) :=
  (holds_empty most switch).serveAll h fun q hq => ⟨q, hq, rfl⟩

/-! ## Requests for a source of two texts -/

/-- A table of the two texts, of which some may be special. -/
def truths (special : List Int) : Vocabulary where
  tokens := #["true", "false"]
  encoding := .raw
  stop := []
  special := special
  size_pos := by decide
  stop_lt := by decide

/-- A request for the schema that admits true and false. -/
def truthRequest (v : Vocabulary) : Request where
  settings := {}
  input := .document (.object [("type", .string "boolean")])
  vocabulary := v
  indent := none
  choice := .engine .automaton

theorem names_truthRequest (v : Vocabulary) :
    (truthRequest v).Names .automaton Matcher.truthSource :=
  ⟨rfl, rfl⟩

theorem serveAll_empty_truths : Distinct {v | ∃ q ∈ [truthRequest (truths [0]),
      truthRequest Matcher.pieces, truthRequest (truths [0])], q.vocabulary = v} ∧
    List.Forall₂ (fun q x => ∀ g, x = .ok g ↔ q.compile.result = .ok g ∧
        ((Cache.empty 2 (.bool true) : Cache Grammar).isEnabled = true → q.vocabulary.foreign = []))
      [truthRequest (truths [0]), truthRequest Matcher.pieces, truthRequest (truths [0])]
      ((Cache.empty 2 (.bool true)).serveAll
        [truthRequest (truths [0]), truthRequest Matcher.pieces, truthRequest (truths [0])]) := by
  have hmem : ∀ v, (∃ q ∈ [truthRequest (truths [0]), truthRequest Matcher.pieces,
      truthRequest (truths [0])], q.vocabulary = v) → v = truths [0] ∨ v = Matcher.pieces := by
    rintro v ⟨q, hq, rfl⟩
    simp only [List.mem_cons, List.not_mem_nil, or_false] at hq
    rcases hq with rfl | rfl | rfl
    · exact .inl rfl
    · exact .inr rfl
    · exact .inl rfl
  have hdigest : Digest.sha256 (truths [0]).fingerprintInput ≠
      Digest.sha256 Matcher.pieces.fingerprintInput := by
    decide +kernel
  have hdistinct : Distinct {v | ∃ q ∈ [truthRequest (truths [0]), truthRequest Matcher.pieces,
      truthRequest (truths [0])], q.vocabulary = v} := by
    refine ⟨?_, ?_, ?_⟩
    · rintro _ ⟨v, hv, rfl⟩ _ ⟨w, hw, rfl⟩ h
      rcases hmem v hv with rfl | rfl <;> rcases hmem w hw with rfl | rfl
      · rfl
      · exact absurd h hdigest
      · exact absurd h.symm hdigest
      · rfl
    · intro v hv
      rcases hmem v hv with rfl | rfl <;> decide
    · intro v hv w hw htokens
      rcases hmem v hv with rfl | rfl <;> rcases hmem w hw with rfl | rfl
      · simp
      · exact absurd htokens (by decide)
      · exact absurd htokens (by decide)
      · simp
  exact ⟨hdistinct, Cache.serveAll_empty hdistinct 2 (.bool true)⟩

theorem fingerprint_truths (special : List Int) :
    (truths special).fingerprint = (truths []).fingerprint := by
  have hinput : (truths special).fingerprintInput = (truths []).fingerprintInput := rfl
  rw [Vocabulary.fingerprint, hinput, Vocabulary.fingerprint]

theorem exists_compile_truths (special : List Int) (hmatchable : (truths special).Matchable [1])
    (hspell : (truths special).spell [1] = Text.Utf8.encode "false".toList) :
    ∃ g, (Grammar.compile Matcher.truthSource (truths special)).result = .ok g :=
  Grammar.exists_compile_eq_ok rfl hmatchable (by simp) hspell
    (Matcher.describes_truthSource.2 (.inr rfl))

/-- What a matcher answers about one token. -/
theorem Matcher.answers_advance {m : Matcher} (h : m.closed = false) (id : Int) :
    (m.calls [.advance id]).map (·.1) = .ok [.truth (m.accept? id).isSome] := by
  simp only [calls, call, advance_of_open h]
  cases m.accept? id <;> rfl

theorem accepts_true_of_compile {g : Grammar}
    (hg : (Grammar.compile Matcher.truthSource (truths [])).result = .ok g) :
    ((Matcher.fresh g .position).accept? 0).isSome = true := by
  obtain ⟨r, hcompiled⟩ := Grammar.exists_compiled hg
  obtain ⟨-, hv, -, -, -⟩ := Grammar.compile_eq_ok.1 hg
  have hstands := Matcher.stands_fresh hcompiled .position
  have htrue : ∃ w, (truths []).octets 0 = Text.Utf8.encode w ∧ r.Matches w :=
    ⟨"true".toList, by decide,
      (Grammar.describes_iff hg hcompiled).1 (Matcher.describes_truthSource.2 (.inl rfl))⟩
  obtain ⟨q, hq, hf⟩ := hcompiled.walk_final_iff.2 htrue
  have hallowed : Index.Allowed g.machine g.vocabulary Automaton.Machine.origin 0 := by
    rw [hv]
    exact .inl ⟨by decide, q, hq, [], by simp [Vocabulary.Matchable], q, rfl, hf⟩
  obtain ⟨n, hn⟩ := (hstands.exists_accept?_iff hcompiled rfl).2 hallowed
  rw [Option.isSome_iff_exists]
  exact ⟨n, hn⟩

theorem refuses_true_of_compile {g : Grammar}
    (hg : (Grammar.compile Matcher.truthSource (truths [0])).result = .ok g) :
    ((Matcher.fresh g .position).accept? 0).isSome = false := by
  obtain ⟨-, hv, -, -, -⟩ := Grammar.compile_eq_ok.1 hg
  rw [Option.isSome_eq_false_iff, Option.isNone_iff_eq_none, Matcher.accept?]
  have hsize : Vocabulary.inTable g.vocabulary.size 0 = true := by rw [hv]; decide
  have hstop : g.vocabulary.isStop 0 = false := by rw [hv]; decide
  have hoctets : g.vocabulary.octets 0 = [] := by rw [hv]; decide
  simp [Matcher.fresh, hsize, hstop, hoctets]

/-- The special tokens are no part of a key: a request gets the grammar of one before it whose
vocabulary has other special tokens, and the matchers of that grammar answer otherwise. -/
theorem serveAll_of_other_special : ∃ g k,
    (Cache.empty 32 (.bool true)).serveAll [truthRequest (truths []), truthRequest (truths [0])] =
      [.ok g, .ok g] ∧
    (truthRequest (truths [0])).compile.result = .ok k ∧
    ((Matcher.fresh g .position).calls [.advance 0]).map (·.1) = .ok [.truth true] ∧
    ((Matcher.fresh k .position).calls [.advance 0]).map (·.1) = .ok [.truth false] := by
  obtain ⟨g, hg⟩ := exists_compile_truths []
    (List.forall_mem_singleton.2 (by decide)) (by decide)
  obtain ⟨k, hk⟩ := exists_compile_truths [0]
    (List.forall_mem_singleton.2 (by decide)) (by decide)
  have hkey : ∀ special, CacheKey.of .automaton Matcher.truthSource (truths special) =
      .ok ⟨"fsm", Matcher.truthSource.text, none, (truths []).fingerprint⟩ := fun special =>
    CacheKey.of_eq_ok.2 ⟨rfl, by rw [fingerprint_truths]; rfl⟩
  have hnames := names_truthRequest
  refine ⟨g, k, ?_, (hnames _).result_compile.trans hk, ?_, ?_⟩
  · exact Cache.serveAll_of_key rfl rfl (hnames _) (hnames _) (hkey []) (hkey [0]) hg
  · rw [Matcher.answers_advance rfl, accepts_true_of_compile hg]
  · rw [Matcher.answers_advance rfl, refuses_true_of_compile hk]

end GuidedJson
