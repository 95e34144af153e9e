import GuidedJson.Proofs.Cache.Recency

/-!
# Queries that fail

A query that has no grammar fails through a cache as it fails without one, and leaves the entries
alone, if it comes to be compiled. The ways there differ: through a cache the engine is chosen
before the source is made, and an enabled cache needs a key, under which it may hold something
already.
-/

namespace GuidedJson

namespace Cache.Query

/-! ## Without a cache -/

section Fresh

variable {α : Type} {q : Query α} {c : Cache α} {engine : Engine} {source : Schema.Source}

/-- The grammar of a query, compiled afresh. The source is made before the engine is chosen. -/
def fresh (q : Query α) : Logged α := do
  let source ← q.input.source q.indent
  let engine ← (q.choice.resolve q.settings : Except Failure Engine)
  q.compileWith engine source q.vocabulary

/-- A request, as a query for the grammars of this library. -/
def ofRequest (r : Request) : Query Grammar := { r with compileWith := Engine.compile }

theorem fresh_ofRequest (r : Request) : (ofRequest r).fresh = r.compile := rfl

theorem ask_ofRequest (r : Request) : (ofRequest r).ask = r.serve := rfl

theorem fresh_of_source_error {e : Failure} (h : (q.input.source q.indent).result = .error e) :
    q.fresh = ⟨(q.input.source q.indent).log, .error e⟩ := by
  show Logged.bind _ _ = _
  simp only [Logged.bind, h]

theorem fresh_of_names (h : q.Names engine source) :
    q.fresh = ⟨(q.input.source q.indent).log ++ (q.compileWith engine source q.vocabulary).log,
      (q.compileWith engine source q.vocabulary).result⟩ := by
  have hengine : (liftM (q.choice.resolve q.settings) >>= fun e =>
      q.compileWith e source q.vocabulary : Logged α) = q.compileWith engine source q.vocabulary := by
    rw [h.engine]
    exact Logged.pure_bind engine _
  show Logged.bind _ _ = _
  simp only [Logged.bind, h.source, hengine]

end Fresh

/-! ## Through a cache -/

section Failing

variable {α : Type} {q : Query α} {c : Cache α} {engine : Engine} {source : Schema.Source}

/-- Whether a query is compiled as soon as its source is made: its engine is known, and an enabled
cache has nothing under the key that the query then has. -/
def Misses (q : Query α) (c : Cache α) : Prop :=
  ∃ engine, q.choice.resolve q.settings = .ok engine ∧ (c.isEnabled = true →
    ∀ source, (q.input.source q.indent).result = .ok source →
      ∃ key, CacheKey.of engine source q.vocabulary = .ok key ∧ c.find? key = none)

theorem run_ask_of_unknown {e : Failure} (h : q.choice.resolve q.settings = .error e) :
    q.ask.run c = (throw e, c) := by
  rw [ask, getOrCompile, h]
  exact Action.run_error_bind _ _

theorem run_ask_of_source_error (hengine : q.choice.resolve q.settings = .ok engine) {e : Failure}
    (h : (q.input.source q.indent).result = .error e) : q.ask.run c = (q.fresh, c) := by
  rw [ask, getOrCompile, hengine, Action.run_ok_bind, Action.run_logged_bind_error _ h,
    fresh_of_source_error h]

theorem run_ask_of_disabled (h : q.Names engine source) (hc : c.isEnabled = false) :
    q.ask.run c = (q.fresh, c) := by
  rw [ask, getOrCompile, h.engine, Action.run_ok_bind, Action.run_logged_bind_ok _ h.source,
    Action.run_get_bind, hc, fresh_of_names h]
  rfl

theorem run_ask_of_missing (h : q.Names engine source) (hc : c.isEnabled = true) {key : CacheKey}
    (hkey : CacheKey.of engine source q.vocabulary = .ok key) (hfind : c.find? key = none)
    {e : Failure} (he : q.fresh.result = .error e) :
    q.ask.run c = (q.fresh, (c.lookup key).2) := by
  have hcompile : (q.compileWith engine source q.vocabulary).result = .error e := by
    rwa [fresh_of_names h] at he
  rw [ask, getOrCompile, h.engine, Action.run_ok_bind, Action.run_logged_bind_ok _ h.source,
    Action.run_get_bind, hc, hkey]
  simp only [Bool.not_true, Bool.false_eq_true, if_false]
  rw [Action.run_ok_bind, getOrPut_of_error hfind hcompile, fresh_of_names h, hcompile]

/-- What a cache does for a query that has no grammar. If the query comes to be compiled, it fails
just as without a cache; if not, its engine is unknown, its vocabulary has no fingerprint, or a
grammar is stored under its key. The entries stay as they are, but for an entry that is answered and
becomes the newest. -/
structure Failing (q : Query α) (c : Cache α) : Prop where
  missing : q.Misses c → (q.ask.run c).1 = q.fresh ∧ (q.ask.run c).2.entries = c.entries
  unknown : ∀ e, q.choice.resolve q.settings = .error e → q.ask.run c = (throw e, c)
  keyless : c.isEnabled = true → ∀ engine source, q.Names engine source →
    ∀ e, CacheKey.of engine source q.vocabulary = .error e →
      (q.ask.run c).1.result = .error e ∧ (q.ask.run c).2 = c
  held : c.isEnabled = true → ∀ key compile, q.names = .ok (key, compile) →
    ∀ a, c.find? key = some a →
      (q.ask.run c).1.result = .ok a ∧ (q.ask.run c).2.entries = c.renew key a

theorem entries_run_ask_of_missing {e : Failure} (he : q.fresh.result = .error e)
    (h : q.Misses c) : (q.ask.run c).1 = q.fresh ∧ (q.ask.run c).2.entries = c.entries := by
  obtain ⟨engine, hengine, hmissing⟩ := h
  cases hsource : (q.input.source q.indent).result with
  | error f =>
    rw [run_ask_of_source_error hengine hsource]
    exact ⟨rfl, rfl⟩
  | ok source =>
    have hnames : q.Names engine source := ⟨hengine, hsource⟩
    cases hc : c.isEnabled with
    | false =>
      rw [run_ask_of_disabled hnames hc]
      exact ⟨rfl, rfl⟩
    | true =>
      obtain ⟨key, hkey, hfind⟩ := hmissing hc source hsource
      rw [run_ask_of_missing hnames hc hkey hfind he, lookup_of_none hfind]
      exact ⟨rfl, rfl⟩

theorem failing_of_fresh {e : Failure} (he : q.fresh.result = .error e) (c : Cache α) :
    q.Failing c where
  missing h := entries_run_ask_of_missing he h
  unknown _ h := run_ask_of_unknown h
  keyless hc engine source h f hkey := by
    have hnames : q.names = .error f := by
      simp only [names, h.engine, h.source, hkey, bind, Except.bind]
    exact run_ask_of_error hc hnames
  held hc key compile hnames a hfind := by
    obtain ⟨hresult, hcache⟩ := run_ask_of_ok hc hnames
    rw [getOrPut_of_some hfind, lookup_of_some hfind] at hcache
    rw [getOrPut_of_some hfind] at hresult
    exact ⟨hresult, congrArg Cache.entries hcache⟩

/-- A cache of what is served has nothing under the key of a request that fails. -/
theorem misses_of_serves {V : Set Vocabulary} {r : Request} {c : Cache Grammar}
    (hc : c.Holds (Serves V)) (hr : r.vocabulary ∈ V) (hforeign : r.vocabulary.foreign = [])
    (hengine : r.choice.resolve r.settings = .ok engine) {e : Failure}
    (he : r.compile.result = .error e) : (ofRequest r).Misses c := by
  refine ⟨engine, hengine, fun _ source hsource => ?_⟩
  obtain ⟨key, hkey⟩ : ∃ key, CacheKey.of engine source r.vocabulary = .ok key :=
    ⟨_, CacheKey.of_eq_ok.2 ⟨hforeign, rfl⟩⟩
  refine ⟨key, hkey, ?_⟩
  by_contra hfind
  obtain ⟨g, hg⟩ := Option.ne_none_iff_exists'.1 hfind
  have hok : r.compile.result = .ok g := by
    rw [Request.Names.result_compile ⟨hengine, hsource⟩]
    exact hc.of_find? hg engine source r.vocabulary hr hkey
  rw [he] at hok
  cases hok

end Failing

/-! ## Requests for a schema of no type -/

/-- A request for a schema whose type is none. -/
def tupleRequest (choice : EngineChoice) : Request where
  settings := {}
  input := .document (.object [("type", .string "tuple")])
  vocabulary := truths []
  indent := none
  choice := choice

theorem compile_tupleRequest (choice : EngineChoice) : (tupleRequest choice).compile.result =
    .error (.schema (.unknownType "$" (.string "tuple"))) := rfl

theorem failing_of_fresh_tuple :
    let q := ofRequest (tupleRequest (.named none))
    q.fresh.result = .error (.schema (.unknownType "$" (.string "tuple"))) ∧
      q.Misses (empty 2 (.bool true)) ∧ q.Failing (empty 2 (.bool true)) := by
  intro q
  have hfresh : q.fresh.result = .error (.schema (.unknownType "$" (.string "tuple"))) :=
    compile_tupleRequest _
  have hmisses : q.Misses (empty 2 (.bool true)) :=
    ⟨.automaton, EngineChoice.resolve_default, fun _ => nofun⟩
  exact ⟨hfresh, hmisses, failing_of_fresh hfresh _⟩

/-- Where both the schema and the name of the engine are wrong, the schema is what is told of
without a cache, and the engine is with one. -/
theorem serve_of_unknown_engine : ∃ e f,
    (tupleRequest (.named (some "nope"))).compile.result = .error e ∧
    ((tupleRequest (.named (some "nope"))).serve.run (empty 32 (.bool true))).1.result = .error f ∧
    e.message = "Unsupported schema type: 'tuple' (at $)" ∧
    f.message = "Unknown grammar engine: 'nope'. Use one of ['fsm', 'xgrammar']" :=
  ⟨_, _, rfl, rfl, by decide, by decide⟩

end Cache.Query

end GuidedJson
