import GuidedJson.Proofs.Cache
import Mathlib.Data.List.Dedup
import Mathlib.Data.List.DropRight

/-!
# Recency

What a cache holds and counts after any operations. Its keys are the last ones that were touched, in
the order of their last touch: a key is touched by a lookup that finds it, and whenever something is
put under it. The grammar of a key is the one that was put there first.
-/

namespace GuidedJson.Cache

/-! ## The last of a list without repetition -/

section Recent

theorem length_rtake {κ : Type} (m : Nat) (ks : List κ) : (ks.rtake m).length = min m ks.length := by
  rw [List.rtake, List.length_drop]
  omega

variable {κ : Type} [DecidableEq κ]

/-- The last `m` of the distinct items of a list, by their last places. -/
def recent (m : Nat) (ks : List κ) : List κ := ks.dedup.rtake m

theorem filter_ne_eq_erase {ks : List κ} (h : ks.Nodup) (k : κ) :
    ks.filter (· ≠ k) = ks.erase k := by
  rw [h.erase_eq_filter]
  exact List.filter_congr fun a _ => by simp [bne, beq_eq_decide]

theorem dedup_snoc (ks : List κ) (k : κ) :
    (ks ++ [k]).dedup = ks.dedup.filter (· ≠ k) ++ [k] := by
  induction ks with
  | nil => simp
  | cons a ks ih =>
    rw [List.cons_append, List.dedup_cons, List.dedup_cons, ih]
    by_cases hk : a = k
    · subst hk
      by_cases ha : a ∈ ks <;> simp [ha]
    · by_cases ha : a ∈ ks <;> simp [ha, hk]

/-- What falls out of the last items may be left out before an item is moved to the end. -/
theorem rtake_filter_snoc {m : Nat} {ks : List κ} (h : ks.Nodup) (k : κ) :
    (ks.filter (· ≠ k) ++ [k]).rtake m = ((ks.rtake m).filter (· ≠ k) ++ [k]).rtake m := by
  induction ks with
  | nil => simp
  | cons a ks ih =>
    obtain ⟨ha, hks⟩ := List.nodup_cons.1 h
    by_cases hm : ks.length < m
    · have hall : (a :: ks).rtake m = a :: ks := by
        rw [List.rtake, List.length_cons, Nat.sub_eq_zero_of_le hm, List.drop_zero]
      rw [hall]
    · -- The first item is not among the last ones, with the moved item or without it.
      have hfirst : (a :: ks).rtake m = ks.rtake m := by
        rw [List.rtake, List.rtake, List.length_cons, Nat.sub_add_comm (Nat.not_lt.1 hm),
          List.drop_succ_cons]
      rw [hfirst, ← ih hks]
      by_cases hk : a = k
      · simp [hk]
      · have hlength : m ≤ (ks.filter (· ≠ k) ++ [k]).length := by
          have herase := List.le_length_erase (a := k) (l := ks)
          rw [List.length_append, List.length_singleton, filter_ne_eq_erase hks]
          omega
        rw [List.filter_cons_of_pos (by simpa using hk), List.cons_append, List.rtake, List.rtake,
          List.length_cons, Nat.sub_add_comm hlength, List.drop_succ_cons]

/-- An item that is touched moves to the end of the last items, or it comes in there. -/
theorem recent_snoc (m : Nat) (ks : List κ) (k : κ) :
    recent m (ks ++ [k]) = ((recent m ks).filter (· ≠ k) ++ [k]).rtake m := by
  rw [recent, dedup_snoc, rtake_filter_snoc (List.nodup_dedup ks), recent]

theorem nodup_recent (m : Nat) (ks : List κ) : (recent m ks).Nodup :=
  (List.nodup_dedup ks).sublist (List.drop_sublist _ _)

theorem length_recent (m : Nat) (ks : List κ) :
    (recent m ks).length = min m ks.dedup.length := length_rtake m ks.dedup

end Recent

/-! ## Entries -/

section Entries

variable {α : Type} {c : Cache α} {key : CacheKey} {a : α}

theorem find?_eq_none_iff : c.find? key = none ↔ key ∉ c.keys := by
  rw [find?, Option.map_eq_none_iff, List.find?_eq_none, keys, List.mem_map]
  constructor
  · rintro h ⟨e, he, rfl⟩
    exact h e he (by simp)
  · intro h e he heq
    exact h ⟨e, he, by simpa using heq⟩

theorem mem_keys_of_find? (h : c.find? key = some a) : key ∈ c.keys := by
  by_contra hkey
  rw [find?_eq_none_iff.2 hkey] at h
  cases h

theorem find?_eq_some_iff (hkeys : c.keys.Nodup) : c.find? key = some a ↔ (key, a) ∈ c.entries := by
  unfold keys at hkeys
  unfold find?
  generalize c.entries = es at hkeys
  -- No later entry has the key of the first one, so the first one that is found is the only one.
  induction es with
  | nil => simp
  | cons e es ih =>
    obtain ⟨he, hes⟩ := List.nodup_cons.1 hkeys
    by_cases heq : e.1 = key
    · subst heq
      have hother : (e.1, a) ∉ es := fun h => he (List.mem_map.2 ⟨_, h, rfl⟩)
      simp [hother, Prod.ext_iff, eq_comm]
    · have hfirst : (key, a) ≠ e := fun h => heq (h ▸ rfl)
      rw [List.find?_cons_of_neg (by simpa using heq), ih hes, List.mem_cons, or_iff_right hfirst]

theorem keys_renew : (c.renew key a).map (·.1) = c.keys.filter (· ≠ key) ++ [key] := by
  rw [renew, List.map_append, keys, List.filter_map]
  rfl

theorem lookup_of_some (h : c.find? key = some a) : c.lookup key =
    (some a, { c with entries := c.renew key a, hits := c.hits + 1 }) := by
  rw [lookup, h]

theorem lookup_of_none (h : c.find? key = none) :
    c.lookup key = (none, { c with misses := c.misses + 1 }) := by
  rw [lookup, h]

theorem put_of_some {b : α} (h : c.find? key = some b) :
    c.put key a = (b, { c with entries := c.renew key b }) := by
  rw [put, h]

theorem put_of_none (h : c.find? key = none) : c.put key a = (a, { c with
    entries := (c.entries ++ [(key, a)]).rtake c.most
    evictions := c.evictions + (c.size + 1 - c.most) }) := by
  rw [put, h]
  simp [List.rtake, size]

/-- Renewing an entry changes nothing that is found. -/
theorem find?_of_renew {d : Cache α} (h : c.find? key = some a) (hd : d.entries = c.renew key a)
    (k : CacheKey) : d.find? k = c.find? k := by
  rw [find?, hd, renew, List.find?_append, List.find?_filter]
  by_cases hk : k = key
  · subst hk
    have hnone : c.entries.find? (fun e => decide (decide (e.1 ≠ k) = true ∧ decide (e.1 = k) = true)) =
        none := List.find?_eq_none.2 fun e _ => by simp
    rw [hnone, h]
    simp
  · have hsame : ∀ e : CacheKey × α,
        decide (decide (e.1 ≠ key) = true ∧ decide (e.1 = k) = true) = decide (e.1 = k) := by
      intro e
      by_cases he : e.1 = k <;> simp [he, hk]
    simp only [hsame]
    simp [find?, Ne.symm hk]

end Entries

/-! ## Moves -/

/-- What is done with a cache in one move. -/
inductive Move (α : Type) where
  | lookup (key : CacheKey)
  | put (key : CacheKey) (a : α)
  | clear

/-- The key that a move is about. -/
def Move.key? {α : Type} : Move α → Option CacheKey
  | .lookup key | .put key _ => some key
  | .clear => none

/-- What a move answers, and the cache after it. -/
def Move.run {α : Type} (c : Cache α) : Move α → Option α × Cache α
  | .lookup key => c.lookup key
  | .put key a => (some (c.put key a).1, (c.put key a).2)
  | .clear => (none, c.clear)

/-- A cache and how it came about: the keys that were touched since it was cleared last, how often
a key was looked up and a new one stored, and how many entries were cleared away. -/
structure Account (α : Type) where
  cache : Cache α
  touched : List CacheKey := []
  lookups : Nat := 0
  stored : Nat := 0
  cleared : Nat := 0

namespace Account

variable {α : Type} {s : Account α} {m : Nat}

/-- The account after a move. A lookup touches its key if it finds something. Whatever is put
touches its key, and is stored if nothing was found under it. -/
def move (s : Account α) (x : Move α) : Account α :=
  let t := { s with cache := (x.run s.cache).2 }
  match x with
  | .lookup key =>
    match s.cache.find? key with
    | some _ => { t with touched := s.touched ++ [key], lookups := s.lookups + 1 }
    | none => { t with lookups := s.lookups + 1 }
  | .put key _ =>
    match s.cache.find? key with
    | some _ => { t with touched := s.touched ++ [key] }
    | none => { t with touched := s.touched ++ [key], stored := s.stored + 1 }
  | .clear => { t with touched := [], cleared := s.cleared + s.cache.size }

/-- What holds of a cache for `m` grammars: it has the keys that were touched last, the newest at
the end, and counts the lookups, and what was stored but is not there and was not cleared away. -/
structure Exact (s : Account α) (m : Nat) : Prop where
  most : s.cache.most = m
  keys : s.cache.keys = recent m s.touched
  lookups : s.cache.hits + s.cache.misses = s.lookups
  evictions : (s.cache.evictions : Int) = s.stored - s.cleared - s.cache.size

theorem Exact.nodup_keys (h : s.Exact m) : s.cache.keys.Nodup := h.keys ▸ nodup_recent m s.touched

theorem size_eq_length_keys (c : Cache α) : c.size = c.keys.length := (List.length_map _).symm

/-- As many entries as there are touched keys, but not more than there is room for. -/
theorem Exact.size (h : s.Exact m) : s.cache.size = min m s.touched.dedup.length := by
  rw [size_eq_length_keys, h.keys, length_recent]

/-- A key that is there moves to the end. -/
theorem Exact.keys_renew {key : CacheKey} {a : α} (h : s.Exact m)
    (hfind : s.cache.find? key = some a) :
    (s.cache.renew key a).map (·.1) = recent m (s.touched ++ [key]) ∧
      (s.cache.renew key a).length = s.cache.size := by
  have hmem := mem_keys_of_find? hfind
  have hlength : (s.cache.keys.filter (· ≠ key) ++ [key]).length = s.cache.size := by
    have hpos := List.length_pos_of_mem hmem
    rw [filter_ne_eq_erase h.nodup_keys, List.length_append, List.length_erase_of_mem hmem,
      size_eq_length_keys, List.length_singleton]
    omega
  rw [← Cache.keys_renew] at hlength
  refine ⟨?_, by rwa [List.length_map] at hlength⟩
  have hsize := h.size
  rw [recent_snoc, ← h.keys, ← Cache.keys_renew, List.rtake, hlength, Nat.sub_eq_zero_of_le (by omega),
    List.drop_zero]

theorem Exact.move (h : s.Exact m) (x : Move α) : (s.move x).Exact m := by
  obtain ⟨hmost, hkeys, hlookups, hevictions⟩ := h
  cases x with
  | lookup key =>
    cases hfind : s.cache.find? key with
    | some a =>
      obtain ⟨hrenew, hlength⟩ := Exact.keys_renew ⟨hmost, hkeys, hlookups, hevictions⟩ hfind
      simp only [Account.move, Move.run, lookup_of_some hfind, hfind]
      refine ⟨hmost, hrenew, ?_, ?_⟩
      · dsimp only
        omega
      · dsimp only [Cache.size]
        rw [hlength]
        exact hevictions
    | none =>
      simp only [Account.move, Move.run, lookup_of_none hfind, hfind]
      exact ⟨hmost, hkeys, by dsimp only; omega, hevictions⟩
  | put key a =>
    cases hfind : s.cache.find? key with
    | some b =>
      obtain ⟨hrenew, hlength⟩ := Exact.keys_renew ⟨hmost, hkeys, hlookups, hevictions⟩ hfind
      simp only [Account.move, Move.run, put_of_some hfind, hfind]
      refine ⟨hmost, hrenew, hlookups, ?_⟩
      dsimp only [Cache.size]
      rw [hlength]
      exact hevictions
    | none =>
      simp only [Account.move, Move.run, put_of_none hfind, hfind]
      -- A key without an entry is new at the end, and what falls out at the front is an eviction.
      refine ⟨hmost, ?_, hlookups, ?_⟩
      · have hother : s.cache.keys.filter (· ≠ key) = s.cache.keys := by
          rw [List.filter_eq_self]
          intro k hk
          have hne : k ≠ key := fun heq => find?_eq_none_iff.1 hfind (heq ▸ hk)
          simpa using hne
        rw [recent_snoc, ← hkeys, hother, ← hmost]
        simp [Cache.keys, List.rtake]
      · have hlength := length_rtake s.cache.most (s.cache.entries ++ [(key, a)])
        rw [List.length_append, List.length_singleton] at hlength
        dsimp only [Cache.size] at hevictions ⊢
        rw [hlength]
        omega
  | clear =>
    refine ⟨hmost, ?_, hlookups, ?_⟩
    · simp [Account.move, Move.run, clear, Cache.keys, recent, List.rtake]
    · simp only [Account.move, Move.run, clear, Cache.size, List.length_nil]
      simp only [Cache.size] at hevictions
      omega

end Account

/-! ## What is answered -/

section Answers

variable {α : Type} {c : Cache α}

theorem Move.isEnabled_run (x : Move α) : (x.run c).2.isEnabled = c.isEnabled := by
  cases x with
  | lookup key => exact isEnabled_lookup
  | put key a => exact isEnabled_put
  | clear => rfl

/-- A move for a key that is there answers the grammar that it has, and changes nothing that is
found. -/
theorem Move.run_of_some {x : Move α} {key : CacheKey} {a : α} (hx : x.key? = some key)
    (h : c.find? key = some a) :
    (x.run c).1 = some a ∧ ∀ k, (x.run c).2.find? k = c.find? k := by
  cases x with
  | lookup k =>
    cases hx
    rw [Move.run, lookup_of_some h]
    exact ⟨rfl, find?_of_renew h rfl⟩
  | put k b =>
    cases hx
    rw [Move.run, put_of_some h]
    exact ⟨rfl, find?_of_renew h rfl⟩
  | clear => cases hx

/-- What is found after a move was found before, or has just been put under a key that had
nothing. -/
theorem Move.find?_run (hc : c.keys.Nodup) {x : Move α} {key : CacheKey} {a : α}
    (h : (x.run c).2.find? key = some a) :
    c.find? key = some a ∨ c.find? key = none ∧ x = .put key a := by
  cases hx : x.key? with
  | none =>
    cases x with
    | clear => cases h
    | _ => cases hx
  | some k =>
    cases hk : c.find? k with
    | some b =>
      rw [(Move.run_of_some hx hk).2] at h
      exact .inl h
    | none =>
      cases x with
      | lookup k' =>
        cases hx
        rw [Move.run, lookup_of_none hk] at h
        exact .inl h
      | put k' b =>
        cases hx
        rw [Move.run, put_of_none hk, find?, Option.map_eq_some_iff] at h
        obtain ⟨e, he, rfl⟩ := h
        have hkey : e.1 = key := by simpa using List.find?_some he
        subst hkey
        -- Only older entries have fallen out.
        rcases List.mem_append.1 (List.mem_of_mem_drop (List.mem_of_find?_eq_some he)) with he | he
        · exact .inl ((find?_eq_some_iff hc).2 he)
        · obtain rfl := List.mem_singleton.1 he
          exact .inr ⟨hk, rfl⟩
      | clear => cases hx

end Answers

/-! ## Queries -/

/-- A request, and how it is compiled. -/
structure Query (α : Type) extends Request where
  compileWith : Engine → Schema.Source → Vocabulary → Logged α

namespace Query

variable {α : Type} (q : Query α) {c : Cache α}

/-- What a query is answered. -/
def ask : Action (Cache α) α :=
  getOrCompile q.settings q.compileWith q.input q.vocabulary q.indent q.choice

/-- The key of a query, and the compilation that its grammar comes from. -/
def names : Except Failure (CacheKey × Logged α) := do
  let engine ← q.choice.resolve q.settings
  let source ← (q.input.source q.indent).result
  let key ← CacheKey.of engine source q.vocabulary
  return (key, q.compileWith engine source q.vocabulary)

/-- The moves that a query makes: it looks its key up, and puts what it compiles where nothing is
found. -/
def moves (c : Cache α) : List (Move α) :=
  match q.names with
  | .error _ => []
  | .ok (key, compile) =>
    match c.find? key, compile.result with
    | none, .ok a => [.lookup key, .put key a]
    | _, _ => [.lookup key]

variable {q}

theorem names_eq_ok {key : CacheKey} {compile : Logged α} : q.names = .ok (key, compile) ↔
    ∃ engine source, q.Names engine source ∧ CacheKey.of engine source q.vocabulary = .ok key ∧
      compile = q.compileWith engine source q.vocabulary := by
  rw [names]
  constructor
  · intro h
    obtain ⟨engine, hengine, h⟩ := exceptBind_eq_ok.1 h
    obtain ⟨source, hsource, h⟩ := exceptBind_eq_ok.1 h
    obtain ⟨_, hkey, h⟩ := exceptBind_eq_ok.1 h
    cases h
    exact ⟨engine, source, ⟨hengine, hsource⟩, hkey, rfl⟩
  · rintro ⟨engine, source, ⟨hengine, hsource⟩, hkey, rfl⟩
    exact exceptBind_eq_ok.2 ⟨engine, hengine, exceptBind_eq_ok.2 ⟨source, hsource,
      exceptBind_eq_ok.2 ⟨key, hkey, rfl⟩⟩⟩

/-- A query without a key fails before anything is looked up. -/
theorem run_ask_of_error {e : Failure} (hc : c.isEnabled = true) (h : q.names = .error e) :
    (q.ask.run c).1.result = .error e ∧ (q.ask.run c).2 = c := by
  rw [names] at h
  rw [ask, getOrCompile]
  cases hengine : q.choice.resolve q.settings with
  | error f =>
    rw [hengine] at h
    cases h
    rw [Action.run_error_bind]
    exact ⟨rfl, rfl⟩
  | ok engine =>
    rw [hengine] at h
    rw [Action.run_ok_bind]
    cases hsource : (q.input.source q.indent).result with
    | error f =>
      rw [hsource] at h
      cases h
      rw [Action.run_logged_bind_error _ hsource]
      exact ⟨rfl, rfl⟩
    | ok source =>
      rw [hsource] at h
      rw [Action.run_logged_bind_ok _ hsource, Action.run_get_bind, hc]
      cases hkey : CacheKey.of engine source q.vocabulary with
      | error f =>
        simp only [bind, Except.bind, hkey] at h
        cases h
        simp only [Bool.not_true, Bool.false_eq_true, if_false]
        rw [Action.run_error_bind]
        exact ⟨rfl, rfl⟩
      | ok key =>
        simp only [bind, Except.bind, hkey] at h
        cases h

theorem run_ask_of_ok {key : CacheKey} {compile : Logged α} (hc : c.isEnabled = true)
    (h : q.names = .ok (key, compile)) :
    (q.ask.run c).1.result = ((getOrPut key compile).run c).1.result ∧
      (q.ask.run c).2 = ((getOrPut key compile).run c).2 := by
  obtain ⟨engine, source, ⟨hengine, hsource⟩, hkey, rfl⟩ := names_eq_ok.1 h
  rw [ask, getOrCompile, hengine, Action.run_ok_bind, Action.run_logged_bind_ok _ hsource,
    Action.run_get_bind, hc, hkey]
  simp only [Bool.not_true, Bool.false_eq_true, if_false]
  rw [Action.run_ok_bind]
  exact ⟨rfl, rfl⟩

/-- A query for a key that is there answers what is stored, and does what a lookup does. -/
theorem run_ask_of_some {key : CacheKey} {compile : Logged α} {a : α} (hc : c.isEnabled = true)
    (hnames : q.names = .ok (key, compile)) (h : c.find? key = some a) :
    (q.ask.run c).1.result = .ok a ∧ (q.ask.run c).2 = (c.lookup key).2 := by
  obtain ⟨hresult, hcache⟩ := run_ask_of_ok hc hnames
  rw [getOrPut_of_some h] at hresult hcache
  exact ⟨hresult, hcache⟩

/-- A query leaves the cache as its moves do. -/
theorem ask_moves (hc : c.isEnabled = true) :
    (q.ask.run c).2 = (q.moves c).foldl (fun d x => (x.run d).2) c := by
  rw [moves]
  cases hnames : q.names with
  | error e => exact (run_ask_of_error hc hnames).2
  | ok p =>
    obtain ⟨key, compile⟩ := p
    rw [(run_ask_of_ok hc hnames).2]
    dsimp only
    cases hfind : c.find? key with
    | some a => rw [getOrPut_of_some hfind]; rfl
    | none =>
      cases hcompile : compile.result with
      | ok a => rw [getOrPut_of_ok hfind hcompile]; rfl
      | error e => rw [getOrPut_of_error hfind hcompile]; rfl

/-- What is found after a query was there before it, or is what the query put where nothing was. -/
theorem find?_ask {key : CacheKey} {a : α} (hc : c.isEnabled = true) (hkeys : c.keys.Nodup)
    (h : (q.ask.run c).2.find? key = some a) :
    c.find? key = some a ∨ c.find? key = none ∧ Move.put key a ∈ q.moves c := by
  -- A query makes at most two moves, and the first of two finds nothing: it only counts a miss.
  have hnew : ∀ d : Cache α, d.find? = c.find? → d.keys = c.keys → ∀ y : Move α,
      (y.run d).2.find? key = some a →
        c.find? key = some a ∨ c.find? key = none ∧ Move.put key a = y := by
    intro d hfind hd y hy
    rw [← hfind]
    exact (Move.find?_run (hd ▸ hkeys) hy).imp_right fun hput => ⟨hput.1, hput.2.symm⟩
  rw [ask_moves hc, moves] at h
  rw [moves]
  cases hnames : q.names with
  | error e =>
    rw [hnames] at h
    exact .inl h
  | ok p =>
    obtain ⟨k, compile⟩ := p
    rw [hnames] at h
    dsimp only at h ⊢
    cases hk : c.find? k with
    | some b =>
      rw [hk] at h
      simpa using hnew c rfl rfl _ h
    | none =>
      rw [hk] at h
      cases hcompile : compile.result with
      | error e =>
        rw [hcompile] at h
        simpa using hnew c rfl rfl _ h
      | ok b =>
        rw [hcompile] at h
        simp only [List.foldl_cons, List.foldl_nil, Move.run, lookup_of_none hk] at h
        simpa using hnew { c with misses := c.misses + 1 } rfl rfl (.put k b) h

end Query

/-! ## Operations one after the other -/

/-- What is done with a cache: a move, or a query. -/
inductive Op (α : Type) where
  | move (x : Move α)
  | query (q : Query α)

section Operations

variable {α : Type} {c : Cache α} {m : Nat}

/-- What an operation answers, and the cache after it. -/
def Op.run (c : Cache α) : Op α → Except Failure (Option α) × Cache α
  | .move x => (.ok (x.run c).1, (x.run c).2)
  | .query q => ((q.ask.run c).1.result.map some, (q.ask.run c).2)

/-- The moves that an operation makes. -/
def Op.moves (c : Cache α) : Op α → List (Move α)
  | .move x => [x]
  | .query q => q.moves c

/-- The key that an operation is about. -/
def Op.key? : Op α → Option CacheKey
  | .move x => x.key?
  | .query q => q.names.toOption.map (·.1)

/-- What holds of the answers of a cache. An operation on a key that is there answers the grammar
that was stored for it, and changes nothing that is found; a key that is found after any operation
has the grammar that it had before, or the one that is put under it when it had none. -/
structure Truthful (c : Cache α) : Prop where
  held : ∀ (x : Op α) (key : CacheKey) (a : α), x.key? = some key → c.find? key = some a →
    (x.run c).1 = .ok (some a) ∧ ∀ k, (x.run c).2.find? k = c.find? k
  found : ∀ (x : Op α) (key : CacheKey) (a : α), (x.run c).2.find? key = some a →
    c.find? key = some a ∨ c.find? key = none ∧ Move.put key a ∈ x.moves c

theorem truthful (hc : c.isEnabled = true) (hkeys : c.keys.Nodup) : c.Truthful where
  held x key a hx h := by
    cases x with
    | move x =>
      obtain ⟨hanswer, hfind⟩ := Move.run_of_some hx h
      exact ⟨congrArg Except.ok hanswer, hfind⟩
    | query q =>
      cases hnames : q.names with
      | error e =>
        rw [Op.key?, hnames] at hx
        cases hx
      | ok p =>
        obtain ⟨k, compile⟩ := p
        rw [Op.key?, hnames] at hx
        cases hx
        obtain ⟨hresult, hcache⟩ := Query.run_ask_of_some hc hnames h
        rw [Op.run, hresult, hcache]
        exact ⟨rfl, (Move.run_of_some (x := .lookup k) rfl h).2⟩
  found x key a h := by
    cases x with
    | move x => simpa [Op.moves, eq_comm] using Move.find?_run hkeys h
    | query q => exact Query.find?_ask hc hkeys h

/-- The account after an operation: the cache that it leaves, and what is noted of the moves that it
makes. -/
def Account.perform (s : Account α) (x : Op α) : Account α :=
  { (x.moves s.cache).foldl Account.move s with cache := (x.run s.cache).2 }

theorem Account.cache_foldl_move (s : Account α) (xs : List (Move α)) :
    (xs.foldl Account.move s).cache = xs.foldl (fun c x => (x.run c).2) s.cache := by
  induction xs generalizing s with
  | nil => rfl
  | cons x xs ih =>
    have hmove : (s.move x).cache = (x.run s.cache).2 := by
      cases x with
      | lookup key => cases h : s.cache.find? key <;> simp [Account.move, h]
      | put key a => cases h : s.cache.find? key <;> simp [Account.move, h]
      | clear => rfl
    rw [List.foldl_cons, List.foldl_cons, ih, hmove]

theorem Op.run_eq_moves (hc : c.isEnabled = true) (x : Op α) :
    (x.run c).2 = (x.moves c).foldl (fun d y => (y.run d).2) c := by
  cases x with
  | move y => rfl
  | query q => exact Query.ask_moves hc

/-- While the cache is enabled, an operation is nothing but its moves. -/
theorem Account.perform_eq_moves {s : Account α} (hc : s.cache.isEnabled = true) (x : Op α) :
    s.perform x = (x.moves s.cache).foldl Account.move s := by
  rw [perform, Op.run_eq_moves hc, ← cache_foldl_move]

/-- The account of a cache that is enabled. -/
structure Account.Sound (s : Account α) (m : Nat) : Prop where
  exact : s.Exact m
  isEnabled : s.cache.isEnabled = true

theorem Account.Sound.move {s : Account α} (h : s.Sound m) (x : Move α) : (s.move x).Sound m := by
  refine ⟨h.exact.move x, ?_⟩
  have hcache := s.cache_foldl_move [x]
  rw [List.foldl_cons, List.foldl_nil] at hcache
  rw [hcache, List.foldl_cons, List.foldl_nil, Move.isEnabled_run]
  exact h.isEnabled

theorem Account.Sound.moves {s : Account α} (h : s.Sound m) (xs : List (Move α)) :
    (xs.foldl Account.move s).Sound m := by
  induction xs generalizing s with
  | nil => exact h
  | cons x xs ih => exact ih (h.move x)

theorem Account.Sound.perform {s : Account α} (h : s.Sound m) (x : Op α) :
    (s.perform x).Sound m := by
  rw [perform_eq_moves h.isEnabled]
  exact h.moves _

theorem Account.Sound.performAll {s : Account α} (h : s.Sound m) (xs : List (Op α)) :
    (xs.foldl Account.perform s).Sound m := by
  induction xs generalizing s with
  | nil => exact h
  | cons x xs ih => exact ih (h.perform x)

theorem Account.sound_empty {most : Int} {switch : Value}
    (h : (empty most switch : Cache α).isEnabled = true) :
    Account.Sound { cache := (empty most switch : Cache α) } most.toNat where
  exact := ⟨rfl, by simp [empty, Cache.keys, recent, List.rtake], rfl, rfl⟩
  isEnabled := h

/-- After any operations on an enabled cache its keys are the last touched ones, it is never larger
than it may be, its counts are true, and whatever is asked next is answered truthfully. -/
theorem exact_of_isEnabled {most : Int} {switch : Value}
    (h : (empty most switch : Cache α).isEnabled = true) (xs : List (Op α)) :
    let s := xs.foldl Account.perform { cache := empty most switch }
    s.Exact most.toNat ∧ s.cache.size = min most.toNat s.touched.dedup.length ∧
      s.cache.size ≤ most.toNat ∧ s.cache.Truthful := by
  intro s
  have hs : s.Sound most.toNat := (Account.sound_empty h).performAll xs
  have hsize := hs.exact.size
  exact ⟨hs.exact, hsize, by omega, truthful hs.isEnabled hs.exact.nodup_keys⟩

/-- With room for two, the lookup of the older one saves it. -/
theorem exact_of_isEnabled_two :
    let key (text : String) : CacheKey := ⟨"fsm", text, none, ""⟩
    let xs : List (Op Nat) := [.move (.put (key "a") 1), .move (.put (key "b") 2),
      .move (.lookup (key "a")), .move (.put (key "c") 3)]
    let s := xs.foldl Account.perform { cache := empty 2 (.bool true) }
    s.cache.keys = [key "a", key "c"] ∧ (s.cache.evictions : Int) = 1 := by
  intro key xs s
  obtain ⟨h, -, -, -⟩ := @exact_of_isEnabled Nat 2 (.bool true) rfl xs
  exact ⟨h.keys.trans (by decide), h.evictions.trans (by decide)⟩

end Operations

end GuidedJson.Cache
