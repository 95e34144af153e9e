import GuidedJson.Action
import GuidedJson.Number.Shortest
import GuidedJson.Setup.Compile

/-! # The cache of compiled grammars

A compiled grammar never changes, so equal requests can share one. A cache keeps the most recently
used ones, oldest first, and counts how it was used. A lookup that finds its key makes it the
newest; a key that is stored again keeps the grammar that it has. What falls out at the old end is
counted as evicted.
-/

namespace GuidedJson

open Number (Binary Format)

/-- What a compiled grammar is found by. -/
structure CacheKey where
  engine : String
  text : String
  indent : Option Int
  fingerprint : String
deriving DecidableEq, Repr

/-- The key of a source, compiled by an engine against a vocabulary of texts. -/
def CacheKey.of (e : Engine) (source : Schema.Source) (v : Vocabulary) : Except Failure CacheKey :=
  v.fingerprint?.map fun fingerprint => ⟨e.name, source.text, source.indent, fingerprint⟩

/-- Grammars by key, oldest first. The switch is any value; it counts by its truth. -/
structure Cache (α : Type) where
  switch : Value
  most : Nat
  entries : List (CacheKey × α) := []
  hits : Nat := 0
  misses : Nat := 0
  evictions : Nat := 0

namespace Cache

variable {α : Type}

/-- An empty cache for so many grammars; a negative number is none. -/
def empty (most : Int) (switch : Value) : Cache α := { switch, most := most.toNat }

/-- An empty cache whose size is given by a value that must stand for an integer. -/
def ofValues (most switch : Value) : Except Failure (Cache α) :=
  match most.toInteger with
  | .ok n => .ok (empty n switch)
  | .error fault => .error (.ofIntegerFault fault)

variable (c : Cache α)

/-- Whether requests consult the cache. -/
def isEnabled : Bool := c.switch.truthy && 0 < c.most

/-- The switch as it is reported: with room for nothing, a cache that is on is off. -/
def state : Value := if c.switch.truthy then .bool (0 < c.most) else c.switch

def size : Nat := c.entries.length

def keys : List CacheKey := c.entries.map (·.1)

def find? (key : CacheKey) : Option α := (c.entries.find? (·.1 = key)).map (·.2)

/-- The entries with one of them as the newest. -/
def renew (key : CacheKey) (a : α) : List (CacheKey × α) :=
  c.entries.filter (·.1 ≠ key) ++ [(key, a)]

/-! ## Operations -/

/-- Asks for a key, which counts as a hit or a miss. -/
def lookup (key : CacheKey) : Option α × Cache α :=
  match c.find? key with
  | some a => (some a, { c with entries := c.renew key a, hits := c.hits + 1 })
  | none => (none, { c with misses := c.misses + 1 })

/-- Stores a grammar, and answers the one that the key has now. -/
def put (key : CacheKey) (a : α) : α × Cache α :=
  match c.find? key with
  | some b => (b, { c with entries := c.renew key b })
  | none =>
    let entries := c.entries ++ [(key, a)]
    let excess := entries.length - c.most
    (a, { c with entries := entries.drop excess, evictions := c.evictions + excess })

/-- Forgets the grammars, but not how the cache was used. -/
def clear : Cache α := { c with entries := [] }

/-- The share of the lookups that found their key. -/
def hitRate : Binary :=
  if c.hits + c.misses = 0 then .zero
  else Format.binary64.round false c.hits (c.hits + c.misses)

/-- The grammar of a key, or the one that a compilation gives, which is stored. What fails is not
stored, but the lookup counts. -/
def getOrPut (key : CacheKey) (compile : Logged α) : Action (Cache α) α := do
  let (found, c) := (← get).lookup key
  set c
  match found with
  | some a => return a
  | none =>
    let a ← compile
    let (b, c) := (← get).put key a
    set c
    return b

/-- The grammar of a request. The engine is chosen before the source is made; a cache that is not
enabled compiles every time. -/
def getOrCompile (settings : Settings)
    (compile : Engine → Schema.Source → Vocabulary → Logged α)
    (input : Schema.Input) (v : Vocabulary) (indent : Option Int) (choice : EngineChoice) :
    Action (Cache α) α := do
  let engine ← (choice.resolve settings : Except Failure Engine)
  let source ← (input.source indent : Logged Schema.Source)
  if !(← get).isEnabled then compile engine source v
  else
    let key ← (CacheKey.of engine source v : Except Failure CacheKey)
    getOrPut key (compile engine source v)

/-! ## Laws -/

@[simp] theorem find?_empty (most : Int) (switch : Value) (key : CacheKey) :
    (empty most switch : Cache α).find? key = none := rfl

theorem lookup_fst (key : CacheKey) : (c.lookup key).1 = c.find? key := by
  unfold lookup
  cases h : c.find? key <;> rfl

theorem put_fst (key : CacheKey) (a : α) : (c.put key a).1 = (c.find? key).getD a := by
  unfold put
  cases h : c.find? key <;> rfl

end Cache

end GuidedJson
