import Std.Data.HashMap

/-! # Transition tables

A deterministic automaton over numbered symbol classes. Its states are numbered from zero, which
is the start; where no text can go on by a class there is no next state. A table is made by
following any system of states from its start and numbering what is found.
-/

namespace GuidedJson.Automaton

open Std (HashMap)

/-- The next states by class, for every state, and the states where a text may end. -/
structure Table where
  rows : Array (Array (Option Nat))
  finals : Array Bool
deriving Repr

namespace Table

variable (t : Table)

def size : Nat := t.rows.size

/-- The state after a class of symbols. -/
def next (s k : Nat) : Option Nat := (t.rows.getD s #[]).getD k none

/-- Whether a text may end in a state. -/
def final (s : Nat) : Bool := t.finals.getD s false

/-- The state after classes one after the other. -/
def run (s : Nat) : List Nat → Option Nat
  | [] => some s
  | k :: ks => (t.next s k).bind fun q => run q ks

end Table

/-! ## Exploring -/

/-- States of any kind, with where they lead. -/
structure System (σ : Type) where
  start : σ
  next : σ → Nat → Option σ
  final : σ → Bool

/-- States with their numbers. -/
structure Numbering (σ : Type) [BEq σ] [Hashable σ] where
  states : Array σ
  numbers : HashMap σ Nat

namespace Numbering

variable {σ : Type} [BEq σ] [Hashable σ]

/-- The number of a state, which is added if it is new. -/
def number (n : Numbering σ) (s : σ) : Nat × Numbering σ :=
  match n.numbers[s]? with
  | some i => (i, n)
  | none =>
    let i := n.states.size
    (i, ⟨n.states.push s, n.numbers.insert s i⟩)

def ofStart (s : σ) : Numbering σ := ⟨#[s], (∅ : HashMap σ Nat).insert s 0⟩

end Numbering

namespace System

variable {σ : Type} [BEq σ] [Hashable σ] (sys : System σ)

/-- Adds the next states of a state to a row, for some classes. -/
def row (s : σ) : List Nat → Array (Option Nat) → Numbering σ → Array (Option Nat) × Numbering σ
  | [], done, n => (done, n)
  | k :: ks, done, n =>
    match sys.next s k with
    | none => row s ks (done.push none) n
    | some q =>
      let (i, n) := n.number q
      row s ks (done.push (some i)) n

/-- Adds the rows of the states that have none. Each step adds one, so the number of states bounds
the steps. -/
def rows (classes : List Nat) :
    (fuel : Nat) → Array (Array (Option Nat)) → Numbering σ →
      Array (Array (Option Nat)) × Numbering σ
  | 0, done, n => (done, n)
  | fuel + 1, done, n =>
    match n.states[done.size]? with
    | none => (done, n)
    | some s =>
      let (r, n) := sys.row s classes #[] n
      rows classes fuel (done.push r) n

/-- The table of a system that has no more states than the bound. -/
def table (classes bound : Nat) : Table :=
  let (rows, n) := sys.rows (List.range classes) (bound + 1) #[] (.ofStart sys.start)
  ⟨rows, n.states.map sys.final⟩

end System

/-! ## Two tables at once -/

/-- Where two automata stand that read the same text; one that cannot go on stands nowhere. -/
abbrev Pair := Option Nat × Option Nat

namespace Table

def nextOf (t : Table) (s : Option Nat) (k : Nat) : Option Nat := s.bind (t.next · k)

/-- Whether an automaton stands where a text may end. -/
def finalAt (t : Table) (s : Option Nat) : Bool := s.any t.final

/-- Two automata side by side until neither can go on. A text may end by what `test` says of the
two. -/
def side (t u : Table) (test : Bool → Bool → Bool) : System Pair where
  start := (some 0, some 0)
  next s k :=
    match t.nextOf s.1 k, u.nextOf s.2 k with
    | none, none => none
    | p, q => some (p, q)
  final s := test (t.finalAt s.1) (u.finalAt s.2)

/-- The texts of which `test` holds in two automata. -/
def combine (classes : Nat) (test : Bool → Bool → Bool) (t u : Table) : Table :=
  (t.side u test).table classes ((t.size + 1) * (u.size + 1))

end Table

end GuidedJson.Automaton
