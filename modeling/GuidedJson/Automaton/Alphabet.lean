import GuidedJson.Pattern.Regex
import Std.Data.HashMap

/-! # Symbol classes

An automaton need not tell symbols apart that lie in the same sets of its expression. The symbols
are cut into segments where some set begins or ends, and segments that lie in the same sets are one
class.
-/

namespace GuidedJson.Automaton

open Pattern (CharSet Regex)
open Std (HashMap)

/-! ## The sets of an expression -/

mutual
/-- The sets of an expression, before those found so far. -/
def setsOf : Regex → List CharSet → List CharSet
  | .chars s, found => s :: found
  | .chain parts, found => setsOfAll parts found
  | .choice options, found => setsOfAll options found
  | .repeated r _ _, found => setsOf r found
  | .both r s, found => setsOf r (setsOf s found)
  | .without r s, found => setsOf r (setsOf s found)

def setsOfAll : List Regex → List CharSet → List CharSet
  | [], found => found
  | r :: rs, found => setsOf r (setsOfAll rs found)
end

/-- The items of a list, each once. -/
def distinct {α : Type} [BEq α] [Hashable α] (items : List α) : List α :=
  (items.foldl (fun seen a => seen.insert a ()) (∅ : HashMap α Unit)).keys

/-! ## Segments -/

/-- Segments of symbols in ascending order, with the first symbol and the class of each, and a
symbol of every class. -/
structure Alphabet where
  starts : Array Nat
  classes : Array Nat
  samples : Array Nat
deriving Repr

namespace Alphabet

/-- Where the segments of some sets begin. -/
def boundaries (sets : List CharSet) : List Nat :=
  let ends := sets.flatMap fun s => s.ranges.flatMap fun (a, b) => [a, b + 1]
  (distinct (0 :: Pattern.otherSymbol :: ends)).mergeSort (· ≤ ·)

/-- Adds a segment; it joins the class of the segments that lie in the same sets. -/
def addSegment (sets : List CharSet) :
    Alphabet × HashMap (List Bool) Nat → Nat → Alphabet × HashMap (List Bool) Nat
  | (a, known), start =>
    let signature := sets.map (·.has start)
    match known[signature]? with
    | some k => ({ a with starts := a.starts.push start, classes := a.classes.push k }, known)
    | none =>
      (⟨a.starts.push start, a.classes.push a.samples.size, a.samples.push start⟩,
        known.insert signature a.samples.size)

def ofSets (sets : List CharSet) : Alphabet :=
  let sets := distinct sets
  ((boundaries sets).foldl (addSegment sets) (⟨#[], #[], #[]⟩, ∅)).1

/-- The classes of an expression's symbols. -/
def ofRegex (r : Regex) : Alphabet := ofSets (setsOf r [])

variable (a : Alphabet)

/-- The number of classes. -/
def size : Nat := a.samples.size

/-- The last segment that does not start behind a symbol, by halving the range between `lo` and
`hi`. -/
def segmentBetween (n : Nat) : (fuel lo hi : Nat) → Nat
  | 0, lo, _ => lo
  | fuel + 1, lo, hi =>
    if lo + 1 < hi then
      let mid := (lo + hi) / 2
      if a.starts.getD mid 0 ≤ n then segmentBetween n fuel mid hi
      else segmentBetween n fuel lo mid
    else lo

/-- The segment that a symbol lies in. -/
def segment (n : Nat) : Nat := a.segmentBetween n a.starts.size 0 a.starts.size

/-- The class of a symbol. -/
def classOf (n : Nat) : Nat := a.classes.getD (a.segment n) 0

/-- The classes of the symbols between two symbols. -/
def classesBetween (low high : Nat) : List Nat :=
  let first := a.segment low
  (List.range (a.segment high + 1 - first)).map fun i => a.classes.getD (first + i) 0

end Alphabet

end GuidedJson.Automaton
