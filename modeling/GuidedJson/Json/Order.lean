import GuidedJson.Json.Mismatch

/-! # Order of values

Numbers, texts and arrays have an order; kinds that have none between them are a mismatch. Values
are sorted by inserting each into those before it at a place that is found by halving, after the
run that the list starts with. So of values without an order it is known which two are compared.
-/

namespace GuidedJson.Value

/-! ## Equality -/

mutual
/-- Equality of values as numbers, texts and collections: `1`, `1.0` and true are equal, and the
order of members does not count. What is no number equals itself. -/
def same : Value → Value → Bool
  | .null, .null => true
  | .float .nan, .float .nan => true
  | .string a, .string b => a == b
  | .array a, .array b => sameItems a b
  | .object a, .object b => a.length == b.length && sameMembers a b
  | a, b =>
    match a.numeric?, b.numeric? with
    | some x, some y => x.same y
    | _, _ => false

def sameItems : List Value → List Value → Bool
  | [], [] => true
  | a :: as, b :: bs => a.same b && sameItems as bs
  | _, _ => false

/-- Whether every member of the first list has an equal value in the second. -/
def sameMembers : List (String × Value) → List (String × Value) → Bool
  | [], _ => true
  | (k, a) :: as, bs =>
    (match lookup k bs with
      | some b => a.same b
      | none => false) && sameMembers as bs
end

/-! ## Comparison -/

/-- The order of two numbers; what is no number has none. -/
def orderNumbers (x y : Number.Binary) : Option Ordering :=
  if x.lt y then some .lt else if y.lt x then some .gt else if x.same y then some .eq else none

mutual
/-- The order of two values by an operator. Of two arrays the first unequal items decide, then
the lengths. -/
def order (operator : String) : Value → Value → Except Mismatch (Option Ordering)
  | .string a, .string b => .ok (some (compare a b))
  | .array a, .array b => orderItems operator a b
  | a, b =>
    match a.numeric?, b.numeric? with
    | some x, some y => .ok (orderNumbers x y)
    | _, _ => .error (.noOrder operator a.kindName b.kindName)

def orderItems (operator : String) : List Value → List Value → Except Mismatch (Option Ordering)
  | [], [] => .ok (some .eq)
  | [], _ :: _ => .ok (some .lt)
  | _ :: _, [] => .ok (some .gt)
  | a :: as, b :: bs => if a.same b then orderItems operator as bs else a.order operator b
end

/-- Whether one value exceeds another. -/
def exceeds (a b : Value) : Except Mismatch Bool :=
  (a.order ">" b).map (· == some .gt)

/-- Whether one value comes before another. -/
def precedes (a b : Value) : Except Mismatch Bool :=
  (a.order "<" b).map (· == some .lt)

/-- Whether one value is another or comes before it. -/
def isAtMost (a b : Value) : Except Mismatch Bool :=
  (a.order "<=" b).map fun o => o == some .lt || o == some .eq

/-! ## Sorting -/

/-- The values at the front of which each comes before the last one, or none does; they follow
`last`, and are found in reverse. -/
def runAfter (descending : Bool) (last : Value) (found : List Value) :
    List Value → Except Mismatch (List Value × List Value)
  | [] => .ok (found, [])
  | v :: vs => do
    if (← v.precedes last) == descending then runAfter descending v (v :: found) vs
    else return (found, v :: vs)

/-- The ascending form of the run that a list starts with, and what follows it. -/
def firstRun : List Value → Except Mismatch (List Value × List Value)
  | a :: b :: rest => do
    let descending ← b.precedes a
    let (run, rest) ← runAfter descending b [b, a] rest
    return (if descending then run else run.reverse, rest)
  | vs => .ok (vs, [])

/-- The place of a value among sorted ones, between two places, behind those that equal it. -/
def sortedPlace (v : Value) (sorted : Array Value) (low high : Nat) : Except Mismatch Nat :=
  if h : low < high then do
    let middle := low + (high - low) / 2
    if ← v.precedes (sorted.getD middle .null) then sortedPlace v sorted low middle
    else sortedPlace v sorted (middle + 1) high
  else .ok low
termination_by high - low
decreasing_by all_goals omega

/-- Values in ascending order, equal ones in the order given. -/
def sorted (vs : List Value) : Except Mismatch (List Value) := do
  let (run, rest) ← firstRun vs
  let all ← rest.foldlM (fun found v => do
    let place ← sortedPlace v found 0 found.size
    return found.insertIdxIfInBounds place v) run.toArray
  return all.toList

end GuidedJson.Value
