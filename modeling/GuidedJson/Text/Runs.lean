/-! # Runs of code points

Classes of characters are kept as runs: the first and the last code point of each, in ascending
order.
-/

namespace GuidedJson.Text

/-- Membership in ascending runs, by halving the range between `lo` and `hi`. -/
def inRunsBetween (runs : Array (Nat × Nat)) (n : Nat) : (fuel lo hi : Nat) → Bool
  | 0, _, _ => false
  | fuel + 1, lo, hi =>
    if lo < hi then
      let mid := (lo + hi) / 2
      match runs[mid]? with
      | none => false
      | some (a, b) =>
        if n < a then inRunsBetween runs n fuel lo mid
        else if b < n then inRunsBetween runs n fuel (mid + 1) hi
        else true
    else false

/-- Whether a code point lies in one of the ascending runs. -/
def inRuns (runs : Array (Nat × Nat)) (n : Nat) : Bool :=
  inRunsBetween runs n (runs.size + 1) 0 runs.size

end GuidedJson.Text
