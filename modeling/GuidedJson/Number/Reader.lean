import GuidedJson.Number.Binary
import GuidedJson.Text.Integer

/-! # Reading numbers

A number is an optional sign, digits of any script with a point among them or not, and an optional
power of ten; single underscores may stand between digits and blanks around the whole. Infinity and
what is no number have names.
-/

namespace GuidedJson.Number

/-- The value of the digits at the front, how many they are, and what follows them. -/
def digitRun (value count : Nat) : List Char → Nat × Nat × List Char
  | [] => (value, count, [])
  | '_' :: c :: rest =>
    match Text.digitValue? c with
    | some d =>
      if count = 0 then (value, count, '_' :: c :: rest)
      else digitRun (10 * value + d) (count + 1) rest
    | none => (value, count, '_' :: c :: rest)
  | c :: rest =>
    match Text.digitValue? c with
    | some d => digitRun (10 * value + d) (count + 1) rest
    | none => (value, count, c :: rest)

/-- The digits behind a point, if there is one. -/
def fractionRun : List Char → Nat × Nat × List Char
  | '.' :: rest => digitRun 0 0 rest
  | rest => (0, 0, rest)

/-- The power of ten that a number ends with; none where something else follows. -/
def exponentEnd? : List Char → Option Int
  | [] => some 0
  | c :: rest =>
    if c = 'e' || c = 'E' then
      let (negative, digits) := match rest with
        | '-' :: ds => (true, ds)
        | '+' :: ds => (false, ds)
        | ds => (false, ds)
      match digitRun 0 0 digits with
      | (n, _ + 1, []) => some (if negative then -(n : Int) else n)
      | _ => none
    else none

/-- A number without its sign. -/
def unsigned? (negative : Bool) (cs : List Char) : Option Binary :=
  match String.ofList (cs.map Char.toLower) with
  | "inf" | "infinity" => some (.infinite negative)
  | "nan" => some .nan
  | _ =>
    let (whole, m, rest) := digitRun 0 0 cs
    let (fraction, n, rest) := fractionRun rest
    if m + n = 0 then none
    else (exponentEnd? rest).map fun e =>
      Binary.ofDecimal negative (whole * Nat.pow 10 n + fraction) (e - n)

/-- The number that a text spells. -/
def read? (s : String) : Option Binary :=
  match Text.trimNumber s.toList with
  | '-' :: rest => unsigned? true rest
  | '+' :: rest => unsigned? false rest
  | cs => unsigned? false cs

end GuidedJson.Number
