import GuidedJson.Pattern.Syntax

/-! # Regular expressions

The operations that automata are made of. The language of an expression is `Regex.Matches`. A
pattern becomes an expression once the modes of its groups are settled: a part that looks ahead
cuts what follows it down, and a look past the end of the pattern makes room for the characters it
needs.
-/

namespace GuidedJson.Pattern

inductive Regex where
  | chars (set : CharSet)
  /-- Parts one after the other. -/
  | chain (parts : List Regex)
  | choice (options : List Regex)
  /-- Copies of a part, and then so many more at most; without a bound, any number more. -/
  | repeated (part : Regex) (least : Nat) (more : Option Nat)
  | both (left right : Regex)
  | without (left right : Regex)

namespace Regex

/-! ## Languages -/

mutual
/-- The texts of an expression. -/
def Matches : Regex → List Char → Prop
  | .chars s, w => ∃ c, c ∈ s ∧ w = [c]
  | .chain parts, w => MatchesChain parts w
  | .choice options, w => MatchesSome options w
  | .repeated r least more, w =>
    ∃ parts : List (List Char), least ≤ parts.length ∧ (∀ n ∈ more, parts.length ≤ least + n) ∧
      (∀ u ∈ parts, r.Matches u) ∧ w = parts.flatten
  | .both r s, w => r.Matches w ∧ s.Matches w
  | .without r s, w => r.Matches w ∧ ¬ s.Matches w

/-- The texts of expressions one after the other. -/
def MatchesChain : List Regex → List Char → Prop
  | [], w => w = []
  | r :: rs, w => ∃ u v, w = u ++ v ∧ r.Matches u ∧ MatchesChain rs v

/-- The texts of one of several expressions. -/
def MatchesSome : List Regex → List Char → Prop
  | [], _ => False
  | r :: rs, w => r.Matches w ∨ MatchesSome rs w
end

/-! ## Lengths -/

/-- The larger of two bounds; none is no bound. -/
def maxBound : Option Nat → Option Nat → Option Nat
  | some m, some n => some (max m n)
  | _, _ => none

mutual
/-- The least and the greatest number of characters that a pattern reads. -/
def lengths : Syntax → Nat × Option Nat
  | .missing | .modes _ => (0, some 0)
  | .chars _ | .anyChar => (1, some 1)
  | .sequence parts => lengthsOfParts parts
  | .group _ _ options => lengthsOfOptions options
  | .repeated part least most =>
    let (low, high) := lengths part
    (low * least, do return (← high) * (← most))
  | .look .. => (0, some 0)

def lengthsOfParts : List Syntax → Nat × Option Nat
  | [] => (0, some 0)
  | p :: ps =>
    let (low, high) := lengths p
    let (lows, highs) := lengthsOfParts ps
    (low + lows, do return (← high) + (← highs))

def lengthsOfOptions : List Syntax → Nat × Option Nat
  | [] => (0, some 0)
  | [p] => lengths p
  | p :: ps =>
    let (low, high) := lengths p
    let (lows, highs) := lengthsOfOptions ps
    (min low lows, maxBound high highs)
end

/-! ## Room for looking around -/

/-- How many characters before the parts the looks behind need; `done` is the least length of the
parts so far. They must look back by a fixed length. -/
def roomBefore (done : Nat) : List Syntax → Except PatternFault Nat
  | [] => .ok 0
  | .look behind _ part :: ps =>
    if behind then
      match lengths part with
      | (low, some high) =>
        if low = high then (roomBefore done ps).map (max (low - done))
        else .error (.behindLength low (some high))
      | (low, none) => .error (.behindLength low none)
    else roomBefore done ps
  | p :: ps => roomBefore (done + (lengths p).1) ps

/-- How many characters after the parts the looks ahead need. -/
def roomAfter : List Syntax → Nat
  | [] => 0
  | .look false _ part :: ps =>
    let (low, high) := lengths part
    max (high.getD low - (lengthsOfParts ps).1) (roomAfter ps)
  | _ :: ps => roomAfter ps

mutual
/-- The characters that a pattern needs before and after it. -/
def room : Syntax → Except PatternFault (Nat × Nat)
  | .sequence parts => do
    let before ← roomBefore 0 parts
    return (before, roomAfter parts)
  | .group _ _ options => roomOfOptions options
  | .repeated part _ _ => room part
  | _ => .ok (0, 0)

def roomOfOptions : List Syntax → Except PatternFault (Nat × Nat)
  | [] => .ok (0, 0)
  | p :: ps => do
    let (a, b) ← room p
    let (as, bs) ← roomOfOptions ps
    return (max a as, max b bs)
end

/-! ## From patterns -/

/-- Every character but the end of a line. -/
def anyChar : CharSet := (CharSet.single '\n').compl

/-- Parts one after the other; a single part stands for itself. -/
def joined : List Regex → Regex
  | [r] => r
  | rs => .chain rs

/-- One of several options; a single option stands for itself. -/
def oneOf : List Regex → Regex
  | [r] => r
  | rs => .choice rs

/-- So many characters, if any. -/
def padding : Nat → List Regex
  | 0 => []
  | n => [.repeated (.chars .all) n (some 0)]

/-- A repetition between two bounds; the upper one must not be below the lower. -/
def between (r : Regex) (least : Nat) : Option Nat → Except PatternFault Regex
  | none => .ok (.repeated r least none)
  | some most =>
    if most < least then .error (.multiply ((most : Int) - least))
    else .ok (.repeated r least (some (most - least)))

/-- What may follow a place where a text is looked at: it starts with one of the texts of `r`, or
with none of them. -/
def lookedAt (negated : Bool) (r : Regex) (following : List Regex) : Regex :=
  let seen := .chain [r, .repeated (.chars .all) 0 none]
  if negated then .without (joined following) seen else .both (joined following) seen

mutual
/-- The expression of a pattern in some modes, with room for looking around. The first fault from
the left counts, those of inner parts first. -/
def ofSyntax (modes : Modes) (space : Nat × Nat) : Syntax → Except PatternFault Regex
  | .missing => .error .missing
  | .modes _ => .ok (.chain [])
  | .chars k =>
    if modes.multiline then .error (.unsupported .multiline)
    else .ok (.chars (k.set modes.ignoreCase))
  | .anyChar => .ok (.chars (if modes.dotAll then .all else anyChar))
  | .sequence parts => do
    let (before, behind) ← room (.sequence parts)
    if space.1 < before || space.2 < behind then .error (.unsupported .outside)
    else
      let rs ← ofParts modes (padding space.2) parts
      return joined (padding space.1 ++ rs)
  | .group on off options => (ofOptions (modes.enter on off) space options).map oneOf
  | .repeated part least most => do
    let r ← ofSyntax modes (0, 0) part
    r.between least most
  | .look _ _ part => ofSyntax modes (0, 0) part

/-- Parts one after the other, before `last`. -/
def ofParts (modes : Modes) (last : List Regex) : List Syntax → Except PatternFault (List Regex)
  | [] => .ok last
  | .look behind negated part :: ps => do
    let r ← ofSyntax modes (0, 0) part
    if behind then .error (.unsupported .behind)
    else
      let rs ← ofParts modes last ps
      return [lookedAt negated r rs]
  | p :: ps => do
    let r ← ofSyntax modes (0, 0) p
    let rs ← ofParts modes last ps
    return r :: rs

def ofOptions (modes : Modes) (space : Nat × Nat) :
    List Syntax → Except PatternFault (List Regex)
  | [] => .ok []
  | p :: ps => do
    let r ← ofSyntax modes space p
    let rs ← ofOptions modes space ps
    return r :: rs
end

mutual
/-- Whether something stands for nothing at all. -/
def hasMissing : Syntax → Bool
  | .missing => true
  | .sequence parts => hasMissingPart parts
  | .group _ _ options => hasMissingPart options
  | .repeated part _ _ => hasMissing part
  | .look _ _ part => hasMissing part
  | .modes _ | .chars _ | .anyChar => false

def hasMissingPart : List Syntax → Bool
  | [] => false
  | p :: ps => hasMissing p || hasMissingPart ps
end

/-- The expression that a text spells. -/
def read (text : String) : Except PatternFault Regex := do
  let p ← Syntax.read text
  if hasMissing p then .error .missing
  else ofSyntax .none (← room p) p

/-! ## Laws -/

section Laws

variable {r s : Regex} {rs : List Regex} {w : List Char}

theorem matches_chars {s : CharSet} : Matches (.chars s) w ↔ ∃ c, c ∈ s ∧ w = [c] := Iff.rfl

theorem matches_chain_nil : Matches (.chain []) w ↔ w = [] := Iff.rfl

theorem matches_chain_cons :
    Matches (.chain (r :: rs)) w ↔ ∃ u v, w = u ++ v ∧ Matches r u ∧ Matches (.chain rs) v :=
  Iff.rfl

theorem matches_choice_nil : ¬ Matches (.choice []) w := id

theorem matches_choice_cons :
    Matches (.choice (r :: rs)) w ↔ Matches r w ∨ Matches (.choice rs) w :=
  Iff.rfl

theorem matches_choice : Matches (.choice rs) w ↔ ∃ r ∈ rs, Matches r w := by
  induction rs with
  | nil => simp [matches_choice_nil]
  | cons r rs ih => simp [matches_choice_cons, ih]

theorem matches_both : Matches (.both r s) w ↔ Matches r w ∧ Matches s w := Iff.rfl

theorem matches_without : Matches (.without r s) w ↔ Matches r w ∧ ¬ Matches s w := Iff.rfl

theorem matches_chain_singleton : Matches (.chain [r]) w ↔ Matches r w := by
  simp [matches_chain_cons, matches_chain_nil]

theorem matches_choice_singleton : Matches (.choice [r]) w ↔ Matches r w := by
  simp [matches_choice]

theorem matches_joined : Matches (joined rs) w ↔ Matches (.chain rs) w := by
  match rs with
  | [] => rfl
  | [_] => exact matches_chain_singleton.symm
  | _ :: _ :: _ => rfl

theorem matches_oneOf : Matches (oneOf rs) w ↔ Matches (.choice rs) w := by
  match rs with
  | [] => rfl
  | [_] => exact matches_choice_singleton.symm
  | _ :: _ :: _ => rfl

end Laws

end Regex

end GuidedJson.Pattern
