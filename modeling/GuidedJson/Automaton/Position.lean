import GuidedJson.Automaton.Machine
import GuidedJson.Text.Utf8

/-! # Walking octets

Tokens put out octets, the automaton reads characters. A position is a state and the octets of a
character that is not whole yet. An octet is rejected as soon as no continuation of it can be
matched: it breaks UTF-8, the character it ends leads nowhere, or no character that starts with
the octets so far leads anywhere.
-/

namespace GuidedJson.Automaton

open Text

/-- A state and the octets read of the next character. -/
structure Position where
  state : Nat
  pending : List UInt8
deriving DecidableEq, Hashable, Repr

namespace Machine

/-- The position at the start. -/
def origin : Position := ⟨start, []⟩

/-- Whether a text may end at a position. -/
def finalAt (m : Machine) (p : Position) : Bool := p.pending.isEmpty && m.final p.state

/-- The position after one octet. -/
def consume (m : Machine) (p : Position) (b : UInt8) : Option Position :=
  let octets := p.pending ++ [b]
  match Utf8.read octets with
  | .invalid => none
  | .incomplete part =>
    let (low, high) := part.span
    if m.canRead p.state low high then some ⟨p.state, octets⟩ else none
  | .text cs => (m.run p.state cs).map (⟨·, []⟩)

/-- The position after octets, none if one of them is rejected. -/
def walk (m : Machine) : Position → List UInt8 → Option Position
  | p, [] => some p
  | p, b :: bs =>
    match m.consume p b with
    | some q => m.walk q bs
    | none => none

/-- How many octets are consumed before the first rejected one, and the position there. -/
def progress (m : Machine) : Position → List UInt8 → Nat × Position
  | p, [] => (0, p)
  | p, b :: bs =>
    match m.consume p b with
    | some q => let (n, r) := m.progress q bs; (n + 1, r)
    | none => (0, p)

/-! ## Laws -/

@[simp] theorem walk_nil (m : Machine) (p : Position) : m.walk p [] = some p := rfl

theorem walk_append (m : Machine) (p : Position) (a b : List UInt8) :
    m.walk p (a ++ b) = (m.walk p a).bind fun q => m.walk q b := by
  induction a generalizing p with
  | nil => rfl
  | cons x a ih =>
    show (match m.consume p x with
      | some q => m.walk q (a ++ b)
      | none => none) = _
    cases h : m.consume p x with
    | none => simp [walk, h]
    | some q => simp [walk, h, ih]

end Machine

end GuidedJson.Automaton
