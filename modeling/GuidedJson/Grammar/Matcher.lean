import GuidedJson.Grammar.Basic

/-! # Matchers

A matcher walks a grammar for one generation. It owns a buffer that every fill overwrites, and it
can be closed, after which it refuses everything. There are two ways to ask whether a text may
stop here: of the position, or of the stop tokens in the mask.

Where matchers share tensors, the buffer is a handle; here it is the mask itself. Whatever does not
touch the buffer is one definition for both.
-/

namespace GuidedJson

open Automaton (Machine Position)

/-- What is asked when it is asked whether a text may stop. -/
inductive StopCheck where
  | position
  | mask
deriving DecidableEq, Repr

/-- The owner that a closed matcher names. -/
def StopCheck.owner : StopCheck → String
  | .position => "FSMGrammarMatcher"
  | .mask => "BitmaskOnlyMatcher"

structure Matcher (β : Type := Mask) where
  grammar : Grammar
  stopCheck : StopCheck
  position : Position
  terminated : Bool
  buffer : β
  closed : Bool

namespace Matcher

section Positions

variable {β : Type}

variable (m : Matcher β)

/-- The matcher with another buffer. -/
def withBuffer {γ : Type} (b : γ) : Matcher γ := { m with buffer := b }

def guardOpen : Except Failure Unit :=
  if m.closed then .error (.closed m.stopCheck.owner) else .ok ()

/-- The matcher after a token that is accepted. -/
def accept? (id : Int) : Option (Matcher β) :=
  if m.terminated || !Vocabulary.inTable m.grammar.vocabulary.size id then none
  else
    let i := id.toNat
    if m.grammar.vocabulary.isStop i then
      if m.grammar.machine.finalAt m.position then some { m with terminated := true } else none
    else if (m.grammar.vocabulary.octets i).isEmpty then none
    else
      match m.grammar.machine.walk m.position (m.grammar.vocabulary.octets i) with
      | some q => if m.grammar.isProductive q then some { m with position := q } else none
      | none => none

/-- Whether a token is accepted; a rejected one changes nothing. -/
def advance (id : Int) : Except Failure (Bool × Matcher β) := do
  m.guardOpen
  match m.accept? id with
  | some n => return (true, n)
  | none => return (false, m)

/-- Back to the start. -/
def reset : Except Failure (Matcher β) := do
  m.guardOpen
  return { m with position := Machine.origin, terminated := false }

def isTerminated : Except Failure Bool := do
  m.guardOpen
  return m.terminated

/-- Closing twice is closing once. -/
def close : Matcher β := { m with closed := true }

/-- Advances by tokens one after the other. -/
def advanceAll : Matcher β → List Int → Except Failure (List Bool × Matcher β)
  | m, [] => .ok ([], m)
  | m, id :: ids => do
    let (b, m) ← m.advance id
    let (bs, m) ← advanceAll m ids
    return (b :: bs, m)

/-- The tokens that are allowed now: only stop tokens once one was accepted. -/
def mask : Mask := if m.terminated then m.grammar.stopMask else m.grammar.maskAt m.position

/-- Whether some stop token is in the mask. -/
def stopAllowed : Bool := m.grammar.vocabulary.stop.any m.mask.test

/-- Whether a text may stop at the position, or a stop token was accepted. -/
def isFinal : Bool := m.terminated || m.grammar.machine.finalAt m.position

end Positions

/-! ## The buffer -/

/-- A matcher at the start; everything is set in its buffer. -/
def fresh (g : Grammar) (stopCheck : StopCheck) : Matcher :=
  { grammar := g, stopCheck, position := Machine.origin, terminated := false
    buffer := Mask.full g.vocabulary.words, closed := false }

variable (m : Matcher)

/-- Overwrites the buffer with the mask. -/
def fill : Except Failure Matcher := do
  m.guardOpen
  return { m with buffer := m.mask }

/-- Whether a text may stop. The buffer stays as it is: a matcher over tensors fills one of its own to
look for stop tokens (`Decoding.Workspace.canTerminate`). -/
def canTerminate : Except Failure Bool := do
  m.guardOpen
  return match m.stopCheck with
    | .position => m.isFinal
    | .mask => m.stopAllowed

/-! ## Laws -/

section Closed

variable {β : Type} {m : Matcher β} (h : m.closed = true)
include h

theorem guardOpen_of_closed : m.guardOpen = .error (.closed m.stopCheck.owner) := by
  rw [guardOpen, h]
  rfl

theorem advance_of_closed (id : Int) : m.advance id = .error (.closed m.stopCheck.owner) := by
  rw [advance, guardOpen_of_closed h]
  rfl

end Closed

theorem fill_of_closed {m : Matcher} (h : m.closed = true) :
    m.fill = .error (.closed m.stopCheck.owner) := by
  rw [fill, guardOpen_of_closed h]
  rfl

section Open

variable {β : Type} {m : Matcher β} (h : m.closed = false)
include h

theorem guardOpen_of_open : m.guardOpen = .ok () := by
  rw [guardOpen, h]
  rfl

/-- An open matcher answers about every token. -/
theorem advance_of_open (id : Int) :
    m.advance id = .ok (match m.accept? id with
      | some n => (true, n)
      | none => (false, m)) := by
  rw [advance, guardOpen_of_open h]
  cases m.accept? id <;> rfl

theorem reset_of_open :
    m.reset = .ok { m with position := Machine.origin, terminated := false } := by
  rw [reset, guardOpen_of_open h]
  rfl

theorem isTerminated_of_open : m.isTerminated = .ok m.terminated := by
  rw [isTerminated, guardOpen_of_open h]
  rfl

end Open

section Buffer

variable {m : Matcher} (h : m.closed = false)
include h

theorem fill_of_open : m.fill = .ok { m with buffer := m.mask } := by
  rw [fill, guardOpen_of_open h]
  rfl

theorem canTerminate_of_open : m.canTerminate = .ok (match m.stopCheck with
    | .position => m.terminated || m.grammar.machine.finalAt m.position
    | .mask => m.stopAllowed) := by
  rw [canTerminate, guardOpen_of_open h]
  rfl

end Buffer

end Matcher

end GuidedJson
