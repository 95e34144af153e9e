import GuidedJson.Decoding.Scores
import GuidedJson.Grammar.Matcher

/-! # The hooks of a decoding loop

A loop tells a step when a prompt starts and which token was sampled, and has its scores masked.
What goes wrong in a hook is logged, and generation goes on, as far as it can be written down. A
rejected token stays in the output; the matcher starts again behind it.
-/

namespace GuidedJson.Decoding

/-- How many sampled tokens the grammar accepted, and how many it did not. -/
structure Counts where
  accepted : Nat := 0
  rejected : Nat := 0
deriving DecidableEq, Repr

/-- A prompt starts: the matcher goes back to the start. -/
def promptStart {β : Type} (m : Matcher β) : Logged (Matcher β) :=
  match m.reset with
  | .ok m => pure m
  | .error e => do
    Logged.error ("Matcher reset failed at prompt start: " ++ e.message)
    return m

section Masking

variable {α : Type}

/-- What masking gives: new scores, or the ones that came in. -/
inductive Masked (α : Type := Number.Binary) where
  | scores (s : Scores α)
  | untouched

/-- The scores after masking the ones that came in. -/
def Masked.over (s : Scores α) : Masked α → Scores α
  | .scores t => t
  | .untouched => s

/-- Scores stay as they are where there are no penalties for them. -/
def unmasked (e : Failure) : Logged (Masked α) := do
  Logged.error ("Token mask unavailable, leaving logits unconstrained: " ++ e.message)
  return .untouched

/-- The scores by a mask of the tokens of a table. -/
def maskedBy (a : Arithmetic α) (size : Nat) (mask : Mask) (s : Scores α) : Logged (Masked α) :=
  match a.penalty with
  | .error e => unmasked e
  | .ok penalty => do
    return .scores (← (s.penalize a (mask.penaltiesBy penalty size) : Except Failure (Scores α)))

/-- Masks scores of any type. The matcher's buffer is filled even where they cannot be masked. -/
def maskScores (a : Arithmetic α) (s : Scores α) (m : Matcher) : Logged (Masked α) × Matcher :=
  match m.fill with
  | .error e => (unmasked e, m)
  | .ok m => (maskedBy a m.grammar.vocabulary.size m.buffer s, m)

end Masking

/-- Masks scores of a floating-point type. -/
def process (type : FloatType) (s : Scores) (m : Matcher) : Logged Masked × Matcher :=
  maskScores type.arithmetic s m

theorem process_of_fill {type : FloatType} {s : Scores} {m n : Matcher} (h : m.fill = .ok n) :
    process type s m = (do return .scores (← (s.penalize type.arithmetic
      (n.buffer.penalties n.grammar.vocabulary.size) : Except Failure Scores)), n) := by
  rw [process, maskScores, h]
  rfl

/-- A token was sampled. A rejected one is counted first, then noted in the log, and only behind that
the matcher starts again. -/
def sampled {β : Type} (token : Value) (m : Matcher β) (c : Counts) :
    Logged Unit × Matcher β × Counts :=
  match token.toInteger with
  | .error fault => (failed fault.message, m, c)
  | .ok id =>
    match m.advance id with
    | .error e => (failed e.message, m, c)
    | .ok (true, m) => (pure (), m, { c with accepted := c.accepted + 1 })
    | .ok (false, m) =>
      let c := { c with rejected := c.rejected + 1 }
      match Text.writeInteger? id with
      | none => (failed (Text.tooManyDigits none), m, c)
      | some text =>
        (Logged.warning ("Token " ++ text ++ " rejected by grammar after " ++
          toString c.accepted ++ " accepted; resetting matcher"), m.reset.toOption.getD m, c)
where
  /-- The log shows the token, if it can be written. -/
  failed (message : String) : Logged Unit := do
    let text ← (Failure.written token.display? : Except Failure String)
    Logged.error ("Matcher update failed for token " ++ text ++ ": " ++ message)

/-- A step as a message shows it. -/
def describeStep (size : Nat) (c : Counts) : String :=
  "MaskedDecodingStep(vocab=" ++ toString size ++ ", accepted=" ++ toString c.accepted ++
    ", rejected=" ++ toString c.rejected ++ ")"

end GuidedJson.Decoding
