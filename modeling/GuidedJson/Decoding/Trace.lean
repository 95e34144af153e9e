import GuidedJson.Decoding.Step

/-! # Traces

A trace feeds tokens to a fresh matcher, one after the other, and notes of each what the mask said
before it and what became of it. A text that is no token is noted and passed over; behind a
rejected token the matcher starts again.
-/

namespace GuidedJson.Decoding

structure TraceRow where
  token : String
  id : Option Nat
  allowed : Nat
  permitted : Bool
  accepted : Bool
  canTerminate : Bool
deriving DecidableEq, Repr

namespace TraceRow

/-- How many tokens a mask allows. -/
def allowedCount (m : Matcher) : Nat :=
  ((List.range m.grammar.vocabulary.size).filter m.mask.test).length

/-- The row of a token, and what follows it. -/
def ofToken (token : String) (m : Matcher) (c : Counts) : Logged (TraceRow × Matcher × Counts) := do
  let allowed := allowedCount m
  match m.grammar.vocabulary.tokenId? token with
  | none =>
    let canTerminate ← (m.canTerminate : Except Failure Bool)
    return (⟨token, none, allowed, false, false, canTerminate⟩, m, c)
  | some id =>
    let (told, n, d) := sampled (.int id) m c
    told
    let canTerminate ← (n.canTerminate : Except Failure Bool)
    return (⟨token, some id, allowed, m.mask.test id, d.rejected == c.rejected, canTerminate⟩, n, d)

/-- The rows of tokens. -/
def ofTokens : List String → Matcher → Counts → Logged (List TraceRow)
  | [], _, _ => return []
  | t :: ts, m, c => do
    let (row, m, c) ← ofToken t m c
    return row :: (← ofTokens ts m c)

end TraceRow

/-- The trace of tokens over a grammar. -/
def trace (g : Grammar) (tokens : List String) : Logged (List TraceRow) := do
  let m ← promptStart (.fresh g .position)
  TraceRow.ofTokens tokens m {}

/-- Whether a trace is reported as a complete match: a text may stop behind its last row. -/
def isComplete (rows : List TraceRow) : Bool := rows.getLast?.any (·.canTerminate)

end GuidedJson.Decoding
