import GuidedJson.Action
import GuidedJson.Decoding.Step
import GuidedJson.Mask.Store

/-! # Requests over one grammar

The matchers of a grammar and what drives them, by number: steps, which count the sampled tokens of
a matcher; sessions, which own a matcher and its step; and processors, which feed the rows of a
batch to one step each. Several of them may share a matcher.

All matchers read the tensors in which the masks of the grammar lie, and copy them into tensors of
their own. A matcher hands out the handle of its buffer, and whoever has it can write there.
-/

namespace GuidedJson.Decoding

open Automaton (Position)

/-- The tensors of the masks of a grammar: that of the stop tokens, and those of the positions. -/
structure SharedMasks where
  stop : Handle
  positions : Std.HashMap Position Handle

/-- The tensors of a matcher: its buffer, and the one in which it looks for stop tokens, as soon as
it needs that. -/
structure Tensors where
  handle : Handle
  scratch : Option Handle

/-- A step over a matcher. -/
structure Step where
  matcher : Nat
  counts : Counts

/-- A session owns a matcher and a step. -/
structure Session where
  matcher : Nat
  step : Nat
  closed : Bool

/-- A processor over the steps of the rows; the columns of the batch that it has seen. -/
structure Processor where
  steps : List Nat
  processed : Option Nat

structure Workspace where
  grammar : Grammar
  store : Store
  shared : SharedMasks
  matchers : Array (Matcher Tensors) := #[]
  steps : Array Step := #[]
  sessions : Array Session := #[]
  processors : Array Processor := #[]

/-- An operation on a workspace. -/
abbrev Request := Action Workspace

namespace Workspace

/-- The masks of a grammar, each in a tensor, and nothing else. -/
def ofGrammar (g : Grammar) : Workspace where
  grammar := g
  store := ⟨(g.stopMask :: g.masks.toList.map Prod.snd).toArray⟩
  shared := {
    stop := ⟨0⟩
    positions := .ofList (g.masks.toList.zipIdx.map fun x => (x.1.1, ⟨x.2 + 1⟩)) }

/-- The item of a number. -/
def item {α : Type} (items : Array α) (i : Nat) : Except Failure α :=
  match items[i]? with
  | some a => .ok a
  | none => .error (.index "list index out of range")

def matcher (i : Nat) : Request (Matcher Tensors) := do item (← get).matchers i

def step (i : Nat) : Request Step := do item (← get).steps i

def session (i : Nat) : Request Session := do item (← get).sessions i

def processor (i : Nat) : Request Processor := do item (← get).processors i

def putMatcher (i : Nat) (m : Matcher Tensors) : Request Unit :=
  modify fun w => { w with matchers := w.matchers.setIfInBounds i m }

def putStep (i : Nat) (s : Step) : Request Unit :=
  modify fun w => { w with steps := w.steps.setIfInBounds i s }

/-! ## Tensors -/

/-- A new tensor with words in it. -/
def allocate (m : Mask) : Request Handle := do
  let w ← get
  set { w with store := w.store.allocate m }
  return w.store.next

/-- The words of a tensor. -/
def read (h : Handle) : Request Mask := do item (← get).store.tensors h.number

def write (h : Handle) (m : Mask) : Request Unit :=
  modify fun w => { w with store := w.store.write h m }

/-- Changes the words of a tensor from outside. -/
def overwrite (h : Handle) (f : Mask → Mask) : Request Unit := do write h (f (← read h))

/-- Clears a tensor from outside. -/
def clear (h : Handle) : Request Unit := overwrite h fun k => Mask.clear k.size

/-- The tensor in which the mask of a matcher lies: only stop tokens are allowed once one was
accepted. -/
def source? (w : Workspace) (m : Matcher Tensors) : Option Handle :=
  if m.terminated then some w.shared.stop else w.shared.positions[m.position]?

/-- Copies the mask of a matcher into a tensor. Nothing is allowed at a position without a mask. -/
def copyMask (m : Matcher Tensors) (h : Handle) : Request Unit := do
  match (← get).source? m with
  | some source => write h (← read source)
  | none => write h (Mask.clear m.grammar.vocabulary.words)

/-! ## Making new ones -/

/-- A new matcher with a buffer of its own, and its number. -/
def newMatcher (stopCheck : StopCheck) : Request Nat := do
  let m := Matcher.fresh (← get).grammar stopCheck
  let h ← allocate m.buffer
  let w ← get
  set { w with matchers := w.matchers.push (m.withBuffer ⟨h, none⟩) }
  return w.matchers.size

/-- A new step over a matcher. -/
def newStep (m : Nat) : Request Nat := do
  let _ ← matcher m
  let w ← get
  set { w with steps := w.steps.push ⟨m, {}⟩ }
  return w.steps.size

/-- A new session with a matcher and a step of its own: the three numbers. -/
def newSession : Request (Nat × Nat × Nat) := do
  let m ← newMatcher .position
  let k ← newStep m
  let w ← get
  set { w with sessions := w.sessions.push ⟨m, k, false⟩ }
  return (w.sessions.size, m, k)

/-- A new processor over steps. -/
def newProcessor (steps : List Nat) : Request Nat := do
  for k in steps do
    let _ ← step k
  let w ← get
  set { w with processors := w.processors.push ⟨steps, none⟩ }
  return w.processors.size

/-! ## Matchers -/

/-- Overwrites the buffer of a matcher with its mask, and hands it out. -/
def fill (i : Nat) : Request Handle := do
  let m ← matcher i
  m.guardOpen
  copyMask m m.buffer.handle
  return m.buffer.handle

def advance (i : Nat) (id : Int) : Request Bool := do
  let (accepted, m) ← (← matcher i).advance id
  putMatcher i m
  return accepted

/-- Advances by tokens that are given as texts; a text that is no token is passed over. -/
def feed (i : Nat) : List String → Request (List (Option Bool))
  | [] => return []
  | t :: ts => do
    let answer ← match (← get).grammar.vocabulary.tokenId? t with
      | some id => do pure (some (← advance i id))
      | none => pure none
    return answer :: (← feed i ts)

def reset (i : Nat) : Request Unit := do putMatcher i (← (← matcher i).reset)

/-- The tensor in which a matcher looks for stop tokens; it is allocated when it is first needed. -/
def scratch (i : Nat) : Request Handle := do
  let m ← matcher i
  match m.buffer.scratch with
  | some h => return h
  | none =>
    let h ← allocate (Mask.full m.grammar.vocabulary.words)
    putMatcher i { m with buffer := { m.buffer with scratch := some h } }
    return h

/-- Whether a text may stop. A matcher that looks for it in the mask does not touch its buffer. -/
def canTerminate (i : Nat) : Request Bool := do
  let m ← matcher i
  m.guardOpen
  match m.stopCheck with
  | .position => return m.isFinal
  | .mask =>
    let h ← scratch i
    copyMask m h
    return m.grammar.vocabulary.stop.any (← read h).test

def isTerminated (i : Nat) : Request Bool := do (← matcher i).isTerminated

def close (i : Nat) : Request Unit := do putMatcher i (← matcher i).close

/-! ## Steps -/

def promptStart (k : Nat) : Request Unit := do
  let s ← step k
  let m ← Decoding.promptStart (← matcher s.matcher)
  putMatcher s.matcher m

/-- Fills the buffer of a matcher, and masks scores by what it holds then. -/
def process (k : Nat) (type : FloatType) (scores : Scores) : Request Masked := do
  let i := (← step k).matcher
  let m ← matcher i
  match (← (fill i).observe).result with
  | .error e => (unmasked e : Logged Masked)
  | .ok h =>
    (maskedBy type.arithmetic m.grammar.vocabulary.size (← read h) scores : Logged Masked)

def sampled (k : Nat) (token : Value) : Request Unit := do
  let s ← step k
  let (answer, m, counts) := Decoding.sampled token (← matcher s.matcher) s.counts
  putMatcher s.matcher m
  putStep k { s with counts }
  (answer : Logged Unit)

/-- Samples the first largest score so many times: the tokens. -/
def greedy (k : Nat) (type : FloatType) (scores : Scores) : Nat → Request (List Nat)
  | 0 => return []
  | n + 1 => do
    let token := firstMaximum ((← process k type scores).over scores).flat
    sampled k (.int token)
    return token :: (← greedy k type scores n)

/-! ## Sessions -/

/-- Closes a session and its matcher; once is enough. -/
def closeSession (i : Nat) : Request Unit := do
  let s ← session i
  if s.closed then return
  modify fun w => { w with sessions := w.sessions.setIfInBounds i { s with closed := true } }
  close s.matcher

/-- A processor for the one row of a session. -/
def sessionProcessor (i : Nat) : Request Nat := do
  let s ← session i
  if s.closed then throw (.closed "GrammarSession")
  newProcessor [s.step]

/-! ## Processors -/

/-- Tells each row's step the tokens that are new to it. -/
def feedRows : List Nat → List (List Value) → Request Unit
  | k :: ks, row :: rows => do
    row.forM (sampled k)
    feedRows ks rows
  | _, _ => pure ()

/-- Tells the steps what is new to them: that a prompt starts, or the tokens of the columns that were
added. -/
def tellRows (steps : List Nat) (ids : List (List Value)) : Option Nat → Request Unit
  | none => steps.forM promptStart
  | some seen => feedRows steps (ids.map (·.drop seen))

/-- Masks the scores of the rows, one step for each. -/
def maskRows (type : FloatType) : List Nat → List Scores → Request (List Scores)
  | [], rest => return rest
  | _ :: _, [] => throw (.index "index out of bounds")
  | k :: ks, s :: rest => do
    let masked ← process k type s
    return masked.over s :: (← maskRows type ks rest)

/-- The rows of scores: of a vector they are single numbers. -/
def rowsOf : Scores → Except Failure (List Scores)
  | .scalar _ => .error (.index "invalid index of a 0-dim tensor")
  | .vector xs => .ok (xs.map .scalar)
  | .rows ss => .ok ss

/-- One call of a processor with the tokens of all rows so far, of which there are so many columns.
The first call after a reset sees the prompt alone; later ones feed the columns that were added. -/
def callColumns (p : Nat) (type : FloatType) (columns : Nat) (ids : List (List Value))
    (scores : Scores) : Request Scores := do
  let q ← processor p
  if q.steps.length < ids.length then throw (.argument (.batch ids.length q.steps.length))
  let steps := q.steps.take ids.length
  tellRows steps ids q.processed
  modify fun w =>
    { w with processors := w.processors.setIfInBounds p { q with processed := some columns } }
  return .rows (← maskRows type steps (← rowsOf scores))

/-- One call of a processor. All rows have as many columns as the first one; without a row there is
nothing to tell how many they are. -/
def call (p : Nat) (type : FloatType) (ids : List (List Value)) (scores : Scores) :
    Request Scores :=
  match ids with
  | [] => do
    let _ ← processor p
    throw (.index "tuple index out of range")
  | row :: rows => callColumns p type row.length (row :: rows) scores

/-- The next call starts a new generation. -/
def resetProcessor (p : Nat) : Request Unit := do
  let q ← processor p
  modify fun w =>
    { w with processors := w.processors.setIfInBounds p { q with processed := none } }

/-- The rejected tokens of all rows. -/
def rejectedTokens (p : Nat) : Request Nat := do
  let q ← processor p
  let counts ← q.steps.mapM fun k => return (← step k).counts.rejected
  return counts.foldl (· + ·) 0

def describeProcessor (p : Nat) : Request String := do
  let q ← processor p
  return "GrammarLogitsProcessor(" ++ toString q.steps.length ++ " steps)"

end Workspace

end GuidedJson.Decoding
