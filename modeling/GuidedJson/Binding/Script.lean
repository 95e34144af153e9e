import GuidedJson.Binding.Library
import GuidedJson.Json.Value

/-! # Scripted libraries

A library that plays a script and records what it is asked, to try an engine without the outside
library. Its automata accept the ids of the script in order and then a stop token, which ends
them; their masks are those of the script in turn.
-/

namespace GuidedJson.Binding

/-- What a scripted library does: the ids it accepts, its masks, and the diagnostics with which
its calls fail. -/
structure Script where
  accept : List Int
  masks : Array Mask
  indexFault : Option String := none
  compileFault : Option String := none
  walkerFault : Option String := none

/-- An automaton of a scripted library. -/
structure ScriptedWalker where
  stops : List Nat
  taken : Nat := 0
  ended : Bool := false
deriving DecidableEq, Repr

namespace Script

/-- Calls so far. -/
abbrev Calls := List Value

/-- A call that is recorded. -/
def recorded {α : Type} (call : Value) (fault : Option String) (a : α) : Outside Calls α :=
  fun calls =>
    match fault with
    | some text => (.error text, calls ++ [call])
    | none => (.ok a, calls ++ [call])

def unrecorded {α : Type} (fault : Option String) (a : α) : Outside Calls α := fun calls =>
  match fault with
  | some text => (.error text, calls)
  | none => (.ok a, calls)

def call (name : String) (arguments : List Value) : Value := .array (.string name :: arguments)

def indexCall (v : Vocabulary) : Value :=
  call "TokenizerInfo" [.array (v.tokens.toList.map Value.string), .int v.encoding.code,
    .int v.size, .array (v.stop.map fun i => Value.int (i : Nat))]

def compileCall (text : String) (indent : Option Int) : Value :=
  call "compile_json_schema"
    [.string text, .bool false, (indent.map Value.int).getD .null, .bool true]

def fillCall (words : Nat) : Value := call "fill" [.array [.int 1, .int words], .int 0]

variable (s : Script)

/-- The mask behind so many accepted ids. -/
def maskAt (taken : Nat) : Mask := s.masks.getD (taken % s.masks.size) #[]

/-- The step of an automaton; a rejected id changes nothing. -/
def accepts (w : ScriptedWalker) (id : Int) : Bool × ScriptedWalker :=
  if w.ended then (false, w)
  else
    match s.accept[w.taken]? with
    | some next => if next = id then (true, { w with taken := w.taken + 1 }) else (false, w)
    | none =>
      if w.stops.any (fun stop => (stop : Int) = id) then (true, { w with ended := true })
      else (false, w)

/-- The library of a script. Stop tokens are all that it keeps of a vocabulary. -/
def library : Library Calls (List Nat) (List Nat) (List Nat) ScriptedWalker where
  index v := recorded (indexCall v) s.indexFault v.stop
  compiler := recorded (call "GrammarCompiler" []) none
  compile stops text indent := recorded (compileCall text indent) s.compileFault stops
  walker stops := unrecorded s.walkerFault { stops }
  fill w words calls := (s.maskAt w.taken, calls ++ [fillCall words])
  accept := s.accepts
  restart w := { stops := w.stops }
  terminated := ScriptedWalker.ended

end Script

end GuidedJson.Binding
