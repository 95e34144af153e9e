import GuidedJson.Automaton.Alphabet
import GuidedJson.Automaton.Net
import GuidedJson.Automaton.Reach

/-! # The automaton of an expression

The table of an expression is made from the tables of its parts, and states are not joined
afterwards: texts that end in one state have been read by the parts in the same way. A state is
alive if some text can be ended from it; a machine only walks to states that are alive.
-/

namespace GuidedJson.Automaton

open Pattern (CharSet Regex)
open Std (HashMap)

/-! ## Tables of expressions -/

/-- One symbol of a set. -/
def Table.ofSet (samples : Array Nat) (s : CharSet) : Table :=
  ⟨#[samples.map fun n => if s.has n then some 1 else none, #[]], #[false, true]⟩

/-- The table of a repetition: copies that must be there, then copies that may be. -/
def Table.repeated (classes : Nat) (t : Table) (least : Nat) (more : Option Nat) : Table :=
  let further := match more with
    | none => (Net.star t).table classes
    | some n => (Net.times t n true).table classes
  if least = 0 then further
  else
    let copies := (Net.times t least false).table classes
    if more = some 0 then copies else (Net.chain [copies, further]).table classes

mutual
/-- The table of an expression over the classes that the samples stand for. -/
def tableOf (samples : Array Nat) : Regex → Table
  | .chars s => .ofSet samples s
  | .chain parts => (Net.chain (tablesOf samples parts)).table samples.size
  | .choice options => (Net.choice (tablesOf samples options)).table samples.size
  | .repeated r least more => (tableOf samples r).repeated samples.size least more
  | .both r s => .combine samples.size (· && ·) (tableOf samples r) (tableOf samples s)
  | .without r s => .combine samples.size (· && !·) (tableOf samples r) (tableOf samples s)

def tablesOf (samples : Array Nat) : List Regex → List Table
  | [] => []
  | r :: rs => tableOf samples r :: tablesOf samples rs
end

/-! ## States that are alive -/

/-- The states that lead to each state. -/
def Table.predecessors (t : Table) : Array (List Nat) :=
  (List.range t.size).foldl
    (fun back s => (t.rows.getD s #[]).foldl
      (fun back q => match q with
        | some q => back.modify q (s :: ·)
        | none => back) back)
    (Array.replicate t.size [])

/-- The states from which some text can be ended. -/
def Table.living (t : Table) : Array Bool :=
  let back := t.predecessors
  let found := Spread.found (fun s => back.getD s []) ((List.range t.size).filter t.final)
  (Array.range t.size).map found.contains

/-! ## Machines -/

/-- A table with the classes of its symbols and its states that are alive. -/
structure Machine where
  alphabet : Alphabet
  table : Table
  living : Array Bool

namespace Machine

def ofRegex (r : Regex) : Machine :=
  let alphabet := Alphabet.ofRegex r
  let table := tableOf alphabet.samples r
  ⟨alphabet, table, table.living⟩

/-- The machine of the pattern that a text spells. -/
def ofPattern (text : String) : Except PatternFault Machine := (Regex.read text).map ofRegex

variable (m : Machine)

/-- Every machine starts in its first state. -/
def start : Nat := 0

/-- Whether some text can be ended from a state. -/
def alive (s : Nat) : Bool := m.living.getD s false

/-- Whether a text may end in a state. -/
def final (s : Nat) : Bool := m.table.final s

/-- The state after a symbol of a class, if it is alive. -/
def stepClass (s k : Nat) : Option Nat := (m.table.next s k).filter m.alive

/-- The state after a character. -/
def step (s : Nat) (c : Char) : Option Nat := m.stepClass s (m.alphabet.classOf c.toNat)

/-- The forms of letters that are several characters, of which the first lies between two code
points. -/
def formsBetween (low high : Nat) : List Nat :=
  (Pattern.expansions.filter fun ns => ns.head?.any fun n => low ≤ n && n ≤ high).map
    Pattern.formSymbol

/-- Whether a state can be left by some character between two code points. As far as the machine
can tell, the characters that its expression does not name lie between any two, and a form that is
several characters lies where its first one does. -/
def canRead (s low high : Nat) : Bool :=
  let leaves := fun k => (m.stepClass s k).isSome
  leaves (m.alphabet.classOf Pattern.otherSymbol) ||
    (m.alphabet.classesBetween low high).any leaves ||
    (formsBetween low high).any fun n => leaves (m.alphabet.classOf n)

/-- The state after a text. -/
def run : Nat → List Char → Option Nat
  | s, [] => some s
  | s, c :: cs => (m.step s c).bind fun q => run q cs

/-! ## Laws -/

/-- Only states that are alive are walked to. -/
theorem alive_of_step {m : Machine} {s q : Nat} {c : Char} (h : m.step s c = some q) :
    m.alive q = true := by
  simp only [step, stepClass, Option.filter_eq_some_iff] at h
  exact h.2

theorem lt_size_of_alive {m : Machine} {s : Nat} (h : m.alive s = true) : s < m.living.size := by
  rw [alive, Array.getD_eq_getD_getElem?] at h
  apply Nat.lt_of_not_le
  intro hle
  rw [Array.getElem?_eq_none hle] at h
  cases h

@[simp] theorem run_nil (m : Machine) (s : Nat) : m.run s [] = some s := rfl

theorem run_append (m : Machine) (s : Nat) (a b : List Char) :
    m.run s (a ++ b) = (m.run s a).bind fun q => m.run q b := by
  induction a generalizing s with
  | nil => rfl
  | cons c a ih =>
    show (m.step s c).bind (fun q => m.run q (a ++ b)) = _
    cases h : m.step s c with
    | none => simp [run, h]
    | some q => simp [run, h, ih]

/-- A text leads nowhere else but to states that are alive. -/
theorem eq_or_alive_of_run {m : Machine} {s q : Nat} {w : List Char} (h : m.run s w = some q) :
    q = s ∨ m.alive q = true := by
  induction w generalizing s with
  | nil => exact .inl (Option.some.inj h).symm
  | cons c w ih =>
    obtain ⟨p, hp, hq⟩ := Option.bind_eq_some_iff.1 h
    rcases ih hq with rfl | hq
    · exact .inr (alive_of_step hp)
    · exact .inr hq

end Machine

end GuidedJson.Automaton
