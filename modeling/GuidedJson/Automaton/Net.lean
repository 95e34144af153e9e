import GuidedJson.Automaton.Table

/-! # Nets

A net has numbered points that may lead to several points at once. The deterministic automaton of a
net stands at a set of points, which is kept as an ascending list. The repetitions of an automaton,
automata one after the other and automata beside each other are nets over the states of their
parts.
-/

namespace GuidedJson.Automaton

/-- A set of points, in ascending order. -/
abbrev Points := List Nat

/-! ## Joining points -/

/-- The union of two ascending lists. -/
def merge : Points → Points → Points
  | [], t => t
  | s, [] => s
  | a :: s, b :: t =>
    if a < b then a :: merge s (b :: t)
    else if b < a then b :: merge (a :: s) t
    else a :: merge s t
termination_by s t => s.length + t.length

theorem mem_merge {n : Nat} (s t : Points) : n ∈ merge s t ↔ n ∈ s ∨ n ∈ t := by
  fun_induction merge s t with
  | case1 => simp
  | case2 => simp
  | case3 a s b t h ih => simp [ih, or_assoc]
  | case4 a s b t h1 h2 ih =>
    simp only [List.mem_cons, ih]
    grind
  | case5 a s b t h1 h2 ih =>
    have : a = b := by omega
    subst this
    simp only [List.mem_cons, ih]
    grind

/-- Points below `size`; where a point leads by a class is ascending. -/
structure Net where
  size : Nat
  start : Points
  next : Nat → Nat → Points
  final : Nat → Bool

namespace Net

variable (n : Net)

/-- Where a set of points leads. -/
def step (s : Points) (k : Nat) : Points := s.foldr (fun p t => merge (n.next p k) t) []

/-- The deterministic automaton on sets of points; an empty set is no state. -/
def system : System Points where
  start := n.start
  next s k :=
    match n.step s k with
    | [] => none
    | t => some t
  final s := s.any n.final

/-- The table of a net. -/
def table (classes : Nat) : Table := n.system.table classes (Nat.pow 2 n.size)

/-- A point is reached if some point before it leads to it. -/
theorem mem_step {n : Net} {s : Points} {k q : Nat} :
    q ∈ n.step s k ↔ ∃ p ∈ s, q ∈ n.next p k := by
  unfold step
  induction s with
  | nil => simp
  | cons p s ih => simp [mem_merge, ih]

/-! ## One after the other -/

/-- A net whose rows are written out. -/
structure Rows where
  start : Points
  rows : Array (Array Points)

/-- The point behind all automata, where a text may end. -/
def Rows.behind : Rows := ⟨[0], #[#[]]⟩

/-- Puts an automaton before a net: where it may end the net begins. -/
def Rows.before (t : Table) (n : Rows) : Rows :=
  let first := n.rows.size
  let enter := fun q => if t.final q then n.start ++ [first + q] else [first + q]
  ⟨enter 0, n.rows ++ t.rows.map fun row => row.map fun
    | some q => enter q
    | none => []⟩

/-- Automata one after the other. -/
def chain (parts : List Table) : Net :=
  let net := parts.foldr Rows.before Rows.behind
  { size := net.rows.size
    start := net.start
    next := fun p k => (net.rows.getD p #[]).getD k []
    final := (· == 0) }

/-! ## Beside each other -/

/-- Puts an automaton beside a net. -/
def Rows.beside (n : Rows) (t : Table) : Rows :=
  let first := n.rows.size
  ⟨n.start ++ [first], n.rows ++ t.rows.map fun row => row.map fun
    | some q => [first + q]
    | none => []⟩

/-- Automata beside each other: a text may end where one of them may end. -/
def choice (options : List Table) : Net :=
  let net := options.foldl Rows.beside ⟨[], #[]⟩
  let finals := options.foldl (fun found t => found ++ t.finals) #[]
  { size := net.rows.size
    start := net.start
    next := fun p k => (net.rows.getD p #[]).getD k []
    final := fun p => finals.getD p false }

/-! ## Again and again -/

/-- Any number of texts of an automaton, one after the other. The last point is where nothing has
been read. -/
def star (t : Table) : Net where
  size := t.size + 1
  start := [t.size]
  next p k :=
    let first := (t.next 0 k).toList
    if p = t.size then first
    else merge (t.next p k).toList (if t.final p then first else [])
  final p := p == t.size || t.final p

/-- Up to `count` texts of an automaton. A point is a state of it and the number of texts that are
read to their end. A text may end at the start of the last copy, or at the start of any copy if
copies can be left out or read nothing. -/
def times (t : Table) (count : Nat) (optional : Bool) : Net where
  size := t.size * (count + 1)
  start := [0]
  next p k :=
    if p / t.size < count then
      match t.next (p % t.size) k with
      | none => []
      | some q =>
        let same := p / t.size * t.size
        if t.final q then [same + q, same + t.size] else [same + q]
    else []
  final p := p % t.size == 0 && (optional || t.final 0 || p / t.size == count)

end Net

end GuidedJson.Automaton
