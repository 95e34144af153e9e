import Std.Data.HashMap
import Std.Data.HashSet

/-! # Work lists

What can be reached from some points, found by loops that take one waiting point after the other. A
search finds the edges of a point when it takes it; marks are spread along edges that are known. The
loops are not bounded: they come to an end where there are finitely many points to reach.
-/

namespace GuidedJson

open Std (HashMap HashSet)

/-- Takes steps as long as there is one. -/
def exhaust {σ : Type} (step : σ → Option σ) (s : σ) : σ :=
  have : Nonempty σ := ⟨s⟩
  repeatM (m := Id) (fun s =>
    match step s with
    | some t => .inl t
    | none => .inr s) s

section Laws

variable {σ : Type} {step : σ → Option σ} {s t : σ}

theorem exhaust_of_none (h : step s = none) : exhaust step s = s := by
  have : Nonempty σ := ⟨s⟩
  rw [exhaust, repeatM_eq_of_monadTail, repeatM.body, h]
  rfl

theorem exhaust_of_some (h : step s = some t) : exhaust step s = exhaust step t := by
  have : Nonempty σ := ⟨s⟩
  rw [exhaust, repeatM_eq_of_monadTail, repeatM.body, h]
  rfl

end Laws

/-! ## Searching -/

/-- The points that wait, and the edges of those that are settled. -/
structure Search (α β : Type) [BEq α] [Hashable α] where
  queue : List α
  settled : HashMap α β

namespace Search

variable {α β : Type} [BEq α] [Hashable α] (edges : α → β) (targets : β → List α)

/-- Takes the next point. Unless it is settled it becomes so, and what its edges lead to waits
behind the others if it is not settled. -/
def turn (s : Search α β) : Option (Search α β) :=
  match s.queue with
  | [] => none
  | a :: rest =>
    if s.settled.contains a then some { s with queue := rest }
    else
      let out := edges a
      let settled := s.settled.insert a out
      some ⟨rest ++ (targets out).filter (!settled.contains ·), settled⟩

/-- The point that the next turn settles. -/
def next? (s : Search α β) : Option α := s.queue.head?.filter (!s.settled.contains ·)

/-- A search that begins: nothing is settled yet. -/
def start (points : List α) : Search α β := ⟨points, ∅⟩

/-- The points that are reached from some points, with their edges. -/
def found (points : List α) : HashMap α β :=
  (exhaust (turn edges targets) (start points)).settled

end Search

/-! ## Spreading marks -/

/-- The points that wait, and the points that are marked; a point is marked when it begins to
wait. -/
structure Spread (α : Type) [BEq α] [Hashable α] where
  queue : List α
  marked : HashSet α

namespace Spread

variable {α : Type} [BEq α] [Hashable α] (edges : α → List α)

/-- Marks a point that is not marked, to wait behind the others. -/
def mark (s : Spread α) (a : α) : Spread α :=
  if s.marked.contains a then s else ⟨s.queue ++ [a], s.marked.insert a⟩

/-- Takes the next point and marks what its edges lead to. -/
def turn (s : Spread α) : Option (Spread α) :=
  match s.queue with
  | [] => none
  | a :: rest => some ((edges a).foldl mark { s with queue := rest })

/-- The point that the next turn takes. -/
def next? (s : Spread α) : Option α := s.queue.head?

/-- Marks that begin to spread from some points. -/
def start (points : List α) : Spread α := ⟨points, .ofList points⟩

/-- The points that are reached from some points. -/
def found (points : List α) : HashSet α :=
  (exhaust (turn edges) (start points)).marked

end Spread

end GuidedJson
