import GuidedJson.Mask.Penalty

/-! # Scores

The scores of tokens, as a number, a vector, or rows of either. Penalties are added along the last
dimension.
-/

namespace GuidedJson.Decoding

open Number (Binary)

/-- Scores that are numbers of some type. -/
inductive Scores (α : Type := Binary) where
  | scalar (x : α)
  | vector (xs : List α)
  | rows (ss : List (Scores α))

/-- A number in a type. Half precision is reached through single precision. -/
def convert (type : FloatType) (x : Binary) : Binary :=
  match type with
  | .float16 | .bfloat16 => (x.convert .binary32).convert type.format
  | _ => x.convert type.format

namespace Scores

variable {α : Type}

instance : Inhabited (Scores α) := ⟨.rows []⟩

mutual
/-- Adds penalties along the last dimension; a single number has none. -/
def penalize (a : Arithmetic α) (penalties : List α) : Scores α → Except Failure (Scores α)
  | .scalar _ => .error (.index "tuple index out of range")
  | .vector xs => do
    let penalties ← a.fit penalties xs.length
    return .vector (List.zipWith (← a.add) xs penalties)
  | .rows ss => do return .rows (← penalizeAll a penalties ss)

def penalizeAll (a : Arithmetic α) (penalties : List α) :
    List (Scores α) → Except Failure (List (Scores α))
  | [] => .ok []
  | s :: ss => do
    let t ← s.penalize a penalties
    let ts ← penalizeAll a penalties ss
    return t :: ts
end

mutual
/-- All numbers in order. -/
def flat : Scores α → List α
  | .scalar x => [x]
  | .vector xs => xs
  | .rows ss => flatAll ss

def flatAll : List (Scores α) → List α
  | [] => []
  | s :: ss => s.flat ++ flatAll ss
end

end Scores

/-- The place of the first largest number; one that is no number counts as the largest. -/
def firstMaximum : List Binary → Nat
  | [] => 0
  | x :: xs => go x 0 1 xs
where
  go (best : Binary) (place i : Nat) : List Binary → Nat
    | [] => place
    | x :: xs =>
      if best = .nan then place
      else if x = .nan || best.lt x then go x i (i + 1) xs
      else go best place (i + 1) xs

/-! ## Laws -/

/-- Floating-point scores plus penalties; scores past the penalties are forbidden. -/
def addPenalties (type : FloatType) (ps xs : List Binary) : List Binary :=
  List.zipWith (Binary.add type.format) xs
    ((ps ++ List.replicate (xs.length - ps.length) (Binary.infinite true)).take xs.length)

theorem length_addPenalties (type : FloatType) (ps xs : List Binary) :
    (addPenalties type ps xs).length = xs.length := by
  rw [addPenalties, List.length_zipWith, List.length_take, List.length_append,
    List.length_replicate]
  omega

/-- Vectors of a floating-point type can always be penalized. -/
theorem Scores.penalize_vector (type : FloatType) (ps xs : List Binary) :
    Scores.penalize type.arithmetic ps (.vector xs) = .ok (.vector (addPenalties type ps xs)) := by
  rw [Scores.penalize, Arithmetic.fit_of_padding rfl]
  rfl

end GuidedJson.Decoding
