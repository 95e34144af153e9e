import GuidedJson.Text.Case

/-! # Sets of characters

A set is a union of ranges of symbols. A symbol is a code point, or it lies beyond the last code
point: one symbol stands for every character that a pattern does not name, and each of the others
for a capital or small form that is several characters. Surrogates are no characters: no set that is
made here holds one.
-/

namespace GuidedJson.Pattern

/-! ## Symbols -/

/-- The symbol of all characters without a symbol of their own. -/
def otherSymbol : Nat := 0x110000

/-- The forms of letters that are several characters. -/
def expansions : List (List Nat) := [0x69, 0x307] :: Text.upperExpansions.map (·.2)

/-- The symbol of a form of a letter. -/
def formSymbol : List Nat → Nat
  | [n] => n
  | ns => otherSymbol + 1 + expansions.idxOf ns

/-- The last symbol that is used. -/
def lastSymbol : Nat := otherSymbol + expansions.length

/-- A union of ranges, the ends included. -/
structure CharSet where
  ranges : List (Nat × Nat)
deriving DecidableEq, Hashable, Repr

namespace CharSet

/-- Whether a symbol lies in one of the ranges. -/
def has (s : CharSet) (n : Nat) : Bool := s.ranges.any fun (a, b) => a ≤ n && n ≤ b

instance : Membership Char CharSet := ⟨fun s c => s.has c.toNat = true⟩

instance (c : Char) (s : CharSet) : Decidable (c ∈ s) := inferInstanceAs (Decidable (_ = true))

theorem mem_iff {c : Char} {s : CharSet} : c ∈ s ↔ s.has c.toNat = true := Iff.rfl

/-- Every symbol. -/
def all : CharSet := ⟨[(0, 0xD7FF), (0xE000, lastSymbol)]⟩

def single (c : Char) : CharSet := ⟨[(c.toNat, c.toNat)]⟩

def union (s t : CharSet) : CharSet := ⟨s.ranges ++ t.ranges⟩

/-- The symbols of a set between two symbols. -/
def between (s : CharSet) (low high : Nat) : CharSet :=
  ⟨s.ranges.map fun (a, b) => (max a low, min b high)⟩

/-- The characters between two code points. -/
def range (low high : Nat) : CharSet := all.between low high

/-- What is left of a range without another one. -/
def cut (low high : Nat) : Nat × Nat → List (Nat × Nat)
  | (a, b) =>
    if high < a || b < low then [(a, b)]
    else (if a < low then [(a, low - 1)] else []) ++ (if high < b then [(high + 1, b)] else [])

/-- A set without a range. -/
def remove (s : CharSet) (low high : Nat) : CharSet := ⟨s.ranges.flatMap (cut low high)⟩

/-- The characters outside a set. -/
def compl (s : CharSet) : CharSet := s.ranges.foldl (fun t (a, b) => t.remove a b) all

/-- Whether a set holds nothing. -/
def isEmpty (s : CharSet) : Bool := s.ranges.all fun (a, b) => b < a

/-! ## Letter case -/

/-- The code points of a table of runs. -/
def runPoints (runs : List (Nat × Nat × Nat × Int)) : List Nat :=
  runs.flatMap fun (a, b, step, _) => (List.range ((b - a) / step + 1)).map (a + step * ·)

/-- The letters that have another form. -/
def caseLetters : List Nat :=
  (List.range 0x80).filter (fun n => (Char.ofNat n).isAlpha) ++ runPoints Text.lowerRuns ++
    runPoints Text.upperRuns ++ 0x130 :: Text.upperExpansions.map (·.1)

/-- The symbols of the two forms of a letter. -/
def caseForms (n : Nat) : List Nat :=
  [formSymbol ((Text.lowerChar (Char.ofNat n)).map Char.toNat),
    formSymbol ((Text.upperChar (Char.ofNat n)).map Char.toNat)]

/-- The small and the capital forms of the characters of a set. -/
def withCaseForms (s : CharSet) : CharSet :=
  let letters := caseLetters.filter s.has
  let lost := letters.filter fun n => !(caseForms n).contains n
  let rest := lost.foldl (fun t n => t.remove n n) s
  let forms := letters.flatMap caseForms
  ⟨rest.ranges ++ (forms.filter (!rest.has ·)).map fun n => (n, n)⟩

/-! ## Laws -/

theorem has_single (c : Char) (n : Nat) : (single c).has n = decide (n = c.toNat) := by
  have h : (c.toNat ≤ n ∧ n ≤ c.toNat) ↔ n = c.toNat := by omega
  simp [single, has, ← Bool.decide_and, h]

theorem has_between (s : CharSet) (low high n : Nat) :
    (s.between low high).has n = (s.has n && decide (low ≤ n ∧ n ≤ high)) := by
  rw [Bool.eq_iff_iff]
  simp only [between, has, List.any_map, List.any_eq_true, Bool.and_eq_true, decide_eq_true_eq,
    Function.comp]
  constructor
  · rintro ⟨⟨a, b⟩, hm, h1, h2⟩
    exact ⟨⟨(a, b), hm, by simp at h1 h2 ⊢; omega⟩, by simp at h1 h2; omega⟩
  · rintro ⟨⟨⟨a, b⟩, hm, h1, h2⟩, h3⟩
    exact ⟨(a, b), hm, by simp at h1 h2 ⊢; omega, by simp at h1 h2 ⊢; omega⟩

end CharSet

end GuidedJson.Pattern
