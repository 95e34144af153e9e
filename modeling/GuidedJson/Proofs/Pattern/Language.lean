import GuidedJson.Pattern.Regex
import GuidedJson.Proofs.Language

/-!
# Languages of expressions

The texts of an expression as a language: parts one after the other make a product, options a sum,
and repetitions powers.
-/

namespace GuidedJson.Pattern.Regex

open Computability

/-- The texts of an expression. -/
def language (r : Regex) : Language Char := {w | r.Matches w}

theorem mem_language {r : Regex} {w : List Char} : w ∈ r.language ↔ r.Matches w := Iff.rfl

theorem language_chain (rs : List Regex) : (chain rs).language = (rs.map language).prod := by
  induction rs with
  | nil =>
    ext w
    rw [mem_language, matches_chain_nil]
    rfl
  | cons r rs ih =>
    ext w
    rw [mem_language, matches_chain_cons, List.map_cons, List.prod_cons, ← ih, Language.mem_mul]
    constructor
    · rintro ⟨u, v, rfl, hu, hv⟩
      exact ⟨u, hu, v, hv, rfl⟩
    · rintro ⟨u, hu, v, hv, rfl⟩
      exact ⟨u, v, rfl, hu, hv⟩

theorem language_choice (rs : List Regex) : (choice rs).language = (rs.map language).sum := by
  ext w
  rw [mem_language, matches_choice, mem_list_sum]
  simp [mem_language]

theorem language_repeated (r : Regex) (least : Nat) (more : Option Nat) :
    (repeated r least more).language = copies r.language least more :=
  Set.ext fun _ => mem_copies.symm

end GuidedJson.Pattern.Regex
