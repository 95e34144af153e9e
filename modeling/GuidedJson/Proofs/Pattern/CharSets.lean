import GuidedJson.Proofs.Pattern.Denotation
import GuidedJson.Schema.PatternText

/-!
# Characters and classes

What the classes and escapes of a pattern stand for, as properties of a character. What lies beyond
the last code point is of no concern here: a text has characters only.
-/

namespace GuidedJson.Pattern

/-! ## Sets -/

namespace CharSet

theorem has_all (c : Char) : all.has c.toNat = true := by
  have hlast : 0x110000 ≤ lastSymbol := Nat.le_add_right _ _
  have hc : c.toNat < 0xD800 ∨ 0xDFFF < c.toNat ∧ c.toNat < 0x110000 := c.valid
  simp only [all, has, List.any_cons, List.any_nil, Bool.or_false, Bool.or_eq_true,
    Bool.and_eq_true, decide_eq_true_eq]
  omega

theorem has_range {low high : Nat} (c : Char) :
    (range low high).has c.toNat = decide (low ≤ c.toNat ∧ c.toNat ≤ high) := by
  rw [range, has_between, has_all, Bool.true_and]

theorem mem_range {low high : Nat} {c : Char} :
    c ∈ range low high ↔ low ≤ c.toNat ∧ c.toNat ≤ high := by
  rw [mem_iff, has_range, decide_eq_true_eq]

theorem mem_single {c d : Char} : c ∈ single d ↔ c = d := by
  rw [mem_iff, has_single, decide_eq_true_eq, Char.toNat_inj]

theorem has_cons (r : Nat × Nat) (rs : List (Nat × Nat)) (n : Nat) :
    has ⟨r :: rs⟩ n = (decide (r.1 ≤ n ∧ n ≤ r.2) || has ⟨rs⟩ n) := by
  simp [has, Bool.decide_and]

theorem has_append (rs ts : List (Nat × Nat)) (n : Nat) :
    has ⟨rs ++ ts⟩ n = (has ⟨rs⟩ n || has ⟨ts⟩ n) := by
  simp [has]

theorem has_cut (low high n : Nat) (r : Nat × Nat) :
    has ⟨cut low high r⟩ n = (decide (r.1 ≤ n ∧ n ≤ r.2) && !decide (low ≤ n ∧ n ≤ high)) := by
  obtain ⟨a, b⟩ := r
  rw [Bool.eq_iff_iff]
  simp only [cut]
  -- What is cut out lies beside the range, or leaves a piece on either side of it or on both.
  split
  · rename_i hout
    simp only [Bool.or_eq_true, decide_eq_true_eq] at hout
    simp only [has, List.any_cons, List.any_nil, Bool.or_false, Bool.and_eq_true, decide_eq_true_eq,
      Bool.not_eq_true', decide_eq_false_iff_not]
    omega
  · rename_i hout
    simp only [Bool.or_eq_true, decide_eq_true_eq] at hout
    split <;> split <;>
      simp only [has, List.any_cons, List.any_nil, Bool.or_false, Bool.and_eq_true, List.nil_append,
        decide_eq_true_eq, Bool.not_eq_true', decide_eq_false_iff_not, List.cons_append,
        Bool.or_eq_true, Bool.false_eq_true, false_iff] <;> omega

theorem has_remove (s : CharSet) (low high n : Nat) :
    (s.remove low high).has n = (s.has n && !decide (low ≤ n ∧ n ≤ high)) := by
  obtain ⟨rs⟩ := s
  induction rs with
  | nil => rfl
  | cons r rs ih =>
    have hsplit : (remove ⟨r :: rs⟩ low high).has n =
        (has ⟨cut low high r⟩ n || (remove ⟨rs⟩ low high).has n) := by
      rw [remove, List.flatMap_cons, has_append]
      rfl
    rw [hsplit, ih, has_cut, has_cons, ← Bool.and_or_distrib_right]

theorem has_foldl_remove (rs : List (Nat × Nat)) (t : CharSet) (n : Nat) :
    (rs.foldl (fun t r => t.remove r.1 r.2) t).has n = (t.has n && !has ⟨rs⟩ n) := by
  induction rs generalizing t with
  | nil => simp [has]
  | cons r rs ih => rw [List.foldl_cons, ih, has_remove, has_cons, Bool.not_or, Bool.and_assoc]

/-- A character lies in a complement exactly if it does not lie in the set. -/
theorem has_compl (s : CharSet) (c : Char) : s.compl.has c.toNat = !s.has c.toNat := by
  apply (has_foldl_remove s.ranges all c.toNat).trans
  rw [has_all, Bool.true_and]

end CharSet

/-! ## Characters -/

theorem CharClass.language_eq {k : CharClass} {P : Char → Prop}
    (h : ∀ c : Char, (k.set false).has c.toNat = true ↔ P c) : k.language = oneChar P := by
  ext w
  exact exists_congr fun c => and_congr_left fun _ => h c

/-- Whether a text is an atom for the characters with a property. -/
def AtomFor (cs : List Char) (P : Char → Prop) : Prop :=
  ∃ k : CharClass, Atom cs (.chars k) ∧ ∀ c : Char, (k.set false).has c.toNat = true ↔ P c

namespace AtomFor

variable {cs q : List Char} {P Q : Char → Prop} {least : Nat} {most : Option Nat}

theorem congr (h : AtomFor cs P) (hPQ : ∀ c, P c ↔ Q c) : AtomFor cs Q := by
  obtain ⟨k, hatom, hk⟩ := h
  exact ⟨k, hatom, fun c => (hk c).trans (hPQ c)⟩

theorem spells (h : AtomFor cs P) : Spells cs (oneChar P) := by
  obtain ⟨k, hatom, hk⟩ := h
  rw [← CharClass.language_eq hk]
  exact .of_part hatom.readsPart (denotes_chars k)

theorem quantified (h : AtomFor cs P) (hq : Quantifies q least most)
    (hmost : ∀ n ∈ most, least ≤ n) : Spells (cs ++ q) (repetition (oneChar P) least most) := by
  obtain ⟨k, hatom, hk⟩ := h
  rw [← CharClass.language_eq hk]
  exact .of_part (hatom.quantified hq) (denotes_repeated (denotes_chars k) least hmost)

end AtomFor

theorem has_single {c d : Char} : (CharClass.single c.toNat).chars.has d.toNat = true ↔ d = c := by
  simp only [CharClass.single, CharSet.has, List.any_cons, List.any_nil, Bool.or_false,
    Bool.and_eq_true, decide_eq_true_eq, ← Char.toNat_inj]
  omega

theorem Atom.atomFor_single {cs : List Char} {c : Char} (h : Atom cs (.chars (.single c.toNat))) :
    AtomFor cs (· = c) :=
  ⟨_, h, fun _ => has_single⟩

/-- A character without a meaning of its own is read as itself. -/
theorem atom_char {c : Char} (h : isReserved c = false) (hstops : Stops [c]) :
    Atom [c] (.chars (.single c.toNat)) := by
  have hne : ∀ d, isReserved d = true → c ≠ d := by
    rintro d hd rfl
    rw [hd] at h
    cases h
  refine ⟨by simp, hstops, by simpa using hne '(' (by decide), ?_⟩
  intro rest
  rw [List.singleton_append, readAtom]
  · simp [h]
  · exact hne '[' (by decide)
  · exact hne '\\' (by decide)
  · exact hne '.' (by decide)
  · exact hne '$' (by decide)
  · exact hne '^' (by decide)

end GuidedJson.Pattern
