import GuidedJson.Proofs.Pattern.Language
import GuidedJson.Proofs.Pattern.Reading

/-!
# What pattern texts spell

A text that is read as plain parts, without modes and without looks, spells a language: texts one
after the other spell the product, alternatives the sum, and repeated texts a repetition.
-/

namespace GuidedJson.Pattern

open Computability
open Regex (language)

/-! ## Plain syntax -/

/-- A part that is read in the same way wherever it stands: made of neither modes nor looks. -/
structure Syntax.Plain (p : Syntax) : Prop where
  whole : Regex.hasMissing p = false
  modeless : p.lastModes = none
  roomless : Regex.room p = .ok (0, 0)
  no_look : ∀ behind negated part, p ≠ .look behind negated part

section Plain

variable {ps : List Syntax} (h : ∀ p ∈ ps, p.Plain)
include h

theorem hasMissingPart_of_plain : Regex.hasMissingPart ps = false := by
  induction ps with
  | nil => rfl
  | cons p ps ih =>
    obtain ⟨hp, hps⟩ := List.forall_mem_cons.1 h
    rw [Regex.hasMissingPart, hp.whole, ih hps, Bool.or_false]

theorem lastModesOf_of_plain : Syntax.lastModesOf ps = none := by
  induction ps with
  | nil => rfl
  | cons p ps ih =>
    obtain ⟨hp, hps⟩ := List.forall_mem_cons.1 h
    rw [Syntax.lastModesOf, hp.modeless, ih hps, Option.none_or]

theorem roomBefore_of_plain (done : Nat) : Regex.roomBefore done ps = .ok 0 := by
  induction ps generalizing done with
  | nil => rfl
  | cons p ps ih =>
    obtain ⟨hp, hps⟩ := List.forall_mem_cons.1 h
    rw [Regex.roomBefore]
    · exact ih hps _
    · exact fun behind negated part => hp.no_look behind negated part

theorem roomAfter_of_plain : Regex.roomAfter ps = 0 := by
  induction ps with
  | nil => rfl
  | cons p ps ih =>
    obtain ⟨hp, hps⟩ := List.forall_mem_cons.1 h
    rw [Regex.roomAfter]
    · exact ih hps
    · exact fun negated part => hp.no_look false negated part

theorem roomOfOptions_of_plain : Regex.roomOfOptions ps = .ok (0, 0) := by
  induction ps with
  | nil => rfl
  | cons p ps ih =>
    obtain ⟨hp, hps⟩ := List.forall_mem_cons.1 h
    rw [Regex.roomOfOptions]
    simp only [hp.roomless, ih hps, bind, Except.bind]
    rfl

theorem plain_sequence : (Syntax.sequence ps).Plain := by
  refine ⟨hasMissingPart_of_plain h, lastModesOf_of_plain h, ?_, nofun⟩
  rw [Regex.room]
  simp only [roomBefore_of_plain h, roomAfter_of_plain h, bind, Except.bind]
  rfl

/-- Parts without looks need no room around them. -/
theorem ofSyntax_sequence_of_plain : Regex.ofSyntax .none (0, 0) (.sequence ps) =
    (Regex.ofParts .none [] ps).map Regex.joined := by
  rw [Regex.ofSyntax, (plain_sequence h).roomless]
  show Regex.ofParts .none [] ps >>= (fun rs => pure (Regex.joined rs)) = _
  cases Regex.ofParts .none [] ps <;> rfl

theorem plain_group : (Syntax.group .none .none ps).Plain :=
  ⟨hasMissingPart_of_plain h, lastModesOf_of_plain h, roomOfOptions_of_plain h, nofun⟩

end Plain

theorem plain_chars (k : CharClass) : (Syntax.chars k).Plain := ⟨rfl, rfl, rfl, nofun⟩

theorem plain_repeated {p : Syntax} (h : p.Plain) (least : Nat) (most : Option Nat) :
    (Syntax.repeated p least most).Plain :=
  ⟨h.whole, h.modeless, h.roomless, nofun⟩

/-! ## Languages of parts -/

/-- A plain part that stands for a language. -/
structure Syntax.Denotes (p : Syntax) (l : Language Char) : Prop extends p.Plain where
  regex : ∃ r, Regex.ofSyntax .none (0, 0) p = .ok r ∧ r.language = l

section Lists

variable {ps : List Syntax} {ls : List (Language Char)}

theorem plain_of_denotes (h : List.Forall₂ Syntax.Denotes ps ls) : ∀ p ∈ ps, p.Plain := by
  induction h with
  | nil => simp
  | cons hp _ ih => exact List.forall_mem_cons.2 ⟨hp.toPlain, ih⟩

theorem ofParts_of_denotes (h : List.Forall₂ Syntax.Denotes ps ls) :
    ∃ rs, Regex.ofParts .none [] ps = .ok rs ∧ rs.map language = ls := by
  induction h with
  | nil => exact ⟨[], rfl, rfl⟩
  | @cons p l ps ls hp _ ih =>
    obtain ⟨r, hr, hl⟩ := hp.regex
    obtain ⟨rs, hrs, hls⟩ := ih
    refine ⟨r :: rs, ?_, by rw [List.map_cons, hl, hls]⟩
    rw [Regex.ofParts]
    · simp only [hr, hrs, bind, Except.bind]
      rfl
    · exact fun behind negated part => hp.no_look behind negated part

theorem ofOptions_of_denotes (h : List.Forall₂ Syntax.Denotes ps ls) :
    ∃ rs, Regex.ofOptions .none (0, 0) ps = .ok rs ∧ rs.map language = ls := by
  induction h with
  | nil => exact ⟨[], rfl, rfl⟩
  | @cons p l ps ls hp _ ih =>
    obtain ⟨r, hr, hl⟩ := hp.regex
    obtain ⟨rs, hrs, hls⟩ := ih
    refine ⟨r :: rs, ?_, by rw [List.map_cons, hl, hls]⟩
    rw [Regex.ofOptions]
    simp only [hr, hrs, bind, Except.bind]
    rfl

end Lists

theorem language_joined (rs : List Regex) :
    (Regex.joined rs).language = (rs.map language).prod :=
  (Set.ext fun _ => Regex.matches_joined).trans (Regex.language_chain rs)

theorem language_oneOf (rs : List Regex) : (Regex.oneOf rs).language = (rs.map language).sum :=
  (Set.ext fun _ => Regex.matches_oneOf).trans (Regex.language_choice rs)

/-! ## Parts -/

/-- The texts of one character of a class. -/
def CharClass.language (k : CharClass) : Language Char :=
  {w | ∃ c : Char, (k.set false).has c.toNat = true ∧ w = [c]}

theorem denotes_chars (k : CharClass) : (Syntax.chars k).Denotes k.language :=
  ⟨plain_chars k, .chars (k.set false), rfl, Set.ext fun _ => Regex.matches_chars⟩

theorem denotes_sequence {ps : List Syntax} {ls : List (Language Char)}
    (h : List.Forall₂ Syntax.Denotes ps ls) : (Syntax.sequence ps).Denotes ls.prod := by
  have hplain := plain_of_denotes h
  obtain ⟨rs, hrs, hls⟩ := ofParts_of_denotes h
  refine ⟨plain_sequence hplain, Regex.joined rs, ?_, by rw [language_joined, hls]⟩
  rw [ofSyntax_sequence_of_plain hplain, hrs]
  rfl

theorem denotes_group {ps : List Syntax} {ls : List (Language Char)}
    (h : List.Forall₂ Syntax.Denotes ps ls) : (Syntax.group .none .none ps).Denotes ls.sum := by
  obtain ⟨rs, hrs, hls⟩ := ofOptions_of_denotes h
  refine ⟨plain_group (plain_of_denotes h), Regex.oneOf rs, ?_, by rw [language_oneOf, hls]⟩
  rw [Regex.ofSyntax, Modes.enter_none, hrs]
  rfl

/-- Texts of a language one after the other, as many as two bounds allow. -/
def repetition (l : Language Char) (least : Nat) (most : Option Nat) : Language Char :=
  copies l least (most.map (· - least))

theorem mem_repetition {l : Language Char} {least : Nat} {most : Option Nat} {w : List Char}
    (hmost : ∀ n ∈ most, least ≤ n) : w ∈ repetition l least most ↔ ∃ parts : List (List Char),
      least ≤ parts.length ∧ (∀ n ∈ most, parts.length ≤ n) ∧ (∀ u ∈ parts, u ∈ l) ∧
        w = parts.flatten := by
  rw [repetition, mem_copies]
  apply exists_congr
  intro parts
  refine and_congr_right fun _ => and_congr_left fun _ => ?_
  cases most with
  | none => simp
  | some n =>
    have hle : least ≤ n := hmost n rfl
    simp [Nat.add_sub_cancel' hle]

theorem repetition_zero_none (l : Language Char) : repetition l 0 none = l∗ := by
  rw [repetition, Option.map_none, copies, pow_zero, one_mul]

theorem repetition_one_none (l : Language Char) : repetition l 1 none = l * l∗ := by
  rw [repetition, Option.map_none, copies, pow_one]

theorem repetition_zero_one (l : Language Char) : repetition l 0 (some 1) = 1 + l := by
  rw [repetition, Option.map_some, copies, pow_zero, one_mul, pow_one]

theorem repetition_exactly (l : Language Char) (n : Nat) : repetition l n (some n) = l ^ n := by
  rw [repetition, Option.map_some, Nat.sub_self, copies, pow_zero, mul_one]

theorem denotes_repeated {p : Syntax} {l : Language Char} (h : p.Denotes l) (least : Nat)
    {most : Option Nat} (hmost : ∀ n ∈ most, least ≤ n) :
    (Syntax.repeated p least most).Denotes (repetition l least most) := by
  obtain ⟨r, hr, rfl⟩ := h.regex
  refine ⟨plain_repeated h.toPlain least most, .repeated r least (most.map (· - least)), ?_,
    Regex.language_repeated ..⟩
  rw [Regex.ofSyntax, hr]
  cases most with
  | none => rfl
  | some n =>
    have hle : ¬ n < least := Nat.not_lt.2 (hmost n rfl)
    show r.between least (some n) = _
    rw [Regex.between, if_neg hle]
    rfl

/-! ## Texts -/

/-- Whether a pattern text spells a language as parts one after the other. -/
def Spells (cs : List Char) (l : Language Char) : Prop :=
  ∃ ps ls, Reads cs ps ∧ List.Forall₂ Syntax.Denotes ps ls ∧ ls.prod = l

/-- Whether a pattern text spells a language as alternatives. -/
def SpellsOptions (cs : List Char) (l : Language Char) : Prop :=
  ∃ ps ls, ReadsOptions cs ps ∧ List.Forall₂ Syntax.Denotes ps ls ∧ ls.sum = l

section Texts

variable {cs ds q : List Char} {l m : Language Char} {p : Syntax}

theorem spells_nil : Spells [] 1 := ⟨[], [], reads_nil, .nil, rfl⟩

theorem Spells.append (hcs : Spells cs l) (hds : Spells ds m) : Spells (cs ++ ds) (l * m) := by
  obtain ⟨ps, ls, hps, hls, rfl⟩ := hcs
  obtain ⟨qs, ms, hqs, hms, rfl⟩ := hds
  exact ⟨ps ++ qs, ls ++ ms, hps.append hqs, List.rel_append hls hms, List.prod_append⟩

theorem Spells.of_part (hcs : ReadsPart cs p) (hp : p.Denotes l) : Spells cs l :=
  ⟨[p], [l], hcs.reads, .cons hp .nil, by simp⟩

theorem Spells.options (h : Spells cs l) : SpellsOptions cs l := by
  obtain ⟨ps, ls, hps, hls, rfl⟩ := h
  exact ⟨_, _, hps.options, .cons (denotes_sequence hls) .nil, by simp⟩

theorem Spells.cons_options (hcs : Spells cs l) (hds : SpellsOptions ds m) :
    SpellsOptions (cs ++ '|' :: ds) (l + m) := by
  obtain ⟨ps, ls, hps, hls, rfl⟩ := hcs
  obtain ⟨qs, ms, hqs, hms, rfl⟩ := hds
  exact ⟨_, _, hps.cons_options hqs, .cons (denotes_sequence hls) hms, by simp⟩

theorem SpellsOptions.group (h : SpellsOptions cs l) : Spells ('(' :: cs ++ [')']) l := by
  obtain ⟨ps, ls, hps, hls, rfl⟩ := h
  exact .of_part hps.group (denotes_group hls)

theorem SpellsOptions.quantified (h : SpellsOptions cs l) {least : Nat} {most : Option Nat}
    (hq : Quantifies q least most) (hmost : ∀ n ∈ most, least ≤ n) :
    Spells ('(' :: cs ++ [')'] ++ q) (repetition l least most) := by
  obtain ⟨ps, ls, hps, hls, rfl⟩ := h
  exact .of_part (hps.quantified hq) (denotes_repeated (denotes_group hls) least hmost)

/-- A pattern has the texts that its text spells. -/
theorem SpellsOptions.exists_read {s : String} (h : SpellsOptions s.toList l) :
    ∃ r, Regex.read s = .ok r ∧ r.language = l := by
  obtain ⟨ps, ls, hps, hls, rfl⟩ := h
  have hgroup := denotes_group hls
  obtain ⟨r, hr, hl⟩ := hgroup.regex
  refine ⟨r, ?_, hl⟩
  rw [Regex.read, hps.read_eq, lastModesOf_of_plain (plain_of_denotes hls), Option.getD_none]
  simp only [bind, Except.bind, hgroup.whole, hgroup.roomless, Bool.false_eq_true, if_false, hr]

/-- A pattern spells one set of texts. -/
theorem Spells.unique {s : String} (hl : Spells s.toList l) (hm : Spells s.toList m) : l = m := by
  obtain ⟨r, hr, rfl⟩ := hl.options.exists_read
  obtain ⟨_, hr', rfl⟩ := hm.options.exists_read
  rw [hr] at hr'
  cases hr'
  rfl

end Texts

end GuidedJson.Pattern
