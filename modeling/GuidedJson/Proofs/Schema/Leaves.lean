import GuidedJson.Proofs.Json.Grammar
import GuidedJson.Proofs.Pattern.Brackets

/-!
# Leaf patterns

What the patterns of literals, numbers and characters of strings spell: the texts that the grammar
of JSON has for them.
-/

namespace GuidedJson.Schema

open Computability
open Pattern
open Json (Lies IsDigit IsPositive IsHexDigit IsUnescaped IsShortEscape)

/-! ## Literals -/

theorem escapesItself_of_isSpecial {c : Char} (h : isSpecial c = true) : EscapesItself c := by
  -- There are fourteen such characters, and each of them is looked at.
  have all : "\\.^$*+?\x7b\x7d[]()|".toList.all (fun d => isOctal d = false ∧ isDecimal d = false ∧
      escapedClass? d = none ∧ Text.isLetter d = false ∧
      d ∉ ['x', '0', 'N', 'p', 'P', 'u', 'U', 'A', 'Z', 'b', 'B']) = true := by
    decide
  obtain ⟨h1, h2, h3, h4, h5⟩ :=
    of_decide_eq_true (List.all_eq_true.1 all c (List.contains_iff_mem.1 h))
  exact ⟨h1, h2, h3, h4, h5⟩

/-- A character that is not special is neither reserved nor the sign of a repetition. -/
theorem atom_of_not_special {c : Char} (h : isSpecial c = false) :
    Atom [c] (.chars (.single c.toNat)) := by
  have hnot : ∀ d, isSpecial d = true → c ≠ d := by
    rintro d hd rfl
    rw [hd] at h
    cases h
  refine atom_char ?_ ⟨hnot '*' (by decide), hnot '+' (by decide), hnot '?' (by decide),
    hnot '\x7b' (by decide)⟩
  have all : "+?*.$^\\()[|".toList.all isSpecial = true := by decide
  rw [isReserved, Bool.eq_false_iff, ne_eq, List.contains_iff_mem]
  exact fun hc => hnot c (List.all_eq_true.1 all c hc) rfl

/-- An escaped character is read as itself. -/
theorem atom_escapeLiteralChar (c : Char) :
    Atom (escapeLiteralChar c) (.chars (.single c.toNat)) := by
  unfold escapeLiteralChar
  split
  · rename_i h
    exact atom_escape (escapesItself_of_isSpecial h)
  · rename_i h
    exact atom_of_not_special (by simpa using h)

theorem spells_escapeLiteralChar (c : Char) : Spells (escapeLiteralChar c) {[c]} := by
  rw [← oneChar_eq]
  exact (atom_escapeLiteralChar c).atomFor_single.spells

theorem spells_flatMap_escape (cs : List Char) : Spells (cs.flatMap escapeLiteralChar) {cs} := by
  induction cs with
  | nil => exact spells_nil
  | cons c cs ih =>
    rw [List.flatMap_cons, ← List.singleton_append, singleton_append]
    exact (spells_escapeLiteralChar c).append ih

/-- An escaped text spells the text alone. -/
theorem spells_escapeLiteral (s : String) : Spells (escapeLiteral s).toList {s.toList} := by
  rw [escapeLiteral, String.toList_ofList]
  exact spells_flatMap_escape s.toList

theorem flatMap_escape_of_not_special {cs : List Char} (h : cs.any isSpecial = false) :
    cs.flatMap escapeLiteralChar = cs := by
  induction cs with
  | nil => rfl
  | cons c cs ih =>
    obtain ⟨hc, hcs⟩ := Bool.or_eq_false_iff.1 h
    rw [List.flatMap_cons, ih hcs, escapeLiteralChar, hc]
    rfl

/-- A text without special characters spells itself. -/
theorem spells_plain {cs : List Char} (h : cs.any isSpecial = false) : Spells cs {cs} := by
  have hspells := spells_flatMap_escape cs
  rwa [flatMap_escape_of_not_special h] at hspells

/-! ## Numbers -/

/-- A class of one range. -/
theorem atom_range {a b : Char} (ha : IsPlain a) (hb : IsPlain b) (hle : a.toNat ≤ b.toNat)
    (hhead : a ∉ ['-', '^']) :
    Atom ['[', a, '-', b, ']'] (.chars ⟨unionOf [.range a.toNat b.toNat], false⟩) := by
  have hdash : a ≠ '-' := by
    rintro rfl
    simp at hhead
  have hcaret : a ≠ '^' := by
    rintro rfl
    simp at hhead
  exact atom_class (.cons (item_range ha hb hdash hle) .nil) (by simpa using hcaret)

theorem atom_digit : Atom "[0-9]".toList (.chars ⟨unionOf [.range 0x30 0x39], false⟩) :=
  atom_range (a := '0') (b := '9') (by decide) (by decide) (by decide) (by decide)

theorem atom_positive : Atom "[1-9]".toList (.chars ⟨unionOf [.range 0x31 0x39], false⟩) :=
  atom_range (a := '1') (b := '9') (by decide) (by decide) (by decide) (by decide)

theorem atomFor_digit : AtomFor "[0-9]".toList IsDigit :=
  atom_digit.atomFor_set.congr fun c => by simp [CharSet.mem_range, IsDigit, Lies]

theorem atomFor_positive : AtomFor "[1-9]".toList IsPositive :=
  atom_positive.atomFor_set.congr fun c => by simp [CharSet.mem_range, IsPositive, Lies]

theorem spells_digits : Spells "[0-9]+".toList Json.digits := by
  have h := atomFor_digit.quantified quantifies_plus (by simp)
  rw [repetition_one_none] at h
  exact h

theorem spells_optional {cs : List Char} {l : Language Char} (h : SpellsOptions cs l) :
    Spells ('(' :: cs ++ [')', '?']) (1 + l) := by
  have hgroup := h.quantified quantifies_question (by simp)
  rw [repetition_zero_one, List.append_assoc] at hgroup
  exact hgroup

theorem spells_optional_atom {cs : List Char} {P : Char → Prop} (h : AtomFor cs P) :
    Spells (cs ++ ['?']) (1 + oneChar P) := by
  have hone := h.quantified quantifies_question (by simp)
  rw [repetition_zero_one] at hone
  exact hone

theorem atom_exponent : Atom "[eE]".toList (.chars ⟨unionOf [.single 'e', .single 'E'], false⟩) :=
  atom_class (item_chars ['e', 'E'] (by decide)) (by simp)

/-- A dash before the end of a class is no range: it makes one item with the character before it. -/
theorem atom_sign : Atom "[+-]".toList (.chars ⟨unionOf [.single '+', .single '-'], false⟩) := by
  have hclass : ∀ rest, readClass ('+' :: '-' :: ']' :: rest) =
      .ok (⟨unionOf [.single '+', .single '-'], false⟩, rest) := fun _ => rfl
  refine ⟨by decide, stops_cons (by decide) _, by decide, fun rest => ?_⟩
  show (readClass ('+' :: '-' :: ']' :: rest) >>= fun x => readRepetitions (.chars x.1) x.2) = _
  rw [hclass]
  rfl

theorem atomFor_exponent : AtomFor "[eE]".toList (· ∈ ['e', 'E']) :=
  atom_exponent.atomFor_set.congr fun c => by simp [CharSet.mem_single]

theorem atomFor_sign : AtomFor "[+-]".toList (· ∈ ['+', '-']) :=
  atom_sign.atomFor_set.congr fun c => by simp [CharSet.mem_single]

/-- The pattern of an integer spells the integers of JSON. -/
theorem spells_integerPattern : Spells integerPattern.toList Json.integerTexts := by
  have hminus : Spells "-?".toList (1 + {['-']}) := by
    have h := spells_optional_atom (atom_of_not_special (c := '-') (by decide)).atomFor_single
    rw [oneChar_eq] at h
    exact h
  have hzero : Spells "0".toList {['0']} := spells_plain (by decide)
  have htail : Spells "[0-9]*".toList (oneChar IsDigit)∗ := by
    have h := atomFor_digit.quantified quantifies_star (by simp)
    rw [repetition_zero_none] at h
    exact h
  have hpositive : Spells "[1-9][0-9]*".toList (oneChar IsPositive * (oneChar IsDigit)∗) :=
    atomFor_positive.spells.append htail
  exact hminus.append (hzero.cons_options hpositive.options).group

/-- The pattern of a number spells the numbers of JSON. -/
theorem spells_numberPattern : Spells numberPattern.toList Json.numberTexts := by
  have hfraction : Spells "\\.[0-9]+".toList Json.fractionTexts :=
    (spells_escapeLiteralChar '.').append spells_digits
  have hexponent : Spells "[eE][+-]?[0-9]+".toList Json.exponentTexts :=
    (atomFor_exponent.spells.append (spells_optional_atom atomFor_sign)).append spells_digits
  have h := (spells_integerPattern.append (spells_optional hfraction.options)).append
    (spells_optional hexponent.options)
  rw [List.append_assoc] at h
  rw [numberPattern, String.toList_append]
  exact h

/-! ## Characters of strings -/

theorem escapesItself_backslash : EscapesItself '\\' := escapesItself_of_isSpecial (by decide)

theorem atom_unescaped : Atom "[^\"\\\\\\x00-\\x1f]".toList
    (.chars ⟨unionOf [.single '"', .single '\\', .range 0 0x1F], true⟩) := by
  have hcontrol : Item "\\x00-\\x1f".toList (.range 0 0x1F) := by
    refine ⟨by simp, by simp, fun rest _ => ?_⟩
    exact readClassItem_range (t := "\\x00".toList) (u := "\\x1f".toList) (fun _ => rfl)
      (fun _ => rfl) (by decide) (by simp) (by simp)
  exact atom_negated (.cons (item_char (c := '"') (by decide) (by decide))
    (.cons (item_escape escapesItself_backslash) (.cons hcontrol .nil)))

theorem atom_shortEscape : Atom "[\"\\\\/bfnrt]".toList (.chars ⟨unionOf
    (.single '"' :: .single '\\' :: ['/', 'b', 'f', 'n', 'r', 't'].map .single), false⟩) := by
  have hletters := item_chars ['/', 'b', 'f', 'n', 'r', 't'] (by decide)
  exact atom_class (.cons (item_char (c := '"') (by decide) (by decide))
    (.cons (item_escape escapesItself_backslash) hletters)) (by simp)

theorem atom_hexDigit : Atom "[0-9a-fA-F]".toList
    (.chars ⟨unionOf [.range 0x30 0x39, .range 0x61 0x66, .range 0x41 0x46], false⟩) :=
  atom_class
    (.cons (item_range (a := '0') (b := '9') (by decide) (by decide) (by decide) (by decide))
    (.cons (item_range (a := 'a') (b := 'f') (by decide) (by decide) (by decide) (by decide))
    (.cons (item_range (a := 'A') (b := 'F') (by decide) (by decide) (by decide) (by decide))
      .nil))) (by simp)

/-- Outside control characters, quotation marks and backslashes a character stands for itself. -/
theorem atomFor_unescaped : AtomFor "[^\"\\\\\\x00-\\x1f]".toList IsUnescaped := by
  apply atom_unescaped.atomFor_compl.congr
  intro c
  have hlast := (Json.lies_of_char c).2
  have hquote : '"'.toNat = 0x22 := rfl
  have hslash : '\\'.toNat = 0x5C := rfl
  simp only [List.exists_mem_cons_iff, List.not_mem_nil, false_and, exists_false, or_false,
    CharSet.mem_single, CharSet.mem_range, ← Char.toNat_inj, hquote, hslash, IsUnescaped, Lies]
  omega

theorem atomFor_shortEscape : AtomFor "[\"\\\\/bfnrt]".toList IsShortEscape :=
  atom_shortEscape.atomFor_set.congr fun c => by
    simp [CharSet.mem_single, IsShortEscape]

theorem atomFor_hexDigit : AtomFor "[0-9a-fA-F]".toList IsHexDigit := by
  apply atom_hexDigit.atomFor_set.congr
  intro c
  simp only [List.exists_mem_cons_iff, List.not_mem_nil, false_and, exists_false, or_false,
    CharSet.mem_range]
  exact or_congr_right or_comm

/-- The pattern of a character of a string, without its parentheses. -/
def stringChar : String :=
  "[^\"\\\\\\x00-\\x1f]|\\\\[\"\\\\/bfnrt]|\\\\u[0-9a-fA-F]\x7b4\x7d"

theorem stringCharPattern_toList :
    stringCharPattern.toList = '(' :: stringChar.toList ++ [')'] := by
  simp [stringCharPattern, stringChar]

theorem quantifies_four : Quantifies "\x7b4\x7d".toList 4 (some 4) := by
  have h : 4 < 10 ^ Text.digitLimit := by
    calc 4 < 10 ^ 1 := by decide
      _ ≤ 10 ^ Text.digitLimit := Nat.pow_le_pow_right (by decide) (by decide)
  exact quantifies_exactly h

theorem spellsOptions_stringChar : SpellsOptions stringChar.toList Json.charTexts := by
  have hslash : Spells "\\\\".toList {['\\']} := spells_escapeLiteralChar '\\'
  have hshort : Spells "\\\\[\"\\\\/bfnrt]".toList ({['\\']} * oneChar IsShortEscape) :=
    hslash.append atomFor_shortEscape.spells
  have hu : Spells "\\\\u".toList {['\\', 'u']} := by
    have h := hslash.append (spells_plain (by decide : ['u'].any isSpecial = false))
    rw [← singleton_append] at h
    exact h
  have hfour : Spells "[0-9a-fA-F]\x7b4\x7d".toList (oneChar IsHexDigit ^ 4) := by
    have h := atomFor_hexDigit.quantified quantifies_four (by simp)
    rw [repetition_exactly] at h
    exact h
  have hcode := hu.append hfour
  have h := atomFor_unescaped.spells.cons_options (hshort.cons_options hcode.options)
  rw [Json.charTexts, add_assoc]
  exact h

/-- The characters of a string, as many as a quantifier says. -/
theorem spells_stringCharPattern {q : List Char} {least : Nat} {most : Option Nat}
    (hq : Quantifies q least most) (hmost : ∀ n ∈ most, least ≤ n) :
    Spells (stringCharPattern.toList ++ q) (repetition Json.charTexts least most) := by
  rw [stringCharPattern_toList]
  exact spellsOptions_stringChar.quantified hq hmost

end GuidedJson.Schema
