import GuidedJson.Proofs.Pattern.CharSets
import GuidedJson.Proofs.Results

/-!
# Ample expressions

A symbol of a set is a character, or it lies beyond the last code point and stands for characters
that the pattern does not name. A set is ample if a symbol of the second kind stands for no less
than all characters that are not ASCII. The expressions that chains, choices and repetitions make of
ample sets match some text, and so do the parts that pattern texts are read as.
-/

namespace GuidedJson.Pattern

/-! ## Sets -/

/-- A set with some character in it, and with every character that is not ASCII if it has a symbol
that is no character. -/
structure CharSet.Ample (s : CharSet) : Prop where
  inhabited : ∃ c : Char, c ∈ s
  covered : ∀ n, s.has n = true → n.isValidChar ∨ ∀ c : Char, 0x80 ≤ c.toNat → c ∈ s

theorem CharSet.Ample.mem_of_not_valid {s : CharSet} (h : s.Ample) {n : Nat} (hn : ¬ n.isValidChar)
    (hhas : s.has n = true) {c : Char} (hc : 0x80 ≤ c.toNat) : c ∈ s :=
  (h.covered n hhas).resolve_left hn c hc

theorem ample_single (c : Char) : ((CharClass.single c.toNat).set false).Ample := by
  refine ⟨⟨c, has_single.2 rfl⟩, fun n hn => .inl ?_⟩
  have hranges : c.toNat ≤ n ∧ n ≤ c.toNat := by
    simpa [CharClass.set, CharClass.single, CharSet.has] using hn
  obtain rfl : n = c.toNat := by omega
  exact c.valid

/-- A class that names ASCII characters only is ample, negated or not. -/
theorem ample_of_ascii {k : CharClass} (h : ∀ r ∈ k.chars.ranges, r.2 < 0x80)
    (hchar : ∃ c : Char, c ∈ k.set false) : (k.set false).Ample := by
  have hnamed : ∀ n, k.chars.has n = true → n < 0x80 := by
    intro n hn
    obtain ⟨r, hr, hrn⟩ := List.any_eq_true.1 hn
    have := h r hr
    simp only [Bool.and_eq_true, decide_eq_true_eq] at hrn
    omega
  refine ⟨hchar, fun n hn => ?_⟩
  obtain ⟨s, _ | _⟩ := k
  -- What the class names has no symbol beyond the characters; negated, it leaves only ASCII out.
  · have hlt : n < 0x80 := hnamed n hn
    exact .inl (.inl (by omega))
  · refine .inr fun c hc => ?_
    show s.compl.has c.toNat = true
    rw [CharSet.has_compl, Bool.not_eq_true', Bool.eq_false_iff]
    intro hhas
    exact absurd (hnamed c.toNat hhas) (Nat.not_lt.2 hc)

/-! ## Expressions -/

/-- Expressions that chains, choices and repetitions make of sets with a property. -/
inductive Regex.MadeOf (P : CharSet → Prop) : Regex → Prop
  | chars {s} : P s → MadeOf P (.chars s)
  | chain {rs} : (∀ r ∈ rs, MadeOf P r) → MadeOf P (.chain rs)
  | choice {rs} : rs ≠ [] → (∀ r ∈ rs, MadeOf P r) → MadeOf P (.choice rs)
  | repeated {r} (least : Nat) (more : Option Nat) : MadeOf P r → MadeOf P (.repeated r least more)

namespace Regex

variable {P : CharSet → Prop} {r : Regex} {rs : List Regex}

theorem madeOf_joined (h : ∀ r ∈ rs, r.MadeOf P) : (joined rs).MadeOf P := by
  match rs with
  | [] => exact .chain h
  | [r] => exact h r List.mem_cons_self
  | _ :: _ :: _ => exact .chain h

theorem madeOf_oneOf (hne : rs ≠ []) (h : ∀ r ∈ rs, r.MadeOf P) : (oneOf rs).MadeOf P := by
  match rs with
  | [] => exact .choice hne h
  | [r] => exact h r List.mem_cons_self
  | _ :: _ :: _ => exact .choice hne h

/-- An expression of sets with characters in them matches some text. -/
theorem MadeOf.exists_matches (h : r.MadeOf P) (hP : ∀ s, P s → ∃ c : Char, c ∈ s) :
    ∃ w, r.Matches w := by
  induction h with
  | chars hs =>
    obtain ⟨c, hc⟩ := hP _ hs
    exact ⟨[c], matches_chars.2 ⟨c, hc, rfl⟩⟩
  | @chain rs _ ih =>
    induction rs with
    | nil => exact ⟨[], matches_chain_nil.2 rfl⟩
    | cons r rs ihrs =>
      obtain ⟨u, hu⟩ := ih r List.mem_cons_self
      obtain ⟨v, hv⟩ := ihrs (fun s hs => ‹∀ r ∈ _, MadeOf P r› s (List.mem_cons_of_mem r hs))
        fun s hs => ih s (List.mem_cons_of_mem r hs)
      exact ⟨u ++ v, matches_chain_cons.2 ⟨u, v, rfl, hu, hv⟩⟩
  | @choice rs hne _ ih =>
    obtain ⟨r, hr⟩ := List.exists_mem_of_ne_nil rs hne
    obtain ⟨w, hw⟩ := ih r hr
    exact ⟨w, matches_choice.2 ⟨r, hr, hw⟩⟩
  | repeated least more _ ih =>
    obtain ⟨w, hw⟩ := ih
    -- As many copies as there must be are enough, whatever the upper bound.
    refine ⟨(List.replicate least w).flatten, List.replicate least w, by simp, ?_, ?_, rfl⟩
    · intro n _
      rw [List.length_replicate]
      omega
    · intro u hu
      rw [List.eq_of_mem_replicate hu]
      exact hw

end Regex

/-! ## Parts -/

/-- A plain part that stands, if for anything, for an expression of ample sets. -/
structure Syntax.Ample (p : Syntax) : Prop extends p.Plain where
  madeOf : ∀ r, Regex.ofSyntax .none (0, 0) p = .ok r → r.MadeOf CharSet.Ample

section Parts

variable {p : Syntax} {ps : List Syntax}

theorem ample_chars {k : CharClass} (h : (k.set false).Ample) : (Syntax.chars k).Ample := by
  refine ⟨plain_chars k, fun r hr => ?_⟩
  cases hr
  exact .chars h

section Lists

variable (h : ∀ p ∈ ps, p.Ample)
include h

theorem madeOf_ofParts {rs : List Regex} (hrs : Regex.ofParts .none [] ps = .ok rs) :
    ∀ r ∈ rs, r.MadeOf CharSet.Ample := by
  induction ps generalizing rs with
  | nil =>
    cases hrs
    simp
  | cons p ps ih =>
    obtain ⟨hp, hps⟩ := List.forall_mem_cons.1 h
    rw [Regex.ofParts] at hrs
    · obtain ⟨r, hr, hrs⟩ := exceptBind_eq_ok.1 hrs
      obtain ⟨rest, hrest, hrs⟩ := exceptBind_eq_ok.1 hrs
      cases hrs
      exact List.forall_mem_cons.2 ⟨hp.madeOf r hr, ih hps hrest⟩
    · exact fun behind negated part => hp.no_look behind negated part

theorem madeOf_ofOptions {rs : List Regex} (hrs : Regex.ofOptions .none (0, 0) ps = .ok rs) :
    rs.length = ps.length ∧ ∀ r ∈ rs, r.MadeOf CharSet.Ample := by
  induction ps generalizing rs with
  | nil =>
    cases hrs
    simp
  | cons p ps ih =>
    obtain ⟨hp, hps⟩ := List.forall_mem_cons.1 h
    rw [Regex.ofOptions] at hrs
    obtain ⟨r, hr, hrs⟩ := exceptBind_eq_ok.1 hrs
    obtain ⟨rest, hrest, hrs⟩ := exceptBind_eq_ok.1 hrs
    obtain ⟨hlen, hall⟩ := ih hps hrest
    cases hrs
    exact ⟨by simp [hlen], List.forall_mem_cons.2 ⟨hp.madeOf r hr, hall⟩⟩

theorem ample_sequence : (Syntax.sequence ps).Ample := by
  have hplain : ∀ p ∈ ps, p.Plain := fun p hp => (h p hp).toPlain
  refine ⟨plain_sequence hplain, fun r hr => ?_⟩
  rw [ofSyntax_sequence_of_plain hplain] at hr
  obtain ⟨rs, hrs, rfl⟩ := exceptMap_eq_ok.1 hr
  exact Regex.madeOf_joined (madeOf_ofParts h hrs)

theorem ample_group (hne : ps ≠ []) : (Syntax.group .none .none ps).Ample := by
  refine ⟨plain_group fun p hp => (h p hp).toPlain, fun r hr => ?_⟩
  rw [Regex.ofSyntax, Modes.enter_none] at hr
  obtain ⟨rs, hrs, rfl⟩ := exceptMap_eq_ok.1 hr
  obtain ⟨hlen, hall⟩ := madeOf_ofOptions h hrs
  have hsome : rs ≠ [] := by
    rintro rfl
    exact hne (List.length_eq_zero_iff.1 hlen.symm)
  exact Regex.madeOf_oneOf hsome hall

end Lists

/-- Bounds out of order make no expression. -/
theorem ample_repeated (h : p.Ample) (least : Nat) (most : Option Nat) :
    (Syntax.repeated p least most).Ample := by
  refine ⟨plain_repeated h.toPlain least most, fun r hr => ?_⟩
  rw [Regex.ofSyntax] at hr
  obtain ⟨part, hpart, hr⟩ := exceptBind_eq_ok.1 hr
  cases most with
  | none =>
    cases hr
    exact .repeated least none (h.madeOf part hpart)
  | some n =>
    dsimp only [Regex.between] at hr
    split at hr
    · cases hr
    · cases hr
      exact .repeated least _ (h.madeOf part hpart)

end Parts

/-! ## Texts -/

/-- Whether a pattern text is read as ample parts one after the other. -/
def AmpleText (cs : List Char) : Prop := ∃ ps, Reads cs ps ∧ ∀ p ∈ ps, p.Ample

/-- Whether a pattern text is read as ample alternatives. -/
def AmpleOptions (cs : List Char) : Prop :=
  ∃ ps, ReadsOptions cs ps ∧ ps ≠ [] ∧ ∀ p ∈ ps, p.Ample

/-- Whether a text is an atom for an ample class. -/
def AmpleAtom (cs : List Char) : Prop := ∃ k : CharClass, Atom cs (.chars k) ∧ (k.set false).Ample

section Texts

variable {cs ds q : List Char} {p : Syntax} {least : Nat} {most : Option Nat}

theorem ampleText_nil : AmpleText [] := ⟨[], reads_nil, by simp⟩

theorem AmpleText.append (hcs : AmpleText cs) (hds : AmpleText ds) : AmpleText (cs ++ ds) := by
  obtain ⟨ps, hps, hp⟩ := hcs
  obtain ⟨qs, hqs, hq⟩ := hds
  exact ⟨ps ++ qs, hps.append hqs, List.forall_mem_append.2 ⟨hp, hq⟩⟩

theorem AmpleText.of_part (hcs : ReadsPart cs p) (hp : p.Ample) : AmpleText cs :=
  ⟨[p], hcs.reads, List.forall_mem_singleton.2 hp⟩

theorem AmpleAtom.text (h : AmpleAtom cs) : AmpleText cs := by
  obtain ⟨k, hatom, hk⟩ := h
  exact .of_part hatom.readsPart (ample_chars hk)

theorem AmpleAtom.quantified (h : AmpleAtom cs) (hq : Quantifies q least most) :
    AmpleText (cs ++ q) := by
  obtain ⟨k, hatom, hk⟩ := h
  exact .of_part (hatom.quantified hq) (ample_repeated (ample_chars hk) least most)

theorem AmpleText.options (h : AmpleText cs) : AmpleOptions cs := by
  obtain ⟨ps, hps, hp⟩ := h
  exact ⟨_, hps.options, by simp, List.forall_mem_singleton.2 (ample_sequence hp)⟩

theorem AmpleText.cons_options (hcs : AmpleText cs) (hds : AmpleOptions ds) :
    AmpleOptions (cs ++ '|' :: ds) := by
  obtain ⟨ps, hps, hp⟩ := hcs
  obtain ⟨qs, hqs, -, hq⟩ := hds
  exact ⟨_, hps.cons_options hqs, by simp, List.forall_mem_cons.2 ⟨ample_sequence hp, hq⟩⟩

theorem AmpleOptions.group (h : AmpleOptions cs) : AmpleText ('(' :: cs ++ [')']) := by
  obtain ⟨ps, hps, hne, hp⟩ := h
  exact .of_part hps.group (ample_group hp hne)

theorem AmpleOptions.quantified (h : AmpleOptions cs) (hq : Quantifies q least most) :
    AmpleText ('(' :: cs ++ [')'] ++ q) := by
  obtain ⟨ps, hps, hne, hp⟩ := h
  exact .of_part (hps.quantified hq) (ample_repeated (ample_group hp hne) least most)

/-- The expression of an ample text is made of ample sets. -/
theorem AmpleOptions.madeOf {s : String} {r : Regex} (h : AmpleOptions s.toList)
    (hr : Regex.read s = .ok r) : r.MadeOf CharSet.Ample := by
  obtain ⟨ps, hps, hne, hp⟩ := h
  have hgroup := ample_group hp hne
  have hplain := lastModesOf_of_plain fun p hmem => (hp p hmem).toPlain
  rw [Regex.read, hps.read_eq, hplain, Option.getD_none] at hr
  simp only [bind, Except.bind, hgroup.whole, hgroup.roomless, Bool.false_eq_true, if_false] at hr
  exact hgroup.madeOf r hr

end Texts

end GuidedJson.Pattern
