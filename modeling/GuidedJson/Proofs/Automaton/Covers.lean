import GuidedJson.Proofs.Automaton.Living
import GuidedJson.Proofs.Pattern.Ample
import GuidedJson.Proofs.Text.Utf8

/-!
# Characters in place of classes

A class may stand for symbols that no text has. Where the sets of an expression are ample, some
character lies in every set that the class lies in, and putting it there keeps a text accepted. So
in the machine of such an expression every state that is alive leads to the end of some text, and a
state that can be left between two code points is left by a character between them.
-/

namespace GuidedJson.Automaton

open Pattern (CharSet Regex)

/-! ## Characters that cover classes -/

/-- Whether a character lies in every set of some kind that the sample of a class lies in. -/
def Covers (Q : CharSet → Prop) (samples : Array Nat) (k : Nat) (c : Char) : Prop :=
  ∀ s, Q s → ∀ h : k < samples.size, s.has samples[k] = true → c ∈ s

section Covers

variable {Q : CharSet → Prop} {samples : Array Nat} {k : Nat}

theorem exists_covers (hQ : ∀ s, Q s → s.Ample) (samples : Array Nat) (k : Nat) :
    ∃ c, Covers Q samples k c := by
  by_cases h : ∃ hk : k < samples.size, samples[k].isValidChar
  · obtain ⟨hk, hvalid⟩ := h
    refine ⟨Char.ofNat samples[k], fun s _ _ hhas => ?_⟩
    have hchar : (Char.ofNat samples[k]).toNat = samples[k] :=
      Text.Utf8.toNat_ofNat_of_valid hvalid
    rwa [Pattern.CharSet.mem_iff, hchar]
  -- A set that holds a symbol beyond the characters holds everything that is not ASCII.
  · refine ⟨Char.ofNat 0x80, fun s hs hk hhas => ?_⟩
    exact (hQ s hs).mem_of_not_valid (fun hvalid => h ⟨hk, hvalid⟩) hhas (by decide)

theorem exists_forall₂_covers (hQ : ∀ s, Q s → s.Ample) (ks : List Nat) :
    ∃ v, List.Forall₂ (Covers Q samples) ks v := by
  induction ks with
  | nil => exact ⟨[], .nil⟩
  | cons k ks ih =>
    obtain ⟨c, hc⟩ := exists_covers hQ samples k
    obtain ⟨v, hv⟩ := ih
    exact ⟨c :: v, .cons hc hv⟩

/-! ## Tables -/

theorem tablesOf_eq_map (samples : Array Nat) (rs : List Regex) :
    tablesOf samples rs = rs.map (tableOf samples) := by
  induction rs with
  | nil => rfl
  | cons r rs ih => rw [tablesOf, ih, List.map_cons]

/-- What a table accepts the expression matches, once characters that cover the classes are put in
their places. -/
theorem carries_tableOf {r : Regex} (h : r.MadeOf Q) :
    (tableOf samples r).Proper samples.size ∧
      Carries (Covers Q samples) (tableOf samples r).language r.language := by
  induction h with
  | @chars s hs =>
    refine ⟨Table.proper_ofSet, fun ks hks v hv => ?_⟩
    obtain ⟨k, rfl, hk, hhas⟩ := Table.mem_language_ofSet.1 hks
    obtain ⟨c, _, hc, hnil, rfl⟩ := List.forall₂_cons_left_iff.1 hv
    obtain rfl := List.forall₂_nil_left_iff.1 hnil
    exact Regex.matches_chars.2 ⟨c, hc s hs hk hhas, rfl⟩
  | @chain rs _ ih =>
    have hproper : ∀ t ∈ tablesOf samples rs, t.Proper samples.size := by
      rw [tablesOf_eq_map, List.forall_mem_map]
      exact fun r hr => (ih r hr).1
    obtain ⟨hchain, hl⟩ := Table.chain_spec hproper
    refine ⟨hchain, ?_⟩
    rw [tableOf, hl, tablesOf_eq_map, List.map_map, Regex.language_chain]
    exact carries_prod fun r hr => (ih r hr).2
  | @choice rs _ _ ih =>
    have hproper : ∀ t ∈ tablesOf samples rs, t.Proper samples.size := by
      rw [tablesOf_eq_map, List.forall_mem_map]
      exact fun r hr => (ih r hr).1
    obtain ⟨hchoice, hl⟩ := Table.choice_spec hproper
    refine ⟨hchoice, ?_⟩
    rw [tableOf, hl, tablesOf_eq_map, List.map_map, Regex.language_choice]
    exact carries_sum fun r hr => (ih r hr).2
  | repeated least more _ ih =>
    obtain ⟨hrep, hl⟩ := Table.repeated_spec ih.1 least more
    refine ⟨hrep, ?_⟩
    rw [tableOf, hl, Regex.language_repeated]
    exact ih.2.copies least more

end Covers

/-- An expression is made of its own sets. -/
theorem madeOf_of_forall_setsOf {P Q : CharSet → Prop} {r : Regex} (h : r.MadeOf P)
    {found : List CharSet} (hQ : ∀ s ∈ setsOf r found, P s → Q s) : r.MadeOf Q := by
  -- The sets of a list are those of its expressions, found in turn.
  have all : ∀ {rs : List Regex} {found : List CharSet},
      (∀ r ∈ rs, ∀ {found : List CharSet}, (∀ s ∈ setsOf r found, P s → Q s) → r.MadeOf Q) →
        (∀ s ∈ setsOfAll rs found, P s → Q s) → ∀ r ∈ rs, r.MadeOf Q := by
    intro rs found ih hQ
    induction rs with
    | nil => simp
    | cons r rs ihrs =>
      obtain ⟨hr, hrs⟩ := List.forall_mem_cons.1 ih
      exact List.forall_mem_cons.2 ⟨hr hQ, ihrs hrs fun s hs => hQ s (mem_setsOf_of_mem hs)⟩
  induction h generalizing found with
  | @chars s hs => exact .chars (hQ s List.mem_cons_self hs)
  | chain _ ih => exact .chain (all (fun r hr => ih r hr) hQ)
  | choice hne _ ih => exact .choice hne (all (fun r hr => ih r hr) hQ)
  | repeated least more _ ih => exact .repeated least more (ih hQ)

/-! ## Machines -/

namespace Machine

variable {r : Regex}

/-- The ample sets of an expression. -/
def AmpleIn (r : Regex) (s : CharSet) : Prop := s.Ample ∧ s ∈ setsOf r []

/-- Whether a character may be put in the place of a class of an expression's machine. -/
def Fills (r : Regex) (k : Nat) (c : Char) : Prop :=
  Covers (AmpleIn r) (Alphabet.ofRegex r).samples k c

theorem has_sample {s : CharSet} (hs : AmpleIn r s) (n : Nat) :
    ∃ h : (Alphabet.ofRegex r).classOf n < (Alphabet.ofRegex r).samples.size,
      s.has (Alphabet.ofRegex r).samples[(Alphabet.ofRegex r).classOf n] = s.has n :=
  Alphabet.has_sample_classOf hs.2 n

/-- A character fills its own class. -/
theorem fills_classOf (r : Regex) (c : Char) :
    Fills r ((Alphabet.ofRegex r).classOf c.toNat) c := by
  intro s hs _ hhas
  obtain ⟨_, heq⟩ := has_sample hs c.toNat
  rwa [heq] at hhas

/-- The class of a symbol beyond the last code point is filled by every character that is not
ASCII. -/
theorem fills_classOf_of_not_valid {n : Nat} (hn : ¬ n.isValidChar) {c : Char}
    (hc : 0x80 ≤ c.toNat) : Fills r ((Alphabet.ofRegex r).classOf n) c := by
  intro s hs _ hhas
  obtain ⟨_, heq⟩ := has_sample hs n
  exact hs.1.mem_of_not_valid hn (heq ▸ hhas) hc

/-- The symbol of a form of a letter lies beyond the last code point, unless the form is one
character. -/
theorem formSymbol_cases (ns : List Nat) :
    (∃ n, ns = [n] ∧ Pattern.formSymbol ns = n) ∨ ¬ (Pattern.formSymbol ns).isValidChar := by
  have hbeyond : ∀ k, ¬ (Pattern.otherSymbol + 1 + k).isValidChar := by
    intro k
    simp only [Nat.isValidChar, Pattern.otherSymbol]
    omega
  match ns with
  | [n] => exact .inl ⟨n, rfl, rfl⟩
  | [] => exact .inr (hbeyond _)
  | _ :: _ :: _ => exact .inr (hbeyond _)

section Ample

variable (h : r.MadeOf CharSet.Ample)
include h

/-- A text that is walked and classes that are read to an end behind it: characters in the places
of the classes complete the text. -/
theorem matches_of_ends {w v : List Char} {s : Nat} {ks : List Nat}
    (hw : (Machine.ofRegex r).run start w = some s) (hends : (Machine.ofRegex r).table.Ends s ks)
    (hv : List.Forall₂ (Fills r) ks v) : r.Matches (w ++ v) := by
  -- Classes tell apart only what the sets of this expression do, so covering is asked of those.
  have hsets : r.MadeOf (AmpleIn r) := madeOf_of_forall_setsOf h fun s hs hample => ⟨hample, hs⟩
  have hfills : List.Forall₂ (Fills r)
      (w.map fun c => (Alphabet.ofRegex r).classOf c.toNat) w :=
    List.forall₂_map_left_iff.2 (List.forall₂_same.2 fun c _ => fills_classOf r c)
  exact (carries_tableOf hsets).2 _ ((made_ofRegex r).ends_append hw hends) _
    (List.rel_append hfills hv)

theorem alive_start : (Machine.ofRegex r).alive start = true := by
  obtain ⟨w, hw⟩ := h.exists_matches fun _ hs => hs.inhabited
  have hends := (made_ofRegex r).run_final_iff.1 (mem_language_ofRegex.2 hw)
  exact (made_ofRegex r).alive_iff.2 ⟨(made_ofRegex r).proper.size_pos, _, hends⟩

theorem alive_of_run {w : List Char} {s : Nat} (hw : (Machine.ofRegex r).run start w = some s) :
    (Machine.ofRegex r).alive s = true := by
  rcases eq_or_alive_of_run hw with rfl | halive
  · exact alive_start h
  · exact halive

/-- Every text that is walked begins one that the expression matches. -/
theorem exists_matches_of_run {w : List Char} {s : Nat}
    (hw : (Machine.ofRegex r).run start w = some s) : ∃ v, r.Matches (w ++ v) := by
  obtain ⟨-, ks, hks⟩ := (made_ofRegex r).alive_iff.1 (alive_of_run h hw)
  obtain ⟨v, hv⟩ := exists_forall₂_covers (Q := AmpleIn r) (fun _ hs => hs.1) ks
  exact ⟨v, matches_of_ends h hw hks hv⟩

/-- Where a class leads on, a character that fills it leads on too. -/
theorem step_isSome_of_fills {w : List Char} {s k : Nat} {c : Char}
    (hw : (Machine.ofRegex r).run start w = some s)
    (hk : ((Machine.ofRegex r).stepClass s k).isSome = true) (hc : Fills r k c) :
    ((Machine.ofRegex r).step s c).isSome = true := by
  obtain ⟨q, hq⟩ := Option.isSome_iff_exists.1 hk
  obtain ⟨hnext, ks, hks⟩ := (made_ofRegex r).stepClass_eq_some_iff.1 hq
  obtain ⟨v, hv⟩ := exists_forall₂_covers (Q := AmpleIn r) (fun _ hs => hs.1) ks
  -- With the character in the place of the class the text is matched, and so the machine walks it.
  have hends : (Machine.ofRegex r).table.Ends s (k :: ks) := ⟨q, hnext, hks⟩
  have hmatches : r.Matches (w ++ c :: v) := matches_of_ends h hw hends (.cons hc hv)
  obtain ⟨t, ht, -⟩ := mem_language_ofRegex.2 hmatches
  rw [run_append, hw, Option.bind_some, run] at ht
  obtain ⟨p, hp, -⟩ := Option.bind_eq_some_iff.1 ht
  rw [hp, Option.isSome_some]

/-- Where a symbol of a range leads on, or one that is no character, a character of the range leads
on too. -/
theorem exists_step_of_symbol {w : List Char} {s low high n : Nat}
    (hw : (Machine.ofRegex r).run start w = some s) (hlow : 0x80 ≤ low) (hle : low ≤ high)
    (hvalid : ∀ n, low ≤ n → n ≤ high → n.isValidChar)
    (hn : low ≤ n ∧ n ≤ high ∨ ¬ n.isValidChar)
    (hk : ((Machine.ofRegex r).stepClass s ((Alphabet.ofRegex r).classOf n)).isSome = true) :
    ∃ c : Char, low ≤ c.toNat ∧ c.toNat ≤ high ∧
      ((Machine.ofRegex r).step s c).isSome = true := by
  rcases hn with ⟨hn, hn'⟩ | hn
  · have heq : (Char.ofNat n).toNat = n := Text.Utf8.toNat_ofNat_of_valid (hvalid n hn hn')
    refine ⟨Char.ofNat n, by omega, by omega, ?_⟩
    rw [← heq] at hk
    exact hk
  -- Such a symbol stands for all characters that are not ASCII, so the first of the range will do.
  · have heq : (Char.ofNat low).toNat = low :=
      Text.Utf8.toNat_ofNat_of_valid (hvalid low (Nat.le_refl low) hle)
    refine ⟨Char.ofNat low, by omega, by omega, ?_⟩
    exact step_isSome_of_fills h hw hk (fills_classOf_of_not_valid hn (by omega))

/-- Behind a text that is walked, something can be read between two code points exactly if a
character between them leads on. -/
theorem canRead_iff {w : List Char} {s low high : Nat}
    (hw : (Machine.ofRegex r).run start w = some s) (hlow : 0x80 ≤ low) (hle : low ≤ high)
    (hvalid : ∀ n, low ≤ n → n ≤ high → n.isValidChar) :
    (Machine.ofRegex r).canRead s low high = true ↔
      ∃ c : Char, low ≤ c.toNat ∧ c.toNat ≤ high ∧
        ((Machine.ofRegex r).step s c).isSome = true := by
  constructor
  · intro hread
    simp only [canRead, Bool.or_eq_true, List.any_eq_true] at hread
    -- What is read is the symbol of no set, a class of the range, or the form of a letter.
    rcases hread with (hother | ⟨k, hk, hleaves⟩) | ⟨n, hn, hleaves⟩
    · have hbeyond : ¬ Pattern.otherSymbol.isValidChar := by decide
      exact exists_step_of_symbol h hw hlow hle hvalid (.inr hbeyond) hother
    · obtain ⟨n, hn, hn', rfl⟩ := ((made_ofRegex r).ordered.mem_classesBetween_iff hle).1 hk
      exact exists_step_of_symbol h hw hlow hle hvalid (.inl ⟨hn, hn'⟩) hleaves
    · obtain ⟨ns, hns, rfl⟩ := List.mem_map.1 hn
      obtain ⟨-, hhead⟩ := List.mem_filter.1 hns
      refine exists_step_of_symbol h hw hlow hle hvalid ?_ hleaves
      refine (formSymbol_cases ns).imp_left ?_
      rintro ⟨n, rfl, hform⟩
      rw [hform]
      simpa using hhead
  · rintro ⟨c, hc, hc', hstep⟩
    obtain ⟨q, hq⟩ := Option.isSome_iff_exists.1 hstep
    exact (made_ofRegex r).canRead_of_step hq hc hc'

end Ample

end Machine

end GuidedJson.Automaton
