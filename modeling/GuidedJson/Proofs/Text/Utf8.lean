import GuidedJson.Text.Utf8
import Mathlib.Tactic.Common

/-!
# Spelled characters

The reader accepts the octets of a character, one after the other, and nothing else is a character
to it. While octets are owed the character lies in the span of what was read.
-/

namespace GuidedJson.Text.Utf8

/-! ## Octets of characters -/

theorem toNat_ofNat_of_lt {n : Nat} (h : n < 256) : (UInt8.ofNat n).toNat = n := by
  simp [Nat.mod_eq_of_lt h]

theorem char_bounds (c : Char) : c.toNat < 0xD800 ∨ 0xDFFF < c.toNat ∧ c.toNat < 0x110000 := c.valid

theorem toNat_ofNat_of_valid {n : Nat} (h : n < 0xD800 ∨ 0xDFFF < n ∧ n < 0x110000) :
    (Char.ofNat n).toNat = n := by
  have hv : n.isValidChar := h
  rw [Char.ofNat, dif_pos hv]
  rfl

section Encoding

variable {c : Char}

theorem encodeChar_one (h : c.toNat < 0x80) : encodeChar c = [UInt8.ofNat c.toNat] := by
  have h' : c.val.toNat ≤ 0x7F := Nat.le_of_lt_succ h
  rw [encodeChar, String.utf8EncodeChar, if_pos h']
  rfl

theorem encodeChar_two (h : 0x80 ≤ c.toNat) (h' : c.toNat < 0x800) :
    encodeChar c = [UInt8.ofNat (0xC0 + c.toNat / 64), UInt8.ofNat (0x80 + c.toNat % 64)] := by
  have h1 : ¬ c.val.toNat ≤ 0x7F := Nat.not_le.2 h
  have h2 : c.val.toNat ≤ 0x7FF := Nat.le_of_lt_succ h'
  have hdiv : c.val.toNat / 64 % 0x20 + 0xC0 = 0xC0 + c.toNat / 64 := by
    show c.toNat / 64 % 0x20 + 0xC0 = _
    omega
  rw [encodeChar, String.utf8EncodeChar, if_neg h1, if_pos h2, hdiv, Nat.add_comm (_ % _)]
  rfl

theorem encodeChar_three (h : 0x800 ≤ c.toNat) (h' : c.toNat < 0x10000) :
    encodeChar c = [UInt8.ofNat (0xE0 + c.toNat / 4096), UInt8.ofNat (0x80 + c.toNat / 64 % 64),
      UInt8.ofNat (0x80 + c.toNat % 64)] := by
  have h1 : ¬ c.val.toNat ≤ 0x7F := Nat.not_le.2 (Nat.lt_of_lt_of_le (by decide) h)
  have h2 : ¬ c.val.toNat ≤ 0x7FF := Nat.not_le.2 h
  have h3 : c.val.toNat ≤ 0xFFFF := Nat.le_of_lt_succ h'
  have hdiv : c.val.toNat / 4096 % 0x10 + 0xE0 = 0xE0 + c.toNat / 4096 := by
    show c.toNat / 4096 % 0x10 + 0xE0 = _
    omega
  rw [encodeChar, String.utf8EncodeChar, if_neg h1, if_neg h2, if_pos h3, hdiv,
    Nat.add_comm (c.val.toNat / 64 % _), Nat.add_comm (c.val.toNat % _)]
  rfl

theorem encodeChar_four (h : 0x10000 ≤ c.toNat) :
    encodeChar c = [UInt8.ofNat (0xF0 + c.toNat / 262144), UInt8.ofNat (0x80 + c.toNat / 4096 % 64),
      UInt8.ofNat (0x80 + c.toNat / 64 % 64), UInt8.ofNat (0x80 + c.toNat % 64)] := by
  have h1 : ¬ c.val.toNat ≤ 0x7F := Nat.not_le.2 (Nat.lt_of_lt_of_le (by decide) h)
  have h2 : ¬ c.val.toNat ≤ 0x7FF := Nat.not_le.2 (Nat.lt_of_lt_of_le (by decide) h)
  have h3 : ¬ c.val.toNat ≤ 0xFFFF := Nat.not_le.2 h
  have hdiv : c.val.toNat / 262144 % 0x08 + 0xF0 = 0xF0 + c.toNat / 262144 := by
    have := char_bounds c
    show c.toNat / 262144 % 0x08 + 0xF0 = _
    omega
  rw [encodeChar, String.utf8EncodeChar, if_neg h1, if_neg h2, if_neg h3, hdiv,
    Nat.add_comm (c.val.toNat / 4096 % _), Nat.add_comm (c.val.toNat / 64 % _),
    Nat.add_comm (c.val.toNat % _)]
  rfl

end Encoding

/-! ## The first octet -/

section First

variable {b : Nat}

theorem first_one (h : b < 0x80) : first b = .char (Char.ofNat b) := if_pos h

theorem first_two (h : 0xC2 ≤ b) (h' : b < 0xE0) :
    first b = .more ⟨1, b - 0xC0, 0x80, 0xBF⟩ := by
  unfold first
  rw [if_neg (by omega), if_neg (by omega), if_pos h']

/-- The second octet must not make the form overlong, nor a surrogate. -/
theorem first_three (h : 0xE0 ≤ b) (h' : b < 0xF0) :
    first b = .more ⟨2, b - 0xE0, if b = 0xE0 then 0xA0 else 0x80,
      if b = 0xED then 0x9F else 0xBF⟩ := by
  unfold first
  rw [if_neg (by omega), if_neg (by omega), if_neg (by omega)]
  by_cases hlow : b = 0xE0
  · simp [hlow]
  · by_cases hhigh : b = 0xED
    · simp [hhigh]
    · simp [hlow, hhigh, h']

/-- The second octet must not make the form overlong, nor the code point too large. -/
theorem first_four (h : 0xF0 ≤ b) (h' : b < 0xF5) :
    first b = .more ⟨3, b - 0xF0, if b = 0xF0 then 0x90 else 0x80,
      if b = 0xF4 then 0x8F else 0xBF⟩ := by
  unfold first
  rw [if_neg (by omega), if_neg (by omega), if_neg (by omega), if_neg (by omega),
    if_neg (by omega), if_neg (by omega)]
  by_cases hlow : b = 0xF0
  · simp [hlow]
  · by_cases hhigh : b = 0xF4
    · simp [hhigh]
    · simp [hlow, hhigh, show b < 0xF4 by omega]

theorem first_refused (h : 0x80 ≤ b ∧ b < 0xC2 ∨ 0xF5 ≤ b) : first b = .refused := by
  unfold first
  rcases h with ⟨h, h'⟩ | h
  · rw [if_neg (by omega), if_pos h']
  · rw [if_neg (by omega), if_neg (by omega), if_neg (by omega), if_neg (by omega),
      if_neg (by omega), if_neg (by omega), if_neg (by omega), if_neg (by omega),
      if_neg (by omega)]

/-- The kinds of first octets. -/
theorem first_cases (b : Nat) : b < 0x80 ∨ (0x80 ≤ b ∧ b < 0xC2 ∨ 0xF5 ≤ b) ∨
    0xC2 ≤ b ∧ b < 0xE0 ∨ 0xE0 ≤ b ∧ b < 0xF0 ∨ 0xF0 ≤ b ∧ b < 0xF5 := by
  omega

end First

/-! ## Later octets -/

section Next

variable {p : Partial} {b : Nat}

theorem next_char (hlow : p.low ≤ b) (hhigh : b ≤ p.high) (howed : p.owed ≤ 1) :
    next p b = .char (Char.ofNat (p.bits * 64 + (b - 0x80))) := by
  unfold next
  rw [if_pos (by simp [hlow, hhigh]), if_pos howed]

theorem next_more (hlow : p.low ≤ b) (hhigh : b ≤ p.high) (howed : 1 < p.owed) :
    next p b = .more ⟨p.owed - 1, p.bits * 64 + (b - 0x80), 0x80, 0xBF⟩ := by
  unfold next
  rw [if_pos (by simp [hlow, hhigh]), if_neg (by omega)]

theorem next_eq_char {c : Char} (h : next p b = .char c) : p.low ≤ b ∧ b ≤ p.high ∧ p.owed ≤ 1 ∧
    c = Char.ofNat (p.bits * 64 + (b - 0x80)) := by
  unfold next at h
  split at h
  · rename_i hb
    rw [Bool.and_eq_true, decide_eq_true_eq, decide_eq_true_eq] at hb
    simp only at h
    split at h
    · rename_i howed
      exact ⟨hb.1, hb.2, howed, (Outcome.char.inj h).symm⟩
    · cases h
  · cases h

theorem next_eq_more {q : Partial} (h : next p b = .more q) : p.low ≤ b ∧ b ≤ p.high ∧
    1 < p.owed ∧ q = ⟨p.owed - 1, p.bits * 64 + (b - 0x80), 0x80, 0xBF⟩ := by
  unfold next at h
  split at h
  · rename_i hb
    rw [Bool.and_eq_true, decide_eq_true_eq, decide_eq_true_eq] at hb
    simp only at h
    split at h
    · cases h
    · rename_i howed
      exact ⟨hb.1, hb.2, by omega, (Outcome.more.inj h).symm⟩
  · cases h

end Next

/-! ## Characters -/

/-- What an octet leads to, between two characters or inside one. -/
def step : Option Partial → UInt8 → Outcome
  | none, b => first b.toNat
  | some p, b => next p b.toNat

/-- One octet is read, and then the others from where it leads to. -/
theorem readFrom_cons (state : Option Partial) (b : UInt8) (bs : List UInt8) :
    readFrom state (b :: bs) = match step state b with
      | .char c =>
        match readFrom none bs with
        | .text cs => .text (c :: cs)
        | r => r
      | .more p => readFrom (some p) bs
      | .refused => .invalid := by
  cases state <;> rfl

/-- The octets that are still owed of a character, each read inside the character's span. -/
inductive Spelled : Option Partial → List UInt8 → Char → Prop
  | last {state b c} : step state b = .char c → Spelled state [b] c
  | more {state b p bs c} : step state b = .more p → p.span.1 ≤ c.toNat → c.toNat ≤ p.span.2 →
      Spelled (some p) bs c → Spelled state (b :: bs) c

/-- Whether a code point lies in the span of what is owed of a character. -/
def Partial.Spans (p : Partial) (n : Nat) : Prop := p.span.1 ≤ n ∧ n ≤ p.span.2

section Spans

variable {bits low high n : Nat}

theorem spans_one_iff : (Partial.mk 1 bits low high).Spans n ↔
    bits * 64 + (low - 0x80) ≤ n ∧ n ≤ bits * 64 + (high - 0x80) := by
  have hunit : Nat.pow 64 (1 - 1) = 1 := rfl
  simp only [Partial.Spans, Partial.span, hunit]
  omega

theorem spans_two_iff : (Partial.mk 2 bits low high).Spans n ↔
    bits * 64 + (low - 0x80) ≤ n / 64 ∧ n / 64 ≤ bits * 64 + (high - 0x80) := by
  have hunit : Nat.pow 64 (2 - 1) = 64 := rfl
  simp only [Partial.Spans, Partial.span, hunit]
  omega

theorem spans_three_iff : (Partial.mk 3 bits low high).Spans n ↔
    bits * 64 + (low - 0x80) ≤ n / 4096 ∧ n / 4096 ≤ bits * 64 + (high - 0x80) := by
  have hunit : Nat.pow 64 (3 - 1) = 4096 := rfl
  simp only [Partial.Spans, Partial.span, hunit]
  omega

end Spans

section Spelling

variable {p : Partial} {c : Char} {n : Nat}

theorem Spelled.last_of_next (hn : n < 256) (hlow : p.low ≤ n) (hhigh : n ≤ p.high)
    (howed : p.owed ≤ 1) (hbits : p.bits * 64 + (n - 0x80) = c.toNat) :
    Spelled (some p) [UInt8.ofNat n] c := by
  apply Spelled.last
  rw [step, toNat_ofNat_of_lt hn, next_char hlow hhigh howed, hbits, Char.ofNat_toNat]

theorem Spelled.more_of_next (bits : Nat) {bs : List UInt8} (hn : n < 256) (hlow : p.low ≤ n)
    (hhigh : n ≤ p.high) (howed : 1 < p.owed) (hbits : p.bits * 64 + (n - 0x80) = bits)
    (hspan : (Partial.mk (p.owed - 1) bits 0x80 0xBF).Spans c.toNat)
    (h : Spelled (some ⟨p.owed - 1, bits, 0x80, 0xBF⟩) bs c) :
    Spelled (some p) (UInt8.ofNat n :: bs) c := by
  refine .more ?_ hspan.1 hspan.2 h
  rw [step, toNat_ofNat_of_lt hn, next_more hlow hhigh howed, hbits]

theorem Spelled.more_of_first {bs : List UInt8} (hn : n < 256) (hfirst : first n = .more p)
    (hspan : p.Spans c.toNat) (h : Spelled (some p) bs c) :
    Spelled none (UInt8.ofNat n :: bs) c := by
  refine .more ?_ hspan.1 hspan.2 h
  rw [step, toNat_ofNat_of_lt hn, hfirst]

/-- Every character is read from its octets. -/
theorem spelled_encodeChar (c : Char) : Spelled none (encodeChar c) c := by
  have hc := char_bounds c
  -- Split by the number of octets; each of them but the last leaves the character in its span.
  rcases Nat.lt_or_ge c.toNat 0x80 with h1 | h1
  · rw [encodeChar_one h1]
    apply Spelled.last
    rw [step, toNat_ofNat_of_lt (by omega), first_one h1, Char.ofNat_toNat]
  rcases Nat.lt_or_ge c.toNat 0x800 with h2 | h2
  · rw [encodeChar_two h1 h2]
    refine .more_of_first (by omega) (first_two (by omega) (by omega)) ?_ ?_
    · exact spans_one_iff.2 ⟨by omega, by omega⟩
    · exact .last_of_next (by omega) (by simp) (by simp; omega) (by simp) (by simp; omega)
  rcases Nat.lt_or_ge c.toNat 0x10000 with h3 | h3
  · rw [encodeChar_three h2 h3]
    refine .more_of_first (by omega) (first_three (by omega) (by omega)) ?_ ?_
    · exact spans_two_iff.2 ⟨by split_ifs <;> omega, by split_ifs <;> omega⟩
    · refine .more_of_next (c.toNat / 64) (by omega) (by simp only; split_ifs <;> omega)
        (by simp only; split_ifs <;> omega) (by simp) (by simp only; omega) ?_ ?_
      · exact spans_one_iff.2 ⟨by omega, by omega⟩
      · exact .last_of_next (by omega) (by simp) (by simp; omega) (by simp) (by simp; omega)
  · rw [encodeChar_four h3]
    refine .more_of_first (by omega) (first_four (by omega) (by omega)) ?_ ?_
    · exact spans_three_iff.2 ⟨by split_ifs <;> omega, by split_ifs <;> omega⟩
    · refine .more_of_next (c.toNat / 4096) (by omega) (by simp only; split_ifs <;> omega)
        (by simp only; split_ifs <;> omega) (by simp) (by simp only; omega) ?_ ?_
      · exact spans_two_iff.2 ⟨by omega, by omega⟩
      · refine .more_of_next (c.toNat / 64) (by omega) (by simp) (by simp; omega) (by simp)
          (by simp only; omega) ?_ ?_
        · exact spans_one_iff.2 ⟨by omega, by omega⟩
        · exact .last_of_next (by omega) (by simp) (by simp; omega) (by simp) (by simp; omega)

/-- The octets of a character are read as that character, whatever comes after them. -/
theorem Spelled.readFrom_append {state : Option Partial} {bs : List UInt8}
    (h : Spelled state bs c) (rest : List UInt8) :
    readFrom state (bs ++ rest) = match read rest with
      | .text cs => .text (c :: cs)
      | r => r := by
  induction h with
  | last hb =>
    simp only [List.singleton_append, readFrom_cons, hb]
    rfl
  | more hb _ _ _ ih => simp only [List.cons_append, readFrom_cons, hb, ih]

end Spelling

/-! ## Texts -/

theorem encode_append (cs ds : List Char) : encode (cs ++ ds) = encode cs ++ encode ds :=
  List.flatMap_append

theorem encode_cons (c : Char) (cs : List Char) : encode (c :: cs) = encodeChar c ++ encode cs :=
  List.flatMap_cons ..

theorem encode_singleton (c : Char) : encode [c] = encodeChar c := List.flatMap_singleton ..

/-- A text is read back from its octets. -/
theorem read_encode (cs : List Char) : read (encode cs) = .text cs := by
  induction cs with
  | nil => rfl
  | cons c cs ih =>
    have hread := (spelled_encodeChar c).readFrom_append (encode cs)
    rw [ih] at hread
    exact hread

theorem encode_injective : Function.Injective encode := by
  intro cs ds h
  have hread := read_encode cs
  rw [h, read_encode] at hread
  exact (Reading.text.inj hread).symm

/-! ## Octets of one character -/

/-- Octets that have been read of one character, and what is owed of it. -/
inductive Begins : List UInt8 → Partial → Prop
  | first {b p} : step none b = .more p → Begins [b] p
  | next {bs p b q} : Begins bs p → step (some p) b = .more q → Begins (bs ++ [b]) q

theorem ofNat_eq_of_toNat {b : UInt8} {n : Nat} (h : b.toNat = n) : UInt8.ofNat n = b := by
  rw [← h, UInt8.ofNat_toNat]

section Whole

variable {b₀ b₁ b₂ b₃ : UInt8} {p q r : Partial} {c : Char}

/-- A first octet that stands alone is its character. -/
theorem first_eq_char {b : Nat} (h : first b = .char c) : b < 0x80 ∧ c = Char.ofNat b := by
  rcases first_cases b with hb | hb | ⟨hb, hb'⟩ | ⟨hb, hb'⟩ | ⟨hb, hb'⟩
  · rw [first_one hb] at h
    exact ⟨hb, (Outcome.char.inj h).symm⟩
  · rw [first_refused hb] at h
    cases h
  · rw [first_two hb hb'] at h
    cases h
  · rw [first_three hb hb'] at h
    cases h
  · rw [first_four hb hb'] at h
    cases h

theorem encodeChar_of_one (h : step none b₀ = .char c) : encodeChar c = [b₀] := by
  obtain ⟨hb, rfl⟩ := first_eq_char (b := b₀.toNat) h
  have hn : (Char.ofNat b₀.toNat).toNat = b₀.toNat := toNat_ofNat_of_valid (by omega)
  rw [encodeChar_one (by omega), hn, UInt8.ofNat_toNat]

/-- A first octet that does not stand alone tells how many octets its character has. -/
theorem first_eq_more {b : Nat} (h : first b = .more p) :
    0xC2 ≤ b ∧ b < 0xE0 ∧ p = ⟨1, b - 0xC0, 0x80, 0xBF⟩ ∨
    0xE0 ≤ b ∧ b < 0xF0 ∧ p = ⟨2, b - 0xE0, if b = 0xE0 then 0xA0 else 0x80,
      if b = 0xED then 0x9F else 0xBF⟩ ∨
    0xF0 ≤ b ∧ b < 0xF5 ∧ p = ⟨3, b - 0xF0, if b = 0xF0 then 0x90 else 0x80,
      if b = 0xF4 then 0x8F else 0xBF⟩ := by
  rcases first_cases b with hb | hb | ⟨hb, hb'⟩ | ⟨hb, hb'⟩ | ⟨hb, hb'⟩
  · rw [first_one hb] at h
    cases h
  · rw [first_refused hb] at h
    cases h
  · rw [first_two hb hb'] at h
    exact .inl ⟨hb, hb', (Outcome.more.inj h).symm⟩
  · rw [first_three hb hb'] at h
    exact .inr (.inl ⟨hb, hb', (Outcome.more.inj h).symm⟩)
  · rw [first_four hb hb'] at h
    exact .inr (.inr ⟨hb, hb', (Outcome.more.inj h).symm⟩)

theorem encodeChar_of_two (h₀ : step none b₀ = .more p) (h₁ : step (some p) b₁ = .char c) :
    encodeChar c = [b₀, b₁] := by
  obtain ⟨hlow, hhigh, howed, hc⟩ := next_eq_char (b := b₁.toNat) h₁
  rcases first_eq_more h₀ with ⟨hb, hb', rfl⟩ | ⟨hb, hb', rfl⟩ | ⟨hb, hb', rfl⟩
  · simp only at hlow hhigh hc
    have hn : c.toNat = (b₀.toNat - 0xC0) * 64 + (b₁.toNat - 0x80) := by
      rw [hc]
      exact toNat_ofNat_of_valid (by omega)
    rw [encodeChar_two (by omega) (by omega), ofNat_eq_of_toNat (b := b₀) (by omega),
      ofNat_eq_of_toNat (b := b₁) (by omega)]
  · simp at howed
  · simp at howed

theorem encodeChar_of_three (h₀ : step none b₀ = .more p) (h₁ : step (some p) b₁ = .more q)
    (h₂ : step (some q) b₂ = .char c) : encodeChar c = [b₀, b₁, b₂] := by
  obtain ⟨hlow, hhigh, howed, rfl⟩ := next_eq_more (b := b₁.toNat) h₁
  obtain ⟨hlow', hhigh', howed', hc⟩ := next_eq_char (b := b₂.toNat) h₂
  rcases first_eq_more h₀ with ⟨hb, hb', rfl⟩ | ⟨hb, hb', rfl⟩ | ⟨hb, hb', rfl⟩
  · simp at howed
  · simp only at hlow hhigh hlow' hhigh' hc
    -- The bounds of the second octet keep the code point from being a surrogate.
    have hn : c.toNat =
        ((b₀.toNat - 0xE0) * 64 + (b₁.toNat - 0x80)) * 64 + (b₂.toNat - 0x80) := by
      rw [hc]
      exact toNat_ofNat_of_valid (by split_ifs at hlow hhigh <;> omega)
    have hlarge : 0x800 ≤ c.toNat := by split_ifs at hlow <;> omega
    have hsecond : 0x80 ≤ b₁.toNat ∧ b₁.toNat ≤ 0xBF := by split_ifs at hlow hhigh <;> omega
    rw [encodeChar_three hlarge (by omega), ofNat_eq_of_toNat (b := b₀) (by omega),
      ofNat_eq_of_toNat (b := b₁) (by omega), ofNat_eq_of_toNat (b := b₂) (by omega)]
  · simp at howed'

theorem encodeChar_of_four (h₀ : step none b₀ = .more p) (h₁ : step (some p) b₁ = .more q)
    (h₂ : step (some q) b₂ = .more r) (h₃ : step (some r) b₃ = .char c) :
    encodeChar c = [b₀, b₁, b₂, b₃] := by
  obtain ⟨hlow, hhigh, howed, rfl⟩ := next_eq_more (b := b₁.toNat) h₁
  obtain ⟨hlow', hhigh', howed', rfl⟩ := next_eq_more (b := b₂.toNat) h₂
  obtain ⟨hlow'', hhigh'', howed'', hc⟩ := next_eq_char (b := b₃.toNat) h₃
  rcases first_eq_more h₀ with ⟨hb, hb', rfl⟩ | ⟨hb, hb', rfl⟩ | ⟨hb, hb', rfl⟩
  · simp at howed
  · simp at howed'
  · simp only at hlow hhigh hlow' hhigh' hlow'' hhigh'' hc
    have hn : c.toNat = (((b₀.toNat - 0xF0) * 64 + (b₁.toNat - 0x80)) * 64 +
        (b₂.toNat - 0x80)) * 64 + (b₃.toNat - 0x80) := by
      rw [hc]
      exact toNat_ofNat_of_valid (by split_ifs at hlow hhigh <;> omega)
    have hlarge : 0x10000 ≤ c.toNat := by split_ifs at hlow <;> omega
    have hsecond : 0x80 ≤ b₁.toNat ∧ b₁.toNat ≤ 0xBF := by split_ifs at hlow hhigh <;> omega
    rw [encodeChar_four hlarge, ofNat_eq_of_toNat (b := b₀) (by omega),
      ofNat_eq_of_toNat (b := b₁) (by omega), ofNat_eq_of_toNat (b := b₂) (by omega),
      ofNat_eq_of_toNat (b := b₃) (by omega)]

end Whole

/-- How many octets are owed and read: a character has at most four. -/
theorem Begins.bounds {bs : List UInt8} {p : Partial} (h : Begins bs p) :
    0 < bs.length ∧ 0 < p.owed ∧ bs.length + p.owed ≤ 4 := by
  induction h with
  | first h =>
    rcases first_eq_more h with ⟨-, -, rfl⟩ | ⟨-, -, rfl⟩ | ⟨-, -, rfl⟩ <;> simp
  | next _ h ih =>
    obtain ⟨-, -, howed, rfl⟩ := next_eq_more h
    simp only [List.length_append, List.length_singleton]
    omega

/-- The octet that ends a character ends its encoding. -/
theorem Begins.encodeChar_eq {bs : List UInt8} {p : Partial} {b : UInt8} {c : Char}
    (h : Begins bs p) (hb : step (some p) b = .char c) : encodeChar c = bs ++ [b] := by
  cases h with
  | first h₀ => exact encodeChar_of_two h₀ hb
  | next h h₁ =>
    cases h with
    | first h₀ => exact encodeChar_of_three h₀ h₁ hb
    | next h h₂ =>
      cases h with
      | first h₀ => exact encodeChar_of_four h₀ h₂ h₁ hb
      | next h h₃ =>
        -- Four octets are read already, and one more would still be owed.
        have := (((h.next h₃).next h₂).next h₁).bounds
        have := h.bounds
        simp only [List.length_append, List.length_singleton] at *
        omega

/-- Where reading stands inside a character, octets read on from there. -/
theorem Begins.read_append {bs : List UInt8} {p : Partial} (h : Begins bs p) (cs : List UInt8) :
    read (bs ++ cs) = readFrom (some p) cs := by
  induction h generalizing cs with
  | first h => rw [List.singleton_append, read, readFrom_cons, h]
  | next _ h ih => rw [List.append_assoc, ih, List.singleton_append, readFrom_cons, h]

/-! ## Where reading stands -/

/-- Where octets have been read to: between two characters, or inside one. -/
inductive Standing : List UInt8 → Option Partial → Prop
  | between : Standing [] none
  | inside {bs p} : Begins bs p → Standing bs (some p)

section Standing

variable {bs : List UInt8} {state : Option Partial} {b : UInt8}

theorem Standing.begins {p : Partial} (h : Standing bs (some p)) : Begins bs p := by
  cases h with
  | inside h => exact h

theorem Standing.pending_eq_nil (h : Standing bs none) : bs = [] := by
  cases h with
  | between => rfl

theorem Standing.length_le (h : Standing bs state) : bs.length ≤ 3 := by
  cases h with
  | between => exact Nat.zero_le 3
  | inside h =>
    have := h.bounds
    omega

/-- What is read after one more octet. -/
theorem Standing.read_append (h : Standing bs state) (b : UInt8) :
    read (bs ++ [b]) = match step state b with
      | .char c => .text [c]
      | .more p => .incomplete p
      | .refused => .invalid := by
  have hread : read (bs ++ [b]) = readFrom state [b] := by
    cases h with
    | between => rfl
    | inside h => exact h.read_append [b]
  rw [hread, readFrom_cons]
  rfl

/-- Where octets stand after one more octet of the same character. -/
theorem Standing.snoc {p : Partial} (h : Standing bs state) (hb : step state b = .more p) :
    Standing (bs ++ [b]) (some p) := by
  cases h with
  | between => exact .inside (.first hb)
  | inside h => exact .inside (h.next hb)

theorem Standing.encodeChar_eq {c : Char} (h : Standing bs state) (hb : step state b = .char c) :
    encodeChar c = bs ++ [b] := by
  cases h with
  | between => exact encodeChar_of_one hb
  | inside h => exact h.encodeChar_eq hb

/-- Whatever is read as a text is its encoding, from wherever it was read on. -/
theorem Standing.encode_of_readFrom {pre : List UInt8} {cs : List Char} (hpre : Standing pre state)
    (h : readFrom state bs = .text cs) : encode cs = pre ++ bs := by
  induction bs generalizing pre state cs with
  | nil =>
    cases hpre with
    | between =>
      cases h
      rfl
    | inside => cases h
  | cons b bs ih =>
    rw [readFrom_cons] at h
    cases hb : step state b with
    | char c =>
      cases hrest : readFrom none bs with
      | text rest =>
        simp only [hb, hrest] at h
        cases h
        rw [encode_cons, hpre.encodeChar_eq hb, ih .between hrest, List.append_assoc]
        rfl
      | _ => simp [hb, hrest] at h
    | more p =>
      simp only [hb] at h
      rw [ih (hpre.snoc hb) h, List.append_assoc]
      rfl
    | refused => simp [hb] at h

end Standing

theorem read_eq_text_iff {bs : List UInt8} {cs : List Char} : read bs = .text cs ↔ bs = encode cs := by
  constructor
  · intro h
    exact (Standing.between.encode_of_readFrom h).symm
  · rintro rfl
    exact read_encode cs

theorem decode?_eq_some_iff {bs : List UInt8} {cs : List Char} :
    decode? bs = some cs ↔ bs = encode cs := by
  rw [← read_eq_text_iff, decode?]
  cases read bs <;> simp

end GuidedJson.Text.Utf8
