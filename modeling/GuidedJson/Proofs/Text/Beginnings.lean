import GuidedJson.Proofs.Text.Utf8
import Mathlib.Algebra.Group.Nat.Defs

/-!
# Beginnings of characters

Octets that have been read of a character begin its encoding. While octets are owed, the characters
whose encodings go on from what was read are those in the span of what is owed.
-/

namespace GuidedJson.Text.Utf8

variable {bs : List UInt8} {p q : Partial} {b : UInt8} {c : Char} {n : Nat}

/-! ## Spans -/

/-- A first octet that does not stand alone begins characters that are not ASCII, and no others
begin with it. -/
theorem spans_of_first (h : step none b = .more p) (hn : p.Spans n) :
    0x80 ≤ n ∧ n.isValidChar ∧
      ∀ {d : UInt8} {q : Partial}, step none d = .more q → q.Spans n → d = b := by
  have hvalid : n < 0xD800 ∨ 0xDFFF < n ∧ n < 0x110000 → n.isValidChar := id
  have key : ∀ {d : UInt8} {q : Partial}, step none d = .more q → q.Spans n →
      n < 0x800 ∧ d.toNat = 0xC0 + n / 64 ∧ 0x80 ≤ n ∨
      0x800 ≤ n ∧ n < 0x10000 ∧ d.toNat = 0xE0 + n / 4096 ∧ ¬ (0xD800 ≤ n ∧ n ≤ 0xDFFF) ∨
      0x10000 ≤ n ∧ n < 0x110000 ∧ d.toNat = 0xF0 + n / 262144 := by
    intro d q hd hq
    rcases first_eq_more (b := d.toNat) hd with ⟨hb, hb', rfl⟩ | ⟨hb, hb', rfl⟩ | ⟨hb, hb', rfl⟩
    · rw [spans_one_iff] at hq
      omega
    · rw [spans_two_iff] at hq
      split_ifs at hq <;> omega
    · rw [spans_three_iff] at hq
      split_ifs at hq <;> omega
  have hb := key h hn
  refine ⟨by omega, hvalid (by omega), fun {d q} hd hq => ?_⟩
  have hd := key hd hq
  exact UInt8.toNat_inj.1 (by omega)

/-- What is owed behind one octet more spans the code points that go on with this octet. -/
theorem spans_of_next (howed : p.owed ≤ 3) (h : step (some p) b = .more q) :
    q.Spans n ↔ p.Spans n ∧ n / 64 ^ (p.owed - 1) = p.bits * 64 + (b.toNat - 0x80) := by
  obtain ⟨hlow, hhigh, hmore, rfl⟩ := next_eq_more (b := b.toNat) h
  obtain ⟨owed, bits, low, high⟩ := p
  simp only at howed hlow hhigh hmore
  obtain rfl | rfl : owed = 2 ∨ owed = 3 := by omega
  · simp only [Nat.reduceSub, Nat.pow_one]
    rw [spans_one_iff, spans_two_iff]
    omega
  · simp only [Nat.reduceSub, Nat.reducePow]
    rw [spans_two_iff, spans_three_iff]
    omega

/-- What is owed is settled by the octets that were read. -/
theorem Begins.unique (hp : Begins bs p) (hq : Begins bs q) : p = q := by
  have hread : Reading.incomplete p = Reading.incomplete q :=
    (hp.read_append []).symm.trans (hq.read_append [])
  exact Reading.incomplete.inj hread

theorem Begins.owed_le (h : Begins bs p) : p.owed ≤ 3 := by
  have := h.bounds
  omega

/-- The bounds of the next octet leave room for one. -/
theorem Begins.low_le_high (h : Begins bs p) : 0x80 ≤ p.low ∧ p.low ≤ p.high := by
  cases h with
  | @first b p h =>
    rcases first_eq_more (b := b.toNat) h with ⟨-, -, rfl⟩ | ⟨-, -, rfl⟩ | ⟨-, -, rfl⟩
    · simp
    · simp only
      split_ifs <;> omega
    · simp only
      split_ifs <;> omega
  | @next _ _ b _ _ h =>
    obtain ⟨-, -, -, rfl⟩ := next_eq_more (b := b.toNat) h
    simp

theorem Begins.exists_spans (h : Begins bs p) : ∃ n, p.Spans n := by
  have hbounds := h.bounds
  have hroom := h.low_le_high
  obtain ⟨owed, bits, low, high⟩ := p
  simp only at hbounds hroom
  obtain rfl | rfl | rfl : owed = 1 ∨ owed = 2 ∨ owed = 3 := by omega
  · exact ⟨bits * 64 + (low - 0x80), spans_one_iff.2 (by omega)⟩
  · exact ⟨(bits * 64 + (low - 0x80)) * 64, spans_two_iff.2 (by omega)⟩
  · exact ⟨(bits * 64 + (low - 0x80)) * 4096, spans_three_iff.2 (by omega)⟩

/-- All code points that octets of a character can still become are characters. -/
theorem Begins.isValidChar_of_spans (h : Begins bs p) (hn : p.Spans n) :
    0x80 ≤ n ∧ n.isValidChar := by
  induction h with
  | first h =>
    obtain ⟨hlarge, hvalid, -⟩ := spans_of_first h hn
    exact ⟨hlarge, hvalid⟩
  | next hbegins h ih => exact ih ((spans_of_next hbegins.owed_le h).1 hn).1

/-! ## Encodings -/

theorem Spelled.of_cons {state : Option Partial} (h : Spelled state (b :: bs) c) (hne : bs ≠ []) :
    ∃ p, step state b = .more p ∧ p.Spans c.toNat ∧ Spelled (some p) bs c := by
  cases h with
  | last => exact absurd rfl hne
  | more hb hlow hhigh hrest => exact ⟨_, hb, ⟨hlow, hhigh⟩, hrest⟩

theorem Spelled.ne_nil {state : Option Partial} (h : Spelled state bs c) : bs ≠ [] := by
  cases h <;> simp

/-- Where the encoding of a character goes on from what was read, the rest is spelled. -/
theorem Begins.spelled {pre : List UInt8} (h : Begins pre p) (hc : encodeChar c = pre ++ bs)
    (hne : bs ≠ []) : p.Spans c.toNat ∧ Spelled (some p) bs c := by
  have hwhole := spelled_encodeChar c
  induction h generalizing bs with
  | @first b p h =>
    rw [hc] at hwhole
    obtain ⟨q, hq, hspans, hrest⟩ := Spelled.of_cons hwhole hne
    obtain rfl := Outcome.more.inj (h.symm.trans hq)
    exact ⟨hspans, hrest⟩
  | @next pre p b q _ h ih =>
    rw [List.append_assoc, List.singleton_append] at hc
    obtain ⟨r, hr, hspans, hrest⟩ := Spelled.of_cons (ih hc (by simp)).2 hne
    obtain rfl := Outcome.more.inj (h.symm.trans hr)
    exact ⟨hspans, hrest⟩

/-- The octets of a character lead on as long as more of them are left. -/
theorem Standing.step_of_encodeChar {rest : List UInt8} {state : Option Partial}
    (h : Standing bs state) (hc : encodeChar c = bs ++ b :: rest) (hne : rest ≠ []) :
    ∃ p, step state b = .more p ∧ p.Spans c.toNat := by
  cases h with
  | between =>
    have hwhole := spelled_encodeChar c
    rw [hc] at hwhole
    obtain ⟨p, hp, hspans, -⟩ := Spelled.of_cons hwhole hne
    exact ⟨p, hp, hspans⟩
  | inside h =>
    obtain ⟨p, hp, hspans, -⟩ := Spelled.of_cons (h.spelled hc (by simp)).2 hne
    exact ⟨p, hp, hspans⟩

/-- A character lies in the span of what is owed exactly if its encoding goes on from what was
read. -/
theorem Begins.spans_iff (h : Begins bs p) :
    p.Spans c.toNat ↔ ∃ rest, rest ≠ [] ∧ encodeChar c = bs ++ rest := by
  constructor
  · intro hspans
    induction h with
    | @first b p h =>
      obtain ⟨hlarge, -, hunique⟩ := spans_of_first h hspans
      have hwhole := spelled_encodeChar c
      generalize encodeChar c = octets at hwhole ⊢
      cases hwhole with
      -- The character is not ASCII, so its first octet does not stand alone.
      | @last _ d _ hd =>
        obtain ⟨hlt, rfl⟩ := first_eq_char (b := d.toNat) hd
        rw [toNat_ofNat_of_valid (by omega)] at hlarge
        omega
      | more hd hlow hhigh hrest =>
        obtain rfl := hunique hd ⟨hlow, hhigh⟩
        exact ⟨_, hrest.ne_nil, rfl⟩
    | @next bs p b q hbegins h ih =>
      obtain ⟨hparent, hoctet⟩ := (spans_of_next hbegins.owed_le h).1 hspans
      obtain ⟨rest, hne, hrest⟩ := ih hparent
      obtain ⟨hlow, -, howed, -⟩ := next_eq_more (b := b.toNat) h
      have hroom := hbegins.low_le_high
      cases (hbegins.spelled hrest hne).2 with
      | @last _ d _ hd =>
        obtain ⟨-, -, howed', -⟩ := next_eq_char (b := d.toNat) hd
        omega
      -- Two octets that lead to the span of the character are the same.
      | @more _ d _ ds _ hd hlow' hhigh' hafter =>
        have hoctet' := ((spans_of_next hbegins.owed_le hd).1 ⟨hlow', hhigh'⟩).2
        obtain ⟨hlow', -, -, -⟩ := next_eq_more (b := d.toNat) hd
        obtain rfl : d = b := UInt8.toNat_inj.1 (by omega)
        exact ⟨ds, hafter.ne_nil, by rw [hrest, List.append_assoc, List.singleton_append]⟩
  · rintro ⟨rest, hne, hrest⟩
    exact (h.spelled hrest hne).1

end GuidedJson.Text.Utf8
