import GuidedJson.Proofs.Vocabulary.Decoding

/-!
# Named octets

With byte fallback a token that names an octet puts it out, also if an end of line follows the name.
Every other token puts out its own text, with its marks of spaces shown.
-/

namespace GuidedJson.Text

/-! ## Digits in either case -/

theorem toNat_hexDigit {n : Nat} (h : n < 16) :
    (hexDigit n).toNat = if n < 10 then 48 + n else 87 + n := by
  unfold hexDigit
  split <;> exact Utf8.toNat_ofNat_of_valid (by omega)

theorem toNat_toLower (c : Char) :
    c.toLower.toNat = if 65 ≤ c.toNat ∧ c.toNat ≤ 90 then c.toNat + 32 else c.toNat := by
  unfold Char.toLower
  split
  case isTrue h =>
    have hlow : 65 ≤ c.toNat := UInt32.le_iff_toNat_le.1 h.1
    have hhigh : c.toNat ≤ 90 := UInt32.le_iff_toNat_le.1 h.2
    rw [if_pos ⟨hlow, hhigh⟩]
    show (c.toNat + 32) % 2 ^ 32 = c.toNat + 32
    omega
  case isFalse h =>
    rw [if_neg fun ⟨hlow, hhigh⟩ =>
      h ⟨UInt32.le_iff_toNat_le.2 hlow, UInt32.le_iff_toNat_le.2 hhigh⟩]

theorem toLower_eq_hexDigit_iff {c : Char} {n : Nat} (h : n < 16) : c.toLower = hexDigit n ↔
    c.toNat = 48 + n ∧ n < 10 ∨ c.toNat = 87 + n ∧ 10 ≤ n ∨ c.toNat = 55 + n ∧ 10 ≤ n := by
  rw [← Char.toNat_inj, toNat_toLower, toNat_hexDigit h]
  split <;> split <;> omega

theorem hexOctet_eq (b : UInt8) :
    hexOctet b = [hexDigit (b.toNat / 16), hexDigit (b.toNat % 16)] := by
  have hlt : b.toNat < 256 := b.toNat_lt
  simp [hexOctet, hexDigits, Nat.mod_eq_of_lt (show b.toNat / 16 < 16 by omega)]

end GuidedJson.Text

namespace GuidedJson.Vocabulary

open Text

theorem hexValue?_eq_some_iff {c : Char} {n : Nat} :
    hexValue? c.toNat = some n ↔ n < 16 ∧ c.toLower = hexDigit n := by
  rw [and_congr_right fun h => toLower_eq_hexDigit_iff h]
  simp only [hexValue?, Bool.and_eq_true, decide_eq_true_eq]
  split
  · rw [Option.some_inj]
    omega
  split
  · rw [Option.some_inj]
    omega
  split
  · rw [Option.some_inj]
    omega
  · simp only [reduceCtorEq, false_iff]
    omega

/-! ## Names of octets -/

/-- Whether a text names an octet: `<0x`, its two digits in either case, and `>`. -/
def Names (t : String) (b : UInt8) : Prop :=
  ∃ high low : Char, t = String.ofList ['<', '0', 'x', high, low, '>'] ∧
    [high.toLower, low.toLower] = hexOctet b

theorem digits_iff {high low : Char} {b : UInt8} :
    [high.toLower, low.toLower] = hexOctet b ↔
      ∃ x y, hexValue? high.toNat = some x ∧ hexValue? low.toNat = some y ∧
        UInt8.ofNat (16 * x + y) = b := by
  have hlt : b.toNat < 256 := b.toNat_lt
  simp only [hexOctet_eq, List.cons.injEq, and_true, hexValue?_eq_some_iff]
  constructor
  · rintro ⟨hhigh, hlow⟩
    refine ⟨b.toNat / 16, b.toNat % 16, ⟨by omega, hhigh⟩, ⟨by omega, hlow⟩, ?_⟩
    rw [Nat.div_add_mod, UInt8.ofNat_toNat]
  · rintro ⟨x, y, ⟨hx, hhigh⟩, ⟨hy, hlow⟩, rfl⟩
    rw [UInt8.toNat_ofNat_of_lt' (show 16 * x + y < 256 by omega), hhigh, hlow]
    exact ⟨congrArg _ (by omega), congrArg _ (by omega)⟩

theorem namedOctet?_points_iff {cs : List Nat} {b : UInt8} :
    namedOctet? cs = some b ↔ ∃ high low line, cs = 60 :: 48 :: 120 :: high :: low :: 62 :: line ∧
      (line = [] ∨ line = [10]) ∧
        ∃ x y, hexValue? high = some x ∧ hexValue? low = some y ∧ UInt8.ofNat (16 * x + y) = b := by
  constructor
  · intro h
    unfold namedOctet? at h
    split at h
    case h_2 => cases h
    case h_1 high low line =>
      split at h
      case isFalse => cases h
      case isTrue hline =>
        split at h
        case h_2 => cases h
        case h_1 x y hx hy =>
          exact ⟨high, low, line, rfl, by simpa using hline, x, y, hx, hy, Option.some_inj.1 h⟩
  · rintro ⟨high, low, line, rfl, rfl | rfl, x, y, hx, hy, rfl⟩
    · simp [namedOctet?, hx, hy]
    · simp [namedOctet?, hx, hy]

/-- A token is read as an octet if it names it, also where the name has an end of line behind it. -/
theorem namedOctet?_eq_some_iff {t : String} {b : UInt8} :
    namedOctet? (codePoints t) = some b ↔ ∃ s, Names s b ∧ (t = s ∨ t = s ++ "\n") := by
  rw [namedOctet?_points_iff]
  constructor
  · rintro ⟨_, _, line, hpoints, hline, hdigits⟩
    simp only [codePoints, List.map_eq_cons_iff] at hpoints
    obtain ⟨c₀, _, ht, h₀, c₁, _, rfl, h₁, c₂, _, rfl, h₂, high, _, rfl, rfl, low, _, rfl, rfl,
      c₃, rest, rfl, h₃, rfl⟩ := hpoints
    obtain rfl : c₀ = '<' := Char.toNat_inj.1 h₀
    obtain rfl : c₁ = '0' := Char.toNat_inj.1 h₁
    obtain rfl : c₂ = 'x' := Char.toNat_inj.1 h₂
    obtain rfl : c₃ = '>' := Char.toNat_inj.1 h₃
    refine ⟨_, ⟨high, low, rfl, digits_iff.2 hdigits⟩, ?_⟩
    rcases hline with hline | hline
    · obtain rfl := List.map_eq_nil_iff.1 hline
      exact .inl (String.toList_inj.1 (by rw [ht, String.toList_ofList]))
    · obtain ⟨c, rfl, hc⟩ := List.map_eq_singleton_iff.1 hline
      obtain rfl : c = '\n' := Char.toNat_inj.1 hc
      exact .inr (String.toList_inj.1 (by simp [ht]))
  · rintro ⟨_, ⟨high, low, rfl, hdigits⟩, rfl | rfl⟩
    · exact ⟨_, _, [], by simp [codePoints], .inl rfl, digits_iff.1 hdigits⟩
    · exact ⟨_, _, [10], by simp [codePoints], .inr rfl, digits_iff.1 hdigits⟩

/-- What a token puts out with byte fallback: the octet that it names, with an end of line behind
the name or without one, and else its own text with spaces for their marks. -/
theorem octets_byteFallback (t : String) :
    (∀ s b, Names s b → t = s ∨ t = s ++ "\n" →
      decodeOctets? .byteFallback (codePoints t) = some [b]) ∧
    ((∀ s b, Names s b → t ≠ s ∧ t ≠ s ++ "\n") →
      decodeOctets? .byteFallback (codePoints t) = some (Utf8.ofString (withSpaces t))) := by
  constructor
  · intro s b hs ht
    rw [decodeOctets?, namedOctet?_eq_some_iff.2 ⟨s, hs, ht⟩]
  · intro h
    have hnone : namedOctet? (codePoints t) = none := by
      refine Option.eq_none_iff_forall_ne_some.2 fun b hb => ?_
      obtain ⟨s, hs, ht⟩ := namedOctet?_eq_some_iff.1 hb
      exact ht.elim (h s b hs).1 (h s b hs).2
    rw [decodeOctets?, hnone, showSpaces_codePoints, encodePoints?_codePoints]

theorem not_names_of_length {t : String} {b : UInt8} (h : t.length ≠ 6) : ¬ Names t b := by
  rintro ⟨high, low, rfl, -⟩
  exact h String.length_ofList

/-- A name in mixed case, and a text that only ends in a name. -/
theorem octets_byteFallback_mixed :
    Names "<0xaF>" 0xAF ∧ decodeOctets? .byteFallback (codePoints "<0xaF>") = some [0xAF] ∧
      decodeOctets? .byteFallback (codePoints "▁<0x0A>") = some (Utf8.ofString " <0x0A>") := by
  have hnames : Names "<0xaF>" 0xAF := ⟨'a', 'F', rfl, by decide⟩
  have hspaces : withSpaces "▁<0x0A>" = " <0x0A>" := by decide +kernel
  refine ⟨hnames, (octets_byteFallback _).1 _ _ hnames (.inl rfl), ?_⟩
  rw [← hspaces]
  refine (octets_byteFallback "▁<0x0A>").2 ?_
  rintro _ b ⟨high, low, rfl, -⟩
  constructor <;> intro h <;> simpa using congrArg String.toList h

/-- A name with an end of line is no name, and still only its octet is put out. -/
theorem octets_of_named_line :
    (∀ b, ¬ Names "<0x41>\n" b) ∧
      decodeOctets? .byteFallback (codePoints "<0x41>\n") = some [0x41] ∧
      Utf8.ofString (withSpaces "<0x41>\n") ≠ [0x41] := by
  refine ⟨fun b => not_names_of_length (by decide), by decide +kernel, by decide +kernel⟩

end GuidedJson.Vocabulary
