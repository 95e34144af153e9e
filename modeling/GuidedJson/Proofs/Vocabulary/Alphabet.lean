import GuidedJson.Proofs.Vocabulary.Added

/-!
# Spellings

Octets are spelled in an alphabet of 256 characters, one for each. So a spelling is read as the
octets that it was made of, and every token in the alphabet is the spelling of what it is read as.
-/

namespace GuidedJson.Vocabulary

open Text

/-! ## Characters of octets -/

theorem mem_hiddenOctets {n : Nat} : n ∈ hiddenOctets ↔ n < 256 ∧ isShown n = false := by
  simp [hiddenOctets]

theorem nodup_hiddenOctets : hiddenOctets.Nodup := List.nodup_range.filter _

theorem charOctet?_octetChar (b : UInt8) : charOctet? (octetChar b) = some b := by
  have hlt : b.toNat < 256 := b.toNat_lt
  cases h : isShown b.toNat with
  | true => rw [octetChar, if_pos h, charOctet?, if_pos hlt, if_pos h, UInt8.ofNat_toNat]
  | false =>
    have hmem : b.toNat ∈ hiddenOctets := mem_hiddenOctets.2 ⟨hlt, h⟩
    rw [octetChar, h, if_neg (by simp), charOctet?, if_neg (by omega), Nat.add_sub_cancel_left,
      List.getElem?_idxOf hmem, Option.map_some, UInt8.ofNat_toNat]

/-- A character of the alphabet stands for the octet whose character it is. -/
theorem charOctet?_eq_some_iff {n : Nat} {b : UInt8} : charOctet? n = some b ↔ octetChar b = n := by
  refine ⟨fun h => ?_, fun h => h ▸ charOctet?_octetChar b⟩
  rw [charOctet?] at h
  split at h
  case isTrue hlow =>
    split at h
    case isTrue hshown =>
      cases h
      rw [octetChar, UInt8.toNat_ofNat_of_lt' hlow, if_pos hshown]
    case isFalse => cases h
  case isFalse hhigh =>
    obtain ⟨k, hk, rfl⟩ := Option.map_eq_some_iff.1 h
    obtain ⟨hplace, hget⟩ := List.getElem?_eq_some_iff.1 hk
    obtain ⟨hlow, hshown⟩ := mem_hiddenOctets.1 (List.mem_of_getElem? hk)
    -- The hidden octets are listed once each, so the octet is found again at its place.
    have hindex : hiddenOctets.idxOf k = n - 256 := by
      rw [← hget, nodup_hiddenOctets.idxOf_getElem]
    rw [octetChar, UInt8.toNat_ofNat_of_lt' hlow, hshown, if_neg (by simp), hindex]
    omega

/-! ## Spellings of octets -/

/-- The token that octets are spelled as. -/
def spelling (bs : List UInt8) : List Nat := bs.map octetChar

/-- Whether all characters of a token are in the alphabet. -/
def Alphabetic (cs : List Nat) : Prop := ∀ n ∈ cs, ∃ b, octetChar b = n

theorem alphabetic_spelling (bs : List UInt8) : Alphabetic (spelling bs) := fun _ hn =>
  (List.mem_map.1 hn).imp fun _ h => h.2

theorem spelling_append (bs ds : List UInt8) : spelling (bs ++ ds) = spelling bs ++ spelling ds :=
  List.map_append

theorem spelledOctets?_eq_some_iff {cs : List Nat} {bs : List UInt8} :
    spelledOctets? cs = some bs ↔ spelling bs = cs := by
  induction cs generalizing bs with
  | nil => simp [spelledOctets?, spelling, eq_comm]
  | cons n cs ih =>
    rw [spelledOctets?_cons, Option.bind_eq_some_iff]
    constructor
    · rintro ⟨b, hb, h⟩
      obtain ⟨rest, hrest, rfl⟩ := Option.map_eq_some_iff.1 h
      rw [spelling, List.map_cons, charOctet?_eq_some_iff.1 hb, ← spelling, ih.1 hrest]
    · intro h
      obtain ⟨b, rest, rfl, hb, hrest⟩ := List.map_eq_cons_iff.1 h
      exact ⟨b, charOctet?_eq_some_iff.2 hb, by rw [ih.2 hrest, Option.map_some]⟩

theorem decodeOctets?_spelling (bs : List UInt8) :
    decodeOctets? .byteLevel (spelling bs) = some bs := by
  rw [decodeOctets?, spelledOctets?_eq_some_iff.2 rfl]

theorem Alphabetic.exists_spelling {cs : List Nat} (h : Alphabetic cs) :
    ∃ bs, spelling bs = cs := by
  induction cs with
  | nil => exact ⟨[], rfl⟩
  | cons n cs ih =>
    obtain ⟨⟨b, hb⟩, hcs⟩ := List.forall_mem_cons.1 h
    obtain ⟨bs, rfl⟩ := ih hcs
    exact ⟨b :: bs, by rw [spelling, List.map_cons, hb, spelling]⟩

/-- Spelling and reading undo one another: octets are read off their spelling, a token in the
alphabet is the spelling of what it is read as, so tokens that differ are read as octets that
differ, and tokens side by side are read as their octets side by side. -/
theorem spellings_decoded (bs : List UInt8) {s t : List Nat} (hs : Alphabetic s)
    (ht : Alphabetic t) :
    decodeOctets? .byteLevel (spelling bs) = some bs ∧
      ∃ xs ys, decodeOctets? .byteLevel s = some xs ∧ decodeOctets? .byteLevel t = some ys ∧
        spelling xs = s ∧ spelling ys = t ∧ (s ≠ t → xs ≠ ys) ∧
        decodeOctets? .byteLevel (s ++ t) = some (xs ++ ys) := by
  obtain ⟨xs, rfl⟩ := hs.exists_spelling
  obtain ⟨ys, rfl⟩ := ht.exists_spelling
  refine ⟨decodeOctets?_spelling bs, xs, ys, decodeOctets?_spelling xs, decodeOctets?_spelling ys,
    rfl, rfl, fun hne heq => hne (congrArg spelling heq), ?_⟩
  rw [← spelling_append, decodeOctets?_spelling]

/-- Half a letter, and its other half with a space: no token is a text on its own. -/
theorem spellings_decoded_halves :
    Alphabetic (codePoints "Ã") ∧ Alphabetic (codePoints "©Ġ") ∧
      decodeOctets? .byteLevel (codePoints "Ã©Ġ") = some (Utf8.ofString "é ") := by
  have hfirst : codePoints "Ã" = spelling [0xC3] := by decide +kernel
  have hsecond : codePoints "©Ġ" = spelling [0xA9, 0x20] := by decide +kernel
  have hs : Alphabetic (codePoints "Ã") := hfirst ▸ alphabetic_spelling _
  have ht : Alphabetic (codePoints "©Ġ") := hsecond ▸ alphabetic_spelling _
  obtain ⟨-, xs, ys, hxs, hys, -, -, -, hboth⟩ := spellings_decoded [] hs ht
  rw [hfirst, decodeOctets?_spelling, Option.some_inj] at hxs
  rw [hsecond, decodeOctets?_spelling, Option.some_inj] at hys
  subst hxs hys
  exact ⟨hs, ht, hboth⟩

end GuidedJson.Vocabulary
