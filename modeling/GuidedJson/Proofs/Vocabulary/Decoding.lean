import GuidedJson.Proofs.Vocabulary.Added

/-!
# Texts and octets of tokens

A stored token is decoded twice, to the octets and to the text that it puts out. The two agree: its
text is what its octets spell, and it has none exactly if they are no UTF-8 on their own.
-/

namespace GuidedJson.Vocabulary

open Text

/-! ## Octets as texts -/

/-- The code points of the text that octets spell. -/
def pointsOf? (bs : List UInt8) : Option (List Nat) :=
  (Utf8.decode? bs).map fun cs => cs.map Char.toNat

theorem pointsOf?_eq_some_iff {bs : List UInt8} {cs : List Nat} :
    pointsOf? bs = some cs ↔ ∃ t : String, cs = codePoints t ∧ bs = Utf8.ofString t := by
  rw [pointsOf?, Option.map_eq_some_iff]
  constructor
  · rintro ⟨text, htext, rfl⟩
    refine ⟨String.ofList text, ?_, ?_⟩
    · rw [codePoints, String.toList_ofList]
    · rw [Utf8.ofString, String.toList_ofList]
      exact Utf8.decode?_eq_some_iff.1 htext
  · rintro ⟨t, rfl, rfl⟩
    exact ⟨t.toList, Utf8.decode?_eq_some_iff.2 rfl, rfl⟩

theorem pointsOf?_ofString (t : String) : pointsOf? (Utf8.ofString t) = some (codePoints t) :=
  pointsOf?_eq_some_iff.2 ⟨t, rfl, rfl⟩

theorem pointsOf?_eq_none_iff {bs : List UInt8} :
    pointsOf? bs = none ↔ ∀ t : String, bs ≠ Utf8.ofString t := by
  rw [Option.eq_none_iff_forall_ne_some]
  simp only [ne_eq, pointsOf?_eq_some_iff]
  constructor
  · exact fun h t ht => h (codePoints t) ⟨t, rfl, ht⟩
  · rintro h _ ⟨t, rfl, ht⟩
    exact h t ht

/-- A single octet is a text exactly if it is ASCII. -/
theorem pointsOf?_singleton (b : UInt8) :
    pointsOf? [b] = if b < 0x80 then some [b.toNat] else none := by
  have hlt : b < 0x80 ↔ b.toNat < 0x80 := UInt8.lt_iff_toNat_lt
  by_cases h : b.toNat < 0x80
  · have hchar : (Char.ofNat b.toNat).toNat = b.toNat := Utf8.toNat_ofNat_of_valid (by omega)
    have htext : [b] = Utf8.encode [Char.ofNat b.toNat] := by
      rw [Utf8.encode_singleton, Utf8.encodeChar_one (by omega), hchar, UInt8.ofNat_toNat]
    rw [if_pos (hlt.2 h), pointsOf?, Utf8.decode?_eq_some_iff.2 htext, Option.map_some,
      List.map_singleton, hchar]
  · rw [if_neg (mt hlt.1 h), pointsOf?, Utf8.decode?, Utf8.read, Utf8.readFrom]
    -- The octet is refused, or it begins a character and breaks off.
    cases hfirst : Utf8.first b.toNat with
    | char c => exact absurd (Utf8.first_eq_char hfirst).1 h
    | more p => rfl
    | refused => rfl

/-! ## Spaces -/

/-- A text with a space in place of each lower one eighth block. -/
def withSpaces (s : String) : String := s.map fun c => if c = '▁' then ' ' else c

theorem showSpaces_codePoints (s : String) : showSpaces (codePoints s) = codePoints (withSpaces s) := by
  rw [showSpaces, codePoints, codePoints, withSpaces, String.toList_map, List.map_map, List.map_map]
  refine List.map_congr_left fun c _ => ?_
  have hmark : c.toNat = 0x2581 ↔ c = '▁' := by
    rw [← Char.toNat_inj]
    rfl
  by_cases h : c = '▁'
  · simp [h]
  · simp [h, hmark]

/-! ## Both readings -/

/-- The text that a token puts out is read off its octets. -/
def Agrees (octets : Option (List UInt8)) (text : Option (List Nat)) : Prop :=
  ∃ bs, octets = some bs ∧ text = pointsOf? bs

theorem agrees_text (s : String) : Agrees (encodePoints? (codePoints s)) (some (codePoints s)) :=
  ⟨_, encodePoints?_codePoints s, (pointsOf?_ofString s).symm⟩

theorem agrees_byteFallback (s : String) :
    Agrees (decodeOctets? .byteFallback (codePoints s)) (decodeText? .byteFallback (codePoints s)) := by
  rw [decodeOctets?, decodeText?, showSpaces_codePoints]
  cases namedOctet? (codePoints s) with
  | some b => exact ⟨_, rfl, (pointsOf?_singleton b).symm⟩
  | none => exact agrees_text (withSpaces s)

theorem agrees_byteLevel (s : String) :
    Agrees (decodeOctets? .byteLevel (codePoints s)) (decodeText? .byteLevel (codePoints s)) := by
  rw [decodeOctets?, decodeText?]
  cases spelledOctets? (codePoints s) with
  | some bs => exact ⟨bs, rfl, rfl⟩
  | none => exact agrees_text s

theorem agrees_decode (e : Encoding) (s : String) :
    Agrees (decodeOctets? e (codePoints s)) (decodeText? e (codePoints s)) := by
  cases e with
  | raw => exact agrees_text s
  | byteFallback => exact agrees_byteFallback s
  | byteLevel => exact agrees_byteLevel s

/-- Every token has octets, in every encoding. Its text is the one whose UTF-8 they are, and it has
none exactly if they are the UTF-8 of no text. -/
theorem decodings_agree (e : Encoding) (s : String) :
    ∃ bs, decodeOctets? e (codePoints s) = some bs ∧
      (∀ cs, decodeText? e (codePoints s) = some cs ↔
        ∃ t : String, cs = codePoints t ∧ bs = Utf8.ofString t) ∧
      (decodeText? e (codePoints s) = none ↔ ∀ t : String, bs ≠ Utf8.ofString t) := by
  obtain ⟨bs, hoctets, htext⟩ := agrees_decode e s
  rw [htext]
  exact ⟨bs, hoctets, fun _ => pointsOf?_eq_some_iff, pointsOf?_eq_none_iff⟩

end GuidedJson.Vocabulary
