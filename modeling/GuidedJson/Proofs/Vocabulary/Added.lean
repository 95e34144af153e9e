import GuidedJson.Proofs.Text.Utf8
import GuidedJson.Proofs.Vocabulary.Declared

/-!
# Added tokens

An added token is stored as it is written, among tokens that are spelled in the alphabet of octets.
It is told from these by its characters alone: where all of them are in the alphabet it puts out the
octets that they stand for. These are its text only if they are printed ASCII.
-/

namespace GuidedJson.Vocabulary

open Text

/-! ## The alphabet of octets -/

/-- Whether a code point stands for an octet: those printed in Latin-1 without the soft hyphen, and
one from 256 on for each other octet. -/
def InAlphabet (n : Nat) : Prop :=
  33 ≤ n ∧ n ≤ 126 ∨ 161 ≤ n ∧ n ≤ 172 ∨ 174 ≤ n ∧ n ≤ 323

theorem length_hiddenOctets : hiddenOctets.length = 68 := by decide +kernel

theorem isSome_charOctet? {n : Nat} : (charOctet? n).isSome = true ↔ InAlphabet n := by
  unfold charOctet? InAlphabet
  split
  · unfold isShown
    split <;> simp_all <;> omega
  · rw [Option.isSome_map, isSome_getElem?, length_hiddenOctets]
    omega

theorem charOctet?_of_printed {n : Nat} (h : 33 ≤ n ∧ n ≤ 126) :
    charOctet? n = some (UInt8.ofNat n) := by
  have hshown : isShown n = true := by simp [isShown, h]
  rw [charOctet?, if_pos (by omega), if_pos hshown]

theorem spelledOctets?_cons (n : Nat) (cs : List Nat) : spelledOctets? (n :: cs) =
    (charOctet? n).bind fun b => (spelledOctets? cs).map (b :: ·) := by
  rw [spelledOctets?, List.mapM_cons]
  cases charOctet? n with
  | none => rfl
  | some b => cases h : spelledOctets? cs <;> simp [spelledOctets?] at h ⊢ <;> simp [h]

theorem isSome_spelledOctets? {cs : List Nat} :
    (spelledOctets? cs).isSome = true ↔ ∀ n ∈ cs, InAlphabet n := by
  induction cs with
  | nil => simp [spelledOctets?]
  | cons n cs ih =>
    rw [spelledOctets?_cons, List.forall_mem_cons, ← ih, ← isSome_charOctet?]
    cases charOctet? n <;> simp

theorem length_of_spelledOctets? {cs : List Nat} {bs : List UInt8} (h : spelledOctets? cs = some bs) :
    bs.length = cs.length := by
  induction cs generalizing bs with
  | nil => cases h; rfl
  | cons n cs ih =>
    rw [spelledOctets?_cons, Option.bind_eq_some_iff] at h
    obtain ⟨b, -, h⟩ := h
    obtain ⟨rest, hrest, rfl⟩ := Option.map_eq_some_iff.1 h
    rw [List.length_cons, List.length_cons, ih hrest]

/-! ## Texts that stand for themselves -/

theorem encodePoints?_codePoints (s : String) :
    encodePoints? (codePoints s) = some (Utf8.ofString s) := by
  have hchars : (codePoints s).mapM (fun n : Nat =>
      if n.isValidChar then some (Utf8.encodeChar (Char.ofNat n)) else none) =
        some (s.toList.map Utf8.encodeChar) := by
    rw [codePoints]
    induction s.toList with
    | nil => rfl
    | cons c cs ih =>
      have hvalid : c.toNat.isValidChar := c.valid
      rw [List.map_cons, List.mapM_cons, ih, if_pos hvalid, Char.ofNat_toNat]
      rfl
  rw [encodePoints?, hchars, Utf8.ofString, Utf8.encode, List.flatMap_def]
  rfl

/-- A text has no fewer octets than characters, and as many only if it is ASCII. -/
theorem length_encode (cs : List Char) : cs.length ≤ (Utf8.encode cs).length ∧
    ((Utf8.encode cs).length = cs.length → ∀ c ∈ cs, c.toNat < 0x80) := by
  induction cs with
  | nil => simp [Utf8.encode]
  | cons c cs ih =>
    have hsize : (Utf8.encodeChar c).length = c.utf8Size := String.length_utf8EncodeChar c
    have hpos := c.utf8Size_pos
    have hone : c.utf8Size = 1 → c.toNat < 0x80 := fun h =>
      Nat.lt_succ_of_le (UInt32.le_iff_toNat_le.1 (Char.utf8Size_eq_one_iff.1 h))
    rw [Utf8.encode, List.flatMap_cons, List.length_append, List.length_cons, List.forall_mem_cons]
    have hrest := ih.1
    rw [Utf8.encode] at hrest
    exact ⟨by omega, fun h => ⟨hone (by omega), ih.2 (by rw [Utf8.encode]; omega)⟩⟩

/-- Whether all characters of a text are printed ASCII. -/
def Printed (s : String) : Prop := ∀ c ∈ s.toList, 33 ≤ c.toNat ∧ c.toNat ≤ 126

theorem spelledOctets?_of_printed {s : String} (h : Printed s) :
    spelledOctets? (codePoints s) = some (Utf8.ofString s) := by
  rw [Utf8.ofString, codePoints]
  unfold Printed at h
  generalize s.toList = cs at h ⊢
  induction cs with
  | nil => rfl
  | cons c cs ih =>
    rw [List.forall_mem_cons] at h
    have hencode : Utf8.encode (c :: cs) = UInt8.ofNat c.toNat :: Utf8.encode cs := by
      rw [Utf8.encode, List.flatMap_cons, Utf8.encodeChar_one (by omega)]
      rfl
    rw [List.map_cons, spelledOctets?_cons, charOctet?_of_printed h.1, ih h.2, hencode]
    rfl

/-- A text in the alphabet spells its own octets only if it is printed ASCII. -/
theorem spelledOctets?_eq_ofString_iff {s : String} :
    spelledOctets? (codePoints s) = some (Utf8.ofString s) ↔ Printed s := by
  -- One octet for each character is enough for ASCII alone.
  refine ⟨fun h c hc => ?_, spelledOctets?_of_printed⟩
  have hlength := length_of_spelledOctets? h
  rw [codePoints, List.length_map] at hlength
  have hlow := (length_encode s.toList).2 hlength c hc
  have hin : InAlphabet c.toNat := by
    refine isSome_spelledOctets?.1 (by rw [h]; rfl) c.toNat ?_
    exact List.mem_map_of_mem hc
  unfold InAlphabet at hin
  omega

/-- Whether a text stands for itself among tokens of octets: a character of it is no octet, or all
of them are their own. -/
def Verbatim (s : String) : Prop := (∃ c ∈ s.toList, ¬ InAlphabet c.toNat) ∨ Printed s

theorem spelledOctets?_eq_none_iff {s : String} :
    spelledOctets? (codePoints s) = none ↔ ∃ c ∈ s.toList, ¬ InAlphabet c.toNat := by
  rw [← Option.not_isSome_iff_eq_none, isSome_spelledOctets?, codePoints]
  simp

theorem decodeOctets?_byteLevel_iff {s : String} :
    decodeOctets? .byteLevel (codePoints s) = some (Utf8.ofString s) ↔ Verbatim s := by
  rw [Verbatim, ← spelledOctets?_eq_none_iff, ← spelledOctets?_eq_ofString_iff, decodeOctets?]
  cases spelledOctets? (codePoints s) with
  | none => simp [encodePoints?_codePoints]
  | some bs => simp

theorem decodeText?_byteLevel_iff {s : String} :
    decodeText? .byteLevel (codePoints s) = some (codePoints s) ↔ Verbatim s := by
  rw [Verbatim, ← spelledOctets?_eq_none_iff, ← spelledOctets?_eq_ofString_iff, decodeText?]
  cases spelledOctets? (codePoints s) with
  | none => simp
  | some bs =>
    have hpoints : ∀ cs : List Char, cs.map Char.toNat = codePoints s ↔ cs = s.toList := fun cs =>
      List.map_inj_right fun a b h => Char.toNat_inj.1 h
    simp [hpoints, Utf8.decode?_eq_some_iff, Utf8.ofString]

/-! ## Built vocabularies -/

namespace Metadata

variable {m : Metadata String} {a : AddedToken String} {before after : List (AddedToken String)}

/-- The token of a place is the last one that is added there. -/
theorem getElem?_tokens {size i : Nat} (hadded : m.added = before ++ a :: after)
    (hlast : ∀ b ∈ after, b.id ≠ a.id) (hid : a.id = i) (hi : i < size) :
    (m.tokens "" size)[i]? = some a.content := by
  have hwritten : written? i (m.added.map fun b => (b.content, b.id)) = some a.content := by
    refine written?_eq_some_iff.2 ⟨before.map fun b => (b.content, b.id),
      after.map fun b => (b.content, b.id), by rw [hadded, List.map_append, List.map_cons, hid], ?_⟩
    intro w hw
    obtain ⟨b, hb, rfl⟩ := List.mem_map.1 hw
    exact hid ▸ hlast b hb
  rw [getElem?_tokens_eq hi, declared?, hwritten]
  rfl

/-- What is built from metadata: the tokens in their places, with the first ones of those that end a
text as stop tokens, and the special ones that are none. -/
structure Built (m : Metadata String) (extra : List String) (v : Vocabulary) : Prop where
  tokens : v.tokens = m.tokens "" m.tableSize.toNat
  encoding : v.encoding = .ofStages m.stages
  stop : ∀ i : Nat, i ∈ v.stop ↔ (i : Int) ∈ firstPlaces v.tokens (extra ++ m.eos.toList)
  special : ∀ i : Int, i ∈ v.special ↔ i ∈ m.specialIds v.size ∧
    i ∉ firstPlaces v.tokens (extra ++ m.eos.toList)

theorem inTable_of_mem_firstPlaces {t : Array String} {l : List String} {i : Int}
    (h : i ∈ firstPlaces t l) : inTable t.size i = true := by
  obtain ⟨s, -, h⟩ := List.mem_filterMap.1 h
  obtain ⟨n, hn, rfl⟩ := Option.map_eq_some_iff.1 h
  simpa [inTable] using (Array.findIdx?_eq_some_iff_getElem.1 hn).1

/-- The vocabulary of a table with a place. -/
theorem build_eq (h : 0 < m.tableSize) (extra : List String) :
    m.build extra = Vocabulary.of (m.tokens "" m.tableSize.toNat) (.ofStages m.stages)
      (firstPlaces (m.tokens "" m.tableSize.toNat) (extra ++ m.eos.toList))
      ((m.specialIds m.tableSize.toNat).filter fun i =>
        !(firstPlaces (m.tokens "" m.tableSize.toNat) (extra ++ m.eos.toList)).contains i) := by
  have htable : m.table "" extra = .ok _ := if_neg (Int.not_le.2 h)
  rw [build, htable]
  rfl

theorem exists_built (h : 0 < m.tableSize) (extra : List String) :
    ∃ v, m.build extra = .ok v ∧ m.Built extra v := by
  rw [build_eq h]
  set ts := m.tokens "" m.tableSize.toNat with hts
  have hsize : ts.size = m.tableSize.toNat := size_tokens ..
  have hpos : 0 < ts.size := by omega
  have hstop : (sortIds (firstPlaces ts (extra ++ m.eos.toList))).all (inTable ts.size) = true :=
    List.all_eq_true.2 fun i hi => inTable_of_mem_firstPlaces ((mem_sortIds _).1 hi)
  simp only [Vocabulary.of, dif_pos hpos, dif_pos hstop]
  refine ⟨_, rfl, rfl, rfl, fun i => ?_, fun i => ?_⟩
  · dsimp only
    rw [List.mem_map]
    constructor
    · rintro ⟨k, hk, rfl⟩
      rw [mem_sortIds] at hk
      rwa [Int.toNat_of_nonneg (inTable_iff.1 (inTable_of_mem_firstPlaces hk)).1]
    · intro hi
      exact ⟨i, (mem_sortIds _).2 hi, Int.toNat_natCast i⟩
  · dsimp only
    rw [mem_sortIds, List.mem_filter, Vocabulary.size, hsize]
    simp

theorem Built.toNat_mem_stop_iff {extra : List String} {v : Vocabulary} (hv : m.Built extra v)
    {i : Int} (h : inTable v.size i = true) :
    i.toNat ∈ v.stop ↔ i ∈ firstPlaces v.tokens (extra ++ m.eos.toList) := by
  rw [hv.stop, Int.toNat_of_nonneg (inTable_iff.1 h).1]

/-! ## Added tokens -/

/-- A token that is added last at its place is special there if one was before it. -/
theorem Built.isSpecial_iff {extra : List String} {v : Vocabulary} (hv : m.Built extra v)
    (hadded : m.added = before ++ a :: after) (hplain : a.special = false)
    (hlast : ∀ b ∈ after, b.id ≠ a.id) (hid : inTable v.size a.id = true)
    (hstop : v.isStop a.id.toNat = false) :
    v.isSpecial a.id = true ↔ ∃ b ∈ before, b.id = a.id ∧ b.special = true := by
  have hends : a.id ∉ firstPlaces v.tokens (extra ++ m.eos.toList) := by
    rw [← hv.toNat_mem_stop_iff hid]
    simpa [isStop] using hstop
  rw [isSpecial, List.contains_iff_mem, hv.special, and_iff_left hends, specialIds, hadded,
    List.mem_map]
  constructor
  · rintro ⟨b, hb, heq⟩
    obtain ⟨hb, hspecial⟩ := List.mem_filter.1 hb
    rw [Bool.and_eq_true] at hspecial
    -- What is added after the token is added elsewhere, and the token itself is not special.
    rcases List.mem_append.1 hb with hb | hb
    · exact ⟨b, hb, heq, hspecial.1⟩
    · rcases List.mem_cons.1 hb with rfl | hb
      · rw [hplain] at hspecial
        cases hspecial.1
      · exact absurd heq (hlast b hb)
  · rintro ⟨b, hb, heq, hspecial⟩
    exact ⟨b, List.mem_filter.2 ⟨List.mem_append_left _ hb, by rw [hspecial, heq, hid]; rfl⟩, heq⟩

theorem fits_of_le_room [Memory] {n : Int} (h : 0 ≤ n) (hroom : n ≤ Declaration.room) : Json.Fits n := by
  have hlimit : n.natAbs < 10 ^ 20 := by
    have hplaces : n ≤ Declaration.placeLimit := hroom.trans (min_le_left ..)
    have : Declaration.placeLimit < 10 ^ 20 := by decide
    omega
  exact hlimit.trans_le (Nat.pow_le_pow_right (by decide) (by decide))

/-- An added token puts out its text exactly if no special token was added before it at its place
and its text stands for itself. -/
theorem decoded_added [Memory] (hadded : m.added = before ++ a :: after)
    (hlevel : Encoding.ofStages m.stages = .byteLevel) (hplain : a.special = false)
    (hlast : ∀ b ∈ after, b.id ≠ a.id) (hid : 0 ≤ a.id) (hsize : a.id < m.tableSize)
    (hroom : m.tableSize ≤ Declaration.room) (extra : List String) :
    ∃ v, (Declaration.ofMetadata m).vocabulary extra = .ok v ∧
      (v.isStop a.id.toNat = false →
        (v.decodedText a.id = .ok (some (codePoints a.content)) ↔
          (∀ b ∈ before, b.id = a.id → b.special = false) ∧ Verbatim a.content) ∧
        (v.decodedOctets a.id = .ok (some (Utf8.ofString a.content)) ↔
          (∀ b ∈ before, b.id = a.id → b.special = false) ∧ Verbatim a.content)) := by
  have hpos : 0 < m.tableSize := by omega
  obtain ⟨v, hbuild, hv⟩ := exists_built hpos extra
  refine ⟨v, ?_, fun hstop => ?_⟩
  · rw [Declaration.vocabulary_ofMetadata (fits_of_le_room hpos.le hroom) hroom, hbuild]
  have htoken : v.token? a.id = some a.content := by
    rw [token?, if_pos hid, hv.tokens]
    exact getElem?_tokens hadded hlast (Int.toNat_of_nonneg hid).symm (by omega)
  have hin : inTable v.size a.id = true := by
    have htable : v.size = m.tableSize.toNat := by rw [Vocabulary.size, hv.tokens, size_tokens]
    rw [inTable_iff, htable]
    omega
  have hspecial := hv.isSpecial_iff hadded hplain hlast hin hstop
  have hlater : (∀ b ∈ before, b.id = a.id → b.special = false) ↔ v.isSpecial a.id = false := by
    rw [← Bool.not_eq_true, hspecial]
    simp
  have hlookup : ∀ {β : Type} (decode : Encoding → List Nat → Option β) (x : β),
      v.lookup decode a.id = .ok (some x) ↔
        v.isSpecial a.id = false ∧ decode .byteLevel (codePoints a.content) = some x := by
    intro β decode x
    rw [lookup, htoken, hv.encoding, hlevel]
    cases v.isSpecial a.id <;> simp
  rw [hlater, decodedText, decodedOctets, hlookup, hlookup, decodeText?_byteLevel_iff,
    decodeOctets?_byteLevel_iff]
  exact ⟨Iff.rfl, Iff.rfl⟩

/-- A token, and a text with a space that is added to it. -/
def spaced : Metadata String := ⟨[("a", 0)], [⟨1, "no way", false⟩], ["ByteLevel"], none, none⟩

attribute [local instance] Memory.small

/-- A text with a space is no spelling, so it is put out. -/
theorem decoded_added_spaced : ∃ v, (Declaration.ofMetadata spaced).vocabulary [] = .ok v ∧
    v.isStop 1 = false ∧ v.decodedText 1 = .ok (some (codePoints "no way")) ∧
      v.decodedOctets 1 = .ok (some (Utf8.ofString "no way")) := by
  have hadded : spaced.added = [] ++ ⟨1, "no way", false⟩ :: [] := rfl
  obtain ⟨v, hv, h⟩ := decoded_added hadded rfl rfl nofun (by decide) (by decide) (by decide) []
  have hverbatim : Verbatim "no way" := .inl ⟨' ', by decide, by unfold InAlphabet; decide⟩
  have hbuild := Declaration.vocabulary_ofMetadata (m := spaced)
    (fits_of_le_room (by decide) (by decide)) (by decide) []
  have hstop : v.isStop 1 = false := by
    obtain rfl := Except.ok.inj ((hbuild.trans rfl).symm.trans hv)
    rfl
  obtain ⟨htext, hoctets⟩ := h hstop
  exact ⟨v, hv, hstop, htext.2 ⟨nofun, hverbatim⟩, hoctets.2 ⟨nofun, hverbatim⟩⟩

/-- A quoted token, and a quoted letter of the alphabet that is added to it. -/
def accented : Metadata String :=
  ⟨[("\"a\"", 0)], [⟨1, "\"é\"", false⟩], ["ByteLevel"], none, none⟩

/-- A letter of the alphabet that is not ASCII puts out the octet that it stands for, which is no
text. -/
theorem decoded_added_accented : ∃ v, (Declaration.ofMetadata accented).vocabulary [] = .ok v ∧
    v.isStop 1 = false ∧ v.decodedText 1 = .ok none ∧
      v.decodedOctets 1 = .ok (some [0x22, 0xE9, 0x22]) ∧
      Utf8.ofString "\"é\"" = [0x22, 0xC3, 0xA9, 0x22] := by
  have hbuild := Declaration.vocabulary_ofMetadata (m := accented)
    (fits_of_le_room (by decide) (by decide)) (by decide) []
  exact ⟨_, hbuild.trans rfl, rfl, rfl, rfl, by decide⟩

end Metadata

end GuidedJson.Vocabulary
