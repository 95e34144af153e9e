import GuidedJson.Proofs.Language
import GuidedJson.Proofs.Text.Utf8
import GuidedJson.Vocabulary.Basic
import Mathlib.Data.Set.Function

/-!
# Fingerprints

The digest of a vocabulary is taken of a text that has its encoding, its stop tokens, its size and
its tokens, one part after the other. A zero stands before every token, and since no length is
written it cannot be told from a zero inside a token. What can be told are the pieces between zeros:
they are the tokens where no token holds a zero, and otherwise more than there are tokens. The
special tokens are not among the parts.
-/

namespace GuidedJson

open Text (Utf8.encode Utf8.ofString)

/-! ## Parts between separators -/

section Parts

variable {α : Type} {x y : α} {us vs : List (List α)}

/-- Parts that are free of the separator can be told apart. -/
theorem eq_of_intercalate_eq [DecidableEq α] (hus : ∀ u ∈ us, x ∉ u) (hvs : ∀ v ∈ vs, x ∉ v)
    (hu : us ≠ []) (hv : vs ≠ []) (h : [x].intercalate us = [x].intercalate vs) : us = vs := by
  rw [← List.splitOn_intercalate x hus hu, h, List.splitOn_intercalate x hvs hv]

/-- A separator of two symbols is one of the first symbol, where all parts but the first begin with
the second symbol. -/
theorem intercalate_pair_cons (x y : α) (u : List α) (us : List (List α)) :
    [x, y].intercalate (u :: us) = [x].intercalate (u :: us.map (y :: ·)) := by
  rw [intercalate_cons, intercalate_cons, List.map_map]
  rfl

theorem eq_of_intercalate_pair_eq [DecidableEq α] (hxy : x ≠ y)
    (hus : ∀ u ∈ us, u ≠ [] ∧ x ∉ u)
    (hvs : ∀ v ∈ vs, v ≠ [] ∧ x ∉ v) (h : [x, y].intercalate us = [x, y].intercalate vs) :
    us = vs := by
  have hempty : ∀ {u : List α} {us : List (List α)}, u ≠ [] →
      [x, y].intercalate (u :: us) ≠ [x, y].intercalate [] := by
    intro u us hu h
    rw [intercalate_cons] at h
    exact hu (List.append_eq_nil_iff.1 h).1
  have hfree : ∀ {u : List α} {us : List (List α)}, (∀ w ∈ u :: us, w ≠ [] ∧ x ∉ w) →
      ∀ w ∈ u :: us.map (y :: ·), x ∉ w := by
    intro u us hus w hw
    obtain ⟨hu, hus⟩ := List.forall_mem_cons.1 hus
    rcases List.mem_cons.1 hw with rfl | hw
    · exact hu.2
    · obtain ⟨z, hz, rfl⟩ := List.mem_map.1 hw
      simp [hxy, (hus z hz).2]
  cases us with
  | nil =>
    cases vs with
    | nil => rfl
    | cons v vs => exact absurd h.symm (hempty (List.forall_mem_cons.1 hvs).1.1)
  | cons u us =>
    cases vs with
    | nil => exact absurd h (hempty (List.forall_mem_cons.1 hus).1.1)
    | cons v vs =>
      -- The first symbol alone separates the parts, since none of them holds it.
      rw [intercalate_pair_cons, intercalate_pair_cons] at h
      have hparts := eq_of_intercalate_eq (hfree hus) (hfree hvs) (by simp) (by simp) h
      obtain ⟨rfl, hrest⟩ := List.cons.inj hparts
      rw [List.map_injective_iff.2 (fun _ _ => List.cons_inj_right y |>.1) hrest]

theorem not_mem_of_mem_splitOn [DecidableEq α] {u v : List α} (hv : v ∈ u.splitOn x) : x ∉ v := by
  induction u generalizing v with
  | nil => simp_all
  | cons y u ih =>
    rw [List.splitOn_cons_eq_if_modifyHead] at hv
    split at hv
    · rcases List.mem_cons.1 hv with rfl | hv
      · exact List.not_mem_nil
      · exact ih hv
    · next hy =>
      -- The symbol that is read belongs to the first part.
      obtain ⟨w, ws, hsplit⟩ := List.exists_cons_of_ne_nil (List.splitOn_ne_nil x u)
      rw [hsplit] at hv ih
      rcases List.mem_cons.1 hv with rfl | hv
      · have hw := ih List.mem_cons_self
        grind
      · exact ih (List.mem_cons_of_mem w hv)

/-- A text is one part exactly if it is free of the separator. -/
theorem length_splitOn_eq_one_iff [DecidableEq α] {u : List α} :
    (u.splitOn x).length = 1 ↔ x ∉ u := by
  constructor
  · intro h
    obtain ⟨v, hv⟩ := List.length_eq_one_iff.1 h
    have hu : [x].intercalate (u.splitOn x) = u := List.intercalate_splitOn x
    rw [hv, List.intercalate_singleton] at hu
    rw [← hu]
    exact not_mem_of_mem_splitOn (u := u) (hv ▸ List.mem_singleton_self v)
  · intro h
    rw [List.splitOn_eq_singleton h, List.length_singleton]

/-- A text with the separator before it is its parts with the separator before each. -/
theorem flatten_splitOn [DecidableEq α] (x : α) (u : List α) :
    ((u.splitOn x).map ([x] ++ ·)).flatten = x :: u := by
  have hu : [x].intercalate (u.splitOn x) = u := List.intercalate_splitOn x
  obtain ⟨v, vs, hsplit⟩ := List.exists_cons_of_ne_nil (List.splitOn_ne_nil x u)
  rw [hsplit, intercalate_cons] at hu
  rw [hsplit, List.map_cons, List.flatten_cons, List.append_assoc, hu, List.singleton_append]

/-- Where every item gives at least one thing, there are as many things as items exactly if every
item gives one. -/
theorem length_flatMap_eq_iff {β : Type} {f : β → List α} {bs : List β} (hf : ∀ b, f b ≠ []) :
    (bs.flatMap f).length = bs.length ↔ ∀ b ∈ bs, (f b).length = 1 := by
  have hleast : ∀ bs : List β, bs.length ≤ (bs.flatMap f).length := by
    intro bs
    induction bs with
    | nil => exact Nat.le_refl 0
    | cons b bs ih =>
      have hb := List.length_pos_of_ne_nil (hf b)
      rw [List.flatMap_cons, List.length_append, List.length_cons]
      omega
  induction bs with
  | nil => simp
  | cons b bs ih =>
    have hb := List.length_pos_of_ne_nil (hf b)
    have hbs := hleast bs
    rw [List.flatMap_cons, List.length_append, List.length_cons, List.forall_mem_cons]
    refine ⟨fun h => ⟨by omega, ih.1 (by omega)⟩, fun h => ?_⟩
    rw [h.1, ih.2 h.2, Nat.add_comm]

theorem mem_of_mem_intercalate {sep : List α} (h : x ∈ sep.intercalate us) :
    x ∈ sep ∨ ∃ u ∈ us, x ∈ u := by
  cases us with
  | nil => cases h
  | cons u us =>
    rw [intercalate_cons, List.mem_append, List.mem_flatten] at h
    obtain h | ⟨_, hmem, h⟩ := h
    · exact .inr ⟨u, List.mem_cons_self, h⟩
    · obtain ⟨w, hw, rfl⟩ := List.mem_map.1 hmem
      rcases List.mem_append.1 h with h | h
      · exact .inl h
      · exact .inr ⟨w, List.mem_cons_of_mem u hw, h⟩

end Parts

namespace Text

theorem hexText_injective : Function.Injective hexText := by
  intro bs cs h
  have htexts : bs.flatMap hexOctet = cs.flatMap hexOctet := String.ofList_inj.1 h
  rw [← readHex_flatMap_hexOctet bs, htexts, readHex_flatMap_hexOctet]

theorem toList_bracketed (items : List String) : (bracketed items).toList =
    '[' :: [',', ' '].intercalate (items.map String.toList) ++ [']'] := by
  simp [bracketed, String.toList_intercalate]

/-- A number is written in digits. -/
theorem isDigit_of_mem_toString {n : Nat} {c : Char} (h : c ∈ (toString n).toList) :
    c.isDigit = true :=
  Nat.isDigit_of_mem_toDigits (by decide) (by decide) (Nat.toList_repr ▸ h)

theorem toString_injective : Function.Injective (toString : Nat → String) := by
  intro m n h
  have hdigits : Nat.toDigits 10 m = Nat.toDigits 10 n := by
    rw [← Nat.toList_repr, ← Nat.toList_repr]
    exact congrArg String.toList h
  rw [← Nat.ofDigitChars_ten_toDigits (n := m), hdigits, Nat.ofDigitChars_ten_toDigits]

end Text

namespace Vocabulary

/-! ## The text that is digested -/

/-- Whether no token of a vocabulary holds a zero. -/
def ZeroFree (v : Vocabulary) : Prop := ∀ t ∈ v.tokens, Char.ofNat 0 ∉ t.toList

instance (v : Vocabulary) : Decidable v.ZeroFree :=
  inferInstanceAs (Decidable (∀ t ∈ v.tokens, Char.ofNat 0 ∉ t.toList))

/-- The encoding, the stop tokens and the size. -/
def headerParts (v : Vocabulary) : List (List Char) :=
  [(toString v.encoding.code).toList, (Text.bracketed (v.stop.map toString)).toList,
    (toString v.size).toList]

/-- The pieces of the tokens between zeros, token after token. -/
def pieces (v : Vocabulary) : List (List Char) :=
  v.tokens.toList.flatMap fun t => t.toList.splitOn (Char.ofNat 0)

/-- The parts of the text that is digested are the header and the pieces of the tokens. -/
theorem fingerprintInput_eq (v : Vocabulary) : v.fingerprintInput =
    Utf8.encode ([Char.ofNat 0].intercalate (['|'].intercalate v.headerParts :: v.pieces)) := by
  have hpieces : (v.pieces.map ([Char.ofNat 0] ++ ·)).flatten =
      v.tokens.toList.flatMap fun t => Char.ofNat 0 :: t.toList := by
    rw [pieces, List.map_flatMap, ← List.flatMap_id, List.flatMap_assoc]
    simp only [List.flatMap_id, flatten_splitOn]
  have hheader : (toString v.encoding.code ++ "|" ++ Text.bracketed (v.stop.map toString) ++ "|" ++
      toString v.size).toList = ['|'].intercalate v.headerParts := by
    simp [headerParts, intercalate_cons]
  rw [intercalate_cons, hpieces, Text.Utf8.encode_append, fingerprintInput, Utf8.ofString, hheader,
    Utf8.encode, Utf8.encode, List.flatMap_assoc]
  rfl

/-- Numbers and lists of numbers are written without the separators of their own parts. -/
theorem mem_headerParts {v : Vocabulary} {part : List Char} (hpart : part ∈ v.headerParts)
    {c : Char} (hc : c ∈ part) : c.isDigit = true ∨ c ∈ ['[', ',', ' ', ']'] := by
  simp only [headerParts, List.mem_cons, List.not_mem_nil, or_false] at hpart
  rcases hpart with rfl | rfl | rfl
  · exact .inl (Text.isDigit_of_mem_toString hc)
  · rw [Text.toList_bracketed, List.cons_append, List.mem_cons, List.mem_append,
      List.mem_singleton] at hc
    rcases hc with rfl | hc | rfl
    · exact .inr (by decide)
    · rcases mem_of_mem_intercalate hc with hc | ⟨_, hmem, hc⟩
      · exact .inr (List.mem_cons_of_mem _ (List.mem_append_left [']'] hc))
      · rw [List.map_map] at hmem
        obtain ⟨i, -, rfl⟩ := List.mem_map.1 hmem
        exact .inl (Text.isDigit_of_mem_toString hc)
    · exact .inr (by decide)
  · exact .inl (Text.isDigit_of_mem_toString hc)

theorem bar_not_mem_headerParts {v : Vocabulary} {part : List Char} (h : part ∈ v.headerParts) :
    '|' ∉ part :=
  fun hc => absurd (mem_headerParts h hc) (by decide)

theorem zero_not_mem_header (v : Vocabulary) :
    Char.ofNat 0 ∉ ['|'].intercalate v.headerParts := by
  intro h
  rcases mem_of_mem_intercalate h with h | ⟨part, hpart, h⟩
  · exact absurd h (by decide)
  · exact absurd (mem_headerParts hpart h) (by decide)

theorem zero_not_mem_pieces {v : Vocabulary} {u : List Char} (hu : u ∈ v.pieces) :
    Char.ofNat 0 ∉ u := by
  obtain ⟨t, -, hu⟩ := List.mem_flatMap.1 hu
  exact not_mem_of_mem_splitOn hu

/-- A vocabulary is free of zeros exactly if it has no more pieces than tokens. -/
theorem zeroFree_iff {v : Vocabulary} : v.ZeroFree ↔ v.pieces.length = v.size := by
  rw [pieces, size, ← Array.length_toList,
    length_flatMap_eq_iff fun t : String => List.splitOn_ne_nil (Char.ofNat 0) t.toList]
  simp only [length_splitOn_eq_one_iff, Array.mem_toList_iff]
  rfl

/-- The pieces of a vocabulary without zeros are its tokens. -/
theorem ZeroFree.pieces_eq {v : Vocabulary} (hv : v.ZeroFree) :
    v.pieces = v.tokens.toList.map String.toList := by
  rw [pieces, List.map_eq_flatMap]
  refine List.flatMap_congr fun t ht => ?_
  exact List.splitOn_eq_singleton (hv t (Array.mem_toList_iff.1 ht))

theorem code_injective : Function.Injective Encoding.code := by
  intro e f
  cases e <;> cases f <;> decide

/-- What tells stop tokens apart. -/
theorem stop_of_bracketed {is js : List Nat}
    (h : Text.bracketed (is.map toString) = Text.bracketed (js.map toString)) : is = js := by
  have htexts := congrArg String.toList h
  rw [Text.toList_bracketed, Text.toList_bracketed] at htexts
  have hitems := List.append_cancel_right (List.cons.inj htexts).2
  have hdigits : ∀ ks : List Nat, ∀ u ∈ (ks.map toString).map String.toList, u ≠ [] ∧ ',' ∉ u := by
    intro ks u hu
    rw [List.map_map] at hu
    obtain ⟨k, -, rfl⟩ := List.mem_map.1 hu
    refine ⟨?_, fun hc => absurd (Text.isDigit_of_mem_toString hc) (by decide)⟩
    rw [Function.comp_apply, Nat.toString_eq_repr, Nat.toList_repr]
    exact Nat.toDigits_ne_nil
  have hparts := eq_of_intercalate_pair_eq (by decide) (hdigits is) (hdigits js) hitems
  have hnumbers := List.map_injective_iff.2 (fun _ _ => String.toList_inj.1) hparts
  exact List.map_injective_iff.2 Text.toString_injective hnumbers

/-- The header tells the encoding, the stop tokens and the size. -/
theorem headerParts_eq_iff {v w : Vocabulary} : v.headerParts = w.headerParts ↔
    v.encoding = w.encoding ∧ v.stop = w.stop ∧ v.size = w.size := by
  simp only [headerParts, List.cons.injEq, String.toList_inj, and_true]
  constructor
  · rintro ⟨hencoding, hstop, hsize⟩
    exact ⟨code_injective (Text.toString_injective hencoding), stop_of_bracketed hstop,
      Text.toString_injective hsize⟩
  · rintro ⟨hencoding, hstop, hsize⟩
    rw [hencoding, hstop, hsize]
    exact ⟨rfl, rfl, rfl⟩

/-- The text that is digested tells the encoding, the stop tokens, the size and the pieces of the
tokens, and nothing else. -/
theorem fingerprintInput_eq_iff_pieces {v w : Vocabulary} :
    v.fingerprintInput = w.fingerprintInput ↔
      v.encoding = w.encoding ∧ v.stop = w.stop ∧ v.size = w.size ∧ v.pieces = w.pieces := by
  have hfree : ∀ v : Vocabulary, ∀ u ∈ ['|'].intercalate v.headerParts :: v.pieces,
      Char.ofNat 0 ∉ u := fun v =>
    List.forall_mem_cons.2 ⟨zero_not_mem_header v, fun _ => zero_not_mem_pieces⟩
  rw [fingerprintInput_eq, fingerprintInput_eq]
  constructor
  · intro h
    -- First what stands between zeros is told apart, then what stands between bars in the header.
    have hparts := eq_of_intercalate_eq (hfree v) (hfree w) (by simp) (by simp)
      (Text.Utf8.encode_injective h)
    obtain ⟨hheader, hpieces⟩ := List.cons.inj hparts
    have hheader := eq_of_intercalate_eq (fun _ => bar_not_mem_headerParts)
      (fun _ => bar_not_mem_headerParts) (by simp [headerParts]) (by simp [headerParts]) hheader
    obtain ⟨hencoding, hstop, hsize⟩ := headerParts_eq_iff.1 hheader
    exact ⟨hencoding, hstop, hsize, hpieces⟩
  · rintro ⟨hencoding, hstop, hsize, hpieces⟩
    rw [headerParts_eq_iff.2 ⟨hencoding, hstop, hsize⟩, hpieces]

/-- A vocabulary without zeros has the same digested text as another one exactly if they have the
same tokens, the same encoding and the same stop tokens. -/
theorem fingerprintInput_eq_iff {v w : Vocabulary} (hv : v.ZeroFree) :
    v.fingerprintInput = w.fingerprintInput ↔
      v.tokens = w.tokens ∧ v.encoding = w.encoding ∧ v.stop = w.stop := by
  rw [fingerprintInput_eq_iff_pieces]
  constructor
  · rintro ⟨hencoding, hstop, hsize, hpieces⟩
    -- As many pieces as tokens: no zero in the other vocabulary either.
    have hw : w.ZeroFree := zeroFree_iff.2 (by rw [← hpieces, zeroFree_iff.1 hv, hsize])
    rw [hv.pieces_eq, hw.pieces_eq] at hpieces
    have htokens := List.map_injective_iff.2 (fun _ _ => String.toList_inj.1) hpieces
    exact ⟨Array.toList_inj.1 htokens, hencoding, hstop⟩
  · rintro ⟨htokens, hencoding, hstop⟩
    rw [size, size, pieces, pieces, htokens]
    exact ⟨hencoding, hstop, rfl, rfl⟩

/-! ## What a fingerprint tells -/

theorem fingerprint_eq_iff {v w : Vocabulary}
    (hdigest : Set.InjOn Digest.sha256 {v.fingerprintInput, w.fingerprintInput}) :
    v.fingerprint = w.fingerprint ↔ v.fingerprintInput = w.fingerprintInput := by
  constructor
  · intro h
    exact hdigest (.inl rfl) (.inr rfl) (Text.hexText_injective h)
  · intro h
    rw [fingerprint, fingerprint, h]

/-- The text that is digested tells the encoding, the stop tokens, the size and the pieces of the
tokens between zeros. It tells the tokens themselves where one of two vocabularies has no zeros, and
there so does the fingerprint, unless the digest has a collision. -/
theorem fingerprint_determines (v w : Vocabulary) :
    (v.fingerprintInput = w.fingerprintInput ↔
      v.encoding = w.encoding ∧ v.stop = w.stop ∧ v.size = w.size ∧ v.pieces = w.pieces) ∧
    (v.ZeroFree ∨ w.ZeroFree → (v.fingerprintInput = w.fingerprintInput ↔
      v.tokens = w.tokens ∧ v.encoding = w.encoding ∧ v.stop = w.stop)) ∧
    (v.ZeroFree ∨ w.ZeroFree →
      Set.InjOn Digest.sha256 {v.fingerprintInput, w.fingerprintInput} →
      (v.fingerprint = w.fingerprint ↔
        v.tokens = w.tokens ∧ v.encoding = w.encoding ∧ v.stop = w.stop)) := by
  have htokens : v.ZeroFree ∨ w.ZeroFree → (v.fingerprintInput = w.fingerprintInput ↔
      v.tokens = w.tokens ∧ v.encoding = w.encoding ∧ v.stop = w.stop) := by
    rintro (hv | hw)
    · exact fingerprintInput_eq_iff hv
    · rw [eq_comm, fingerprintInput_eq_iff hw, eq_comm, @eq_comm _ w.encoding, @eq_comm _ w.stop]
  refine ⟨fingerprintInput_eq_iff_pieces, htokens, fun hzero hdigest => ?_⟩
  rw [fingerprint_eq_iff hdigest, htokens hzero]

/-- Two letters with some stop tokens. -/
def letters (stop : List Nat) (h : ∀ i ∈ stop, i < 2) : Vocabulary where
  tokens := #["a", "b"]
  encoding := .raw
  stop
  special := []
  size_pos := by decide
  stop_lt := h

theorem fingerprint_determines_letters :
    Set.InjOn Digest.sha256 {(letters [] (by decide)).fingerprintInput,
      (letters [1] (by decide)).fingerprintInput} ∧
    (letters [] (by decide)).ZeroFree ∧
    (letters [] (by decide)).fingerprintInput ≠ (letters [1] (by decide)).fingerprintInput ∧
    (letters [] (by decide)).fingerprint ≠ (letters [1] (by decide)).fingerprint := by
  have hdigest : Set.InjOn Digest.sha256 {(letters [] (by decide)).fingerprintInput,
      (letters [1] (by decide)).fingerprintInput} := by
    have hne : Digest.sha256 (letters [] (by decide)).fingerprintInput ≠
        Digest.sha256 (letters [1] (by decide)).fingerprintInput := by
      decide +kernel
    rintro x (rfl | rfl) y (rfl | rfl) h
    · rfl
    · exact absurd h hne
    · exact absurd h.symm hne
    · rfl
  have hzero : (letters [] (by decide)).ZeroFree := by decide
  obtain ⟨-, hinput, hfingerprint⟩ :=
    fingerprint_determines (letters [] (by decide)) (letters [1] (by decide))
  refine ⟨hdigest, hzero, fun h => ?_, fun h => ?_⟩
  · exact absurd ((hinput (.inl hzero)).1 h).2.2 (by decide)
  · exact absurd ((hfingerprint (.inl hzero) hdigest).1 h).2.2 (by decide)

/-- Two tokens, the first with a zero in it. -/
def zeroFirst : Vocabulary where
  tokens := #["true\x00x", "false"]
  encoding := .raw
  stop := []
  special := []
  size_pos := by decide
  stop_lt := by decide

/-- The same pieces with the zero in the other token. -/
def zeroLast : Vocabulary := { zeroFirst with
  tokens := #["true", "x\x00false"]
  size_pos := by decide
  stop_lt := by decide }

/-- A zero in a token looks like the zero before one. -/
theorem fingerprint_zeroFirst : zeroFirst.tokens ≠ zeroLast.tokens ∧
    zeroFirst.fingerprintInput = zeroLast.fingerprintInput ∧
    zeroFirst.fingerprint = zeroLast.fingerprint := by
  have hinput : zeroFirst.fingerprintInput = zeroLast.fingerprintInput := by decide
  refine ⟨by decide, hinput, ?_⟩
  rw [fingerprint, fingerprint, hinput]

end Vocabulary

end GuidedJson
