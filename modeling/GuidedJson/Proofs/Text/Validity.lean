import GuidedJson.Proofs.Text.Beginnings

/-!
# Valid octets

Octets are read for what they can still become: as a text if they are UTF-8, as one that breaks off
if more octets make them UTF-8, and as nothing if no more octets do.
-/

namespace GuidedJson.Text.Utf8

variable {bs : List UInt8} {p : Partial} {cs : List Char}

/-! ## Validity -/

/-- Whether octets are UTF-8. -/
def Valid (bs : List UInt8) : Prop := bs.toByteArray.IsValidUTF8

/-- The text that valid octets encode. -/
def Valid.text (h : Valid bs) : String := String.fromUTF8 bs.toByteArray h

instance : Decidable (Valid bs) := inferInstanceAs (Decidable bs.toByteArray.IsValidUTF8)

theorem valid_encode (cs : List Char) : Valid (encode cs) := .intro cs rfl

theorem valid_nil : Valid [] := valid_encode []

theorem valid_iff : Valid bs ↔ ∃ cs, bs = encode cs := by
  constructor
  · rintro ⟨cs, h⟩
    exact ⟨cs, List.toByteArray_inj.1 h⟩
  · rintro ⟨cs, rfl⟩
    exact valid_encode cs

theorem Valid.text_encode (h : Valid (encode cs)) : h.text = String.ofList cs := rfl

/-! ## Refused octets -/

/-- Octets that were refused are refused with any more behind them. -/
theorem readFrom_append_of_invalid {state : Option Partial} (h : readFrom state bs = .invalid)
    (more : List UInt8) : readFrom state (bs ++ more) = .invalid := by
  induction bs generalizing state with
  | nil => cases state <;> cases h
  | cons b bs ih =>
    rw [readFrom_cons] at h
    rw [List.cons_append, readFrom_cons]
    cases hb : step state b with
    | char c =>
      simp only [hb] at h ⊢
      cases hrest : readFrom none bs with
      | invalid => rw [ih hrest]
      | _ => simp [hrest] at h
    | more q =>
      simp only [hb] at h ⊢
      exact ih h
    | refused => rfl

theorem not_valid_of_invalid (h : read bs = .invalid) (more : List UInt8) :
    ¬ Valid (bs ++ more) := by
  rw [valid_iff]
  rintro ⟨cs, hcs⟩
  have hread : read (bs ++ more) = .invalid := readFrom_append_of_invalid h more
  rw [hcs, read_encode] at hread
  cases hread

/-! ## Texts that break off -/

/-- Octets that break off are a text and the beginning of one more character. -/
theorem Standing.exists_begins_of_readFrom {pre : List UInt8} {state : Option Partial}
    (hpre : Standing pre state) (h : readFrom state bs = .incomplete p) :
    ∃ cs pre', pre ++ bs = encode cs ++ pre' ∧ Begins pre' p := by
  induction bs generalizing pre state with
  | nil =>
    cases hpre with
    | between => cases h
    | inside hpre =>
      cases h
      exact ⟨[], pre, List.append_nil pre, hpre⟩
  | cons b bs ih =>
    rw [readFrom_cons] at h
    cases hb : step state b with
    | char c =>
      simp only [hb] at h
      have hrest : readFrom none bs = .incomplete p := by
        cases hrest : readFrom none bs with
        | text => simp [hrest] at h
        | _ => rwa [hrest] at h
      obtain ⟨cs, pre', heq, hpre'⟩ := ih .between hrest
      refine ⟨c :: cs, pre', ?_, hpre'⟩
      rw [encode_cons, hpre.encodeChar_eq hb, List.append_assoc, List.append_assoc, ← heq]
      rfl
    | more q =>
      simp only [hb] at h
      obtain ⟨cs, pre', heq, hpre'⟩ := ih (hpre.snoc hb) h
      refine ⟨cs, pre', ?_, hpre'⟩
      rw [← heq, List.append_assoc]
      rfl
    | refused => simp [hb] at h

/-- What was read of a character goes on to one. -/
theorem Begins.exists_encodeChar (h : Begins bs p) :
    ∃ c rest, rest ≠ [] ∧ encodeChar c = bs ++ rest := by
  obtain ⟨n, hn⟩ := h.exists_spans
  have hvalid : n.isValidChar := (h.isValidChar_of_spans hn).2
  rw [← toNat_ofNat_of_valid hvalid] at hn
  exact ⟨Char.ofNat n, h.spans_iff.1 hn⟩

theorem exists_valid_of_incomplete (h : read bs = .incomplete p) :
    ∃ more, more ≠ [] ∧ Valid (bs ++ more) := by
  obtain ⟨cs, pre, rfl, hpre⟩ := Standing.between.exists_begins_of_readFrom h
  obtain ⟨c, more, hne, hc⟩ := hpre.exists_encodeChar
  refine ⟨more, hne, ?_⟩
  rw [List.append_assoc, ← hc, ← encode_singleton, ← encode_append]
  exact valid_encode (cs ++ [c])

theorem not_valid_of_incomplete (h : read bs = .incomplete p) : ¬ Valid bs := by
  intro hvalid
  obtain ⟨cs, rfl⟩ := valid_iff.1 hvalid
  rw [read_encode] at h
  cases h

/-! ## What octets are read as -/

/-- What is known of a text from its octets: all of it, as yet nothing, or that it is none. -/
def Reading.text? : Reading → Option String
  | .text cs => some (.ofList cs)
  | .incomplete _ => some ""
  | .invalid => none

/-- Octets are refused if none behind them make them UTF-8. They are read as their text if they are
UTF-8, and as the empty text exactly if there are none of them or they break off. -/
theorem read_classifies (bs : List UInt8) :
    ((read bs).text? = none ↔ ∀ more, ¬ Valid (bs ++ more)) ∧
    (∀ h : Valid bs, (read bs).text? = some h.text) ∧
    ((read bs).text? = some "" ↔
      bs = [] ∨ ¬ Valid bs ∧ ∃ more, more ≠ [] ∧ Valid (bs ++ more)) := by
  cases h : read bs with
  | text cs =>
    obtain rfl := read_eq_text_iff.1 h
    have hvalid : Valid (encode cs) := valid_encode cs
    have hnil : encode cs = [] ↔ cs = [] := encode_injective.eq_iff' rfl
    refine ⟨?_, fun hv => congrArg some hv.text_encode.symm, ?_⟩
    · simp only [Reading.text?, reduceCtorEq, false_iff, not_forall, not_not]
      exact ⟨[], by rwa [List.append_nil]⟩
    · simp [Reading.text?, hvalid, hnil]
  | incomplete p =>
    obtain ⟨more, hne, hmore⟩ := exists_valid_of_incomplete h
    have hnot : ¬ Valid bs := not_valid_of_incomplete h
    refine ⟨?_, fun hv => absurd hv hnot, ?_⟩
    · simp only [Reading.text?, reduceCtorEq, false_iff, not_forall, not_not]
      exact ⟨more, hmore⟩
    · simp only [Reading.text?, true_iff]
      exact .inr ⟨hnot, more, hne, hmore⟩
  | invalid =>
    have hnot := not_valid_of_invalid h
    refine ⟨?_, fun hv => ?_, ?_⟩
    · simpa [Reading.text?] using hnot
    · exact absurd (by rwa [List.append_nil]) (hnot [])
    · simp only [Reading.text?, reduceCtorEq, false_iff, not_or, not_and, not_exists]
      refine ⟨?_, fun _ more _ => hnot more⟩
      rintro rfl
      exact hnot [] valid_nil

theorem read_classifies_euro : ∃ h : Valid [0xE2, 0x82, 0xAC],
    (read [0xE2, 0x82, 0xAC]).text? = some h.text ∧ h.text = "\u20ac" := by
  have h : Valid [0xE2, 0x82, 0xAC] := valid_encode ['\u20ac']
  exact ⟨h, (read_classifies [0xE2, 0x82, 0xAC]).2.1 h, rfl⟩

-- A lead that surrogates share is waited on; the octet behind it tells a surrogate.
example : (read [0xED]).text? = some "" ∧ (read [0xED, 0xA0]).text? = none ∧
    ¬ Valid [0xED, 0xA0, 0x80] := by decide

end GuidedJson.Text.Utf8
