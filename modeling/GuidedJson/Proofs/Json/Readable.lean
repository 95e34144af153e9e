import GuidedJson.Proofs.Json.Reading

/-!
# What is read

A document that is read can be printed and read again: its objects have no key twice, its integers
have no more digits than are read, and its binary numbers are in the form that rounding leaves.
-/

namespace GuidedJson

namespace Value

/-! ## Readable documents -/

/-- Whether a document can be printed and read again. -/
def Readable (v : Value) : Prop := v.Proper ∧ v.Fits

theorem proper_array {vs : List Value} : Proper (.array vs) ↔ ∀ v ∈ vs, v.Proper := by
  rw [Proper, allProper_iff]

theorem proper_object {ms : List (String × Value)} :
    Proper (.object ms) ↔ (ms.map Prod.fst).Nodup ∧ ∀ m ∈ ms, m.2.Proper := by
  rw [Proper, membersProper_iff]

theorem fits_int {n : Int} : (Value.int n).Fits ↔ Json.Fits n := by rw [Fits]

theorem fits_zero : (Value.int 0).Fits := fits_int.2 (Json.fits_of_lt_ten (by decide))

theorem fits_array {vs : List Value} : Fits (.array vs) ↔ ∀ v ∈ vs, v.Fits := by
  rw [Fits, allFit_iff]

theorem fits_object {ms : List (String × Value)} : Fits (.object ms) ↔ ∀ m ∈ ms, m.2.Fits := by
  rw [Fits, membersFit_iff]

theorem readable_array {vs : List Value} : Readable (.array vs) ↔ ∀ v ∈ vs, v.Readable := by
  rw [Readable, proper_array, fits_array, ← forall₂_and]
  rfl

theorem readable_object {ms : List (String × Value)} :
    Readable (.object ms) ↔ (ms.map Prod.fst).Nodup ∧ ∀ m ∈ ms, m.2.Readable := by
  rw [Readable, proper_object, fits_object, and_assoc, ← forall₂_and]
  rfl

theorem readable_float {x : Number.Binary} :
    Readable (.float x) ↔ Number.Format.binary64.Keeps x := by
  simp only [Readable, Proper, Fits, and_true]

theorem readable_int {n : Int} : Readable (.int n) ↔ Json.Fits n := by
  simp only [Readable, Proper, Fits, true_and]

theorem readable_string (s : String) : Readable (.string s) := ⟨trivial, trivial⟩

theorem readable_null : Readable .null := ⟨trivial, trivial⟩

theorem readable_bool (b : Bool) : Readable (.bool b) := ⟨trivial, trivial⟩

/-! ## Kept members -/

theorem keys_insertMember (key : String) (v : Value) (ms : List (String × Value)) :
    (insertMember key v ms).map Prod.fst =
      if key ∈ ms.map Prod.fst then ms.map Prod.fst else ms.map Prod.fst ++ [key] := by
  induction ms with
  | nil => rfl
  | cons m ms ih =>
    obtain ⟨k, w⟩ := m
    by_cases hk : k = key
    · simp [insertMember, hk]
    · by_cases hmem : key ∈ ms.map Prod.fst <;>
        simp_all [insertMember, Ne.symm hk]

theorem forall_mem_insertMember {P : Value → Prop} {key : String} {v : Value}
    {ms : List (String × Value)} (hv : P v) (hms : ∀ m ∈ ms, P m.2) :
    ∀ m ∈ insertMember key v ms, P m.2 := by
  induction ms with
  | nil => simpa [insertMember] using hv
  | cons m ms ih =>
    obtain ⟨k, w⟩ := m
    obtain ⟨hw, hms⟩ := List.forall_mem_cons.1 hms
    by_cases hk : k = key
    · rw [insertMember, if_pos hk]
      exact List.forall_mem_cons.2 ⟨hv, hms⟩
    · rw [insertMember, if_neg hk]
      exact List.forall_mem_cons.2 ⟨hw, ih hms⟩

theorem nodup_insertMember {ms : List (String × Value)} (h : (ms.map Prod.fst).Nodup)
    (key : String) (v : Value) : ((insertMember key v ms).map Prod.fst).Nodup := by
  rw [keys_insertMember]
  split
  · exact h
  next hkey =>
    refine List.nodup_append.2 ⟨h, List.nodup_singleton _, ?_⟩
    rintro _ hmem _ hlast rfl
    exact hkey (List.mem_singleton.1 hlast ▸ hmem)

/-- The members that are kept have no key twice. -/
theorem readable_members {ms : List (String × Value)} (hms : ∀ m ∈ ms, Readable m.2) :
    Readable (.object (members ms)) := by
  rw [readable_object]
  induction ms using List.reverseRecOn with
  | nil => simp [members]
  | append_singleton ms m ih =>
    rw [List.forall_mem_append] at hms
    obtain ⟨hnodup, hmembers⟩ := ih hms.1
    rw [members, List.foldl_append]
    exact ⟨nodup_insertMember hnodup m.1 m.2,
      forall_mem_insertMember (hms.2 m (by simp)) hmembers⟩

end Value

namespace Json

open Value (Readable readable_float readable_int readable_array readable_object readable_members)

/-! ## Numbers and words -/

theorem digits_of_readWhole {cs ds rest : List Char} (h : readWhole cs = some (ds, rest)) :
    Digits ds := by
  unfold readWhole at h
  split at h
  · cases h
    simp [Digits, isDigit]
  · split at h
    · cases h
    · cases h
      exact fun d hd => List.mem_takeWhile_imp hd

theorem readable_of_readNumber {negative : Bool} {cs unsigned rest : List Char} {v : Value}
    (h : readNumber negative cs unsigned = .ok (v, rest)) : Readable v := by
  unfold readNumber at h
  split at h
  · cases h
  next whole left hwhole =>
    split at h
    split at h
    · cases h
      exact readable_float.2 (Number.Binary.keeps_ofDecimal _ _ _)
    · split at h
      · cases h
        exact readable_float.2 (Number.Binary.keeps_ofDecimal _ _ _)
      · split at h
        · cases h
        next hlength =>
          cases h
          have hlt := digitsValue_lt (digits_of_readWhole hwhole)
          have hle := Nat.pow_le_pow_right (by decide : 0 < 10) (Nat.not_lt.1 hlength)
          rw [readable_int, Fits]
          generalize 10 ^ Text.digitLimit = bound at hle ⊢
          split <;> omega

theorem readable_of_word {cs : List Char} {w : String} {u : Value} (hu : Readable u)
    {v : Value} {rest : List Char} (h : readScalar.word cs w u = .ok (v, rest)) : Readable v := by
  unfold readScalar.word at h
  split at h
  · cases h
    exact hu
  · cases h

theorem readable_of_readScalar {cs rest : List Char} {v : Value}
    (h : readScalar cs = .ok (v, rest)) : Readable v := by
  have hnan : Number.Format.binary64.Keeps .nan := trivial
  have hinfinite (s : Bool) : Number.Format.binary64.Keeps (.infinite s) := trivial
  unfold readScalar at h
  split at h
  · exact readable_of_word (u := .null) ⟨trivial, trivial⟩ h
  · exact readable_of_word (u := .bool true) ⟨trivial, trivial⟩ h
  · exact readable_of_word (u := .bool false) ⟨trivial, trivial⟩ h
  · exact readable_of_word (readable_float.2 hnan) h
  · exact readable_of_word (readable_float.2 (hinfinite false)) h
  · split at h
    · cases h
      exact readable_float.2 (hinfinite true)
    · exact readable_of_readNumber h
  · exact readable_of_readNumber h

/-! ## Values -/

/-- Whether what is read with some fuel can be printed. -/
structure ReadsReadable (fuel : Nat) : Prop where
  value {cs rest v} : readValue fuel cs = .ok (v, rest) → Readable v
  items {cs rest vs} : readItems fuel cs = .ok (vs, rest) → ∀ v ∈ vs, Readable v
  members {cs rest ms} : readMembers fuel cs = .ok (ms, rest) → ∀ m ∈ ms, Readable m.2

section Step

variable {fuel : Nat} {cs rest : List Char} {v : Value} {vs : List Value}
  {ms : List (String × Value)}

theorem ReadsReadable.value_succ (ih : ReadsReadable fuel)
    (h : readValue (fuel + 1) cs = .ok (v, rest)) : Readable v := by
  rw [readValue.eq_def] at h
  dsimp only at h
  split at h
  · obtain ⟨⟨s, left⟩, -, heq⟩ := exceptMap_eq_ok.1 h
    cases heq
    exact ⟨trivial, trivial⟩
  · split at h
    · cases h
      exact readable_array.2 (by simp)
    · obtain ⟨⟨vs, left⟩, hitems, heq⟩ := exceptMap_eq_ok.1 h
      cases heq
      exact readable_array.2 (ih.items hitems)
  · split at h
    · cases h
      exact readable_object.2 (by simp)
    · obtain ⟨⟨ms, left⟩, hmembers, heq⟩ := exceptMap_eq_ok.1 h
      cases heq
      exact readable_members (ih.members hmembers)
  · exact readable_of_readScalar h

theorem ReadsReadable.items_succ (ih : ReadsReadable fuel)
    (h : readItems (fuel + 1) cs = .ok (vs, rest)) : ∀ v ∈ vs, Readable v := by
  rw [readItems] at h
  obtain ⟨⟨v, left⟩, hv, h⟩ := exceptBind_eq_ok.1 h
  have hvalue := ih.value hv
  dsimp only at h
  split at h
  · cases h
    simpa using hvalue
  · obtain ⟨⟨ws, after⟩, hitems, heq⟩ := exceptBind_eq_ok.1 h
    cases heq
    exact List.forall_mem_cons.2 ⟨hvalue, ih.items hitems⟩
  · cases h

theorem ReadsReadable.members_succ (ih : ReadsReadable fuel)
    (h : readMembers (fuel + 1) cs = .ok (ms, rest)) : ∀ m ∈ ms, Readable m.2 := by
  rw [readMembers.eq_def] at h
  dsimp only at h
  split at h
  · obtain ⟨⟨key, left⟩, -, h⟩ := exceptBind_eq_ok.1 h
    dsimp only at h
    split at h
    · obtain ⟨⟨v, left⟩, hv, h⟩ := exceptBind_eq_ok.1 h
      have hvalue := ih.value hv
      dsimp only at h
      split at h
      · cases h
        simpa using hvalue
      · obtain ⟨⟨ws, after⟩, hmembers, heq⟩ := exceptBind_eq_ok.1 h
        cases heq
        exact List.forall_mem_cons.2 ⟨hvalue, ih.members hmembers⟩
      · cases h
    · cases h
  · cases h

end Step

theorem readsReadable (fuel : Nat) : ReadsReadable fuel := by
  induction fuel with
  | zero => exact ⟨nofun, nofun, nofun⟩
  | succ fuel ih => exact ⟨ih.value_succ, ih.items_succ, ih.members_succ⟩

/-- The value of a text is read behind the white space at its front. -/
theorem exists_readValue_of_parse {text : String} {v : Value} (h : parse text = .ok v) :
    ∃ fuel rest, readValue fuel (skipSpace text.toList) = .ok (v, rest) := by
  have hread : readDocument text.toList = .ok v := by
    rw [parse] at h
    split at h <;> simp_all
  unfold readDocument at hread
  split at hread
  next htext =>
    obtain ⟨⟨w, left⟩, hw, rfl⟩ := exceptMap_eq_ok.1 hread
    rw [htext] at hw ⊢
    exact ⟨1, left, hw⟩
  next first cs htext =>
    split at hread
    · cases hread
    · obtain ⟨⟨w, left⟩, hw, hread⟩ := exceptBind_eq_ok.1 hread
      dsimp only at hread
      split at hread
      · cases hread
        exact ⟨_, left, hw⟩
      · cases hread

/-- What is read is a document that can be printed and read again. -/
theorem readable_of_parse {text : String} {v : Value} (h : parse text = .ok v) : Readable v := by
  obtain ⟨fuel, rest, hv⟩ := exists_readValue_of_parse h
  exact (readsReadable fuel).value hv

/-- A text that has a value is not blank. -/
theorem isBlankText_of_parse {text : String} {v : Value} (h : parse text = .ok v) :
    Text.isBlankText text = false := by
  obtain ⟨fuel, rest, hv⟩ := exists_readValue_of_parse h
  cases hcs : skipSpace text.toList with
  | nil =>
    rw [hcs] at hv
    cases fuel <;> cases hv
  | cons c cs =>
    rw [hcs] at hv
    by_cases hc : BeginsValue c
    · have hspace : c ∈ skipSpace text.toList := hcs ▸ List.mem_cons_self
      have hmem : c ∈ text.toList := (List.dropWhile_sublist isSpace).subset hspace
      rw [Text.isBlankText, List.all_eq_false]
      exact ⟨c, hmem, by simp [hc.isBlank]⟩
    · rw [readValue_of_not_beginsValue hc] at hv
      cases hv

end Json

end GuidedJson
