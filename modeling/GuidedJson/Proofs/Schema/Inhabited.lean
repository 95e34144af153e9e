import GuidedJson.Proofs.Schema.Joined
import GuidedJson.Proofs.Schema.Texts

/-!
# Schemas admit trees

Every schema whose bounds are in order admits a tree, so its pattern has texts. No text of a schema
is empty.
-/

namespace GuidedJson

open Json (Tree ValueText integerTexts numberTexts charTexts)

namespace Json

theorem nil_not_mem_oneChar {P : Char → Prop} : [] ∉ oneChar P := by
  rw [mem_oneChar]
  rintro ⟨c, -, hc⟩
  cases hc

theorem nil_not_mem_integerTexts : [] ∉ integerTexts := by
  rw [integerTexts, nil_mem_mul]
  rintro ⟨-, hzero | hmore⟩
  · cases hzero
  · exact nil_not_mem_oneChar (nil_mem_mul.1 hmore).1

theorem nil_not_mem_numberTexts : [] ∉ numberTexts := by
  rw [numberTexts, nil_mem_mul, nil_mem_mul]
  exact fun h => nil_not_mem_integerTexts h.1.1

theorem zero_mem_integerTexts : ['0'] ∈ integerTexts :=
  Language.mem_mul.2 ⟨[], .inl rfl, ['0'], .inl rfl, rfl⟩

theorem letter_mem_charTexts : ['a'] ∈ charTexts :=
  .inl (.inl (mem_oneChar.2 ⟨'a', .inr (.inr (by decide)), rfl⟩))

/-- The text of a value is not empty. -/
theorem ValueText.ne_nil {t : Tree} {cs : List Char} (h : ValueText t cs) : cs ≠ [] := by
  cases h with
  | number hcs =>
    rintro rfl
    exact nil_not_mem_numberTexts hcs
  | bool b => cases b <;> exact nofun
  | _ => exact nofun

end Json

namespace Schema

/-- There are as many items or characters as a lower bound asks for. -/
theorem Ordered.between {least most : Value} (h : Ordered least most) :
    Between least most (lowest least) := ⟨Nat.le_refl _, h.le⟩

namespace Node

open Json (letter_mem_charTexts zero_mem_integerTexts)

/-! ## Trees of schemas -/

theorem exists_admitsMembers {w : Wording} (hfixed : ∀ s, ∃ body, w.fixed s body)
    {ps : List (Property Node)} (h : ∀ p ∈ ps, ∃ t, p.schema.Admits w t) :
    ∃ ms, AdmitsMembers w ps ms := by
  induction ps with
  | nil => exact ⟨[], trivial⟩
  | cons p ps ih =>
    obtain ⟨⟨t, ht⟩, hps⟩ := List.forall_mem_cons.1 h
    obtain ⟨body, hbody⟩ := hfixed p.name
    obtain ⟨ms, hms⟩ := ih hps
    exact ⟨(body, t) :: ms, hbody, ht, hms⟩

/-- A schema whose bounds are in order admits a tree: an array or a string of it is as short as it
may be. -/
theorem exists_admits {n : Node} (h : n.WellFormed) : ∃ t, n.Admits spelling t := by
  induction n using induct with
  | boolean => exact ⟨.bool true, trivial⟩
  | integer => exact ⟨.number ['0'], zero_mem_integerTexts⟩
  | number =>
    exact ⟨.number ['0'], Json.mem_numberTexts_of_mem_integerTexts zero_mem_integerTexts⟩
  | null => exact ⟨.null, trivial⟩
  | text least most =>
    have hbounds : Ordered least most := h _ (mem_parts_self _)
    -- A letter is one character, so as many of them as are asked for are long enough.
    refine ⟨.string (List.replicate (lowest least) ['a']).flatten, _, ?_, ?_, rfl⟩
    · rw [List.length_replicate]
      exact hbounds.between
    · intro u hu
      rw [List.eq_of_mem_replicate hu]
      exact letter_mem_charTexts
  | choice choices =>
    have hne : choices ≠ [] := h _ (mem_parts_self _)
    obtain ⟨s, hs⟩ := List.exists_mem_of_ne_nil choices hne
    exact ⟨.string _, s, hs, rfl⟩
  | object ps ih =>
    have hparts := (forall_parts_object.1 h).2
    obtain ⟨ms, hms⟩ :=
      exists_admitsMembers (fun _ => ⟨_, rfl⟩) fun p hp => ih p hp (hparts p hp)
    exact ⟨.object ms, hms⟩
  | array items least most ih =>
    obtain ⟨hbounds, hitems⟩ := forall_parts_array.1 h
    obtain ⟨t, ht⟩ := ih hitems
    refine ⟨.array (List.replicate (lowest least) t), ?_, ?_⟩
    · rw [List.length_replicate]
      exact hbounds.between
    · intro u hu
      rw [List.eq_of_mem_replicate hu]
      exact ht
  | union ns ih =>
    obtain ⟨hne, hparts⟩ := forall_parts_union.1 h
    obtain ⟨n, hn⟩ := List.exists_mem_of_ne_nil ns hne
    obtain ⟨t, ht⟩ := ih n hn (hparts n hn)
    exact ⟨t, admitsSome_iff.2 ⟨n, hn, ht⟩⟩

/-! ## Texts of schemas -/

section Texts

variable {n : Node} {indent : Option Int} {depth : Int}

theorem exists_mem_texts (h : n.WellFormed) : ∃ w, w ∈ n.texts indent depth := by
  obtain ⟨t, ht⟩ := exists_admits h
  exact ⟨_, t, ht, rfl⟩

theorem ne_nil_of_mem_texts {w : List Char} (hw : w ∈ n.texts indent depth) : w ≠ [] := by
  obtain ⟨t, ht, rfl⟩ := hw
  have hconforms : n.Conforms False t := Admits.mono weaker_conforming (fun _ _ => trivial) ht
  exact (Tree.valueText_renderAt (Admits.spelled hconforms) indent depth).ne_nil

end Texts

end Node

end Schema

end GuidedJson
