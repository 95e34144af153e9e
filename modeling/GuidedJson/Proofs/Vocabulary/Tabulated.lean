import GuidedJson.Proofs.Vocabulary.Added

/-!
# Tables of declared tokens

The table that is built from metadata holds in each place the token that was written there last:
the added tokens are written over the base tokens, and a place without a token is empty. Tokens that
end a text stand for their first places in this table.
-/

namespace GuidedJson.Vocabulary

namespace Metadata

/-! ## Sizes -/

theorem exists_largest? {ids : List Int} {id : Int} (h : id ∈ ids) :
    ∃ n, largest? ids = some n := by
  cases ids with
  | nil => cases h
  | cons i ids => exact ⟨_, Declaration.largest?_cons i ids⟩

theorem mem_of_largest? {ids : List Int} {n : Int} (h : largest? ids = some n) :
    n ∈ ids ∧ ∀ i ∈ ids, i ≤ n := by
  induction ids generalizing n with
  | nil => cases h
  | cons i ids ih =>
    rw [largest?] at h
    cases hrest : largest? ids with
    | none =>
      have hnil : ids = [] := by
        refine List.eq_nil_iff_forall_not_mem.2 fun j hj => ?_
        obtain ⟨k, hk⟩ := exists_largest? hj
        rw [hrest] at hk
        cases hk
      rw [hrest] at h
      obtain rfl := Option.some.inj h
      simp [hnil]
    | some k =>
      rw [hrest] at h
      obtain rfl := Option.some.inj h
      obtain ⟨hmem, hle⟩ := ih hrest
      refine ⟨?_, List.forall_mem_cons.2 ⟨le_max_left .., fun j hj => ?_⟩⟩
      · rcases max_choice i k with hmax | hmax <;> rw [hmax]
        · exact List.mem_cons_self ..
        · exact List.mem_cons_of_mem _ hmem
      · exact (hle j hj).trans (le_max_right ..)

/-- A size that is not declared is one more than the highest id. -/
theorem tableSize_of_mem {τ : Type} {m : Metadata τ} (hsize : m.size = none) {id : Int}
    (hid : id ∈ m.ids) : m.tableSize - 1 ∈ m.ids ∧ ∀ i ∈ m.ids, i < m.tableSize := by
  obtain ⟨n, hlargest⟩ := exists_largest? hid
  obtain ⟨hmem, hle⟩ := mem_of_largest? hlargest
  have htable : m.tableSize = n + 1 := by rw [tableSize, hsize, hlargest]
  rw [htable]
  exact ⟨by simpa using hmem, fun i hi => Int.lt_add_one_of_le (hle i hi)⟩

/-- Whether the number of places of a table can be written, which is done where it is not declared. -/
def Told (m : Metadata String) : Prop := m.size = none → Json.Fits m.tableSize

/-- Whether the number of places of a table can be told, and there is room for them. -/
def Roomy [Memory] (m : Metadata String) : Prop := m.Told ∧ m.tableSize ≤ Declaration.room

/-- How a number of places is refused that cannot be written, counted or held. -/
inductive Excess [Memory] (m : Metadata String) : Failure → Prop
  | untold : ¬ m.Told → m.Excess (.digits none)
  | uncounted : m.Told → Declaration.placeLimit < m.tableSize → m.Excess .tooWide
  | unheld : m.Told → m.tableSize ≤ Declaration.placeLimit → Memory.places < m.tableSize →
      m.Excess .memory

/-- Metadata that differ only in what they say of places outside of their tables. -/
structure SameInside {τ : Type} (m n : Metadata τ) : Prop where
  size : n.tableSize = m.tableSize
  base : (n.base.filter fun b => inTable m.tableSize.toNat b.2) =
    m.base.filter fun b => inTable m.tableSize.toNat b.2
  added : (n.added.filter fun a => inTable m.tableSize.toNat a.id) =
    m.added.filter fun a => inTable m.tableSize.toNat a.id
  stages : n.stages = m.stages
  eos : n.eos = m.eos

theorem SameInside.narrow_eq {τ : Type} {m n : Metadata τ} (h : m.SameInside n) :
    n.narrow m.tableSize.toNat = m.narrow m.tableSize.toNat := by
  rw [narrow, narrow, h.base, h.added, h.stages, h.eos]

theorem SameInside.table_eq {τ : Type} [BEq τ] {m n : Metadata τ} (h : m.SameInside n)
    (hpos : 0 < m.tableSize) (gap : τ) (extra : List τ) :
    n.table gap extra = m.table gap extra := by
  have hsize : m.tableSize = m.tableSize.toNat := by omega
  -- Narrowed to their table, both are the same metadata.
  rw [← m.table_narrow hsize, ← n.table_narrow (h.size.trans hsize), h.narrow_eq]

/-! ## Tables -/

/-- Whether a vocabulary is the table that metadata declare, with `extra` as further tokens that
end a text. -/
structure Tabulates (m : Metadata String) (extra : List String) (v : Vocabulary) : Prop where
  size : (v.size : Int) = m.tableSize
  token : ∀ i < v.size, v.tokens[i]? = some ((m.declared? i).getD "")
  texts : v.foreign = []
  encoding : v.encoding = .ofStages m.stages
  stop : ∀ i, i ∈ v.stop ↔ ∃ s ∈ extra ++ m.eos.toList, FirstAt v.tokens s i
  stop_apart : ∀ i ∈ v.stop, i < v.size ∧ (i : Int) ∉ v.special
  special : ∀ i : Int, i ∈ v.special ↔
    inTable v.size i = true ∧ i.toNat ∉ v.stop ∧ ∃ a ∈ m.added, a.special = true ∧ a.id = i

variable {m : Metadata String} {extra : List String} {v : Vocabulary}

theorem mem_specialIds_iff {size : Nat} {i : Int} : i ∈ m.specialIds size ↔
    inTable size i = true ∧ ∃ a ∈ m.added, a.special = true ∧ a.id = i := by
  rw [specialIds, List.mem_map]
  constructor
  · rintro ⟨a, ha, rfl⟩
    obtain ⟨ha, hboth⟩ := List.mem_filter.1 ha
    rw [Bool.and_eq_true] at hboth
    exact ⟨hboth.2, a, ha, hboth.1, rfl⟩
  · rintro ⟨hin, a, ha, hspecial, rfl⟩
    exact ⟨a, List.mem_filter.2 ⟨ha, by rw [hspecial, hin]; rfl⟩, rfl⟩

theorem foreign_of_build (h : m.build extra = .ok v) : v.foreign = [] := by
  obtain ⟨t, -, hv⟩ := exceptBind_eq_ok.1 h
  exact (Declaration.fields_of_eq_ok hv).2

theorem Built.tabulates (hv : m.Built extra v) (hpos : 0 < m.tableSize)
    (htexts : v.foreign = []) : m.Tabulates extra v := by
  have hsize : v.size = m.tableSize.toNat := by rw [Vocabulary.size, hv.tokens, size_tokens]
  have hstop : ∀ i, i ∈ v.stop ↔ ∃ s ∈ extra ++ m.eos.toList, FirstAt v.tokens s i :=
    fun i => (hv.stop i).trans mem_firstPlaces_iff
  refine ⟨by omega, fun i hi => ?_, htexts, hv.encoding, hstop, fun i hi => ?_, fun i => ?_⟩
  · rw [hv.tokens]
    exact getElem?_tokens_eq (hsize ▸ hi)
  · exact ⟨v.stop_lt i hi, fun hspecial => ((hv.special i).1 hspecial).2 ((hv.stop i).1 hi)⟩
  · rw [hv.special, mem_specialIds_iff]
    constructor
    · rintro ⟨⟨hin, ha⟩, hends⟩
      exact ⟨hin, mt (hv.toNat_mem_stop_iff hin).1 hends, ha⟩
    · rintro ⟨hin, hends, ha⟩
      exact ⟨⟨hin, ha⟩, mt (hv.toNat_mem_stop_iff hin).2 hends⟩

end Metadata

/-! ## Vocabularies of declarations -/

namespace Declaration

variable {m : Metadata String}

theorem neededSize_of_not_told (hsize : m.size = none) (h : ¬ Json.Fits m.tableSize) :
    neededSize (m.ids.map .int) = .error (.digits none) := by
  rw [Metadata.tableSize, hsize] at h
  cases hids : m.ids with
  | nil =>
    rw [hids] at h
    exact absurd (Json.fits_of_lt_ten (by decide)) h
  | cons n ids =>
    rw [hids, largest?_cons] at h
    rw [List.map_cons, neededSize, foldlM_largerId]
    have hnone := Text.writeInteger?_eq_none_iff.2 h
    simp [Except.mapError, successor, hnone, bind, Except.bind]
    rfl

section Tables

variable [Memory]

theorem placeCount_of_excess {n : Int} (hpos : 0 < n) :
    (placeLimit < n → placeCount (.int n) = .error .tooWide) ∧
    (n ≤ placeLimit → Memory.places < n → placeCount (.int n) = .error .memory) := by
  have hplace : placeCount (.int n) = if placeLimit < n then .error .tooWide
      else if Memory.places < n then .error .memory else .ok n := by
    rw [placeCount, Value.isAtMost_int]
    simp [Int.not_le.2 hpos, Except.mapError, bind, Except.bind, Value.asInt?]
    rfl
  rw [hplace]
  exact ⟨fun h => if_pos h, fun h hroom => by rw [if_neg (Int.not_lt.2 h), if_pos hroom]⟩

theorem tableSize_of_not_roomy (h : ¬ m.Roomy) :
    ∃ f, m.Excess f ∧ (ofMetadata m).tableSize = .error f := by
  -- A size that can be told is too large; otherwise it fails where it would be written.
  by_cases htold : m.Told
  · rw [tableSize_eq_placeCount htold]
    have hroom : room < m.tableSize := Int.not_le.1 fun hroom => h ⟨htold, hroom⟩
    have hpos : 0 < m.tableSize := by
      have : 0 ≤ room := le_min (by decide) (Int.natCast_nonneg _)
      omega
    obtain ⟨hwide, hmemory⟩ := placeCount_of_excess hpos
    rcases lt_or_ge placeLimit m.tableSize with hlimit | hlimit
    · exact ⟨_, .uncounted htold hlimit, hwide hlimit⟩
    · have hplaces := (min_lt_iff.1 hroom).resolve_left (not_lt.2 hlimit)
      exact ⟨_, .unheld htold hlimit hplaces, hmemory hlimit hplaces⟩
  · refine ⟨_, .untold htold, ?_⟩
    obtain ⟨hsize, hfits⟩ := Classical.not_imp.1 htold
    rw [tableSize, ids_ofMetadata, neededSize_of_not_told hsize hfits]
    simp [ofMetadata, hsize, Value.isNull, bind, Except.bind]

theorem vocabulary_of_not_roomy (h : ¬ m.Roomy) (extra : List String) :
    ∃ f, m.Excess f ∧ (ofMetadata m).vocabulary extra = .error f := by
  obtain ⟨f, hf, hsize⟩ := tableSize_of_not_roomy h
  refine ⟨f, hf, ?_⟩
  rw [vocabulary, hsize]
  rfl

theorem vocabulary_of_nonpos (h : m.Roomy) (hsize : m.tableSize ≤ 0) (extra : List String) :
    (ofMetadata m).vocabulary extra = .error (.vocabulary .noDeclaredToken) := by
  rw [vocabulary, tableSize_eq_placeCount h.1, placeCount_int h.2, if_pos hsize]
  rfl

theorem vocabulary_of_pos (h : m.Roomy) (hsize : 0 < m.tableSize) (extra : List String) :
    (ofMetadata m).vocabulary extra = m.build extra :=
  vocabulary_ofMetadata (Metadata.fits_of_le_room hsize.le h.2) h.2 extra

theorem exists_tabulates (h : m.Roomy) (hsize : 0 < m.tableSize) (extra : List String) :
    ∃ v, (ofMetadata m).vocabulary extra = .ok v ∧ m.Tabulates extra v := by
  obtain ⟨v, hbuild, hv⟩ := Metadata.exists_built hsize extra
  refine ⟨v, ?_, hv.tabulates hsize (Metadata.foreign_of_build hbuild)⟩
  rw [vocabulary_of_pos h hsize, hbuild]

theorem vocabulary_of_sameInside {n : Metadata String} (hn : n.Roomy) (h : m.Roomy)
    (hsame : m.SameInside n) (hsize : 0 < m.tableSize) (extra : List String) :
    (ofMetadata n).vocabulary extra = (ofMetadata m).vocabulary extra := by
  rw [vocabulary_of_pos h hsize, vocabulary_of_pos hn (hsame.size ▸ hsize), Metadata.build,
    Metadata.build, hsame.table_eq hsize]

/-- Whatever vocabulary there is of metadata, it is their table. -/
theorem tabulates_of_vocabulary {extra : List String} {v : Vocabulary}
    (h : (ofMetadata m).vocabulary extra = .ok v) : m.Tabulates extra v := by
  by_cases hroom : m.Roomy
  · rcases lt_or_ge 0 m.tableSize with hsize | hsize
    · obtain ⟨w, hw, htabulates⟩ := exists_tabulates hroom hsize extra
      obtain rfl := Except.ok.inj (hw.symm.trans h)
      exact htabulates
    · rw [vocabulary_of_nonpos hroom hsize] at h
      cases h
  · obtain ⟨f, -, hf⟩ := vocabulary_of_not_roomy hroom extra
    rw [hf] at h
    cases h

/-- Metadata without a place in their table have no vocabulary, as far as the number of places can
be told and held. All others have the one that is their table, whatever they say of places outside
of it. -/
theorem vocabulary_tabulated (m : Metadata String) (extra : List String) :
    ((∃ fault, (ofMetadata m).vocabulary extra = .error (.vocabulary fault)) ↔
      m.Roomy ∧ m.tableSize ≤ 0) ∧
    (m.Roomy → 0 < m.tableSize →
      (∃ v, (ofMetadata m).vocabulary extra = .ok v ∧ m.Tabulates extra v) ∧
      ∀ n, m.SameInside n →
        (ofMetadata n).vocabulary extra = (ofMetadata m).vocabulary extra) ∧
    (¬ m.Roomy → ∃ f, m.Excess f ∧ (ofMetadata m).vocabulary extra = .error f) := by
  refine ⟨⟨?_, ?_⟩, fun h hsize => ⟨exists_tabulates h hsize extra, ?_⟩,
    fun h => vocabulary_of_not_roomy h extra⟩
  · rintro ⟨fault, herror⟩
    by_cases h : m.Roomy
    · refine ⟨h, Int.not_lt.1 fun hsize => ?_⟩
      obtain ⟨v, hv, -⟩ := exists_tabulates h hsize extra
      rw [hv] at herror
      cases herror
    · obtain ⟨f, hf, hexcess⟩ := vocabulary_of_not_roomy h extra
      obtain rfl := Except.error.inj (hexcess.symm.trans herror)
      cases hf
  · rintro ⟨h, hsize⟩
    exact ⟨_, vocabulary_of_nonpos h hsize extra⟩
  · intro n hsame
    refine vocabulary_of_sameInside ⟨fun _ => ?_, ?_⟩ h hsame hsize extra
    · rw [hsame.size]
      exact Metadata.fits_of_le_room hsize.le h.2
    · rw [hsame.size]
      exact h.2

end Tables

/-- A table of more places than can be counted. -/
def overcounted : Metadata String := ⟨[("true", 0)], [], [], none, some (Nat.pow 2 63)⟩

/-- A table that is declared has places, and there is no table, however much room there is. -/
theorem vocabulary_overcounted : 0 < overcounted.tableSize ∧
    @vocabulary ⟨Nat.pow 2 70⟩ (ofMetadata overcounted) [] = .error .tooWide := by
  have hsize : @tableSize ⟨Nat.pow 2 70⟩ (ofMetadata overcounted) = .error .tooWide := by rfl
  refine ⟨by decide, ?_⟩
  unfold vocabulary
  rw [hsize]
  rfl

end Declaration

end GuidedJson.Vocabulary
