import GuidedJson.Proofs.Schema.Counted
import GuidedJson.Proofs.Vocabulary.Places
import GuidedJson.Vocabulary.Resolution

/-!
# Declarations of texts

Documents that declare texts, with integers as their ids, say what the metadata of a tokenizer says.
Their vocabulary is the one that is built from it, as long as there is room for the table.
-/

namespace GuidedJson

/-- Room for a few places. -/
@[reducible]
def Memory.small : Memory := ⟨16⟩

/-! ## The order of integers -/

namespace Value

theorem order_int (operator : String) (a b : Int) :
    (int a).order operator (int b) = .ok (some (compare a b)) := by
  have horder : (int a).order operator (int b) =
      .ok (orderNumbers (Number.Binary.exact a) (Number.Binary.exact b)) := rfl
  rw [horder, orderNumbers, Number.Binary.lt_exact, Number.Binary.lt_exact,
    Number.Binary.same_exact]
  rcases lt_trichotomy a b with h | rfl | h
  · simp [h, compare_lt_iff_lt.2 h]
  · simp
  · simp [h, Int.not_lt.2 h.le, compare_gt_iff_gt.2 h]

theorem isAtMost_int (a b : Int) : (int a).isAtMost (int b) = .ok (decide (a ≤ b)) := by
  rw [isAtMost, order_int, Except.map]
  rcases lt_trichotomy a b with h | rfl | h
  · simp [h.le, compare_lt_iff_lt.2 h]
  · simp
  · simp [Int.not_le.2 h, compare_gt_iff_gt.2 h]

end Value

namespace Vocabulary

namespace Metadata

/-! ## Other tokens -/

section Map

variable {τ σ : Type} (f : τ → σ) (d : Metadata τ)

/-- Metadata with other tokens in place of its own. -/
def map : Metadata σ where
  base := d.base.map fun b => (f b.1, b.2)
  added := d.added.map fun a => ⟨a.id, f a.content, a.special⟩
  stages := d.stages
  eos := d.eos.map f
  size := d.size

@[simp] theorem tableSize_map : (d.map f).tableSize = d.tableSize := by
  have hids : (d.map f).ids = d.ids := by simp [map, ids, Function.comp_def]
  rw [tableSize, hids, tableSize, map]

theorem tokens_map (gap : τ) (size : Nat) :
    (d.map f).tokens (f gap) size = (d.tokens gap size).map f := by
  have hwrites : (d.map f).writes = d.writes.map fun w => (f w.1, w.2) := by
    simp [map, writes, Function.comp_def]
  rw [tokens_eq_placeAll, tokens_eq_placeAll, hwrites, ← Array.map_replicate, placeAll_map]

theorem specialIds_map (size : Nat) : (d.map f).specialIds size = d.specialIds size := by
  simp [map, specialIds, List.filter_map, Function.comp_def]

/-- Other tokens that are told apart as its own give the same table of them. -/
theorem table_map [BEq τ] [BEq σ] (hf : ∀ a b, (f a == f b) = (a == b)) (gap : τ) (extra : List τ) :
    (d.map f).table (f gap) (extra.map f) =
      (d.table gap extra).map fun t => ⟨t.tokens.map f, t.encoding, t.stop, t.special⟩ := by
  have hplaces : ∀ (t : Array τ) (l : List τ),
      firstPlaces (t.map f) (l.map f) = firstPlaces t l := by
    intro t l
    rw [firstPlaces, firstPlaces, List.filterMap_map]
    refine congrArg (List.filterMap · l) (funext fun a => ?_)
    simp [Function.comp_def, Array.findIdx?_map, hf]
  have heos : extra.map f ++ (d.map f).eos.toList = (extra ++ d.eos.toList).map f := by
    cases h : d.eos <;> simp [map, h]
  rw [table, table, tableSize_map]
  dsimp only
  split
  · rfl
  · rw [tokens_map, heos, hplaces, specialIds_map]
    rfl

end Map

/-! ## What counts of a declaration -/

section Narrow

variable {τ : Type} (d : Metadata τ)

/-- The names of stages up to the first one that shows an encoding. -/
def shownStages : List String → List String
  | [] => []
  | s :: ss => if (Encoding.ofStage? s).isSome then [s] else s :: shownStages ss

theorem ofStages_shownStages (ss : List String) :
    Encoding.ofStages (shownStages ss) = Encoding.ofStages ss := by
  induction ss with
  | nil => rfl
  | cons s ss ih =>
    rw [Encoding.ofStages, Encoding.ofStages, shownStages] at *
    cases h : Encoding.ofStage? s with
    | none => simpa [h, Encoding.ofStages] using ih
    | some e => simp [h]

/-- What counts of metadata for a table of a size. -/
def narrow (size : Nat) : Metadata τ where
  base := d.base.filter fun b => inTable size b.2
  added := d.added.filter fun a => inTable size a.id
  stages := shownStages d.stages
  eos := d.eos
  size := some size

theorem tokens_narrow (gap : τ) (size : Nat) : (d.narrow size).tokens gap size = d.tokens gap size := by
  have hwrites : (d.narrow size).writes = d.writes.filter fun w => inTable size w.2 := by
    simp [narrow, writes, List.filter_map, Function.comp_def]
  have hall := placeAll_filter (Array.replicate size gap) d.writes
  rw [Array.size_replicate] at hall
  rw [tokens_eq_placeAll, tokens_eq_placeAll, hwrites, hall]

theorem specialIds_narrow (size : Nat) : (d.narrow size).specialIds size = d.specialIds size := by
  rw [specialIds, specialIds, narrow, List.filter_filter]
  refine congrArg (List.map _) (List.filter_congr fun a _ => ?_)
  cases inTable size a.id <;> simp

theorem table_narrow [BEq τ] {size : Nat} (hsize : d.tableSize = size) (gap : τ) (extra : List τ) :
    (d.narrow size).table gap extra = d.table gap extra := by
  have hnarrow : (d.narrow size).tableSize = size := rfl
  rw [table, table, hnarrow, hsize]
  dsimp only
  rw [Int.toNat_natCast, tokens_narrow, specialIds_narrow, narrow, ofStages_shownStages]

end Narrow

end Metadata

namespace Declaration

open Metadata (narrow shownStages)

/-! ## Declared texts -/

/-- What documents say that declare the texts of metadata. -/
def ofMetadata (m : Metadata String) : Declaration where
  base := m.base.map fun b => (.string b.1, .int b.2)
  added := m.added.map fun a => ⟨.int a.id, .string a.content, .bool a.special⟩
  stages := m.stages.map .string
  eos := m.eos.elim .null .string
  size := m.size.elim .null .int

/-- The most places that a table can have, by their number and by the room for them. -/
def room [Memory] : Int := min placeLimit Memory.places

variable {m : Metadata String}

theorem largerId_int (a b : Int) : largerId (.int a) (.int b) = .ok (.int (max a b)) := by
  rw [largerId, Value.exceeds_int]
  by_cases h : a < b
  · simp [bind, Except.bind, pure, Except.pure, h, h.le]
  · simp [bind, Except.bind, pure, Except.pure, h, Int.not_lt.1 h]

theorem foldlM_largerId (n : Int) (ids : List Int) :
    (ids.map Value.int).foldlM largerId (.int n) = .ok (.int (ids.foldl max n)) := by
  induction ids generalizing n with
  | nil => rfl
  | cons i ids ih =>
    rw [List.map_cons, List.foldlM_cons, largerId_int]
    exact ih (max n i)

theorem largest?_cons (n : Int) (ids : List Int) :
    Metadata.largest? (n :: ids) = some (ids.foldl max n) := by
  induction ids generalizing n with
  | nil => rfl
  | cons i ids ih =>
    rw [Metadata.largest?, ih, List.foldl_cons, List.foldl_assoc]

theorem isSome_writeInteger? {n : Int} (h : Json.Fits n) : (Text.writeInteger? n).isSome = true := by
  rw [Option.isSome_iff_ne_none, ne_eq, Text.writeInteger?_eq_none_iff, not_not]
  exact h

theorem neededSize_ids (hsize : m.size = none) (h : Json.Fits m.tableSize) :
    neededSize (m.ids.map .int) = .ok (.int m.tableSize) := by
  rw [Metadata.tableSize, hsize] at h ⊢
  cases hids : m.ids with
  | nil => rfl
  | cons n ids =>
    rw [hids, largest?_cons] at h
    rw [List.map_cons, neededSize, foldlM_largerId, largest?_cons]
    simp [Except.mapError, successor, isSome_writeInteger? h, bind, Except.bind, pure, Except.pure]

theorem placeCount_int [Memory] {n : Int} (h : n ≤ room) :
    placeCount (.int n) = .ok (if n ≤ 0 then 0 else n) := by
  obtain ⟨hlimit, hplaces⟩ := le_min_iff.1 h
  rw [placeCount, Value.isAtMost_int]
  by_cases hn : n ≤ 0
  · simp [hn, Except.mapError, bind, Except.bind, pure, Except.pure]
  · simp [hn, Except.mapError, bind, Except.bind, pure, Except.pure, Value.asInt?,
      Int.not_lt.2 hplaces, Int.not_lt.2 hlimit]

theorem ids_ofMetadata (m : Metadata String) :
    (ofMetadata m).base.map (·.2) ++ (ofMetadata m).added.map (·.id) = m.ids.map .int := by
  simp [ofMetadata, Metadata.ids, Function.comp_def]

/-- The number of places of declared texts is written only where it is not declared. -/
theorem tableSize_eq_placeCount [Memory] (hfits : m.size = none → Json.Fits m.tableSize) :
    (ofMetadata m).tableSize = placeCount (.int m.tableSize) := by
  rw [tableSize, ids_ofMetadata]
  cases hsize : m.size with
  | none =>
    rw [neededSize_ids hsize (hfits hsize)]
    simp [ofMetadata, hsize, Value.isNull, bind, Except.bind]
  | some n =>
    have htable : m.tableSize = n := by rw [Metadata.tableSize, hsize]
    simp [ofMetadata, hsize, htable, Value.isNull, bind, Except.bind]

theorem tableSize_ofMetadata [Memory] (hfits : Json.Fits m.tableSize)
    (hroom : m.tableSize ≤ room) :
    (ofMetadata m).tableSize = .ok (if m.tableSize ≤ 0 then 0 else m.tableSize) := by
  rw [tableSize_eq_placeCount fun _ => hfits, placeCount_int hroom]

theorem placeOf_int (size : Nat) (i : Int) :
    placeOf size (.int i) = .ok (if inTable size i then some i else none) := by
  rw [placeOf, Value.isAtMost_int, Value.order_int]
  by_cases h : 0 ≤ i
  · by_cases h' : i < size
    · simp [h, h', inTable, bind, Except.bind, pure, Except.pure, Value.asInt?,
        compare_lt_iff_lt.2 h']
    · have hcompare : compare i size ≠ .lt := fun heq => h' (compare_lt_iff_lt.1 heq)
      simp [h, h', inTable, bind, Except.bind, pure, Except.pure, hcompare]
  · simp [h, inTable, bind, Except.bind, pure, Except.pure]

/-- Entries that are placed or passed over, each by itself. -/
theorem mapM_placed {α β : Type} {p : α → Bool} {f : α → β} {g : α → Except Mismatch (Option β)}
    (hg : ∀ a, g a = .ok (if p a then some (f a) else none)) (l : List α) :
    (do return (← l.mapM g).filterMap id) =
      (.ok ((l.filter p).map f) : Except Mismatch (List β)) := by
  have hpure : g = fun a => pure (if p a then some (f a) else none) := funext hg
  rw [hpure, List.mapM_pure]
  refine congrArg Except.ok ?_
  rw [List.filterMap_map]
  induction l with
  | nil => rfl
  | cons a l ih =>
    rw [List.filterMap_cons, ih]
    cases h : p a <;> simp [h]

theorem placedBase_ofMetadata (size : Nat) : placedBase size (ofMetadata m).base =
    .ok ((m.narrow size).map StoredToken.text).base := by
  rw [placedBase, ofMetadata, List.mapM_map]
  refine mapM_placed (p := fun b => inTable size b.2) (fun b => ?_) m.base
  dsimp only [Function.comp_apply]
  rw [placeOf_int]
  cases inTable size b.2 <;> rfl

theorem placedAdded_ofMetadata (size : Nat) : placedAdded size (ofMetadata m).added =
    .ok ((m.narrow size).map StoredToken.text).added := by
  rw [placedAdded, ofMetadata, List.mapM_map]
  refine mapM_placed (p := fun a => inTable size a.id) (fun a => ?_) m.added
  rw [Function.comp_apply, placeOf_int]
  cases inTable size a.id <;> rfl

theorem stageNames_ofMetadata : stageNames (ofMetadata m).stages = .ok (shownStages m.stages) := by
  rw [ofMetadata]
  induction m.stages with
  | nil => rfl
  | cons s ss ih =>
    rw [List.map_cons, stageNames, shownStages, ih]
    split <;> simp [Value.checkHashable, bind, Except.bind, pure, Except.pure, *]

theorem forM_checkHashable_text (ts : Array String) :
    (ts.map StoredToken.text).forM (fun t => t.value.checkHashable) = .ok () := by
  rw [Array.forM_eq_forM, Array.forM_map]
  obtain ⟨l⟩ := ts
  rw [List.forM_toArray]
  induction l with
  | nil => rfl
  | cons t l ih => exact ih

theorem metadata_ofMetadata (size : Nat) :
    (ofMetadata m).metadata size = .ok ((m.narrow size).map .text) := by
  have hforM := forM_checkHashable_text ((m.narrow size).tokens "" size)
  rw [← Metadata.tokens_map] at hforM
  rw [metadata, placedBase_ofMetadata, placedAdded_ofMetadata, stageNames_ofMetadata]
  -- What is left to fail is a token of the table that cannot be hashed, and texts can.
  change Except.bind (Array.forM (fun t => t.value.checkHashable)
    (((m.narrow size).map StoredToken.text).tokens (.text "") size)) _ = _
  rw [hforM]
  cases m with
  | mk base added stages eos size => cases eos <;> rfl

theorem foreign_text (ts : Array String) : StoredToken.foreign (ts.map .text) = [] := by
  rw [StoredToken.foreign, List.filterMap_eq_nil_iff]
  rintro ⟨t, i⟩ h
  rw [Array.toList_map] at h
  obtain ⟨s, -, rfl⟩ := List.mem_map.1 (List.fst_mem_of_mem_zipIdx h)
  rfl

theorem fields_of_eq_ok {ts : Array String} {e : Encoding} {stop special : List Int}
    {v : Vocabulary} (h : Vocabulary.of ts e stop special = .ok v) :
    v.tokens = ts ∧ v.foreign = [] := by
  unfold Vocabulary.of at h
  split at h
  · dsimp only at h
    split at h
    · cases h
      exact ⟨rfl, rfl⟩
    · cases h
  · cases h

/-- The vocabulary of declared texts is the one that is built from them. -/
theorem vocabulary_ofMetadata [Memory] (hfits : Json.Fits m.tableSize)
    (hroom : m.tableSize ≤ room) (extra : List String) :
    (ofMetadata m).vocabulary extra = m.build extra := by
  rw [vocabulary, tableSize_ofMetadata hfits hroom]
  by_cases hsize : m.tableSize ≤ 0
  · have htable : m.table "" extra = .error .noDeclaredToken := by
      rw [Metadata.table]
      exact if_pos hsize
    rw [Metadata.build, htable, if_pos hsize]
    rfl
  · obtain ⟨size, hnat⟩ := Int.eq_ofNat_of_zero_le (Int.not_le.1 hsize).le
    -- The table holds texts as stored tokens, which are told apart as the texts are.
    have htexts := ((m.narrow size).table_map StoredToken.text (fun a b => rfl) "" extra).trans
      (congrArg _ (m.table_narrow hnat "" extra))
    rw [if_neg hsize, hnat]
    rw [hnat] at hsize
    simp only [bind, Except.bind, if_neg hsize, metadata_ofMetadata, Except.mapError, htexts,
      Metadata.build]
    cases m.table "" extra with
    | error fault => rfl
    | ok t =>
      have hasText : (t.tokens.map StoredToken.text).map StoredToken.asText = t.tokens := by
        rw [Array.map_map]
        exact Array.map_id _
      simp only [Except.map, hasText, foreign_text]
      cases hv : Vocabulary.of t.tokens t.encoding t.stop t.special with
      | error fault => rfl
      | ok v =>
        have hforeign := (fields_of_eq_ok hv).2
        obtain ⟨⟩ := v
        cases hforeign
        rfl

end Declaration

end Vocabulary

end GuidedJson
