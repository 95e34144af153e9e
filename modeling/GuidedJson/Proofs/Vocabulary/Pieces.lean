import GuidedJson.Proofs.Schema.Keywords
import GuidedJson.Proofs.Vocabulary.Tabulated

/-!
# Listed pieces

A tokenizer can list its pieces in the order of their ids. The list is read as a map from pieces to
places, where a piece that is repeated has its last place only. So each place of the list holds its
piece in the table, but a place whose piece comes again later is empty.
-/

namespace GuidedJson.Vocabulary

namespace Metadata

/-! ## Pieces with their places -/

section Numbered

variable {p q : String} {i : Nat} {j n : Int} {found : List (String × Int)} {ps : List String}

/-- Sets the place of a piece: at its entry if it has one, at the end otherwise. -/
def setPlace (p : String) (n : Int) : List (String × Int) → List (String × Int)
  | [] => [(p, n)]
  | b :: rest => if b.1 = p then (p, n) :: rest else b :: setPlace p n rest

/-- Sets the places of pieces from a number on. -/
def number : (i : Nat) → List String → List (String × Int) → List (String × Int)
  | _, [], found => found
  | i, p :: ps, found => number (i + 1) ps (setPlace p i found)

theorem mem_setPlace_iff (hfound : (found.map Prod.fst).Nodup) :
    (q, j) ∈ setPlace p n found ↔ q = p ∧ j = n ∨ q ≠ p ∧ (q, j) ∈ found := by
  induction found with
  | nil => simp [setPlace]
  | cons b rest ih =>
    rw [List.map_cons, List.nodup_cons] at hfound
    by_cases hb : b.1 = p
    · have hother : (q, j) ∈ rest → q ≠ p := by
        rintro hmem rfl
        exact hfound.1 (hb ▸ List.mem_map_of_mem (f := Prod.fst) hmem)
      rw [setPlace, if_pos hb, List.mem_cons, List.mem_cons, Prod.mk.injEq]
      have hne : (q, j) = b → q = p := by
        rintro rfl
        exact hb
      tauto
    · have hne : (q, j) = b → q ≠ p := by
        rintro rfl
        exact hb
      rw [setPlace, if_neg hb, List.mem_cons, List.mem_cons, ih hfound.2]
      tauto

theorem nodup_setPlace (hfound : (found.map Prod.fst).Nodup) :
    ((setPlace p n found).map Prod.fst).Nodup := by
  induction found with
  | nil => simp [setPlace]
  | cons b rest ih =>
    rw [List.map_cons, List.nodup_cons] at hfound
    by_cases hb : b.1 = p
    · rw [setPlace, if_pos hb, List.map_cons, List.nodup_cons]
      exact ⟨hb ▸ hfound.1, hfound.2⟩
    · rw [setPlace, if_neg hb, List.map_cons, List.nodup_cons]
      refine ⟨fun hmem => ?_, ih hfound.2⟩
      obtain ⟨⟨q, j⟩, hset, hq⟩ := List.mem_map.1 hmem
      rcases (mem_setPlace_iff hfound.2).1 hset with ⟨hp, -⟩ | ⟨-, hrest⟩
      · exact hb (hq.symm.trans hp)
      · exact hfound.1 (hq ▸ List.mem_map_of_mem (f := Prod.fst) hrest)

/-- A piece has the last of its places. -/
theorem mem_number_iff (hfound : (found.map Prod.fst).Nodup) : (q, j) ∈ number i ps found ↔
    (∃ k : Nat, ps[k]? = some q ∧ j = i + k ∧ q ∉ ps.drop (k + 1)) ∨
      q ∉ ps ∧ (q, j) ∈ found := by
  induction ps generalizing i found with
  | nil => simp [number]
  | cons p ps ih =>
    rw [number, ih (nodup_setPlace hfound), mem_setPlace_iff hfound, List.mem_cons, not_or]
    -- A place is that of a later piece, of the first one if it does not come again, or from before.
    constructor
    · rintro (⟨k, hk, rfl, hlast⟩ | ⟨hps, ⟨rfl, rfl⟩ | ⟨hne, hmem⟩⟩)
      · exact .inl ⟨k + 1, hk, by push_cast; omega, hlast⟩
      · exact .inl ⟨0, rfl, by simp, hps⟩
      · exact .inr ⟨⟨hne, hps⟩, hmem⟩
    · rintro (⟨k, hk, rfl, hlast⟩ | ⟨⟨hne, hps⟩, hmem⟩)
      · cases k with
        | zero =>
          obtain rfl : p = q := Option.some.inj hk
          exact .inr ⟨hlast, .inl ⟨rfl, by simp⟩⟩
        | succ k => exact .inl ⟨k, hk, by push_cast; omega, hlast⟩
      · exact .inr ⟨hps, .inr ⟨hne, hmem⟩⟩

theorem mem_numbered_iff :
    (q, (i : Int)) ∈ number 0 ps [] ↔ ps[i]? = some q ∧ q ∉ ps.drop (i + 1) := by
  rw [mem_number_iff (by simp)]
  constructor
  · rintro (⟨k, hk, hki, hlast⟩ | ⟨-, hmem⟩)
    · obtain rfl : i = k := by omega
      exact ⟨hk, hlast⟩
    · cases hmem
  · rintro ⟨hi, hlast⟩
    exact .inl ⟨i, hi, by simp, hlast⟩

/-- The last write to a place of the list is its piece, if that is not repeated. -/
theorem written?_numbered (hp : ps[i]? = some p) :
    written? i (number 0 ps []) = if p ∈ ps.drop (i + 1) then none else some p := by
  cases hwritten : written? i (number 0 ps []) with
  | none =>
    have hnone := written?_eq_none_iff.1 hwritten
    rw [if_pos]
    by_contra hlast
    exact hnone _ (mem_numbered_iff.2 ⟨hp, hlast⟩) rfl
  | some q =>
    obtain ⟨hq, hlast⟩ := mem_numbered_iff.1 (mem_of_written? hwritten)
    obtain rfl : q = p := Option.some.inj (hq.symm.trans hp)
    rw [if_neg hlast]

end Numbered

end Metadata

namespace Declaration

open Metadata (number setPlace written?)
open Schema (without lookup_without lookup_without_of_mem)

/-! ## Documents that list pieces -/

section Documents

variable {ms mm : List (String × Value)} {pieces : List (String × Value)} {config model : Value}

/-- Pieces with their scores, as a document lists them. -/
def listing (pieces : List (String × Value)) : Value :=
  .array (pieces.map fun p => .array [.string p.1, p.2])

/-- The base tokens of a list of pieces. -/
def listedBase (pieces : List (String × Value)) : List (String × Int) :=
  number 0 (pieces.map Prod.fst) []

/-- Texts with their places, as a declaration has them. -/
def declaredBase (base : List (String × Int)) : List (Value × Value) :=
  base.map fun b => (.string b.1, .int b.2)

theorem setId_declaredBase (p : String) (n : Int) (found : List (String × Int)) :
    setId (.string p) (.int n) (declaredBase found) = declaredBase (setPlace p n found) := by
  induction found with
  | nil => rfl
  | cons b rest ih =>
    have hsame : (Value.string b.1).same (.string p) = (b.1 == p) := rfl
    rw [declaredBase, List.map_cons, setId, hsame, setPlace]
    by_cases hb : b.1 = p
    · simp [hb, declaredBase]
    · simpa [hb, declaredBase] using ih

theorem listedTokens_listing (i : Nat) (found : List (String × Int)) :
    listedTokens i (pieces.map fun p => .array [.string p.1, p.2]) (declaredBase found) =
      .ok (declaredBase (number i (pieces.map Prod.fst) found)) := by
  induction pieces generalizing i found with
  | nil => rfl
  | cons p pieces ih =>
    rw [List.map_cons, listedTokens, List.map_cons, number, ← ih, ← setId_declaredBase]
    rfl

/-- A list of pieces can always be read. -/
theorem baseTokens_listing : baseTokens (listing pieces) = .ok (declaredBase (listedBase pieces)) := by
  cases pieces with
  | nil => rfl
  | cons p pieces => exact listedTokens_listing 0 []

/-- Whether a document of a tokenizer has members, or is the text of one that has them. -/
def HasMembers (tokenizer : Value) (ms : List (String × Value)) : Prop :=
  tokenizer = .object ms ∨
    ∃ s, tokenizer = .string s ∧ Json.readWithin Json.nestingLimit .json s = .ok (.object ms)

theorem ofDocuments_of_hasMembers {tokenizer : Value} (h : HasMembers tokenizer ms) :
    ofDocuments tokenizer config model = ofDocuments (.object ms) config model := by
  obtain rfl | ⟨s, rfl, hread⟩ := h
  · rfl
  · simp [ofDocuments, hread, bind, Except.bind, pure, Except.pure]

/-- What documents say that list pieces is what they say otherwise, with the pieces as the base. -/
theorem ofDocuments_listing (hmodel : Value.field "model" ms = .object mm)
    (hvocab : Value.field "vocab" mm = listing pieces) :
    ofDocuments (.object ms) config model =
      (ofDocuments (.object (without ["model"] ms)) config model).map fun d =>
        { d with base := declaredBase (listedBase pieces) } := by
  have htruthy : (Value.object mm).truthy = true := by
    cases mm with
    | nil => cases hvocab
    | cons => rfl
  have hnone : Value.field "model" (without ["model"] ms) = .null := by
    rw [Value.field, lookup_without_of_mem (by simp)]
    rfl
  have hother (key : String) (hkey : key ∉ ["model"]) :
      Value.field key (without ["model"] ms) = Value.field key ms := by
    rw [Value.field, Value.field, lookup_without hkey]
  have hmember : optionalMember "vocab" (.object mm) = .ok (listing pieces) := by
    rw [optionalMember, if_pos htruthy, member, hvocab]
  have hnull : optionalMember "vocab" .null = .ok .null := rfl
  have hnobase : baseTokens .null = .ok [] := rfl
  -- Both readings are now the same program but for the base: they fail at the same place.
  simp only [ofDocuments, member, bind, Except.bind, pure, Except.pure, hmodel, hmember,
    baseTokens_listing, hnone, hnull, hnobase, hother "added_tokens" (by decide),
    hother "decoder" (by decide)]
  cases addedTokens (Value.field "added_tokens" ms) with
  | error e => rfl
  | ok added =>
    cases stagesOf (Value.field "decoder" ms) with
    | error e => rfl
    | ok stages =>
      cases optionalMember "eos_token" config with
      | error e => rfl
      | ok eos =>
        cases declaredSize model with
        | error e => rfl
        | ok size => rfl

end Documents

/-! ## Tables of listed pieces -/

section Stored

variable {d : Declaration} {v : Vocabulary} {extra : List String} {size : Int}
  {m : Metadata StoredToken} {pieces : List (String × Value)}

theorem asInt?_of_placeOf {id : Value} {n : Int} (h : placeOf size id = .ok (some n)) :
    id.asInt? = some n := by
  rw [placeOf] at h
  obtain ⟨low, -, h⟩ := exceptBind_eq_ok.1 h
  split at h
  · cases h
  obtain ⟨order, -, h⟩ := exceptBind_eq_ok.1 h
  split at h
  · cases h
  split at h
  · rename_i k hk
    cases h
    exact hk
  · cases h

theorem exists_of_mem_placedAdded {added : List DeclaredToken} {placed : List (AddedToken StoredToken)}
    (h : placedAdded size added = .ok placed) {a : AddedToken StoredToken} (ha : a ∈ placed) :
    ∃ b ∈ added, b.id.asInt? = some a.id := by
  rw [placedAdded] at h
  obtain ⟨found, hfound, h⟩ := exceptBind_eq_ok.1 h
  cases h
  obtain ⟨o, ho, hid⟩ := List.mem_filterMap.1 ha
  obtain rfl : o = some a := hid
  obtain ⟨b, hb, hmade⟩ := exists_of_mem_mapM hfound ho
  obtain ⟨place, hplace, hsome⟩ := exceptBind_eq_ok.1 hmade
  obtain ⟨n, rfl, rfl⟩ := Option.map_eq_some_iff.1 (Except.ok.inj hsome)
  exact ⟨b, hb, asInt?_of_placeOf hplace⟩

theorem placedBase_declaredBase (size : Nat) (base : List (String × Int)) :
    placedBase size (declaredBase base) =
      .ok ((base.filter fun b => inTable size b.2).map fun b => (StoredToken.text b.1, b.2)) :=
  placedBase_ofMetadata (m := ⟨base, [], [], none, none⟩) size

theorem metadata_eq_ok (h : d.metadata size = .ok m) : placedBase size d.base = .ok m.base ∧
    placedAdded size d.added = .ok m.added ∧ m.size = some size := by
  rw [metadata] at h
  obtain ⟨base, hbase, h⟩ := exceptBind_eq_ok.1 h
  obtain ⟨added, hadded, h⟩ := exceptBind_eq_ok.1 h
  obtain ⟨stages, -, h⟩ := exceptBind_eq_ok.1 h
  obtain ⟨-, -, h⟩ := exceptBind_eq_ok.1 h
  obtain ⟨-, -, h⟩ := exceptBind_eq_ok.1 h
  cases h
  exact ⟨hbase, hadded, rfl⟩

/-- The table of a vocabulary is written from the metadata of its declaration. -/
theorem exists_metadata [Memory] (h : d.vocabulary extra = .ok v) :
    ∃ (size : Nat) (m : Metadata StoredToken), d.tableSize = .ok size ∧ d.metadata size = .ok m ∧
      v.tokens = (m.tokens (.text "") size).map StoredToken.asText := by
  rw [vocabulary] at h
  obtain ⟨size, hcount, h⟩ := exceptBind_eq_ok.1 h
  split at h
  · cases h
  rename_i hpos
  obtain ⟨n, rfl⟩ := Int.eq_ofNat_of_zero_le (Int.not_le.1 hpos).le
  obtain ⟨m, hm, h⟩ := exceptBind_eq_ok.1 h
  obtain ⟨t, ht, h⟩ := exceptBind_eq_ok.1 h
  obtain ⟨w, hw, h⟩ := exceptBind_eq_ok.1 h
  have hm := exceptMapError_eq_ok.1 hm
  have ht := exceptMapError_eq_ok.1 ht
  have hw := (fields_of_eq_ok hw).1
  cases h
  have hsize : m.tableSize = n := by rw [Metadata.tableSize, (metadata_eq_ok hm).2.2]
  rw [Metadata.table, hsize] at ht
  dsimp only at ht
  rw [if_neg hpos] at ht
  cases ht
  exact ⟨n, m, hcount, hm, hw⟩

theorem placeCount_le_placeLimit [Memory] {size : Value} {n : Int} (h : placeCount size = .ok n) :
    n ≤ placeLimit := by
  obtain ⟨small, -, h⟩ := exceptBind_eq_ok.1 h
  split at h
  · cases h
    decide
  · split at h
    next => cases h
    next k _ =>
      split at h
      next => cases h
      next hle =>
        split at h
        · cases h
        · cases h
          exact Int.not_lt.1 hle

/-- The size of a table that was made can be written. -/
theorem fits_size_of_vocabulary [Memory] (h : d.vocabulary extra = .ok v) : Json.Fits v.size := by
  obtain ⟨size, m, hcount, -, htokens⟩ := exists_metadata h
  obtain ⟨needed, hneeded⟩ : ∃ needed, placeCount needed = .ok size := by
    rw [tableSize] at hcount
    split at hcount
    · obtain ⟨needed, -, hneeded⟩ := exceptBind_eq_ok.1 hcount
      exact ⟨needed, hneeded⟩
    · exact ⟨_, hcount⟩
  have hsize : v.size = size := by
    rw [Vocabulary.size, htokens, Array.size_map, Metadata.size_tokens]
  have hlimit : (size : Int) ≤ placeLimit := placeCount_le_placeLimit hneeded
  have hsmall : placeLimit < 10 ^ 20 := by decide
  have hnat : (v.size : Int).natAbs < 10 ^ 20 := by omega
  exact hnat.trans_le (Nat.pow_le_pow_right (by decide) (by decide))

/-- The table of listed pieces holds each piece in its last place, where nothing is added. -/
theorem getElem?_of_listed [Memory] (hbase : d.base = declaredBase (listedBase pieces))
    (h : d.vocabulary extra = .ok v) (hsize : pieces.length ≤ v.size) {i : Nat} {p : String}
    (hp : (pieces.map Prod.fst)[i]? = some p) (hadded : ∀ a ∈ d.added, a.id.asInt? ≠ some i) :
    v.tokens[i]? = some (if p ∈ (pieces.map Prod.fst).drop (i + 1) then "" else p) := by
  obtain ⟨size, m, -, hm, htokens⟩ := exists_metadata h
  obtain ⟨hplaced, hplacedAdded, -⟩ := metadata_eq_ok hm
  have hi : i < size := by
    have hlength : i < pieces.length := by
      simpa using (List.getElem?_eq_some_iff.1 hp).1
    have htable : v.size = size := by
      rw [Vocabulary.size, htokens, Array.size_map, Metadata.size_tokens]
    omega
  rw [hbase, placedBase_declaredBase] at hplaced
  have hnone : written? i (m.added.map fun a => (a.content, a.id)) = none := by
    refine Metadata.written?_eq_none_iff.2 fun w hw hid => ?_
    obtain ⟨a, ha, rfl⟩ := List.mem_map.1 hw
    obtain ⟨b, hb, hbid⟩ := exists_of_mem_placedAdded hplacedAdded ha
    exact hadded b hb (hbid.trans (congrArg some hid))
  have hkept : ∀ w ∈ listedBase pieces, w.2 = i → inTable size w.2 = true := by
    rintro w - hid
    simp [inTable, hid, hi]
  -- The base was cut to the table and its texts wrapped, which no place of the table can tell.
  have hwritten : m.declared? i =
      if p ∈ (pieces.map Prod.fst).drop (i + 1) then none else some (.text p) := by
    rw [Metadata.declared?, hnone, ← Except.ok.inj hplaced, Metadata.written?_map,
      Metadata.written?_filter hkept, listedBase, Metadata.written?_numbered hp]
    split <;> rfl
  rw [htokens, Array.getElem?_map, Metadata.getElem?_tokens_eq hi, hwritten]
  split <;> rfl

theorem mem_listedBase {q : String} {j : Int} (h : (q, j) ∈ listedBase pieces) :
    0 ≤ j ∧ j < pieces.length := by
  rcases (Metadata.mem_number_iff (by simp)).1 h with ⟨k, hk, rfl, -⟩ | ⟨-, hmem⟩
  · have hlt := (List.getElem?_eq_some_iff.1 hk).1
    rw [List.length_map] at hlt
    omega
  · cases hmem

theorem exists_last_mem_listedBase (hpieces : pieces ≠ []) :
    ∃ q, (q, ((pieces.length - 1 : Nat) : Int)) ∈ listedBase pieces := by
  have hpos : 0 < pieces.length := List.length_pos_iff.2 hpieces
  have hlast : pieces.length - 1 < (pieces.map Prod.fst).length := by
    rw [List.length_map]
    omega
  refine ⟨_, Metadata.mem_numbered_iff.2 ⟨List.getElem?_eq_getElem hlast, ?_⟩⟩
  rw [List.drop_eq_nil_of_le (by rw [List.length_map]; omega)]
  exact List.not_mem_nil

/-- A list needs as many places as it has pieces. -/
theorem tableSize_listed [Memory] {m : Metadata String} (hpieces : pieces ≠ [])
    (hsize : ∀ n, m.size = some n → pieces.length ≤ n) (hroom : m.tableSize ≤ room)
    (hlength : pieces.length ≤ room) :
    pieces.length ≤ ({ m with base := listedBase pieces } : Metadata String).tableSize ∧
      ({ m with base := listedBase pieces } : Metadata String).tableSize ≤ room := by
  set listed : Metadata String := { m with base := listedBase pieces } with hlisted
  cases hdeclared : m.size with
  | some n =>
    have htable : listed.tableSize = n := by rw [Metadata.tableSize, hlisted, hdeclared]
    have hbefore : m.tableSize = n := by rw [Metadata.tableSize, hdeclared]
    exact ⟨htable ▸ hsize n hdeclared, by omega⟩
  | none =>
    obtain ⟨q, hq⟩ := exists_last_mem_listedBase hpieces
    have hlast : ((pieces.length - 1 : Nat) : Int) ∈ listed.ids :=
      List.mem_append_left _ (List.mem_map.2 ⟨_, hq, rfl⟩)
    obtain ⟨hhighest, hall⟩ := Metadata.tableSize_of_mem (m := listed) hdeclared hlast
    have hlow := hall _ hlast
    refine ⟨by omega, ?_⟩
    -- The highest id is a place of the list, or one that is added.
    rcases List.mem_append.1 hhighest with hbase | hadded
    · obtain ⟨⟨q, j⟩, hmem, hj⟩ := List.mem_map.1 hbase
      have hplace := mem_listedBase hmem
      dsimp only at hj
      omega
    · have hbefore := (Metadata.tableSize_of_mem hdeclared
        (List.mem_append_right _ hadded)).2 _ (List.mem_append_right _ hadded)
      omega

/-- Texts that are declared beside a list of pieces have a vocabulary with room for all of them. -/
theorem exists_vocabulary_listed [Memory] {m : Metadata String} (hpieces : pieces ≠ [])
    (hsize : ∀ n, m.size = some n → pieces.length ≤ n) (hroom : m.tableSize ≤ room)
    (hlength : pieces.length ≤ room) (extra : List String) :
    ∃ v, (ofMetadata { m with base := listedBase pieces }).vocabulary extra = .ok v ∧
      pieces.length ≤ v.size := by
  obtain ⟨hlow, hhigh⟩ := tableSize_listed hpieces hsize hroom hlength
  have hlist : 0 < pieces.length := List.length_pos_iff.2 hpieces
  have hpos := (Int.natCast_pos.2 hlist).trans_le hlow
  have hroomy : Metadata.Roomy { m with base := listedBase pieces } :=
    ⟨fun _ => Metadata.fits_of_le_room hpos.le hhigh, hhigh⟩
  obtain ⟨v, hv, htabulates⟩ := exists_tabulates hroomy hpos extra
  have htable := htabulates.size
  exact ⟨v, hv, by omega⟩

/-- Documents that list pieces can be read if they can be read otherwise. In every vocabulary that
is large enough for the list, and there is one where texts are declared and there is room for them,
a place of the list where nothing is added holds its piece, unless the piece comes again later: then
the place is empty. -/
theorem pieces_stored [Memory] {tokenizer config model : Value} {ms mm : List (String × Value)}
    {rest : Declaration} (hmembers : HasMembers tokenizer ms)
    (hmodel : Value.field "model" ms = .object mm)
    (hvocab : Value.field "vocab" mm = listing pieces)
    (hrest : ofDocuments (.object (without ["model"] ms)) config model = .ok rest)
    (extra : List String) : ∃ d, ofDocuments tokenizer config model = .ok d ∧
      d.added = rest.added ∧
      (∀ v, d.vocabulary extra = .ok v → pieces.length ≤ v.size →
        ∀ (i : Nat) p, (pieces.map Prod.fst)[i]? = some p → (∀ a ∈ d.added, a.id.asInt? ≠ some i) →
          v.tokens[i]? = some (if p ∈ (pieces.map Prod.fst).drop (i + 1) then "" else p)) ∧
      ∀ m, rest = ofMetadata m → pieces ≠ [] → (∀ n, m.size = some n → pieces.length ≤ n) →
        m.tableSize ≤ room → pieces.length ≤ room →
          ∃ v, d.vocabulary extra = .ok v ∧ pieces.length ≤ v.size := by
  refine ⟨{ rest with base := declaredBase (listedBase pieces) }, ?_, rfl, ?_, ?_⟩
  · rw [ofDocuments_of_hasMembers hmembers, ofDocuments_listing hmodel hvocab, hrest]
    rfl
  · exact fun v hv hsize i p hp hadded => getElem?_of_listed rfl hv hsize hp hadded
  · rintro m rfl hpieces hsize hroom hlength
    exact exists_vocabulary_listed hpieces hsize hroom hlength extra

end Stored

attribute [local instance] Memory.small

/-- A list with a piece that comes twice, and a token that is added over the one in between. -/
def repeatedPieces : List (String × Value) :=
  [("<unk>", .int 0), ("▁a", .int (-1)), ("<unk>", .int (-2))]

/-- The members of a tokenizer with these pieces. -/
def repeatedMembers : List (String × Value) :=
  [("model", .object [("type", .string "Unigram"), ("vocab", listing repeatedPieces)]),
    ("added_tokens", .array [.object [("id", .int 1), ("content", .string "<s>")]])]

/-- The first place is empty, and the last one holds the piece. -/
theorem pieces_stored_repeated : ∃ d v,
    ofDocuments (.object repeatedMembers) .null (.object [("vocab_size", .int 4)]) = .ok d ∧
      d.vocabulary ["<s>"] = .ok v ∧ v.tokens[0]? = some "" ∧ v.tokens[2]? = some "<unk>" := by
  have hrest : ofDocuments (.object (without ["model"] repeatedMembers)) .null
      (.object [("vocab_size", .int 4)]) =
        .ok (ofMetadata ⟨[], [⟨1, "<s>", false⟩], [], none, some 4⟩) := rfl
  obtain ⟨d, hd, hadded, hstored, hbuilt⟩ :=
    pieces_stored (.inl rfl) rfl (show _ = listing repeatedPieces from rfl) hrest ["<s>"]
  obtain ⟨v, hv, hsize⟩ := hbuilt _ rfl (by decide) (by simp [repeatedPieces]) (by decide) (by decide)
  have hfirst := hstored v hv hsize 0 "<unk>" rfl (by simp [hadded, ofMetadata, Value.asInt?])
  have hlast := hstored v hv hsize 2 "<unk>" rfl (by simp [hadded, ofMetadata, Value.asInt?])
  exact ⟨d, v, hd, hv, hfirst, hlast⟩

/-- Three pieces, of which the first and the last are one. -/
def twicePieces : List (String × Value) :=
  [("true", .int 0), ("e", .int (-1)), ("true", .int (-2))]

/-- The first piece is in no place of its own. -/
theorem pieces_stored_twice : ∃ d v,
    ofDocuments (.object [("model", .object [("vocab", listing twicePieces)])]) .null .null =
      .ok d ∧ d.added = [] ∧ d.vocabulary [] = .ok v ∧ v.tokens = #["", "e", "true"] := by
  have hread : ofDocuments (.object [("model", .object [("vocab", listing twicePieces)])]) .null
      .null = .ok (ofMetadata ⟨[("true", 2), ("e", 1)], [], [], none, none⟩) := rfl
  have hbuild : Metadata.build ⟨[("true", 2), ("e", 1)], [], [], none, none⟩ [] =
      .ok ⟨#["", "e", "true"], .raw, [], [], [], by decide, by decide⟩ := rfl
  have hvocabulary := vocabulary_ofMetadata
    (m := ⟨[("true", 2), ("e", 1)], [], [], none, none⟩)
    (Metadata.fits_of_le_room (by decide) (by decide)) (by decide) []
  rw [hbuild] at hvocabulary
  exact ⟨_, _, hread, rfl, hvocabulary, rfl⟩

end Declaration

end GuidedJson.Vocabulary
