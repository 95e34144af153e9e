import GuidedJson.Vocabulary.Metadata

/-!
# Places of tables

Tokens are written to their places one after the other. A place holds what was written there last:
so an added token lies over the base tokens, and a place that nothing is declared for keeps what a
table is filled with.
-/

namespace GuidedJson.Vocabulary

namespace Metadata

/-! ## Tables that are written -/

section Writing

variable {τ σ : Type}

/-- Writes tokens to their places, one after the other. -/
def placeAll (t : Array τ) (ws : List (τ × Int)) : Array τ :=
  ws.foldl (fun t w => place t w.2 w.1) t

/-- What is written into a table: the base tokens, then the added ones. -/
def writes (d : Metadata τ) : List (τ × Int) := d.base ++ d.added.map fun a => (a.content, a.id)

theorem tokens_eq_placeAll (d : Metadata τ) (gap : τ) (size : Nat) :
    d.tokens gap size = placeAll (Array.replicate size gap) d.writes := by
  rw [placeAll, writes, List.foldl_append, List.foldl_map]
  rfl

@[simp] theorem placeAll_cons (t : Array τ) (w : τ × Int) (ws : List (τ × Int)) :
    placeAll t (w :: ws) = placeAll (place t w.2 w.1) ws := rfl

theorem place_map (f : τ → σ) (t : Array τ) (id : Int) (token : τ) :
    place (t.map f) id (f token) = (place t id token).map f := by
  rw [place, place, Array.size_map]
  split
  · rw [Array.map_setIfInBounds]
  · rfl

theorem placeAll_map (f : τ → σ) (t : Array τ) (ws : List (τ × Int)) :
    placeAll (t.map f) (ws.map fun w => (f w.1, w.2)) = (placeAll t ws).map f := by
  induction ws generalizing t with
  | nil => rfl
  | cons w ws ih => rw [List.map_cons, placeAll_cons, placeAll_cons, place_map, ih]

/-- What is written outside of the table may be left out. -/
theorem placeAll_filter (t : Array τ) (ws : List (τ × Int)) :
    placeAll t (ws.filter fun w => inTable t.size w.2) = placeAll t ws := by
  induction ws generalizing t with
  | nil => rfl
  | cons w ws ih =>
    have hrest := ih (place t w.2 w.1)
    rw [size_place] at hrest
    by_cases hw : inTable t.size w.2 = true
    · rw [List.filter_cons_of_pos (by exact hw), placeAll_cons, placeAll_cons, hrest]
    · have hplace : place t w.2 w.1 = t := if_neg hw
      rw [List.filter_cons_of_neg (by exact hw), placeAll_cons, hplace, ih]

end Writing

/-! ## The last token of a place -/

section Written

variable {τ : Type} {ws vs : List (τ × Int)} {i : Nat} {t : τ}

/-- The last token that is written to a place. -/
def written? (i : Nat) : List (τ × Int) → Option τ
  | [] => none
  | w :: ws => (written? i ws).or (if w.2 = i then some w.1 else none)

theorem written?_append : written? i (vs ++ ws) = (written? i ws).or (written? i vs) := by
  induction vs with
  | nil => simp [written?]
  | cons v vs ih => rw [List.cons_append, written?, ih, Option.or_assoc, written?]

theorem written?_eq_none_iff : written? i ws = none ↔ ∀ w ∈ ws, w.2 ≠ i := by
  induction ws with
  | nil => simp [written?]
  | cons w ws ih =>
    rw [written?, Option.or_eq_none_iff, ih, List.forall_mem_cons, and_comm]
    simp

/-- The last token of a place is followed by tokens of other places. -/
theorem written?_eq_some_iff : written? i ws = some t ↔
    ∃ before after, ws = before ++ (t, (i : Int)) :: after ∧ ∀ w ∈ after, w.2 ≠ i := by
  induction ws with
  | nil => simp [written?]
  | cons w ws ih =>
    rw [written?, Option.or_eq_some_iff, ih, written?_eq_none_iff]
    -- Later writes win, so the first write counts only where nothing follows for its place.
    constructor
    · rintro (⟨before, after, rfl, hafter⟩ | ⟨hafter, h⟩)
      · exact ⟨w :: before, after, rfl, hafter⟩
      · obtain ⟨hid, h⟩ := Option.ite_none_right_eq_some.1 h
        obtain rfl := Option.some.inj h
        exact ⟨[], ws, by rw [← hid]; rfl, hafter⟩
    · rintro ⟨before, after, h, hafter⟩
      cases before with
      | nil =>
        obtain ⟨rfl, rfl⟩ := List.cons.inj h
        exact .inr ⟨hafter, if_pos rfl⟩
      | cons b before =>
        obtain ⟨rfl, rfl⟩ := List.cons.inj h
        exact .inl ⟨before, after, rfl, hafter⟩

theorem mem_of_written? (h : written? i ws = some t) : (t, (i : Int)) ∈ ws := by
  obtain ⟨before, after, rfl, -⟩ := written?_eq_some_iff.1 h
  simp

theorem written?_map {σ : Type} (f : τ → σ) :
    written? i (ws.map fun w => (f w.1, w.2)) = (written? i ws).map f := by
  induction ws with
  | nil => rfl
  | cons w ws ih =>
    rw [List.map_cons, written?, ih, written?, Option.map_or]
    split <;> rfl

/-- What is written to other places may be left out. -/
theorem written?_filter {keep : τ × Int → Bool} (h : ∀ w ∈ ws, w.2 = i → keep w = true) :
    written? i (ws.filter keep) = written? i ws := by
  induction ws with
  | nil => rfl
  | cons w ws ih =>
    rw [List.forall_mem_cons] at h
    by_cases hw : keep w = true
    · rw [List.filter_cons_of_pos hw, written?, ih h.2, written?]
    · rw [List.filter_cons_of_neg hw, ih h.2, written?, if_neg fun hid => hw (h.1 hid), Option.or_none]

theorem getElem?_place {table : Array τ} {id : Int} (hi : i < table.size) :
    (place table id t)[i]? = if id = i then some t else table[i]? := by
  rw [place]
  by_cases h : id = i
  · rw [if_pos h, h, if_pos (by simpa [inTable] using hi), Int.toNat_natCast,
      Array.getElem?_setIfInBounds_self_of_lt hi]
  · rw [if_neg h]
    split
    · rename_i hin
      have hnonneg := (inTable_iff.1 hin).1
      rw [Array.getElem?_setIfInBounds_ne (by omega)]
    · rfl

/-- A place holds what was written there last, and what was there before if that is nothing. -/
theorem getElem?_placeAll {table : Array τ} (hi : i < table.size) :
    (placeAll table ws)[i]? = (written? i ws).or table[i]? := by
  induction ws generalizing table with
  | nil => rfl
  | cons w ws ih =>
    rw [placeAll_cons, ih (by rwa [size_place]), getElem?_place hi, written?, Option.or_assoc]
    split <;> rfl

end Written

section Declared

variable {τ : Type} {m : Metadata τ} {i : Nat} {t : τ}

/-- The token that is declared for a place: the last one that is added there, or else the last one
of the base. -/
def declared? (m : Metadata τ) (i : Nat) : Option τ :=
  (written? i (m.added.map fun a => (a.content, a.id))).or (written? i m.base)

theorem written?_writes (m : Metadata τ) (i : Nat) : written? i m.writes = m.declared? i :=
  written?_append

theorem getElem?_tokens_eq {gap : τ} {size : Nat} (hi : i < size) :
    (m.tokens gap size)[i]? = some ((m.declared? i).getD gap) := by
  rw [tokens_eq_placeAll, getElem?_placeAll (by simpa using hi), written?_writes]
  cases m.declared? i <;> simp [hi]

end Declared

/-! ## First places -/

/-- Whether a place is the first one of a table that holds a token. -/
def FirstAt (table : Array String) (s : String) (i : Nat) : Prop :=
  table[i]? = some s ∧ ∀ j < i, table[j]? ≠ some s

theorem mem_firstPlaces_iff {table : Array String} {l : List String} {i : Nat} :
    (i : Int) ∈ firstPlaces table l ↔ ∃ s ∈ l, FirstAt table s i := by
  rw [firstPlaces, List.mem_filterMap]
  refine exists_congr fun s => and_congr_right fun _ => ?_
  rw [Option.map_eq_some_iff]
  constructor
  · rintro ⟨k, hk, hki⟩
    obtain rfl : k = i := Int.ofNat.inj hki
    obtain ⟨hlt, hholds, hbefore⟩ := Array.findIdx?_eq_some_iff_getElem.1 hk
    refine ⟨by simpa [hlt] using hholds, fun j hj heq => ?_⟩
    obtain ⟨hjlt, hj'⟩ := Array.getElem?_eq_some_iff.1 heq
    exact hbefore j hj (by simpa using hj')
  · rintro ⟨hholds, hbefore⟩
    obtain ⟨hlt, hi⟩ := Array.getElem?_eq_some_iff.1 hholds
    refine ⟨i, Array.findIdx?_eq_some_iff_getElem.2 ⟨hlt, by simpa using hi, fun j hj h => ?_⟩, rfl⟩
    exact hbefore j hj (by simpa [Nat.lt_trans hj hlt] using h)

end Metadata

end GuidedJson.Vocabulary
