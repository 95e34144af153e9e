import GuidedJson.Proofs.Vocabulary.Tabulated

/-!
# Stop tokens

A text that ends a text stands for the first place of the table that holds it. Where it is not the
empty text that is a place with a declared token. The empty text is also what a place without a token
holds, so it can make a stop token of a place that no token is declared for.
-/

namespace GuidedJson.Vocabulary

namespace Metadata

variable {m : Metadata String} {extra : List String} {v : Vocabulary} {s : String} {i : Nat}

/-- Whether metadata declare a text for a place, as a base token or as an added one. -/
def Declares (m : Metadata String) (s : String) (i : Nat) : Prop :=
  (s, (i : Int)) ∈ m.base ∨ ∃ a ∈ m.added, a.content = s ∧ a.id = i

theorem mem_writes_iff : (s, (i : Int)) ∈ m.writes ↔ m.Declares s i := by
  rw [writes, List.mem_append, List.mem_map, Declares]
  simp only [Prod.mk.injEq]

theorem declares_of_declared? (h : m.declared? i = some s) : m.Declares s i :=
  mem_writes_iff.1 (mem_of_written? ((written?_writes m i).trans h))

theorem declared?_eq_none_iff : m.declared? i = none ↔ ∀ s, ¬ m.Declares s i := by
  rw [← written?_writes, written?_eq_none_iff]
  constructor
  · exact fun h s hs => h _ (mem_writes_iff.2 hs) rfl
  · rintro h ⟨s, id⟩ hw rfl
    exact h s (mem_writes_iff.1 hw)

theorem lt_size_of_token (h : v.tokens[i]? = some s) : i < v.size :=
  (Array.getElem?_eq_some_iff.1 h).1

/-- The first empty place has tokens below it that are not empty. -/
theorem firstAt_empty_iff (hempty : v.tokens[i]? = some "") :
    FirstAt v.tokens "" i ↔ ∀ j < i, ∃ t, t ≠ "" ∧ v.tokens[j]? = some t := by
  rw [FirstAt, and_iff_right hempty]
  refine forall_congr' fun j => forall_congr' fun hj => ?_
  have hlt : j < v.tokens.size := hj.trans (Array.getElem?_eq_some_iff.1 hempty).1
  rw [Array.getElem?_eq_getElem hlt]
  simp

namespace Tabulates

/-- A place holds a token that is declared for it, or none is and it is empty. -/
theorem declares_or (hv : m.Tabulates extra v) (h : v.tokens[i]? = some s) :
    m.Declares s i ∨ s = "" ∧ ∀ t, ¬ m.Declares t i := by
  have htoken := (hv.token i (lt_size_of_token h)).symm.trans h
  cases hdeclared : m.declared? i with
  | none =>
    rw [hdeclared] at htoken
    exact .inr ⟨(Option.some.inj htoken).symm, declared?_eq_none_iff.1 hdeclared⟩
  | some t =>
    rw [hdeclared] at htoken
    obtain rfl : t = s := Option.some.inj htoken
    exact .inl (declares_of_declared? hdeclared)

theorem empty_of_not_declares (hv : m.Tabulates extra v) (hi : i < v.size)
    (h : ∀ t, ¬ m.Declares t i) : v.tokens[i]? = some "" := by
  rw [hv.token i hi, declared?_eq_none_iff.2 h]
  rfl

theorem stop_declares_or (hv : m.Tabulates extra v) (h : i ∈ v.stop) :
    (∃ s ∈ extra ++ m.eos.toList, m.Declares s i) ∨ ∀ s, ¬ m.Declares s i := by
  obtain ⟨s, hs, hfirst⟩ := (hv.stop i).1 h
  rcases hv.declares_or hfirst.1 with hdeclares | ⟨-, hnone⟩
  · exact .inl ⟨s, hs, hdeclares⟩
  · exact .inr hnone

theorem mem_stop_iff_of_not_declares (hv : m.Tabulates extra v) (hi : i < v.size)
    (h : ∀ s, ¬ m.Declares s i) : i ∈ v.stop ↔
      "" ∈ extra ++ m.eos.toList ∧ ∀ j < i, ∃ t, t ≠ "" ∧ v.tokens[j]? = some t := by
  have hempty := hv.empty_of_not_declares hi h
  rw [hv.stop, ← firstAt_empty_iff hempty]
  -- Only the empty text can be found at an empty place.
  constructor
  · rintro ⟨s, hs, hfirst⟩
    obtain rfl : "" = s := Option.some.inj (hempty.symm.trans hfirst.1)
    exact ⟨hs, hfirst⟩
  · rintro ⟨hends, hfirst⟩
    exact ⟨"", hends, hfirst⟩

theorem not_firstAt_of_not_declares (hv : m.Tabulates extra v) (hs : s ≠ "")
    (h : ∀ i < v.size, ¬ m.Declares s i) (i : Nat) : ¬ FirstAt v.tokens s i := by
  rintro ⟨hholds, -⟩
  rcases hv.declares_or hholds with hdeclares | ⟨rfl, -⟩
  · exact h i (lt_size_of_token hholds) hdeclares
  · exact hs rfl

end Tabulates

/-- A stop token is a token that is declared for its place with a text that ends a text, unless no
token is declared for its place. A place without a token is a stop token exactly if the empty text
ends a text and no place below is empty. A text that is not empty and not declared inside of the
table makes no stop token. -/
theorem stop_named [Memory] (h : (Declaration.ofMetadata m).vocabulary extra = .ok v) :
    (∀ i ∈ v.stop, (∃ s ∈ extra ++ m.eos.toList, m.Declares s i) ∨ ∀ s, ¬ m.Declares s i) ∧
    (∀ i < v.size, (∀ s, ¬ m.Declares s i) → (i ∈ v.stop ↔
      "" ∈ extra ++ m.eos.toList ∧ ∀ j < i, ∃ t, t ≠ "" ∧ v.tokens[j]? = some t)) ∧
    (∀ s, s ≠ "" → (∀ i < v.size, ¬ m.Declares s i) → ∀ i,
      i ∈ v.stop ↔ ∃ t ∈ extra ++ m.eos.toList, t ≠ s ∧ FirstAt v.tokens t i) := by
  have hv := Declaration.tabulates_of_vocabulary h
  refine ⟨fun i => hv.stop_declares_or, fun i => hv.mem_stop_iff_of_not_declares, ?_⟩
  intro s hs hnone i
  rw [hv.stop]
  constructor
  · rintro ⟨t, ht, hfirst⟩
    refine ⟨t, ht, ?_, hfirst⟩
    rintro rfl
    exact hv.not_firstAt_of_not_declares hs hnone i hfirst
  · rintro ⟨t, ht, -, hfirst⟩
    exact ⟨t, ht, hfirst⟩

/-- A letter, a text that ends a text, an empty token, and a place in between without one. -/
def gapped : Metadata String := ⟨[("a", 0), ("", 3)], [⟨2, "</s>", true⟩], [], some "</s>", none⟩

attribute [local instance] Memory.small

/-- The empty text makes a stop token of the place in between, and not of its own place. -/
theorem stop_named_gapped : ∃ v, (Declaration.ofMetadata gapped).vocabulary [""] = .ok v ∧
    2 ∈ v.stop ∧ gapped.Declares "</s>" 2 ∧ 1 ∈ v.stop ∧ (∀ s, ¬ gapped.Declares s 1) ∧
      3 ∉ v.stop ∧ gapped.Declares "" 3 := by
  have htokens : gapped.tokens "" gapped.tableSize.toNat = #["a", "", "</s>", ""] := rfl
  have hplaces : firstPlaces #["a", "", "</s>", ""] ([""] ++ gapped.eos.toList) = [1, 2] := by
    simp [gapped, firstPlaces, List.findIdx?_cons]
  have hbuild : gapped.build [""] =
      .ok ⟨#["a", "", "</s>", ""], .raw, [1, 2], [], [], by decide, by decide⟩ := by
    rw [build_eq (by decide), htokens, hplaces]
    rfl
  have hvocabulary := Declaration.vocabulary_ofMetadata (m := gapped)
    (fits_of_le_room (by decide) (by decide)) (by decide) [""]
  rw [hbuild] at hvocabulary
  have hnone : ∀ s, ¬ gapped.Declares s 1 := declared?_eq_none_iff.1 rfl
  obtain ⟨-, hgap, -⟩ := stop_named hvocabulary
  have hone := (hgap 1 (by decide) hnone).2 ⟨by decide, fun j hj => ⟨"a", by decide, ?_⟩⟩
  · exact ⟨_, hvocabulary, by decide, declares_of_declared? rfl, hone, hnone, by decide,
      declares_of_declared? rfl⟩
  · obtain rfl : j = 0 := by omega
    rfl

/-- Two letters in a table of four places, and the empty text as the one that ends a text. -/
def padded : Metadata String := ⟨[("a", 0), ("b", 1)], [], [], some "", some 4⟩

/-- The empty text makes a stop token of a place that no token is declared for. -/
theorem stop_padded : ∃ v, (Declaration.ofMetadata padded).vocabulary [] = .ok v ∧
    v.tokens = #["a", "b", "", ""] ∧ v.stop = [2] ∧ ∀ s, ¬ padded.Declares s 2 := by
  have htokens : padded.tokens "" padded.tableSize.toNat = #["a", "b", "", ""] := rfl
  have hplaces : firstPlaces #["a", "b", "", ""] ([] ++ padded.eos.toList) = [2] := by
    simp [padded, firstPlaces, List.findIdx?_cons]
  have hbuild : padded.build [] =
      .ok ⟨#["a", "b", "", ""], .raw, [2], [], [], by decide, by decide⟩ := by
    rw [build_eq (by decide), htokens, hplaces]
    rfl
  have hvocabulary := Declaration.vocabulary_ofMetadata (m := padded)
    (fits_of_le_room (by decide) (by decide)) (by decide) []
  rw [hbuild] at hvocabulary
  exact ⟨_, hvocabulary, rfl, rfl, declared?_eq_none_iff.1 rfl⟩

end Metadata

end GuidedJson.Vocabulary
