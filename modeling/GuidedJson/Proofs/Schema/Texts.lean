import GuidedJson.Proofs.Pattern.Denotation
import GuidedJson.Proofs.Schema.Conformance

/-!
# Texts of schemas

The texts of the trees that a schema admits, in a layout and at a depth, as languages: one equation
for every form of schema, in the shape in which the pattern of the schema spells it.
-/

namespace GuidedJson.Schema.Node

open Computability
open Json (Tree charTexts integerTexts numberTexts laidOut quoted member)
open Pattern (repetition mem_repetition)

/-- The texts of the trees that a schema admits. -/
def texts (indent : Option Int) (depth : Int) (n : Node) : Language Char :=
  {w | ∃ t, n.Admits spelling t ∧ w = t.renderAt indent depth}

variable {indent : Option Int} {depth : Int}

/-! ## Leaves -/

theorem texts_boolean : texts indent depth .boolean = {"true".toList} + {"false".toList} := by
  ext w
  constructor
  · rintro ⟨t, ht, rfl⟩
    cases t with
    | bool b =>
      cases b
      · exact .inr rfl
      · exact .inl rfl
    | _ => exact ht.elim
  · rintro (rfl | rfl)
    · exact ⟨.bool true, trivial, rfl⟩
    · exact ⟨.bool false, trivial, rfl⟩

theorem texts_integer : texts indent depth .integer = integerTexts := by
  ext w
  constructor
  · rintro ⟨t, ht, rfl⟩
    cases t with
    | number cs => exact ht
    | _ => exact ht.elim
  · exact fun hw => ⟨.number w, hw, rfl⟩

theorem texts_number : texts indent depth .number = numberTexts := by
  ext w
  constructor
  · rintro ⟨t, ht, rfl⟩
    cases t with
    | number cs => exact ht
    | _ => exact ht.elim
  · exact fun hw => ⟨.number w, hw, rfl⟩

theorem texts_null : texts indent depth .null = {"null".toList} := by
  ext w
  constructor
  · rintro ⟨t, ht, rfl⟩
    cases t with
    | null => rfl
    | _ => exact ht.elim
  · rintro rfl
    exact ⟨.null, trivial, rfl⟩

/-! ## Strings -/

theorem texts_text {least most : Value} (h : Ordered least most) :
    texts indent depth (.text least most) =
      {['"']} * repetition charTexts (lowest least) (highest most) * {['"']} := by
  have hfree : ∀ body, spelling.free least most body ↔
      body ∈ repetition charTexts (lowest least) (highest most) := by
    intro body
    rw [mem_repetition h.le]
    exact exists_congr fun parts => and_assoc
  ext w
  rw [mem_enclosed]
  constructor
  · rintro ⟨t, ht, rfl⟩
    cases t with
    | string body => exact ⟨body, (hfree body).1 ht, rfl⟩
    | _ => exact ht.elim
  · rintro ⟨body, hbody, rfl⟩
    exact ⟨.string body, (hfree body).2 hbody, rfl⟩

theorem texts_choice (choices : List String) : texts indent depth (.choice choices) =
    (choices.map fun s => ({(jsonString s).toList} : Language Char)).sum := by
  ext w
  simp only [mem_list_sum, List.mem_map, exists_exists_and_eq_and]
  constructor
  · rintro ⟨t, ht, rfl⟩
    cases t with
    | string body =>
      obtain ⟨s, hs, rfl⟩ := ht
      exact ⟨s, hs, (Json.toList_jsonString s).symm⟩
    | _ => exact ht.elim
  · rintro ⟨s, hs, rfl⟩
    exact ⟨.string _, ⟨s, hs, rfl⟩, Json.toList_jsonString s⟩

/-! ## Unions -/

theorem admitsSome_iff {w : Wording} {ns : List Node} {t : Tree} :
    AdmitsSome w ns t ↔ ∃ n ∈ ns, n.Admits w t := by
  induction ns with
  | nil => simp [AdmitsSome]
  | cons n ns ih => rw [AdmitsSome, ih, List.exists_mem_cons_iff]

theorem texts_union (members : List Node) :
    texts indent depth (.union members) = (members.map (texts indent depth)).sum := by
  ext w
  simp only [mem_list_sum, List.mem_map, exists_exists_and_eq_and]
  constructor
  · rintro ⟨t, ht, rfl⟩
    obtain ⟨n, hn, ht⟩ := admitsSome_iff.1 ht
    exact ⟨n, hn, t, ht, rfl⟩
  · rintro ⟨n, hn, t, ht, rfl⟩
    exact ⟨t, admitsSome_iff.2 ⟨n, hn, ht⟩, rfl⟩

/-! ## Collections -/

/-- What a layout puts around the items of a collection that has some. -/
def within (spacing : Spacing) (l : Language Char) : Language Char :=
  {spacing.afterOpen.toList} * l * {spacing.beforeClose.toList}

theorem laidOut_of_ne_nil (spacing : Spacing) (left right : Char) {us : List (List Char)}
    (h : us ≠ []) : laidOut spacing left right us =
      [left] ++ (spacing.afterOpen.toList ++ spacing.between.toList.intercalate us ++
        spacing.beforeClose.toList) ++ [right] := by
  have hne : us.isEmpty = false := by simpa using h
  rw [laidOut, hne]
  simp

/-! ## Objects -/

/-- The texts of a name and a value for it. -/
def memberTexts (indent : Option Int) (depth : Int) (p : Property Node) : Language Char :=
  {(jsonString p.name).toList} * {": ".toList} * texts indent depth p.schema

theorem mem_memberTexts {p : Property Node} {w : List Char} : w ∈ memberTexts indent depth p ↔
    ∃ t, p.schema.Admits spelling t ∧
      w = member (p.name.toList.flatMap jsonChar) (t.renderAt indent depth) := by
  rw [memberTexts, ← singleton_append, mem_singleton_mul, Json.toList_jsonString]
  constructor
  · rintro ⟨_, ⟨t, ht, rfl⟩, rfl⟩
    exact ⟨t, ht, rfl⟩
  · rintro ⟨t, ht, rfl⟩
    exact ⟨_, ⟨t, ht, rfl⟩, rfl⟩

/-- The members that properties admit are written one by one as their texts. -/
theorem admitsMembers_iff {ps : List (Property Node)} {us : List (List Char)} :
    (∃ ms, AdmitsMembers spelling ps ms ∧ us = Tree.renderMembers indent depth ms) ↔
      List.Forall₂ (· ∈ ·) us (ps.map (memberTexts indent depth)) := by
  induction ps generalizing us with
  | nil =>
    rw [List.map_nil, List.forall₂_nil_right_iff]
    constructor
    · rintro ⟨ms, hms, rfl⟩
      cases ms with
      | nil => rfl
      | cons m ms => exact hms.elim
    · rintro rfl
      exact ⟨[], trivial, rfl⟩
  | cons p ps ih =>
    rw [List.map_cons, List.forall₂_cons_right_iff]
    constructor
    · rintro ⟨ms, hms, rfl⟩
      cases ms with
      | nil => exact hms.elim
      | cons m ms =>
        obtain ⟨name, t⟩ := m
        obtain ⟨rfl, ht, hms⟩ := hms
        exact ⟨_, _, mem_memberTexts.2 ⟨t, ht, rfl⟩, ih.1 ⟨ms, hms, rfl⟩, rfl⟩
    · rintro ⟨u, us, hu, hus, rfl⟩
      obtain ⟨t, ht, rfl⟩ := mem_memberTexts.1 hu
      obtain ⟨ms, hms, rfl⟩ := ih.2 hus
      exact ⟨(_, t) :: ms, ⟨rfl, ht, hms⟩, rfl⟩

theorem texts_object_nil : texts indent depth (.object []) = {"\x7b\x7d".toList} := by
  ext w
  constructor
  · rintro ⟨t, ht, rfl⟩
    cases t with
    | object ms =>
      cases ms with
      | nil => rfl
      | cons m ms => exact ht.elim
    | _ => exact ht.elim
  · rintro rfl
    exact ⟨.object [], trivial, rfl⟩

theorem texts_object {ps : List (Property Node)} (hps : ps ≠ []) :
    texts indent depth (.object ps) =
      {['\x7b']} * within (Spacing.at indent depth)
        (inOrder (Spacing.at indent depth).between.toList
          (ps.map (memberTexts indent (depth + 1)))) * {['\x7d']} := by
  have hne : ∀ us, List.Forall₂ (· ∈ ·) us (ps.map (memberTexts indent (depth + 1))) → us ≠ [] := by
    rintro us h rfl
    rw [List.forall₂_nil_left_iff, List.map_eq_nil_iff] at h
    exact hps h
  ext w
  rw [mem_enclosed]
  constructor
  · rintro ⟨t, ht, rfl⟩
    cases t with
    | object ms =>
      have hus : List.Forall₂ (· ∈ ·) (Tree.renderMembers indent (depth + 1) ms)
          (ps.map (memberTexts indent (depth + 1))) := admitsMembers_iff.1 ⟨ms, ht, rfl⟩
      refine ⟨_, mem_enclosed.2 ⟨_, mem_inOrder.2 ⟨_, hus, rfl⟩, rfl⟩, ?_⟩
      rw [Tree.renderAt, laidOut_of_ne_nil _ _ _ (hne _ hus)]
    | _ => exact ht.elim
  · rintro ⟨_, hv, rfl⟩
    obtain ⟨_, hx, rfl⟩ := mem_enclosed.1 hv
    obtain ⟨us, hus, rfl⟩ := mem_inOrder.1 hx
    obtain ⟨ms, hms, rfl⟩ := admitsMembers_iff.2 hus
    refine ⟨.object ms, hms, ?_⟩
    rw [Tree.renderAt, laidOut_of_ne_nil _ _ _ (hne _ hus)]

/-! ## Arrays -/

theorem mem_texts_array {items : Node} {least most : Value} {w : List Char} :
    w ∈ texts indent depth (.array items least most) ↔ ∃ us : List (List Char),
      Between least most us.length ∧ (∀ u ∈ us, u ∈ texts indent (depth + 1) items) ∧
        w = laidOut (Spacing.at indent depth) '[' ']' us := by
  constructor
  · rintro ⟨t, ht, rfl⟩
    cases t with
    | array ts =>
      refine ⟨_, ?_, ?_, rfl⟩
      · rw [Tree.renderItems_eq_map, List.length_map]
        exact ht.1
      · rw [Tree.renderItems_eq_map, List.forall_mem_map]
        exact fun t hmem => ⟨t, ht.2 t hmem, rfl⟩
    | _ => exact ht.elim
  · rintro ⟨us, hcount, hus, rfl⟩
    obtain ⟨ts, hts, rfl⟩ := exists_map_eq hus
    rw [List.length_map] at hcount
    refine ⟨.array ts, ⟨hcount, hts⟩, ?_⟩
    rw [Tree.renderAt, Tree.renderItems_eq_map]

/-- The texts of items between commas: one at least, and as many as two bounds allow. -/
def rowTexts (indent : Option Int) (depth : Int) (items : Node) (least most : Value) :
    Language Char :=
  texts indent (depth + 1) items *
    repetition ({(Spacing.at indent depth).between.toList} * texts indent (depth + 1) items)
      (lowest least - 1) ((highest most).map (· - 1))

theorem mem_rowTexts {items : Node} {least most : Value} (h : Ordered least most)
    (hmost : highest most ≠ some 0) {w : List Char} : w ∈ rowTexts indent depth items least most ↔
      ∃ us : List (List Char), us ≠ [] ∧ Between least most us.length ∧
        (∀ u ∈ us, u ∈ texts indent (depth + 1) items) ∧
          w = (Spacing.at indent depth).between.toList.intercalate us := by
  -- The first item is not counted by the repetition, so its bounds are one less.
  have hcount : ∀ k : Nat, 0 < k ∧ Between least most k ↔ lowest least - 1 < k ∧
      ∀ n ∈ ((highest most).map (· - 1)).map (· - (lowest least - 1)),
        k ≤ lowest least - 1 + n + 1 := by
    intro k
    have hle := h.le
    unfold Between
    cases hm : highest most with
    | none =>
      simp only [Option.map_none, Option.not_mem_none, false_implies, implies_true, and_true]
      omega
    | some n =>
      have hn : n ≠ 0 := by
        rintro rfl
        exact hmost hm
      have hlow : lowest least ≤ n := hle n hm
      simp only [Option.map_some, Option.mem_some, forall_eq']
      omega
  rw [rowTexts, repetition, mem_mul_copies]
  apply exists_congr
  intro us
  rw [← List.length_pos_iff, ← and_assoc, ← and_assoc (a := 0 < us.length), hcount]

section Arrays

variable {items : Node} {least most : Value} (h : Ordered least most)
include h

/-- An array that may have no items at all. -/
theorem texts_array_of_highest_zero (hmost : highest most = some 0) :
    texts indent depth (.array items least most) = {"[]".toList} := by
  have hlow : lowest least = 0 := Nat.le_zero.1 (h.le 0 hmost)
  ext w
  rw [mem_texts_array]
  constructor
  · rintro ⟨us, hcount, -, rfl⟩
    have hnil : us = [] := List.length_eq_zero_iff.1 (Nat.le_zero.1 (hcount.2 0 hmost))
    rw [hnil]
    rfl
  · rintro rfl
    refine ⟨[], ⟨by simp [hlow], by simp⟩, by simp, rfl⟩

theorem mem_texts_array_iff (hmost : highest most ≠ some 0) {w : List Char} :
    w ∈ texts indent depth (.array items least most) ↔ (lowest least = 0 ∧ w = "[]".toList) ∨
      ∃ v ∈ within (Spacing.at indent depth) (rowTexts indent depth items least most),
        w = ['['] ++ v ++ [']'] := by
  rw [mem_texts_array]
  constructor
  · rintro ⟨us, hcount, hus, rfl⟩
    rcases eq_or_ne us [] with rfl | hne
    · exact .inl ⟨Nat.le_zero.1 hcount.1, rfl⟩
    · have hrow : (Spacing.at indent depth).between.toList.intercalate us ∈
          rowTexts indent depth items least most :=
        (mem_rowTexts h hmost).2 ⟨us, hne, hcount, hus, rfl⟩
      exact .inr ⟨_, mem_enclosed.2 ⟨_, hrow, rfl⟩, laidOut_of_ne_nil _ _ _ hne⟩
  · rintro (⟨hlow, rfl⟩ | ⟨_, hv, rfl⟩)
    · exact ⟨[], ⟨by simp [hlow], by simp⟩, by simp, rfl⟩
    · obtain ⟨_, hx, rfl⟩ := mem_enclosed.1 hv
      obtain ⟨us, hne, hcount, hus, rfl⟩ := (mem_rowTexts h hmost).1 hx
      exact ⟨us, hcount, hus, (laidOut_of_ne_nil _ _ _ hne).symm⟩

/-- An array that has an item at least. -/
theorem texts_array_of_lowest_pos (hmost : highest most ≠ some 0) (hleast : lowest least ≠ 0) :
    texts indent depth (.array items least most) = {['[']} *
      within (Spacing.at indent depth) (rowTexts indent depth items least most) * {[']']} := by
  ext w
  rw [mem_texts_array_iff h hmost, mem_enclosed]
  exact or_iff_right fun hempty => hleast hempty.1

/-- An array that may have no items and may have some. -/
theorem texts_array_of_lowest_zero (hmost : highest most ≠ some 0) (hleast : lowest least = 0) :
    texts indent depth (.array items least most) = {['[']} *
      (1 + within (Spacing.at indent depth) (rowTexts indent depth items least most)) *
        {[']']} := by
  ext w
  rw [mem_texts_array_iff h hmost, mem_enclosed]
  constructor
  · rintro (⟨-, rfl⟩ | ⟨v, hv, rfl⟩)
    · exact ⟨[], .inl rfl, rfl⟩
    · exact ⟨v, .inr hv, rfl⟩
  · rintro ⟨v, rfl | hv, rfl⟩
    · exact .inl ⟨hleast, rfl⟩
    · exact .inr ⟨v, hv, rfl⟩

end Arrays

end GuidedJson.Schema.Node
