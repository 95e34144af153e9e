import GuidedJson.Proofs.Schema.Joined
import GuidedJson.Proofs.Schema.Layouts
import GuidedJson.Proofs.Schema.Leaves
import GuidedJson.Proofs.Schema.Quantifiers
import GuidedJson.Proofs.Schema.Texts

/-!
# Patterns of schemas

The pattern of a schema spells the texts of the trees that the schema admits, at every depth. It is
written unless a bound has more digits than are written, or the white space of a collection is too
wide.
-/

namespace GuidedJson.Schema

open Computability
open Pattern

/-! ## Separators -/

theorem spells_intercalate {sep : String} (hsep : Spells sep.toList {sep.toList})
    {ps : List String} {ls : List (Language Char)}
    (h : List.Forall₂ (fun p l => Spells p.toList l) ps ls) :
    Spells (sep.intercalate ps).toList (inOrder sep.toList ls) := by
  rw [String.toList_intercalate]
  induction h with
  | nil => exact spells_nil
  | @cons p l ps ls hp hps ih =>
    cases hps with
    | nil => simpa [inOrder] using hp
    | cons hq hps =>
      rw [List.map_cons, List.map_cons, List.intercalate_cons_cons, inOrder, List.append_assoc]
      exact hp.append (hsep.append ih)

theorem spellsOptions_intercalate {ps : List String} {ls : List (Language Char)}
    (h : List.Forall₂ (fun p l => Spells p.toList l) ps ls) (hne : ps ≠ []) :
    SpellsOptions ("|".intercalate ps).toList ls.sum := by
  rw [String.toList_intercalate]
  induction h with
  | nil => exact absurd rfl hne
  | @cons p l ps ls hp hps ih =>
    cases hps with
    | nil =>
      rw [List.map_singleton, List.intercalate_singleton, List.sum_singleton]
      exact hp.options
    | cons hq hps =>
      have hrest := ih (by simp)
      rw [List.map_cons, List.map_cons, List.intercalate_cons_cons, List.sum_cons,
        List.append_assoc]
      exact hp.cons_options hrest

/-- Alternatives spell what any of them spells. -/
theorem spells_alternatives {ps : List String} {ls : List (Language Char)}
    (h : List.Forall₂ (fun p l => Spells p.toList l) ps ls) (hne : ps ≠ []) :
    Spells (alternatives ps).toList ls.sum := by
  have hgroup := (spellsOptions_intercalate h hne).group
  rw [alternatives, String.toList_append, String.toList_append]
  exact hgroup

/-! ## White space -/

theorem not_special_newLine (indent depth : Int) :
    (newLine indent depth).toList.any isSpecial = false := by
  have hblanks : ∀ n, (List.replicate n ' ').any isSpecial = false := by
    intro n
    rw [List.any_replicate]
    split <;> rfl
  simp only [newLine_eq, String.toList_append, List.any_append, String.toList_ofList, hblanks]
  decide

section Spacing

variable (indent : Option Int) (depth : Int)

theorem not_special_spacing : (Spacing.at indent depth).afterOpen.toList.any isSpecial = false ∧
    (Spacing.at indent depth).between.toList.any isSpecial = false ∧
    (Spacing.at indent depth).beforeClose.toList.any isSpecial = false := by
  cases indent with
  | none =>
    have hcomma : ", ".toList.any isSpecial = false := by decide
    exact ⟨rfl, hcomma, rfl⟩
  | some n =>
    refine ⟨not_special_newLine _ _, ?_, not_special_newLine _ _⟩
    rw [Spacing.at, String.toList_append, List.any_append, not_special_newLine]
    rfl

/-- White space stands for itself in a pattern, and so do commas. -/
theorem spells_spacing : Spells (Spacing.at indent depth).afterOpen.toList
      {(Spacing.at indent depth).afterOpen.toList} ∧
    Spells (Spacing.at indent depth).between.toList {(Spacing.at indent depth).between.toList} ∧
    Spells (Spacing.at indent depth).beforeClose.toList
      {(Spacing.at indent depth).beforeClose.toList} := by
  obtain ⟨hopen, hbetween, hclose⟩ := not_special_spacing indent depth
  exact ⟨spells_plain hopen, spells_plain hbetween, spells_plain hclose⟩

theorem spells_within {p : String} {l : Language Char} (h : Spells p.toList l) :
    Spells ((Spacing.at indent depth).afterOpen ++ p ++
      (Spacing.at indent depth).beforeClose).toList (Node.within (Spacing.at indent depth) l) := by
  obtain ⟨hopen, -, hclose⟩ := spells_spacing indent depth
  rw [String.toList_append, String.toList_append]
  exact (hopen.append h).append hclose

end Spacing

theorem spells_jsonLiteral (s : String) :
    Spells (jsonLiteral s).toList {(jsonString s).toList} :=
  spells_escapeLiteral (jsonString s)

/-! ## Arrays -/

theorem written_repetition {least most : Value} (h : Ordered least most)
    (hmost : highest most ≠ some 0) {sep item : String} {l : Language Char}
    (hsep : Spells sep.toList {sep.toList}) (hitem : Spells item.toList l) :
    Written
      (if most.isNumber 1 then .ok ""
      else (tailQuantifier least.orZero most).map fun q => "(" ++ sep ++ item ++ ")" ++ q)
      (fun r => Spells r.toList
        (repetition ({sep.toList} * l) (lowest least - 1) ((highest most).map (· - 1))))
      (TooLong (Oversized least most)) := by
  split
  -- There is room for one item only, so nothing is repeated behind it.
  · rename_i hone
    have hhighest : highest most = some 1 := (h.upper.isNumber_iff 1).1 hone
    have hlow : lowest least - 1 = 0 := by
      have := h.le 1 hhighest
      omega
    rw [hlow, hhighest]
    apply written_ok
    rw [Option.map_some, Nat.sub_self, repetition_exactly, pow_zero]
    exact spells_nil
  · apply (written_tailQuantifier h.lower h.upper hmost).map
    intro q hq
    have hle : ∀ n ∈ (highest most).map (· - 1), lowest least - 1 ≤ n := by
      intro n hn
      obtain ⟨m, hm, rfl⟩ := Option.mem_map.1 hn
      exact Nat.sub_le_sub_right (h.le m hm) 1
    have hgroup := (hsep.append hitem).options.quantified hq hle
    simpa using hgroup

/-- A row of items in brackets. Where no item is needed, all that stands between the brackets may be
left out. -/
def brackets (spacing : Spacing) (row : String) (optional : Bool) : String :=
  let body := spacing.afterOpen ++ row ++ spacing.beforeClose
  if optional then "\\[(" ++ body ++ ")?\\]" else "\\[" ++ body ++ "\\]"

theorem arrayPattern_eq (spacing : Spacing) (item : String) (least most : Value) :
    arrayPattern spacing item least most =
      (if most.isNumber 1 then .ok ""
      else (tailQuantifier least.orZero most).map fun q =>
        "(" ++ spacing.between ++ item ++ ")" ++ q).map fun r =>
      brackets spacing (item ++ r) (least.orZero.isNumber 0) := by
  unfold arrayPattern brackets
  simp only [← String.append_assoc]
  split
  · split <;> rfl
  · cases tailQuantifier least.orZero most with
    | error e => rfl
    | ok q =>
      simp only [Except.map, bind, Except.bind]
      split <;> rfl

/-- What a row of items spells in brackets. -/
theorem spells_brackets {indent : Option Int} {depth : Int} {items : Node} {least most : Value}
    (h : Ordered least most) (hmost : highest most ≠ some 0) {row : String}
    (hrow : Spells row.toList (Node.rowTexts indent depth items least most)) :
    Spells (brackets (Spacing.at indent depth) row (decide (lowest least = 0))).toList
      (Node.texts indent depth (.array items least most)) := by
  have hbody := spells_within indent depth hrow
  have hopen : Spells "\\[".toList {['[']} := spells_escapeLiteralChar '['
  have hclose : Spells "\\]".toList {[']']} := spells_escapeLiteralChar ']'
  simp only [brackets, decide_eq_true_eq]
  split
  next hlow =>
    rw [Node.texts_array_of_lowest_zero h hmost hlow]
    have hwhole := (hopen.append (spells_optional hbody.options)).append hclose
    simpa using hwhole
  next hlow =>
    rw [Node.texts_array_of_lowest_pos h hmost hlow]
    have hwhole := (hopen.append hbody).append hclose
    simpa using hwhole

/-- The pattern of an array of which a pattern of the items is given. -/
theorem written_arrayPattern {indent : Option Int} {depth : Int} {items : Node} {least most : Value}
    (h : Ordered least most) (hmost : highest most ≠ some 0) {item : String}
    (hitem : Spells item.toList (items.texts indent (depth + 1))) :
    Written (arrayPattern (Spacing.at indent depth) item least most)
      (fun p => Spells p.toList (Node.texts indent depth (.array items least most)))
      (TooLong (Oversized least most)) := by
  rw [arrayPattern_eq]
  apply (written_repetition h hmost (spells_spacing indent depth).2.1 hitem).map
  intro r hr
  have hrow : Spells (item ++ r).toList (Node.rowTexts indent depth items least most) := by
    rw [String.toList_append]
    exact hitem.append hr
  have hzero : least.orZero.isNumber 0 = decide (lowest least = 0) := by
    rw [h.lower.orZero, Value.isNumber_int]
    exact decide_eq_decide.2 Int.natCast_eq_zero
  rw [hzero]
  exact spells_brackets h hmost hrow

/-! ## Schemas -/

namespace Node

variable {indent : Option Int} {depth : Int}

/-- A name and a value for it. -/
theorem spells_member {p : Property Node} {q : String}
    (h : Spells q.toList (p.schema.texts indent depth)) :
    Spells (jsonLiteral p.name ++ ": " ++ q).toList (memberTexts indent depth p) := by
  have hcolon : Spells ": ".toList {": ".toList} := spells_plain (by decide)
  rw [String.toList_append, String.toList_append]
  exact ((spells_jsonLiteral p.name).append hcolon).append h

/-- Members one after the other in braces. -/
theorem spells_object {ps : List (Property Node)} (hne : ps ≠ []) {qs : List String}
    (h : List.Forall₂ (fun q l => Spells q.toList l) qs (ps.map (memberTexts indent (depth + 1)))) :
    Spells ("\\\x7b" ++ (Spacing.at indent depth).afterOpen ++
      (Spacing.at indent depth).between.intercalate qs ++
        (Spacing.at indent depth).beforeClose ++ "\\\x7d").toList
      (texts indent depth (.object ps)) := by
  rw [texts_object hne]
  have hmembers := spells_intercalate (spells_spacing indent depth).2.1 h
  have hopen : Spells "\\\x7b".toList {['\x7b']} := spells_escapeLiteralChar '\x7b'
  have hclose : Spells "\\\x7d".toList {['\x7d']} := spells_escapeLiteralChar '\x7d'
  have hwhole := (hopen.append (spells_within indent depth hmembers)).append hclose
  simpa using hwhole

theorem spells_unionPattern {ns : List Node} (hne : ns ≠ []) {ps : List String}
    (h : List.Forall₂ (fun p l => Spells p.toList l) ps (ns.map (texts indent depth))) :
    Spells (unionPattern ps).toList (texts indent depth (.union ns)) := by
  rw [texts_union]
  unfold unionPattern
  split
  next p =>
    obtain ⟨l, ls, hp, hps, hls⟩ := List.forall₂_cons_left_iff.1 h
    rw [List.forall₂_nil_left_iff] at hps
    rw [hls, hps, List.sum_singleton]
    exact hp
  next =>
    refine spells_alternatives h ?_
    rintro rfl
    cases ns with
    | nil => exact hne rfl
    | cons => cases h

/-- Whether one of some schemas has a bound with more digits than are written. -/
def SomeHuge (ns : List Node) : Prop := ∃ n ∈ ns, n.Huge

theorem SomeHuge.mono {ns ms : List Node} (h : SomeHuge ns) (hsub : ns ⊆ ms) : SomeHuge ms := by
  obtain ⟨n, hn, hhuge⟩ := h
  exact ⟨n, hsub hn, hhuge⟩

/-- The reasons that the pattern of some schemas is not written: a bound is too long, or there is a
collection without white space. -/
def Unwritten (parts : List Node) (laidOut : Prop) (e : Failure) : Prop :=
  TooLong (SomeHuge parts) e ∨ (e = .tooWide ∧ ¬ laidOut)

theorem Unwritten.mono {ns ms : List Node} {p q : Prop} {e : Failure} (h : Unwritten ns p e)
    (hsub : ns ⊆ ms) (hlaid : q → p) : Unwritten ms q e :=
  h.imp (fun ⟨he, hhuge⟩ => ⟨he, hhuge.mono hsub⟩) fun ⟨he, hp⟩ => ⟨he, mt hlaid hp⟩

theorem written_layout (indent : Option Int) {depth : Int} (hdepth : 0 ≤ depth) :
    Written (layout indent depth) (· = Spacing.at indent depth)
      (fun e => e = .tooWide ∧ ¬ HasLayout indent depth) :=
  (layout_cases indent hdepth).imp (fun h => ⟨_, h.2, rfl⟩) fun h => ⟨_, h.2, rfl, h.1⟩

/-- The pattern of a string with bounds in order, in any layout. -/
theorem written_text {least most : Value} (h : Ordered least most) (indent : Option Int)
    (depth : Int) : Written ((Node.text least most).patternAt indent depth)
      (fun p => Spells p.toList ((Node.text least most).texts indent depth))
      (TooLong (Oversized least most)) := by
  refine (written_lengthQuantifier h.lower h.upper).map fun q hq => ?_
  have hquote : Spells "\"".toList {['"']} := spells_plain (by decide)
  rw [texts_text h]
  have hwhole := (hquote.append (spells_stringCharPattern hq h.le)).append hquote
  simpa using hwhole

mutual
/-- The pattern of a schema spells the texts of the trees that the schema admits. -/
theorem written_patternAt {n : Node} (h : n.WellFormed) (indent : Option Int) {depth : Int}
    (hdepth : 0 ≤ depth) : Written (n.patternAt indent depth)
      (fun p => Spells p.toList (n.texts indent depth))
      (Unwritten n.parts (n.LaidOut indent depth)) := by
  cases n with
  | boolean =>
    apply written_ok
    rw [texts_boolean]
    have htrue : Spells "true".toList {"true".toList} := spells_plain (by decide)
    have hfalse : Spells "false".toList {"false".toList} := spells_plain (by decide)
    exact (htrue.cons_options hfalse.options).group
  | integer =>
    apply written_ok
    rw [texts_integer]
    exact spells_integerPattern
  | number =>
    apply written_ok
    rw [texts_number]
    exact spells_numberPattern
  | null =>
    apply written_ok
    rw [texts_null]
    exact spells_plain (by decide)
  | text least most =>
    have hbounds : Ordered least most := h _ List.mem_cons_self
    exact (written_text hbounds indent depth).mono fun e he =>
      .inl ⟨he.1, _, List.mem_cons_self, he.2⟩
  | choice choices =>
    have hne : choices ≠ [] := h _ List.mem_cons_self
    apply written_ok
    rw [texts_choice]
    refine spells_alternatives ?_ (by simpa using hne)
    rw [List.forall₂_map_left_iff, List.forall₂_map_right_iff]
    exact List.forall₂_same.2 fun s _ => spells_jsonLiteral s
  | object properties =>
    rcases eq_or_ne properties [] with rfl | hne
    · apply written_ok
      rw [texts_object_nil]
      exact spells_flatMap_escape "\x7b\x7d".toList
    · have hempty : properties.isEmpty = false := by simpa using hne
      have hparts := (List.forall_mem_cons.1 h).2
      have hlaid : (Node.object properties).LaidOut indent depth ↔
          HasLayout indent depth ∧ PropertiesLaidOut indent (depth + 1) properties := by
        simp [LaidOut, hne]
      rw [patternAt, hempty, hlaid]
      refine Written.bind ((written_layout indent hdepth).mono fun e he =>
        .inr ⟨he.1, mt And.left he.2⟩) ?_
      rintro _ rfl
      rw [Spacing.afterKey_at]
      refine Written.bind ((written_propertyPatterns hparts indent (by omega)).mono fun e he =>
        he.mono (List.subset_cons_self _ _) And.right) ?_
      intro qs hqs
      exact written_ok (spells_object hne hqs)
  | array items least most =>
    obtain ⟨hbounds, hitems⟩ := List.forall_mem_cons.1 h
    rw [patternAt]
    split
    · rename_i hzero
      apply written_ok
      rw [texts_array_of_highest_zero hbounds ((hbounds.upper.isNumber_iff 0).1 hzero)]
      exact spells_flatMap_escape "[]".toList
    · rename_i hzero
      have hlaid : (Node.array items least most).LaidOut indent depth ↔
          HasLayout indent depth ∧ items.LaidOut indent (depth + 1) := by
        simp [LaidOut, hzero]
      rw [hlaid]
      refine Written.bind ((written_layout indent hdepth).mono fun e he =>
        .inr ⟨he.1, mt And.left he.2⟩) ?_
      rintro _ rfl
      refine Written.bind ((written_patternAt hitems indent (by omega)).mono fun e he =>
        he.mono (List.subset_cons_self _ _) And.right) ?_
      intro item hitem
      have hmost : highest most ≠ some 0 := fun heq => hzero ((hbounds.upper.isNumber_iff 0).2 heq)
      exact (written_arrayPattern hbounds hmost hitem).mono fun e he =>
        .inl ⟨he.1, _, List.mem_cons_self, he.2⟩
  | union members =>
    obtain ⟨hne, hmembers⟩ := List.forall_mem_cons.1 h
    rw [patternAt_union]
    refine ((written_patterns hmembers indent hdepth).mono fun e he =>
      he.mono (List.subset_cons_self _ _) fun hlaid => ?_).map
        fun ps hps => spells_unionPattern hne hps
    rwa [LaidOut] at hlaid

theorem written_patterns {ns : List Node} (h : ∀ m ∈ partsOfMembers ns, m.Sound)
    (indent : Option Int) {depth : Int} (hdepth : 0 ≤ depth) : Written (patterns indent depth ns)
      (fun ps => List.Forall₂ (fun p l => Spells p.toList l) ps (ns.map (texts indent depth)))
      (Unwritten (partsOfMembers ns) (MembersLaidOut indent depth ns)) := by
  cases ns with
  | nil => exact written_ok .nil
  | cons n ns =>
    obtain ⟨hn, hns⟩ := List.forall_mem_append.1 h
    rw [MembersLaidOut]
    refine Written.bind ((written_patternAt hn indent hdepth).mono fun e he =>
      he.mono (List.subset_append_left _ _) And.left) ?_
    intro p hp
    refine Written.bind ((written_patterns hns indent hdepth).mono fun e he =>
      he.mono (List.subset_append_right _ _) And.right) ?_
    exact fun ps hps => written_ok (.cons hp hps)

theorem written_propertyPatterns {ps : List (Property Node)}
    (h : ∀ m ∈ partsOfProperties ps, m.Sound) (indent : Option Int) {depth : Int}
    (hdepth : 0 ≤ depth) : Written (propertyPatterns ": " indent depth ps)
      (fun qs => List.Forall₂ (fun q l => Spells q.toList l) qs (ps.map (memberTexts indent depth)))
      (Unwritten (partsOfProperties ps) (PropertiesLaidOut indent depth ps)) := by
  cases ps with
  | nil => exact written_ok .nil
  | cons p ps =>
    obtain ⟨hschema, hps⟩ := List.forall_mem_append.1 h
    rw [PropertiesLaidOut]
    refine Written.bind ((written_patternAt hschema indent hdepth).mono fun e he =>
      he.mono (List.subset_append_left _ _) And.left) ?_
    intro q hq
    refine Written.bind ((written_propertyPatterns hps indent hdepth).mono fun e he =>
      he.mono (List.subset_append_right _ _) And.right) ?_
    intro qs hqs
    exact written_ok (.cons (spells_member hq) hqs)
end

end Node

end GuidedJson.Schema
