import GuidedJson.Proofs.Schema.Patterns
import GuidedJson.Proofs.Schema.Spans

/-!
# Described schemas

The pattern of a schema describes a schema whose bounds are in order: the schema itself if its own
bounds are, and otherwise another one, with the bounds that those of the schema are read as. Where
one of them is not read at all, the pattern is none.
-/

namespace GuidedJson

/-- The upper bound of a span. -/
def Pattern.Span.upper (s : Span) : Value := s.most.elim .null fun n => .int n

namespace Schema

open Computability
open Pattern (Span Spells Settled Spoils SpoilsOptions repetition)

/-! ## Spans as bounds -/

section Spans

variable (s : Span)

theorem highest_upper : highest s.upper = s.most := by
  unfold Span.upper
  cases s.most with
  | none => rfl
  | some n => exact congrArg some (Int.toNat_natCast n)

theorem ordered_span : Ordered (.int s.least) s.upper := by
  refine ⟨.inr ⟨_, rfl⟩, ?_, ?_⟩
  · unfold Span.upper
    cases s.most with
    | none => exact .inl rfl
    | some n => exact .inr ⟨n, rfl⟩
  · rw [highest_upper]
    exact s.le

end Spans

/-! ## Spoiled collections -/

section Spoiled

variable {ps : List String}

theorem settled_plain {cs : List Char} (h : cs.any isSpecial = false) : Settled cs :=
  (spells_plain h).settled

/-- Pieces between separators are spoiled by one of them. -/
theorem spoils_intercalate {sep : String} (hsep : Settled sep.toList)
    (h : ∀ p ∈ ps, Settled p.toList) (hspoils : ∃ p ∈ ps, Spoils p.toList) :
    Spoils (sep.intercalate ps).toList := by
  rw [String.toList_intercalate]
  induction ps with
  | nil => simp at hspoils
  | cons p ps ih =>
    obtain ⟨hp, hps⟩ := List.forall_mem_cons.1 h
    cases ps with
    | nil =>
      rw [List.map_singleton, List.intercalate_singleton]
      simpa using hspoils
    | cons q qs =>
      rw [List.map_cons, List.map_cons, List.intercalate_cons_cons, List.append_assoc]
      -- Either the first piece spoils, or it is settled and reading goes on behind it.
      rcases (List.exists_mem_cons_iff _ _ _).1 hspoils with hfirst | hlater
      · exact hfirst.append _
      · exact hp.append_spoils (hsep.append_spoils (ih hps hlater))

theorem spoilsOptions_intercalate (h : ∀ p ∈ ps, Settled p.toList)
    (hspoils : ∃ p ∈ ps, Spoils p.toList) : SpoilsOptions ("|".intercalate ps).toList := by
  rw [String.toList_intercalate]
  induction ps with
  | nil => simp at hspoils
  | cons p ps ih =>
    obtain ⟨hp, hps⟩ := List.forall_mem_cons.1 h
    cases ps with
    | nil =>
      rw [List.map_singleton, List.intercalate_singleton]
      have hlast : Spoils p.toList := by simpa using hspoils
      exact hlast.options
    | cons q qs =>
      rw [List.map_cons, List.map_cons, List.intercalate_cons_cons, List.append_assoc]
      rcases (List.exists_mem_cons_iff _ _ _).1 hspoils with hfirst | hlater
      · exact (hfirst.append _).options
      · exact hp.cons_spoils (ih hps hlater)

/-- Alternatives are spoiled by one of them. -/
theorem spoils_alternatives (h : ∀ p ∈ ps, Settled p.toList)
    (hspoils : ∃ p ∈ ps, Spoils p.toList) : Spoils (alternatives ps).toList := by
  have hgroup := (spoilsOptions_intercalate h hspoils).group
  rw [alternatives, String.toList_append, String.toList_append]
  exact hgroup

variable (indent : Option Int) (depth : Int) {row : String}

theorem spoils_within (h : Spoils row.toList) :
    Spoils ((Spacing.at indent depth).afterOpen ++ row ++
      (Spacing.at indent depth).beforeClose).toList := by
  rw [String.toList_append, String.toList_append]
  exact ((spells_spacing indent depth).1.settled.append_spoils h).append _

/-- Brackets are spoiled by what stands in them. -/
theorem spoils_brackets (h : Spoils row.toList) (optional : Bool) :
    Spoils (brackets (Spacing.at indent depth) row optional).toList := by
  have hbody := spoils_within indent depth h
  have hopen : Settled "\\[".toList := (spells_escapeLiteralChar '[').settled
  unfold brackets
  split
  · have hwhole := hopen.append_spoils (hbody.options.group.append "?\\]".toList)
    simpa using hwhole
  · have hwhole := hopen.append_spoils (hbody.append "\\]".toList)
    simpa using hwhole

end Spoiled

/-! ## Items behind the first one -/

section Items

variable {least most : Value} {sep item : String} {l : Language Char}

/-- What is repeated behind the first item of an array. -/
theorem judged_repetition (hsep : Spells sep.toList {sep.toList}) (hitem : Spells item.toList l)
    (hleast : least.Fits) (hmost : most.Fits) :
    Judged False (fun s r => Spells r.toList (repetition ({sep.toList} * l) s.least s.most))
      (fun r => Spoils r.toList) (restSpan? least most)
      (if most.isNumber 1 then .ok ""
      else (tailQuantifier least most).map fun q => "(" ++ sep ++ item ++ ")" ++ q) := by
  have hoptions := (hsep.append hitem).options
  unfold restSpan?
  split
  · refine judged_ok ?_
    show Spells [] (repetition _ 0 (some 0))
    rw [Pattern.repetition_exactly, pow_zero]
    exact Pattern.spells_nil
  · refine (quantified_tailQuantifier hleast hmost).map_ok (fun s q hq => ?_) fun q hq => ?_
    · have hgroup := hoptions.quantified hq s.le
      simpa using hgroup
    · obtain ⟨os, -, hreads, -⟩ := hoptions
      have hgroup := hreads.misrepeated hq
      simpa using hgroup

end Items

namespace Node

/-! ## Descriptions -/

mutual
/-- The schema that the pattern of a schema describes, if it describes any: the bounds are what
those of the schema are read as. Of an array without items nothing else is described. -/
def described? : Node → Option Node
  | .text least most => (lengthSpan? least most).map fun s => .text (.int s.least) s.upper
  | .object properties => (describedProperties? properties).map .object
  | .array items least most =>
    if most.isNumber 0 then some (.array .null (.int 0) (.int 0))
    else
      items.described?.bind fun items =>
        (itemSpan? least most).map fun s => .array items (.int s.least) s.upper
  | .union members => (describedMembers? members).map .union
  | n => some n

def describedMembers? : List Node → Option (List Node)
  | [] => some []
  | n :: ns => n.described?.bind fun m => (describedMembers? ns).map (m :: ·)

def describedProperties? : List (Property Node) → Option (List (Property Node))
  | [] => some []
  | ⟨name, schema, description⟩ :: ps =>
    schema.described?.bind fun m => (describedProperties? ps).map (⟨name, m, description⟩ :: ·)
end

/-- Whether no length is bounded by a text that ends the braces it stands in. Such a text is a piece
of a pattern of its own. -/
def Unbraced (n : Node) : Prop :=
  ∀ k ∈ n.parts, ∀ least most, k = .text least most → least.Unbraced ∧ most.Unbraced

/-! ## Patterns of described schemas -/

section Patterns

variable {indent : Option Int} {depth : Int}

/-- Whether a pattern is that of a schema with bounds in order. -/
def Portrays (indent : Option Int) (depth : Int) (m : Node) (p : String) : Prop :=
  m.WellFormed ∧ Spells p.toList (m.texts indent depth)

/-- Whether a schema is described by its pattern, and spoils it if it is not described. -/
def Depicted (indent : Option Int) (depth : Int) (n : Node) : Prop :=
  Judged (¬ n.LaidOut indent depth) (Portrays indent depth) (fun p => Spoils p.toList) n.described?
    (n.patternAt indent depth)

/-- A collection is described as it is laid out, or there is no white space for it. -/
theorem depicted_of_layout {n : Node} (hdepth : 0 ≤ depth) {f : Spacing → Except Failure String}
    (hpattern : n.patternAt indent depth = layout indent depth >>= f)
    (hlaid : n.LaidOut indent depth → HasLayout indent depth)
    (h : Judged (¬ n.LaidOut indent depth) (Portrays indent depth) (fun p => Spoils p.toList)
      n.described? (f (Spacing.at indent depth))) : n.Depicted indent depth := by
  rw [Depicted, hpattern]
  rcases layout_cases indent hdepth with ⟨-, heq⟩ | ⟨hnone, heq⟩
  · rw [heq]
    exact h
  · rw [heq]
    exact judged_tooWide (mt hlaid hnone)

theorem depicted_leaf (hdepth : 0 ≤ depth) {n : Node} (hn : n.described? = some n)
    (hsound : n.WellFormed) {p : String} (hp : n.patternAt indent depth = .ok p) :
    n.Depicted indent depth := by
  rw [Depicted, hn, hp]
  exact judged_ok ⟨hsound, (written_patternAt hsound indent hdepth).of_eq_ok hp⟩

theorem wellFormed_of_parts {n : Node} (hparts : n.parts = [n]) (h : n.Sound) : n.WellFormed := by
  rw [WellFormed, hparts]
  exact List.forall_mem_singleton.2 h

theorem depicted_text {least most : Value} (hleast : least.Fits) (hmost : most.Fits)
    (hleast' : least.Unbraced) (hmost' : most.Unbraced) :
    (Node.text least most).Depicted indent depth := by
  rw [Depicted, described?, patternAt]
  refine ((quantified_lengthQuantifier hleast hmost hleast' hmost').wider False.elim).map
    (fun s q hq => ?_) fun q hq => ?_
  · have hordered := ordered_span s
    have hquote : Spells "\"".toList {['"']} := spells_plain (by decide)
    refine ⟨wellFormed_of_parts rfl hordered, ?_⟩
    rw [texts_text hordered, highest_upper]
    have hwhole := (hquote.append (spells_stringCharPattern hq s.le)).append hquote
    simpa [lowest] using hwhole
  · have hquote : Settled "\"".toList := settled_plain (by decide)
    obtain ⟨os, -, hreads, -⟩ := spellsOptions_stringChar
    have hchars := hreads.misrepeated hq
    rw [← stringCharPattern_toList] at hchars
    have hwhole := hquote.append_spoils (hchars.append "\"".toList)
    simpa using hwhole

/-- A row of items in brackets is the pattern of an array. -/
theorem portrays_array {m : Node} {s : Span} {item row : String} {optional : Bool}
    (hitem : Portrays indent (depth + 1) m item)
    (hrow : Spells row.toList
      (repetition ({(Spacing.at indent depth).between.toList} * m.texts indent (depth + 1))
        s.least s.most))
    (hoptional : optional = true → s.least = 0) :
    Portrays indent depth
      (.array m (.int (s.withFirst optional).least) (s.withFirst optional).upper)
      (brackets (Spacing.at indent depth) (item ++ row) optional) := by
  have hordered := ordered_span (s.withFirst optional)
  refine ⟨forall_parts_array.2 ⟨hordered, hitem.1⟩, ?_⟩
  -- One item more than there are behind the first one, or none at all.
  have hmost : highest (s.withFirst optional).upper = s.most.map (· + 1) := highest_upper _
  have hleast : lowest (.int (s.withFirst optional).least) = if optional then 0 else s.least + 1 :=
    Int.toNat_natCast _
  have hzero : decide (lowest (.int (s.withFirst optional).least) = 0) = optional := by
    rw [hleast]
    cases optional <;> simp
  have hpos : highest (s.withFirst optional).upper ≠ some 0 := by
    rw [hmost]
    cases s.most <;> simp
  have hbefore : (if optional then 0 else s.least + 1) - 1 = s.least := by
    cases optional with
    | false => rfl
    | true => exact (hoptional rfl).symm
  have hbehind : (s.most.map (· + 1)).map (· - 1) = s.most := by cases s.most <;> rfl
  have hspelled : Spells (item ++ row).toList (rowTexts indent depth m
      (.int (s.withFirst optional).least) (s.withFirst optional).upper) := by
    rw [rowTexts, hleast, hmost, hbefore, hbehind, String.toList_append]
    exact hitem.2.append hrow
  have hwhole := spells_brackets hordered hpos hspelled
  rwa [hzero] at hwhole

theorem depicted_array {items : Node} {least most : Value} (hdepth : 0 ≤ depth)
    (hleast : least.Fits) (hmost : most.Fits) (hitems : items.Depicted indent (depth + 1)) :
    (Node.array items least most).Depicted indent depth := by
  by_cases hzero : most.isNumber 0 = true
  · rw [Depicted, described?, patternAt, if_pos hzero, if_pos hzero]
    have hordered : Ordered (.int 0) (.int 0) := ordered_span .zero
    refine judged_ok ⟨forall_parts_array.2 ⟨hordered, wellFormed_of_parts rfl trivial⟩, ?_⟩
    rw [texts_array_of_highest_zero hordered rfl]
    exact spells_flatMap_escape "[]".toList
  · have hlaid : (Node.array items least most).LaidOut indent depth ↔
        HasLayout indent depth ∧ items.LaidOut indent (depth + 1) := by
      rw [LaidOut, or_iff_right hzero]
    refine depicted_of_layout hdepth (by rw [patternAt, if_neg hzero]) (hlaid.1 · |>.1) ?_
    rw [described?, if_neg hzero]
    refine (hitems.wider fun hnone h => hnone (hlaid.1 h).2).bind (fun m item hitem => ?_)
      fun item hitem => ?_
    · rw [arrayPattern_eq, itemSpan?, Option.map_map]
      refine ((judged_repetition (spells_spacing indent depth).2.1 hitem.2
        (Value.fits_orZero hleast) hmost).wider False.elim).and_told.map
          (fun s r hr => ?_) fun r hr => ?_
      · refine portrays_array hitem hr.2 fun hzero => ?_
        rw [orZero_of_isNumber_zero hzero] at hr
        exact least_eq_zero_of_restSpan? hr.1
      · refine spoils_brackets indent depth ?_ _
        rw [String.toList_append]
        exact hitem.2.settled.append_spoils hr
    -- Items that spoil their pattern spoil the brackets, whatever is made of the bounds.
    · have hspoils (r : String) : Spoils (item ++ r).toList := by
        rw [String.toList_append]
        exact hitem.append _
      have hbrackets (r : String) : Spoils (brackets (Spacing.at indent depth) (item ++ r)
          (least.orZero.isNumber 0)).toList := spoils_brackets indent depth (hspoils r) _
      rw [arrayPattern_eq]
      split
      · exact judged_bad (hbrackets "")
      · have hrest : Judged False (fun (_ : Span) _ => True) (fun _ => True) none
            ((tailQuantifier least.orZero most).map fun q =>
              "(" ++ (Spacing.at indent depth).between ++ item ++ ")" ++ q) :=
          (quantified_tailQuantifier (Value.fits_orZero hleast) hmost).spoil
            (fun _ _ _ => trivial) fun _ _ => trivial
        exact (hrest.wider False.elim).spoil (fun _ r _ => hbrackets r) fun r _ => hbrackets r

/-! ### Patterns in a row -/

/-- Patterns that are all read, or of which one spoils what it stands in. -/
def Spoiled (ps : List String) : Prop :=
  (∀ p ∈ ps, Settled p.toList) ∧ ∃ p ∈ ps, Spoils p.toList

section Rows

variable {β : Type} {wide : Prop} {good : β → String → Prop} {p : String} {ps : List String}

theorem spoiled_cons_of_spoils (hp : Spoils p.toList) (hps : ∀ q ∈ ps, Settled q.toList) :
    Spoiled (p :: ps) :=
  ⟨List.forall_mem_cons.2 ⟨.inr hp, hps⟩, p, List.mem_cons_self, hp⟩

theorem Spoiled.cons (hp : Settled p.toList) (hps : Spoiled ps) : Spoiled (p :: ps) := by
  obtain ⟨hall, q, hq, hspoils⟩ := hps
  exact ⟨List.forall_mem_cons.2 ⟨hp, hall⟩, q, List.mem_cons_of_mem p hq, hspoils⟩

theorem settled_of_forall₂ (hgood : ∀ b q, good b q → Settled q.toList) {bs : List β}
    (h : List.Forall₂ good bs ps) : ∀ q ∈ ps, Settled q.toList := by
  induction h with
  | nil => simp
  | cons hp _ ih => exact List.forall_mem_cons.2 ⟨hgood _ _ hp, ih⟩

/-- Patterns one after the other are read if each of them is, and spoiled if one of them spoils. -/
theorem judged_cons (hgood : ∀ b q, good b q → Settled q.toList) {told : Option β}
    {tolds : Option (List β)} {x : Except Failure String} {xs : Except Failure (List String)}
    (hx : Judged wide good (fun q => Spoils q.toList) told x)
    (hxs : Judged wide (List.Forall₂ good) Spoiled tolds xs) :
    Judged wide (List.Forall₂ good) Spoiled (told.bind fun b => tolds.map (b :: ·))
      (x >>= fun q => xs.map (q :: ·)) := by
  refine hx.bind (fun b q hq => ?_) fun q hq => ?_
  · exact hxs.map (fun bs qs hqs => .cons hq hqs) fun qs hqs => hqs.cons (hgood b q hq)
  -- A pattern that spoils does so whatever is told of those behind it.
  · exact hxs.spoil (fun bs qs hqs => spoiled_cons_of_spoils hq (settled_of_forall₂ hgood hqs))
      fun qs hqs => spoiled_cons_of_spoils hq hqs.1

end Rows

theorem collected_eq {α : Type} (f : α → String) (x : Except Failure α)
    (xs : Except Failure (List String)) :
    (do let a ← x; let qs ← xs; return f a :: qs) =
      x.map f >>= fun q => xs.map (q :: ·) := by
  cases x with
  | error e => rfl
  | ok a => cases xs <;> rfl

theorem patterns_cons (n : Node) (ns : List Node) : patterns indent depth (n :: ns) =
    n.patternAt indent depth >>= fun p => (patterns indent depth ns).map (p :: ·) := by
  rw [patterns]
  cases n.patternAt indent depth with
  | error e => rfl
  | ok p => cases patterns indent depth ns <;> rfl

/-- How members are read one after the other. -/
theorem judged_patterns {ns : List Node} (h : ∀ n ∈ ns, n.Depicted indent depth) :
    Judged (¬ MembersLaidOut indent depth ns) (List.Forall₂ (Portrays indent depth)) Spoiled
      (describedMembers? ns) (patterns indent depth ns) := by
  induction ns with
  | nil => exact judged_ok .nil
  | cons n ns ih =>
    obtain ⟨hn, hns⟩ := List.forall_mem_cons.1 h
    rw [describedMembers?, patterns_cons, MembersLaidOut]
    exact judged_cons (fun m p hp => hp.2.settled) (hn.wider (mt And.left))
      ((ih hns).wider (mt And.right))

/-- Whether a pattern is that of a member with bounds in order. -/
def PortraysMember (indent : Option Int) (depth : Int) (p : Property Node) (q : String) : Prop :=
  p.schema.WellFormed ∧ Spells q.toList (memberTexts indent depth p)

theorem propertyPatterns_cons (p : Property Node) (ps : List (Property Node)) :
    propertyPatterns ": " indent depth (p :: ps) =
      (p.schema.patternAt indent depth).map (jsonLiteral p.name ++ ": " ++ ·) >>= fun q =>
        (propertyPatterns ": " indent depth ps).map (q :: ·) := by
  rw [propertyPatterns]
  exact collected_eq _ _ _

theorem describedProperties?_cons (p : Property Node) (ps : List (Property Node)) :
    describedProperties? (p :: ps) =
      (p.schema.described?.map fun m => ⟨p.name, m, p.description⟩).bind fun p =>
        (describedProperties? ps).map (p :: ·) := by
  rw [describedProperties?, Option.bind_map]
  rfl

theorem judged_propertyPatterns {ps : List (Property Node)}
    (h : ∀ p ∈ ps, p.schema.Depicted indent depth) :
    Judged (¬ PropertiesLaidOut indent depth ps) (List.Forall₂ (PortraysMember indent depth)) Spoiled
      (describedProperties? ps) (propertyPatterns ": " indent depth ps) := by
  induction ps with
  | nil => exact judged_ok .nil
  | cons p ps ih =>
    obtain ⟨name, schema, description⟩ := p
    obtain ⟨hp, hps⟩ := List.forall_mem_cons.1 h
    have hmember : Judged (¬ schema.LaidOut indent depth) (PortraysMember indent depth)
        (fun q => Spoils q.toList) (schema.described?.map fun m => ⟨name, m, description⟩)
        ((schema.patternAt indent depth).map (jsonLiteral name ++ ": " ++ ·)) := by
      refine Judged.map hp (fun m q hq => ?_) fun q hq => ?_
      · exact ⟨hq.1, spells_member (p := ⟨name, m, description⟩) hq.2⟩
      · have hcolon : Spells ": ".toList {": ".toList} := spells_plain (by decide)
        rw [String.toList_append, String.toList_append]
        exact ((spells_jsonLiteral name).append hcolon).settled.append_spoils hq
    rw [describedProperties?_cons, propertyPatterns_cons, PropertiesLaidOut]
    exact judged_cons (fun m q hq => hq.2.settled) (hmember.wider (mt And.left))
      ((ih hps).wider (mt And.right))

theorem ne_nil_of_bind_eq_some {β : Type} {told : Option β} {tolds : Option (List β)} {bs : List β}
    (h : (told.bind fun b => tolds.map (b :: ·)) = some bs) : bs ≠ [] := by
  obtain ⟨b, -, h⟩ := Option.bind_eq_some_iff.1 h
  obtain ⟨cs, -, rfl⟩ := Option.map_eq_some_iff.1 h
  exact List.cons_ne_nil b cs

/-- Members in braces are the pattern of an object. -/
theorem portrays_object {ps : List (Property Node)} (hne : ps ≠ []) {qs : List String}
    (h : List.Forall₂ (PortraysMember indent (depth + 1)) ps qs) :
    Portrays indent depth (.object ps) ("\\\x7b" ++ (Spacing.at indent depth).afterOpen ++
      (Spacing.at indent depth).between.intercalate qs ++
        (Spacing.at indent depth).beforeClose ++ "\\\x7d") := by
  obtain ⟨hsound, hspells⟩ := (List.forall₂_and_left _ _).1 h
  refine ⟨forall_parts_object.2 ⟨trivial, hsound⟩, spells_object hne ?_⟩
  exact List.forall₂_map_right_iff.2 hspells.flip

theorem depicted_object {ps : List (Property Node)} (hdepth : 0 ≤ depth)
    (h : ∀ p ∈ ps, p.schema.Depicted indent (depth + 1)) :
    (Node.object ps).Depicted indent depth := by
  cases ps with
  | nil => exact depicted_leaf hdepth rfl (wellFormed_of_parts rfl trivial) rfl
  | cons p ps =>
    have hlaid : (Node.object (p :: ps)).LaidOut indent depth ↔
        HasLayout indent depth ∧ PropertiesLaidOut indent (depth + 1) (p :: ps) := by
      simp [LaidOut]
    refine depicted_of_layout hdepth rfl (hlaid.1 · |>.1) ?_
    have hpattern (spacing : Spacing) : (do
        let members ← propertyPatterns spacing.afterKey indent (depth + 1) (p :: ps)
        return "\\\x7b" ++ spacing.afterOpen ++ spacing.between.intercalate members ++
          spacing.beforeClose ++ "\\\x7d" : Except Failure String) =
        (propertyPatterns spacing.afterKey indent (depth + 1) (p :: ps)).map fun qs =>
          "\\\x7b" ++ spacing.afterOpen ++ spacing.between.intercalate qs ++
            spacing.beforeClose ++ "\\\x7d" := by
      cases propertyPatterns spacing.afterKey indent (depth + 1) (p :: ps) <;> rfl
    rw [described?, hpattern, Spacing.afterKey_at]
    refine ((judged_propertyPatterns h).wider fun hnone hall => hnone (hlaid.1 hall).2).and_told.map
      (fun ms qs hqs => ?_) fun qs hqs => ?_
    · rw [describedProperties?_cons] at hqs
      exact portrays_object (ne_nil_of_bind_eq_some hqs.1) hqs.2
    · have hbetween := (spells_spacing indent depth).2.1.settled
      have hopen : Settled "\\\x7b".toList := (spells_escapeLiteralChar '\x7b').settled
      have hbody := spoils_within indent depth (spoils_intercalate hbetween hqs.1 hqs.2)
      have hwhole := hopen.append_spoils (hbody.append "\\\x7d".toList)
      simpa using hwhole

/-- A union is spoiled by one of its members. -/
theorem Spoiled.unionPattern {ps : List String} (h : Spoiled ps) :
    Spoils (unionPattern ps).toList := by
  unfold Node.unionPattern
  split
  next p =>
    obtain ⟨q, hq, hspoils⟩ := h.2
    exact List.mem_singleton.1 hq ▸ hspoils
  next => exact spoils_alternatives h.1 h.2

theorem depicted_union {ns : List Node} (hne : ns ≠ []) (h : ∀ n ∈ ns, n.Depicted indent depth) :
    (Node.union ns).Depicted indent depth := by
  rw [Depicted, described?, patternAt_union, LaidOut]
  refine (judged_patterns h).and_told.map (fun ms ps hps => ?_) fun ps hps => hps.unionPattern
  obtain ⟨n, ns, rfl⟩ := List.exists_cons_of_ne_nil hne
  rw [describedMembers?] at hps
  have hms := ne_nil_of_bind_eq_some hps.1
  obtain ⟨hsound, hspells⟩ := (List.forall₂_and_left _ _).1 hps.2
  refine ⟨forall_parts_union.2 ⟨hms, hsound⟩, spells_unionPattern hms ?_⟩
  exact List.forall₂_map_right_iff.2 hspells.flip

/-- A schema is described by its pattern, or it has none that is read. -/
theorem depicted {n : Node} {note : Value → Prop} (h : n.Built Value.Fits note) (hn : n.Unbraced)
    (hdepth : 0 ≤ depth) : n.Depicted indent depth := by
  induction n using induct generalizing depth with
  | boolean | integer | number | null =>
    exact depicted_leaf hdepth rfl (wellFormed_of_parts rfl trivial) rfl
  | text least most =>
    obtain ⟨-, hleast, hmost⟩ := h _ (mem_parts_self _)
    obtain ⟨hleast', hmost'⟩ := hn _ (mem_parts_self _) least most rfl
    exact depicted_text hleast hmost hleast' hmost'
  | choice choices =>
    have hne : choices ≠ [] := (ofChoices_eq_ok_iff.1 (h _ (mem_parts_self _)).1).1
    exact depicted_leaf hdepth rfl (wellFormed_of_parts rfl hne) rfl
  | object ps ih =>
    have hparts := (forall_parts_object.1 h).2
    have hbraces := (forall_parts_object.1 hn).2
    exact depicted_object hdepth fun p hp => ih p hp (hparts p hp) (hbraces p hp) (by omega)
  | array items least most ih =>
    obtain ⟨⟨-, hleast, hmost⟩, hparts⟩ := forall_parts_array.1 h
    have hbraces := (forall_parts_array.1 hn).2
    exact depicted_array hdepth hleast hmost (ih hparts hbraces (by omega))
  | union ns ih =>
    obtain ⟨⟨hmade, -⟩, hparts⟩ := forall_parts_union.1 h
    have hbraces := (forall_parts_union.1 hn).2
    have hne : ns ≠ [] := (ofMembers_eq_ok_iff.1 hmade).1
    exact depicted_union hne fun n hmem => ih n hmem (hparts n hmem) (hbraces n hmem) hdepth

end Patterns

/-! ## Schemas in order -/

section InOrder

/-- Whether two schemas admit the same trees. -/
def SameTrees (m n : Node) : Prop := ∀ t, m.Admits spelling t ↔ n.Admits spelling t

theorem SameTrees.texts_eq {m n : Node} (h : m.SameTrees n) (indent : Option Int) (depth : Int) :
    m.texts indent depth = n.texts indent depth :=
  Set.ext fun _ => exists_congr fun t => and_congr_left' (h t)

theorem between_span {s : Span} {least most : Value} (hleast : s.least = lowest least)
    (hmost : s.most = highest most) (count : Nat) :
    Between (.int s.least) s.upper count ↔ Between least most count := by
  have hlowest : lowest (.int s.least) = s.least := Int.toNat_natCast _
  rw [Between, Between, hlowest, highest_upper, hleast, hmost]

theorem exists_describedMembers {ns : List Node}
    (h : ∀ n ∈ ns, ∃ m, n.described? = some m ∧ m.SameTrees n) :
    ∃ ms, describedMembers? ns = some ms ∧
      ∀ t, AdmitsSome spelling ms t ↔ AdmitsSome spelling ns t := by
  induction ns with
  | nil => exact ⟨[], rfl, fun _ => Iff.rfl⟩
  | cons n ns ih =>
    obtain ⟨⟨m, hm, hsame⟩, hns⟩ := List.forall_mem_cons.1 h
    obtain ⟨ms, hms, hall⟩ := ih hns
    exact ⟨m :: ms, by rw [describedMembers?, hm, hms]; rfl, fun t => or_congr (hsame t) (hall t)⟩

theorem exists_describedProperties {ps : List (Property Node)}
    (h : ∀ p ∈ ps, ∃ m, p.schema.described? = some m ∧ m.SameTrees p.schema) :
    ∃ qs, describedProperties? ps = some qs ∧
      ∀ ts, AdmitsMembers spelling qs ts ↔ AdmitsMembers spelling ps ts := by
  induction ps with
  | nil => exact ⟨[], rfl, fun _ => Iff.rfl⟩
  | cons p ps ih =>
    obtain ⟨⟨m, hm, hsame⟩, hps⟩ := List.forall_mem_cons.1 h
    obtain ⟨qs, hqs, hall⟩ := ih hps
    refine ⟨⟨p.name, m, p.description⟩ :: qs, by rw [describedProperties?, hm, hqs]; rfl, ?_⟩
    intro ts
    cases ts with
    | nil => exact Iff.rfl
    | cons t ts => exact and_congr_right' (and_congr (hsame t.2) (hall ts))

/-- An array with the bounds that those in order are read as admits the same rows. -/
theorem sameTrees_array {m items : Node} (hsame : m.SameTrees items) {s : Span}
    {least most : Value} (hleast : s.least = lowest least) (hmost : s.most = highest most) :
    (Node.array m (.int s.least) s.upper).SameTrees (.array items least most) := by
  intro t
  cases t with
  | array ts =>
    exact and_congr (between_span hleast hmost _) (forall₂_congr fun t _ => hsame t)
  | _ => exact Iff.rfl

/-- There is no room for items, whatever the items are. -/
theorem sameTrees_array_nil {items : Node} {least most : Value} (h : Ordered least most)
    (hzero : highest most = some 0) :
    (Node.array .null (.int 0) (.int 0)).SameTrees (.array items least most) := by
  have hlow : lowest least = 0 := Nat.le_zero.1 (h.le 0 hzero)
  have hempty {n : Node} {least most : Value} (hlow : lowest least = 0)
      (hzero : highest most = some 0) {ts : List Json.Tree} :
      (Node.array n least most).Admits spelling (.array ts) ↔ ts = [] := by
    rw [Admits, Between, hlow, hzero]
    constructor
    · rintro ⟨⟨-, hle⟩, -⟩
      exact List.eq_nil_of_length_eq_zero (Nat.le_zero.1 (hle 0 rfl))
    · rintro rfl
      exact ⟨⟨le_rfl, fun _ _ => Nat.zero_le _⟩, List.forall_mem_nil _⟩
  intro t
  cases t with
  | array ts => exact (hempty rfl rfl).trans (hempty hlow hzero).symm
  | _ => exact Iff.rfl

/-- A schema whose bounds are in order is described by its pattern as what it is. -/
theorem exists_described {n : Node} (h : n.WellFormed) :
    ∃ m, n.described? = some m ∧ m.SameTrees n := by
  induction n using induct with
  | boolean | integer | number | null | choice => exact ⟨_, rfl, fun _ => Iff.rfl⟩
  | text least most =>
    have hspan := lengthSpan?_of_ordered (h _ (mem_parts_self _))
    refine ⟨_, congrArg (Option.map _) hspan, fun t => ?_⟩
    cases t with
    | string body => exact exists_congr fun parts => and_congr_left' (between_span rfl rfl _)
    | _ => exact Iff.rfl
  | object ps ih =>
    have hparts := (forall_parts_object.1 h).2
    obtain ⟨qs, hqs, hall⟩ := exists_describedProperties fun p hp => ih p hp (hparts p hp)
    refine ⟨.object qs, by rw [described?, hqs]; rfl, fun t => ?_⟩
    cases t with
    | object ts => exact hall ts
    | _ => exact Iff.rfl
  | array items least most ih =>
    obtain ⟨hordered, hitems⟩ := forall_parts_array.1 h
    by_cases hzero : most.isNumber 0 = true
    · refine ⟨_, if_pos hzero, sameTrees_array_nil hordered ?_⟩
      exact (hordered.upper.isNumber_iff 0).1 hzero
    · have hne : highest most ≠ some 0 := fun heq => hzero ((hordered.upper.isNumber_iff 0).2 heq)
      obtain ⟨m, hm, hsame⟩ := ih hitems
      obtain ⟨s, hs, hleast, hmost⟩ := itemSpan?_of_ordered hordered hne
      refine ⟨_, ?_, sameTrees_array hsame hleast hmost⟩
      rw [described?, if_neg hzero, hm, hs]
      rfl
  | union ns ih =>
    have hparts := (forall_parts_union.1 h).2
    obtain ⟨ms, hms, hall⟩ := exists_describedMembers fun n hn => ih n hn (hparts n hn)
    refine ⟨.union ms, by rw [described?, hms]; rfl, fun t => ?_⟩
    rw [Admits, Admits]
    exact hall t

end InOrder

/-! ## Whole numbers -/

section Whole

/-- Whether the bounds that stand in a schema itself are missing or whole numbers. Of items the
lower one is not below zero, and the upper one is not zero: where there is no room for an item,
nothing is read of the items. -/
def Whole : Node → Prop
  | .text least most => IsWhole least ∧ IsWhole most
  | .array _ least most => IsBound least ∧ IsWhole most ∧ most ≠ .int 0
  | _ => True

theorem exists_described_of_members {ns ms : List Node} (h : describedMembers? ns = some ms) :
    ∀ n ∈ ns, ∃ m, n.described? = some m := by
  induction ns generalizing ms with
  | nil => simp
  | cons n ns ih =>
    rw [describedMembers?] at h
    obtain ⟨m, hm, h⟩ := Option.bind_eq_some_iff.1 h
    obtain ⟨_, hns, -⟩ := Option.map_eq_some_iff.1 h
    exact List.forall_mem_cons.2 ⟨⟨m, hm⟩, ih hns⟩

theorem exists_described_of_properties {ps ms : List (Property Node)}
    (h : describedProperties? ps = some ms) : ∀ p ∈ ps, ∃ m, p.schema.described? = some m := by
  induction ps generalizing ms with
  | nil => simp
  | cons p ps ih =>
    rw [describedProperties?] at h
    obtain ⟨m, hm, h⟩ := Option.bind_eq_some_iff.1 h
    obtain ⟨_, hps, -⟩ := Option.map_eq_some_iff.1 h
    exact List.forall_mem_cons.2 ⟨⟨m, hm⟩, ih hps⟩

/-- Whole numbers are described only if they are counts, and in order. -/
theorem wellFormed_of_described {n m : Node} {bound note : Value → Prop} (h : n.Built bound note)
    (hwhole : ∀ k ∈ n.parts, k.Whole) (hm : n.described? = some m) : n.WellFormed := by
  induction n using induct generalizing m with
  | boolean | integer | number | null => exact wellFormed_of_parts rfl trivial
  | text least most =>
    obtain ⟨hleast, hmost⟩ := hwhole _ (mem_parts_self _)
    obtain ⟨s, hs, -⟩ := Option.map_eq_some_iff.1 hm
    exact wellFormed_of_parts rfl (ordered_of_lengthSpan? hleast hmost hs)
  | choice choices =>
    exact wellFormed_of_parts rfl (ofChoices_eq_ok_iff.1 (h _ (mem_parts_self _)).1).1
  | object ps ih =>
    have hparts := (forall_parts_object.1 h).2
    have hwholes := (forall_parts_object.1 hwhole).2
    obtain ⟨ms, hms, -⟩ := Option.map_eq_some_iff.1 hm
    refine forall_parts_object.2 ⟨trivial, fun p hp => ?_⟩
    obtain ⟨k, hk⟩ := exists_described_of_properties hms p hp
    exact ih p hp (hparts p hp) (hwholes p hp) hk
  | array items least most ih =>
    obtain ⟨⟨hmade, -⟩, hparts⟩ := forall_parts_array.1 h
    obtain ⟨⟨hleast, hmost, hzero⟩, hwholes⟩ := forall_parts_array.1 hwhole
    -- There is room for an item, so the items are read.
    have hroom : most.isNumber 0 ≠ true := by
      rcases hmost with rfl | ⟨b, rfl⟩
      · exact nofun
      · intro hnumber
        rw [Value.isNumber_int] at hnumber
        exact hzero (congrArg Value.int (of_decide_eq_true hnumber))
    rw [described?, if_neg hroom] at hm
    obtain ⟨k, hk, hm⟩ := Option.bind_eq_some_iff.1 hm
    obtain ⟨s, hs, -⟩ := Option.map_eq_some_iff.1 hm
    exact forall_parts_array.2 ⟨ordered_of_itemSpan? hleast hmost hmade hs, ih hparts hwholes hk⟩
  | union ns ih =>
    obtain ⟨⟨hmade, -⟩, hparts⟩ := forall_parts_union.1 h
    have hwholes := (forall_parts_union.1 hwhole).2
    obtain ⟨ms, hms, -⟩ := Option.map_eq_some_iff.1 hm
    refine forall_parts_union.2 ⟨(ofMembers_eq_ok_iff.1 hmade).1, fun n hn => ?_⟩
    obtain ⟨k, hk⟩ := exists_described_of_members hms n hn
    exact ih n hn (hparts n hn) (hwholes n hn) hk

end Whole

end Node

end Schema

end GuidedJson
