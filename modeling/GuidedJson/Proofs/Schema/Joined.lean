import GuidedJson.Proofs.Schema.Conformance
import GuidedJson.Schema.Parser
import GuidedJson.Schema.PatternText

/-!
# Joined schemas

A union of one member says what its member says. A schema in which such unions are joined with
their members has the same pattern, and it is the schema itself where there are none.
-/

namespace GuidedJson.Schema.Node

/-! ## Induction -/

/-- What holds of a schema where it holds of the schemas that the schema is made of holds of all
schemas. -/
@[elab_as_elim]
theorem induct {P : Node → Prop} (boolean : P .boolean) (integer : P .integer)
    (number : P .number) (null : P .null) (text : ∀ least most, P (.text least most))
    (choice : ∀ choices, P (.choice choices))
    (object : ∀ properties : List (Property Node), (∀ p ∈ properties, P p.schema) →
      P (.object properties))
    (array : ∀ (items : Node) (least most : Value), P items → P (.array items least most))
    (union : ∀ members : List Node, (∀ m ∈ members, P m) → P (.union members)) (n : Node) :
    P n := by
  cases n with
  | boolean => exact boolean
  | integer => exact integer
  | number => exact number
  | null => exact null
  | text least most => exact text least most
  | choice choices => exact choice choices
  | object properties =>
    refine object properties fun ⟨name, schema, description⟩ hp => ?_
    have hsize := List.sizeOf_lt_of_mem hp
    exact induct boolean integer number null text choice object array union schema
  | array items least most =>
    exact array items least most
      (induct boolean integer number null text choice object array union items)
  | union members =>
    refine union members fun m hm => ?_
    have hsize := List.sizeOf_lt_of_mem hm
    exact induct boolean integer number null text choice object array union m
termination_by sizeOf n
decreasing_by all_goals (simp at *; omega)

/-! ## Schemas inside a schema -/

theorem mem_partsOfMembers {ns : List Node} {k : Node} :
    k ∈ partsOfMembers ns ↔ ∃ n ∈ ns, k ∈ n.parts := by
  induction ns with
  | nil => simp [partsOfMembers]
  | cons n ns ih => simp [partsOfMembers, ih]

theorem mem_partsOfProperties {ps : List (Property Node)} {k : Node} :
    k ∈ partsOfProperties ps ↔ ∃ p ∈ ps, k ∈ p.schema.parts := by
  induction ps with
  | nil => simp [partsOfProperties]
  | cons p ps ih => simp [partsOfProperties, ih]

theorem mem_parts_self (n : Node) : n ∈ n.parts := by
  cases n <;> simp [parts]

section Parts

variable {P : Node → Prop}

/-- What holds of the schemas inside an object. -/
theorem forall_parts_object {ps : List (Property Node)} : (∀ k ∈ (object ps).parts, P k) ↔
    P (.object ps) ∧ ∀ p ∈ ps, ∀ k ∈ p.schema.parts, P k := by
  simp only [parts, List.forall_mem_cons, mem_partsOfProperties]
  exact and_congr_right fun _ => ⟨fun h p hp k hk => h k ⟨p, hp, hk⟩,
    fun h k ⟨p, hp, hk⟩ => h p hp k hk⟩

theorem forall_parts_array {items : Node} {least most : Value} :
    (∀ k ∈ (array items least most).parts, P k) ↔
      P (.array items least most) ∧ ∀ k ∈ items.parts, P k := by
  simp only [parts, List.forall_mem_cons]

/-- What holds of the schemas inside a union. -/
theorem forall_parts_union {ns : List Node} : (∀ k ∈ (union ns).parts, P k) ↔
    P (.union ns) ∧ ∀ n ∈ ns, ∀ k ∈ n.parts, P k := by
  simp only [parts, List.forall_mem_cons, mem_partsOfMembers]
  exact and_congr_right fun _ => ⟨fun h n hn k hk => h k ⟨n, hn, hk⟩,
    fun h k ⟨n, hn, hk⟩ => h n hn k hk⟩

end Parts

/-! ## Settled schemas -/

mutual
/-- A schema in which unions of one member are joined with it, with other bounds and
descriptions. -/
def settle (f : Value → Value) : Node → Node
  | .text least most => .text (f least) (f most)
  | .object properties => .object (settleProperties f properties)
  | .array items least most => .array (items.settle f) (f least) (f most)
  | .union members => joinMembers (settleMembers f members)
  | n => n

def settleMembers (f : Value → Value) : List Node → List Node
  | [] => []
  | n :: ns => n.settle f :: settleMembers f ns

def settleProperties (f : Value → Value) : List (Property Node) → List (Property Node)
  | [] => []
  | ⟨name, schema, description⟩ :: ps =>
    ⟨name, schema.settle f, f description⟩ :: settleProperties f ps
end

/-- A schema in which unions of one member are joined with it. -/
def joined (n : Node) : Node := n.settle id

/-- A property with another schema, and another description. -/
def settleProperty (f : Value → Value) (p : Property Node) : Property Node :=
  ⟨p.name, p.schema.settle f, f p.description⟩

theorem settleMembers_eq_map (f : Value → Value) (ns : List Node) :
    settleMembers f ns = ns.map (settle f) := by
  induction ns with
  | nil => rfl
  | cons n ns ih => rw [settleMembers, ih, List.map_cons]

theorem settleProperties_eq_map (f : Value → Value) (ps : List (Property Node)) :
    settleProperties f ps = ps.map (settleProperty f) := by
  induction ps with
  | nil => rfl
  | cons p ps ih =>
    rw [settleProperties, ih]
    rfl

theorem joinMembers_of_ne {ns : List Node} (h : ∀ n, ns ≠ [n]) : joinMembers ns = .union ns := by
  rw [joinMembers]
  exact h

/-- A schema in which no union has exactly one member. -/
def Branching (n : Node) : Prop := ∀ k ∈ n.parts, ∀ m, k ≠ .union [m]

/-- Where no union has exactly one member, there is nothing to join. -/
theorem joined_eq_self {n : Node} (h : n.Branching) : n.joined = n := by
  unfold joined
  induction n using induct with
  | boolean | integer | number | null | text | choice => rfl
  | object ps ih =>
    have hparts := (forall_parts_object.1 h).2
    have hps : ps.map (settleProperty id) = ps.map id := List.map_congr_left fun p hp => by
      rw [settleProperty, ih p hp (hparts p hp)]
      rfl
    rw [settle, settleProperties_eq_map, hps, List.map_id]
  | array items least most ih =>
    rw [settle, ih (forall_parts_array.1 h).2]
    rfl
  | union ns ih =>
    obtain ⟨hns, hparts⟩ := forall_parts_union.1 h
    have hmap : ns.map (settle id) = ns.map id :=
      List.map_congr_left fun n hn => ih n hn (hparts n hn)
    rw [settle, settleMembers_eq_map, hmap, List.map_id]
    exact joinMembers_of_ne fun n heq => hns n (heq ▸ rfl)

/-! ## Bounds in order -/

theorem wellFormed_joinMembers {ns : List Node} (hne : ns ≠ []) (h : ∀ n ∈ ns, n.WellFormed) :
    (joinMembers ns).WellFormed := by
  unfold joinMembers
  split
  next n => exact h n (List.mem_singleton_self n)
  next => exact forall_parts_union.2 ⟨hne, h⟩

/-- Settling keeps bounds in order where it keeps the bounds. -/
theorem WellFormed.settle {f : Value → Value} (hf : ∀ v, IsBound v → f v = v) {n : Node}
    (h : n.WellFormed) : (n.settle f).WellFormed := by
  induction n using induct with
  | boolean | integer | number | null | choice => exact h
  | text least most =>
    have hbounds : Ordered least most := h _ (mem_parts_self _)
    rw [Node.settle, hf _ hbounds.lower, hf _ hbounds.upper]
    exact h
  | object ps ih =>
    have hparts := (forall_parts_object.1 h).2
    rw [Node.settle, settleProperties_eq_map]
    refine forall_parts_object.2 ⟨trivial, ?_⟩
    rw [List.forall_mem_map]
    exact fun p hp => ih p hp (hparts p hp)
  | array items least most ih =>
    obtain ⟨hbounds, hitems⟩ := forall_parts_array.1 h
    have hordered : Ordered least most := hbounds
    rw [Node.settle, hf _ hordered.lower, hf _ hordered.upper]
    exact forall_parts_array.2 ⟨hbounds, ih hitems⟩
  | union ns ih =>
    obtain ⟨hne, hparts⟩ := forall_parts_union.1 h
    have hmembers : ns ≠ [] := hne
    rw [Node.settle, settleMembers_eq_map]
    refine wellFormed_joinMembers (by simpa using hmembers) ?_
    rw [List.forall_mem_map]
    exact fun n hn => ih n hn (hparts n hn)

/-! ## Built schemas -/

/-- What is asked of the bounds and the descriptions that stand in a schema itself. -/
def Carries (bound note : Value → Prop) : Node → Prop
  | .text least most => bound least ∧ bound most
  | .object properties => ∀ p ∈ properties, note p.description
  | .array _ least most => bound least ∧ bound most
  | _ => True

/-- Whether a schema is what its constructor makes of its parts. -/
def Made : Node → Prop
  | .choice choices => ofChoices choices = .ok (.choice choices)
  | .object properties => ofProperties properties = .ok (.object properties)
  | .array items least most => ofItems items least most = .ok (.ok (.array items least most))
  | .union members => ofMembers members = .ok (.union members)
  | _ => True

theorem ofProperties_eq_ok_iff {ps : List (Property Node)} {n : Node} :
    ofProperties ps = .ok n ↔ (ps.map (·.name)).Nodup ∧ n = .object ps := by
  unfold ofProperties
  by_cases hnames : (ps.map (·.name)).Nodup
  · simpa [hnames] using eq_comm
  · simp [hnames]

/-- Whether a schema is built by the constructors, from bounds and descriptions of some kinds. -/
def Built (bound note : Value → Prop) (n : Node) : Prop :=
  ∀ k ∈ n.parts, k.Made ∧ k.Carries bound note

section Weaker

variable {n : Node} {bound bound' note note' : Value → Prop}

theorem Carries.mono (h : n.Carries bound note) (hbound : ∀ v, bound v → bound' v)
    (hnote : ∀ v, note v → note' v) : n.Carries bound' note' := by
  cases n with
  | text | array => exact ⟨hbound _ h.1, hbound _ h.2⟩
  | object ps => exact fun p hp => hnote _ (h p hp)
  | _ => trivial

theorem Built.mono (h : n.Built bound note) (hbound : ∀ v, bound v → bound' v)
    (hnote : ∀ v, note v → note' v) : n.Built bound' note' :=
  fun k hk => (h k hk).imp_right fun hcarried => hcarried.mono hbound hnote

end Weaker

/-- Only what stands in a schema counts for what it is settled to. -/
theorem settle_congr {n : Node} {bound note : Value → Prop} {f g : Value → Value}
    (h : n.Built bound note) (hbound : ∀ v, bound v → f v = g v)
    (hnote : ∀ v, note v → f v = g v) : n.settle f = n.settle g := by
  induction n using induct with
  | boolean | integer | number | null | choice => rfl
  | text least most =>
    obtain ⟨-, hleast, hmost⟩ := h _ (mem_parts_self _)
    rw [settle, settle, hbound _ hleast, hbound _ hmost]
  | object ps ih =>
    obtain ⟨⟨-, hps⟩, hparts⟩ := forall_parts_object.1 h
    have hmap : ps.map (settleProperty f) = ps.map (settleProperty g) :=
      List.map_congr_left fun p hp => by
        rw [settleProperty, settleProperty, ih p hp (hparts p hp), hnote _ (hps p hp)]
    rw [settle, settle, settleProperties_eq_map, settleProperties_eq_map, hmap]
  | array items least most ih =>
    obtain ⟨⟨-, hleast, hmost⟩, hparts⟩ := forall_parts_array.1 h
    rw [settle, settle, ih hparts, hbound _ hleast, hbound _ hmost]
  | union ns ih =>
    have hparts := (forall_parts_union.1 h).2
    have hmap : ns.map (settle f) = ns.map (settle g) :=
      List.map_congr_left fun n hn => ih n hn (hparts n hn)
    rw [settle, settle, settleMembers_eq_map, settleMembers_eq_map, hmap]

/-! ## Patterns -/

section Patterns

variable {indent : Option Int} {depth : Int}

/-- The pattern of a union, given those of its members: a single one stands without parentheses. -/
def unionPattern : List String → String
  | [p] => p
  | ps => alternatives ps

theorem patternAt_union (ns : List Node) (indent : Option Int) (depth : Int) :
    (union ns).patternAt indent depth = (patterns indent depth ns).map unionPattern := by
  rw [patternAt]
  cases patterns indent depth ns with
  | error e => rfl
  | ok ps => rcases ps with _ | ⟨_, _ | _⟩ <;> rfl

/-- The pattern of a union of one member is that of the member. -/
theorem patternAt_joinMembers (ns : List Node) (indent : Option Int) (depth : Int) :
    (joinMembers ns).patternAt indent depth = (union ns).patternAt indent depth := by
  unfold joinMembers
  split
  next n =>
    rw [patternAt_union, patterns, patterns]
    cases n.patternAt indent depth <;> rfl
  next => rfl

theorem patterns_map {f : Node → Node} {ns : List Node}
    (h : ∀ n ∈ ns, (f n).patternAt indent depth = n.patternAt indent depth) :
    patterns indent depth (ns.map f) = patterns indent depth ns := by
  induction ns with
  | nil => rfl
  | cons n ns ih =>
    rw [List.forall_mem_cons] at h
    rw [List.map_cons, patterns, patterns, h.1, ih h.2]

theorem propertyPatterns_map {f : Value → Value} {ps : List (Property Node)}
    (h : ∀ p ∈ ps, (p.schema.settle f).patternAt indent depth = p.schema.patternAt indent depth)
    (afterKey : String) : propertyPatterns afterKey indent depth (ps.map (settleProperty f)) =
      propertyPatterns afterKey indent depth ps := by
  induction ps with
  | nil => rfl
  | cons p ps ih =>
    rw [List.forall_mem_cons] at h
    rw [List.map_cons, settleProperty, propertyPatterns, propertyPatterns, h.1, ih h.2]

/-- Settling changes no pattern where it keeps the bounds: descriptions are not part of it. -/
theorem patternAt_settle {f : Value → Value} {n : Node}
    (h : ∀ k ∈ n.parts, k.Carries (fun v => f v = v) fun _ => True) (indent : Option Int) :
    ∀ depth, (n.settle f).patternAt indent depth = n.patternAt indent depth := by
  induction n using induct with
  | boolean | integer | number | null | choice => exact fun _ => rfl
  | text least most =>
    obtain ⟨hleast, hmost⟩ := h _ (mem_parts_self _)
    intro depth
    rw [settle, hleast, hmost]
  | object ps ih =>
    intro depth
    have hparts := (forall_parts_object.1 h).2
    have hps := propertyPatterns_map fun p hp => ih p hp (hparts p hp) (depth + 1)
    simp only [settle, settleProperties_eq_map, patternAt, hps, List.isEmpty_map]
  | array items least most ih =>
    intro depth
    obtain ⟨⟨hleast, hmost⟩, hitems⟩ := forall_parts_array.1 h
    rw [settle, patternAt, patternAt, hleast, hmost, ih hitems]
  | union ns ih =>
    intro depth
    have hparts := (forall_parts_union.1 h).2
    have hns := patterns_map fun n hn => ih n hn (hparts n hn) depth
    rw [settle, settleMembers_eq_map, patternAt_joinMembers, patternAt, patternAt, hns]

theorem patternAt_joined (n : Node) (indent : Option Int) (depth : Int) :
    n.joined.patternAt indent depth = n.patternAt indent depth := by
  refine patternAt_settle (fun k _ => ?_) indent depth
  cases k with
  | text | array => exact ⟨rfl, rfl⟩
  | object => exact fun _ _ => trivial
  | _ => trivial

/-- Joining changes no pattern. -/
theorem pattern_joined (n : Node) (indent : Option Int) :
    n.joined.pattern indent = n.pattern indent := by
  rw [pattern, pattern, patternAt_joined]

end Patterns

end GuidedJson.Schema.Node
