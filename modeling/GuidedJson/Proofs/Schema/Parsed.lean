import GuidedJson.Proofs.Results
import GuidedJson.Proofs.Schema.Restored

/-!
# What a document is read as

A schema that is read from a document is built by the constructors from bounds and descriptions that
stand in the document. No union in it has exactly one member.
-/

namespace GuidedJson.Schema

open Value (lookup field)

/-- What holds of the parts of a document where it holds of the document. An object must not have a
key twice. -/
structure Inward (P : Value → Prop) : Prop where
  null : P .null
  array {vs : List Value} : P (.array vs) → ∀ v ∈ vs, P v
  object {ms : List (String × Value)} : P (.object ms) →
    (ms.map Prod.fst).Nodup ∧ ∀ m ∈ ms, P m.2

theorem inward_proper : Inward Value.Proper where
  null := trivial
  array := Value.proper_array.1
  object := Value.proper_object.1

theorem inward_readable : Inward Value.Readable where
  null := Value.readable_null
  array := Value.readable_array.1
  object := Value.readable_object.1

variable {P : Value → Prop}

namespace Node

/-- Whether a schema is as schemas are read: built by the constructors from what stands in a
document, without unions of one member. -/
def Parsed (P : Value → Prop) (n : Node) : Prop := n.Built P P ∧ n.Branching

theorem parsed_iff {n : Node} : n.Parsed P ↔
    ∀ k ∈ n.parts, (k.Made ∧ k.Carries P P) ∧ ∀ m, k ≠ .union [m] :=
  forall₂_and.symm

/-- A schema without schemas inside it is as it is by itself. -/
theorem parsed_of_parts {n : Node} (hparts : n.parts = [n]) (hmade : n.Made)
    (hcarried : n.Carries P P) (hunion : ∀ m, n ≠ .union [m]) : n.Parsed P := by
  rw [parsed_iff, hparts, List.forall_mem_singleton]
  exact ⟨⟨hmade, hcarried⟩, hunion⟩

theorem parsed_object {ps : List (Property Node)} (hnames : (ps.map (·.name)).Nodup)
    (hdescriptions : ∀ p ∈ ps, P p.description) (hps : ∀ p ∈ ps, p.schema.Parsed P) :
    (object ps).Parsed P := by
  rw [parsed_iff, forall_parts_object]
  exact ⟨⟨⟨ofProperties_eq_ok_iff.2 ⟨hnames, rfl⟩, hdescriptions⟩, nofun⟩,
    fun p hp => parsed_iff.1 (hps p hp)⟩

theorem parsed_array {items n : Node} {least most : Value} (hitems : items.Parsed P)
    (hleast : P least) (hmost : P most)
    (h : ofItems items least most = .ok (.ok n)) : n.Parsed P := by
  have hn : n = .array items least most := by
    unfold ofItems at h
    obtain ⟨fault, -, hfault⟩ := exceptMap_eq_ok.1 h
    cases fault with
    | none => exact (Except.ok.inj hfault).symm
    | some fault => cases hfault
  subst hn
  rw [parsed_iff, forall_parts_array]
  exact ⟨⟨⟨h, hleast, hmost⟩, nofun⟩, parsed_iff.1 hitems⟩

/-- Members that are joined are a schema as schemas are read. -/
theorem parsed_joinMembers {ns : List Node} (hne : ns ≠ []) (hns : ∀ n ∈ ns, n.Parsed P) :
    (joinMembers ns).Parsed P := by
  by_cases hone : ∃ n, ns = [n]
  · obtain ⟨n, rfl⟩ := hone
    exact hns n (List.mem_singleton_self n)
  · rw [not_exists] at hone
    rw [joinMembers_of_ne hone, parsed_iff, forall_parts_union]
    refine ⟨⟨⟨ofMembers_eq_ok_iff.2 ⟨hne, rfl⟩, trivial⟩, fun m hm => ?_⟩,
      fun n hn => parsed_iff.1 (hns n hn)⟩
    exact hone m (union.inj hm)

end Node

/-! ## Parts of a document -/

section Parts

variable (hP : Inward P) {ms : List (String × Value)} {path : String} {n : Node}
include hP

theorem field_of_object (h : P (.object ms)) (key : String) : P (field key ms) := by
  rw [field]
  cases hlookup : lookup key ms with
  | none => exact hP.null
  | some v => exact (hP.object h).2 _ (Value.mem_of_lookup hlookup)

theorem parsed_of_parseText (h : P (.object ms)) (hn : (parseText path ms).result = .ok n) :
    n.Parsed P := by
  unfold parseText at hn
  dsimp only at hn
  split at hn
  · cases hn
    exact Node.parsed_of_parts rfl trivial ⟨field_of_object hP h _, field_of_object hP h _⟩ nofun
  · split at hn
    · cases hn
    · split at hn
      · cases hn
      next texts htexts =>
        cases hchoices : Node.ofChoices texts with
        | error fault =>
          rw [hchoices] at hn
          cases hn
        | ok m =>
          rw [hchoices] at hn
          obtain rfl : m = n := Except.ok.inj hn
          obtain ⟨-, -, rfl⟩ := Node.ofChoices_eq_ok_iff.1 hchoices
          exact Node.parsed_of_parts rfl hchoices trivial nofun

end Parts

/-! ## Types -/

section Types

variable {named : String → String → Logged Node} {implied : Option String}

theorem parsed_of_parseTypedMembers {types : List Value}
    (h : ∀ t ∈ types, ∀ path n, (parseTyped named implied path t).result = .ok n → n.Parsed P)
    {path : String} {i : Nat} {ns : List Node}
    (hns : (parseTypedMembers named implied path i types).result = .ok ns) :
    ns.length = types.length ∧ ∀ n ∈ ns, n.Parsed P := by
  induction types generalizing i ns with
  | nil =>
    cases hns
    simp
  | cons t types ih =>
    rw [List.forall_mem_cons] at h
    rw [parseTypedMembers] at hns
    obtain ⟨n, hn, hns⟩ := Logged.result_bind_eq_ok.1 hns
    obtain ⟨ns', hns', hns⟩ := Logged.result_bind_eq_ok.1 hns
    cases hns
    obtain ⟨hlength, hparsed⟩ := ih h.2 hns'
    exact ⟨by rw [List.length_cons, List.length_cons, hlength],
      List.forall_mem_cons.2 ⟨h.1 _ _ hn, hparsed⟩⟩

/-- What is read of a type, where what is read of a named type is as schemas are read. -/
theorem parsed_of_parseTyped (hnamed : ∀ path name n, (named path name).result = .ok n → n.Parsed P)
    (v : Value) : ∀ path n, (parseTyped named implied path v).result = .ok n → n.Parsed P := by
  induction v using Value.induct with
  | scalar v harray hobject =>
    intro path n hn
    unfold parseTyped at hn
    split at hn
    · split at hn
      · exact hnamed _ _ _ hn
      · cases hn
    · exact absurd rfl (harray _)
    · exact hnamed _ _ _ hn
    · cases hn
  | array types ih =>
    intro path n hn
    rw [parseTyped] at hn
    split at hn
    · cases hn
    next hne =>
      obtain ⟨ns, hns, heq⟩ := Logged.result_bind_eq_ok.1 hn
      cases heq
      obtain ⟨hlength, hparsed⟩ := parsed_of_parseTypedMembers ih hns
      refine Node.parsed_joinMembers ?_ hparsed
      rintro rfl
      exact hne (by simpa using hlength.symm)
  | object ms ih =>
    intro path n hn
    cases hn

end Types

/-! ## Named types -/

section Named

variable (hP : Inward P) {ms : List (String × Value)} {path name : String} {n : Node}
include hP

/-- What is read of a named type, where the schemas inside it are as schemas are read. -/
theorem parsed_of_parseNamed (h : P (.object ms))
    (hitems : ∀ path x n, parseItemsAt path ms = some x → x.result = .ok n → n.Parsed P)
    (hproperties : ∀ path ps qs, lookup "properties" ms = some (.object ps) →
      (parseProperties path ps).result = .ok qs → (Node.object qs).Parsed P)
    (hn : (parseNamed ms (fun path => parseItemsAt path ms) (fun path => parsePropertiesAt path ms)
      path name).result = .ok n) : n.Parsed P := by
  have hempty : (Node.object []).Parsed P := Node.parsed_object (by simp) (by simp) (by simp)
  unfold parseNamed at hn
  split at hn
  · split at hn
    next ps hps =>
      obtain ⟨-, -, hn⟩ := Logged.result_bind_eq_ok.1 hn
      obtain ⟨qs, hqs, heq⟩ := Logged.result_bind_eq_ok.1 hn
      cases heq
      dsimp only at hqs
      rw [parsePropertiesAt_eq, hps] at hqs
      exact hproperties path ps qs hps hqs
    · obtain ⟨-, -, hn⟩ := Logged.result_bind_eq_ok.1 hn
      cases hn
      exact hempty
    · cases hn
  · split at hn
    · cases hn
    next read hread =>
      obtain ⟨items, hitems', hn⟩ := Logged.result_bind_eq_ok.1 hn
      have hparsed := hitems _ _ _ hread hitems'
      split at hn
      · cases hn
      next r hr =>
        cases r with
        | error fault => cases hn
        | ok m =>
          obtain rfl : m = n := Except.ok.inj hn
          exact Node.parsed_array hparsed (field_of_object hP h _) (field_of_object hP h _) hr
  · exact parsed_of_parseText hP h hn
  all_goals first
    | (cases hn; exact Node.parsed_of_parts rfl trivial trivial nofun)
    | cases hn

end Named

/-! ## Documents -/

/-- Whether what is read of a document is as schemas are read. -/
def ReadsParsed (P : Value → Prop) (v : Value) : Prop :=
  ∀ path n, P v → (parseNode path v).result = .ok n → n.Parsed P

section Documents

variable {ms : List (String × Value)} {vs : List Value} {path : String}

theorem parsed_of_parseMembers (h : ∀ v ∈ vs, P v ∧ ReadsParsed P v) {i : Nat}
    {ns : List Node} (hns : (parseMembers path i vs).result = .ok ns) :
    ns.length = vs.length ∧ ∀ n ∈ ns, n.Parsed P := by
  induction vs generalizing i ns with
  | nil =>
    cases hns
    simp
  | cons v vs ih =>
    rw [List.forall_mem_cons] at h
    rw [parseMembers] at hns
    obtain ⟨n, hn, hns⟩ := Logged.result_bind_eq_ok.1 hns
    obtain ⟨ns', hns', hns⟩ := Logged.result_bind_eq_ok.1 hns
    cases hns
    obtain ⟨hlength, hparsed⟩ := ih h.2 hns'
    exact ⟨by rw [List.length_cons, List.length_cons, hlength],
      List.forall_mem_cons.2 ⟨h.1.2 _ _ h.1.1 hn, hparsed⟩⟩

theorem parsed_of_parseUnion {v : Value} (h : ∀ vs, v = .array vs → ∀ w ∈ vs, P w ∧
    ReadsParsed P w) {n : Node} (hn : (parseUnion path v).result = .ok n) : n.Parsed P := by
  unfold parseUnion at hn
  split at hn
  next vs =>
    split at hn
    · cases hn
    next hne =>
      obtain ⟨ns, hns, heq⟩ := Logged.result_bind_eq_ok.1 hn
      cases heq
      obtain ⟨hlength, hparsed⟩ := parsed_of_parseMembers (h vs rfl) hns
      refine Node.parsed_joinMembers ?_ hparsed
      rintro rfl
      exact hne (by simpa using hlength.symm)
  · cases hn

section Properties

variable (hP : Inward P)
include hP

/-- What is read of the properties of an object. -/
theorem parsed_of_parseProperties (h : ∀ m ∈ ms, P m.2 ∧ ReadsParsed P m.2)
    {ps : List (Property Node)} (hps : (parseProperties path ms).result = .ok ps) :
    ps.map (·.name) = ms.map Prod.fst ∧ (∀ p ∈ ps, P p.description) ∧
      ∀ p ∈ ps, p.schema.Parsed P := by
  induction ms generalizing ps with
  | nil =>
    cases hps
    simp
  | cons m ms ih =>
    obtain ⟨name, v⟩ := m
    rw [List.forall_mem_cons] at h
    obtain ⟨⟨hv, hparsed⟩, h⟩ := h
    obtain ⟨description, n, qs, hn, hqs, hdescription, rfl⟩ : ∃ description n qs,
        (parseNode (path ++ "." ++ name) v).result = .ok n ∧
        (parseProperties path ms).result = .ok qs ∧ P description ∧
        ps = ⟨name, n, description⟩ :: qs := by
      cases v with
      | object fields =>
        rw [parseProperties] at hps
        obtain ⟨n, hn, hps⟩ := Logged.result_bind_eq_ok.1 hps
        obtain ⟨qs, hqs, heq⟩ := Logged.result_bind_eq_ok.1 hps
        exact ⟨_, n, qs, hn, hqs, field_of_object hP hv _, (Except.ok.inj heq).symm⟩
      | _ =>
        rw [parseProperties] at hps
        · obtain ⟨n, hn, -⟩ := Logged.result_bind_eq_ok.1 hps
          cases hn
        · rintro _ ⟨⟩
    obtain ⟨hnames, hdescriptions, hschemas⟩ := ih h hqs
    exact ⟨by rw [List.map_cons, List.map_cons, hnames],
      List.forall_mem_cons.2 ⟨hdescription, hdescriptions⟩,
      List.forall_mem_cons.2 ⟨hparsed _ _ hv hn, hschemas⟩⟩

/-- What is read of an object, where what is read of the documents inside it is as schemas are
read: of the values of its members, of their items, and of their members. -/
theorem readsParsed_object (hvalues : ∀ m ∈ ms, ReadsParsed P m.2)
    (hitems : ∀ m ∈ ms, ∀ vs, m.2 = .array vs → ∀ w ∈ vs, ReadsParsed P w)
    (hmembers : ∀ m ∈ ms, ∀ ns, m.2 = .object ns → ∀ k ∈ ns, ReadsParsed P k.2) :
    ReadsParsed P (.object ms) := by
  intro path n hms hn
  have hparts := (hP.object hms).2
  have hunion (key : String) (v : Value) (hv : lookup key ms = some v) (path : String) (n : Node)
      (hn : (parseUnion path v).result = .ok n) : n.Parsed P := by
    have hmem := Value.mem_of_lookup hv
    refine parsed_of_parseUnion (fun vs heq w hw => ⟨?_, hitems _ hmem vs heq w hw⟩) hn
    exact hP.array (heq ▸ hparts _ hmem) w hw
  rw [parseNode] at hn
  split at hn
  · cases hn
  · rw [parseUnionAt_eq, parseUnionAt_eq] at hn
    cases hany : lookup "anyOf" ms with
    | some v =>
      rw [hany] at hn
      exact hunion _ v hany _ _ hn
    | none =>
      cases hone : lookup "oneOf" ms with
      | some v =>
        rw [hany, hone] at hn
        exact hunion _ v hone _ _ hn
      | none =>
        rw [hany, hone] at hn
        refine parsed_of_parseTyped (fun path name n hn => ?_) _ _ _ hn
        refine parsed_of_parseNamed hP hms (fun path x n hx hn => ?_)
          (fun path ps qs hps hqs => ?_) hn
        · rw [parseItemsAt_eq, Option.bind_eq_some_iff] at hx
          obtain ⟨v, hv, hx⟩ := hx
          split at hx
          · cases hx
          · cases hx
            have hmem := Value.mem_of_lookup hv
            exact hvalues _ hmem _ _ (hparts _ hmem) hn
        · have hmem := Value.mem_of_lookup hps
          obtain ⟨hkeys, hps'⟩ := hP.object (hparts _ hmem)
          obtain ⟨hnames, hdescriptions, hschemas⟩ := parsed_of_parseProperties hP
            (fun m hm => ⟨hps' m hm, hmembers _ hmem ps rfl m hm⟩) hqs
          exact Node.parsed_object (hnames ▸ hkeys) hdescriptions hschemas

end Properties

end Documents

/-- A schema that is read from a document is built by the constructors from what stands in the
document, without unions of one member. -/
theorem readsParsed (hP : Inward P) (v : Value) : ReadsParsed P v := by
  suffices h : ReadsParsed P v ∧ (∀ vs, v = .array vs → ∀ w ∈ vs, ReadsParsed P w) ∧
      ∀ ms, v = .object ms → ∀ m ∈ ms, ReadsParsed P m.2 from h.1
  induction v using Value.induct with
  | scalar v harray hobject =>
    refine ⟨fun path n _ hn => ?_, fun vs h => absurd h (harray vs),
      fun ms h => absurd h (hobject ms)⟩
    cases v with
    | object ms => exact absurd rfl (hobject ms)
    | _ => cases hn
  | array vs ih =>
    refine ⟨fun path n _ hn => (nomatch hn), fun _ heq w hw => ?_, fun _ heq => (nomatch heq)⟩
    cases heq
    exact (ih w hw).1
  | object ms ih =>
    refine ⟨?_, fun _ heq => (nomatch heq), fun _ heq m hm => ?_⟩
    · exact readsParsed_object hP (fun m hm => (ih m hm).1) (fun m hm => (ih m hm).2.1)
        fun m hm => (ih m hm).2.2
    · cases heq
      exact (ih m hm).1

end GuidedJson.Schema
