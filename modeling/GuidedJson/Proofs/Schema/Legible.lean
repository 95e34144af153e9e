import GuidedJson.Json.Access
import GuidedJson.Proofs.Failures
import GuidedJson.Proofs.Json.Sorting
import GuidedJson.Proofs.Schema.RoundTrip

/-!
# What reading a schema needs

A document is read as a schema, or its first fault is reported. The faults that are reported are of
what the keywords say; what they hold must be of such a kind that it can be gone through, sorted and
compared where reading does so. Otherwise something else fails before a fault is found.
-/

namespace GuidedJson.Schema

open Value (lookup field)

/-! ## Keywords -/

/-- Whether what is listed as required is missing, or can be made a set, sorted and shown. -/
def Listable (required : Value) : Prop :=
  required.isNull = true ∨ ∃ vs, required.elements = .ok vs ∧
    (∀ v ∈ vs, v.checkHashable = .ok ()) ∧ Value.Sortable vs ∧ ∀ v ∈ vs, v.Fits

/-- Whether choices are missing, or can be gone through. -/
def Choosable (choices : Value) : Prop :=
  choices.isNull = true ∨ ∃ vs, choices.elements = .ok vs

/-- Whether one of two bounds is missing, or there is an order between them. -/
def Comparable (least most : Value) : Prop :=
  least.isNull = true ∨ most.isNull = true ∨ ∃ b, least.exceeds most = .ok b

/-- Whether the keywords of a type hold what reading it needs. -/
def Fitting (ms : List (String × Value)) : String → Prop
  | "object" => Listable (field "required" ms)
  | "array" => Comparable (field "minItems" ms) (field "maxItems" ms)
  | "string" => Choosable (choicesOf ms)
  | _ => True

section Keywords

variable {path : String} {ms : List (String × Value)}

theorem forM_checkHashable {vs : List Value} :
    vs.forM Value.checkHashable = .ok () ↔ ∀ v ∈ vs, v.checkHashable = .ok () := by
  induction vs with
  | nil => simp [pure, Except.pure]
  | cons v vs ih =>
    rw [List.forall_mem_cons, ← ih]
    refine exceptBind_eq_ok.trans ?_
    exact ⟨fun ⟨_, hv, hvs⟩ => ⟨hv, hvs⟩, fun ⟨hv, hvs⟩ => ⟨_, hv, hvs⟩⟩

theorem isText_of_texts? {vs : List Value} {texts : List String} (h : texts? vs = some texts) :
    ∀ v ∈ vs, v.IsText := by
  induction vs generalizing texts with
  | nil => simp
  | cons v vs ih =>
    rw [texts?, List.mapM_cons, Option.bind_eq_bind, Option.bind_eq_some_iff] at h
    obtain ⟨s, hs, h⟩ := h
    obtain ⟨rest, hrest, -⟩ := Option.bind_eq_some_iff.1 h
    refine List.forall_mem_cons.2 ⟨?_, ih hrest⟩
    cases v with
    | string t => exact ⟨t, rfl⟩
    | _ => cases hs

/-- Required members are listed, looked at one by one, and sorted unless they are the names. -/
theorem otherRequired_eq_ok {required : Value} {names : List String} {r : Option (List Value)} :
    otherRequired required names = .ok r ↔ ∃ vs, required.elements = .ok vs ∧
      (∀ v ∈ vs, v.checkHashable = .ok ()) ∧
      (if namesExactly vs names then pure none else some <$> Value.sorted vs) = .ok r := by
  rw [otherRequired]
  refine exceptBind_eq_ok.trans (exists_congr fun vs => and_congr_right' ?_)
  rw [← forM_checkHashable, exceptBind_eq_ok]
  constructor
  · rintro ⟨⟨⟩, h⟩
    exact h
  · exact fun h => ⟨(), h⟩

/-- Values that are exactly some names are texts. -/
theorem isText_of_namesExactly {vs : List Value} {names : List String}
    (h : namesExactly vs names = true) : ∀ v ∈ vs, v.IsText := by
  unfold namesExactly at h
  split at h
  next texts htexts => exact isText_of_texts? htexts
  next => cases h

/-- Required members are compared with the names of the properties where they can be listed. -/
theorem exists_otherRequired_iff {required : Value} {names : List String} :
    (∃ r, otherRequired required names = .ok r) ↔ ∃ vs, required.elements = .ok vs ∧
      (∀ v ∈ vs, v.checkHashable = .ok ()) ∧ Value.Sortable vs := by
  simp only [otherRequired_eq_ok]
  rw [exists_comm]
  simp only [exists_and_left]
  refine exists_congr fun vs => and_congr_right' (and_congr_right fun hvs => ?_)
  split
  next hnames => exact iff_of_true ⟨none, rfl⟩ (.inl (isText_of_namesExactly hnames))
  next =>
    rw [← Value.exists_sorted_iff hvs]
    cases Value.sorted vs <;> simp [Functor.map, Except.map]

/-- Of required members that can be listed, those that are not just the names are shown. -/
theorem otherRequired_fits {required : Value} {names : List String} {vs : List Value}
    {r : Option (List Value)} (h : otherRequired required names = .ok r)
    (helements : required.elements = .ok vs) :
    (∀ v ∈ vs, v.Fits) ↔ ∀ ws, r = some ws → (Value.array ws).Fits := by
  obtain ⟨us, hus, -, h⟩ := otherRequired_eq_ok.1 h
  obtain rfl := Except.ok.inj (hus.symm.trans helements)
  split at h
  next hnames =>
    obtain rfl := Except.ok.inj h
    refine iff_of_true (fun v hv => ?_) nofun
    obtain ⟨s, rfl⟩ := isText_of_namesExactly hnames v hv
    trivial
  next =>
    obtain ⟨ws, hws, rfl⟩ := exceptMap_eq_ok.1 h
    simp only [Option.some.injEq, forall_eq', Value.fits_array]
    exact forall_congr' fun v => imp_congr_left (Value.perm_sorted hws).mem_iff.symm

theorem needs_checkRequired (required : Value) (names : List String) :
    Needs (Listable required) (checkRequired path required names).result := by
  unfold checkRequired
  split
  next hnull => exact needs_ok (.inl hnull)
  next hnull =>
    have hiff := @exists_otherRequired_iff required names
    split
    next fault hfault =>
      refine needs_mismatch fun h => ?_
      obtain ⟨vs, helements, hvs, hsortable, -⟩ := h.resolve_left hnull
      obtain ⟨r, hr⟩ := hiff.2 ⟨vs, helements, hvs, hsortable⟩
      cases hr.symm.trans hfault
    next hr =>
      obtain ⟨vs, helements, hvs, hsortable⟩ := hiff.1 ⟨_, hr⟩
      exact needs_ok (.inr ⟨vs, helements, hvs, hsortable, (otherRequired_fits hr helements).2 nofun⟩)
    next ws hr =>
      obtain ⟨vs, helements, hvs, hsortable⟩ := hiff.1 ⟨_, hr⟩
      by_cases h : (Value.array ws).Fits
      · rw [Value.inspect?_of_fits h]
        refine needs_ok (.inr ⟨vs, helements, hvs, hsortable, ?_⟩)
        exact (otherRequired_fits hr helements).2 fun _ heq => Option.some.inj heq ▸ h
      · rw [Value.inspect?_of_not_fits h]
        refine needs_digits fun hlistable => h ?_
        obtain ⟨us, hus, -, -, hfits⟩ := hlistable.resolve_left hnull
        exact (otherRequired_fits hr hus).1 hfits ws rfl

theorem needs_placed {K : Prop} (hK : K) (r : Except NodeFault Node) :
    Needs K (placed path r).result := by
  cases r with
  | ok n => exact needs_ok hK
  | error fault => exact needs_throw (Failure.isSetup_schema _)

theorem needs_parseText : Needs (Choosable (choicesOf ms)) (parseText path ms).result := by
  unfold parseText
  dsimp only
  split
  next hnull => exact needs_ok (.inl hnull)
  next hnull =>
    split
    next fault hfault =>
      refine needs_mismatch fun h => ?_
      obtain ⟨vs, hvs⟩ := h.resolve_left hnull
      cases hvs.symm.trans hfault
    next vs hvs =>
      split
      · exact needs_throw (Failure.isSetup_schema _)
      · exact needs_placed (.inr ⟨vs, hvs⟩) _

theorem exists_ofItems_iff {items : Node} {least most : Value} :
    (∃ r, Node.ofItems items least most = .ok r) ↔ Comparable least most := by
  unfold Node.ofItems Node.boundsFault Comparable
  cases hleast : least.isNull <;> cases hmost : most.isNull <;>
    cases hexceeds : least.exceeds most <;> simp [Except.map]

/-- Bounds without an order are a mismatch, and all others make an array or a fault of it. -/
theorem needs_ofItems {items : Node} {least most : Value} :
    Needs (Comparable least most) (match Node.ofItems items least most with
      | .error fault => throw (.mismatch fault)
      | .ok r => placed path r : Logged Node).result := by
  have hiff := @exists_ofItems_iff items least most
  split
  next fault hfault =>
    refine needs_mismatch fun h => ?_
    obtain ⟨r, hr⟩ := hiff.2 h
    cases hr.symm.trans hfault
  next r hr => exact needs_placed (hiff.1 ⟨r, hr⟩) r

end Keywords

/-! ## Types -/

mutual
/-- The types that a value names, or the type that is implied where it names none. -/
def typeNames (implied : Option String) : Value → List String
  | .null => implied.toList
  | .string name => [name]
  | .array types => typeNamesOf implied types
  | _ => []

def typeNamesOf (implied : Option String) : List Value → List String
  | [] => []
  | t :: ts => typeNames implied t ++ typeNamesOf implied ts
end

section Types

variable {named : String → String → Logged Node} {implied : Option String} {N : String → Prop}

theorem needs_parseTypedMembers {types : List Value}
    (h : ∀ t ∈ types, ∀ path, Needs (t.Fits ∧ ∀ name ∈ typeNames implied t, N name)
      (parseTyped named implied path t).result)
    (path : String) (i : Nat) :
    Needs ((∀ t ∈ types, t.Fits) ∧ ∀ name ∈ typeNamesOf implied types, N name)
      (parseTypedMembers named implied path i types).result := by
  induction types generalizing i with
  | nil => exact needs_ok ⟨List.forall_mem_nil _, List.forall_mem_nil _⟩
  | cons t types ih =>
    rw [List.forall_mem_cons] at h
    rw [parseTypedMembers, typeNamesOf, List.forall_mem_append, List.forall_mem_cons, and_and_and_comm]
    exact (h.1 _).logged_bind fun n _ => (ih h.2 _).logged_map _

/-- What names no type is shown, which needs that it can be written. -/
theorem needs_unknownType (path : String) (v : Value) :
    Needs v.Fits (.error (.ofUnknownType path v) : Except Failure Node) := by
  unfold Failure.ofUnknownType
  split
  next h => exact needs_throw (Failure.isSetup_schema _)
  next h => exact needs_digits (mt (Value.isWritable_iff v).2 h)

/-- Reading a type needs what reading each of the types it names does, and that what names none can
be shown. -/
theorem needs_parseTyped (hnamed : ∀ path name, Needs (N name) (named path name).result)
    (v : Value) : ∀ path, Needs (v.Fits ∧ ∀ name ∈ typeNames implied v, N name)
      (parseTyped named implied path v).result := by
  induction v using Value.induct with
  | scalar v harray hobject =>
    intro path
    cases v with
    | null =>
      cases implied with
      | none => exact needs_throw (Failure.isSetup_schema _)
      | some name => exact (hnamed path name).congr (by simp [typeNames, Value.Fits])
    | string name => exact (hnamed path name).congr (by simp [typeNames, Value.Fits])
    | array vs => exact absurd rfl (harray vs)
    | object ms => exact absurd rfl (hobject ms)
    | bool | int | float => exact (needs_unknownType path _).and_trivial (by simp [typeNames])
  | array types ih =>
    intro path
    rw [parseTyped]
    split
    · exact needs_throw (Failure.isSetup_schema _)
    · rw [typeNames, Value.fits_array]
      exact (needs_parseTypedMembers ih path 0).logged_map _
  | object ms ih => exact fun path => (needs_unknownType path _).and_trivial (by simp [typeNames])

end Types

/-! ## Documents -/

/-- The types that the members of a document name. -/
def typesOf (ms : List (String × Value)) : List String :=
  typeNames (impliedType? ms) (field "type" ms)

/-- Whether the keywords of a document, and of every document inside that is read as a schema, hold
what reading them needs. -/
inductive Legible : Value → Prop
  | other {v : Value} : (∀ ms, v ≠ .object ms) → Legible v
  | anyOf {ms : List (String × Value)} {v : Value} : lookup "anyOf" ms = some v →
      (∀ w ∈ v.asItems, Legible w) → Legible (.object ms)
  | oneOf {ms : List (String × Value)} {v : Value} : lookup "anyOf" ms = none →
      lookup "oneOf" ms = some v → (∀ w ∈ v.asItems, Legible w) → Legible (.object ms)
  | typed {ms : List (String × Value)} : lookup "anyOf" ms = none → lookup "oneOf" ms = none →
      (field "type" ms).Fits → (∀ name ∈ typesOf ms, Fitting ms name) →
      ("array" ∈ typesOf ms → ∀ v, lookup "items" ms = some v → Legible v) →
      ("object" ∈ typesOf ms → ∀ p ∈ (field "properties" ms).asMembers, Legible p.2) →
      Legible (.object ms)

section Documents

variable {ms : List (String × Value)} {path : String}

/-- What reading a document at any place needs. -/
def NeedsLegible (v : Value) : Prop := ∀ path, Needs (Legible v) (parseNode path v).result

theorem needs_parseMembers {vs : List Value} (h : ∀ v ∈ vs, NeedsLegible v) (path : String)
    (i : Nat) : Needs (∀ v ∈ vs, Legible v) (parseMembers path i vs).result := by
  induction vs generalizing i with
  | nil => exact needs_ok fun _ hv => absurd hv List.not_mem_nil
  | cons v vs ih =>
    rw [List.forall_mem_cons] at h
    rw [parseMembers, List.forall_mem_cons]
    exact (h.1 _).logged_bind fun n _ => (ih h.2 _).logged_map _

theorem needs_parseUnion {v : Value} (h : ∀ w ∈ v.asItems, NeedsLegible w) (path : String) :
    Needs (∀ w ∈ v.asItems, Legible w) (parseUnion path v).result := by
  unfold parseUnion
  split
  next vs =>
    split
    · exact needs_throw (Failure.isSetup_schema _)
    · exact (needs_parseMembers h path 0).logged_map _
  next => exact needs_throw (Failure.isSetup_schema _)

theorem needs_parseProperties {ps : List (String × Value)} (h : ∀ p ∈ ps, NeedsLegible p.2)
    (path : String) : Needs (∀ p ∈ ps, Legible p.2) (parseProperties path ps).result := by
  induction ps with
  | nil => exact needs_ok fun _ hp => absurd hp List.not_mem_nil
  | cons p ps ih =>
    obtain ⟨name, v⟩ := p
    rw [List.forall_mem_cons] at h
    rw [List.forall_mem_cons]
    have hrest (description : Value) : Needs (Legible v ∧ ∀ p ∈ ps, Legible p.2) (do
        let n ← parseNode (path ++ "." ++ name) v
        let rest ← parseProperties path ps
        return ⟨name, n, description⟩ :: rest : Logged (List (Property Node))).result :=
      (h.1 _).logged_bind fun n _ => (ih h.2).logged_map _
    cases v with
    | object fields =>
      rw [parseProperties]
      exact hrest _
    | _ =>
      rw [parseProperties]
      · exact hrest _
      · rintro _ ⟨⟩

/-- What reading a named type needs besides its keywords. -/
def InnerLegible (ms : List (String × Value)) (name : String) : Prop :=
  (name = "array" → ∀ v, lookup "items" ms = some v → Legible v) ∧
    (name = "object" → ∀ p ∈ (field "properties" ms).asMembers, Legible p.2)

theorem needs_parseNamed (hitems : ∀ v, lookup "items" ms = some v → NeedsLegible v)
    (hproperties : ∀ p ∈ (field "properties" ms).asMembers, NeedsLegible p.2) (path name : String) :
    Needs (Fitting ms name ∧ InnerLegible ms name) (parseNamed ms (fun path => parseItemsAt path ms)
      (fun path => parsePropertiesAt path ms) path name).result := by
  have hleaf (n : Node) (hname : Fitting ms name = True) (harray : name ≠ "array")
      (hobject : name ≠ "object") :
      Needs (Fitting ms name ∧ InnerLegible ms name) (pure n : Logged Node).result :=
    needs_ok ⟨hname ▸ trivial, fun h => absurd h harray, fun h => absurd h hobject⟩
  unfold parseNamed
  split
  · split
    next ps hps =>
      rw [field, hps] at hproperties
      refine ((needs_checkRequired _ _).logged_bind fun _ _ => ?_).congr
        (and_congr_right' ⟨fun h => ⟨fun heq => absurd heq (by decide), fun _ => h⟩,
          fun h => h.2 rfl⟩)
      dsimp only
      rw [parsePropertiesAt_eq, field, hps]
      exact (needs_parseProperties hproperties path).logged_map _
    next hnone =>
      refine ((needs_checkRequired _ _).logged_map _).congr
        (and_iff_left ⟨fun heq => absurd heq (by decide), fun _ => ?_⟩).symm
      simp [field, hnone, Value.asMembers]
    next => exact needs_throw (Failure.isSetup_schema _)
  · split
    next => exact needs_throw (Failure.isSetup_schema _)
    next read hread =>
      dsimp only at hread
      rw [parseItemsAt_eq, Option.bind_eq_some_iff] at hread
      obtain ⟨v, hv, hread⟩ := hread
      split at hread
      · cases hread
      · cases hread
        refine ((hitems v hv _).logged_bind fun n _ => needs_ofItems).congr ?_
        rw [InnerLegible, and_comm]
        exact and_congr_right' ⟨fun h => ⟨fun _ w hw => Option.some.inj (hv.symm.trans hw) ▸ h,
          fun heq => absurd heq (by decide)⟩, fun h => h.1 rfl v hv⟩
  · exact needs_parseText.congr (by simp [Fitting, InnerLegible])
  · exact hleaf _ rfl (by decide) (by decide)
  · exact hleaf _ rfl (by decide) (by decide)
  · exact hleaf _ rfl (by decide) (by decide)
  · exact hleaf _ rfl (by decide) (by decide)
  · exact needs_throw (Failure.isSetup_schema _)

/-- Reading an object needs what reading the documents inside it does: the values of its members,
their items, and their members. -/
theorem needsLegible_object (hvalues : ∀ m ∈ ms, NeedsLegible m.2)
    (hitems : ∀ m ∈ ms, ∀ w ∈ m.2.asItems, NeedsLegible w)
    (hmembers : ∀ m ∈ ms, ∀ k ∈ m.2.asMembers, NeedsLegible k.2) : NeedsLegible (.object ms) := by
  intro path
  have hunion {key : String} {v : Value} (hv : lookup key ms = some v) :
      Needs (∀ w ∈ v.asItems, Legible w) (parseUnion path v).result :=
    needs_parseUnion (hitems _ (Value.mem_of_lookup hv)) path
  rw [parseNode]
  split
  · exact needs_throw (Failure.isSetup_schema _)
  · rw [parseUnionAt_eq, parseUnionAt_eq]
    cases hany : lookup "anyOf" ms with
    | some v =>
      refine (hunion hany).congr ⟨.anyOf hany, fun h => ?_⟩
      cases h with
      | other h => exact absurd rfl (h ms)
      | anyOf hv h => exact Option.some.inj (hany.symm.trans hv) ▸ h
      | oneOf hnone | typed hnone => cases hany.symm.trans hnone
    | none =>
      cases hone : lookup "oneOf" ms with
      | some v =>
        refine (hunion hone).congr ⟨.oneOf hany hone, fun h => ?_⟩
        cases h with
        | other h => exact absurd rfl (h ms)
        | anyOf hv h => cases hany.symm.trans hv
        | oneOf _ hv h => exact Option.some.inj (hone.symm.trans hv) ▸ h
        | typed _ hnone => cases hone.symm.trans hnone
      | none =>
        have hproperties : ∀ p ∈ (field "properties" ms).asMembers, NeedsLegible p.2 := by
          intro p hp
          rw [field] at hp
          cases hlookup : lookup "properties" ms with
          | none =>
            rw [hlookup] at hp
            cases hp
          | some v =>
            rw [hlookup] at hp
            exact hmembers _ (Value.mem_of_lookup hlookup) p hp
        have hnamed := needs_parseNamed (fun v hv => hvalues _ (Value.mem_of_lookup hv)) hproperties
        refine (needs_parseTyped hnamed (field "type" ms) path).congr ⟨fun h => ?_, fun h => ?_⟩
        · exact .typed hany hone h.1 (fun name hname => (h.2 name hname).1)
            (fun hname => (h.2 _ hname).2.1 rfl) fun hname => (h.2 _ hname).2.2 rfl
        · cases h with
          | other h => exact absurd rfl (h ms)
          | anyOf hv => cases hany.symm.trans hv
          | oneOf _ hv => cases hone.symm.trans hv
          | typed _ _ hfits hfitting harray hobject =>
            exact ⟨hfits, fun name hname => ⟨hfitting name hname,
              fun heq => harray (heq ▸ hname), fun heq => hobject (heq ▸ hname)⟩⟩

end Documents

/-- Reading a document needs that the keywords in it hold what reading them needs. -/
theorem needsLegible (v : Value) : NeedsLegible v := by
  suffices h : NeedsLegible v ∧ (∀ w ∈ v.asItems, NeedsLegible w) ∧
      ∀ m ∈ v.asMembers, NeedsLegible m.2 from h.1
  induction v using Value.induct with
  | scalar v harray hobject =>
    cases v with
    | array vs => exact absurd rfl (harray vs)
    | object ms => exact absurd rfl (hobject ms)
    | _ => exact ⟨fun path => needs_throw (Failure.isSetup_schema _), by simp [Value.asItems],
        by simp [Value.asMembers]⟩
  | array vs ih =>
    exact ⟨fun path => needs_throw (Failure.isSetup_schema _), fun w hw => (ih w hw).1,
      by simp [Value.asMembers]⟩
  | object ms ih =>
    exact ⟨needsLegible_object (fun m hm => (ih m hm).1) (fun m hm => (ih m hm).2.1)
      fun m hm => (ih m hm).2.2, by simp [Value.asItems], fun m hm => (ih m hm).1⟩

end GuidedJson.Schema
