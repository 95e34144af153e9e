import GuidedJson.Proofs.Schema.Canonical
import GuidedJson.Proofs.Schema.Joined

/-!
# Documents of schemas are read

A schema that can be made of its parts is read from its document, joined, however the members of
the document are arranged.
-/

namespace GuidedJson.Schema

open Value (lookup field hasKey)

/-! ## Reading by keys -/

section Keys

variable {ms ns : List (String × Value)}

theorem parseItemsAt_eq (path : String) (ms : List (String × Value)) :
    parseItemsAt path ms = (lookup "items" ms).bind fun v =>
      if v.isNull then none else some (parseNode (path ++ "[]") v) := by
  induction ms with
  | nil => simp [parseItemsAt, lookup]
  | cons m ms ih =>
    obtain ⟨k, v⟩ := m
    by_cases h : k = "items" <;> simp [parseItemsAt, lookup, h, ih]

/-- Two lists of members in which every keyword has the same value. A description is none. -/
def SameKeywords (ms ns : List (String × Value)) : Prop :=
  ∀ key, key ≠ "description" → lookup key ms = lookup key ns

theorem SameKeywords.field (h : SameKeywords ms ns) {key : String} (hkey : key ≠ "description") :
    field key ms = field key ns := by
  rw [Value.field, Value.field, h key hkey]

theorem SameKeywords.hasKey (h : SameKeywords ms ns) {key : String} (hkey : key ≠ "description") :
    hasKey key ms = hasKey key ns := by
  rw [Value.hasKey, Value.hasKey, h key hkey]

theorem SameKeywords.parseText (h : SameKeywords ms ns) (path : String) :
    parseText path ms = parseText path ns := by
  have hchoices : choicesOf ms = choicesOf ns := by
    rw [choicesOf, choicesOf, h "const" (by decide), h.field (by decide)]
  rw [Schema.parseText, Schema.parseText, hchoices, h.field (by decide), h.field (by decide)]

theorem SameKeywords.parseNamed (h : SameKeywords ms ns) (path name : String) :
    parseNamed ms (fun path => parseItemsAt path ms) (fun path => parsePropertiesAt path ms) path
        name =
      parseNamed ns (fun path => parseItemsAt path ns) (fun path => parsePropertiesAt path ns) path
        name := by
  have hproperties := h "properties" (by decide)
  have hitems := h "items" (by decide)
  simp only [Schema.parseNamed, h.parseText, parseItemsAt_eq, parsePropertiesAt_eq, hproperties,
    hitems, h.field (by decide : "required" ≠ "description"),
    h.field (by decide : "minItems" ≠ "description"),
    h.field (by decide : "maxItems" ≠ "description")]

/-- A schema is read from the values of its keywords. -/
theorem SameKeywords.parseNode (h : SameKeywords ms ns) (path : String) :
    parseNode path (.object ms) = parseNode path (.object ns) := by
  have hunsupported : unsupportedKeywords.find? (Value.hasKey · ms) =
      unsupportedKeywords.find? (Value.hasKey · ns) := by
    have hkeys : ∀ key ∈ unsupportedKeywords, key ≠ "description" := by decide
    generalize unsupportedKeywords = keys at hkeys
    induction keys with
    | nil => rfl
    | cons key keys ih =>
      rw [List.forall_mem_cons] at hkeys
      rw [List.find?_cons, List.find?_cons, h.hasKey hkeys.1, ih hkeys.2]
  have himplied : impliedType? ms = impliedType? ns := by
    simp only [impliedType?, h.hasKey (by decide : "properties" ≠ "description"),
      h.hasKey (by decide : "items" ≠ "description"),
      h.hasKey (by decide : "enum" ≠ "description")]
  have hnamed := funext fun path => funext fun name => h.parseNamed path name
  rw [Schema.parseNode, Schema.parseNode, hunsupported, parseUnionAt_eq, parseUnionAt_eq,
    parseUnionAt_eq, parseUnionAt_eq, h "anyOf" (by decide), h "oneOf" (by decide), himplied,
    hnamed, h.field (by decide)]

end Keys

/-! ## Arranged documents -/

/-- A way to arrange documents, which keeps everything but the places of members. A map of
properties is arranged in a way of its own, which keeps the places too. -/
structure Arrangement where
  value : Value → Value
  propertyMap : Value → Value
  scalar : ∀ v, (∀ vs, v ≠ .array vs) → (∀ ms, v ≠ .object ms) → value v = v
  array : ∀ vs, value (.array vs) = .array (vs.map value)
  object : ∀ ms, (ms.map Prod.fst).Nodup → ∃ ns, value (.object ms) = .object ns ∧
    ∀ key, lookup key ns =
      (lookup key ms).map fun v => if key = "properties" then propertyMap v else value v
  properties : ∀ ms, propertyMap (.object ms) = .object (ms.map fun m => (m.1, value m.2))
  isNull : ∀ v, (value v).isNull = v.isNull
  exceeds : ∀ v w, v.Proper → w.Proper → (value v).exceeds (value w) = v.exceeds w

namespace Arrangement

/-- Documents as they are. -/
def same : Arrangement where
  value := id
  propertyMap := id
  scalar _ _ _ := rfl
  array vs := by rw [List.map_id]; rfl
  object ms _ := ⟨ms, rfl, fun key => by simp⟩
  properties ms := by simp
  isNull _ := rfl
  exceeds _ _ _ _ := rfl

/-- Canonical documents. -/
def canonical : Arrangement where
  value := Value.canonical false
  propertyMap := Value.canonical true
  scalar _ harray hobject := Value.canonical_scalar false harray hobject
  array vs := Value.canonical_array false vs
  object ms hms := by
    obtain ⟨ns, htext, hns⟩ := Value.exists_canonical_object false ms
    refine ⟨ns, htext, fun key => ?_⟩
    have hkeys := (Value.keys_of_perm_canonical hns).nodup_iff.2 hms
    rw [← Value.lookup_of_perm hkeys hns, Value.lookup_map]
    congr 1
    funext v
    by_cases hkey : key = "properties"
    · simp [Value.canonicalAt, hkey]
    · have hbeq : (key == "properties") = false := beq_eq_false_iff_ne.2 hkey
      simp [Value.canonicalAt, hkey, hbeq]
  properties ms := Value.canonical_propertyMap ms
  isNull v := Value.isNull_canonical false v
  exceeds _ _ := Value.exceeds_canonical

variable (a : Arrangement)

@[simp] theorem value_string (s : String) : a.value (.string s) = .string s :=
  a.scalar _ nofun nofun

@[simp] theorem value_null : a.value .null = .null := a.scalar _ nofun nofun

@[simp] theorem value_strings (names : List String) :
    a.value (.array (names.map .string)) = .array (names.map .string) := by
  rw [a.array, List.map_map]
  congr 1
  exact List.map_congr_left fun s _ => a.value_string s

/-- Members as they are arranged, in their places. -/
def members (ms : List (String × Value)) : List (String × Value) :=
  ms.map fun m => (m.1, if m.1 = "properties" then a.propertyMap m.2 else a.value m.2)

@[simp] theorem keys_members (ms : List (String × Value)) :
    (a.members ms).map Prod.fst = ms.map Prod.fst := by
  simp [members]

theorem lookup_members (key : String) (ms : List (String × Value)) :
    lookup key (a.members ms) =
      (lookup key ms).map fun v => if key = "properties" then a.propertyMap v else a.value v :=
  Value.lookup_map (fun key v => if key = "properties" then a.propertyMap v else a.value v) key ms

end Arrangement

/-! ## Described documents -/

section Described

variable {ms : List (String × Value)}

/-- An arranged document has the keywords of the document, and its description. -/
theorem exists_arranged_describe (a : Arrangement) (hms : (ms.map Prod.fst).Nodup)
    (hdescription : "description" ∉ ms.map Prod.fst) (description : Value) :
    ∃ ns, a.value (Node.describe description (.object ms)) = .object ns ∧
      SameKeywords ns (a.members ms) ∧ field "description" ns = a.value description := by
  rw [Node.describe]
  split
  next hnull =>
    obtain ⟨ns, hvalue, hlookup⟩ := a.object ms hms
    refine ⟨ns, hvalue, fun key _ => by rw [hlookup, a.lookup_members], ?_⟩
    obtain rfl : description = .null := by
      cases description <;> first | rfl | cases hnull
    rw [field, hlookup, Value.lookup_eq_none_iff.2 hdescription, a.value_null]
    rfl
  next hnull =>
    obtain ⟨ns, hvalue, hlookup⟩ := a.object _ (Value.nodup_insertMember hms _ _)
    refine ⟨ns, hvalue, fun key hkey => ?_, ?_⟩
    · rw [hlookup, a.lookup_members, Value.lookup_insertMember_of_ne hkey]
    · rw [field, hlookup, Value.lookup_insertMember_self]
      rfl

end Described

theorem eq_null_of_isNull {v : Value} (h : v.isNull = true) : v = .null := by
  cases v <;> first | rfl | cases h

namespace Node

/-- The document of a schema is an object. It has no description, and no key twice. -/
theorem exists_document (n : Node) : ∃ ms, n.document = .object ms ∧ (ms.map Prod.fst).Nodup ∧
    "description" ∉ ms.map Prod.fst := by
  cases n with
  | boolean | integer | number | null | choice | object =>
    rw [document]
    exact ⟨_, rfl, by simp, by simp⟩
  | text least most =>
    rw [document]
    refine ⟨_, rfl, ?_⟩
    unfold optionalMember
    split <;> split <;> simp
  | array items least most =>
    rw [document]
    refine ⟨_, rfl, ?_⟩
    unfold optionalMember
    split <;> split <;> simp
  | union members =>
    rw [document, unionDocument]
    split <;> exact ⟨_, rfl, by simp, by simp⟩

end Node

/-! ## Reading documents -/

section Reading

variable (a : Arrangement) (path : String)

/-- Keywords by which a document is no schema of a type. -/
def otherKeywords : List String := "anyOf" :: "oneOf" :: unsupportedKeywords

/-- A document without these keywords is read as its type says. -/
theorem parseNode_typed {ms : List (String × Value)} {keys : List String}
    (hms : ms.map Prod.fst ⊆ keys) (hkeys : ∀ key ∈ otherKeywords, key ∉ keys) :
    parseNode path (.object ms) = parseTyped (parseNamed ms (fun path => parseItemsAt path ms)
      (fun path => parsePropertiesAt path ms)) (impliedType? ms) path (field "type" ms) := by
  have hnone (key : String) (hkey : key ∈ otherKeywords) : lookup key ms = none :=
    Value.lookup_eq_none_iff.2 fun hmem => hkeys key hkey (hms hmem)
  have hunsupported : unsupportedKeywords.find? (hasKey · ms) = none := by
    rw [List.find?_eq_none]
    intro key hkey
    simp [hasKey, hnone key (List.mem_cons_of_mem _ (List.mem_cons_of_mem _ hkey))]
  rw [parseNode, hunsupported, parseUnionAt_eq, parseUnionAt_eq,
    hnone "anyOf" List.mem_cons_self,
    hnone "oneOf" (List.mem_cons_of_mem _ List.mem_cons_self)]
  rfl

/-- A document whose type is named is read as one of that type. -/
theorem parseNode_named {ms : List (String × Value)} {name : String} {keys : List String}
    (hms : ms.map Prod.fst ⊆ keys) (hkeys : ∀ key ∈ otherKeywords, key ∉ keys)
    (htype : lookup "type" ms = some (.string name)) :
    parseNode path (.object ms) = parseNamed ms (fun path => parseItemsAt path ms)
      (fun path => parsePropertiesAt path ms) path name := by
  rw [parseNode_typed path hms hkeys, field, htype]
  rfl

theorem keys_optionalMember_subset (k : String) (v : Value) :
    (Node.optionalMember k v).map Prod.fst ⊆ [k] := by
  unfold Node.optionalMember
  split <;> simp

theorem lookup_optionalMember (key k : String) (v : Value) :
    lookup key (Node.optionalMember k v) =
      if k = key then (if v.isNull then none else some v) else none := by
  unfold Node.optionalMember
  split <;> simp [lookup]

/-- A bound that is left out where it is null is found as it is. -/
theorem getD_arranged_bound (v : Value) :
    ((if v.isNull = true then none else some v).map a.value).getD .null = a.value v := by
  split
  next hnull => rw [eq_null_of_isNull hnull, a.value_null]; rfl
  next => rfl

/-- The keywords of a document with bounds. -/
theorem keys_bounds_subset (ms : List (String × Value)) (keys : List String)
    (low high : String) (least most : Value) (hms : ms.map Prod.fst ⊆ keys) (hlow : low ∈ keys)
    (hhigh : high ∈ keys) :
    (a.members
      (ms ++ (Node.optionalMember low least ++ Node.optionalMember high most))).map Prod.fst ⊆
      keys := by
  rw [a.keys_members, List.map_append, List.map_append]
  refine List.append_subset.2 ⟨hms, List.append_subset.2 ⟨?_, ?_⟩⟩
  · exact List.Subset.trans (keys_optionalMember_subset low least) (by simpa using hlow)
  · exact List.Subset.trans (keys_optionalMember_subset high most) (by simpa using hhigh)

theorem lookup_type (name : String) (ms : List (String × Value)) :
    lookup "type" (a.members (("type", .string name) :: ms)) = some (.string name) := by
  simp [a.lookup_members, lookup]

theorem parseNode_text (least most : Value) :
    parseNode path (.object (a.members (("type", .string "string") ::
      (Node.optionalMember "minLength" least ++ Node.optionalMember "maxLength" most)))) =
    pure (.text (a.value least) (a.value most)) := by
  have hkeys := keys_bounds_subset a [("type", .string "string")] ["type", "minLength", "maxLength"]
    "minLength" "maxLength" least most (by simp) (by simp) (by simp)
  have hnull : Value.null.isNull = true := rfl
  refine (parseNode_named path hkeys (by decide) (lookup_type a _ _)).trans ?_
  simp [parseNamed, parseText, choicesOf, field, a.lookup_members, lookup, Value.lookup_append,
    lookup_optionalMember, getD_arranged_bound, hnull]

theorem texts_strings (names : List String) : texts? (names.map .string) = some names := by
  induction names with
  | nil => rfl
  | cons name names ih =>
    rw [texts?] at ih ⊢
    simp [ih]

theorem parseNode_choice {choices : List String}
    (h : Node.ofChoices choices = .ok (.choice choices)) :
    parseNode path (.object (a.members
      [("type", .string "string"), ("enum", .array (choices.map .string))])) =
    pure (.choice choices) := by
  have hchoices : choicesOf (a.members
      [("type", .string "string"), ("enum", .array (choices.map .string))]) =
      .array (choices.map .string) := by
    simp [choicesOf, field, a.lookup_members, lookup]
  have hkeys : (a.members [("type", .string "string"),
      ("enum", .array (choices.map .string))]).map Prod.fst ⊆ ["type", "enum"] := by simp
  refine (parseNode_named path hkeys (by decide) (lookup_type a _ _)).trans ?_
  change parseText path _ = _
  simp only [parseText, hchoices, Value.elements, texts_strings, h]
  rfl

/-- Bounds are in order where they are arranged. -/
theorem ofItems_arranged {items n : Node} {least most : Value}
    (h : Node.ofItems items least most = .ok (.ok (.array items least most)))
    (hleast : least.Proper) (hmost : most.Proper) :
    Node.ofItems n (a.value least) (a.value most) =
      .ok (.ok (.array n (a.value least) (a.value most))) := by
  have hfault : Node.boundsFault least most = .ok none := by
    unfold Node.ofItems at h
    cases hfault : Node.boundsFault least most with
    | error fault =>
      rw [hfault] at h
      cases h
    | ok fault =>
      cases fault with
      | none => rfl
      | some fault =>
        rw [hfault] at h
        cases h
  have harranged : Node.boundsFault (a.value least) (a.value most) = .ok none := by
    unfold Node.boundsFault at hfault ⊢
    rw [a.isNull, a.isNull]
    split at hfault
    next hnull => rw [if_pos hnull]
    next hnull =>
      rw [if_neg hnull, a.exceeds least most hleast hmost]
      cases hexceeds : least.exceeds most with
      | error fault =>
        rw [hexceeds] at hfault
        cases hfault
      | ok greater =>
        cases greater with
        | false => rfl
        | true =>
          rw [hexceeds] at hfault
          cases hfault
  rw [Node.ofItems, harranged]
  rfl

theorem parseNode_array {items n : Node} {least most : Value}
    (hitems : parseNode (path ++ "[]") (a.value items.document) = pure n)
    (h : Node.ofItems items least most = .ok (.ok (.array items least most)))
    (hleast : least.Proper) (hmost : most.Proper) :
    parseNode path (.object (a.members (("type", .string "array") :: ("items", items.document) ::
      (Node.optionalMember "minItems" least ++ Node.optionalMember "maxItems" most)))) =
    pure (.array n (a.value least) (a.value most)) := by
  have hnull : (a.value items.document).isNull = false := by
    obtain ⟨ms, hms, -⟩ := items.exists_document
    rw [a.isNull, hms]
    rfl
  have hkeys := keys_bounds_subset a [("type", .string "array"), ("items", items.document)]
    ["type", "items", "minItems", "maxItems"] "minItems" "maxItems" least most (by simp) (by simp)
    (by simp)
  refine (parseNode_named path hkeys (by decide) (lookup_type a _ _)).trans ?_
  simp [parseNamed, parseItemsAt_eq, field, a.lookup_members, lookup, Value.lookup_append,
    lookup_optionalMember, getD_arranged_bound, hnull, hitems, Logged.pure_bind,
    ofItems_arranged a h hleast hmost]
  rfl

/-- Whether a schema is read from its document, with any description and at any place. -/
def ReadBack (n : Node) : Prop := ∀ (description : Value) (path : String),
  parseNode path (a.value (Node.describe description n.document)) = pure (n.settle a.value)

/-- A schema is read from its document where no description is added. -/
theorem ReadBack.bare {a : Arrangement} {n : Node} (h : ReadBack a n) (path : String) :
    parseNode path (a.value n.document) = pure (n.settle a.value) := by
  obtain ⟨ms, hms, -⟩ := n.exists_document
  have hread := h .null path
  rw [hms] at hread ⊢
  exact hread

theorem parseProperties_documents {ps : List (Property Node)}
    (h : ∀ p ∈ ps, ReadBack a p.schema) :
    parseProperties path ((Node.propertyDocuments ps).map fun m => (m.1, a.value m.2)) =
      pure (ps.map (Node.settleProperty a.value)) := by
  induction ps with
  | nil => rfl
  | cons p ps ih =>
    obtain ⟨name, schema, description⟩ := p
    rw [List.forall_mem_cons] at h
    obtain ⟨ms, hms, hkeys, hno⟩ := schema.exists_document
    obtain ⟨ns, hvalue, -, hdescription⟩ := exists_arranged_describe a hkeys hno description
    have hread : parseNode (path ++ "." ++ name) (.object ns) = pure (schema.settle a.value) := by
      rw [← hvalue, ← hms]
      exact h.1 description _
    rw [Node.propertyDocuments, List.map_cons, hms, hvalue, parseProperties, hread, ih h.2,
      Logged.pure_bind, Logged.pure_bind, hdescription]
    rfl

theorem otherRequired_strings (names : List String) :
    otherRequired (.array (names.map .string)) names = .ok none := by
  have hhashable : (names.map Value.string).forM Value.checkHashable = .ok () := by
    induction names with
    | nil => rfl
    | cons name names ih => exact ih
  have hexactly : namesExactly (names.map Value.string) names = true := by
    simp [namesExactly, texts_strings]
  simp only [otherRequired, Value.elements]
  change (((names.map Value.string).forM Value.checkHashable).bind fun _ => _) = _
  rw [hhashable]
  change (if namesExactly (names.map Value.string) names then _ else _) = _
  rw [if_pos hexactly]
  rfl

/-- The members of the document of an object. -/
def objectMembers (ps : List (Property Node)) : List (String × Value) := [
  ("type", .string "object"),
  ("properties", .object (Node.propertyDocuments ps)),
  ("required", .array ((ps.map (·.name)).map .string)),
  ("additionalProperties", .bool false)]

theorem document_object (ps : List (Property Node)) :
    (Node.object ps).document = .object (objectMembers ps) := by
  rw [Node.document, objectMembers, List.map_map]
  rfl

theorem propertyDocuments_eq_map (ps : List (Property Node)) : Node.propertyDocuments ps =
    ps.map fun p => (p.name, Node.describe p.description p.schema.document) := by
  induction ps with
  | nil => rfl
  | cons p ps ih => rw [Node.propertyDocuments, ih, List.map_cons]

theorem names_propertyDocuments (ps : List (Property Node)) :
    (Node.propertyDocuments ps).map Prod.fst = ps.map (·.name) := by
  rw [propertyDocuments_eq_map, List.map_map]
  rfl

theorem parseNode_object {ps : List (Property Node)} (h : ∀ p ∈ ps, ReadBack a p.schema) :
    parseNode path (.object (a.members (objectMembers ps))) =
      pure (.object (ps.map (Node.settleProperty a.value))) := by
  have hkeys : (a.members (objectMembers ps)).map Prod.fst ⊆
      ["type", "properties", "required", "additionalProperties"] := by
    rw [a.keys_members]
    exact List.Subset.refl _
  have hproperties : lookup "properties" (a.members (objectMembers ps)) =
      some (.object ((Node.propertyDocuments ps).map fun m => (m.1, a.value m.2))) := by
    rw [← a.properties]
    rfl
  have hrequired : field "required" (a.members (objectMembers ps)) =
      .array ((ps.map (·.name)).map .string) := by
    rw [← a.value_strings]
    rfl
  have hnames : (((Node.propertyDocuments ps).map fun m => (m.1, a.value m.2)).map (·.1)) =
      ps.map (·.name) := by
    rw [← names_propertyDocuments, List.map_map]
    rfl
  have hchecked : checkRequired path (.array ((ps.map (·.name)).map .string)) (ps.map (·.name)) =
      pure () := by
    rw [checkRequired, otherRequired_strings]
    rfl
  refine (parseNode_named path hkeys (by decide) (lookup_type a _ _)).trans ?_
  simp only [parseNamed, hproperties, hrequired, hnames, hchecked, Logged.pure_bind,
    parsePropertiesAt_eq, Option.map_some, parsePropertyMap, Option.getD_some,
    parseProperties_documents a path h]

/-! ### Unions -/

/-- A schema that consists of its type is read from the name of the type. -/
theorem parseNamed_bareType {n : Node} {name : String} (h : n.bareType? = some name)
    {ms : List (String × Value)} (hms : ms.map Prod.fst ⊆ ["type"])
    (items : String → Option (Logged Node))
    (properties : String → Option (Logged (List (Property Node)))) :
    parseNamed ms items properties path name = pure (n.settle a.value) := by
  have hnone (key : String) (hkey : key ∉ ["type"]) : lookup key ms = none :=
    Value.lookup_eq_none_iff.2 fun hmem => hkey (hms hmem)
  cases n with
  | boolean | integer | number | null =>
    cases h
    rfl
  | text least most =>
    have hnull : least.isNull = true ∧ most.isNull = true ∧ name = "string" := by
      rw [Node.bareType?] at h
      split at h
      next hnull =>
        cases h
        rw [Bool.and_eq_true] at hnull
        exact ⟨hnull.1, hnull.2, rfl⟩
      next => cases h
    obtain ⟨hleast, hmost, rfl⟩ := hnull
    obtain rfl := eq_null_of_isNull hleast
    obtain rfl := eq_null_of_isNull hmost
    change parseText path ms = _
    simp [parseText, choicesOf, field, hnone, Node.settle, Value.isNull]
  | choice | object | array | union => cases h

theorem parseNode_bareType {n : Node} {name : String} (h : n.bareType? = some name) :
    parseNode path (.object (a.members [("type", .string name)])) = pure (n.settle a.value) := by
  have hkeys : (a.members [("type", .string name)]).map Prod.fst ⊆ ["type"] := by
    rw [a.keys_members]
    exact List.Subset.refl _
  rw [parseNode_named path hkeys (by decide) (lookup_type a _ _)]
  exact parseNamed_bareType a path h hkeys _ _

theorem parseTypedMembers_strings {named : String → String → Logged Node} (implied : Option String)
    {ns : List Node} {names : List String} {f : Node → Node}
    (h : List.Forall₂ (fun n name => ∀ path, named path name = pure (f n)) ns names) (i : Nat) :
    parseTypedMembers named implied path i (names.map .string) = pure (ns.map f) := by
  induction h generalizing i with
  | nil => rfl
  | cons hn _ ih =>
    rw [List.map_cons, parseTypedMembers, parseTyped, hn, ih, Logged.pure_bind, Logged.pure_bind]
    rfl

theorem parseMembers_documents {ns : List Node} (h : ∀ n ∈ ns, ReadBack a n) (i : Nat) :
    parseMembers path i ((Node.documents ns).map a.value) =
      pure (ns.map (Node.settle a.value)) := by
  induction ns generalizing i with
  | nil => rfl
  | cons n ns ih =>
    rw [List.forall_mem_cons] at h
    rw [Node.documents, List.map_cons, parseMembers, h.1.bare, ih h.2, Logged.pure_bind,
      Logged.pure_bind]
    rfl

/-- The types of the members of a union that consist of their types. -/
theorem forall₂_bareType {ns : List Node} {names : List String}
    (h : (ns.map Node.bareType?).mapM id = some names) :
    List.Forall₂ (fun n name => n.bareType? = some name) ns names := by
  induction ns generalizing names with
  | nil =>
    obtain rfl : names = [] := by simpa using h.symm
    exact .nil
  | cons n ns ih =>
    simp only [List.map_cons, List.mapM_cons, id, Option.bind_eq_bind, Option.bind_eq_some_iff,
      Option.pure_def, Option.some.injEq] at h
    obtain ⟨name, hname, names, hnames, rfl⟩ := h
    exact .cons hname (ih hnames)

theorem parseNode_union {ns : List Node} (hne : ns ≠ []) (h : ∀ n ∈ ns, ReadBack a n)
    {ms : List (String × Value)} (hms : (Node.union ns).document = .object ms) :
    parseNode path (.object (a.members ms)) =
      pure (joinMembers (ns.map (Node.settle a.value))) := by
  rw [Node.document, Node.unionDocument] at hms
  split at hms
  next names hnames =>
    obtain rfl := Value.object.inj hms
    have hkeys : (a.members [("type", .array (names.map .string))]).map Prod.fst ⊆ ["type"] := by
      rw [a.keys_members]
      exact List.Subset.refl _
    have htype : field "type" (a.members [("type", .array (names.map .string))]) =
        .array (names.map .string) := a.value_strings names
    have hbare := forall₂_bareType hnames
    have hnonempty : (names.map Value.string).isEmpty = false := by
      cases hbare with
      | nil => exact absurd rfl hne
      | cons => rfl
    rw [parseNode_typed path hkeys (by decide), htype, parseTyped, hnonempty,
      parseTypedMembers_strings]
    · rfl
    · exact hbare.imp fun n name hname path => parseNamed_bareType a path hname hkeys _ _
  next =>
    obtain rfl := Value.object.inj hms
    have hnonempty : ((Node.documents ns).map a.value).isEmpty = false := by
      simpa [Node.documents_eq_map] using hne
    have hunion : lookup "anyOf" (a.members [("anyOf", .array (Node.documents ns))]) =
        some (.array ((Node.documents ns).map a.value)) := by
      rw [← a.array]
      rfl
    have hunsupported : unsupportedKeywords.find?
        (hasKey · (a.members [("anyOf", .array (Node.documents ns))])) = none := by
      rw [List.find?_eq_none]
      intro key hkey
      have hne : key ∉ (a.members [("anyOf", .array (Node.documents ns))]).map Prod.fst := by
        rw [a.keys_members]
        exact (by decide : ∀ key ∈ unsupportedKeywords, key ∉ ["anyOf"]) key hkey
      simp [hasKey, Value.lookup_eq_none_iff.2 hne]
    rw [parseNode, hunsupported, parseUnionAt_eq, hunion]
    simp only [Option.map_some, parseUnion, hnonempty, Bool.false_eq_true, if_false,
      parseMembers_documents a path h, Logged.pure_bind]

/-! ### All schemas -/

/-- A document is read as its members are, whatever their places and the description. -/
theorem readBack_of_members {n : Node} {ms : List (String × Value)} (hms : n.document = .object ms)
    (h : ∀ path, parseNode path (.object (a.members ms)) = pure (n.settle a.value)) :
    ReadBack a n := by
  obtain ⟨ms', hms', hkeys, hdescription⟩ := n.exists_document
  obtain rfl := Value.object.inj (hms.symm.trans hms')
  intro description path
  obtain ⟨ns, hns, hsame, -⟩ := exists_arranged_describe a hkeys hdescription description
  rw [hms, hns, hsame.parseNode, h]

/-- A schema that is built by the constructors is read from its document, joined. -/
theorem readBack_of_built {n : Node} {note : Value → Prop} (h : n.Built Value.Proper note) :
    ReadBack a n := by
  induction n using Node.induct with
  | boolean => exact readBack_of_members a rfl fun path => parseNode_bareType a path rfl
  | integer => exact readBack_of_members a rfl fun path => parseNode_bareType a path rfl
  | number => exact readBack_of_members a rfl fun path => parseNode_bareType a path rfl
  | null => exact readBack_of_members a rfl fun path => parseNode_bareType a path rfl
  | text least most =>
    exact readBack_of_members a rfl fun path => parseNode_text a path least most
  | choice choices =>
    obtain ⟨hmade, -⟩ := h _ (Node.mem_parts_self _)
    exact readBack_of_members a rfl fun path => parseNode_choice a path hmade
  | object ps ih =>
    have hparts := (Node.forall_parts_object.1 h).2
    refine readBack_of_members a (document_object ps) fun path => ?_
    rw [parseNode_object a path fun p hp => ih p hp (hparts p hp), Node.settle,
      Node.settleProperties_eq_map]
  | array items least most ih =>
    obtain ⟨⟨hmade, hleast, hmost⟩, hparts⟩ := Node.forall_parts_array.1 h
    exact readBack_of_members a rfl fun path =>
      parseNode_array a path ((ih hparts).bare _) hmade hleast hmost
  | union ns ih =>
    obtain ⟨⟨hmade, -⟩, hparts⟩ := Node.forall_parts_union.1 h
    obtain ⟨ms, hms, -⟩ := (Node.union ns).exists_document
    refine readBack_of_members a hms fun path => ?_
    rw [parseNode_union a path (Node.ofMembers_eq_ok_iff.1 hmade).1
      (fun n hn => ih n hn (hparts n hn)) hms, Node.settle, Node.settleMembers_eq_map]

end Reading

end GuidedJson.Schema
