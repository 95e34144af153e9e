import GuidedJson.Proofs.Schema.Legible

/-!
# Keywords that are read

Which keywords of a document are read depends on the type that it names. A union reads nothing but
its members; a list of types is a union of documents that name one of them each; and what a text is
restricted to is read of texts alone.
-/

namespace GuidedJson.Schema

open Value (lookup field hasKey)

/-! ## Members without some keywords -/

section Members

variable {keys : List String} {key : String} {ms ns : List (String × Value)}

/-- The members of other keys. -/
def without (keys : List String) (ms : List (String × Value)) : List (String × Value) :=
  ms.filter fun m => m.1 ∉ keys

theorem lookup_without (hkey : key ∉ keys) : lookup key (without keys ms) = lookup key ms := by
  induction ms with
  | nil => rfl
  | cons m ms ih =>
    unfold without at ih ⊢
    by_cases hm : m.1 ∈ keys
    · have hne : m.1 ≠ key := fun heq => hkey (heq ▸ hm)
      rw [List.filter_cons_of_neg (by simpa using hm), ih, lookup, if_neg hne]
    · rw [List.filter_cons_of_pos (by simpa using hm), lookup, lookup, ih]

theorem lookup_without_of_mem (hkey : key ∈ keys) : lookup key (without keys ms) = none := by
  induction ms with
  | nil => rfl
  | cons m ms ih =>
    unfold without at ih ⊢
    by_cases hm : m.1 ∈ keys
    · rw [List.filter_cons_of_neg (by simpa using hm), ih]
    · have hne : m.1 ≠ key := fun heq => hm (heq ▸ hkey)
      rw [List.filter_cons_of_pos (by simpa using hm), lookup, if_neg hne, ih]

/-- A document that names one type, and is the same otherwise. -/
def ofType (t : Value) (ms : List (String × Value)) : List (String × Value) :=
  ("type", t) :: without ["type"] ms

theorem field_type_ofType (t : Value) (ms : List (String × Value)) : field "type" (ofType t ms) = t :=
  rfl

/-- Whether two documents agree on some keywords. -/
def Agree (keys : List String) (ms ns : List (String × Value)) : Prop :=
  ∀ key ∈ keys, lookup key ms = lookup key ns

theorem Agree.mono {keys' : List String} (h : Agree keys ms ns) (hsub : keys' ⊆ keys) :
    Agree keys' ms ns := fun key hkey => h key (hsub hkey)

theorem Agree.field (h : Agree keys ms ns) (hkey : key ∈ keys) : field key ms = field key ns := by
  rw [Value.field, Value.field, h key hkey]

theorem Agree.hasKey (h : Agree keys ms ns) (hkey : key ∈ keys) :
    hasKey key ms = hasKey key ns := by
  rw [Value.hasKey, Value.hasKey, h key hkey]

theorem agree_ofType (hkeys : "type" ∉ keys) (t : Value) (ms : List (String × Value)) :
    Agree keys (ofType t ms) ms := by
  intro key hkey
  have hne : key ≠ "type" := fun heq => hkeys (heq ▸ hkey)
  rw [ofType, lookup, if_neg hne.symm, lookup_without (by simpa using hne)]

theorem agree_without (dropped : List String) (hkeys : ∀ key ∈ keys, key ∉ dropped)
    (ms : List (String × Value)) : Agree keys (without dropped ms) ms :=
  fun key hkey => lookup_without (hkeys key hkey)

end Members

/-! ## Keywords of a named type -/

section Named

variable {ms ns : List (String × Value)} {path name : String}

def textKeywords : List String := ["const", "enum", "minLength", "maxLength"]

def innerKeywords : List String := ["properties", "required", "items", "minItems", "maxItems"]

theorem parseText_congr (h : Agree textKeywords ms ns) : parseText path ms = parseText path ns := by
  have hchoices : choicesOf ms = choicesOf ns := by
    rw [choicesOf, choicesOf, h "const" (by decide), h.field (by decide)]
  rw [parseText, parseText, hchoices, h.field (by decide), h.field (by decide)]

/-- A named type, with the items and the properties of the document. -/
def readNamed (ms : List (String × Value)) : String → String → Logged Node :=
  parseNamed ms (fun path => parseItemsAt path ms) (fun path => parsePropertiesAt path ms)

/-- What restricts a text is read of texts alone. -/
theorem readNamed_congr (h : Agree innerKeywords ms ns)
    (htext : name = "string" → parseText path ms = parseText path ns) :
    readNamed ms path name = readNamed ns path name := by
  have hproperties := h "properties" (by decide)
  have hitems := h "items" (by decide)
  have hrequired : field "required" ms = field "required" ns := h.field (by decide)
  have hleast : field "minItems" ms = field "minItems" ns := h.field (by decide)
  have hmost : field "maxItems" ms = field "maxItems" ns := h.field (by decide)
  unfold readNamed parseNamed
  simp only [parseItemsAt_eq, parsePropertiesAt_eq, hproperties, hitems, hrequired, hleast, hmost]
  split
  · rfl
  · rfl
  · exact htext rfl
  all_goals rfl

end Named

/-! ## Documents -/

section Documents

variable {ms ns : List (String × Value)} {path : String}

/-- The members of a union, if a document is one. -/
def unionOf? (ms : List (String × Value)) : Option Value :=
  (lookup "anyOf" ms).or (lookup "oneOf" ms)

def unionKeywords : List String := ["anyOf", "oneOf"]

theorem unionOf?_congr (h : Agree unionKeywords ms ns) : unionOf? ms = unionOf? ns := by
  rw [unionOf?, unionOf?, h "anyOf" (by decide), h "oneOf" (by decide)]

theorem find?_unsupportedKeywords (h : Agree unsupportedKeywords ms ns) :
    unsupportedKeywords.find? (hasKey · ms) = unsupportedKeywords.find? (hasKey · ns) := by
  revert h
  generalize unsupportedKeywords = keys
  intro h
  induction keys with
  | nil => rfl
  | cons key keys ih =>
    rw [List.find?_cons, List.find?_cons, h.hasKey List.mem_cons_self,
      ih (h.mono (List.subset_cons_self _ _))]

/-- A document is read as a union or by its type, unless it has a keyword that is not supported. -/
theorem parseNode_eq (path : String) (ms : List (String × Value)) :
    parseNode path (.object ms) =
      match unsupportedKeywords.find? (hasKey · ms) with
      | some name => throw (.schema (.keyword path name))
      | none =>
        match unionOf? ms with
        | some v => parseUnion path v
        | none => parseTyped (readNamed ms) (impliedType? ms) path (field "type" ms) := by
  rw [parseNode, parseUnionAt_eq, parseUnionAt_eq, unionOf?]
  cases lookup "anyOf" ms <;> cases lookup "oneOf" ms <;> rfl

theorem parseTypedMembers_eq {named : String → String → Logged Node} {implied : Option String}
    {doc : Value → Value}
    (h : ∀ path t, parseTyped named implied path t = parseNode path (doc t))
    (i : Nat) (ts : List Value) :
    parseTypedMembers named implied path i ts = parseMembers path i (ts.map doc) := by
  induction ts generalizing i with
  | nil => rfl
  | cons t ts ih => rw [parseTypedMembers, List.map_cons, parseMembers, h, ih]

/-- A list of types is the union of the documents that name one of them. -/
theorem parseNode_listed {ts : List Value} (hunion : unionOf? ms = none)
    (hkeyword : unsupportedKeywords.find? (hasKey · ms) = none) (hts : field "type" ms = .array ts) :
    parseNode path (.object ms) =
      parseUnion path (.array (ts.map fun t => .object (ofType t ms))) := by
  -- The type that a document names decides neither which type it implies nor what a named type reads.
  have hone (path : String) (t : Value) : parseTyped (readNamed ms) (impliedType? ms) path t =
      parseNode path (.object (ofType t ms)) := by
    have himplied : impliedType? (ofType t ms) = impliedType? ms := by
      have h : Agree ["properties", "items", "enum"] (ofType t ms) ms :=
        agree_ofType (by decide) t ms
      rw [impliedType?, impliedType?, h.hasKey (by decide), h.hasKey (by decide),
        h.hasKey (by decide)]
    have hnamed : readNamed (ofType t ms) = readNamed ms := funext fun path => funext fun name =>
      readNamed_congr (agree_ofType (by decide) t ms) fun _ =>
        parseText_congr (agree_ofType (by decide) t ms)
    rw [parseNode_eq, find?_unsupportedKeywords (agree_ofType (by decide) t ms), hkeyword,
      unionOf?_congr (agree_ofType (by decide) t ms), hunion, himplied, hnamed, field_type_ofType]
  rw [parseNode_eq, hkeyword, hunion, hts]
  dsimp only
  rw [parseTyped, parseUnion, parseTypedMembers_eq hone, List.isEmpty_map]

/-- The keywords that restrict the values of a document to given ones. -/
def restrictionKeywords : List String := ["enum", "const"]

theorem parseTyped_congr {named named' : String → String → Logged Node}
    {implied implied' : Option String}
    (hnamed : ∀ path name, name ≠ "string" → named path name = named' path name)
    (himplied : implied ≠ some "string" → implied' = implied) (v : Value) :
    "string" ∉ typeNames implied v → ∀ path,
      parseTyped named implied path v = parseTyped named' implied' path v := by
  -- By induction on the named type, as a list of types may have lists among its members.
  induction v using Value.induct with
  | scalar v harray hobject =>
    intro h path
    cases v with
    | null =>
      rw [himplied fun heq => h (by rw [heq]; exact List.mem_singleton_self _)]
      cases implied with
      | none => rfl
      | some name => exact hnamed path name fun heq => h (by rw [heq]; exact List.mem_singleton_self _)
    | string name =>
      exact hnamed path name fun heq => h (by rw [heq]; exact List.mem_singleton_self _)
    | array vs => exact absurd rfl (harray vs)
    | object ms => exact absurd rfl (hobject ms)
    | bool | int | float => rfl
  | array types ih =>
    intro h path
    have hmembers (i : Nat) : parseTypedMembers named implied path i types =
        parseTypedMembers named' implied' path i types := by
      rw [typeNames] at h
      induction types generalizing i with
      | nil => rfl
      | cons t types ihs =>
        rw [typeNamesOf, List.mem_append, not_or] at h
        rw [List.forall_mem_cons] at ih
        rw [parseTypedMembers, parseTypedMembers, ih.1 h.1, ihs ih.2 h.2]
    rw [parseTyped, parseTyped, hmembers]
  | object ms ih => exact fun _ _ => rfl

/-- Beside a union, and where no type is that of texts, restrictions are not read. -/
theorem parseNode_unrestricted (h : (unionOf? ms).isSome = true ∨ "string" ∉ typesOf ms) :
    parseNode path (.object ms) = parseNode path (.object (without restrictionKeywords ms)) := by
  rw [parseNode_eq, parseNode_eq,
    find?_unsupportedKeywords (agree_without restrictionKeywords (by decide) ms),
    unionOf?_congr (agree_without restrictionKeywords (by decide) ms)]
  cases hunion : unionOf? ms with
  | some v => rfl
  | none =>
    have htypes : "string" ∉ typesOf ms := by simpa [hunion] using h
    have hnamed (path name : String) (hname : name ≠ "string") :
        readNamed ms path name = readNamed (without restrictionKeywords ms) path name :=
      (readNamed_congr (agree_without _ (by decide) ms) fun heq => absurd heq hname).symm
    -- Listed values imply the type of texts only behind properties and items.
    have himplied (hne : impliedType? ms ≠ some "string") :
        impliedType? (without restrictionKeywords ms) = impliedType? ms := by
      have hagree : Agree ["properties", "items"] (without restrictionKeywords ms) ms :=
        agree_without _ (by decide) ms
      have henum : hasKey "enum" (without restrictionKeywords ms) = false := by
        rw [hasKey, lookup_without_of_mem (by decide)]
        rfl
      rw [impliedType?] at hne
      rw [impliedType?, impliedType?, hagree.hasKey (by decide), hagree.hasKey (by decide), henum]
      revert hne
      cases hasKey "properties" ms <;> cases hasKey "items" ms <;> cases hasKey "enum" ms <;>
        first | exact fun _ => rfl | exact fun hne => absurd rfl hne
    have htype : field "type" (without restrictionKeywords ms) = field "type" ms := by
      rw [field, field, lookup_without (by decide)]
    rw [htype, parseTyped_congr hnamed himplied _ htypes]

end Documents

end GuidedJson.Schema
