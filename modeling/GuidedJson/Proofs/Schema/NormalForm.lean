import GuidedJson.Proofs.Schema.Parsed

/-!
# Canonical texts as normal forms

The canonical text of a schema that is read is the canonical text of itself as a schema. A schema
that is built has, as a document and as a text of the document, the canonical text of the schema
joined; this is its own exactly if no union in it has one member alone.
-/

namespace GuidedJson.Schema

open Value (Proper Readable canonicalMembers)

/-! ## Canonical documents of settled schemas -/

namespace Node

/-- Whether two schemas have documents of which the canonical forms are the same: they have the
same keys in the same places, with values of the same canonical form. -/
def SameCanonical (m n : Node) : Prop :=
  ∃ ms ns, m.document = .object ms ∧ n.document = .object ns ∧
    canonicalMembers false ms = canonicalMembers false ns

section SameCanonical

variable {m n : Node}

theorem SameCanonical.document (h : SameCanonical m n) :
    m.document.canonical false = n.document.canonical false := by
  obtain ⟨ms, ns, hms, hns, heq⟩ := h
  rw [hms, hns, Value.canonical, Value.canonical, heq]

theorem SameCanonical.rfl (n : Node) : SameCanonical n n := by
  obtain ⟨ms, hms, -⟩ := n.exists_document
  exact ⟨ms, ms, hms, hms, Eq.refl _⟩

theorem canonicalMembers_append (p : Bool) (ms ns : List (String × Value)) :
    canonicalMembers p (ms ++ ns) = canonicalMembers p ms ++ canonicalMembers p ns := by
  rw [Value.canonicalMembers_eq, Value.canonicalMembers_eq, Value.canonicalMembers_eq,
    List.map_append]

theorem keys_eq_of_canonicalMembers {ms ns : List (String × Value)}
    (h : canonicalMembers false ms = canonicalMembers false ns) :
    ms.map Prod.fst = ns.map Prod.fst := by
  rw [← Value.keys_canonicalMembers false ms, h, Value.keys_canonicalMembers]

theorem isNull_eq_of_canonical {d e : Value} (h : d.canonical false = e.canonical false) :
    d.isNull = e.isNull := by
  rw [← Value.isNull_canonical false d, h, Value.isNull_canonical]

/-- A description may be added to both. -/
theorem SameCanonical.describe (h : SameCanonical m n) {d e : Value}
    (hcanonical : d.canonical false = e.canonical false) :
    (Node.describe d m.document).canonical false =
      (Node.describe e n.document).canonical false := by
  obtain ⟨ms, ns, hms, hns, heq⟩ := h
  obtain ⟨_, hms', -, hno⟩ := m.exists_document
  obtain rfl := Value.object.inj (hms.symm.trans hms')
  have hno' : "description" ∉ ns.map Prod.fst := by rwa [← keys_eq_of_canonicalMembers heq]
  rw [hms, hns, Node.describe, Node.describe, isNull_eq_of_canonical hcanonical]
  split
  · rw [Value.canonical, Value.canonical, heq]
  · rw [Json.insertMember_of_not_mem hno, Json.insertMember_of_not_mem hno', Value.canonical,
      Value.canonical, canonicalMembers_append, canonicalMembers_append, heq]
    simp [canonicalMembers, hcanonical]

/-- The members of bounds whose canonical forms are the same. -/
theorem canonicalMembers_optionalMember {key : String} (hkey : key ≠ "properties") {d e : Value}
    (h : d.canonical false = e.canonical false) :
    canonicalMembers false (optionalMember key d) =
      canonicalMembers false (optionalMember key e) := by
  have hbeq : (key == "properties") = false := beq_eq_false_iff_ne.2 hkey
  unfold optionalMember
  rw [isNull_eq_of_canonical h]
  split
  · rfl
  · simp [canonicalMembers, hbeq, h]

/-- Whether two schemas have the same canonical documents, and the same types where these say
everything. -/
def Alike (m n : Node) : Prop := SameCanonical m n ∧ m.bareType? = n.bareType?

theorem Alike.rfl (n : Node) : Alike n n := ⟨.rfl n, Eq.refl _⟩

theorem documents_of_alike {ms ns : List Node} (h : List.Forall₂ Alike ms ns) :
    (documents ms).map (Value.canonical false) = (documents ns).map (Value.canonical false) ∧
      ms.map bareType? = ns.map bareType? := by
  induction h with
  | nil => exact ⟨Eq.refl _, Eq.refl _⟩
  | cons hm _ ih =>
    rw [documents, documents, List.map_cons, List.map_cons, List.map_cons, List.map_cons,
      hm.1.document, hm.2, ih.1, ih.2]
    exact ⟨Eq.refl _, Eq.refl _⟩

theorem alike_union {ms ns : List Node} (h : List.Forall₂ Alike ms ns) :
    Alike (.union ms) (.union ns) := by
  obtain ⟨hdocuments, htypes⟩ := documents_of_alike h
  refine ⟨?_, Eq.refl _⟩
  rw [SameCanonical, document, document, unionDocument, unionDocument, htypes]
  split
  · exact ⟨_, _, Eq.refl _, Eq.refl _, Eq.refl _⟩
  · refine ⟨_, _, Eq.refl _, Eq.refl _, ?_⟩
    simp only [canonicalMembers, Value.canonical_array, hdocuments]

theorem alike_joinMembers {ms ns : List Node} (h : List.Forall₂ Alike ms ns) :
    Alike (joinMembers ms) (joinMembers ns) := by
  cases h with
  | nil => exact .rfl _
  | cons hm hrest =>
    cases hrest with
    | nil => exact hm
    | cons hm' hrest => exact alike_union (.cons hm (.cons hm' hrest))

/-- The canonical form of a bound or a description does not change the canonical document. -/
theorem alike_settle {f g : Value → Value} {n : Node} {bound note : Value → Prop}
    (h : n.Built bound note) (hbound : ∀ v, bound v → (f v).canonical false = (g v).canonical false)
    (hnote : ∀ v, note v → (f v).canonical false = (g v).canonical false) :
    Alike (n.settle f) (n.settle g) := by
  induction n using induct with
  | boolean | integer | number | null | choice => exact .rfl _
  | text least most =>
    obtain ⟨-, hleast, hmost⟩ := h _ (mem_parts_self _)
    refine ⟨⟨_, _, Eq.refl _, Eq.refl _, ?_⟩, ?_⟩
    · rw [canonicalMembers, canonicalMembers, canonicalMembers_append, canonicalMembers_append,
        canonicalMembers_optionalMember (by decide) (hbound _ hleast),
        canonicalMembers_optionalMember (by decide) (hbound _ hmost)]
    · rw [settle, settle, bareType?, bareType?, isNull_eq_of_canonical (hbound _ hleast),
        isNull_eq_of_canonical (hbound _ hmost)]
  | object ps ih =>
    obtain ⟨⟨-, hps⟩, hparts⟩ := forall_parts_object.1 h
    have hdocuments : (propertyDocuments (ps.map (settleProperty f))).map
          (fun m => (m.1, m.2.canonical false)) =
        (propertyDocuments (ps.map (settleProperty g))).map
          (fun m => (m.1, m.2.canonical false)) := by
      rw [propertyDocuments_eq_map, propertyDocuments_eq_map, List.map_map, List.map_map,
        List.map_map, List.map_map]
      exact List.map_congr_left fun p hp => Prod.ext (Eq.refl _)
        ((ih p hp (hparts p hp)).1.describe (hnote _ (hps p hp)))
    have hnames : (ps.map (settleProperty f)).map (·.name) =
        (ps.map (settleProperty g)).map (·.name) := by
      rw [List.map_map, List.map_map]
      exact Eq.refl _
    refine ⟨?_, Eq.refl _⟩
    rw [SameCanonical, settle, settle, settleProperties_eq_map, settleProperties_eq_map,
      document_object, document_object]
    refine ⟨_, _, Eq.refl _, Eq.refl _, ?_⟩
    have hmaps : (Value.object (propertyDocuments (ps.map (settleProperty f)))).canonical true =
        (Value.object (propertyDocuments (ps.map (settleProperty g)))).canonical true := by
      rw [Value.canonical_propertyMap, Value.canonical_propertyMap, hdocuments]
    simp only [objectMembers, canonicalMembers, hnames, beq_self_eq_true, Bool.not_false,
      Bool.and_self, hmaps]
  | array items least most ih =>
    obtain ⟨⟨-, hleast, hmost⟩, hparts⟩ := forall_parts_array.1 h
    refine ⟨⟨_, _, Eq.refl _, Eq.refl _, ?_⟩, Eq.refl _⟩
    have hitems : ("items" == "properties") = false := by decide
    simp only [canonicalMembers, canonicalMembers_append, hitems, Bool.false_and,
      (ih hparts).1.document,
      canonicalMembers_optionalMember (by decide : "minItems" ≠ "properties") (hbound _ hleast),
      canonicalMembers_optionalMember (by decide : "maxItems" ≠ "properties") (hbound _ hmost)]
  | union ns ih =>
    have hparts := (forall_parts_union.1 h).2
    rw [settle, settle, settleMembers_eq_map, settleMembers_eq_map]
    refine alike_joinMembers ?_
    rw [List.forall₂_map_left_iff, List.forall₂_map_right_iff]
    exact List.forall₂_same.2 fun n hn => ih n hn (hparts n hn)

end SameCanonical

end Node

/-! ## Arrays in documents -/

mutual
/-- How many arrays there are in a document. -/
def arrayCount : Value → Nat
  | .array vs => arrayCountItems vs + 1
  | .object ms => arrayCountMembers ms
  | _ => 0

def arrayCountItems : List Value → Nat
  | [] => 0
  | v :: vs => arrayCount v + arrayCountItems vs

def arrayCountMembers : List (String × Value) → Nat
  | [] => 0
  | (_, v) :: ms => arrayCount v + arrayCountMembers ms
end

section ArrayCount

variable {vs : List Value} {ms ns : List (String × Value)}

theorem arrayCountItems_eq (vs : List Value) : arrayCountItems vs = (vs.map arrayCount).sum := by
  induction vs with
  | nil => rfl
  | cons v vs ih => rw [arrayCountItems, ih, List.map_cons, List.sum_cons]

theorem arrayCountMembers_eq (ms : List (String × Value)) :
    arrayCountMembers ms = (ms.map fun m => arrayCount m.2).sum := by
  induction ms with
  | nil => rfl
  | cons m ms ih => rw [arrayCountMembers, ih, List.map_cons, List.sum_cons]

theorem arrayCountMembers_append (ms ns : List (String × Value)) :
    arrayCountMembers (ms ++ ns) = arrayCountMembers ms + arrayCountMembers ns := by
  rw [arrayCountMembers_eq, arrayCountMembers_eq, arrayCountMembers_eq, List.map_append,
    List.sum_append]

/-- The canonical form of a document has the arrays of the document. -/
theorem arrayCount_canonical (v : Value) : ∀ p, arrayCount (v.canonical p) = arrayCount v := by
  induction v using Value.induct with
  | scalar v harray hobject =>
    intro p
    rw [Value.canonical_scalar p harray hobject]
  | array vs ih =>
    intro p
    rw [Value.canonical_array, arrayCount, arrayCount, arrayCountItems_eq, arrayCountItems_eq,
      List.map_map]
    congr 2
    exact List.map_congr_left fun v hv => ih v hv false
  | object ms ih =>
    intro p
    obtain ⟨ns, htext, hns⟩ := Value.exists_canonical_object p ms
    rw [htext, arrayCount, arrayCount, arrayCountMembers_eq, arrayCountMembers_eq,
      (hns.map _).sum_eq, List.map_map]
    congr 1
    exact List.map_congr_left fun m hm => ih m hm _

theorem arrayCount_strings (names : List String) :
    arrayCount (.array (names.map .string)) = 1 := by
  have hzero : (names.map Value.string).map arrayCount = names.map fun _ => 0 := by
    rw [List.map_map]
    rfl
  rw [arrayCount, arrayCountItems_eq, hzero]
  simp

theorem arrayCount_optionalMember (key : String) (v : Value) :
    arrayCountMembers (Node.optionalMember key v) = arrayCount v := by
  unfold Node.optionalMember
  split
  next hnull =>
    rw [eq_null_of_isNull hnull]
    rfl
  next => exact Nat.add_zero _

namespace Node

theorem arrayCount_describe (n : Node) (description : Value) :
    arrayCount (describe description n.document) =
      arrayCount n.document + arrayCount description := by
  obtain ⟨ms, hms, -, hno⟩ := n.exists_document
  rw [hms, describe]
  split
  next hnull =>
    rw [eq_null_of_isNull hnull]
    rfl
  next =>
    rw [Json.insertMember_of_not_mem hno, arrayCount, arrayCountMembers_append]
    rfl

theorem arrayCount_bareType {n : Node} {name : String} (h : n.bareType? = some name) :
    arrayCount n.document = 0 := by
  cases n with
  | boolean | integer | number | null => rfl
  | text least most =>
    rw [bareType?] at h
    split at h
    next hnull =>
      rw [Bool.and_eq_true] at hnull
      rw [eq_null_of_isNull hnull.1, eq_null_of_isNull hnull.2]
      rfl
    next => cases h
  | choice | object | array | union => cases h

/-- The document of an object has an array of names, and the arrays of its members. -/
theorem arrayCount_object (ps : List (Property Node)) : arrayCount (object ps).document =
    (ps.map fun p => arrayCount p.schema.document + arrayCount p.description).sum + 1 := by
  have hmaps : arrayCountMembers (propertyDocuments ps) =
      (ps.map fun p => arrayCount p.schema.document + arrayCount p.description).sum := by
    rw [arrayCountMembers_eq, propertyDocuments_eq_map, List.map_map]
    congr 1
    exact List.map_congr_left fun p _ => arrayCount_describe _ _
  have hnames := arrayCount_strings (ps.map (·.name))
  rw [document_object, objectMembers]
  simp only [arrayCount, arrayCountMembers] at hnames ⊢
  omega

/-- The document of a union has an array of its own, and the arrays of its members. -/
theorem arrayCount_union (ns : List Node) : arrayCount (union ns).document =
    (ns.map fun n => arrayCount n.document).sum + 1 := by
  rw [document, unionDocument]
  split
  next names hnames =>
    have hbare := forall₂_bareType hnames
    have hzero : (ns.map fun n => arrayCount n.document).sum = 0 := by
      clear hnames
      induction hbare with
      | nil => rfl
      | cons hn _ ih => rw [List.map_cons, List.sum_cons, arrayCount_bareType hn, ih]
    rw [hzero, arrayCount, arrayCountMembers, arrayCountMembers, arrayCount_strings]
  next =>
    rw [arrayCount, arrayCountMembers, arrayCountMembers, arrayCount, arrayCountItems_eq,
      documents_eq_map, List.map_map]
    rfl

/-- A sum is no larger than another where its parts are no larger, and smaller where one is. -/
theorem sum_map_le {α : Type} {f g : α → Nat} {xs : List α} (h : ∀ x ∈ xs, f x ≤ g x) :
    (xs.map f).sum ≤ (xs.map g).sum ∧
      ((xs.map g).sum ≤ (xs.map f).sum → ∀ x ∈ xs, g x ≤ f x) := by
  induction xs with
  | nil => simp
  | cons x xs ih =>
    rw [List.forall_mem_cons] at h
    obtain ⟨hle, heq⟩ := ih h.2
    have hx := h.1
    simp only [List.map_cons, List.sum_cons, List.forall_mem_cons]
    exact ⟨by omega, fun hge => ⟨by omega, heq (by omega)⟩⟩

/-- Joining a union of one member takes an array out of the document. -/
theorem arrayCount_joined (n : Node) : arrayCount n.joined.document ≤ arrayCount n.document ∧
    (arrayCount n.document ≤ arrayCount n.joined.document → n.Branching) := by
  unfold joined
  induction n using induct with
  | boolean | integer | number | null | text | choice =>
    refine ⟨Nat.le_refl _, fun _ => ?_⟩
    refine List.forall_mem_singleton.2 ?_
    rintro _ ⟨⟩
  | object ps ih =>
    rw [settle, settleProperties_eq_map, arrayCount_object, arrayCount_object, List.map_map]
    obtain ⟨hle, heq⟩ := sum_map_le
      (f := fun p : Property Node =>
        arrayCount (p.schema.settle id).document + arrayCount p.description)
      (g := fun p => arrayCount p.schema.document + arrayCount p.description)
      fun p hp => Nat.add_le_add_right (ih p hp).1 _
    refine ⟨Nat.add_le_add_right hle 1, fun hge => ?_⟩
    refine forall_parts_object.2 ⟨?_, fun p hp => (ih p hp).2 ?_⟩
    · rintro _ ⟨⟩
    · exact Nat.le_of_add_le_add_right (heq (Nat.le_of_add_le_add_right hge) p hp)
  | array items least most ih =>
    simp only [settle, document, arrayCount, arrayCountMembers, arrayCountMembers_append,
      arrayCount_optionalMember, id_eq]
    refine ⟨by omega, fun hge => forall_parts_array.2 ⟨?_, ih.2 (by omega)⟩⟩
    rintro _ ⟨⟩
  | union ns ih =>
    obtain ⟨hle, heq⟩ := sum_map_le
      (f := fun n : Node => arrayCount (n.settle id).document) (g := fun n => arrayCount n.document)
      fun n hn => (ih n hn).1
    rw [settle, settleMembers_eq_map, arrayCount_union]
    by_cases hone : ∃ n, ns = [n]
    · obtain ⟨n, rfl⟩ := hone
      have hn := (ih n (List.mem_singleton_self n)).1
      simp only [List.map_cons, List.map_nil, joinMembers, List.sum_cons, List.sum_nil]
      exact ⟨by omega, fun hge => by omega⟩
    · rw [not_exists] at hone
      have hmap (m : Node) : ns.map (settle id) ≠ [m] := by
        intro hmap
        obtain ⟨n, hn, -⟩ := List.map_eq_singleton_iff.1 hmap
        exact hone n hn
      rw [joinMembers_of_ne hmap, arrayCount_union, List.map_map]
      refine ⟨Nat.add_le_add_right hle 1, fun hge => ?_⟩
      refine forall_parts_union.2 ⟨fun m hm => hone m (union.inj hm), fun n hn => (ih n hn).2 ?_⟩
      exact heq (Nat.le_of_add_le_add_right hge) n hn

end Node

end ArrayCount

/-! ## Texts of schemas -/

namespace Node

variable {n : Node}

/-- The document of a schema is read as the schema, joined. -/
theorem parse_document (h : n.Built Proper Proper) : parse n.document = pure n.joined :=
  (readBack_of_built Arrangement.same h).bare _

/-- The schema that is read from a canonical text has the canonical text of the schema joined. -/
theorem exists_parseText?_canonicalText (h : n.Built Proper Proper) {text : String}
    (htext : n.canonicalText = .ok text) :
    ∃ m, parseText? text = pure m ∧ m.canonicalText = n.joined.canonicalText := by
  refine ⟨_, parseText?_canonicalText h htext, ?_⟩
  have hcanonical (v : Value) (hv : v.Proper) : (v.canonical false).canonical false =
      (id v).canonical false := Value.canonical_canonical v false hv
  have halike := alike_settle h hcanonical hcanonical
  rw [canonicalText, canonicalText, Value.canonicalText, Value.canonicalText, joined,
    halike.1.document]

theorem joined_parsed (h : n.Built Proper Proper) (hfits : n.document.Fits) :
    n.joined.Parsed Readable := by
  refine readsParsed inward_readable n.document "$" n.joined
    ⟨hereditary_proper.document h, hfits⟩ ?_
  rw [← parse, parse_document h]
  rfl

/-- Documents with one canonical text have one canonical form. -/
theorem canonical_eq_of_canonicalText {v w : Value} (hv : v.Proper) (hw : w.Proper) {text : String}
    (htext : v.canonicalText = .ok text) (htext' : w.canonicalText = .ok text) :
    v.canonical false = w.canonical false := by
  obtain ⟨hfits, hprinted⟩ := Value.canonicalText_eq_ok_iff.1 htext
  obtain ⟨hfits', hprinted'⟩ := Value.canonicalText_eq_ok_iff.1 htext'
  have hread := (Json.parse_render (Value.proper_canonical v false hv) (some 2)).1
    ((Value.fits_canonical v false).2 hfits)
  have hread' := (Json.parse_render (Value.proper_canonical w false hw) (some 2)).1
    ((Value.fits_canonical w false).2 hfits')
  rw [hprinted] at hread
  rw [hprinted'] at hread'
  exact Except.ok.inj (hread.symm.trans hread')

/-- A schema has the canonical text of itself joined exactly if no union in it has exactly one
member. -/
theorem canonicalText_joined_iff (h : n.Built Proper Proper) {text : String}
    (htext : n.canonicalText = .ok text) : n.joined.canonicalText = .ok text ↔ n.Branching := by
  constructor
  · intro htext'
    have hfits := (Value.canonicalText_eq_ok_iff.1 htext).1
    have hproper := hereditary_readable.document (joined_parsed h hfits).1
    have hcount := congrArg arrayCount (canonical_eq_of_canonicalText
      (hereditary_proper.document h) hproper.1 htext htext')
    rw [arrayCount_canonical, arrayCount_canonical] at hcount
    exact (arrayCount_joined n).2 (Nat.le_of_eq hcount)
  · intro hbranching
    rwa [joined_eq_self hbranching]

end Node

/-! ## All inputs -/

namespace Input

/-- Whether no object in an input has a key twice. A schema must be built by the constructors. -/
def Formed : Input → Prop
  | .document v => v.Proper
  | .text _ => True
  | .node n => n.Built Proper Proper

/-- Whether an input is of a kind of which canonical texts are schemas, and a schema without unions
of one member where it is one. -/
def Normal : Input → Prop
  | .document (.object _) | .document (.string _) | .text _ => True
  | .document _ => False
  | .node n => n.Branching

theorem canonicalText_text {s : String} {n : Node} (h : parseText? s = pure n) :
    (Input.text s).canonicalText = n.canonicalText := by
  rw [canonicalText, h, Logged.pure_bind]

/-- The canonical text of a schema that is read is its own canonical text. -/
theorem canonicalText_of_parsed {n : Node} (h : n.Parsed Proper) {text : String}
    (htext : n.canonicalText = .ok text) : (Input.text text).canonicalText = pure text := by
  obtain ⟨m, hread, hjoined⟩ := Node.exists_parseText?_canonicalText h.1 htext
  rw [canonicalText_text hread, hjoined, Node.joined_eq_self h.2, htext]
  rfl

/-- What is read of a text is as the constructors build it. -/
theorem parsed_of_parseText? {s : String} {n : Node} (h : (parseText? s).result = .ok n) :
    n.Parsed Proper := by
  unfold parseText? at h
  split at h
  · cases h
  · split at h
    · cases h
    next v hv => exact readsParsed inward_proper v _ n (Json.readable_of_parse hv).1 h

/-- A text of a document that is no object is no schema. -/
theorem canonicalText_of_not_object {v : Value} (hv : v.Proper) (hobject : ∀ ms, v ≠ .object ms)
    {text : String} (htext : v.canonicalText = .ok text) (t : String) :
    (Input.text text).canonicalText ≠ pure t := by
  obtain ⟨hfits, rfl⟩ := Value.canonicalText_eq_ok_iff.1 htext
  have hread := (parseText?_render (Value.proper_canonical v false hv) (some 2)).1
    ((Value.fits_canonical v false).2 hfits)
  have hthrow : parse (v.canonical false) =
      throw (.schema (.notObject "$" (v.canonical false).kindName)) := by
    have hne := Value.canonical_ne_object false hobject
    rw [parse]
    cases hw : v.canonical false with
    | object ms => exact absurd hw (hne ms)
    | _ => rfl
  intro h
  rw [canonicalText, hread, hthrow] at h
  cases congrArg Logged.result h

/-- The forms of a schema other than the schema have the canonical text of the schema joined. -/
theorem canonicalText_node {n : Node} (h : n.Built Proper Proper) {text : String}
    (htext : n.canonicalText = .ok text) :
    (Input.text text).canonicalText = n.joined.canonicalText ∧
      (Input.document n.document).canonicalText = n.joined.canonicalText ∧
      ∀ s, Json.parse s = .ok n.document →
        (Input.text s).canonicalText = n.joined.canonicalText := by
  have hparse := Node.parse_document h
  refine ⟨?_, ?_, fun s hs => ?_⟩
  · obtain ⟨m, hread, hjoined⟩ := Node.exists_parseText?_canonicalText h htext
    rw [canonicalText_text hread, hjoined]
  · obtain ⟨ms, hms, -⟩ := n.exists_document
    rw [hms] at hparse ⊢
    rw [canonicalText, hparse, Logged.pure_bind]
  · refine canonicalText_text ?_
    rw [parseText?, Json.isBlankText_of_parse hs, hs]
    exact hparse

theorem lift_eq_pure_iff {x : Except Failure String} {t : String} :
    (x : Logged String) = pure t ↔ x = .ok t := by
  constructor
  · exact fun h => congrArg Logged.result h
  · rintro rfl
    rfl

theorem result_canonicalText_node (n : Node) :
    (Input.node n).canonicalText.result = n.canonicalText := rfl

/-- The canonical text of an input has itself as its canonical text exactly if the input is no
document of another kind, and no schema with a union of one member. The document of a schema and the
texts of the document always have the canonical text that the canonical text of the schema has. -/
theorem canonicalText_again_iff {input : Input} (h : input.Formed) {t : String}
    (ht : input.canonicalText.result = .ok t) :
    ((Input.text t).canonicalText = pure t ↔ input.Normal) ∧
      ∀ n, input = .node n →
        (Input.document n.document).canonicalText = (Input.text t).canonicalText ∧
        ∀ s, Json.parse s = .ok n.document →
          (Input.text s).canonicalText = (Input.text t).canonicalText := by
  cases input with
  | document v =>
    refine ⟨?_, nofun⟩
    cases v with
    | object ms =>
      obtain ⟨n, hn, htext⟩ := Logged.result_bind_eq_ok.1 ht
      exact iff_of_true (canonicalText_of_parsed (readsParsed inward_proper _ _ n h hn) htext)
        trivial
    | string s =>
      obtain ⟨n, hn, htext⟩ := Logged.result_bind_eq_ok.1 ht
      exact iff_of_true (canonicalText_of_parsed (parsed_of_parseText? hn) htext) trivial
    | _ =>
      rw [canonicalText, Logged.result_monadLift] at ht
      · exact iff_of_false (canonicalText_of_not_object h nofun ht _) id
      all_goals exact nofun
  | text s =>
    refine ⟨?_, nofun⟩
    obtain ⟨n, hn, htext⟩ := Logged.result_bind_eq_ok.1 ht
    exact iff_of_true (canonicalText_of_parsed (parsed_of_parseText? hn) htext) trivial
  | node n =>
    obtain ⟨hagain, hdocument, htexts⟩ := canonicalText_node h ht
    refine ⟨?_, ?_⟩
    · rw [hagain]
      exact lift_eq_pure_iff.trans (Node.canonicalText_joined_iff h ht)
    · rintro _ ⟨⟩
      rw [hagain]
      exact ⟨hdocument, htexts⟩

theorem canonicalText_again_iff_keywords : (Input.node Node.keywords).Formed ∧
    ∃ t, (Input.node Node.keywords).canonicalText.result = .ok t ∧
      (Input.text t).canonicalText = pure t ∧
      (Input.document Node.keywords.document).canonicalText = pure t := by
  have hreadable : Node.keywords.Built Readable Readable :=
    Node.built_keywords.mono (fun _ h => h.2) fun _ h => h.2
  have hformed : (Input.node Node.keywords).Formed :=
    hreadable.mono (fun _ h => h.1) fun _ h => h.1
  have htext := Value.canonicalText_of_fits (hereditary_readable.document hreadable).2
  rw [← Node.canonicalText, ← result_canonicalText_node] at htext
  obtain ⟨hagain, hforms⟩ := canonicalText_again_iff hformed htext
  have hsame := hagain.2 Node.branching_keywords
  exact ⟨hformed, _, htext, hsame, (hforms _ rfl).1.trans hsame⟩

/-- The canonical text of a union of one member is not its own canonical text. -/
theorem canonicalText_of_one_member :
    Node.ofMembers [.boolean] = .ok (.union [.boolean]) ∧
    (Input.node (.union [.boolean])).canonicalText =
      pure "\x7b\n  \"type\": [\n    \"boolean\"\n  ]\n\x7d" ∧
    (Input.document (Node.union [.boolean]).document).canonicalText =
      pure "\x7b\n  \"type\": \"boolean\"\n\x7d" ∧
    (Input.text "\x7b\n  \"type\": [\n    \"boolean\"\n  ]\n\x7d").canonicalText =
      pure "\x7b\n  \"type\": \"boolean\"\n\x7d" := by
  have hbuilt : (Node.union [.boolean]).Built Proper Proper := by
    refine Node.forall_parts_union.2 ⟨⟨rfl, trivial⟩, ?_⟩
    simp [Node.parts, Node.Made, Node.Carries]
  have hfits : (Node.union [.boolean]).document.Fits := by
    rw [Node.document, Node.unionDocument]
    simp [Node.bareType?, Value.Fits, Value.MembersFit, Value.AllFit]
  have htext : (Node.union [.boolean]).canonicalText =
      .ok "\x7b\n  \"type\": [\n    \"boolean\"\n  ]\n\x7d" := by
    refine Value.canonicalText_eq_ok_iff.2 ⟨hfits, ?_⟩
    have hdocument : (Node.union [.boolean]).document =
        .object [("type", .array [.string "boolean"])] := rfl
    rw [hdocument]
    cbv
  have hjoined : (Node.union [.boolean]).joined.canonicalText =
      .ok "\x7b\n  \"type\": \"boolean\"\n\x7d" := by
    have hsame : (Node.union [.boolean]).joined = .boolean := rfl
    refine Value.canonicalText_eq_ok_iff.2 ⟨?_, by rw [hsame]; cbv⟩
    simp [hsame, Node.document, Value.Fits, Value.MembersFit]
  obtain ⟨hagain, hdocument, -⟩ := canonicalText_node hbuilt htext
  rw [hjoined] at hagain hdocument
  exact ⟨rfl, lift_eq_pure_iff.2 htext, hdocument, hagain⟩

end Input

end GuidedJson.Schema
