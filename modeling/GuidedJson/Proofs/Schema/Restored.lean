import GuidedJson.Proofs.Schema.Quantifiers
import GuidedJson.Proofs.Schema.RoundTrip
import GuidedJson.Schema.Source

/-!
# Canonical texts are read back

The canonical text of a schema is a JSON text of it: the schema is read from it as it was built, but
for unions of one member, which are joined with it and change no pattern. A schema with an integer
that has too many digits has no canonical text.
-/

namespace GuidedJson.Schema

/-! ## Documents of built schemas -/

/-- What holds of a document where it holds of the parts of the document. -/
structure Hereditary (P : Value → Prop) : Prop where
  string (s : String) : P (.string s)
  bool (b : Bool) : P (.bool b)
  array {vs : List Value} : (∀ v ∈ vs, P v) → P (.array vs)
  object {ms : List (String × Value)} : (ms.map Prod.fst).Nodup → (∀ m ∈ ms, P m.2) →
    P (.object ms)
  members {ms : List (String × Value)} : P (.object ms) → ∀ m ∈ ms, P m.2

theorem hereditary_proper : Hereditary Value.Proper where
  string _ := trivial
  bool _ := trivial
  array := Value.proper_array.2
  object hkeys hms := Value.proper_object.2 ⟨hkeys, hms⟩
  members h := (Value.proper_object.1 h).2

theorem hereditary_readable : Hereditary Value.Readable where
  string := Value.readable_string
  bool := Value.readable_bool
  array := Value.readable_array.2
  object hkeys hms := Value.readable_object.2 ⟨hkeys, hms⟩
  members h := (Value.readable_object.1 h).2

theorem forall_mem_optionalMember {P : Value → Prop} {v : Value} (hv : P v) (key : String) :
    ∀ m ∈ Node.optionalMember key v, P m.2 := by
  unfold Node.optionalMember
  split
  · simp
  · simpa using hv

namespace Hereditary

variable {P : Value → Prop} (hP : Hereditary P)

include hP

theorem strings (names : List String) : P (.array (names.map .string)) :=
  hP.array (List.forall_mem_map.2 fun name _ => hP.string name)

/-- A description may be added to the document of a schema. -/
theorem describe {n : Node} {description : Value} (h : P n.document) (hd : P description) :
    P (Node.describe description n.document) := by
  obtain ⟨ms, hms, hkeys, hno⟩ := n.exists_document
  rw [hms] at h ⊢
  rw [Node.describe]
  split
  · exact h
  · exact hP.object (Value.nodup_insertMember hkeys _ _)
      (Value.forall_mem_insertMember hd (hP.members h))

/-- What holds of the members of a document holds of the document. -/
theorem document_of_members {n : Node} (h : ∀ ms, n.document = .object ms → ∀ m ∈ ms, P m.2) :
    P n.document := by
  obtain ⟨ms, hms, hkeys, -⟩ := n.exists_document
  rw [hms]
  exact hP.object hkeys (h ms hms)

theorem propertyDocuments {ps : List (Property Node)} (h : ∀ p ∈ ps, P p.schema.document)
    (hdescription : ∀ p ∈ ps, P p.description) : ∀ m ∈ Node.propertyDocuments ps, P m.2 := by
  induction ps with
  | nil => simp [Node.propertyDocuments]
  | cons p ps ih =>
    rw [List.forall_mem_cons] at h hdescription
    rw [Node.propertyDocuments, List.forall_mem_cons]
    exact ⟨hP.describe h.1 hdescription.1, ih h.2 hdescription.2⟩

/-- What holds of the bounds and descriptions of a schema holds of its document. -/
theorem document {n : Node} (h : n.Built P P) : P n.document := by
  induction n using Node.induct with
  | boolean | integer | number | null =>
    exact hP.object (by simp) (by simpa using hP.string _)
  | text least most =>
    obtain ⟨-, hleast, hmost⟩ := h _ (Node.mem_parts_self _)
    refine hP.document_of_members fun ms hms => ?_
    obtain rfl := Value.object.inj hms
    rw [List.forall_mem_cons, List.forall_mem_append]
    exact ⟨hP.string _, forall_mem_optionalMember hleast _, forall_mem_optionalMember hmost _⟩
  | choice choices =>
    refine hP.object (by simp) ?_
    simpa using ⟨hP.string _, hP.strings choices⟩
  | object ps ih =>
    obtain ⟨⟨hmade, hps⟩, hparts⟩ := Node.forall_parts_object.1 h
    have hproperties : P (.object (Node.propertyDocuments ps)) := by
      refine hP.object ?_ (hP.propertyDocuments (fun p hp => ih p hp (hparts p hp)) hps)
      rw [names_propertyDocuments]
      exact (Node.ofProperties_eq_ok_iff.1 hmade).1
    rw [document_object]
    refine hP.object (by simp [objectMembers]) ?_
    simp only [objectMembers, List.forall_mem_cons]
    exact ⟨hP.string _, hproperties, hP.strings _, hP.bool false, by simp⟩
  | array items least most ih =>
    obtain ⟨⟨-, hleast, hmost⟩, hparts⟩ := Node.forall_parts_array.1 h
    refine hP.document_of_members fun ms hms => ?_
    obtain rfl := Value.object.inj hms
    rw [List.forall_mem_cons, List.forall_mem_cons, List.forall_mem_append]
    exact ⟨hP.string _, ih hparts, forall_mem_optionalMember hleast _,
      forall_mem_optionalMember hmost _⟩
  | union ns ih =>
    have hparts := (Node.forall_parts_union.1 h).2
    refine hP.document_of_members fun ms hms => ?_
    rw [Node.document, Node.unionDocument] at hms
    split at hms
    · obtain rfl := Value.object.inj hms
      simpa using hP.strings _
    · obtain rfl := Value.object.inj hms
      rw [List.forall_mem_singleton, Node.documents_eq_map]
      exact hP.array (List.forall_mem_map.2 fun n hn => ih n hn (hparts n hn))

end Hereditary

/-! ## Reading canonical texts -/

/-- A document that is printed is read as a schema just as it stands. -/
theorem parseText?_render {v : Value} (hv : v.Proper) (indent : Option Int) :
    (v.Fits → parseText? (v.render indent) = parse v) ∧
      (¬ v.Fits → ∃ count, parseText? (v.render indent) = throw (.digits (some count))) := by
  obtain ⟨hfits, hlong⟩ := Json.parse_render hv indent
  rw [parseText?, Json.isBlankText_render hv]
  constructor
  · intro h
    simp [hfits h]
  · intro h
    obtain ⟨count, herror⟩ := hlong h
    exact ⟨count, by simp [herror]; rfl⟩

namespace Node

variable {n : Node} {bound note : Value → Prop}

/-- The canonical document of a schema is read as the schema, joined, with canonical bounds and
descriptions. -/
theorem parse_canonical (h : n.Built Value.Proper Value.Proper) :
    parse (n.document.canonical false) = pure (n.settle (Value.canonical false)) :=
  (readBack_of_built Arrangement.canonical h).bare _

/-- The canonical text of a schema is read as its canonical document is. -/
theorem parseText?_canonicalText (h : n.Built Value.Proper Value.Proper) {text : String}
    (htext : n.canonicalText = .ok text) :
    parseText? text = pure (n.settle (Value.canonical false)) := by
  obtain ⟨hfits, rfl⟩ := Value.canonicalText_eq_ok_iff.1 htext
  have hproper := Value.proper_canonical n.document false (hereditary_proper.document h)
  rw [(parseText?_render hproper (some 2)).1 ((Value.fits_canonical _ _).2 hfits),
    parse_canonical h]

/-- A bound that is missing or an integer. -/
def IsInteger (v : Value) : Prop := v = .null ∨ ∃ k : Int, v = .int k

/-- A description that is missing or a text. -/
def IsNote (v : Value) : Prop := v = .null ∨ ∃ s : String, v = .string s

/-- A schema is read from its canonical text as a schema with the same patterns, and as itself where
no union has exactly one member. It has a canonical text unless a bound has more digits than are
written. -/
theorem restored_of_canonicalText (h : n.Built IsInteger IsNote) :
    (n.document.Fits → ∃ text m, n.canonicalText = .ok text ∧ parseText? text = pure m ∧
      (∀ indent, m.pattern indent = n.pattern indent) ∧ (n.Branching → m = n)) ∧
    (¬ n.document.Fits → n.canonicalText = .error (.digits none)) := by
  have hbound (v : Value) (hv : IsInteger v) : v.Proper ∧ v.canonical false = id v := by
    rcases hv with rfl | ⟨k, rfl⟩ <;> exact ⟨trivial, rfl⟩
  have hnote (v : Value) (hv : IsNote v) : v.Proper ∧ v.canonical false = id v := by
    rcases hv with rfl | ⟨s, rfl⟩ <;> exact ⟨trivial, rfl⟩
  have hproper := h.mono (fun v hv => (hbound v hv).1) fun v hv => (hnote v hv).1
  refine ⟨fun hfits => ?_, Value.canonicalText_of_not_fits⟩
  have htext : n.canonicalText = .ok _ := Value.canonicalText_of_fits hfits
  have hread := parseText?_canonicalText hproper htext
  rw [settle_congr h (fun v hv => (hbound v hv).2) fun v hv => (hnote v hv).2] at hread
  exact ⟨_, n.joined, htext, hread, pattern_joined n, joined_eq_self⟩

def keywordProperties : List (Property Node) := [
  ⟨"properties", .array .boolean (.int 1) (.int 3), .string "flags"⟩,
  ⟨"$ref", .union [.null, .text .null (.int 5)], .null⟩]

/-- An object whose members have the names of keywords. -/
def keywords : Node := .object keywordProperties

theorem parts_keywords : keywords.parts = [keywords, .array .boolean (.int 1) (.int 3), .boolean,
    .union [.null, .text .null (.int 5)], .null, .text .null (.int 5)] := rfl

theorem built_keywords : keywords.Built (fun v => IsInteger v ∧ v.Readable)
    (fun v => IsNote v ∧ v.Readable) := by
  have hnull : IsInteger .null ∧ Value.Readable .null := ⟨.inl rfl, Value.readable_null⟩
  have hint {k : Int} (hk : k.natAbs < 10) : IsInteger (.int k) ∧ Value.Readable (.int k) :=
    ⟨.inr ⟨k, rfl⟩, Value.readable_int.2 (Json.fits_of_lt_ten hk)⟩
  have hdescriptions :
      ∀ p ∈ keywordProperties, IsNote p.description ∧ p.description.Readable := by
    simp only [keywordProperties, List.forall_mem_cons]
    exact ⟨⟨.inr ⟨_, rfl⟩, Value.readable_string _⟩, ⟨.inl rfl, Value.readable_null⟩, by simp⟩
  unfold Built
  rw [parts_keywords]
  simp only [List.forall_mem_cons]
  exact ⟨⟨ofProperties_eq_ok_iff.2 ⟨by decide, rfl⟩, hdescriptions⟩,
    ⟨rfl, hint (by decide), hint (by decide)⟩, ⟨trivial, trivial⟩, ⟨rfl, trivial⟩,
    ⟨trivial, trivial⟩, ⟨trivial, hnull, hint (by decide)⟩, by simp⟩

theorem branching_keywords : keywords.Branching := by
  unfold Branching
  rw [parts_keywords]
  simp [keywords]

theorem restored_of_canonicalText_keywords : keywords.Built IsInteger IsNote ∧
    keywords.document.Fits ∧ ∃ text, keywords.canonicalText = .ok text ∧
      parseText? text = pure keywords := by
  have hbuilt : keywords.Built IsInteger IsNote :=
    built_keywords.mono (fun _ h => h.1) fun _ h => h.1
  have hfits : keywords.document.Fits :=
    (hereditary_readable.document (built_keywords.mono (fun _ h => h.2) fun _ h => h.2)).2
  obtain ⟨text, m, htext, hread, -, hsame⟩ := (restored_of_canonicalText hbuilt).1 hfits
  rw [hsame branching_keywords] at hread
  exact ⟨hbuilt, hfits, text, htext, hread⟩

theorem fits_of_fits_array {k : Int} (h : (Node.array .null (.int k) (.int 0)).document.Fits) :
    Json.Fits k :=
  Value.fits_int.1
    (Value.fits_object.1 h ("minItems", .int k) (by simp [optionalMember, Value.isNull]))

/-- Rows without items, where a lower bound below zero has more digits than are written. -/
def longBound : Node := .array .null (.int (-(10 ^ Text.digitLimit : Nat))) (.int 0)

/-- There is a pattern of the rows, and no canonical text. -/
theorem canonicalText_longBound : longBound.Built IsInteger IsNote ∧
    longBound.pattern none = .ok "\\[\\]" ∧
    longBound.canonicalText = .error (.digits none) := by
  have hlong : ¬ longBound.document.Fits := by
    intro hfits
    have hlimit := fits_of_fits_array hfits
    rw [Json.Fits, Int.natAbs_neg, Int.natAbs_natCast] at hlimit
    exact lt_irrefl _ hlimit
  refine ⟨forall_parts_array.2 ⟨⟨?_, .inr ⟨_, rfl⟩, .inr ⟨_, rfl⟩⟩, ?_⟩, rfl,
    Value.canonicalText_of_not_fits hlong⟩
  · have hle : ¬ (0 : Int) < -(10 ^ Text.digitLimit : Nat) :=
      Int.not_lt.2 (Int.neg_nonpos_of_nonneg (Int.natCast_nonneg _))
    rw [Made, ofItems, boundsFault, Value.exceeds_int, decide_eq_false hle]
    rfl
  · exact List.forall_mem_singleton.2 ⟨trivial, trivial⟩

end Node

end GuidedJson.Schema
