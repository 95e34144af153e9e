import GuidedJson.Proofs.Schema.Exactness
import GuidedJson.Proofs.Schema.Inhabited
import GuidedJson.Proofs.Schema.Keywords
import GuidedJson.Proofs.Schema.Parsed

/-!
# Restrictions to given values

A document restricts its values by a list of them or by one. A text is restricted so, or the document
is refused; for every other type, and beside a union, the restriction is passed over. Which of the
documents inside a document are read as schemas is told step by step.
-/

namespace GuidedJson.Schema

open Value (lookup field hasKey)

/-! ## Documents inside a document -/

/-- The type of a document that is no union and names no list of types. -/
def plainType? (ms : List (String × Value)) : Option String :=
  match unionOf? ms, field "type" ms with
  | none, .null => impliedType? ms
  | none, .string name => some name
  | _, _ => none

/-- The documents that reading a document reads next, with their places. -/
inductive Child (path : String) : Value → String → Value → Prop
  | member {ms : List (String × Value)} {vs : List Value} {i : Nat} {w : Value} :
      unionOf? ms = some (.array vs) → vs[i]? = some w →
      Child path (.object ms) (memberPath path i) w
  | listed {ms : List (String × Value)} {ts : List Value} {i : Nat} {t : Value} :
      unionOf? ms = none → field "type" ms = .array ts → ts[i]? = some t →
      Child path (.object ms) (memberPath path i) (.object (ofType t ms))
  | items {ms : List (String × Value)} {w : Value} :
      plainType? ms = some "array" → lookup "items" ms = some w →
      Child path (.object ms) (path ++ "[]") w
  | property {ms ps : List (String × Value)} {p : String × Value} :
      plainType? ms = some "object" → lookup "properties" ms = some (.object ps) → p ∈ ps →
      Child path (.object ms) (path ++ "." ++ p.1) p.2

/-- All documents that reading a document reads, with their places. -/
inductive Inside : String → Value → String → Value → Prop
  | here {path : String} {v : Value} : Inside path v path v
  | child {path q r : String} {v w x : Value} : Child path v q w → Inside q w r x → Inside path v r x

section Parts

variable {ms : List (String × Value)} {path q : String} {v w : Value} {n : Node}

theorem plainType?_eq_some {name : String} (h : plainType? ms = some name) :
    unionOf? ms = none ∧ (field "type" ms = .null ∧ impliedType? ms = some name ∨
      field "type" ms = .string name) := by
  unfold plainType? at h
  split at h
  next hunion htype => exact ⟨hunion, .inl ⟨htype, h⟩⟩
  next hunion htype => exact ⟨hunion, .inr (htype.trans (congrArg _ (Option.some.inj h)))⟩
  next => cases h

/-- A document with a plain type is read by it. -/
theorem parseNode_plain {name : String} (h : plainType? ms = some name)
    (hkeyword : unsupportedKeywords.find? (hasKey · ms) = none) :
    parseNode path (.object ms) = readNamed ms path name := by
  obtain ⟨hunion, htype⟩ := plainType?_eq_some h
  rw [parseNode_eq, hkeyword, hunion]
  dsimp only
  rcases htype with ⟨htype, himplied⟩ | htype
  · rw [htype, himplied, parseTyped]
  · rw [htype, parseTyped]

/-- What is read has no keyword that is not supported. -/
theorem find?_of_parseNode (h : (parseNode path (.object ms)).result = .ok n) :
    unsupportedKeywords.find? (hasKey · ms) = none := by
  rw [parseNode_eq] at h
  split at h
  · cases h
  · assumption

theorem parts_subset_joinMembers {ns : List Node} {k : Node} (hk : k ∈ ns) :
    k.parts ⊆ (joinMembers ns).parts := by
  unfold joinMembers
  split
  · rw [List.mem_singleton.1 hk]
    exact List.Subset.refl _
  · exact (Node.forall_parts_union.1 fun _ h => h).2 k hk

theorem exists_of_parseMembers {vs : List Value} {i j : Nat} {ns : List Node}
    (h : (parseMembers path j vs).result = .ok ns) (hi : vs[i]? = some w) :
    ∃ k ∈ ns, (parseNode (memberPath path (j + i)) w).result = .ok k := by
  -- The number of the first member is any, as those behind it are read with the next one.
  induction vs generalizing i j ns with
  | nil => cases hi
  | cons v vs ih =>
    rw [parseMembers] at h
    obtain ⟨k, hk, h⟩ := Logged.result_bind_eq_ok.1 h
    obtain ⟨ks, hks, h⟩ := Logged.result_bind_eq_ok.1 h
    cases h
    cases i with
    | zero =>
      cases hi
      exact ⟨k, List.mem_cons_self, hk⟩
    | succ i =>
      obtain ⟨l, hl, hread⟩ := ih hks hi
      rw [Nat.succ_add_eq_add_succ] at hread
      exact ⟨l, List.mem_cons_of_mem _ hl, hread⟩

theorem exists_of_parseUnion {vs : List Value} {i : Nat}
    (h : (parseUnion path (.array vs)).result = .ok n) (hi : vs[i]? = some w) :
    ∃ k, (parseNode (memberPath path i) w).result = .ok k ∧ k.parts ⊆ n.parts := by
  rw [parseUnion] at h
  split at h
  · cases h
  · obtain ⟨ns, hns, h⟩ := Logged.result_bind_eq_ok.1 h
    cases h
    obtain ⟨k, hk, hread⟩ := exists_of_parseMembers hns hi
    rw [Nat.zero_add] at hread
    exact ⟨k, hread, parts_subset_joinMembers hk⟩

theorem exists_parseProperties_cons (path : String) (p : String × Value)
    (ps : List (String × Value)) : ∃ description, parseProperties path (p :: ps) = (do
      let n ← parseNode (path ++ "." ++ p.1) p.2
      let rest ← parseProperties path ps
      return ⟨p.1, n, description⟩ :: rest) := by
  obtain ⟨name, v⟩ := p
  cases v with
  | object ms => exact ⟨_, by rw [parseProperties]⟩
  | _ => exact ⟨.null, by rw [parseProperties]; rintro _ ⟨⟩⟩

theorem exists_of_parseProperties {ps : List (String × Value)} {qs : List (Property Node)}
    {p : String × Value} (h : (parseProperties path ps).result = .ok qs) (hp : p ∈ ps) :
    ∃ k ∈ qs, (parseNode (path ++ "." ++ p.1) p.2).result = .ok k.schema := by
  induction ps generalizing qs with
  | nil => cases hp
  | cons r ps ih =>
    obtain ⟨description, hread⟩ := exists_parseProperties_cons path r ps
    rw [hread] at h
    obtain ⟨n, hn, h⟩ := Logged.result_bind_eq_ok.1 h
    obtain ⟨rest, hrest, h⟩ := Logged.result_bind_eq_ok.1 h
    cases h
    rcases List.mem_cons.1 hp with rfl | hp
    · exact ⟨_, List.mem_cons_self, hn⟩
    · obtain ⟨k, hk, hread⟩ := ih hrest hp
      exact ⟨k, List.mem_cons_of_mem _ hk, hread⟩

theorem eq_of_ofItems {items : Node} {least most : Value}
    (h : Node.ofItems items least most = .ok (.ok n)) : n = .array items least most := by
  obtain ⟨fault, -, hfault⟩ := exceptMap_eq_ok.1 h
  cases fault with
  | none => exact (Except.ok.inj hfault).symm
  | some fault => cases hfault

theorem exists_of_readNamed_array (h : (readNamed ms path "array").result = .ok n)
    (hitems : lookup "items" ms = some w) :
    ∃ k, (parseNode (path ++ "[]") w).result = .ok k ∧ k.parts ⊆ n.parts := by
  simp only [readNamed, parseNamed, parseItemsAt_eq, hitems, Option.bind_some] at h
  split at h
  · cases h
  next read hread =>
    split at hread
    · cases hread
    · cases hread
      obtain ⟨k, hk, h⟩ := Logged.result_bind_eq_ok.1 h
      refine ⟨k, hk, ?_⟩
      split at h
      · cases h
      next r hr =>
        cases r with
        | error fault => cases h
        | ok m =>
          obtain rfl : m = n := Except.ok.inj h
          rw [eq_of_ofItems hr]
          exact List.subset_cons_self _ _

theorem exists_of_readNamed_object {ps : List (String × Value)} {p : String × Value}
    (h : (readNamed ms path "object").result = .ok n)
    (hps : lookup "properties" ms = some (.object ps)) (hp : p ∈ ps) :
    ∃ k, (parseNode (path ++ "." ++ p.1) p.2).result = .ok k ∧ k.parts ⊆ n.parts := by
  simp only [readNamed, parseNamed, parsePropertiesAt_eq, hps] at h
  obtain ⟨-, -, h⟩ := Logged.result_bind_eq_ok.1 h
  obtain ⟨qs, hqs, h⟩ := Logged.result_bind_eq_ok.1 h
  cases h
  obtain ⟨k, hk, hread⟩ := exists_of_parseProperties hqs hp
  exact ⟨k.schema, hread, (Node.forall_parts_object.1 fun _ h => h).2 k hk⟩

/-- Where a document is read, so is every document that is read next, as a part of it. -/
theorem exists_of_child (h : (parseNode path v).result = .ok n) (hchild : Child path v q w) :
    ∃ k, (parseNode q w).result = .ok k ∧ k.parts ⊆ n.parts := by
  cases hchild with
  | member hunion hi =>
    have hkeyword := find?_of_parseNode h
    rw [parseNode_eq, hkeyword, hunion] at h
    exact exists_of_parseUnion h hi
  | listed hunion htypes hi =>
    rw [parseNode_listed hunion (find?_of_parseNode h) htypes] at h
    exact exists_of_parseUnion h (by rw [List.getElem?_map, hi]; rfl)
  | items hplain hitems =>
    rw [parseNode_plain hplain (find?_of_parseNode h)] at h
    exact exists_of_readNamed_array h hitems
  | property hplain hps hp =>
    rw [parseNode_plain hplain (find?_of_parseNode h)] at h
    exact exists_of_readNamed_object h hps hp

/-- Where a document is read, so is every document inside it, as a part of it. -/
theorem exists_of_inside (hinside : Inside path v q w) (h : (parseNode path v).result = .ok n) :
    ∃ k ∈ n.parts, (parseNode q w).result = .ok k := by
  induction hinside generalizing n with
  | here => exact ⟨n, n.mem_parts_self, h⟩
  | child hchild _ ih =>
    obtain ⟨k, hk, hsub⟩ := exists_of_child h hchild
    obtain ⟨l, hl, hread⟩ := ih hk
    exact ⟨l, hsub hl, hread⟩

end Parts

/-! ## Restricted texts -/

section Texts

variable {ms : List (String × Value)} {path : String} {n : Node} {texts : List String}

theorem texts?_eq_some_iff {vs : List Value} : texts? vs = some texts ↔ vs = texts.map .string := by
  induction vs generalizing texts with
  | nil => cases texts <;> simp [texts?]
  | cons v vs ih =>
    have hcons : texts? (v :: vs) = some texts ↔
        ∃ s rest, v = .string s ∧ texts? vs = some rest ∧ s :: rest = texts := by
      rw [texts?, List.mapM_cons]
      cases v <;> simp [texts?, Option.bind_eq_some_iff]
    rw [hcons]
    constructor
    · rintro ⟨s, rest, rfl, hrest, rfl⟩
      rw [ih.1 hrest, List.map_cons]
    · intro h
      cases texts with
      | nil => cases h
      | cons s rest =>
        obtain ⟨rfl, rfl⟩ := List.cons.inj h
        exact ⟨s, rest, rfl, ih.2 rfl, rfl⟩

/-- Whether a document lists texts for its values, each once. -/
structure Lists (ms : List (String × Value)) (texts : List String) : Prop where
  elements : (choicesOf ms).elements = .ok (texts.map .string)
  ne_nil : texts ≠ []
  nodup : texts.Nodup

/-- A restricted text is a choice of the texts that are listed, or refused. -/
theorem parseText_eq_ok_iff (hrestricted : (choicesOf ms).isNull = false) :
    (parseText path ms).result = .ok n ↔ ∃ texts, Lists ms texts ∧ n = .choice texts := by
  unfold parseText
  simp only [hrestricted, Bool.false_eq_true, if_false]
  constructor
  · intro h
    split at h
    · cases h
    next vs hvs =>
      split at h
      · cases h
      next texts htexts =>
        cases hchoices : Node.ofChoices texts with
        | error fault =>
          rw [hchoices] at h
          cases h
        | ok m =>
          rw [hchoices] at h
          obtain rfl : m = n := Except.ok.inj h
          obtain ⟨hne, hnodup, rfl⟩ := Node.ofChoices_eq_ok_iff.1 hchoices
          exact ⟨texts, ⟨texts?_eq_some_iff.1 htexts ▸ hvs, hne, hnodup⟩, rfl⟩
  · rintro ⟨texts, ⟨helements, hne, hnodup⟩, rfl⟩
    have hchoices := Node.ofChoices_eq_ok_iff.2 ⟨hne, hnodup, rfl⟩
    simp only [helements, texts?_eq_some_iff.2 rfl, hchoices]
    rfl

theorem parse_jsonString (s : String) : Json.parse (jsonString s) = .ok (.string s) :=
  (Json.parse_render (v := .string s) trivial none).1 trivial

theorem laidOut_of_parts (hparts : n.parts = [n]) (indent : Option Int) (depth : Int) :
    n.LaidOut indent depth := by
  cases n with
  | object ps =>
    cases ps with
    | nil => exact .inl rfl
    | cons p ps =>
      have hinner := Node.mem_parts_self p.schema
      simp_all [Node.parts, Node.partsOfProperties]
  | array items least most =>
    have hinner := Node.mem_parts_self items
    simp_all [Node.parts]
  | union ns =>
    cases ns with
    | nil => trivial
    | cons n ns =>
      have hinner := Node.mem_parts_self n
      simp_all [Node.parts, Node.partsOfMembers]
  | _ => trivial

/-- A schema without schemas inside it has an automaton, which accepts the texts of the schema. -/
theorem exists_machine_leaf (hparts : n.parts = [n]) (hsound : n.Sound) (hhuge : ¬ n.Huge)
    {indent : Option Int} (hindent : ∀ k ∈ indent, 0 ≤ k) :
    ∃ p m, n.pattern indent = .ok p ∧ Grammar.machineOf p = .ok m ∧
      ∀ w, m.Accepts w ↔ w ∈ n.texts indent 0 := by
  have hself (k : Node) (hk : k ∈ n.parts) : k = n := by simpa [hparts] using hk
  rw [Node.pattern_of_nonneg hindent]
  rcases Node.written_patternAt (fun k hk => hself k hk ▸ hsound) indent le_rfl with
    ⟨p, hp, hspells⟩ | ⟨e, -, ⟨-, k, hk, hhuge'⟩ | ⟨-, hnone⟩⟩
  · obtain ⟨m, hm, haccepts⟩ := Node.exists_machineOf hspells
    exact ⟨p, m, hp, hm, haccepts⟩
  · exact absurd (hself k hk ▸ hhuge') hhuge
  · exact absurd (laidOut_of_parts hparts indent 0) hnone

theorem mem_texts_choice {indent : Option Int} {depth : Int} {w : List Char} :
    w ∈ (Node.choice texts).texts indent depth ↔ ∃ s ∈ texts, w = (jsonString s).toList := by
  rw [Node.texts_choice]
  simp only [mem_list_sum, List.mem_map, exists_exists_and_eq_and]
  rfl

end Texts

/-! ## Faults that are reported -/

/-- Whether an operation fails only with a fault of a schema, or in a way that escapes. -/
def Reports {α : Type} (x : Logged α) : Prop :=
  ∀ e, x.result = .error e → (∃ fault, e = .schema fault) ∨ e.IsEscape

section Reports

variable {α β : Type} {x : Logged α} {path : String}

theorem reports_pure (a : α) : Reports (pure a : Logged α) := nofun

theorem reports_schema (fault : SchemaFault) : Reports (throw (.schema fault) : Logged α) :=
  fun _ he => .inl ⟨fault, (Except.error.inj he).symm⟩

theorem reports_escape {e : Failure} (h : e.IsEscape) : Reports (throw e : Logged α) :=
  fun _ he => .inr (Except.error.inj he ▸ h)

theorem reports_written (s : Option String) : Reports (Failure.written s : Logged String) := by
  cases s with
  | none => exact reports_escape trivial
  | some s => exact reports_pure s

theorem reports_unknownType (v : Value) :
    Reports (throw (.ofUnknownType path v) : Logged α) := by
  unfold Failure.ofUnknownType
  split
  · exact reports_schema _
  · exact reports_escape trivial

theorem Reports.bind {f : α → Logged β} (hx : Reports x) (hf : ∀ a, Reports (f a)) :
    Reports (x >>= f) := by
  intro e he
  cases hresult : x.result with
  | ok a =>
    rw [Logged.result_bind_ok hresult] at he
    exact hf a e he
  | error e' =>
    rw [Logged.result_bind_error hresult] at he
    cases he
    exact hx _ hresult

theorem reports_placed (r : Except NodeFault Node) : Reports (placed path r) := by
  cases r with
  | ok n => exact reports_pure n
  | error fault => exact reports_schema _

theorem reports_checkRequired (required : Value) (names : List String) :
    Reports (checkRequired path required names) := by
  unfold checkRequired
  split
  · exact reports_pure ()
  · split
    · exact reports_escape trivial
    · exact reports_pure ()
    · exact (reports_written _).bind fun listed => nofun

theorem reports_parseText (ms : List (String × Value)) : Reports (parseText path ms) := by
  unfold parseText
  dsimp only
  split
  · exact reports_pure _
  · split
    · exact reports_escape trivial
    · split
      · exact reports_schema _
      · exact reports_placed _

theorem reports_parseTyped {named : String → String → Logged Node} {implied : Option String}
    (hnamed : ∀ path name, Reports (named path name)) (v : Value) :
    ∀ path, Reports (parseTyped named implied path v) := by
  induction v using Value.induct with
  | scalar v harray hobject =>
    intro path
    unfold parseTyped
    split
    · split
      · exact hnamed _ _
      · exact reports_schema _
    · exact absurd rfl (harray _)
    · exact hnamed _ _
    · exact reports_unknownType _
  | array types ih =>
    intro path
    have hmembers (i : Nat) : Reports (parseTypedMembers named implied path i types) := by
      induction types generalizing i with
      | nil => exact reports_pure _
      | cons t types ihs =>
        rw [List.forall_mem_cons] at ih
        rw [parseTypedMembers]
        exact (ih.1 _).bind fun n => (ihs ih.2 _).bind fun ns => reports_pure _
    rw [parseTyped]
    split
    · exact reports_schema _
    · exact (hmembers 0).bind fun ns => reports_pure _
  | object ms ih => exact fun path => reports_unknownType _

theorem reports_readNamed {ms : List (String × Value)}
    (hitems : ∀ w, lookup "items" ms = some w → ∀ path, Reports (parseNode path w))
    (hproperties : ∀ ps, lookup "properties" ms = some (.object ps) →
      ∀ path, Reports (parseProperties path ps)) (path name : String) :
    Reports (readNamed ms path name) := by
  unfold readNamed parseNamed
  split
  · split
    next ps hps =>
      refine (reports_checkRequired _ _).bind fun _ => ?_
      dsimp only
      rw [parsePropertiesAt_eq, hps]
      exact (hproperties ps hps path).bind fun qs => reports_pure _
    next => exact (reports_checkRequired _ _).bind fun _ => reports_pure _
    next => exact reports_schema _
  · split
    next => exact reports_schema _
    next read hread =>
      dsimp only at hread
      rw [parseItemsAt_eq, Option.bind_eq_some_iff] at hread
      obtain ⟨w, hw, hread⟩ := hread
      split at hread
      · cases hread
      · cases hread
        refine (hitems w hw _).bind fun n => ?_
        split
        · exact reports_escape trivial
        · exact reports_placed _
  · exact reports_parseText ms
  · exact reports_pure _
  · exact reports_pure _
  · exact reports_pure _
  · exact reports_pure _
  · exact reports_schema _

theorem reports_parseUnion {v : Value} (h : ∀ w ∈ v.asItems, ∀ path, Reports (parseNode path w)) :
    Reports (parseUnion path v) := by
  unfold parseUnion
  split
  next vs =>
    have hmembers (i : Nat) : Reports (parseMembers path i vs) := by
      rw [Value.asItems] at h
      induction vs generalizing i with
      | nil => exact reports_pure _
      | cons v vs ih =>
        rw [List.forall_mem_cons] at h
        rw [parseMembers]
        exact (h.1 _).bind fun n => (ih h.2 _).bind fun ns => reports_pure _
    split
    · exact reports_schema _
    · exact (hmembers 0).bind fun ns => reports_pure _
  next => exact reports_schema _

theorem reports_parseProperties {ps : List (String × Value)}
    (h : ∀ p ∈ ps, ∀ path, Reports (parseNode path p.2)) : Reports (parseProperties path ps) := by
  induction ps with
  | nil => exact reports_pure _
  | cons p ps ih =>
    rw [List.forall_mem_cons] at h
    obtain ⟨description, hread⟩ := exists_parseProperties_cons path p ps
    rw [hread]
    exact (h.1 _).bind fun n => (ih h.2).bind fun rest => reports_pure _

theorem reports_parseNode (v : Value) : ∀ path, Reports (parseNode path v) := by
  suffices h : (∀ path, Reports (parseNode path v)) ∧
      (∀ w ∈ v.asItems, ∀ path, Reports (parseNode path w)) ∧
      ∀ m ∈ v.asMembers, ∀ path, Reports (parseNode path m.2) from h.1
  -- The documents that are read next stand in a list or an object under a keyword, two steps down.
  induction v using Value.induct with
  | scalar v harray hobject =>
    cases v with
    | array vs => exact absurd rfl (harray vs)
    | object ms => exact absurd rfl (hobject ms)
    | _ => exact ⟨fun path => reports_schema _, by simp [Value.asItems], by simp [Value.asMembers]⟩
  | array vs ih =>
    exact ⟨fun path => reports_schema _, fun w hw => (ih w hw).1, by simp [Value.asMembers]⟩
  | object ms ih =>
    refine ⟨fun path => ?_, by simp [Value.asItems], fun m hm => (ih m hm).1⟩
    rw [parseNode_eq]
    split
    · exact reports_schema _
    · split
      next v hunion =>
        -- The members of a union stand under one of two keywords.
        have hkey : ∃ key, lookup key ms = some v := by
          rw [unionOf?, Option.or_eq_some_iff] at hunion
          exact hunion.elim (fun h => ⟨_, h⟩) fun h => ⟨_, h.2⟩
        obtain ⟨key, hkey⟩ := hkey
        exact reports_parseUnion (ih _ (Value.mem_of_lookup hkey)).2.1
      next =>
        refine reports_parseTyped (fun path name => reports_readNamed (fun w hw => ?_)
          (fun ps hps path => reports_parseProperties ?_) path name) _ path
        · exact (ih _ (Value.mem_of_lookup hw)).1
        · exact (ih _ (Value.mem_of_lookup hps)).2.2

end Reports

/-! ## Restrictions -/

/-- What becomes of what a document restricts itself to, where it is read as a schema. A text accepts
what is listed, and nothing else. Other types, and unions, pass it over; and a list of types is the
union of the documents that name one of them. -/
structure Restricts (path : String) (ms : List (String × Value)) (n : Node) : Prop where
  text : plainType? ms = some "string" → (choicesOf ms).isNull = false → ∃ texts, Lists ms texts ∧
    ∀ indent : Option Int, (∀ k ∈ indent, 0 ≤ k) →
      ∃ p m, n.pattern indent = .ok p ∧ Grammar.machineOf p = .ok m ∧
        (∀ w, m.Accepts w → ∃ s ∈ texts, Json.parse (String.ofList w) = .ok (.string s)) ∧
        ∀ s ∈ texts, m.Accepts (jsonString s).toList
  other : (unionOf? ms).isSome = true ∨ "string" ∉ typesOf ms →
    parseNode path (.object ms) = parseNode path (.object (without restrictionKeywords ms))
  listed : ∀ ts, unionOf? ms = none → field "type" ms = .array ts →
    parseNode path (.object ms) =
      parseUnion path (.array (ts.map fun t => .object (ofType t ms)))

theorem restricts_of_parseNode {path : String} {ms : List (String × Value)} {n : Node}
    (h : (parseNode path (.object ms)).result = .ok n) : Restricts path ms n where
  text htype hrestricted := by
    rw [parseNode_plain htype (find?_of_parseNode h)] at h
    obtain ⟨texts, hlists, rfl⟩ := (parseText_eq_ok_iff hrestricted).1 h
    refine ⟨texts, hlists, fun indent hindent => ?_⟩
    obtain ⟨p, m, hp, hm, haccepts⟩ :=
      exists_machine_leaf (n := .choice texts) rfl hlists.ne_nil id hindent
    refine ⟨p, m, hp, hm, fun w hw => ?_,
      fun s hs => (haccepts _).2 (mem_texts_choice.2 ⟨s, hs, rfl⟩)⟩
    obtain ⟨s, hs, rfl⟩ := mem_texts_choice.1 ((haccepts w).1 hw)
    exact ⟨s, hs, by rw [String.ofList_toList, parse_jsonString]⟩
  other := parseNode_unrestricted
  listed ts hunion hts := parseNode_listed hunion (find?_of_parseNode h) hts

/-- A document that can be read refuses a text that is restricted to anything but texts, each once.
The fault is one of the schema where all keywords hold what reading them needs. -/
theorem exists_error_of_inside {v : Value} {path q : String} {ms : List (String × Value)}
    (hinside : Inside path v q (.object ms)) (htype : plainType? ms = some "string")
    (hrestricted : (choicesOf ms).isNull = false) (hlists : ∀ texts, ¬ Lists ms texts) :
    ∃ e, (parseNode path v).result = .error e ∧ (Legible v → ∃ fault, e = .schema fault) := by
  cases hresult : (parseNode path v).result with
  | ok n =>
    obtain ⟨k, -, hread⟩ := exists_of_inside hinside hresult
    rw [parseNode_plain htype (find?_of_parseNode hread)] at hread
    obtain ⟨texts, htexts, -⟩ := (parseText_eq_ok_iff hrestricted).1 hread
    exact absurd htexts (hlists texts)
  | error e =>
    refine ⟨e, rfl, fun hlegible => ?_⟩
    rcases reports_parseNode v path e hresult with hschema | hescape
    · exact hschema
    · -- A failure escapes only where some keyword is not legible.
      rcases (needsLegible v path).failure _ hresult with hsetup | ⟨-, hnot⟩
      · exact (hescape.not_isSetup hsetup).elim
      · exact absurd hlegible hnot

/-- Every document that is read as a schema inside a document is a part of the schema that is read,
with what becomes of its restriction; and a restricted text that does not list texts, each once,
makes the whole document refused. -/
theorem restricts_inside (v : Value) :
    (∀ n, (parse v).result = .ok n → ∀ path ms, Inside "$" v path (.object ms) →
      ∃ k ∈ n.parts, (parseNode path (.object ms)).result = .ok k ∧ Restricts path ms k) ∧
    ∀ path ms, Inside "$" v path (.object ms) → plainType? ms = some "string" →
      (choicesOf ms).isNull = false → (∀ texts, ¬ Lists ms texts) →
      ∃ e, (parse v).result = .error e ∧ (Legible v → ∃ fault, e = .schema fault) := by
  refine ⟨fun n h path ms hinside => ?_, fun path ms hinside => exists_error_of_inside hinside⟩
  obtain ⟨k, hk, hread⟩ := exists_of_inside hinside h
  exact ⟨k, hk, hread, restricts_of_parseNode hread⟩

/-- Two answers, one of them a text and one a number. -/
def twoAnswers : Value := .object [("type", .string "object"), ("properties", .object [
  ("word", .object [("enum", .array [.string "yes", .string "no"])]),
  ("count", .object [("type", .string "integer"), ("const", .int 3)])])]

/-- The word is restricted to the two that are listed, the count to nothing; and a text that is
restricted to a number is refused. -/
theorem restricts_inside_twoAnswers :
    (∃ k p m, (parseNode "$.word" (.object [("enum", .array [.string "yes", .string "no"])])).result =
        .ok k ∧ k.pattern none = .ok p ∧ Grammar.machineOf p = .ok m ∧
      ∀ w, m.Accepts w → ∃ s ∈ ["yes", "no"], Json.parse (String.ofList w) = .ok (.string s)) ∧
    parseNode "$.count" (.object [("type", .string "integer"), ("const", .int 3)]) =
      parseNode "$.count" (.object [("type", .string "integer")]) ∧
    ∃ e, (parse (.object [("enum", .array [.int 3])])).result = .error e := by
  obtain ⟨hread, -⟩ := restricts_inside twoAnswers
  have hword : Inside "$" twoAnswers "$.word" _ :=
    .child (.property (p := ("word", .object [("enum", .array [.string "yes", .string "no"])]))
      rfl rfl List.mem_cons_self) .here
  have hcount : Inside "$" twoAnswers "$.count" _ :=
    .child (.property (p := ("count", .object [("type", .string "integer"), ("const", .int 3)]))
      rfl rfl (List.mem_cons_of_mem _ List.mem_cons_self)) .here
  refine ⟨?_, ?_, ?_⟩
  · obtain ⟨k, -, hk, hrestricts⟩ := hread _ rfl _ _ hword
    obtain ⟨texts, hlists, hmachine⟩ := hrestricts.text rfl rfl
    have htexts : texts = ["yes", "no"] :=
      (Option.some.inj (texts?_eq_some_iff.2 (Except.ok.inj hlists.elements))).symm
    obtain ⟨p, m, hp, hm, haccepts, -⟩ := hmachine none nofun
    exact ⟨k, p, m, hk, hp, hm, htexts ▸ haccepts⟩
  · obtain ⟨k, -, hk, hrestricts⟩ := hread _ rfl _ _ hcount
    exact hrestricts.other (.inr (by decide))
  · have hlists (texts : List String) : ¬ Lists [("enum", .array [.int 3])] texts :=
      fun h => nomatch texts?_eq_some_iff.2 (Except.ok.inj h.elements)
    obtain ⟨e, he, -⟩ := (restricts_inside (.object [("enum", .array [.int 3])])).2 "$" _ .here rfl rfl
      hlists
    exact ⟨e, he⟩

/-- An integer that is listed to be one or two may be zero. -/
theorem accepts_unlisted_integer :
    (parse (.object [("type", .string "integer"), ("enum", .array [.int 1, .int 2])])).result =
        .ok .integer ∧
      ∃ p m, Node.integer.pattern none = .ok p ∧ Grammar.machineOf p = .ok m ∧
        m.Accepts "0".toList ∧ Json.parse "0" = .ok (.int 0) ∧
        Value.int 0 ∉ [Value.int 1, .int 2] := by
  have hindent : ∀ k ∈ (none : Option Int), 0 ≤ k := nofun
  obtain ⟨p, m, hp, hm, haccepts⟩ := exists_machine_leaf (n := .integer) rfl trivial id hindent
  have hzero : "0".toList ∈ Node.integer.texts none 0 :=
    ⟨.number "0".toList, Json.zero_mem_integerTexts, rfl⟩
  exact ⟨rfl, p, m, hp, hm, (haccepts _).2 hzero, rfl, by simp⟩

end GuidedJson.Schema
