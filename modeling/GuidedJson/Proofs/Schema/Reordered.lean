import GuidedJson.Proofs.Schema.Canonical

/-!
# Documents up to the order of members

A canonical text forgets in which order the members of an object stand, and nothing else: what comes
in an order that counts, the items of an array and the members of a property map, is in that order
in the text. So documents have one canonical text exactly if they are the same up to the order of
members elsewhere.
-/

namespace GuidedJson.Value

/-! ## Documents that differ in order alone -/

/-- The text of a number. -/
def numberText? : Value → Option String
  | .int n => some (toString n)
  | .float x => some (x.text .json)
  | _ => none

/-- Whether two documents are the same up to the order of members, in a place where property maps
stand or in one where they do not. Numbers are the same if they are printed alike. Objects have the
same keys in any order, property maps have them in one order, and with every key goes the same
value. The value of the key `properties` is a property map unless it stands in one. -/
inductive SameUpToOrder : Bool → Value → Value → Prop
  | null {p} : SameUpToOrder p .null .null
  | bool {p} (b : Bool) : SameUpToOrder p (.bool b) (.bool b)
  | string {p} (s : String) : SameUpToOrder p (.string s) (.string s)
  | number {p v w t} (hv : numberText? v = some t) (hw : numberText? w = some t) :
    SameUpToOrder p v w
  | array {p vs ws} (h : List.Forall₂ (SameUpToOrder false) vs ws) :
    SameUpToOrder p (.array vs) (.array ws)
  | object {ms ns} (keys : (ms.map Prod.fst).Perm (ns.map Prod.fst))
    (values : ∀ key v w, (key, v) ∈ ms → (key, w) ∈ ns →
      SameUpToOrder (key == "properties") v w) :
    SameUpToOrder false (.object ms) (.object ns)
  | propertyMap {ms ns} (keys : ms.map Prod.fst = ns.map Prod.fst)
    (values : ∀ key v w, (key, v) ∈ ms → (key, w) ∈ ns → SameUpToOrder false v w) :
    SameUpToOrder true (.object ms) (.object ns)

section Numbers

variable {v w : Value} {t : String}

/-- A number is printed as its text. -/
theorem render_of_numberText? (h : numberText? v = some t) : v.render none = t := by
  cases v with
  | int n => exact Option.some.inj h
  | float x => exact Option.some.inj h
  | _ => cases h

/-- Numbers of documents that were read are told apart by their texts. -/
theorem eq_of_numberText? (hv : v.Readable) (hw : w.Readable) (htext : numberText? v = some t)
    (htext' : numberText? w = some t) : v = w := by
  have hread := (Json.parse_render hv.1 none).1 hv.2
  rw [render_of_numberText? htext, ← render_of_numberText? htext',
    (Json.parse_render hw.1 none).1 hw.2] at hread
  exact (Except.ok.inj hread).symm

end Numbers

/-! ## Members that differ in order alone -/

section Members

variable {ms ns : List (String × Value)}

/-- Members are the same in any order if they have the same keys and the same value with each. -/
theorem perm_of_keys (hms : (ms.map Prod.fst).Nodup)
    (keys : (ms.map Prod.fst).Perm (ns.map Prod.fst))
    (values : ∀ key v w, (key, v) ∈ ms → (key, w) ∈ ns → v = w) : ms.Perm ns := by
  have hns : (ns.map Prod.fst).Nodup := keys.nodup_iff.1 hms
  refine (List.perm_ext_iff_of_nodup hms.of_map hns.of_map).2 fun ⟨key, v⟩ =>
    ⟨fun h => ?_, fun h => ?_⟩
  · obtain ⟨⟨_, w⟩, hw, rfl⟩ := List.mem_map.1 (keys.mem_iff.1 (List.mem_map_of_mem h))
    rwa [values _ v w h hw]
  · obtain ⟨⟨_, w⟩, hw, rfl⟩ := List.mem_map.1 (keys.mem_iff.2 (List.mem_map_of_mem h))
    rwa [← values _ w v hw h]

/-- Members are the same in the same order if they have the same keys in the same order. -/
theorem eq_of_keys (keys : ms.map Prod.fst = ns.map Prod.fst)
    (values : ∀ key v w, (key, v) ∈ ms → (key, w) ∈ ns → v = w) : ms = ns := by
  induction ms generalizing ns with
  | nil => exact (List.map_eq_nil_iff.1 keys.symm).symm
  | cons m ms ih =>
    obtain ⟨n, ns, rfl, hkey, hkeys⟩ := List.map_eq_cons_iff.1 keys.symm
    obtain ⟨key, v⟩ := m
    obtain ⟨_, w⟩ := n
    subst hkey
    obtain rfl : v = w := values _ v w List.mem_cons_self List.mem_cons_self
    rw [ih hkeys.symm fun key v w hv hw =>
      values key v w (List.mem_cons_of_mem _ hv) (List.mem_cons_of_mem _ hw)]

/-- Sorted members are the same if the members are, in any order. -/
theorem sortMembers_of_perm (hms : (ms.map Prod.fst).Nodup) (h : ms.Perm ns) :
    sortMembers ms = sortMembers ns := by
  have hns : (ns.map Prod.fst).Nodup := (h.map Prod.fst).nodup_iff.1 hms
  refine List.Perm.eq_of_pairwise (fun m n _ _ hlt hgt => ?_) (ascending_sortMembers hms)
    (ascending_sortMembers hns) ((perm_sortMembers ms).trans (h.trans (perm_sortMembers ns).symm))
  exact absurd (String.lt_trans hlt hgt) (String.lt_irrefl _)

end Members

/-! ## Canonical forms -/

section Canonical

variable {p : Bool} {ms ns : List (String × Value)}

theorem canonical_object (ms : List (String × Value)) :
    (object ms).canonical false = .object (sortMembers (canonicalMembers false ms)) := by
  rw [canonical, if_neg Bool.false_ne_true]

theorem nodup_canonicalMembers (h : (ms.map Prod.fst).Nodup) :
    ((canonicalMembers p ms).map Prod.fst).Nodup := by
  rwa [keys_canonicalMembers]

/-- With every key goes the value that goes with it in the document, in its canonical form. -/
theorem forall_mem_canonicalMembers {R : Value → Value → Prop} :
    (∀ key v w, (key, v) ∈ canonicalMembers p ms → (key, w) ∈ canonicalMembers p ns → R v w) ↔
      ∀ key v w, (key, v) ∈ ms → (key, w) ∈ ns → R (canonicalAt p key v) (canonicalAt p key w) := by
  rw [canonicalMembers_eq, canonicalMembers_eq]
  constructor
  · intro h key v w hv hw
    exact h key _ _ (List.mem_map.2 ⟨_, hv, rfl⟩) (List.mem_map.2 ⟨_, hw, rfl⟩)
  · intro h key v w hv hw
    obtain ⟨⟨_, v⟩, hmem, heq⟩ := List.mem_map.1 hv
    cases heq
    obtain ⟨⟨_, w⟩, hmem', heq⟩ := List.mem_map.1 hw
    cases heq
    exact h _ v w hmem hmem'

/-- Where no key is twice, the same members in any order have the same value with each key. -/
theorem values_of_perm (hms : (ms.map Prod.fst).Nodup) (h : ms.Perm ns) :
    ∀ key v w, (key, v) ∈ ms → (key, w) ∈ ns → v = w := by
  intro key v w hv hw
  have hlookup := lookup_of_mem hms (h.mem_iff.2 hw)
  rw [lookup_of_mem hms hv] at hlookup
  exact Option.some.inj hlookup

/-- Documents that are the same up to the order of members have one canonical form. -/
theorem SameUpToOrder.canonical_eq (v : Value) : ∀ {p : Bool} {w : Value}, v.Readable → w.Readable →
    SameUpToOrder p v w → v.canonical p = w.canonical p := by
  induction v using induct with
  | scalar v harray hobject =>
    intro p w hv hw h
    cases h with
    | number hnumber hnumber' => rw [eq_of_numberText? hv hw hnumber hnumber']
    | array => exact absurd rfl (harray _)
    | object | propertyMap => exact absurd rfl (hobject _)
    | _ => rfl
  | array vs ih =>
    intro p w hv hw h
    cases h with
    | number hnumber => cases hnumber
    | @array _ _ ws h =>
      replace hv := readable_array.1 hv
      replace hw := readable_array.1 hw
      have hitems : List.Forall₂ (fun v w => v.canonical false = w.canonical false) vs ws := by
        rw [List.forall₂_iff_get] at h ⊢
        refine ⟨h.1, fun i hi hi' => ?_⟩
        exact ih _ (List.get_mem _ _) (hv _ (List.get_mem _ _)) (hw _ (List.get_mem _ _))
          (h.2 i hi hi')
      rw [canonical_array, canonical_array, array.injEq, ← List.forall₂_eq_eq_eq,
        List.forall₂_map_left_iff, List.forall₂_map_right_iff]
      exact hitems
  | object ms ih =>
    intro p w hv hw h
    obtain ⟨hkeys, hms⟩ := readable_object.1 hv
    have hvalues {ns : List (String × Value)} (hns : ∀ n ∈ ns, n.2.Readable)
        (values : ∀ key v w, (key, v) ∈ ms → (key, w) ∈ ns →
          SameUpToOrder (key == "properties" && !p) v w) :
        ∀ key v w, (key, v) ∈ canonicalMembers p ms → (key, w) ∈ canonicalMembers p ns → v = w :=
      forall_mem_canonicalMembers.2 fun key v w hv hw =>
        ih _ hv (hms _ hv) (hns _ hw) (values key v w hv hw)
    cases h with
    | number hnumber => cases hnumber
    | @object _ ns keys values =>
      have hsame := hvalues (readable_object.1 hw).2 (by simpa using values)
      rw [canonical_object, canonical_object]
      congr 1
      exact sortMembers_of_perm (nodup_canonicalMembers hkeys)
        (perm_of_keys (nodup_canonicalMembers hkeys) (by simpa using keys) hsame)
    | @propertyMap _ ns keys values =>
      have hsame := hvalues (readable_object.1 hw).2 (by simpa using values)
      rw [canonical, canonical, if_pos rfl, if_pos rfl]
      congr 1
      exact eq_of_keys (by simpa using keys) hsame

theorem SameUpToOrder.of_scalar {v : Value} (harray : ∀ vs, v ≠ .array vs)
    (hobject : ∀ ms, v ≠ .object ms) : SameUpToOrder p v v := by
  cases v with
  | null => exact .null
  | bool b => exact .bool b
  | int n => exact .number rfl rfl
  | float x => exact .number rfl rfl
  | string s => exact .string s
  | array vs => exact absurd rfl (harray vs)
  | object ms => exact absurd rfl (hobject ms)

/-- Documents with one canonical form are the same up to the order of members. -/
theorem sameUpToOrder_of_canonical_eq (v : Value) : ∀ {p : Bool} {w : Value}, v.Proper → w.Proper →
    v.canonical p = w.canonical p → SameUpToOrder p v w := by
  induction v using induct with
  | scalar v harray hobject =>
    intro p w hv hw h
    rw [canonical_scalar p harray hobject] at h
    cases w with
    | array ws => exact absurd (h.trans (canonical_array p ws)) (harray _)
    | object ns =>
      obtain ⟨ks, hks, -⟩ := exists_canonical_object p ns
      exact absurd (h.trans hks) (hobject _)
    | _ =>
      subst h
      exact .of_scalar nofun nofun
  | array vs ih =>
    intro p w hv hw h
    rw [canonical_array] at h
    cases w with
    | array ws =>
      replace hv := proper_array.1 hv
      replace hw := proper_array.1 hw
      rw [canonical_array, array.injEq, ← List.forall₂_eq_eq_eq, List.forall₂_map_left_iff,
        List.forall₂_map_right_iff, List.forall₂_iff_get] at h
      refine .array (List.forall₂_iff_get.2 ⟨h.1, fun i hi hi' => ?_⟩)
      exact ih _ (List.get_mem _ _) (hv _ (List.get_mem _ _)) (hw _ (List.get_mem _ _))
        (h.2 i hi hi')
    | object ns =>
      obtain ⟨ks, hks, -⟩ := exists_canonical_object p ns
      rw [hks] at h
      cases h
    | _ => cases h
  | object ms ih =>
    intro p w hv hw' h
    obtain ⟨hkeys, hms⟩ := proper_object.1 hv
    cases w with
    | object ns =>
      have hvalues (hperm : (canonicalMembers p ms).Perm (canonicalMembers p ns)) :
          ∀ key v w, (key, v) ∈ ms → (key, w) ∈ ns →
            SameUpToOrder (key == "properties" && !p) v w := by
        have hsame := forall_mem_canonicalMembers.1
          (values_of_perm (nodup_canonicalMembers hkeys) hperm)
        exact fun key v w hv hw => ih _ hv (hms _ hv) ((proper_object.1 hw').2 _ hw)
          (hsame key v w hv hw)
      cases p with
      | false =>
        rw [canonical_object, canonical_object, object.injEq] at h
        have hperm : (canonicalMembers false ms).Perm (canonicalMembers false ns) :=
          (perm_sortMembers _).symm.trans (h ▸ perm_sortMembers _)
        exact .object (by simpa using hperm.map Prod.fst) (by simpa using hvalues hperm)
      | true =>
        rw [canonical, canonical, if_pos rfl, if_pos rfl, object.injEq] at h
        exact .propertyMap (by simpa using congrArg (List.map Prod.fst) h)
          (by simpa using hvalues (.of_eq h))
    | array ws =>
      obtain ⟨ks, hks, -⟩ := exists_canonical_object p ms
      rw [hks, canonical_array] at h
      cases h
    | _ =>
      obtain ⟨ks, hks, -⟩ := exists_canonical_object p ms
      rw [hks] at h
      cases h

/-- The members of an object may be put in any order. -/
theorem sameUpToOrder_of_perm (hms : Proper (.object ms)) (h : ms.Perm ns) :
    SameUpToOrder false (.object ms) (.object ns) := by
  obtain ⟨hkeys, hvalues⟩ := proper_object.1 hms
  refine .object (h.map Prod.fst) fun key v w hv hw => ?_
  rw [← values_of_perm hkeys h key v w hv hw]
  exact sameUpToOrder_of_canonical_eq v (hvalues _ hv) (hvalues _ hv) rfl

end Canonical

/-- A text for a document that can be read. -/
theorem Readable.exists_parse {v : Value} (h : v.Readable) : ∃ s, Json.parse s = .ok v :=
  ⟨v.render none, (Json.parse_render h.1 none).1 h.2⟩

/-- Documents that are read have canonical texts, and one canonical text exactly if they are the same
up to the order of members, property maps excepted. -/
theorem canonicalText_eq_iff {s t : String} {v w : Value} (hv : Json.parse s = .ok v)
    (hw : Json.parse t = .ok w) :
    ∃ a b, v.canonicalText = .ok a ∧ w.canonicalText = .ok b ∧ (a = b ↔ SameUpToOrder false v w) := by
  have hreadable := Json.readable_of_parse hv
  have hreadable' := Json.readable_of_parse hw
  refine ⟨_, _, canonicalText_of_fits hreadable.2, canonicalText_of_fits hreadable'.2, ?_, ?_⟩
  · intro h
    have hcanonical := hreadable.canonical false
    have hcanonical' := hreadable'.canonical false
    have hread := (Json.parse_render hcanonical.1 (some 2)).1 hcanonical.2
    rw [h, (Json.parse_render hcanonical'.1 (some 2)).1 hcanonical'.2] at hread
    exact sameUpToOrder_of_canonical_eq v hreadable.1 hreadable'.1 (Except.ok.inj hread).symm
  · intro h
    rw [h.canonical_eq v hreadable hreadable']

/-- The members of a document with a property map. -/
def pointMembers (properties : List (String × Value)) : List (String × Value) :=
  [("required", .array []), ("properties", .object properties)]

theorem canonicalText_eq_iff_point : ∃ s t r,
    Json.parse s = .ok (.object (pointMembers [("y", .int 1), ("x", .null)])) ∧
    Json.parse t = .ok (.object (pointMembers [("y", .int 1), ("x", .null)]).reverse) ∧
    Json.parse r = .ok (.object (pointMembers [("x", .null), ("y", .int 1)])) ∧
    (object (pointMembers [("y", .int 1), ("x", .null)])).canonicalText =
      (object (pointMembers [("y", .int 1), ("x", .null)]).reverse).canonicalText ∧
    (object (pointMembers [("y", .int 1), ("x", .null)])).canonicalText ≠
      (object (pointMembers [("x", .null), ("y", .int 1)])).canonicalText := by
  have hone : Json.Fits 1 := Json.fits_of_lt_ten (by decide)
  obtain ⟨s, hs⟩ := Readable.exists_parse
    (v := .object (pointMembers [("y", .int 1), ("x", .null)]))
    (by simp [pointMembers, readable_object, readable_array, readable_int, readable_null, hone])
  obtain ⟨t, ht⟩ := Readable.exists_parse
    (v := .object (pointMembers [("y", .int 1), ("x", .null)]).reverse)
    (by simp [pointMembers, readable_object, readable_array, readable_int, readable_null, hone])
  obtain ⟨r, hr⟩ := Readable.exists_parse
    (v := .object (pointMembers [("x", .null), ("y", .int 1)]))
    (by simp [pointMembers, readable_object, readable_array, readable_int, readable_null, hone])
  refine ⟨s, t, r, hs, ht, hr, ?_, ?_⟩
  · obtain ⟨a, b, ha, hb, hiff⟩ := canonicalText_eq_iff hs ht
    rw [ha, hb, hiff.2
      (sameUpToOrder_of_perm (Json.readable_of_parse hs).1 (List.reverse_perm _).symm)]
  · obtain ⟨a, b, ha, hb, hiff⟩ := canonicalText_eq_iff hs hr
    rw [ha, hb]
    intro h
    cases hiff.1 (Except.ok.inj h) with
    | number h => cases h
    | object _ values =>
      -- The keys of the property maps stand in another order.
      have hmap : SameUpToOrder true (.object [("y", .int 1), ("x", .null)])
          (.object [("x", .null), ("y", .int 1)]) :=
        values "properties" _ _ (by simp [pointMembers]) (by simp [pointMembers])
      generalize hw : Value.object [("x", .null), ("y", .int 1)] = w at hmap
      cases hmap with
      | number h => cases h
      | propertyMap keys _ =>
        cases hw
        simp at keys

end GuidedJson.Value
