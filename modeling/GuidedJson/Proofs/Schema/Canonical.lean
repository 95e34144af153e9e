import GuidedJson.Proofs.Json.Readable
import GuidedJson.Schema.Canonical

/-!
# Canonical documents

The canonical form of a document has the members of the document, in an order that depends on their
keys alone. It is its own canonical form, is read where the document is read, and compares with
others as the document does.
-/

namespace GuidedJson.Value

/-! ## Induction -/

/-- What holds of a value where it holds of the parts of the value holds of all values. -/
@[elab_as_elim]
theorem induct {P : Value → Prop}
    (scalar : ∀ v : Value, (∀ vs, v ≠ .array vs) → (∀ ms, v ≠ .object ms) → P v)
    (array : ∀ vs : List Value, (∀ v ∈ vs, P v) → P (.array vs))
    (object : ∀ ms : List (String × Value), (∀ m ∈ ms, P m.2) → P (.object ms)) (v : Value) :
    P v := by
  cases v with
  | array vs =>
    refine array vs fun v hv => ?_
    have hsize := List.sizeOf_lt_of_mem hv
    exact induct scalar array object v
  | object ms =>
    refine object ms fun ⟨key, v⟩ hm => ?_
    have hsize := List.sizeOf_lt_of_mem hm
    exact induct scalar array object v
  | _ => exact scalar _ nofun nofun
termination_by sizeOf v
decreasing_by all_goals (simp at hsize ⊢; omega)

/-! ## Members by key -/

section Lookup

variable {key : String} {v : Value} {ms ns : List (String × Value)}

theorem mem_of_lookup (h : lookup key ms = some v) : (key, v) ∈ ms := by
  induction ms with
  | nil => cases h
  | cons m ms ih =>
    obtain ⟨k, w⟩ := m
    by_cases hk : k = key
    · rw [lookup, if_pos hk] at h
      rw [← hk, ← Option.some.inj h]
      exact List.mem_cons_self
    · rw [lookup, if_neg hk] at h
      exact List.mem_cons_of_mem _ (ih h)

theorem lookup_of_mem (hms : (ms.map Prod.fst).Nodup) (h : (key, v) ∈ ms) :
    lookup key ms = some v := by
  induction ms with
  | nil => cases h
  | cons m ms ih =>
    obtain ⟨k, w⟩ := m
    rw [List.map_cons, List.nodup_cons] at hms
    rcases List.mem_cons.1 h with heq | hmem
    · cases heq
      rw [lookup, if_pos rfl]
    · have hk : k ≠ key := by
        rintro rfl
        exact hms.1 (List.mem_map.2 ⟨_, hmem, rfl⟩)
      rw [lookup, if_neg hk, ih hms.2 hmem]

theorem lookup_eq_none_iff : lookup key ms = none ↔ key ∉ ms.map Prod.fst := by
  induction ms with
  | nil => simp
  | cons m ms ih =>
    obtain ⟨k, w⟩ := m
    by_cases hk : k = key
    · simp [lookup, hk]
    · rw [lookup, if_neg hk, ih, List.map_cons, List.mem_cons, not_or]
      exact (and_iff_right (Ne.symm hk)).symm

/-- Where no key is twice, the order of members does not count. -/
theorem lookup_of_perm (hms : (ms.map Prod.fst).Nodup) (h : ms.Perm ns) (key : String) :
    lookup key ns = lookup key ms := by
  have hns : (ns.map Prod.fst).Nodup := (h.map Prod.fst).nodup_iff.1 hms
  cases hlookup : lookup key ms with
  | some v => exact lookup_of_mem hns (h.mem_iff.1 (mem_of_lookup hlookup))
  | none =>
    cases hother : lookup key ns with
    | none => rfl
    | some v =>
      have hfound := lookup_of_mem hms (h.mem_iff.2 (mem_of_lookup hother))
      rw [hlookup] at hfound
      cases hfound

theorem lookup_append (key : String) (ms ns : List (String × Value)) :
    lookup key (ms ++ ns) = (lookup key ms).or (lookup key ns) := by
  induction ms with
  | nil => rfl
  | cons m ms ih =>
    obtain ⟨k, v⟩ := m
    by_cases hk : k = key <;> simp [lookup, hk, ih]

theorem lookup_map (f : String → Value → Value) (key : String) (ms : List (String × Value)) :
    lookup key (ms.map fun m => (m.1, f m.1 m.2)) = (lookup key ms).map (f key) := by
  induction ms with
  | nil => rfl
  | cons m ms ih =>
    obtain ⟨k, w⟩ := m
    by_cases hk : k = key
    · subst hk
      simp [lookup]
    · simp [lookup, hk, ih]

end Lookup

/-! ## The canonical form -/

section Canonical

variable {v w : Value} {vs : List Value} {ms : List (String × Value)}

theorem canonical_array (p : Bool) (vs : List Value) :
    (array vs).canonical p = .array (vs.map (canonical false)) := by
  rw [canonical, canonicalItems_eq_map]

/-- A value of a member, canonical in its place. -/
def canonicalAt (p : Bool) (key : String) (v : Value) : Value :=
  v.canonical (key == "properties" && !p)

theorem canonicalMembers_eq (p : Bool) (ms : List (String × Value)) :
    canonicalMembers p ms = ms.map fun m => (m.1, canonicalAt p m.1 m.2) :=
  canonicalMembers_eq_map p ms

@[simp] theorem keys_canonicalMembers (p : Bool) (ms : List (String × Value)) :
    (canonicalMembers p ms).map Prod.fst = ms.map Prod.fst := by
  simp [canonicalMembers_eq]

/-- The canonical form of an object has its members, each in its canonical form. -/
theorem exists_canonical_object (p : Bool) (ms : List (String × Value)) :
    ∃ ns, (object ms).canonical p = .object ns ∧
      ns.Perm (ms.map fun m => (m.1, canonicalAt p m.1 m.2)) := by
  rw [canonical, ← canonicalMembers_eq]
  cases p with
  | true => exact ⟨_, rfl, .refl _⟩
  | false => exact ⟨_, rfl, perm_sortMembers _⟩

/-- A map of properties keeps its places. -/
theorem canonical_propertyMap (ms : List (String × Value)) :
    (object ms).canonical true = .object (ms.map fun m => (m.1, m.2.canonical false)) := by
  rw [canonical, if_pos rfl, canonicalMembers_eq]
  simp [canonicalAt]

/-- A value that is neither an array nor an object is its own canonical form. -/
theorem canonical_scalar (p : Bool) (harray : ∀ vs, v ≠ .array vs)
    (hobject : ∀ ms, v ≠ .object ms) : v.canonical p = v := by
  cases v with
  | array vs => exact absurd rfl (harray vs)
  | object ms => exact absurd rfl (hobject ms)
  | _ => rfl

theorem canonical_ne_array (p : Bool) (h : ∀ vs, v ≠ .array vs) (vs : List Value) :
    v.canonical p ≠ .array vs := by
  cases v with
  | array vs => exact absurd rfl (h vs)
  | _ => exact nofun

theorem canonical_ne_object (p : Bool) (h : ∀ ms, v ≠ .object ms) (ms : List (String × Value)) :
    v.canonical p ≠ .object ms := by
  cases v with
  | object ms => exact absurd rfl (h ms)
  | _ => exact nofun

@[simp] theorem isNull_canonical (p : Bool) (v : Value) : (v.canonical p).isNull = v.isNull := by
  cases v <;> rfl

@[simp] theorem numeric_canonical (p : Bool) (v : Value) :
    (v.canonical p).numeric? = v.numeric? := by
  cases v <;> rfl

theorem keys_of_perm_canonical {p : Bool} {ns : List (String × Value)}
    (h : ns.Perm (ms.map fun m => (m.1, canonicalAt p m.1 m.2))) :
    (ns.map Prod.fst).Perm (ms.map Prod.fst) := by
  simpa only [List.map_map, Function.comp_def] using h.map Prod.fst

/-- The canonical form of a document is as documents are read. -/
theorem proper_canonical (v : Value) : ∀ p, v.Proper → (v.canonical p).Proper := by
  induction v using induct with
  | scalar v harray hobject =>
    intro p h
    rwa [canonical_scalar p harray hobject]
  | array vs ih =>
    intro p h
    rw [canonical_array, proper_array, List.forall_mem_map]
    exact fun v hv => ih v hv false (proper_array.1 h v hv)
  | object ms ih =>
    intro p h
    obtain ⟨hkeys, hms⟩ := proper_object.1 h
    obtain ⟨ns, htext, hns⟩ := exists_canonical_object p ms
    rw [htext, proper_object]
    refine ⟨(keys_of_perm_canonical hns).nodup_iff.2 hkeys, fun n hn => ?_⟩
    obtain ⟨m, hm, rfl⟩ := List.mem_map.1 (hns.mem_iff.1 hn)
    exact ih m hm _ (hms m hm)

/-- A document and its canonical form have the same integers. -/
theorem fits_canonical (v : Value) : ∀ p, (v.canonical p).Fits ↔ v.Fits := by
  induction v using induct with
  | scalar v harray hobject =>
    intro p
    rw [canonical_scalar p harray hobject]
  | array vs ih =>
    intro p
    rw [canonical_array, fits_array, fits_array, List.forall_mem_map]
    exact forall₂_congr fun v hv => ih v hv false
  | object ms ih =>
    intro p
    obtain ⟨ns, htext, hns⟩ := exists_canonical_object p ms
    rw [htext, fits_object, fits_object]
    have hmem : (∀ n ∈ ns, n.2.Fits) ↔ ∀ m ∈ ms, (canonicalAt p m.1 m.2).Fits := by
      simp only [hns.mem_iff, List.forall_mem_map]
    rw [hmem]
    exact forall₂_congr fun m hm => ih m hm _

/-- The canonical text of a document is its canonical form as it is printed, if it can be printed. -/
theorem canonicalText_of_fits (h : v.Fits) :
    v.canonicalText = .ok ((v.canonical false).render (some 2)) := by
  rw [canonicalText, write?_of_fits ((fits_canonical v false).2 h)]
  rfl

theorem canonicalText_of_not_fits (h : ¬ v.Fits) : v.canonicalText = .error (.digits none) := by
  rw [canonicalText, write?_of_not_fits (mt (fits_canonical v false).1 h)]
  rfl

theorem canonicalText_eq_ok_iff {text : String} :
    v.canonicalText = .ok text ↔ v.Fits ∧ (v.canonical false).render (some 2) = text := by
  by_cases h : v.Fits
  · rw [canonicalText_of_fits h, Except.ok.injEq, and_iff_right h]
  · rw [canonicalText_of_not_fits h]
    exact iff_of_false nofun fun hboth => h hboth.1

theorem Readable.canonical (h : v.Readable) (p : Bool) : (v.canonical p).Readable :=
  ⟨proper_canonical v p h.1, (fits_canonical v p).2 h.2⟩

end Canonical

/-! ## Sorted members -/

section Sorted

variable {m : String × Value} {ms : List (String × Value)}

/-- Whether the keys of members ascend. -/
def Ascending (ms : List (String × Value)) : Prop := ms.Pairwise fun m n => m.1 < n.1

theorem insertSorted_of_forall (h : ∀ n ∈ ms, m.1 < n.1) : insertSorted m ms = m :: ms := by
  cases ms with
  | nil => rfl
  | cons n ns => rw [insertSorted, if_pos (h n List.mem_cons_self)]

theorem Ascending.insertSorted (h : Ascending ms) (hm : m.1 ∉ ms.map Prod.fst) :
    Ascending (insertSorted m ms) := by
  induction ms with
  | nil => simp [Value.insertSorted, Ascending]
  | cons n ns ih =>
    obtain ⟨hn, hns⟩ := List.pairwise_cons.1 h
    rw [List.map_cons, List.mem_cons, not_or] at hm
    rw [Value.insertSorted]
    split
    next hlt =>
      refine List.pairwise_cons.2 ⟨List.forall_mem_cons.2 ⟨hlt, fun k hk => ?_⟩, h⟩
      exact String.lt_trans hlt (hn k hk)
    next hlt =>
      have hgt : n.1 < m.1 := by
        by_contra hle
        exact hm.1 (String.le_antisymm (String.not_lt.1 hle) (String.not_lt.1 hlt))
      refine List.pairwise_cons.2 ⟨fun k hk => ?_, ih hns hm.2⟩
      rcases List.mem_cons.1 ((perm_insertSorted m ns).mem_iff.1 hk) with rfl | hk
      · exact hgt
      · exact hn k hk

theorem ascending_sortMembers (h : (ms.map Prod.fst).Nodup) : Ascending (sortMembers ms) := by
  induction ms with
  | nil => exact List.Pairwise.nil
  | cons m ms ih =>
    rw [List.map_cons, List.nodup_cons] at h
    refine (ih h.2).insertSorted ?_
    rw [((perm_sortMembers ms).map Prod.fst).mem_iff]
    exact h.1

theorem Ascending.sortMembers (h : Ascending ms) : sortMembers ms = ms := by
  induction ms with
  | nil => rfl
  | cons m ms ih =>
    obtain ⟨hm, hms⟩ := List.pairwise_cons.1 h
    rw [Value.sortMembers, ih hms, insertSorted_of_forall hm]

/-- Members are sorted by their keys alone. -/
theorem sortMembers_map (f : String → Value → Value) (ms : List (String × Value)) :
    sortMembers (ms.map fun m => (m.1, f m.1 m.2)) =
      (sortMembers ms).map fun m => (m.1, f m.1 m.2) := by
  have hinsert (m : String × Value) (ns : List (String × Value)) :
      insertSorted (m.1, f m.1 m.2) (ns.map fun m => (m.1, f m.1 m.2)) =
        (insertSorted m ns).map fun m => (m.1, f m.1 m.2) := by
    induction ns with
    | nil => rfl
    | cons n ns ih =>
      by_cases hlt : m.1 < n.1 <;> simp [insertSorted, hlt, ih]
  induction ms with
  | nil => rfl
  | cons m ms ih => rw [List.map_cons, sortMembers, ih, hinsert, ← sortMembers]

/-- A canonical document is its own canonical form. -/
theorem canonical_canonical (v : Value) :
    ∀ p, v.Proper → (v.canonical p).canonical p = v.canonical p := by
  induction v using induct with
  | scalar v harray hobject =>
    intro p _
    rw [canonical_scalar p harray hobject, canonical_scalar p harray hobject]
  | array vs ih =>
    intro p h
    rw [canonical_array, canonical_array, List.map_map]
    congr 1
    exact List.map_congr_left fun v hv => ih v hv false (proper_array.1 h v hv)
  | object ms ih =>
    intro p h
    obtain ⟨hkeys, hms⟩ := proper_object.1 h
    have htwice : (canonicalMembers p ms).map (fun m => (m.1, canonicalAt p m.1 m.2)) =
        canonicalMembers p ms := by
      rw [canonicalMembers_eq, List.map_map]
      exact List.map_congr_left fun m hm => Prod.ext rfl (ih m hm _ (hms m hm))
    cases p with
    | true =>
      simp only [canonical, if_true, canonicalMembers_eq true (canonicalMembers _ _), htwice]
    | false =>
      have hsorted : Ascending (sortMembers (canonicalMembers false ms)) :=
        ascending_sortMembers (by rwa [keys_canonicalMembers])
      simp only [canonical, if_false, Bool.false_eq_true,
        canonicalMembers_eq false (sortMembers _), ← sortMembers_map, htwice, hsorted.sortMembers]

end Sorted

/-! ## Comparison -/

section Comparison

variable {v w : Value} {vs ws : List Value} {ms ns : List (String × Value)}

theorem same_array_of_ne (hv : ∀ vs, v ≠ .array vs) (ws : List Value) :
    v.same (.array ws) = false ∧ (array ws).same v = false := by
  cases v with
  | array vs => exact absurd rfl (hv vs)
  | float x => cases x <;> exact ⟨rfl, rfl⟩
  | _ => exact ⟨rfl, rfl⟩

theorem same_object_of_ne (hv : ∀ ms, v ≠ .object ms) (ns : List (String × Value)) :
    v.same (.object ns) = false ∧ (object ns).same v = false := by
  cases v with
  | object ms => exact absurd rfl (hv ms)
  | float x => cases x <;> exact ⟨rfl, rfl⟩
  | _ => exact ⟨rfl, rfl⟩

theorem sameMembers_iff : sameMembers ms ns = true ↔
    ∀ m ∈ ms, ∃ w, lookup m.1 ns = some w ∧ m.2.same w = true := by
  induction ms with
  | nil => simp [sameMembers]
  | cons m ms ih =>
    rw [sameMembers, Bool.and_eq_true, ih, List.forall_mem_cons]
    cases lookup m.1 ns <;> simp

theorem sameItems_map {f : Value → Value} (h : ∀ v ∈ vs, ∀ w ∈ ws, (f v).same (f w) = v.same w) :
    sameItems (vs.map f) (ws.map f) = sameItems vs ws := by
  induction vs generalizing ws with
  | nil => cases ws <;> rfl
  | cons v vs ih =>
    cases ws with
    | nil => rfl
    | cons w ws =>
      simp only [List.forall_mem_cons] at h
      rw [List.map_cons, List.map_cons, sameItems, sameItems, h.1.1,
        ih fun v hv w hw => (h.2 v hv).2 w hw]

/-- Equality does not see in which order members stand. -/
theorem same_canonical (v : Value) : ∀ (w : Value) (p : Bool), v.Proper → w.Proper →
    (v.canonical p).same (w.canonical p) = v.same w := by
  induction v using induct with
  | scalar v harray hobject =>
    intro w p _ _
    rw [canonical_scalar p harray hobject]
    cases w with
    | array ws => rw [canonical_array, (same_array_of_ne harray _).1, (same_array_of_ne harray _).1]
    | object ns =>
      rw [canonical, (same_object_of_ne hobject _).1, (same_object_of_ne hobject _).1]
    | _ => rfl
  | array vs ih =>
    intro w p hv hw
    by_cases harray : ∃ ws, w = .array ws
    · obtain ⟨ws, rfl⟩ := harray
      rw [canonical_array, canonical_array, same, same]
      exact sameItems_map fun v hv' w hw' =>
        ih v hv' w false (proper_array.1 hv v hv') (proper_array.1 hw w hw')
    · have hne : ∀ ws, w ≠ .array ws := fun ws h => harray ⟨ws, h⟩
      rw [canonical_array, (same_array_of_ne (canonical_ne_array p hne) _).2,
        (same_array_of_ne hne _).2]
  | object ms ih =>
    intro w p hv hw
    by_cases hobject : ∃ ns, w = .object ns
    · obtain ⟨ns, rfl⟩ := hobject
      obtain ⟨-, hv⟩ := proper_object.1 hv
      obtain ⟨hns, hw⟩ := proper_object.1 hw
      obtain ⟨ms', hms', hmperm⟩ := exists_canonical_object p ms
      obtain ⟨ns', hns', hnperm⟩ := exists_canonical_object p ns
      have hlookup (key : String) : lookup key ns' = (lookup key ns).map (canonicalAt p key) := by
        rw [← lookup_map, lookup_of_perm ((keys_of_perm_canonical hnperm).nodup_iff.2 hns) hnperm]
      have hlength : ms'.length = ms.length ∧ ns'.length = ns.length := by
        simpa using And.intro hmperm.length_eq hnperm.length_eq
      have hmembers : sameMembers ms' ns' = sameMembers ms ns := by
        rw [Bool.eq_iff_iff, sameMembers_iff, sameMembers_iff]
        simp only [hmperm.mem_iff, List.forall_mem_map, hlookup, Option.map_eq_some_iff]
        refine forall₂_congr fun m hm => ?_
        have hsame {w : Value} (hw' : lookup m.1 ns = some w) :
            (canonicalAt p m.1 m.2).same (canonicalAt p m.1 w) = m.2.same w :=
          ih m hm w _ (hv m hm) (hw _ (mem_of_lookup hw'))
        constructor
        · rintro ⟨_, ⟨w, hw', rfl⟩, h⟩
          exact ⟨w, hw', hsame hw' ▸ h⟩
        · rintro ⟨w, hw', h⟩
          exact ⟨_, ⟨w, hw', rfl⟩, (hsame hw').symm ▸ h⟩
      rw [hms', hns', same, same, hmembers, hlength.1, hlength.2]
    · have hne : ∀ ns, w ≠ .object ns := fun ns h => hobject ⟨ns, h⟩
      rw [canonical, (same_object_of_ne (canonical_ne_object p hne) _).2,
        (same_object_of_ne hne _).2]

theorem orderItems_map {f : Value → Value} (operator : String)
    (hsame : ∀ v ∈ vs, ∀ w ∈ ws, (f v).same (f w) = v.same w)
    (horder : ∀ v ∈ vs, ∀ w ∈ ws, (f v).order operator (f w) = v.order operator w) :
    orderItems operator (vs.map f) (ws.map f) = orderItems operator vs ws := by
  induction vs generalizing ws with
  | nil => cases ws <;> rfl
  | cons v vs ih =>
    cases ws with
    | nil => rfl
    | cons w ws =>
      simp only [List.forall_mem_cons] at hsame horder
      rw [List.map_cons, List.map_cons, orderItems, orderItems, hsame.1.1, horder.1.1,
        ih (fun v hv w hw => (hsame.2 v hv).2 w hw) fun v hv w hw => (horder.2 v hv).2 w hw]

/-- The order of values does not see in which order members stand. -/
theorem order_canonical (operator : String) (v : Value) : ∀ w : Value, v.Proper → w.Proper →
    (v.canonical false).order operator (w.canonical false) = v.order operator w := by
  induction v using induct with
  | scalar v harray hobject =>
    intro w _ _
    rw [canonical_scalar false harray hobject]
    cases w with
    | array ws =>
      rw [canonical_array]
      cases v with
      | array vs => exact absurd rfl (harray vs)
      | _ => rfl
    | object ns => cases v <;> rfl
    | _ => rfl
  | array vs ih =>
    intro w hv hw
    cases w with
    | array ws =>
      rw [canonical_array, canonical_array, order, order]
      replace hv := proper_array.1 hv
      replace hw := proper_array.1 hw
      exact orderItems_map operator
        (fun v hv' w hw' => same_canonical v w false (hv v hv') (hw w hw'))
        fun v hv' w hw' => ih v hv' w (hv v hv') (hw w hw')
    | _ => rfl
  | object ms ih =>
    intro w _ _
    cases w <;> rfl

theorem exceeds_canonical (hv : v.Proper) (hw : w.Proper) :
    (v.canonical false).exceeds (w.canonical false) = v.exceeds w := by
  rw [exceeds, exceeds, order_canonical _ v w hv hw]

end Comparison

end GuidedJson.Value
