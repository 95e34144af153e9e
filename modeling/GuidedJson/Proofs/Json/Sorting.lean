import GuidedJson.Json.Order
import GuidedJson.Proofs.Results

/-!
# Which values can be sorted

Texts have an order among them, and so have numbers. Values that can be members of a set are sorted
where all of them are texts, where all are numbers, or where there is one alone. In every other list
two values are compared that have no order.
-/

namespace GuidedJson.Value

/-! ## Kinds with an order -/

def IsText (v : Value) : Prop := ∃ s, v = .string s

/-- Whether a value is a number; false and true are numbers too. -/
def IsNumeric (v : Value) : Prop := v.numeric?.isSome = true

/-- Whether a kind has an order that no value of another kind takes part in. -/
def Ordered (P : Value → Prop) : Prop :=
  ∀ a b, P a → ((∃ r, b.precedes a = .ok r) ↔ P b)

theorem ordered_isText : Ordered IsText := by
  rintro _ b ⟨s, rfl⟩
  cases b <;> simp [precedes, order, Except.map, numeric?, IsText]

theorem ordered_isNumeric : Ordered IsNumeric := by
  intro a b ha
  cases a with
  | null | string | array | object => cases ha
  | bool | int | float =>
    cases b <;> simp [precedes, order, Except.map, numeric?, IsNumeric]

/-- Values with an order between them are of one kind, unless they are arrays. -/
theorem kind_of_precedes {a b : Value} {r : Bool} (h : b.precedes a = .ok r)
    (ha : a.checkHashable = .ok ()) : (IsText a ∧ IsText b) ∨ (IsNumeric a ∧ IsNumeric b) := by
  have hkind : IsText a ∨ IsNumeric a := by
    cases a with
    | string s => exact .inl ⟨s, rfl⟩
    | bool | int | float => exact .inr rfl
    | array | object => cases ha
    | null => cases b <;> simp [precedes, order, Except.map, numeric?] at h
  rcases hkind with hkind | hkind
  · exact .inl ⟨hkind, (ordered_isText _ _ hkind).1 ⟨r, h⟩⟩
  · exact .inr ⟨hkind, (ordered_isNumeric _ _ hkind).1 ⟨r, h⟩⟩

/-! ## Insertion -/

section Insertion

variable {P : Value → Prop} (hP : Ordered P)
include hP

/-- A value is compared with one of those among which its place is looked for. -/
theorem of_sortedPlace {v : Value} {found : Array Value} {low high place : Nat} (hlow : low < high)
    (hhigh : high ≤ found.size) (hfound : ∀ w ∈ found, P w)
    (h : sortedPlace v found low high = .ok place) : P v := by
  have hmiddle : low + (high - low) / 2 < found.size := by omega
  rw [sortedPlace, dif_pos hlow] at h
  obtain ⟨r, hr, -⟩ := exceptBind_eq_ok.1 h
  rw [Array.getD_eq_getD_getElem?, Array.getElem?_eq_getElem hmiddle, Option.getD_some] at hr
  exact (hP _ v (hfound _ (Array.getElem_mem hmiddle))).1 ⟨r, hr⟩

/-- Values of a kind have a place among others of it. -/
theorem exists_sortedPlace {v : Value} {found : Array Value} (hv : P v)
    (hfound : ∀ w ∈ found, P w) {low high : Nat} (hhigh : high ≤ found.size) :
    ∃ place, sortedPlace v found low high = .ok place := by
  induction hcount : high - low using Nat.strongRecOn generalizing low high with
  | _ count ih =>
    rw [sortedPlace]
    split
    next hlow =>
      have hmiddle : low + (high - low) / 2 < found.size := by omega
      obtain ⟨r, hr⟩ := (hP _ v (hfound _ (Array.getElem_mem hmiddle))).2 hv
      dsimp only
      rw [Array.getD_eq_getD_getElem?, Array.getElem?_eq_getElem hmiddle, Option.getD_some, hr]
      cases r with
      | true => exact ih _ (by omega) (by omega) rfl
      | false => exact ih _ (by omega) hhigh rfl
    next => exact ⟨low, rfl⟩

end Insertion

/-- Puts a value into its place among sorted ones. -/
def insertOrdered (found : Array Value) (v : Value) : Except Mismatch (Array Value) := do
  let place ← sortedPlace v found 0 found.size
  return found.insertIdxIfInBounds place v

theorem mem_insertOrdered {found all : Array Value} {v w : Value}
    (h : insertOrdered found v = .ok all) (hw : w ∈ all) : w = v ∨ w ∈ found := by
  obtain ⟨place, -, heq⟩ := exceptBind_eq_ok.1 h
  cases heq
  unfold Array.insertIdxIfInBounds at hw
  split at hw
  · exact Array.mem_insertIdx.1 hw
  · exact .inr hw

theorem size_le_of_insertOrdered {found all : Array Value} {v : Value}
    (h : insertOrdered found v = .ok all) : found.size ≤ all.size := by
  obtain ⟨place, -, heq⟩ := exceptBind_eq_ok.1 h
  cases heq
  unfold Array.insertIdxIfInBounds
  split
  · rw [Array.size_insertIdx]
    exact Nat.le_succ _
  · exact Nat.le_refl _

/-- Values are put among others of a kind exactly if they are of this kind. -/
theorem exists_foldlM_iff {P : Value → Prop} (hP : Ordered P) {vs : List Value}
    {found : Array Value} (hsize : 0 < found.size) (hfound : ∀ w ∈ found, P w) :
    (∃ all, vs.foldlM insertOrdered found = .ok all) ↔ ∀ v ∈ vs, P v := by
  induction vs generalizing found with
  | nil => simp [pure, Except.pure]
  | cons v vs ih =>
    have hnext {all : Array Value} (hv : P v) (hall : insertOrdered found v = .ok all) :
        (∃ all', vs.foldlM insertOrdered all = .ok all') ↔ ∀ v ∈ vs, P v := by
      refine ih (Nat.lt_of_lt_of_le hsize (size_le_of_insertOrdered hall)) fun w hw => ?_
      rcases mem_insertOrdered hall hw with rfl | hw
      · exact hv
      · exact hfound w hw
    rw [List.foldlM_cons, List.forall_mem_cons]
    constructor
    · rintro ⟨all', h⟩
      obtain ⟨all, hall, h⟩ := exceptBind_eq_ok.1 h
      obtain ⟨place, hplace, -⟩ := exceptBind_eq_ok.1 hall
      have hv := of_sortedPlace hP hsize (Nat.le_refl _) hfound hplace
      exact ⟨hv, (hnext hv hall).1 ⟨all', h⟩⟩
    · rintro ⟨hv, hvs⟩
      obtain ⟨place, hplace⟩ : ∃ place, sortedPlace v found 0 found.size = .ok place :=
        exists_sortedPlace hP hv hfound (Nat.le_refl _)
      have hall : insertOrdered found v = .ok (found.insertIdxIfInBounds place v) :=
        exceptBind_eq_ok.2 ⟨place, hplace, rfl⟩
      obtain ⟨all', h⟩ := (hnext hv hall).2 hvs
      exact ⟨all', exceptBind_eq_ok.2 ⟨_, hall, h⟩⟩

/-! ## Runs -/

section Runs

variable {P : Value → Prop} (hP : Ordered P) {descending : Bool}
include hP

/-- The run that is found is of the kind of the value before it, and so is what comes before the
rest. -/
theorem of_runAfter {last : Value} (hlast : P last) {found vs run rest : List Value}
    (hne : found ≠ []) (hfound : ∀ w ∈ found, P w)
    (h : runAfter descending last found vs = .ok (run, rest)) :
    run ≠ [] ∧ (∀ w ∈ run, P w) ∧ ((∀ v ∈ vs, P v) ↔ ∀ v ∈ rest, P v) := by
  induction vs generalizing last found with
  | nil =>
    cases h
    exact ⟨hne, hfound, Iff.rfl⟩
  | cons v vs ih =>
    rw [runAfter] at h
    obtain ⟨r, hr, h⟩ := exceptBind_eq_ok.1 h
    have hv : P v := (hP _ v hlast).1 ⟨r, hr⟩
    split at h
    · obtain ⟨hrun, hmem, hrest⟩ := ih hv (by simp) (List.forall_mem_cons.2 ⟨hv, hfound⟩) h
      exact ⟨hrun, hmem, by rw [← hrest, List.forall_mem_cons, and_iff_right hv]⟩
    · cases h
      exact ⟨hne, hfound, Iff.rfl⟩

theorem exists_runAfter {last : Value} (hlast : P last) {vs : List Value} (hvs : ∀ v ∈ vs, P v)
    (found : List Value) : ∃ run rest, runAfter descending last found vs = .ok (run, rest) := by
  induction vs generalizing last found with
  | nil => exact ⟨found, [], rfl⟩
  | cons v vs ih =>
    rw [List.forall_mem_cons] at hvs
    obtain ⟨r, hr⟩ := (hP _ v hlast).2 hvs.1
    rw [runAfter, hr]
    by_cases hdescending : (r == descending) = true
    · obtain ⟨run, rest, h⟩ := ih hvs.1 hvs.2 (v :: found)
      exact ⟨run, rest, by simpa [bind, Except.bind, hdescending] using h⟩
    · exact ⟨found, v :: vs, by simp [bind, Except.bind, hdescending, pure, Except.pure]⟩

end Runs

/-! ## Sorting -/

/-- Sorting takes a run off the front, and inserts what follows it. -/
theorem exists_sorted_iff_insert {a b : Value} {vs : List Value} :
    (∃ ws, sorted (a :: b :: vs) = .ok ws) ↔ ∃ d run rest all, b.precedes a = .ok d ∧
      runAfter d b [b, a] vs = .ok (run, rest) ∧
      rest.foldlM insertOrdered (if d then run else run.reverse).toArray = .ok all := by
  have hfirst (r : List Value × List Value) : firstRun (a :: b :: vs) = .ok r ↔ ∃ d run rest,
      b.precedes a = .ok d ∧ runAfter d b [b, a] vs = .ok (run, rest) ∧
      (if d then run else run.reverse, rest) = r := by
    rw [firstRun, exceptBind_eq_ok]
    constructor
    · rintro ⟨d, hd, h⟩
      obtain ⟨⟨run, rest⟩, hrun, heq⟩ := exceptBind_eq_ok.1 h
      exact ⟨d, run, rest, hd, hrun, Except.ok.inj heq⟩
    · rintro ⟨d, run, rest, hd, hrun, rfl⟩
      exact ⟨d, hd, exceptBind_eq_ok.2 ⟨_, hrun, rfl⟩⟩
  constructor
  · rintro ⟨ws, h⟩
    obtain ⟨r, hr, h⟩ := exceptBind_eq_ok.1 h
    obtain ⟨d, run, rest, hd, hrun, rfl⟩ := (hfirst r).1 hr
    obtain ⟨all, hall, -⟩ := exceptBind_eq_ok.1 h
    exact ⟨d, run, rest, all, hd, hrun, hall⟩
  · rintro ⟨d, run, rest, all, hd, hrun, hall⟩
    refine ⟨all.toList, exceptBind_eq_ok.2 ⟨_, (hfirst _).2 ⟨d, run, rest, hd, hrun, rfl⟩, ?_⟩⟩
    exact exceptBind_eq_ok.2 ⟨all, hall, rfl⟩

/-- Values after two of a kind are sorted with them exactly if they are of this kind. -/
theorem exists_sorted_cons_iff {P : Value → Prop} (hP : Ordered P) {a b : Value} (ha : P a)
    (hb : P b) {vs : List Value} : (∃ ws, sorted (a :: b :: vs) = .ok ws) ↔ ∀ v ∈ vs, P v := by
  have hpair : ∀ w ∈ [b, a], P w := by simpa using ⟨hb, ha⟩
  have hinsert {d : Bool} {run rest : List Value}
      (hrun : runAfter d b [b, a] vs = .ok (run, rest)) :
      (∃ all, rest.foldlM insertOrdered (if d then run else run.reverse).toArray = .ok all) ↔
        ∀ v ∈ vs, P v := by
    obtain ⟨hne, hmem, hrest⟩ := of_runAfter hP hb (by simp) hpair hrun
    rw [hrest]
    refine exists_foldlM_iff hP ?_ fun w hw => hmem w ?_
    · split <;> simpa using List.length_pos_iff.2 hne
    · split at hw <;> simpa using hw
  rw [exists_sorted_iff_insert]
  constructor
  · rintro ⟨d, run, rest, all, -, hrun, hall⟩
    exact (hinsert hrun).1 ⟨all, hall⟩
  · intro hvs
    obtain ⟨d, hd⟩ := (hP a b ha).2 hb
    obtain ⟨run, rest, hrun⟩ := exists_runAfter hP hb hvs [b, a]
    obtain ⟨all, hall⟩ := (hinsert hrun).2 hvs
    exact ⟨d, run, rest, all, hd, hrun, hall⟩

/-- Whether values are texts alone, numbers alone, or no more than one value. -/
def Sortable (vs : List Value) : Prop :=
  (∀ v ∈ vs, v.IsText) ∨ (∀ v ∈ vs, v.IsNumeric) ∨ ∃ v, vs = [v]

/-- Members of a set are sorted exactly if they are of one kind that has an order. -/
theorem exists_sorted_iff {vs : List Value} (h : ∀ v ∈ vs, v.checkHashable = .ok ()) :
    (∃ ws, sorted vs = .ok ws) ↔ Sortable vs := by
  match vs with
  | [] => exact iff_of_true ⟨[], rfl⟩ (.inl (by simp))
  | [v] => exact iff_of_true ⟨[v], rfl⟩ (.inr (.inr ⟨v, rfl⟩))
  | a :: b :: vs =>
    have hsortable {P : Value → Prop} (hP : Ordered P) (ha : P a) (hb : P b) :
        (∃ ws, sorted (a :: b :: vs) = .ok ws) ↔ ∀ v ∈ a :: b :: vs, P v := by
      rw [exists_sorted_cons_iff hP ha hb, List.forall_mem_cons, List.forall_mem_cons,
        and_iff_right ha, and_iff_right hb]
    constructor
    · intro hsorted
      obtain ⟨d, -, -, -, hd, -⟩ := exists_sorted_iff_insert.1 hsorted
      rcases kind_of_precedes hd (h a List.mem_cons_self) with ⟨ha, hb⟩ | ⟨ha, hb⟩
      · exact .inl ((hsortable ordered_isText ha hb).1 hsorted)
      · exact .inr (.inl ((hsortable ordered_isNumeric ha hb).1 hsorted))
    · rintro (htexts | hnumbers | ⟨v, hv⟩)
      · exact (hsortable ordered_isText (htexts a (by simp)) (htexts b (by simp))).2 htexts
      · exact (hsortable ordered_isNumeric (hnumbers a (by simp)) (hnumbers b (by simp))).2
          hnumbers
      · cases hv

/-! ## What is sorted -/

theorem sortedPlace_le {v : Value} {found : Array Value} {low high place : Nat} (hle : low ≤ high)
    (h : sortedPlace v found low high = .ok place) : place ≤ high := by
  induction hcount : high - low using Nat.strongRecOn generalizing low high with
  | _ count ih =>
    rw [sortedPlace] at h
    split at h
    next hlow =>
      obtain ⟨r, -, h⟩ := exceptBind_eq_ok.1 h
      split at h
      · have hplace := ih _ (by omega) (by omega) h rfl
        omega
      · exact ih _ (by omega) (by omega) h rfl
    next =>
      cases h
      exact hle

theorem perm_insertOrdered {found all : Array Value} {v : Value}
    (h : insertOrdered found v = .ok all) : all.toList.Perm (v :: found.toList) := by
  obtain ⟨place, hplace, heq⟩ := exceptBind_eq_ok.1 h
  cases heq
  have hle : place ≤ found.size := sortedPlace_le (Nat.zero_le _) hplace
  rw [Array.insertIdxIfInBounds, dif_pos hle, Array.toList_insertIdx]
  exact List.perm_insertIdx v _ hle

theorem perm_foldlM_insertOrdered {vs : List Value} {found all : Array Value}
    (h : vs.foldlM insertOrdered found = .ok all) : all.toList.Perm (vs ++ found.toList) := by
  induction vs generalizing found with
  | nil =>
    cases h
    exact .refl _
  | cons v vs ih =>
    obtain ⟨next, hnext, h⟩ := exceptBind_eq_ok.1 h
    have hrest : all.toList.Perm (vs ++ v :: found.toList) :=
      (ih h).trans ((perm_insertOrdered hnext).append_left vs)
    exact hrest.trans List.perm_middle

theorem perm_runAfter {descending : Bool} {last : Value} {found vs run rest : List Value}
    (h : runAfter descending last found vs = .ok (run, rest)) :
    (rest ++ run).Perm (vs ++ found) := by
  induction vs generalizing last found with
  | nil =>
    cases h
    exact .refl _
  | cons v vs ih =>
    rw [runAfter] at h
    obtain ⟨r, -, h⟩ := exceptBind_eq_ok.1 h
    split at h
    · exact (ih h).trans List.perm_middle
    · cases h
      exact .refl _

/-- Sorting keeps the values. -/
theorem perm_sorted {vs ws : List Value} (h : sorted vs = .ok ws) : ws.Perm vs := by
  obtain ⟨⟨run, rest⟩, hfirst, h⟩ := exceptBind_eq_ok.1 h
  obtain ⟨all, hall, heq⟩ := exceptBind_eq_ok.1 h
  cases heq
  have hinserted : all.toList.Perm (rest ++ run) := perm_foldlM_insertOrdered hall
  refine hinserted.trans ?_
  match vs with
  | [] | [_] =>
    cases hfirst
    exact .refl _
  | a :: b :: vs =>
    rw [firstRun] at hfirst
    obtain ⟨d, -, hfirst⟩ := exceptBind_eq_ok.1 hfirst
    obtain ⟨⟨found, left⟩, hrun, heq⟩ := exceptBind_eq_ok.1 hfirst
    cases heq
    have hpair : (vs ++ [b, a]).Perm (a :: b :: vs) := by
      have hswap : (vs ++ [b, a]).Perm ([a, b] ++ vs) :=
        ((List.Perm.swap a b []).append_left vs).trans List.perm_append_comm
      exact hswap
    refine List.Perm.trans ?_ ((perm_runAfter hrun).trans hpair)
    split
    · exact .refl _
    · exact (List.reverse_perm found).append_left rest

end GuidedJson.Value
