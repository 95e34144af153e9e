import GuidedJson.Decoding.Step
import GuidedJson.Proofs.Grammar.Masks
import GuidedJson.Proofs.Mask.Packing
import GuidedJson.Proofs.Number.Nearest

/-!
# Masked scores

Masking adds a penalty to every score along the last dimension: zero where the mask allows a token,
negative infinity where it does not and past the table. An allowed score stays. Another one becomes
negative infinity, but for two: of positive infinity, and of what is no number, the sum is no number
either, and that counts as the largest where a token is chosen.
-/

namespace GuidedJson.Decoding

open Number (Binary)

/-! ## Tensors -/

namespace Scores

variable {α : Type}

/-- Whether scores have a shape, of one dimension at least. -/
inductive HasShape : Scores α → List Nat → Prop
  | vector (xs) : HasShape (.vector xs) [xs.length]
  | rows {ss n shape} : (∀ s ∈ ss, HasShape s (n :: shape)) →
      HasShape (.rows ss) (ss.length :: n :: shape)

/-- The numbers along the last dimension, at indices into the dimensions before it. -/
def row? : List Nat → Scores α → Option (List α)
  | [], .vector xs => some xs
  | i :: is, .rows ss => ss[i]?.bind (row? is)
  | _, _ => none

theorem mem_flatAll {ss : List (Scores α)} {x : α} : x ∈ flatAll ss ↔ ∃ s ∈ ss, x ∈ s.flat := by
  induction ss with
  | nil => simp [flatAll]
  | cons s ss ih => rw [flatAll, List.mem_append, ih, List.exists_mem_cons_iff]

theorem mem_flat_of_row? {is : List Nat} {s : Scores α} {xs : List α} (h : s.row? is = some xs)
    {x : α} (hx : x ∈ xs) : x ∈ s.flat := by
  induction is generalizing s with
  | nil =>
    cases s with
    | vector ys =>
      cases h
      exact hx
    | _ => cases h
  | cons i is ih =>
    cases s with
    | rows ss =>
      obtain ⟨s, hs, h⟩ := Option.bind_eq_some_iff.1 h
      exact mem_flatAll.2 ⟨s, List.mem_of_getElem? hs, ih h⟩
    | _ => cases h

/-- Whether scores can be masked: there is something to fill in where there are no penalties for them,
and they have sums. -/
inductive IsMaskable (a : Arithmetic α) (size : Nat) : Scores α → Prop
  | vector {xs} : (size < xs.length → ∃ p, a.padding = .ok p) → (∃ f, a.add = .ok f) →
      IsMaskable a size (.vector xs)
  | rows {ss} : (∀ s ∈ ss, IsMaskable a size s) → IsMaskable a size (.rows ss)

section Maskable

variable {a : Arithmetic α} {ps : List α}

theorem exists_fit_iff {width : Nat} : (∃ qs, a.fit ps width = .ok qs) ↔
    (ps.length < width → ∃ p, a.padding = .ok p) := by
  rw [Arithmetic.fit]
  split
  next h =>
    cases a.padding with
    | ok p => exact iff_of_true ⟨_, rfl⟩ fun _ => ⟨p, rfl⟩
    | error e => simp [h, bind, Except.bind]
  next h => exact iff_of_true ⟨_, rfl⟩ fun hlt => absurd hlt h

theorem isMaskable_vector_iff {size : Nat} {xs : List α} : IsMaskable a size (.vector xs) ↔
    (size < xs.length → ∃ p, a.padding = .ok p) ∧ ∃ f, a.add = .ok f := by
  constructor
  · intro h
    cases h with
    | vector hfit hadd => exact ⟨hfit, hadd⟩
  · exact fun h => .vector h.1 h.2

theorem isMaskable_rows_iff {size : Nat} {ss : List (Scores α)} :
    IsMaskable a size (.rows ss) ↔ ∀ s ∈ ss, s.IsMaskable a size := by
  constructor
  · intro h
    cases h with
    | rows hss => exact hss
  · exact .rows

mutual
/-- Penalties can be added to the scores that can be masked. -/
theorem exists_penalize_iff :
    ∀ s : Scores α, (∃ t, s.penalize a ps = .ok t) ↔ s.IsMaskable a ps.length
  | .scalar x => by
    refine iff_of_false (by simp [penalize]) fun h => ?_
    cases h
  | .vector xs => by
    rw [isMaskable_vector_iff, ← exists_fit_iff, penalize]
    cases a.fit ps xs.length with
    | error e => simp [bind, Except.bind]
    | ok qs => cases a.add <;> simp [bind, Except.bind, pure, Except.pure]
  | .rows ss => by
    rw [isMaskable_rows_iff, ← exists_penalizeAll_iff ss, penalize]
    cases penalizeAll a ps ss <;> simp [bind, Except.bind, pure, Except.pure]

theorem exists_penalizeAll_iff : ∀ ss : List (Scores α),
    (∃ ts, penalizeAll a ps ss = .ok ts) ↔ ∀ s ∈ ss, s.IsMaskable a ps.length
  | [] => iff_of_true ⟨[], rfl⟩ (List.forall_mem_nil _)
  | s :: ss => by
    rw [List.forall_mem_cons, ← exists_penalize_iff s, ← exists_penalizeAll_iff ss, penalizeAll]
    cases s.penalize a ps with
    | error e => simp [bind, Except.bind]
    | ok t =>
      cases penalizeAll a ps ss <;> simp [bind, Except.bind, pure, Except.pure]
end

/-- Whether a tensor can be masked is a question of its last dimension alone, if it has rows. -/
theorem HasShape.isMaskable_iff {s : Scores α} {shape dims : List Nat} {n size : Nat}
    (h : s.HasShape shape) (hshape : shape = dims ++ [n]) (hdims : 0 ∉ dims) :
    s.IsMaskable a size ↔ (size < n → ∃ p, a.padding = .ok p) ∧ ∃ f, a.add = .ok f := by
  induction h generalizing dims with
  | vector xs =>
    obtain rfl : xs.length = n := by
      cases dims <;> simp_all
    exact isMaskable_vector_iff
  | @rows ss k shape _ ih =>
    cases dims with
    | nil => simp at hshape
    | cons d dims =>
      obtain ⟨rfl, hrest⟩ := List.cons.inj hshape
      rw [List.mem_cons, not_or] at hdims
      obtain ⟨s, hs⟩ := List.exists_mem_of_length_pos (Nat.pos_of_ne_zero (Ne.symm hdims.1))
      rw [isMaskable_rows_iff, ← ih s hs hrest hdims.2]
      refine ⟨fun hss => hss s hs, fun hmaskable t ht => ?_⟩
      rwa [ih t ht hrest hdims.2, ← ih s hs hrest hdims.2]

end Maskable

section Penalize

variable (type : FloatType) (ps : List Binary) {shape : List Nat}

/-- Rows that can all be penalized are penalized one by one. -/
theorem exists_penalizeAll {ss : List Scores}
    (h : ∀ s ∈ ss, ∃ t, s.penalize type.arithmetic ps = .ok t ∧
      t.HasShape shape ∧ ∀ is, t.row? is = (s.row? is).map (addPenalties type ps)) :
    ∃ ts, penalizeAll type.arithmetic ps ss = .ok ts ∧ ts.length = ss.length ∧
      (∀ t ∈ ts, t.HasShape shape) ∧ ∀ (i : Nat) is, ts[i]?.bind (row? is) =
        (ss[i]?.bind (row? is)).map (addPenalties type ps) := by
  induction ss with
  | nil => exact ⟨[], rfl, rfl, by simp, by simp⟩
  | cons s ss ih =>
    obtain ⟨⟨t, ht, hshape, hrow⟩, hss⟩ := List.forall_mem_cons.1 h
    obtain ⟨ts, hts, hlen, hshapes, hrows⟩ := ih hss
    refine ⟨t :: ts, ?_, ?_, List.forall_mem_cons.2 ⟨hshape, hshapes⟩, fun i is => ?_⟩
    · rw [penalizeAll, ht, hts]
      rfl
    · rw [List.length_cons, List.length_cons, hlen]
    · cases i with
      | zero => exact hrow is
      | succ i => exact hrows i is

/-- Scores of a shape are penalized row by row, and keep it. -/
theorem HasShape.exists_penalize {s : Scores} (h : s.HasShape shape) :
    ∃ t, s.penalize type.arithmetic ps = .ok t ∧ t.HasShape shape ∧
      ∀ is, t.row? is = (s.row? is).map (addPenalties type ps) := by
  induction h with
  | vector xs =>
    refine ⟨.vector (addPenalties type ps xs), penalize_vector type ps xs, ?_, fun is => ?_⟩
    · have hshape := HasShape.vector (addPenalties type ps xs)
      rwa [length_addPenalties] at hshape
    · cases is <;> rfl
  | rows _ ih =>
    obtain ⟨ts, hts, hlen, hshapes, hrows⟩ := exists_penalizeAll type ps ih
    refine ⟨.rows ts, ?_, hlen ▸ HasShape.rows hshapes, fun is => ?_⟩
    · rw [penalize, hts]
      rfl
    · cases is with
      | nil => rfl
      | cons i is => exact hrows i is

end Penalize

end Scores

/-! ## Rows -/

theorem getElem?_addPenalties (type : FloatType) (ps xs : List Binary) (i : Nat) :
    (addPenalties type ps xs)[i]? =
      xs[i]?.map fun x => Binary.add type.format x (ps[i]?.getD (.infinite true)) := by
  rw [addPenalties, List.getElem?_zipWith]
  cases hx : xs[i]? with
  | none => rfl
  | some x =>
    have hi : i < xs.length := (List.getElem?_eq_some_iff.1 hx).1
    have hpadded : (ps ++ List.replicate (xs.length - ps.length) (Binary.infinite true))[i]? =
        some (ps[i]?.getD (.infinite true)) := by
      by_cases h : i < ps.length
      · rw [List.getElem?_append_left h, List.getElem?_eq_getElem h]
        rfl
      · have hrest : i - ps.length < xs.length - ps.length := by omega
        rw [List.getElem?_append_right (Nat.not_lt.1 h), List.getElem?_replicate_of_lt hrest,
          List.getElem?_eq_none_iff.2 (Nat.not_lt.1 h)]
        rfl
    rw [List.getElem?_take_of_lt hi, hpadded]
    rfl

/-- Past the table there are no penalties, and what is missing counts as negative infinity. -/
theorem getD_penalties (size : Nat) (k : Mask) (i : Nat) :
    (k.penalties size)[i]?.getD (.infinite true) =
      Mask.penalty (decide (i < size) && k.test i) := by
  by_cases hi : i < size
  · rw [Mask.getElem?_penalties k hi, Option.getD_some, decide_eq_true hi, Bool.true_and]
  · have hnone : (k.penalties size)[i]? = none := by
      rw [List.getElem?_eq_none_iff, Mask.length_penalties]
      exact Nat.not_lt.1 hi
    rw [hnone, Option.getD_none, decide_eq_false hi, Bool.false_and]
    rfl

/-- What masking makes of a score: an allowed one stays, up to the sign of a zero, and another one
becomes negative infinity, unless its sum with that is no number. -/
def masked (allowed : Bool) (x : Binary) : Binary :=
  if allowed then if x.isZero then .zero else x
  else if x = .nan ∨ x = .infinite false then .nan else .infinite true

/-- What masking makes of the scores of a row, over a table of a size. -/
def maskedRow (size : Nat) (k : Mask) (xs : List Binary) : List Binary :=
  xs.mapIdx fun i => masked (decide (i < size) && k.test i)

theorem add_penalty {type : FloatType} {x : Binary} (hx : type.format.Keeps x) (allowed : Bool) :
    Binary.add type.format x (Mask.penalty allowed) = masked allowed x := by
  cases allowed with
  | true =>
    have hprecision : type.format.precision ≠ 0 := by cases type <;> decide
    exact Binary.add_zero_of_keeps hprecision hx
  | false =>
    cases x with
    | nan => rfl
    | infinite s => cases s <;> rfl
    | finite s m e => rfl

/-- Penalties make of a row what masking makes of it. -/
theorem addPenalties_eq {type : FloatType} {xs : List Binary}
    (hxs : ∀ x ∈ xs, type.format.Keeps x) (size : Nat) (k : Mask) :
    addPenalties type (k.penalties size) xs = maskedRow size k xs := by
  refine List.ext_getElem? fun i => ?_
  rw [getElem?_addPenalties, maskedRow, List.getElem?_mapIdx]
  refine Option.map_congr fun x hx => ?_
  rw [getD_penalties, add_penalty (hxs x (List.mem_of_getElem? hx))]

/-! ## The largest score -/

/-- The best number so far is negative infinity only as long as all numbers are; the same holds of
the best one in the end. -/
theorem firstMaximum_go {seen xs : List Binary} {best : Binary} {place : Nat}
    (hplace : seen[place]? = some best)
    (hbest : best = .infinite true → ∀ y ∈ seen, y = .infinite true)
    (h : ∃ y ∈ seen ++ xs, y ≠ .infinite true) :
    ∃ y, (seen ++ xs)[firstMaximum.go best place seen.length xs]? = some y ∧
      y ≠ .infinite true := by
  have hfound {seen : List Binary} {best : Binary} {place : Nat}
      (hplace : seen[place]? = some best) (xs : List Binary) : (seen ++ xs)[place]? = some best := by
    rw [List.getElem?_append_left (List.getElem?_eq_some_iff.1 hplace).1, hplace]
  induction xs generalizing seen best place with
  | nil =>
    refine ⟨best, hfound hplace [], fun hne => ?_⟩
    obtain ⟨y, hy, hyne⟩ := h
    exact hyne (hbest hne y (by simpa using hy))
  | cons x xs ih =>
    have hsplit : seen ++ x :: xs = seen ++ [x] ++ xs := by simp
    have hlen : seen.length + 1 = (seen ++ [x]).length := by simp
    rw [firstMaximum.go]
    split
    next hnan => exact ⟨best, hfound hplace _, by simp [hnan]⟩
    next hnan =>
      rw [hsplit] at h ⊢
      rw [hlen]
      split
      next hlarger =>
        refine ih (by simp) (fun hx => ?_) h
        -- Nothing is replaced by negative infinity.
        subst hx
        simp [Binary.not_lt_negInfinity] at hlarger
      next hsmaller =>
        rw [Bool.or_eq_true, not_or, decide_eq_true_iff] at hsmaller
        refine ih (hfound hplace [x]) (fun hb y hy => ?_) h
        rcases List.mem_append.1 hy with hy | hy
        · exact hbest hb y hy
        · rw [List.mem_singleton.1 hy]
          by_contra hx
          exact hsmaller.2 (hb ▸ Binary.negInfinity_lt hsmaller.1 hx)

/-- The first largest number is negative infinity only where all numbers are. -/
theorem exists_firstMaximum {xs : List Binary} (h : ∃ y ∈ xs, y ≠ .infinite true) :
    ∃ y, xs[firstMaximum xs]? = some y ∧ y ≠ .infinite true := by
  cases xs with
  | nil => simp at h
  | cons x xs => exact firstMaximum_go (show [x][0]? = some x from rfl) (by simp) h

/-- Of a masked row an allowed score is chosen, as long as some allowed one is not negative infinity
and the others have sums with that. -/
theorem firstMaximum_maskedRow {size : Nat} {k : Mask} {xs : List Binary}
    (hallowed : ∃ i x, xs[i]? = some x ∧ (i < size ∧ k.test i = true) ∧ x ≠ .infinite true)
    (hothers : ∀ i x, xs[i]? = some x → ¬ (i < size ∧ k.test i = true) →
      x ≠ .nan ∧ x ≠ .infinite false) :
    firstMaximum (maskedRow size k xs) < size ∧
      k.test (firstMaximum (maskedRow size k xs)) = true := by
  have hentry (i : Nat) : (maskedRow size k xs)[i]? =
      xs[i]?.map (masked (decide (i < size) && k.test i)) := List.getElem?_mapIdx
  obtain ⟨i, x, hx, ⟨hi, htest⟩, hne⟩ := hallowed
  have hkept : (maskedRow size k xs)[i]? = some (if x.isZero then .zero else x) := by
    rw [hentry, hx, decide_eq_true hi, htest]
    rfl
  have hleft : (if x.isZero then .zero else x) ≠ .infinite true := by
    split
    · exact Binary.noConfusion
    · exact hne
  obtain ⟨y, hy, hyne⟩ := exists_firstMaximum ⟨_, List.mem_of_getElem? hkept, hleft⟩
  by_contra hforbidden
  -- A score that is not allowed would have become negative infinity.
  rw [hentry, Option.map_eq_some_iff] at hy
  obtain ⟨z, hz, rfl⟩ := hy
  obtain ⟨hnan, hinfinite⟩ := hothers _ z hz hforbidden
  rw [← decide_eq_true_iff (p := _ < size), ← Bool.and_eq_true, Bool.not_eq_true] at hforbidden
  rw [hforbidden] at hyne
  simp [masked, hnan, hinfinite] at hyne

/-! ## The hook -/

/-- The mask of a matcher is expanded to the penalties of its tokens. -/
theorem expand_mask {g : Grammar} {r : Pattern.Regex} (hg : g.Compiled r) {m : Matcher}
    (hm : m.grammar = g) : Mask.expand g.vocabulary.size "torch.int32" m.mask =
      .ok (m.mask.penalties g.vocabulary.size) :=
  Mask.expand_eq_ok g.vocabulary.size_pos (Matcher.size_mask hm hg).ge

theorem process_of_open {m : Matcher} (hopen : m.closed = false) {type : FloatType} {s : Scores}
    {shape : List Nat} (hs : s.HasShape shape) (hkeeps : ∀ x ∈ s.flat, type.format.Keeps x) :
    ∃ t, process type s m = (pure (.scores t), { m with buffer := m.mask }) ∧ t.HasShape shape ∧
      ∀ is, t.row? is = (s.row? is).map (maskedRow m.grammar.vocabulary.size m.mask) := by
  obtain ⟨t, ht, hshape, hrow⟩ := hs.exists_penalize type
    (m.mask.penalties m.grammar.vocabulary.size)
  refine ⟨t, ?_, hshape, fun is => ?_⟩
  · rw [process_of_fill (Matcher.fill_of_open hopen), ht]
    rfl
  · rw [hrow]
    refine Option.map_congr fun xs hxs => ?_
    exact addPenalties_eq (fun x hx => hkeeps x (Scores.mem_flat_of_row? hxs hx)) _ _

/-- An open matcher masks scores of any shape and width. The penalties are those that its mask is
expanded to. The shape stays, and of every row the allowed scores stay; the others become negative
infinity, or no number where they were that or positive infinity. Where there are none of these, a
token that is not allowed is not chosen before an allowed one. -/
theorem process_masks {source : Schema.Source} {v : Vocabulary} {g : Grammar}
    (h : (Grammar.compile source v).result = .ok g) {m : Matcher} (hm : m.grammar = g)
    (hopen : m.closed = false) {type : FloatType} {s : Scores} {shape : List Nat}
    (hs : s.HasShape shape) (hkeeps : ∀ x ∈ s.flat, type.format.Keeps x) :
    Mask.expand v.size "torch.int32" m.mask = .ok (m.mask.penalties v.size) ∧
    ∃ t, process type s m = (pure (.scores t), { m with buffer := m.mask }) ∧ t.HasShape shape ∧
      (∀ is, t.row? is = (s.row? is).map fun xs =>
        xs.mapIdx fun i => masked (decide (i < v.size) && m.mask.test i)) ∧
      ∀ is xs ys, s.row? is = some xs → t.row? is = some ys →
        (∃ i x, xs[i]? = some x ∧ (i < v.size ∧ m.mask.test i = true) ∧ x ≠ .infinite true) →
        (∀ i x, xs[i]? = some x → ¬ (i < v.size ∧ m.mask.test i = true) →
          x ≠ .nan ∧ x ≠ .infinite false) →
        firstMaximum ys < v.size ∧ m.mask.test (firstMaximum ys) = true := by
  obtain ⟨r, hg⟩ := Grammar.exists_compiled h
  obtain ⟨-, rfl, -, -, -⟩ := Grammar.compile_eq_ok.1 h
  subst hm
  obtain ⟨t, ht, hshape, hrow⟩ := process_of_open hopen hs hkeeps
  refine ⟨expand_mask hg rfl, t, ht, hshape, hrow, fun is xs ys hxs hys hallowed hothers => ?_⟩
  rw [hrow, hxs, Option.map_some, Option.some.injEq] at hys
  subst hys
  exact firstMaximum_maskedRow hallowed hothers

theorem process_masks_pieces : ∃ g, (Grammar.compile Matcher.truthSource Matcher.pieces).result =
    .ok g ∧ ∃ t, process .float32 (.rows [.vector [.zero, .infinite false, .nan, .zero]])
        (.fresh g .position) = (pure (.scores t), { Matcher.fresh g .position with
          buffer := (Matcher.fresh g .position).mask }) ∧
      t.HasShape [1, 4] ∧ ∃ ys, t.row? [0] = some ys ∧ ys[3]? = some (.infinite true) := by
  obtain ⟨g, hg⟩ := Matcher.exists_compile_pieces
  have hshape : (.rows [.vector [.zero, .infinite false, .nan, .zero]] : Scores).HasShape [1, 4] :=
    .rows (List.forall_mem_singleton.2
      (.vector ([.zero, .infinite false, .nan, .zero] : List Binary)))
  have hkeeps : ∀ x ∈ (.rows [.vector [.zero, .infinite false, .nan, .zero]] : Scores).flat,
      FloatType.float32.format.Keeps x := by
    simp only [Scores.flat, Scores.flatAll, List.append_nil, List.forall_mem_cons]
    exact ⟨.inl ⟨rfl, rfl⟩, trivial, trivial, .inl ⟨rfl, rfl⟩, List.forall_mem_nil _⟩
  obtain ⟨-, t, ht, htshape, hrow, -⟩ :=
    process_masks hg (m := .fresh g .position) rfl rfl hshape hkeeps
  exact ⟨g, hg, t, ht, htshape, _, hrow [0], rfl⟩

/-- At the start the stop token is not allowed, since the empty text is not one of the source. -/
theorem test_mask_pieces {g : Grammar}
    (h : (Grammar.compile Matcher.truthSource Matcher.pieces).result = .ok g) :
    (Matcher.fresh g .position).mask.test 1 = false := by
  obtain ⟨r, hg⟩ := Grammar.exists_compiled h
  obtain ⟨-, hv, -, -, -⟩ := Grammar.compile_eq_ok.1 h
  have hfresh := Matcher.at_fresh hg .position
  rw [← Bool.not_eq_true, (hfresh.stands hg).test_mask_iff hg, hv]
  rintro (⟨hmatchable, -⟩ | ⟨hf, -⟩)
  · exact absurd hmatchable (by decide)
  · have hfinal := Matcher.finalAt_origin_pieces h
    exact absurd (hfinal.symm.trans hf) Bool.false_ne_true

/-- A score of positive infinity that is not allowed becomes no number, and is chosen. -/
theorem process_of_infinite : ∃ g, (Grammar.compile Matcher.truthSource Matcher.pieces).result =
    .ok g ∧ (Matcher.fresh g .position).mask.test 1 = false ∧
      ∃ t ys, (process .float32 (.vector [.zero, .infinite false, .zero])
          (.fresh g .position)).1.result = .ok (.scores t) ∧
        t.row? [] = some ys ∧ ys[1]? = some .nan ∧ firstMaximum ys = 1 := by
  obtain ⟨g, hg⟩ := Matcher.exists_compile_pieces
  have htest := test_mask_pieces hg
  have hkeeps : ∀ x ∈ (.vector [.zero, .infinite false, .zero] : Scores).flat,
      FloatType.float32.format.Keeps x := by
    simp only [Scores.flat, List.forall_mem_cons]
    exact ⟨.inl ⟨rfl, rfl⟩, trivial, .inl ⟨rfl, rfl⟩, List.forall_mem_nil _⟩
  obtain ⟨t, ht, -, hrow⟩ := process_of_open (m := .fresh g .position) rfl
    (.vector [.zero, .infinite false, .zero]) hkeeps
  -- Whatever becomes of the scores beside it, neither is larger than what is no number.
  obtain ⟨b, c, hmasked⟩ : ∃ b c, maskedRow g.vocabulary.size (Matcher.fresh g .position).mask
      [.zero, .infinite false, .zero] = [masked b .zero, .nan, masked c .zero] := by
    refine ⟨decide (0 < g.vocabulary.size) && (Matcher.fresh g .position).mask.test 0,
      decide (2 < g.vocabulary.size) && (Matcher.fresh g .position).mask.test 2, ?_⟩
    simp only [maskedRow, List.mapIdx_cons, htest, Bool.and_false]
    rfl
  refine ⟨g, hg, htest, t, _, by rw [ht]; rfl, (hrow []).trans (congrArg some hmasked), rfl, ?_⟩
  cases b <;> cases c <;> decide

end GuidedJson.Decoding
