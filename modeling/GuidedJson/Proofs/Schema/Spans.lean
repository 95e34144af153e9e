import GuidedJson.Proofs.Pattern.Spoiled
import GuidedJson.Proofs.Schema.Counted

/-!
# Spans of bounds

What bounds of any kind are read as. Between braces counts and texts of digits are bounds, and
nothing else is; but a bound of items is not always written there, so that a number that is no count
may be read as one.
-/

namespace GuidedJson

open Pattern (Span bound? Opaque Boundless isDecimal)

/-! ## Texts of numbers -/

namespace Pattern

/-- Digits in front of something that is neither a comma nor the end of the braces. -/
theorem opaque_append_cons {ds : List Char} {c : Char} (hds : ∀ d ∈ ds, isDecimal d = true)
    (hc : isDecimal c = false) (hne : c ∉ ['\x7d', ',']) (cs : List Char) :
    Opaque (ds ++ c :: cs) := by
  rw [List.mem_cons, List.mem_singleton, not_or] at hne
  exact ⟨ds, c, cs, rfl, hds, hc, hne.1, fun heq => absurd heq hne.2⟩

theorem opaque_cons {c : Char} (hc : isDecimal c = false) (hne : c ∉ ['\x7d', ','])
    (cs : List Char) : Opaque (c :: cs) :=
  opaque_append_cons (List.forall_mem_nil _) hc hne cs

theorem Opaque.bound?_eq_none {cs : List Char} (h : Opaque cs) : bound? cs = none := by
  obtain ⟨ds, c, rest, rfl, -, hc, -⟩ := h
  refine Option.eq_none_iff_forall_ne_some.2 fun b hb => ?_
  have hdigit := isDecimal_of_bound? hb c (by simp)
  rw [hc] at hdigit
  cases hdigit

end Pattern

namespace Number

theorem isDecimal_of_mem_significant {n : Nat} {d : Char} (h : d ∈ significant n) :
    isDecimal d = true := by
  unfold significant at h
  split at h
  · rw [List.mem_singleton.1 h]
    rfl
  next cs hcs =>
    have hmem : d ∈ (decimalDigits n).reverse.dropWhile (· == '0') := by
      rw [← List.mem_reverse]
      exact h
    exact Pattern.isDecimal_of_mem_toDigits
      (List.mem_reverse.1 (List.dropWhile_subset _ hmem))

theorem significant_ne_nil (n : Nat) : significant n ≠ [] := by
  unfold significant
  split
  · simp
  next hcs => simpa using hcs

theorem opaque_placeDigits (style : FloatStyle) {ds : List Char} (hne : ds ≠ [])
    (hds : ∀ d ∈ ds, isDecimal d = true) (point : Int) :
    Opaque (placeDigits style ds point).toList := by
  obtain ⟨d, ds, rfl⟩ := List.exists_cons_of_ne_nil hne
  have hpoint {es : List Char} (hes : ∀ e ∈ es, isDecimal e = true) (cs : List Char) :
      Opaque (es ++ '.' :: cs) := Pattern.opaque_append_cons hes (by decide) (by decide) cs
  have hhead : ∀ e ∈ [d], isDecimal e = true :=
    List.forall_mem_singleton.2 (hds d List.mem_cons_self)
  simp only [placeDigits]
  split_ifs with hplace hsmall hlong
  · simpa using hpoint (List.forall_mem_singleton.2 (by decide : isDecimal '0' = true)) _
  · have hzeros : ∀ e ∈ (zeros (point.toNat - (d :: ds).length)).toList, isDecimal e = true := by
      intro e he
      rw [zeros, String.toList_ofList] at he
      rw [List.eq_of_mem_replicate he]
      rfl
    simpa using hpoint (List.forall_mem_append.2 ⟨hds, hzeros⟩) ['0']
  · have htake : ∀ e ∈ (d :: ds).take point.toNat, isDecimal e = true :=
      fun e he => hds e (List.mem_of_mem_take he)
    simpa using hpoint htake ((d :: ds).drop point.toNat)
  · cases ds with
    | nil =>
      simpa using Pattern.opaque_append_cons hhead (by decide : isDecimal 'e' = false) (by decide)
        (exponentText (point - 1)).toList
    | cons e es =>
      simpa using hpoint hhead (e :: es ++ 'e' :: (exponentText (point - 1)).toList)

/-- The text of a number with a point is no bound. -/
theorem opaque_text (x : Binary) : Opaque (x.text .message).toList := by
  have hsign (s : Bool) {cs : List Char} (h : Opaque cs) : Opaque ((signText s).toList ++ cs) := by
    cases s with
    | false => exact h
    | true => exact Pattern.opaque_cons (by decide) (by decide) cs
  cases x with
  | nan => exact Pattern.opaque_cons (c := 'n') (by decide) (by decide) _
  | infinite s =>
    rw [Binary.text, String.toList_append]
    exact hsign s (Pattern.opaque_cons (c := 'i') (by decide) (by decide) _)
  | finite s m e =>
    cases m with
    | zero =>
      have hzero : ∀ d ∈ ['0'], isDecimal d = true := List.forall_mem_singleton.2 (by decide)
      rw [Binary.text, String.toList_append]
      exact hsign s (Pattern.opaque_append_cons (c := '.') hzero (by decide) (by decide) ['0'])
    | succ m =>
      rw [Binary.text]
      · rw [String.toList_append]
        exact hsign s (opaque_placeDigits _ (significant_ne_nil _)
          (fun _ => isDecimal_of_mem_significant) _)
      · rintro ⟨⟩

namespace Binary

theorem scaled_zero (s : Bool) (e common : Int) : scaled s 0 e common = 0 := by
  simp [scaled]

theorem scaled_ne_zero (s : Bool) {m : Nat} (hm : m ≠ 0) (e common : Int) :
    scaled s m e common ≠ 0 := by
  have hpos : 0 < m * Nat.pow 2 (e - common).toNat :=
    Nat.mul_pos (Nat.pos_of_ne_zero hm) (Nat.pow_pos (by decide))
  unfold scaled
  dsimp only
  split <;> omega

/-- What equals zero is zero of either sign. -/
theorem same_zero (x : Binary) : x.same (exact 0) = x.isZero := by
  cases x with
  | nan => rfl
  | infinite s => cases s <;> rfl
  | finite s m e =>
    cases m with
    | zero =>
      simp [same, exact, lt, isZero, scaled_zero]
    | succ m =>
      have hne := scaled_ne_zero s m.succ_ne_zero e (min e 0)
      have hsides := lt_or_gt_of_ne hne
      simp only [same, exact, lt, isZero, Int.natAbs_zero, scaled_zero, min_comm 0 e,
        Bool.and_eq_false_iff, Bool.not_eq_false', decide_eq_true_eq]
      exact hsides

end Binary

end Number

/-! ## Bounds in braces -/

namespace Value

/-- What a bound is read as between braces: a count, nothing if it is the empty text, and no bound
at all otherwise. -/
def count? : Value → Option (Option Nat)
  | .int n => if 0 ≤ n then some (some n.toNat) else none
  | .string s => bound? s.toList
  | _ => none

/-- Whether a value is no text that ends the braces it stands in. -/
def Unbraced (v : Value) : Prop := ∀ s, v = .string s → '\x7d' ∉ s.toList

/-- What is no text does not end the braces it stands in. -/
theorem unbraced_of_ne {v : Value} (h : ∀ s, v ≠ .string s) : v.Unbraced :=
  fun s hs => absurd hs (h s)

theorem Unbraced.orZero {v : Value} (h : v.Unbraced) : v.orZero.Unbraced := by
  unfold Value.orZero
  split
  · exact h
  · exact unbraced_of_ne nofun

/-- But for integers and texts, no value is shown as a bound. -/
theorem opaque_display {v : Value} (hint : ∀ n, v ≠ .int n) (hstring : ∀ s, v ≠ .string s) :
    v.count? = none ∧ Opaque v.display.toList := by
  have hcons {c : Char} (hc : isDecimal c = false) (hne : c ∉ ['\x7d', ',']) (cs : List Char) :
      Opaque (c :: cs) := Pattern.opaque_cons hc hne cs
  cases v with
  | null => exact ⟨rfl, hcons (c := 'N') (by decide) (by decide) _⟩
  | bool b =>
    cases b with
    | true => exact ⟨rfl, hcons (c := 'T') (by decide) (by decide) _⟩
    | false => exact ⟨rfl, hcons (c := 'F') (by decide) (by decide) _⟩
  | int n => exact absurd rfl (hint n)
  | float x => exact ⟨rfl, Number.opaque_text x⟩
  | string s => exact absurd rfl (hstring s)
  | array vs =>
    refine ⟨rfl, ?_⟩
    rw [display, inspect, Text.bracketed, String.toList_append, String.toList_append]
    · exact hcons (c := '[') (by decide) (by decide) _
    · exact nofun
  | object ms =>
    refine ⟨rfl, ?_⟩
    rw [display, inspect, String.toList_append, String.toList_append]
    · exact hcons (c := '\x7b') (by decide) (by decide) _
    · exact nofun

/-- An integer below zero is not shown as a bound. -/
theorem opaque_display_of_neg {n : Int} (hn : n < 0) : Opaque (Value.int n).display.toList := by
  cases n with
  | ofNat n => exact absurd hn (Int.not_lt.2 (Int.natCast_nonneg n))
  | negSucc n =>
    have htext : (Value.int (Int.negSucc n)).display = "-" ++ toString (n + 1) := rfl
    rw [htext, String.toList_append]
    exact Pattern.opaque_cons (c := '-') (by decide) (by decide) _

theorem count?_natCast (n : Nat) : (Value.int n).count? = some (some n) := by
  rw [count?, if_pos (Int.natCast_nonneg n), Int.toNat_natCast]

theorem count?_of_neg {n : Int} (hn : n < 0) : (Value.int n).count? = none := by
  rw [count?, if_neg (Int.not_le.2 hn)]

/-- A bound that can be written is read between braces as what it counts. -/
theorem exists_boundText_count? {v : Value} (hfits : v.Fits) (hv : v.Unbraced) :
    ∃ t, v.boundText = .ok t ∧ bound? t.toList = v.count? ∧
      (v.count? = none → Boundless t.toList) := by
  refine ⟨v.display, boundText_of_fits hfits, ?_⟩
  -- Only integers and texts are written as what a bound may be read from.
  by_cases hint : ∃ n, v = .int n
  · obtain ⟨n, rfl⟩ := hint
    rcases lt_or_ge n 0 with hn | hn
    · have hunread := opaque_display_of_neg hn
      rw [count?_of_neg hn]
      exact ⟨hunread.bound?_eq_none, fun _ => .inl hunread⟩
    · obtain ⟨k, rfl⟩ := Int.eq_ofNat_of_zero_le hn
      obtain ⟨hdigits, hk⟩ := (Schema.written_boundText k).of_eq_ok (boundText_of_fits hfits)
      rw [count?_natCast, hdigits, Pattern.bound?_toDigits hk]
      exact ⟨rfl, nofun⟩
  by_cases hstring : ∃ s, v = .string s
  · obtain ⟨s, rfl⟩ := hstring
    exact ⟨rfl, fun hnone => Pattern.boundless_of_not_mem hnone (hv s rfl)⟩
  · obtain ⟨hnone, hunread⟩ := opaque_display (not_exists.1 hint) (not_exists.1 hstring)
    exact ⟨hunread.bound?_eq_none.trans hnone.symm, fun _ => .inl hunread⟩

end Value

namespace Schema

open Pattern (Quantifies Misrepeats)

/-! ## Judgements -/

/-- How something that was written is read: as what is told of it, or as nothing where nothing is
told of it. What cannot be written at all is a value of the wrong kind, or an integer that is too
long or too large. Of what is told, only white space may be too wide to be written. -/
def Judged {α β : Type} (wide : Prop) (good : β → α → Prop) (bad : α → Prop) (told : Option β)
    (x : Except Failure α) : Prop :=
  match told with
  | some b => (∃ a, x = .ok a ∧ good b a) ∨ (x = .error .tooWide ∧ wide)
  | none => (∃ a, x = .ok a ∧ bad a) ∨ ∃ e, x = .error e ∧ e.IsEscape

section Judged

variable {α β γ δ : Type} {wide : Prop} {good : β → α → Prop} {bad : α → Prop}
  {good' : γ → δ → Prop} {bad' : δ → Prop} {told : Option β} {x : Except Failure α}

theorem judged_ok {a : α} {b : β} (h : good b a) : Judged wide good bad (some b) (.ok a) :=
  .inl ⟨a, rfl, h⟩

theorem judged_bad {a : α} (h : bad a) : Judged wide good bad none (.ok a) := .inl ⟨a, rfl, h⟩

theorem judged_error {e : Failure} (h : e.IsEscape) : Judged wide good bad none (.error e) :=
  .inr ⟨e, rfl, h⟩

/-- White space that is too wide is not written, whatever is told. -/
theorem judged_tooWide (h : wide) : Judged wide good bad told (.error .tooWide) := by
  cases told with
  | some b => exact .inr ⟨rfl, h⟩
  | none => exact judged_error trivial

theorem Judged.wider {wider : Prop} (h : Judged wide good bad told x) (hwide : wide → wider) :
    Judged wider good bad told x := by
  cases told with
  | some b => exact h.imp_right fun ⟨hx, hw⟩ => ⟨hx, hwide hw⟩
  | none => exact h

theorem Judged.bind {f : α → Except Failure δ} {g : β → Option γ} (h : Judged wide good bad told x)
    (hgood : ∀ b a, good b a → Judged wide good' bad' (g b) (f a))
    (hbad : ∀ a, bad a → Judged wide good' bad' none (f a)) :
    Judged wide good' bad' (told.bind g) (x >>= f) := by
  cases told with
  | some b =>
    rcases h with ⟨a, rfl, ha⟩ | ⟨rfl, hw⟩
    · exact hgood b a ha
    · exact judged_tooWide hw
  | none =>
    rcases h with ⟨a, rfl, ha⟩ | ⟨e, rfl, he⟩
    · exact hbad a ha
    · exact judged_error he

theorem Judged.map {f : α → δ} {g : β → γ} (h : Judged wide good bad told x)
    (hgood : ∀ b a, good b a → good' (g b) (f a)) (hbad : ∀ a, bad a → bad' (f a)) :
    Judged wide good' bad' (told.map g) (x.map f) := by
  have hbind : Judged wide good' bad' (told.bind fun b => some (g b)) (x >>= fun a => .ok (f a)) :=
    h.bind (fun b a ha => judged_ok (hgood b a ha)) fun a ha => judged_bad (hbad a ha)
  cases told <;> cases x <;> exact hbind

theorem Judged.map_ok {f : α → δ} {good' : β → δ → Prop} (h : Judged wide good bad told x)
    (hgood : ∀ b a, good b a → good' b (f a)) (hbad : ∀ a, bad a → bad' (f a)) :
    Judged wide good' bad' told (x.map f) := by
  have hmap := h.map (g := id) hgood hbad
  rwa [Option.map_id, id] at hmap

/-- What is not bad is told of. -/
theorem Judged.exists_told {a : α} (h : Judged wide good bad told (.ok a)) (ha : ¬ bad a) :
    ∃ b, told = some b ∧ good b a := by
  cases told with
  | some b =>
    rcases h with ⟨_, ⟨⟩, hb⟩ | ⟨⟨⟩, -⟩
    exact ⟨b, rfl, hb⟩
  | none =>
    rcases h with ⟨_, ⟨⟩, hbad⟩ | ⟨_, ⟨⟩, -⟩
    exact absurd hbad ha

/-- What is told of a thing may be used of it. -/
theorem Judged.and_told (h : Judged wide good bad told x) :
    Judged wide (fun b a => told = some b ∧ good b a) bad told x := by
  cases told with
  | some b => exact h.imp_left fun ⟨a, hx, ha⟩ => ⟨a, hx, rfl, ha⟩
  | none => exact h

/-- What is made of something may be bad whatever is told of the thing. -/
theorem Judged.spoil {f : α → δ} (h : Judged wide good bad told x)
    (hgood : ∀ b a, good b a → bad' (f a)) (hbad : ∀ a, bad a → bad' (f a)) :
    Judged wide good' bad' none (x.map f) := by
  have hbind : Judged wide good' bad' (told.bind fun _ => none) (x >>= fun a => .ok (f a)) :=
    h.bind (fun b a ha => judged_bad (hgood b a ha)) fun a ha => judged_bad (hbad a ha)
  cases told <;> cases x <;> exact hbind

end Judged

/-! ## Quantifiers -/

/-- How a quantifier is read: it repeats as often as a span says, and where there is none it spoils
what it repeats. -/
def Quantified (told : Option Span) (x : Except Failure String) : Prop :=
  Judged False (fun s q => Quantifies q.toList s.least s.most) (fun q => Misrepeats q.toList) told x

section Quantified

variable {least most v w : Value}

/-- Bounds between braces, of which it is known what they are read as. -/
theorem quantified_braces {low high : String} {a b : Option (Option Nat)}
    (hlow : bound? low.toList = a ∧ (a = none → Boundless low.toList))
    (hhigh : bound? high.toList = b ∧ (b = none → Boundless high.toList)) :
    Quantified (Span.between? a b) (.ok (braces low high)) := by
  obtain ⟨rfl, hlow⟩ := hlow
  obtain ⟨rfl, hhigh⟩ := hhigh
  have htext : (braces low high).toList =
      '\x7b' :: (low.toList ++ ',' :: (high.toList ++ ['\x7d'])) := by simp [braces]
  cases hspan : Span.between? (bound? low.toList) (bound? high.toList) with
  | some s => exact judged_ok (by rw [htext]; exact Pattern.quantifies_braced hspan)
  | none => exact judged_bad (by rw [htext]; exact Pattern.misrepeats_braced hspan hlow hhigh)

theorem quantified_star : Quantified (some .any) (.ok "*") := judged_ok Pattern.quantifies_star

/-- The empty text is no bound. -/
theorem bound?_empty :
    bound? "".toList = some none ∧ (some (none : Option Nat) = none → Boundless "".toList) :=
  ⟨rfl, nofun⟩

/-- What the bounds of a length are read as. -/
def lengthSpan? (least most : Value) : Option Span :=
  if most.isNull then
    if least.isNull then some .any else Span.between? least.count? (some none)
  else Span.between? least.orZero.count? most.count?

theorem quantified_lengthQuantifier (hleast : least.Fits) (hmost : most.Fits)
    (hleast' : least.Unbraced) (hmost' : most.Unbraced) :
    Quantified (lengthSpan? least most) (lengthQuantifier least most) := by
  unfold lengthSpan? lengthQuantifier
  split
  · split
    · exact quantified_star
    · obtain ⟨low, hlow, hread⟩ := Value.exists_boundText_count? hleast hleast'
      rw [hlow]
      exact quantified_braces hread bound?_empty
  · obtain ⟨low, hlow, hreadLow⟩ :=
      Value.exists_boundText_count? (Value.fits_orZero hleast) hleast'.orZero
    obtain ⟨high, hhigh, hreadHigh⟩ := Value.exists_boundText_count? hmost hmost'
    rw [hlow, hhigh]
    exact quantified_braces hreadLow hreadHigh

/-! ## Items behind the first one -/

/-- The number before a bound is no text. -/
theorem unbraced_of_pred (h : v.pred = .ok w) : w.Unbraced := by
  refine Value.unbraced_of_ne ?_
  rintro s rfl
  cases v <;> cases h

theorem unbraced_atLeastZero (h : w.Unbraced) : w.atLeastZero.Unbraced := by
  unfold Value.atLeastZero
  split
  · exact Value.unbraced_of_ne nofun
  · exact h

theorem isEscape_of_pred {e : Failure} (h : v.pred = .error e) : e.IsEscape := by
  cases v with
  | bool | int | float => cases h
  | _ =>
    cases h
    trivial

/-- The number before a bound is read as what it counts, or it is an integer below zero with too
many digits. -/
theorem boundText_of_pred (hv : v.Fits) (hw : v.pred = .ok w) :
    (∃ t, w.boundText = .ok t ∧ bound? t.toList = w.count? ∧
      (w.count? = none → Boundless t.toList)) ∨
    (w.count? = none ∧ w.boundText = .error (.digits none)) := by
  by_cases hfits : w.Fits
  · exact .inl (Value.exists_boundText_count? hfits (unbraced_of_pred hw))
  · refine .inr ⟨?_, Value.boundText_of_not_fits hfits⟩
    cases v with
    | bool b =>
      cases hw
      exact absurd (Value.fits_int.2 (Value.fits_truth b)) hfits
    | int n =>
      cases hw
      -- Below zero there may be one digit more than in the bound itself.
      rcases lt_or_ge (n - 1) 0 with hn | hn
      · exact Value.count?_of_neg hn
      · exact absurd (Value.fits_int.2 (Value.fits_sub_one (Value.fits_int.1 hv) (by omega))) hfits
    | float x =>
      cases hw
      exact absurd trivial hfits
    | _ => cases hw

/-- What bounds of items leave for those behind the first one; the lower bound is not missing. -/
def tailSpan? (least most : Value) : Option Span :=
  if most.isNull then
    match least.exceeds (.int 1) with
    | .error _ => none
    | .ok false => some .any
    | .ok true => least.pred.toOption.bind fun low => Span.between? low.count? (some none)
  else
    least.pred.toOption.bind fun low => most.pred.toOption.bind fun high =>
      Span.between? low.atLeastZero.count? high.count?

theorem quantified_tailQuantifier (hleast : least.Fits) (hmost : most.Fits) :
    Quantified (tailSpan? least most) (tailQuantifier least most) := by
  unfold tailSpan? tailQuantifier
  split
  next hnull =>
    cases hexceeds : least.exceeds (.int 1) with
    | error fault => exact judged_error trivial
    | ok above =>
      cases above with
      | false => exact quantified_star
      -- More than one is asked for, and what is left of it can be written again.
      | true =>
        obtain ⟨w, hw, hfits⟩ := Value.hasPredecessor_of_exceeds_one hleast hexceeds
        obtain ⟨low, hlow, hread⟩ := Value.exists_boundText_count? hfits (unbraced_of_pred hw)
        simp only [Except.mapError, bind, Except.bind, hw, hlow, if_true]
        exact quantified_braces hread bound?_empty
  next hnull =>
    cases hw : least.pred with
    | error e => exact judged_error (isEscape_of_pred hw)
    | ok w =>
      obtain ⟨low, hlow, hreadLow⟩ := Value.exists_boundText_count?
        (Value.fits_atLeastZero hleast hw) (unbraced_atLeastZero (unbraced_of_pred hw))
      cases hu : most.pred with
      | error e =>
        simp only [bind, Except.bind, hlow]
        exact judged_error (isEscape_of_pred hu)
      | ok u =>
        rcases boundText_of_pred hmost hu with ⟨high, hhigh, hreadHigh⟩ | ⟨hnone, herror⟩
        · simp only [bind, Except.bind, hlow, hhigh]
          exact quantified_braces hreadLow hreadHigh
        · simp only [bind, Except.bind, hlow, herror, Except.toOption, Option.bind, hnone,
            Span.between?_none]
          exact judged_error trivial

/-! ## Items -/

/-- What bounds of items leave for those behind the first one: nothing where there may be one item
only. -/
def restSpan? (least most : Value) : Option Span :=
  if most.isNumber 1 then some .zero else tailSpan? least most

/-- What the bounds of items are read as. An array that has an item where it is not empty may be
empty where the lower bound is zero, or says nothing. -/
def itemSpan? (least most : Value) : Option Span :=
  (restSpan? least.orZero most).map (·.withFirst (least.orZero.isNumber 0))

/-- A bound that says nothing is zero, and every other bound that is zero says nothing. -/
theorem orZero_of_isNumber_zero (h : v.orZero.isNumber 0 = true) : v.orZero = .int 0 := by
  unfold Value.orZero at h ⊢
  split at h
  next htruthy =>
    rw [if_pos htruthy]
    cases v with
    | bool b =>
      cases b with
      | true => cases h
      | false => cases htruthy
    | int n =>
      rw [Value.isNumber_int, decide_eq_true_eq] at h
      rw [h]
    | float x =>
      have hzero : x.isZero = true := (Number.Binary.same_zero x).symm.trans h
      rw [Value.truthy, hzero] at htruthy
      cases htruthy
    | _ => cases h
  next hfalsy => rw [if_neg hfalsy]

/-- Where no item is needed, none is needed behind the first one. -/
theorem least_eq_zero_of_restSpan? {s : Span} (h : restSpan? (.int 0) most = some s) :
    s.least = 0 := by
  unfold restSpan? tailSpan? at h
  have hexceeds : (Value.int 0).exceeds (.int 1) = .ok false := Value.exceeds_int 0 1
  have hbefore : (Value.int (0 - 1)).atLeastZero.count? = some (some 0) := by
    rw [Value.atLeastZero, Value.exceeds_int]
    rfl
  split at h
  · cases h
    rfl
  · split at h
    · rw [hexceeds] at h
      cases h
      rfl
    · obtain ⟨low, hlow, h⟩ := Option.bind_eq_some_iff.1 h
      obtain ⟨high, -, h⟩ := Option.bind_eq_some_iff.1 h
      cases hlow
      obtain ⟨a, ha, -, hleast⟩ := Span.between?_eq_some h
      rw [hbefore] at ha
      cases ha
      exact hleast

/-! ## Whole numbers -/

/-- Whether a bound is missing, or a whole number of either sign. -/
def IsWhole (v : Value) : Prop := v = .null ∨ ∃ n, v = .int n

theorem orZero_int (n : Int) : (Value.int n).orZero = .int n := by
  by_cases hn : n = 0 <;> simp [Value.orZero, Value.truthy, hn]

theorem natCast_of_count? {n : Int} {b : Option Nat} (h : (Value.int n).count? = some b) :
    ∃ k : Nat, n = k ∧ b = some k := by
  rcases lt_or_ge n 0 with hn | hn
  · rw [Value.count?_of_neg hn] at h
    cases h
  · obtain ⟨k, rfl⟩ := Int.eq_ofNat_of_zero_le hn
    rw [Value.count?_natCast] at h
    exact ⟨k, rfl, (Option.some.inj h).symm⟩

/-- Whole numbers are read as bounds of a length only if they are counts, and in order. -/
theorem ordered_of_lengthSpan? {s : Span} (hleast : IsWhole least) (hmost : IsWhole most)
    (h : lengthSpan? least most = some s) : Ordered least most := by
  rcases hmost with rfl | ⟨b, rfl⟩
  · rcases hleast with rfl | ⟨a, rfl⟩
    · exact ⟨.inl rfl, .inl rfl, nofun⟩
    · obtain ⟨c, hc, -⟩ := Span.between?_eq_some h
      obtain ⟨k, rfl, -⟩ := natCast_of_count? hc
      exact ⟨.inr ⟨k, rfl⟩, .inl rfl, nofun⟩
  · obtain ⟨c, hc, hb, hle⟩ := Span.between?_eq_some h
    obtain ⟨m, rfl, hm⟩ := natCast_of_count? hb
    have hbound := s.le m hm
    rcases hleast with rfl | ⟨a, rfl⟩
    · exact ⟨.inl rfl, .inr ⟨m, rfl⟩, fun _ _ => Nat.zero_le _⟩
    · rw [orZero_int] at hc
      obtain ⟨k, rfl, rfl⟩ := natCast_of_count? hc
      refine ⟨.inr ⟨k, rfl⟩, .inr ⟨m, rfl⟩, ?_⟩
      rintro _ ⟨⟩
      simpa [lowest, hle] using hbound

/-- Without a lower bound, no upper bound below zero is read. -/
theorem nonneg_of_itemSpan? {s : Span} {b : Int} (h : itemSpan? .null (.int b) = some s) :
    0 ≤ b := by
  obtain ⟨rest, hrest, -⟩ := Option.map_eq_some_iff.1 h
  unfold restSpan? at hrest
  rw [Value.isNumber_int] at hrest
  split at hrest
  next hone =>
    have hb : b = 1 := of_decide_eq_true hone
    omega
  next =>
    have hbefore : Span.between? (Value.int (0 - 1)).atLeastZero.count? (Value.int (b - 1)).count? =
        some rest := hrest
    obtain ⟨-, -, hcount, -⟩ := Span.between?_eq_some hbefore
    obtain ⟨m, hm, -⟩ := natCast_of_count? hcount
    omega

/-- Of whole numbers the lower bound of items is not the larger one. -/
theorem le_of_made {items : Node} {a b : Int}
    (h : (Node.array items (.int a) (.int b)).Made) : a ≤ b := by
  by_contra hlt
  have hexceeds := Value.exceeds_int a b
  rw [decide_eq_true (Int.not_le.1 hlt)] at hexceeds
  simp [Node.Made, Node.ofItems, Node.boundsFault, Value.isNull, hexceeds, Except.map] at h

/-- A lower count of items and an upper whole number are read only if they are in order. -/
theorem ordered_of_itemSpan? {s : Span} {items : Node} (hleast : IsBound least)
    (hmost : IsWhole most) (hmade : (Node.array items least most).Made)
    (h : itemSpan? least most = some s) : Ordered least most := by
  rcases hmost with rfl | ⟨b, rfl⟩
  · exact ⟨hleast, .inl rfl, nofun⟩
  rcases hleast with rfl | ⟨k, rfl⟩
  · obtain ⟨m, rfl⟩ : ∃ m : Nat, b = m := Int.eq_ofNat_of_zero_le (nonneg_of_itemSpan? h)
    exact ⟨.inl rfl, .inr ⟨m, rfl⟩, fun _ _ => Nat.zero_le _⟩
  · have hle : (k : Int) ≤ b := le_of_made hmade
    obtain ⟨m, rfl⟩ := Int.eq_ofNat_of_zero_le ((Int.natCast_nonneg k).trans hle)
    refine ⟨.inr ⟨k, rfl⟩, .inr ⟨m, rfl⟩, ?_⟩
    rintro _ ⟨⟩
    simpa [lowest] using hle

/-! ## Counts in order -/

/-- Counts in order are the bounds of the lengths that they are read as. -/
theorem lengthSpan?_of_ordered (h : Ordered least most) :
    lengthSpan? least most = some ⟨lowest least, highest most, h.le⟩ := by
  have hread (a : Nat) (b : Option Nat) (hle : ∀ n ∈ b, a ≤ n) :
      Span.between? (Value.int a).count? (some b) = some ⟨a, b, hle⟩ := by
    rw [Value.count?_natCast]
    exact Span.of?_of_le hle
  rcases h with ⟨rfl | ⟨a, rfl⟩, rfl | ⟨b, rfl⟩, hle⟩
  · rfl
  · have hspan := hread 0 (some b) hle
    rwa [← Value.count?_natCast] at hspan
  · exact hread a none hle
  · have hspan := hread a (some b) hle
    rw [← Value.count?_natCast] at hspan
    unfold lengthSpan?
    rwa [orZero_int]

/-- What counts in order leave for the items behind the first one. -/
theorem tailSpan?_null (m : Nat) :
    ∃ s, tailSpan? (.int m) .null = some s ∧ s.least = m - 1 ∧ s.most = none := by
  simp only [tailSpan?, Value.isNull, exceeds_one, if_true]
  by_cases hm : 1 < m
  · have hfree : ∀ n ∈ (none : Option Nat), m - 1 ≤ n := by simp
    have hspan : Span.between? (some (some (m - 1))) (some none) = some ⟨m - 1, none, hfree⟩ :=
      Span.of?_of_le hfree
    rw [decide_eq_true hm, pred_natCast (by omega)]
    simp only [Except.toOption, Option.bind_some, Value.count?_natCast]
    exact ⟨_, hspan, rfl, rfl⟩
  · rw [decide_eq_false hm]
    exact ⟨.any, rfl, by simp only [Span.any]; omega, rfl⟩

theorem tailSpan?_int {m n : Nat} (hn : n ≠ 0) (hle : m ≤ n) :
    ∃ s, tailSpan? (.int m) (.int n) = some s ∧ s.least = m - 1 ∧ s.most = some (n - 1) := by
  have hbefore : ∀ k ∈ some (n - 1), m - 1 ≤ k := by
    rintro _ ⟨⟩
    omega
  have hspan : Span.between? (some (some (m - 1))) (some (some (n - 1))) =
      some ⟨m - 1, some (n - 1), hbefore⟩ := Span.of?_of_le hbefore
  rw [tailSpan?, if_neg nofun, pred_natCast (Nat.pos_of_ne_zero hn), Value.pred]
  simp only [Except.toOption, Option.bind_some, atLeastZero_pred, Value.count?_natCast]
  exact ⟨_, hspan, rfl, rfl⟩

theorem restSpan?_of_ordered (h : Ordered least most) (hne : highest most ≠ some 0) :
    ∃ s, restSpan? least.orZero most = some s ∧ s.least = lowest least - 1 ∧
      s.most = (highest most).map (· - 1) := by
  have hle := h.le
  rw [h.lower.orZero, restSpan?]
  rcases h.upper with rfl | ⟨n, rfl⟩
  · exact tailSpan?_null _
  · have hbound := hle n rfl
    split
    next hone =>
      obtain rfl : n = 1 := Option.some.inj ((h.upper.isNumber_iff 1).1 hone)
      exact ⟨.zero, rfl, by simp only [Span.zero]; omega, rfl⟩
    next => exact tailSpan?_int (fun heq => hne (congrArg some heq)) hbound

/-- Counts in order are the bounds of the items that they are read as. -/
theorem itemSpan?_of_ordered (h : Ordered least most) (hne : highest most ≠ some 0) :
    ∃ s, itemSpan? least most = some s ∧ s.least = lowest least ∧ s.most = highest most := by
  obtain ⟨s, hs, hleast, hmost⟩ := restSpan?_of_ordered h hne
  refine ⟨_, congrArg (Option.map _) hs, ?_, ?_⟩
  · simp only [Span.withFirst, h.lower.orZero, Value.isNumber_int, decide_eq_true_eq]
    split <;> omega
  · simp only [Span.withFirst, hmost]
    cases hhighest : highest most with
    | none => rfl
    | some n =>
      have hpos : n ≠ 0 := fun heq => hne (heq ▸ hhighest)
      exact congrArg some (Nat.sub_add_cancel (Nat.pos_of_ne_zero hpos))

end Quantified

end Schema

end GuidedJson
