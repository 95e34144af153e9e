import GuidedJson.Proofs.Pattern.Reading
import Mathlib.Data.List.TakeWhile

/-!
# Bounds in braces

Between braces stand two texts with a comma between them. Both are read as bounds if they are digits
alone, or empty; of anything else that cannot end the braces the reader refuses the whole.
-/

namespace GuidedJson.Pattern

/-! ## Spans -/

/-- How often something is repeated: two bounds in order. -/
structure Span where
  least : Nat
  most : Option Nat
  le : ∀ n ∈ most, least ≤ n

namespace Span

/-- Any number of times. -/
def any : Span := ⟨0, none, nofun⟩

/-- Not at all. -/
def zero : Span := ⟨0, some 0, fun _ _ => Nat.zero_le _⟩

/-- A span of repetitions behind a first part. The first part may be left out, too, where all of it
is optional. -/
def withFirst (s : Span) (optional : Bool) : Span where
  least := if optional then 0 else s.least + 1
  most := s.most.map (· + 1)
  le n hn := by
    obtain ⟨m, hm, rfl⟩ := Option.map_eq_some_iff.1 hn
    have hle := s.le m hm
    split <;> omega

/-- Two bounds, if they are in order. -/
def of? (least : Nat) (most : Option Nat) : Option Span :=
  if h : ∀ n ∈ most, least ≤ n then some ⟨least, most, h⟩ else none

/-- Two bounds that are read, where a missing lower one is zero. -/
def between? (low high : Option (Option Nat)) : Option Span := do
  let a ← low
  let b ← high
  of? (a.getD 0) b

theorem of?_of_le {least : Nat} {most : Option Nat} (h : ∀ n ∈ most, least ≤ n) :
    of? least most = some ⟨least, most, h⟩ := dif_pos h

theorem between?_none (low : Option (Option Nat)) : between? low none = none := by
  cases low <;> rfl

theorem of?_eq_some {least : Nat} {most : Option Nat} {s : Span} (h : of? least most = some s) :
    s.least = least ∧ s.most = most := by
  unfold of? at h
  split at h
  · cases h
    exact ⟨rfl, rfl⟩
  · cases h

theorem between?_eq_some {low high : Option (Option Nat)} {s : Span}
    (h : between? low high = some s) :
    ∃ a, low = some a ∧ high = some s.most ∧ s.least = a.getD 0 := by
  obtain ⟨a, ha, h⟩ := Option.bind_eq_some_iff.1 h
  obtain ⟨b, hb, h⟩ := Option.bind_eq_some_iff.1 h
  obtain ⟨hleast, hmost⟩ := of?_eq_some h
  exact ⟨a, ha, by rw [hb, hmost], hleast⟩

theorem of?_eq_none {least : Nat} {most : Option Nat} (h : of? least most = none) :
    ∃ n ∈ most, n < least := by
  unfold of? at h
  split at h
  · cases h
  next hle => simpa using hle

end Span

/-! ## Texts of bounds -/

/-- What a whole text is read as: a number, nothing if there is no text, and no bound at all if
anything but digits stands in it, or too many of them. -/
def bound? (cs : List Char) : Option (Option Nat) :=
  match readBound cs with
  | .ok (b, []) => some b
  | _ => none

/-- Whether a text holds something that no bound is written with, and that does not end the braces
either. Behind a comma another bound might follow, and the braces might end. -/
def Opaque (cs : List Char) : Prop :=
  ∃ ds c rest, cs = ds ++ c :: rest ∧ (∀ d ∈ ds, isDecimal d = true) ∧ isDecimal c = false ∧
    c ≠ '\x7d' ∧ (c = ',' → '\x7d' ∉ rest)

/-- Whether a text has more digits than are read. -/
def Overlong (cs : List Char) : Prop :=
  (∀ d ∈ cs, isDecimal d = true) ∧ Text.digitLimit < cs.length

/-- Whether a text makes braces unreadable. -/
def Boundless (cs : List Char) : Prop := Opaque cs ∨ Overlong cs

section Texts

variable {cs ds low high rest : List Char} {c : Char} {a b : Option Nat}

/-- What is read of digits in front of something else. -/
theorem readBound_digits (hds : ∀ d ∈ ds, isDecimal d = true) (hc : isDecimal c = false) :
    readBound (ds ++ c :: rest) = (readBound ds).map fun (b, _) => (b, c :: rest) := by
  have htake : ds.takeWhile isDecimal = ds := List.takeWhile_eq_self_iff.2 hds
  have hdrop : ds.dropWhile isDecimal = [] := List.dropWhile_eq_nil_iff.2 hds
  obtain ⟨htake', hdrop'⟩ := takeWhile_digits rest hds hc
  unfold readBound readNumber?
  rw [htake, hdrop, htake', hdrop']
  cases ds with
  | nil => rfl
  | cons d ds =>
    simp only [List.length_append, Nat.add_sub_cancel, List.length_nil, Nat.sub_zero]
    split <;> rfl

/-- Digits alone are read as a bound, unless they are too many. -/
theorem readBound_of_digits (h : ∀ d ∈ cs, isDecimal d = true) :
    (cs.length ≤ Text.digitLimit ∧ ∃ b, readBound cs = .ok (b, [])) ∨
      (Text.digitLimit < cs.length ∧ readBound cs = .error (.digits cs.length)) := by
  have htake : cs.takeWhile isDecimal = cs := List.takeWhile_eq_self_iff.2 h
  have hdrop : cs.dropWhile isDecimal = [] := List.dropWhile_eq_nil_iff.2 h
  unfold readBound readNumber?
  rw [htake, hdrop]
  cases cs with
  | nil => exact .inl ⟨Nat.zero_le _, none, rfl⟩
  | cons c cs =>
    simp only [List.length_nil, Nat.sub_zero]
    split
    next hle => exact .inl ⟨hle, _, rfl⟩
    next hlt => exact .inr ⟨Nat.not_le.1 hlt, rfl⟩

/-- A text is digits alone, or digits in front of something else. -/
theorem digits_or_exists_append (cs : List Char) : (∀ d ∈ cs, isDecimal d = true) ∨
    ∃ ds d after, cs = ds ++ d :: after ∧ (∀ d ∈ ds, isDecimal d = true) ∧ isDecimal d = false := by
  have hsplit := List.takeWhile_append_dropWhile (p := isDecimal) (l := cs)
  cases hdrop : cs.dropWhile isDecimal with
  | nil => exact .inl (List.dropWhile_eq_nil_iff.1 hdrop)
  | cons d after =>
    have hne : cs.dropWhile isDecimal ≠ [] := by simp [hdrop]
    have hhead := List.head_dropWhile_not isDecimal hne
    rw [hdrop] at hsplit
    refine .inr ⟨_, d, after, hsplit.symm, fun d => List.mem_takeWhile_imp, ?_⟩
    simpa [hdrop] using hhead

theorem readBound_of_bound? (h : bound? cs = some b) : readBound cs = .ok (b, []) := by
  unfold bound? at h
  split at h
  next hread => rw [hread, Option.some.inj h]
  next => cases h

theorem isDecimal_of_bound? (h : bound? cs = some b) : ∀ d ∈ cs, isDecimal d = true := by
  have hread := readBound_of_bound? h
  unfold readBound at hread
  cases hnumber : readNumber? cs with
  | none =>
    simp only [hnumber] at hread
    cases hread
    simp
  | some read =>
    obtain ⟨n, after⟩ := read
    simp only [hnumber] at hread
    split at hread
    next =>
      unfold readNumber? at hnumber
      split at hnumber
      next => cases hnumber
      next =>
        cases hread
        exact List.dropWhile_eq_nil_iff.1 (Prod.mk.inj (Option.some.inj hnumber)).2
    next => cases hread

/-- A bound is read in front of anything that is no digit. -/
theorem readBound_append_of_bound? (h : bound? cs = some b) (hc : isDecimal c = false) :
    readBound (cs ++ c :: rest) = .ok (b, c :: rest) := by
  rw [readBound_digits (isDecimal_of_bound? h) hc, readBound_of_bound? h]
  rfl

theorem bound?_toDigits {n : Nat} (hn : n < 10 ^ Text.digitLimit) :
    bound? (Nat.toDigits 10 n) = some (some n) := by
  have hdigits : ∀ d ∈ Nat.toDigits 10 n, isDecimal d = true := fun _ => isDecimal_of_mem_toDigits
  have hread : readBound (Nat.toDigits 10 n ++ [',']) = .ok (some n, [',']) :=
    readBound_toDigits hn (by decide)
  rcases readBound_of_digits hdigits with ⟨-, b, hb⟩ | ⟨hlong, -⟩
  · rw [readBound_digits hdigits (by decide), hb] at hread
    obtain ⟨rfl, -⟩ := Prod.mk.inj (Except.ok.inj hread)
    rw [bound?, hb]
  · exact absurd (length_toDigits_le hn) (Nat.not_le.2 hlong)

/-- A text that does not end the braces is a bound, or makes them unreadable. -/
theorem boundless_of_not_mem (h : bound? cs = none) (hbrace : '\x7d' ∉ cs) : Boundless cs := by
  rcases digits_or_exists_append cs with hdigits | ⟨ds, d, after, rfl, hds, hd⟩
  · rcases readBound_of_digits hdigits with ⟨-, b, hb⟩ | ⟨hlong, -⟩
    · rw [bound?, hb] at h
      cases h
    · exact .inr ⟨hdigits, hlong⟩
  · rw [List.mem_append, List.mem_cons, not_or, not_or] at hbrace
    exact .inl ⟨ds, d, after, rfl, hds, hd, Ne.symm hbrace.2.1, fun _ => hbrace.2.2⟩

/-! ## Braces -/

/-- Two bounds between braces. -/
theorem readBounds_of_bound? (hlow : bound? low = some a) (hhigh : bound? high = some b) :
    readBounds (low ++ ',' :: (high ++ '\x7d' :: rest)) = .ok ((a.getD 0, b), rest) := by
  have hbrace : isDecimal '\x7d' = false := by decide
  rw [readBounds, readBound_append_of_bound? hlow (by decide)]
  simp only [bind, Except.bind, readBound_append_of_bound? hhigh hbrace]
  rfl

/-- Digits are followed by a comma or the end of the braces. -/
theorem readBounds_of_ne (hds : ∀ d ∈ ds, isDecimal d = true) (hc : isDecimal c = false)
    (hcomma : c ≠ ',') (hbrace : c ≠ '\x7d') :
    ∃ fault, readBounds (ds ++ c :: rest) = .error fault := by
  unfold readBounds
  rw [readBound_digits hds hc]
  cases readBound ds with
  | error fault => exact ⟨fault, rfl⟩
  | ok read =>
    refine ⟨.unreadable, ?_⟩
    simp only [Except.map, bind, Except.bind]
    split
    next heq => exact absurd (List.cons.inj heq).1 hbrace
    next heq => exact absurd (List.cons.inj heq).1 hcomma
    next => rfl

/-- Digits behind the comma are followed by the end of the braces. -/
theorem readBounds_comma_of_ne {es : List Char} (hds : ∀ d ∈ ds, isDecimal d = true)
    (hes : ∀ d ∈ es, isDecimal d = true) (hc : isDecimal c = false) (hbrace : c ≠ '\x7d') :
    ∃ fault, readBounds (ds ++ ',' :: (es ++ c :: rest)) = .error fault := by
  unfold readBounds
  rw [readBound_digits hds (by decide)]
  cases readBound ds with
  | error fault => exact ⟨fault, rfl⟩
  | ok read =>
    simp only [Except.map, bind, Except.bind]
    rw [readBound_digits hes hc]
    cases readBound es with
    | error fault => exact ⟨fault, rfl⟩
    | ok read' =>
      refine ⟨.unreadable, ?_⟩
      simp only [Except.map]
      split
      next heq => exact absurd (List.cons.inj (Prod.mk.inj heq).2).1 hbrace
      next => rfl

/-- Braces are not read whose first text is no bound. -/
theorem Boundless.readBounds_low (h : Boundless low) (rest : List Char) :
    ∃ fault, readBounds (low ++ ',' :: rest) = .error fault := by
  rcases h with ⟨ds, c, more, rfl, hds, hc, hbrace, hmore⟩ | ⟨hdigits, hlong⟩
  · rw [List.append_assoc, List.cons_append]
    by_cases hcomma : c = ','
    -- Behind a comma the second one comes too early.
    · subst hcomma
      rcases digits_or_exists_append more with hes | ⟨es, d, after, rfl, hes, hd⟩
      · exact readBounds_comma_of_ne hds hes hc hbrace
      · rw [List.append_assoc, List.cons_append]
        refine readBounds_comma_of_ne hds hes hd ?_
        rintro rfl
        exact hmore rfl (by simp)
    · exact readBounds_of_ne hds hc hcomma hbrace
  · unfold readBounds
    rw [readBound_digits hdigits (by decide)]
    rcases readBound_of_digits hdigits with ⟨hle, -⟩ | ⟨-, herror⟩
    · exact absurd hle (Nat.not_le.2 hlong)
    · rw [herror]
      exact ⟨_, rfl⟩

/-- Nor are braces whose second text is no bound. -/
theorem Boundless.readBounds_high (h : Boundless high) (hlow : ∀ d ∈ low, isDecimal d = true)
    (rest : List Char) :
    ∃ fault, readBounds (low ++ ',' :: (high ++ '\x7d' :: rest)) = .error fault := by
  rcases h with ⟨ds, c, more, rfl, hds, hc, hbrace, -⟩ | ⟨hdigits, hlong⟩
  · rw [List.append_assoc, List.cons_append]
    exact readBounds_comma_of_ne hlow hds hc hbrace
  · unfold readBounds
    rw [readBound_digits hlow (by decide)]
    cases readBound low with
    | error fault => exact ⟨fault, rfl⟩
    | ok read =>
      simp only [Except.map, bind, Except.bind]
      rw [readBound_digits hdigits (by decide)]
      rcases readBound_of_digits hdigits with ⟨hle, -⟩ | ⟨-, herror⟩
      · exact absurd hle (Nat.not_le.2 hlong)
      · rw [herror]
        exact ⟨_, rfl⟩

end Texts

end GuidedJson.Pattern
