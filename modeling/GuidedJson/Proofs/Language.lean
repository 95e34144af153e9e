import Mathlib.Computability.Language

/-!
# Languages of repetitions

How the first symbol of a text splits off the first copy of a repetition. Copies that read nothing
can always be put at the end, so the first copy may be taken to read the symbol. Languages over one
alphabet are also read back through a map from another one, and carried over to another one, letter
by letter.
-/

namespace GuidedJson

open Computability

variable {α β : Type} {l m : Language α}

/-! ## The first symbol -/

theorem cons_mem_mul {a : α} {w : List α} :
    a :: w ∈ l * m ↔ (∃ u v, w = u ++ v ∧ a :: u ∈ l ∧ v ∈ m) ∨ ([] ∈ l ∧ a :: w ∈ m) := by
  rw [Language.mem_mul]
  constructor
  · rintro ⟨u, hu, v, hv, huv⟩
    cases u with
    | nil => exact .inr ⟨hu, by simpa using huv ▸ hv⟩
    | cons b u =>
      obtain ⟨rfl, rfl⟩ := List.cons.inj huv
      exact .inl ⟨u, v, rfl, hu, hv⟩
  · rintro (⟨u, v, rfl, hu, hv⟩ | ⟨hl, hm⟩)
    · exact ⟨a :: u, hu, v, hv, rfl⟩
    · exact ⟨[], hl, a :: w, hm, rfl⟩

theorem nil_mem_mul : [] ∈ l * m ↔ [] ∈ l ∧ [] ∈ m := by
  simp [Language.mem_mul]

theorem nil_mem_pow {n : Nat} : [] ∈ l ^ n ↔ n = 0 ∨ [] ∈ l := by
  induction n with
  | zero => simp
  | succ n ih =>
    rw [pow_succ', nil_mem_mul, ih]
    constructor
    · exact fun h => .inr h.1
    · rintro (h | h)
      · omega
      · exact ⟨h, .inr h⟩

theorem mem_pow_succ_of_mem_pow {n : Nat} {w : List α} (h : [] ∈ l) (hw : w ∈ l ^ n) :
    w ∈ l ^ (n + 1) := by
  rw [pow_succ']
  exact Language.mem_mul.2 ⟨[], h, w, hw, rfl⟩

/-- The first of several copies may be taken to read the first symbol. -/
theorem cons_mem_pow_succ {n : Nat} {a : α} {w : List α} :
    a :: w ∈ l ^ (n + 1) ↔ ∃ u v, w = u ++ v ∧ a :: u ∈ l ∧ v ∈ l ^ n := by
  constructor
  · intro h
    induction n with
    | zero =>
      rw [pow_succ', cons_mem_mul] at h
      rcases h with h | ⟨-, h⟩
      · exact h
      · simp at h
    | succ n ih =>
      rw [pow_succ', cons_mem_mul] at h
      rcases h with h | ⟨hnil, h⟩
      · exact h
      -- The first copy reads nothing, so one that reads nothing may stand behind the others.
      · obtain ⟨u, v, hw, hu, hv⟩ := ih h
        exact ⟨u, v, hw, hu, mem_pow_succ_of_mem_pow hnil hv⟩
  · rintro ⟨u, v, hw, hu, hv⟩
    rw [pow_succ', cons_mem_mul]
    exact .inl ⟨u, v, hw, hu, hv⟩

/-- The first of any number of copies may be taken to read the first symbol. -/
theorem cons_mem_kstar {a : α} {w : List α} :
    a :: w ∈ l∗ ↔ ∃ u v, w = u ++ v ∧ a :: u ∈ l ∧ v ∈ l∗ := by
  constructor
  · intro h
    obtain ⟨parts, hw, hparts⟩ := Language.mem_kstar_iff_exists_nonempty.1 h
    cases parts with
    | nil => cases hw
    | cons u parts =>
      obtain ⟨hu, hne⟩ := hparts u List.mem_cons_self
      cases u with
      | nil => exact absurd rfl hne
      | cons b u =>
        obtain ⟨rfl, rfl⟩ := List.cons.inj hw
        refine ⟨u, parts.flatten, rfl, hu, Language.join_mem_kstar ?_⟩
        exact fun y hy => (hparts y (List.mem_cons_of_mem _ hy)).1
  · rintro ⟨u, v, rfl, hu, hv⟩
    obtain ⟨parts, rfl, hparts⟩ := Language.mem_kstar.1 hv
    refine Language.mem_kstar.2 ⟨(a :: u) :: parts, by simp, ?_⟩
    intro y hy
    rcases List.mem_cons.1 hy with rfl | hy
    · exact hu
    · exact hparts y hy

/-! ## Numbers of copies -/

/-- Up to so many copies. -/
theorem mem_one_add_pow {n : Nat} {w : List α} :
    w ∈ (1 + l) ^ n ↔ ∃ parts : List (List α), parts.length ≤ n ∧ (∀ u ∈ parts, u ∈ l) ∧
      w = parts.flatten := by
  induction n generalizing w with
  | zero =>
    rw [pow_zero, Language.mem_one]
    constructor
    · rintro rfl
      exact ⟨[], by simp⟩
    · rintro ⟨parts, hlen, -, rfl⟩
      rw [List.length_eq_zero_iff.1 (Nat.le_zero.1 hlen), List.flatten_nil]
  | succ n ih =>
    rw [pow_succ', Language.mem_mul]
    constructor
    · rintro ⟨u, hu, v, hv, rfl⟩
      obtain ⟨parts, hlen, hparts, rfl⟩ := ih.1 hv
      rcases (Language.mem_add _ _ _).1 hu with hu | hu
      -- The copy is left out, and the others are fewer than allowed.
      · obtain rfl := (Language.mem_one u).1 hu
        exact ⟨parts, by omega, hparts, rfl⟩
      · exact ⟨u :: parts, by simpa using hlen, List.forall_mem_cons.2 ⟨hu, hparts⟩, rfl⟩
    · rintro ⟨parts, hlen, hparts, rfl⟩
      cases parts with
      | nil =>
        exact ⟨[], .inl rfl, [], ih.2 ⟨[], by simp⟩, rfl⟩
      | cons u parts =>
        obtain ⟨hu, hparts⟩ := List.forall_mem_cons.1 hparts
        exact ⟨u, .inr hu, parts.flatten, ih.2 ⟨parts, by simpa using hlen, hparts, rfl⟩, rfl⟩

/-- So many copies and then others: the copies are counted off. -/
theorem mem_pow_mul {n : Nat} {w : List α} :
    w ∈ l ^ n * m ↔ ∃ parts : List (List α), parts.length = n ∧ (∀ u ∈ parts, u ∈ l) ∧
      ∃ v ∈ m, w = parts.flatten ++ v := by
  rw [Language.mem_mul]
  constructor
  · rintro ⟨u, hu, v, hv, rfl⟩
    obtain ⟨parts, rfl, hlen, hparts⟩ := Language.mem_pow.1 hu
    exact ⟨parts, hlen, hparts, v, hv, rfl⟩
  · rintro ⟨parts, hlen, hparts, v, hv, rfl⟩
    exact ⟨_, Language.mem_pow.2 ⟨parts, rfl, hlen, hparts⟩, v, hv, rfl⟩

/-- So many copies, and then others: so many at most, or any number of them. -/
def copies (l : Language α) (least : Nat) (more : Option Nat) : Language α :=
  l ^ least * match more with
    | none => l∗
    | some n => (1 + l) ^ n

theorem mem_copies {least : Nat} {more : Option Nat} {w : List α} :
    w ∈ copies l least more ↔ ∃ parts : List (List α), least ≤ parts.length ∧
      (∀ n ∈ more, parts.length ≤ least + n) ∧ (∀ u ∈ parts, u ∈ l) ∧ w = parts.flatten := by
  unfold copies
  rw [mem_pow_mul]
  constructor
  · rintro ⟨parts, hlen, hparts, v, hv, rfl⟩
    -- What follows the copies that are counted off is made of copies too.
    obtain ⟨rest, hrest, hmost, rfl⟩ : ∃ rest : List (List α), (∀ u ∈ rest, u ∈ l) ∧
        (∀ n ∈ more, rest.length ≤ n) ∧ v = rest.flatten := by
      cases more with
      | none =>
        obtain ⟨rest, rfl, hrest⟩ := Language.mem_kstar.1 hv
        exact ⟨rest, hrest, by simp, rfl⟩
      | some n =>
        obtain ⟨rest, hmost, hrest, rfl⟩ := mem_one_add_pow.1 hv
        exact ⟨rest, hrest, by simpa using hmost, rfl⟩
    refine ⟨parts ++ rest, by simp [← hlen], ?_, List.forall_mem_append.2 ⟨hparts, hrest⟩, by simp⟩
    intro n hn
    have := hmost n hn
    rw [List.length_append]
    omega
  · rintro ⟨parts, hleast, hmost, hparts, rfl⟩
    refine ⟨parts.take least, by simp [hleast], fun u hu => hparts u (List.mem_of_mem_take hu),
      (parts.drop least).flatten, ?_, by rw [← List.flatten_append, List.take_append_drop]⟩
    have hrest : ∀ u ∈ parts.drop least, u ∈ l := fun u hu => hparts u (List.mem_of_mem_drop hu)
    cases more with
    | none => exact Language.join_mem_kstar hrest
    | some n =>
      have hle : parts.length ≤ least + n := hmost n rfl
      refine mem_one_add_pow.2 ⟨parts.drop least, ?_, hrest, rfl⟩
      rw [List.length_drop]
      omega

theorem mem_list_sum {ls : List (Language α)} {w : List α} : w ∈ ls.sum ↔ ∃ l ∈ ls, w ∈ l := by
  induction ls with
  | nil => simp
  | cons l ls ih => rw [List.sum_cons, Language.mem_add, ih, List.exists_mem_cons_iff]

/-! ## Texts between separators -/

theorem singleton_append (u v : List α) : ({u ++ v} : Language α) = {u} * {v} := by
  ext w
  rw [Language.mem_mul]
  constructor
  · rintro rfl
    exact ⟨u, rfl, v, rfl, rfl⟩
  · rintro ⟨_, rfl, _, rfl, rfl⟩
    rfl

theorem mem_singleton_mul {u w : List α} : w ∈ ({u} : Language α) * l ↔ ∃ v ∈ l, w = u ++ v := by
  rw [Language.mem_mul]
  constructor
  · rintro ⟨_, rfl, v, hv, rfl⟩
    exact ⟨v, hv, rfl⟩
  · rintro ⟨v, hv, rfl⟩
    exact ⟨u, rfl, v, hv, rfl⟩

/-- The texts of a language between two given texts. -/
theorem mem_enclosed {u v w : List α} :
    w ∈ ({u} : Language α) * l * {v} ↔ ∃ x ∈ l, w = u ++ x ++ v := by
  rw [Language.mem_mul]
  constructor
  · rintro ⟨_, hux, _, rfl, rfl⟩
    obtain ⟨x, hx, rfl⟩ := mem_singleton_mul.1 hux
    exact ⟨x, hx, rfl⟩
  · rintro ⟨x, hx, rfl⟩
    exact ⟨_, mem_singleton_mul.2 ⟨x, hx, rfl⟩, v, rfl, rfl⟩

/-- Where every item of a list comes from something, the list does. -/
theorem exists_map_eq {f : β → α} {P : β → Prop} {us : List α} (h : ∀ u ∈ us, ∃ x, P x ∧ u = f x) :
    ∃ xs : List β, (∀ x ∈ xs, P x) ∧ us = xs.map f := by
  induction us with
  | nil => exact ⟨[], by simp, rfl⟩
  | cons u us ih =>
    obtain ⟨⟨x, hx, rfl⟩, hus⟩ := List.forall_mem_cons.1 h
    obtain ⟨xs, hxs, rfl⟩ := ih hus
    exact ⟨x :: xs, List.forall_mem_cons.2 ⟨hx, hxs⟩, rfl⟩

theorem intercalate_cons (sep u : List α) (us : List (List α)) :
    sep.intercalate (u :: us) = u ++ (us.map (sep ++ ·)).flatten := by
  induction us generalizing u with
  | nil => simp
  | cons v us ih =>
    rw [List.intercalate_cons_cons, ih, List.map_cons, List.flatten_cons]
    simp

/-- Texts of some languages in their order, with a separator between them. -/
def inOrder (sep : List α) : List (Language α) → Language α
  | [] => 1
  | [l] => l
  | l :: m :: ls => l * ({sep} * inOrder sep (m :: ls))

theorem mem_inOrder {sep : List α} {ls : List (Language α)} {w : List α} :
    w ∈ inOrder sep ls ↔ ∃ us : List (List α), List.Forall₂ (· ∈ ·) us ls ∧
      w = sep.intercalate us := by
  induction ls generalizing w with
  | nil => simp [inOrder]
  | cons l ls ih =>
    cases ls with
    | nil =>
      simp only [inOrder, List.forall₂_cons_right_iff, List.forall₂_nil_right_iff]
      constructor
      · exact fun hw => ⟨[w], ⟨w, [], hw, rfl, rfl⟩, by simp⟩
      · rintro ⟨_, ⟨u, _, hu, rfl, rfl⟩, rfl⟩
        simpa using hu
    | cons m ls =>
      rw [inOrder, Language.mem_mul]
      constructor
      · rintro ⟨u, hu, _, htail, rfl⟩
        obtain ⟨v, hv, rfl⟩ := mem_singleton_mul.1 htail
        obtain ⟨us, hus, rfl⟩ := ih.1 hv
        refine ⟨u :: us, .cons hu hus, ?_⟩
        cases hus
        rw [List.intercalate_cons_cons, List.append_assoc]
      · rintro ⟨us, hus, rfl⟩
        cases hus with
        | @cons u _ us _ hu hus =>
          refine ⟨u, hu, sep ++ sep.intercalate us, ?_, ?_⟩
          · exact mem_singleton_mul.2 ⟨_, ih.2 ⟨us, hus, rfl⟩, rfl⟩
          · cases hus
            rw [List.intercalate_cons_cons, List.append_assoc]

/-- One text and copies of others behind separators: texts of one language between separators. -/
theorem mem_mul_copies {sep w : List α} {least : Nat} {more : Option Nat} :
    w ∈ l * copies ({sep} * l) least more ↔ ∃ us : List (List α), least < us.length ∧
      (∀ n ∈ more, us.length ≤ least + n + 1) ∧ (∀ u ∈ us, u ∈ l) ∧ w = sep.intercalate us := by
  rw [Language.mem_mul]
  constructor
  · rintro ⟨u, hu, v, hv, rfl⟩
    obtain ⟨parts, hleast, hmost, hparts, rfl⟩ := mem_copies.1 hv
    obtain ⟨us, hus, rfl⟩ := exists_map_eq fun part hpart => mem_singleton_mul.1 (hparts part hpart)
    rw [List.length_map] at hleast hmost
    refine ⟨u :: us, Nat.lt_succ_of_le hleast, fun n hn => Nat.succ_le_succ (hmost n hn),
      List.forall_mem_cons.2 ⟨hu, hus⟩, (intercalate_cons ..).symm⟩
  · rintro ⟨us, hleast, hmost, hus, rfl⟩
    cases us with
    | nil => simp at hleast
    | cons u us =>
      -- Every text but the first one takes the separator before it along.
      obtain ⟨hu, hus⟩ := List.forall_mem_cons.1 hus
      refine ⟨u, hu, (us.map (sep ++ ·)).flatten, mem_copies.2 ⟨_, ?_, ?_, ?_, rfl⟩,
        (intercalate_cons ..).symm⟩
      · rw [List.length_map]
        exact Nat.lt_succ_iff.1 hleast
      · intro n hn
        have hle := hmost n hn
        rw [List.length_cons] at hle
        rw [List.length_map]
        omega
      · rw [List.forall_mem_map]
        exact fun v hv => mem_singleton_mul.2 ⟨v, hus v hv, rfl⟩

/-! ## Letter by letter -/

/-- The texts whose letters, mapped one by one, make a text of a language. -/
def readBack (f : β → α) (l : Language α) : Language β := {w | w.map f ∈ l}

section ReadBack

variable {f : β → α}

theorem mem_readBack {w : List β} : w ∈ readBack f l ↔ w.map f ∈ l := Iff.rfl

theorem readBack_one : readBack f 1 = 1 := by
  ext w
  simp [mem_readBack]

theorem readBack_add : readBack f (l + m) = readBack f l + readBack f m := rfl

theorem readBack_mul : readBack f (l * m) = readBack f l * readBack f m := by
  ext w
  simp only [mem_readBack, Language.mem_mul]
  constructor
  · rintro ⟨u, hu, v, hv, huv⟩
    obtain ⟨u, v, rfl, rfl, rfl⟩ := List.map_eq_append_iff.1 huv.symm
    exact ⟨u, hu, v, hv, rfl⟩
  · rintro ⟨u, hu, v, hv, rfl⟩
    exact ⟨_, hu, _, hv, List.map_append.symm⟩

theorem readBack_pow (n : Nat) : readBack f (l ^ n) = readBack f l ^ n := by
  induction n with
  | zero => rw [pow_zero, pow_zero, readBack_one]
  | succ n ih => rw [pow_succ, pow_succ, readBack_mul, ih]

theorem readBack_kstar : readBack f l∗ = (readBack f l)∗ := by
  ext w
  simp only [Language.kstar_eq_iSup_pow, ← readBack_pow, Language.mem_iSup, mem_readBack]

theorem readBack_copies (least : Nat) (more : Option Nat) :
    readBack f (copies l least more) = copies (readBack f l) least more := by
  cases more with
  | none => rw [copies, copies, readBack_mul, readBack_pow, readBack_kstar]
  | some n =>
    rw [copies, copies, readBack_mul, readBack_pow, readBack_pow, readBack_add, readBack_one]

theorem readBack_prod (ls : List (Language α)) :
    readBack f ls.prod = (ls.map (readBack f)).prod := by
  induction ls with
  | nil => exact readBack_one
  | cons l ls ih => rw [List.prod_cons, readBack_mul, ih, List.map_cons, List.prod_cons]

theorem readBack_sum (ls : List (Language α)) :
    readBack f ls.sum = (ls.map (readBack f)).sum := by
  induction ls with
  | nil => rfl
  | cons l ls ih => rw [List.sum_cons, readBack_add, ih, List.map_cons, List.sum_cons]

end ReadBack

/-! ## Letters in place of others -/

/-- Whether a text of one language becomes a text of another one, whatever may stand in the place of
each of its letters is put there. -/
def Carries (R : α → β → Prop) (l : Language α) (k : Language β) : Prop :=
  ∀ u ∈ l, ∀ v, List.Forall₂ R u v → v ∈ k

section Carries

variable {R : α → β → Prop} {k n : Language β}

theorem carries_one : Carries R 1 1 := by
  intro u hu v huv
  obtain rfl := (Language.mem_one u).1 hu
  cases huv
  exact (Language.mem_one _).2 rfl

theorem Carries.add (hl : Carries R l k) (hm : Carries R m n) : Carries R (l + m) (k + n) := by
  rintro u (hu | hu) v huv
  · exact .inl (hl u hu v huv)
  · exact .inr (hm u hu v huv)

theorem Carries.mul (hl : Carries R l k) (hm : Carries R m n) : Carries R (l * m) (k * n) := by
  intro u hu v huv
  obtain ⟨a, ha, b, hb, rfl⟩ := Language.mem_mul.1 hu
  have hfirst := List.forall₂_take a.length huv
  have hsecond := List.forall₂_drop a.length huv
  rw [List.take_left] at hfirst
  rw [List.drop_left] at hsecond
  exact Language.mem_mul.2 ⟨_, hl a ha _ hfirst, _, hm b hb _ hsecond, List.take_append_drop _ v⟩

theorem Carries.pow (h : Carries R l k) (count : Nat) : Carries R (l ^ count) (k ^ count) := by
  induction count with
  | zero =>
    rw [pow_zero, pow_zero]
    exact carries_one
  | succ count ih =>
    rw [pow_succ, pow_succ]
    exact ih.mul h

theorem Carries.kstar (h : Carries R l k) : Carries R l∗ k∗ := by
  intro u hu v huv
  rw [Language.kstar_eq_iSup_pow, Language.mem_iSup] at hu ⊢
  obtain ⟨count, hu⟩ := hu
  exact ⟨count, h.pow count u hu v huv⟩

theorem Carries.copies (h : Carries R l k) (least : Nat) (more : Option Nat) :
    Carries R (copies l least more) (copies k least more) := by
  apply (h.pow least).mul
  cases more with
  | none => exact h.kstar
  | some count => exact (carries_one.add h).pow count

section Lists

variable {ι : Type} {is : List ι} {f : ι → Language α} {g : ι → Language β}
  (h : ∀ i ∈ is, Carries R (f i) (g i))
include h

theorem carries_prod : Carries R (is.map f).prod (is.map g).prod := by
  induction is with
  | nil => exact carries_one
  | cons i is ih =>
    obtain ⟨hi, his⟩ := List.forall_mem_cons.1 h
    rw [List.map_cons, List.prod_cons, List.map_cons, List.prod_cons]
    exact hi.mul (ih his)

theorem carries_sum : Carries R (is.map f).sum (is.map g).sum := by
  intro u hu v huv
  obtain ⟨_, hl, hu⟩ := mem_list_sum.1 hu
  obtain ⟨i, hi, rfl⟩ := List.mem_map.1 hl
  exact mem_list_sum.2 ⟨g i, List.mem_map_of_mem hi, h i hi u hu v huv⟩

end Lists

end Carries

/-! ## One character -/

/-- The texts of one character with a property. -/
def oneChar (P : Char → Prop) : Language Char := {w | ∃ c, P c ∧ w = [c]}

theorem mem_oneChar {P : Char → Prop} {w : List Char} :
    w ∈ oneChar P ↔ ∃ c, P c ∧ w = [c] := Iff.rfl

theorem oneChar_eq (c : Char) : oneChar (· = c) = {[c]} := by
  ext w
  rw [mem_oneChar]
  constructor
  · rintro ⟨_, rfl, rfl⟩
    rfl
  · rintro rfl
    exact ⟨c, rfl, rfl⟩

end GuidedJson
