import GuidedJson.Proofs.Pattern.CharSets

/-!
# Escapes and brackets

A class in brackets is read item by item: a character, an escape, or a range. What it stands for is
any of its items, or no one of them where it begins with the sign for that.
-/

namespace GuidedJson.Pattern

open Computability

/-! ## Escapes -/

/-- What is asked of a character that stands for itself behind a backslash. -/
structure EscapesItself (c : Char) : Prop where
  no_octal : isOctal c = false
  no_decimal : isDecimal c = false
  no_class : escapedClass? c = none
  no_letter : Text.isLetter c = false
  no_anchor : c ∉ ['x', '0', 'N', 'p', 'P', 'u', 'U', 'A', 'Z', 'b', 'B']

theorem readEscape_of_escapesItself {c : Char} (h : EscapesItself c) (inClass : Bool)
    (rest : List Char) : readEscape inClass (c :: rest) = .ok (.single c.toNat, rest) := by
  have hne : ∀ d ∈ ['x', '0', 'N', 'p', 'P', 'u', 'U', 'A', 'Z', 'b', 'B'], c ≠ d := by
    rintro d hd rfl
    exact h.no_anchor hd
  have hoctal : readOctal 3 (c :: rest) = (0, c :: rest) := by
    simp [readOctal, h.no_octal]
  have hplain : readPlainEscape inClass (c :: rest) = .ok (.single c.toNat, rest) := by
    rw [readPlainEscape, h.no_class]
    simp [h.no_letter, hne 'A' (by decide), hne 'Z' (by decide), hne 'b' (by decide),
      hne 'B' (by decide)]
  rw [readEscape]
  · rw [hoctal]
    simp [h.no_decimal, hplain]
  · exact fun _ _ _ heq => hne 'x' (by decide) (List.cons.inj heq).1
  · exact fun _ heq => hne 'x' (by decide) (List.cons.inj heq).1
  · exact fun _ heq => hne '0' (by decide) (List.cons.inj heq).1
  · exact fun _ heq => hne 'N' (by decide) (List.cons.inj heq).1
  · exact fun _ heq => hne 'p' (by decide) (List.cons.inj heq).1
  · exact fun _ heq => hne 'P' (by decide) (List.cons.inj heq).1
  · exact fun _ heq => hne 'u' (by decide) (List.cons.inj heq).1
  · exact fun _ heq => hne 'U' (by decide) (List.cons.inj heq).1

theorem atom_escape {c : Char} (h : EscapesItself c) :
    Atom ['\\', c] (.chars (.single c.toNat)) := by
  refine ⟨by simp, stops_cons (by decide) _, by simp, ?_⟩
  intro rest
  show (readEscape false (c :: rest) >>= fun x => readRepetitions (.chars x.1) x.2) = _
  rw [readEscape_of_escapesItself h]
  rfl

/-! ## Items -/

/-- Whether a text is read as an item of a class that stands for a set. A dash behind it would make
a range of it. -/
structure Item (t : List Char) (s : CharSet) : Prop where
  ne_nil : t ≠ []
  no_dash : t.head? ≠ some '-'
  read : ∀ rest, rest.head? ≠ some '-' → readClassItem (t ++ rest) = .ok (⟨s, false⟩, rest)

theorem readClassItem_of_atom {t rest : List Char} {k : CharClass}
    (h : readClassAtom (t ++ rest) = .ok (k, rest)) (hrest : rest.head? ≠ some '-') :
    readClassItem (t ++ rest) = .ok (k, rest) := by
  rw [readClassItem, h]
  cases rest with
  | nil => rfl
  | cons c rest =>
    have hc : c ≠ '-' := by simpa using hrest
    simp only [bind, Except.bind]
    split
    · rename_i heq
      simp only [Prod.mk.injEq, List.cons.injEq] at heq
      exact absurd heq.2.1 hc
    · rename_i heq
      simp only [Prod.mk.injEq, List.cons.injEq] at heq
      exact absurd heq.2.1 hc
    · rfl

/-- A character that is neither a backslash nor a closing bracket stands for itself in a class. -/
def IsPlain (c : Char) : Prop := c ≠ '\\' ∧ c ≠ ']'

instance (c : Char) : Decidable (IsPlain c) := instDecidableAnd

theorem readClassAtom_of_isPlain {c : Char} (h : IsPlain c) (rest : List Char) :
    readClassAtom (c :: rest) = .ok (.single c.toNat, rest) := by
  rw [readClassAtom]
  · exact h.1
  · exact h.2

theorem item_char {c : Char} (h : IsPlain c) (hdash : c ≠ '-') : Item [c] (.single c) := by
  refine ⟨by simp, by simpa using hdash, ?_⟩
  intro rest hrest
  exact readClassItem_of_atom (readClassAtom_of_isPlain h rest) hrest

theorem item_chars (cs : List Char) (h : cs.all (fun c => IsPlain c ∧ c ≠ '-') = true) :
    List.Forall₂ Item (cs.map ([·])) (cs.map .single) := by
  induction cs with
  | nil => exact .nil
  | cons c cs ih =>
    obtain ⟨hc, hcs⟩ := Bool.and_eq_true_iff.1 h
    obtain ⟨hplain, hdash⟩ := of_decide_eq_true hc
    exact .cons (item_char hplain hdash) (ih hcs)

theorem item_escape {c : Char} (h : EscapesItself c) : Item ['\\', c] (.single c) := by
  refine ⟨by simp, by simp, ?_⟩
  intro rest hrest
  exact readClassItem_of_atom (readEscape_of_escapesItself h true rest) hrest

theorem readClassItem_range {t u rest : List Char} {low high : Nat}
    (hlow : ∀ rest, readClassAtom (t ++ rest) = .ok (.single low, rest))
    (hhigh : ∀ rest, readClassAtom (u ++ rest) = .ok (.single high, rest)) (hle : low ≤ high)
    (hu : u.head? ≠ some ']') (hne : u ≠ []) :
    readClassItem (t ++ '-' :: u ++ rest) = .ok (⟨.range low high, false⟩, rest) := by
  have htext : t ++ '-' :: u ++ rest = t ++ '-' :: (u ++ rest) := by simp
  have hsingle : ∀ n, (CharClass.single n).single? = some n := by
    intro n
    simp [CharClass.single?, CharClass.single]
  rw [htext, readClassItem, hlow]
  simp only [bind, Except.bind]
  split
  · rename_i heq
    simp only [Prod.mk.injEq, List.cons.injEq, true_and] at heq
    cases u with
    | nil => exact absurd rfl hne
    | cons c u =>
      rw [List.cons_append] at heq
      exact absurd (congrArg some (List.cons.inj heq.2).1) hu
  · rename_i heq
    simp only [Prod.mk.injEq, List.cons.injEq, true_and] at heq
    obtain ⟨rfl, rfl⟩ := heq
    simp only [hhigh, hsingle, if_pos hle]
    rfl
  · rename_i hnot
    exact absurd rfl (hnot _ _)

/-- A range whose ends are read as they are. -/
theorem item_range {a b : Char} (ha : IsPlain a) (hb : IsPlain b) (hdash : a ≠ '-')
    (hle : a.toNat ≤ b.toNat) : Item [a, '-', b] (.range a.toNat b.toNat) := by
  refine ⟨by simp, by simpa using hdash, ?_⟩
  intro rest _
  exact readClassItem_range (t := [a]) (u := [b]) (readClassAtom_of_isPlain ha)
    (readClassAtom_of_isPlain hb) hle (by simpa using hb.2) (by simp)

/-! ## Classes -/

/-- The union of some sets. -/
def unionOf (ss : List CharSet) : CharSet := ⟨ss.flatMap (·.ranges)⟩

theorem mem_unionOf {ss : List CharSet} {c : Char} : c ∈ unionOf ss ↔ ∃ s ∈ ss, c ∈ s := by
  simp only [CharSet.mem_iff]
  simp [unionOf, CharSet.has, List.any_flatMap]

theorem readClassItems_of_items {ts : List (List Char)} {ss : List CharSet}
    (h : List.Forall₂ Item ts ss) :
    (ts.flatten ++ [']']).head? ≠ some '-' ∧ ∀ rest fuel, ts.flatten.length < fuel →
      readClassItems fuel (ts.flatten ++ ']' :: rest) =
        .ok (ss.map fun s => ⟨s, false⟩, ']' :: rest) := by
  induction h with
  | nil =>
    refine ⟨by simp, ?_⟩
    intro rest fuel hfuel
    obtain ⟨fuel, rfl⟩ : ∃ n, fuel = n + 1 := ⟨fuel - 1, by omega⟩
    rfl
  | @cons t s ts ss ht _ ih =>
    obtain ⟨hhead, hreads⟩ := ih
    refine ⟨?_, ?_⟩
    · have hdash := ht.no_dash
      cases t with
      | nil => simpa using hhead
      | cons c t => simpa using hdash
    · intro rest fuel hfuel
      have hlen := List.length_pos_iff.2 ht.ne_nil
      rw [List.flatten_cons, List.length_append] at hfuel
      obtain ⟨fuel, rfl⟩ : ∃ n, fuel = n + 1 := ⟨fuel - 1, by omega⟩
      -- The next item does not begin with a dash, so it makes no range of this one.
      have hbehind : (ts.flatten ++ ']' :: rest).head? ≠ some '-' := by
        cases hts : ts.flatten with
        | nil => simp
        | cons c cs =>
          rw [hts] at hhead
          simpa using hhead
      rw [List.flatten_cons, List.append_assoc, readClassItems, ht.read _ hbehind]
      simp only [bind, Except.bind, hreads rest fuel (by omega)]
      rfl

/-- Items of which none is negated make a class of all that they stand for. -/
theorem combine_of_not_negated {ks : List CharClass} (h : ∀ k ∈ ks, k.negated = false)
    (negated : Bool) : CharClass.combine ks negated = ⟨⟨ks.flatMap (·.chars.ranges)⟩, negated⟩ := by
  have hnamed : ks.filter (!·.negated) = ks := by
    apply List.filter_eq_self.2
    intro k hk
    simp [h k hk]
  have hbarred : ks.filter (·.negated) = [] := by
    apply List.filter_eq_nil_iff.2
    intro k hk
    simp [h k hk]
  rw [CharClass.combine, hnamed, hbarred]
  rfl

/-- What the items of a class and the bracket behind them come to. -/
def closeClass (negated : Bool) :
    List CharClass × List Char → Except PatternFault (CharClass × List Char)
  | ([item], ']' :: rest) => .ok (⟨item.chars, negated != item.negated⟩, rest)
  | (items, ']' :: rest) => .ok (.combine items negated, rest)
  | _ => .error .unreadable

theorem readClass_of_head {cs : List Char} (h : cs.head? ≠ some '^') :
    readClass cs = (readClassItems (cs.length + 1) cs).bind (closeClass false) := by
  rw [readClass]
  · rfl
  · rintro rest rfl
    simp at h

theorem readClass_caret (cs : List Char) :
    readClass ('^' :: cs) = (readClassItems (cs.length + 1) cs).bind (closeClass true) :=
  rfl

theorem closeClass_of_not_negated {ks : List CharClass} (h : ∀ k ∈ ks, k.negated = false)
    (negated : Bool) (rest : List Char) : closeClass negated (ks, ']' :: rest) =
      .ok (⟨⟨ks.flatMap (·.chars.ranges)⟩, negated⟩, rest) := by
  match ks with
  | [k] =>
    have hk : k.negated = false := h k List.mem_cons_self
    simp [closeClass, hk]
  | [] | _ :: _ :: _ => rw [closeClass, combine_of_not_negated h]; simp

section Classes

variable {ts : List (List Char)} {ss : List CharSet} (h : List.Forall₂ Item ts ss)
include h

/-- Items one after the other are read as a class of all that they stand for. -/
theorem readClassItems_bind_closeClass (negated : Bool) (rest : List Char) :
    (readClassItems ((ts.flatten ++ ']' :: rest).length + 1) (ts.flatten ++ ']' :: rest)).bind
      (closeClass negated) = .ok (⟨unionOf ss, negated⟩, rest) := by
  have hfuel : ts.flatten.length < (ts.flatten ++ ']' :: rest).length + 1 := by
    rw [List.length_append]
    omega
  rw [(readClassItems_of_items h).2 rest _ hfuel]
  refine (closeClass_of_not_negated (by simp) negated rest).trans ?_
  rw [List.flatMap_map, unionOf]

/-- A class of items is an atom for the union of their sets. -/
theorem atom_class (hhead : (ts.flatten ++ [']']).head? ≠ some '^') :
    Atom ('[' :: ts.flatten ++ [']']) (.chars ⟨unionOf ss, false⟩) := by
  refine ⟨by simp, stops_cons (by decide) _, by simp, ?_⟩
  intro rest
  have htext : '[' :: ts.flatten ++ [']'] ++ rest = '[' :: (ts.flatten ++ ']' :: rest) := by simp
  have hhead' : (ts.flatten ++ ']' :: rest).head? ≠ some '^' := by
    cases hts : ts.flatten with
    | nil => simp
    | cons c cs => simpa [hts] using hhead
  rw [htext, readAtom, readClass_of_head hhead', readClassItems_bind_closeClass h]
  rfl

/-- A class of items behind the sign for none of them. -/
theorem atom_negated :
    Atom ('[' :: '^' :: ts.flatten ++ [']']) (.chars ⟨unionOf ss, true⟩) := by
  refine ⟨by simp, stops_cons (by decide) _, by simp, ?_⟩
  intro rest
  have htext : '[' :: '^' :: ts.flatten ++ [']'] ++ rest =
      '[' :: '^' :: (ts.flatten ++ ']' :: rest) := by simp
  rw [htext, readAtom, readClass_caret, readClassItems_bind_closeClass h]
  rfl

end Classes

/-! ## Characters in classes -/

theorem Atom.atomFor_set {cs : List Char} {ss : List CharSet}
    (h : Atom cs (.chars ⟨unionOf ss, false⟩)) : AtomFor cs fun c => ∃ s ∈ ss, c ∈ s :=
  ⟨_, h, fun _ => mem_unionOf⟩

theorem Atom.atomFor_compl {cs : List Char} {ss : List CharSet}
    (h : Atom cs (.chars ⟨unionOf ss, true⟩)) : AtomFor cs fun c => ¬ ∃ s ∈ ss, c ∈ s := by
  refine ⟨_, h, fun c => ?_⟩
  show (unionOf ss).compl.has c.toNat = true ↔ ¬ ∃ s ∈ ss, c ∈ s
  rw [CharSet.has_compl, Bool.not_eq_true', ← mem_unionOf, CharSet.mem_iff, Bool.not_eq_true]

end GuidedJson.Pattern
