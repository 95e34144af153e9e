import GuidedJson.Pattern.Syntax
import Mathlib.Algebra.Group.Nat.Defs
import Mathlib.Tactic.Common

/-!
# Reading patterns

What the reader makes of a text depends on what follows it only by the sign of a repetition. So a
text is read in front of any rest that does not begin with such a sign, and texts one after the
other are read as what they are read as by themselves. Fuel for a text is five times its length: a
group takes four steps to its first part.
-/

namespace GuidedJson.Pattern

/-! ## Repetitions -/

/-- Whether a text does not begin with the sign of a repetition. -/
def Stops : List Char → Prop
  | [] => True
  | c :: _ => c ≠ '*' ∧ c ≠ '+' ∧ c ≠ '?' ∧ c ≠ '\x7b'

theorem stops_cons {c : Char} (h : c ∉ ['*', '+', '?', '\x7b']) (cs : List Char) :
    Stops (c :: cs) := by
  simpa [Stops] using h

theorem stops_append {cs ds : List Char} (hcs : Stops cs) (hds : Stops ds) : Stops (cs ++ ds) := by
  cases cs with
  | nil => exact hds
  | cons c cs => exact hcs

theorem stops_append_of_ne_nil {cs ds : List Char} (hcs : Stops cs) (hne : cs ≠ []) :
    Stops (cs ++ ds) := by
  cases cs with
  | nil => exact absurd rfl hne
  | cons c cs => exact hcs

theorem dropLazy_of_stops {rest : List Char} (h : Stops rest) : dropLazy rest = rest := by
  cases rest with
  | nil => rfl
  | cons c rest =>
    unfold dropLazy
    split
    · rename_i heq
      exact absurd (List.cons.inj heq).1 h.2.2.1
    · rfl

theorem readRepetition_of_stops {p : Syntax} {rest : List Char} (h : Stops rest) :
    readRepetition p rest = .ok (p, rest) := by
  cases rest with
  | nil => rfl
  | cons c rest =>
    obtain ⟨hstar, hplus, hask, hbrace⟩ := h
    unfold readRepetition
    split
    · rename_i heq
      exact absurd (List.cons.inj heq).1 hstar
    · rename_i heq
      exact absurd (List.cons.inj heq).1 hplus
    · rename_i heq
      exact absurd (List.cons.inj heq).1 hask
    · rename_i heq
      exact absurd (List.cons.inj heq).1 hbrace
    · rfl

/-- Whether a text is read as a repetition between two bounds. -/
def Quantifies (q : List Char) (least : Nat) (most : Option Nat) : Prop :=
  ∀ (p : Syntax) (rest : List Char), Stops rest →
    readRepetition p (q ++ rest) = .ok (.repeated p least most, rest)

theorem quantifies_star : Quantifies ['*'] 0 none := by
  intro p rest h
  show Except.ok (Syntax.repeated p 0 none, dropLazy rest) = _
  rw [dropLazy_of_stops h]

theorem quantifies_plus : Quantifies ['+'] 1 none := by
  intro p rest h
  show Except.ok (Syntax.repeated p 1 none, dropLazy rest) = _
  rw [dropLazy_of_stops h]

theorem quantifies_question : Quantifies ['?'] 0 (some 1) := by
  intro p rest h
  show Except.ok (Syntax.repeated p 0 (some 1), dropLazy rest) = _
  rw [dropLazy_of_stops h]

/-! ## Numbers -/

theorem isDecimal_iff {c : Char} : isDecimal c = true ↔ c.isDigit = true := by
  simp only [isDecimal, Char.isDigit, Bool.and_eq_true, decide_eq_true_eq, Char.le_def,
    UInt32.le_iff_toNat_le, ge_iff_le]

section Digits

variable {ds : List Char} {c : Char} {rest : List Char}

variable (rest) in
theorem takeWhile_digits (hds : ∀ d ∈ ds, isDecimal d = true) (hc : isDecimal c = false) :
    (ds ++ c :: rest).takeWhile isDecimal = ds ∧
      (ds ++ c :: rest).dropWhile isDecimal = c :: rest := by
  rw [List.takeWhile_append_of_pos hds, List.dropWhile_append_of_pos hds]
  simp [hc]

theorem isDecimal_of_mem_toDigits {n : Nat} {d : Char} (h : d ∈ Nat.toDigits 10 n) :
    isDecimal d = true :=
  isDecimal_iff.2 (Nat.isDigit_of_mem_toDigits (by decide) (by decide) h)

theorem readNumber?_toDigits {n : Nat} (hc : isDecimal c = false) :
    readNumber? (Nat.toDigits 10 n ++ c :: rest) = some (n, c :: rest) := by
  obtain ⟨htake, hdrop⟩ := takeWhile_digits rest
    (fun _ h => isDecimal_of_mem_toDigits (n := n) h) hc
  have hvalue : (Nat.toDigits 10 n).foldl (fun n c => 10 * n + (c.toNat - 48)) 0 = n :=
    Nat.ofDigitChars_ten_toDigits
  unfold readNumber?
  rw [htake, hdrop]
  cases hd : Nat.toDigits 10 n with
  | nil => exact absurd hd Nat.toDigits_ne_nil
  | cons d ds => rw [hd] at hvalue; simp only [hvalue]

theorem length_toDigits_le {n : Nat} (h : n < 10 ^ Text.digitLimit) :
    (Nat.toDigits 10 n).length ≤ Text.digitLimit :=
  (Nat.length_toDigits_le_iff (by decide) (by decide)).2 h

theorem readBound_toDigits {n : Nat} (hn : n < 10 ^ Text.digitLimit) (hc : isDecimal c = false) :
    readBound (Nat.toDigits 10 n ++ c :: rest) = .ok (some n, c :: rest) := by
  have hcount : (Nat.toDigits 10 n ++ c :: rest).length - (c :: rest).length ≤ Text.digitLimit := by
    rw [List.length_append, Nat.add_sub_cancel]
    exact length_toDigits_le hn
  rw [readBound, readNumber?_toDigits hc]
  simp only [if_pos hcount]

theorem readBound_nil (hc : isDecimal c = false) :
    readBound (c :: rest) = .ok (none, c :: rest) := by
  rw [readBound, readNumber?]
  simp [hc]

end Digits

/-- Bounds are read behind a brace. -/
theorem readRepetition_brace {p : Syntax} {body rest : List Char} {least : Nat} {most : Option Nat}
    (hbounds : readBounds body = .ok ((least, most), rest)) (h : Stops rest) :
    readRepetition p ('\x7b' :: body) = .ok (.repeated p least most, rest) := by
  rw [readRepetition]
  simp only [bind, Except.bind, hbounds, dropLazy_of_stops h]
  rfl

/-- The text of a number in braces. -/
def inBraces (least : Nat) (most : List Char) : List Char :=
  '\x7b' :: Nat.toDigits 10 least ++ ',' :: most ++ ['\x7d']

theorem quantifies_inBraces {least most : Nat} (hleast : least < 10 ^ Text.digitLimit)
    (hmost : most < 10 ^ Text.digitLimit) :
    Quantifies (inBraces least (Nat.toDigits 10 most)) least (some most) := by
  intro p rest h
  have hbounds : readBounds (Nat.toDigits 10 least ++
      ',' :: (Nat.toDigits 10 most ++ '\x7d' :: rest)) = .ok ((least, some most), rest) := by
    rw [readBounds, readBound_toDigits hleast (by decide)]
    simp only [bind, Except.bind, readBound_toDigits hmost (by decide : isDecimal '\x7d' = false)]
    rfl
  have htext : inBraces least (Nat.toDigits 10 most) ++ rest =
      '\x7b' :: (Nat.toDigits 10 least ++ ',' :: (Nat.toDigits 10 most ++ '\x7d' :: rest)) := by
    simp [inBraces]
  rw [htext]
  exact readRepetition_brace hbounds h

theorem quantifies_inBraces_nil {least : Nat} (hleast : least < 10 ^ Text.digitLimit) :
    Quantifies (inBraces least []) least none := by
  intro p rest h
  have hbounds : readBounds (Nat.toDigits 10 least ++ ',' :: '\x7d' :: rest)
      = .ok ((least, none), rest) := by
    rw [readBounds, readBound_toDigits hleast (by decide)]
    simp only [bind, Except.bind, readBound_nil (by decide : isDecimal '\x7d' = false)]
    rfl
  have htext : inBraces least [] ++ rest =
      '\x7b' :: (Nat.toDigits 10 least ++ ',' :: '\x7d' :: rest) := by
    simp [inBraces]
  rw [htext]
  exact readRepetition_brace hbounds h

theorem quantifies_exactly {n : Nat} (hn : n < 10 ^ Text.digitLimit) :
    Quantifies ('\x7b' :: Nat.toDigits 10 n ++ ['\x7d']) n (some n) := by
  intro p rest h
  have hbounds : readBounds (Nat.toDigits 10 n ++ '\x7d' :: rest) = .ok ((n, some n), rest) := by
    rw [readBounds, readBound_toDigits hn (by decide)]
    rfl
  have htext : '\x7b' :: Nat.toDigits 10 n ++ ['\x7d'] ++ rest =
      '\x7b' :: (Nat.toDigits 10 n ++ '\x7d' :: rest) := by
    simp
  rw [htext]
  exact readRepetition_brace hbounds h

/-! ## Parts -/

/-- Whether a text is read as a part that is no group, up to its repetitions. -/
structure Atom (cs : List Char) (p : Syntax) : Prop where
  ne_nil : cs ≠ []
  stops : Stops cs
  not_group : cs.head? ≠ some '('
  read : ∀ rest, readAtom (cs ++ rest) = readRepetitions p rest

/-- Whether a text is read as one part in front of any rest that repeats nothing. -/
structure ReadsPart (cs : List Char) (p : Syntax) : Prop where
  ne_nil : cs ≠ []
  stops : Stops cs
  read : ∀ rest fuel, Stops rest → 5 * cs.length ≤ fuel + 3 →
    readPart fuel (cs ++ rest) = .ok (p, rest)

theorem readPart_of_not_group {fuel : Nat} {cs : List Char} (h : cs.head? ≠ some '(') :
    readPart (fuel + 1) cs = readAtom cs := by
  unfold readPart
  split
  · simp at h
  · simp at h
  · simp at h
  · rfl

theorem Atom.readPart_append {cs : List Char} {p : Syntax} (h : Atom cs p) (rest : List Char)
    {fuel : Nat} (hfuel : 0 < fuel) : readPart fuel (cs ++ rest) = readRepetitions p rest := by
  obtain ⟨fuel, rfl⟩ : ∃ n, fuel = n + 1 := ⟨fuel - 1, by omega⟩
  have hhead : (cs ++ rest).head? ≠ some '(' := by
    have hnot := h.not_group
    cases cs with
    | nil => exact absurd rfl h.ne_nil
    | cons c cs => exact hnot
  rw [readPart_of_not_group hhead, h.read]

theorem Atom.readsPart {cs : List Char} {p : Syntax} (h : Atom cs p) : ReadsPart cs p := by
  refine ⟨h.ne_nil, h.stops, ?_⟩
  intro rest fuel hrest hfuel
  have hlen := List.length_pos_iff.2 h.ne_nil
  rw [h.readPart_append rest (by omega), readRepetitions, readRepetition_of_stops hrest]
  exact readRepetition_of_stops hrest

theorem Atom.quantified {cs q : List Char} {p : Syntax} {least : Nat} {most : Option Nat}
    (h : Atom cs p) (hq : Quantifies q least most) :
    ReadsPart (cs ++ q) (.repeated p least most) := by
  refine ⟨by simp [h.ne_nil], stops_append_of_ne_nil h.stops h.ne_nil, ?_⟩
  intro rest fuel hrest hfuel
  have hlen := List.length_pos_iff.2 h.ne_nil
  rw [List.length_append] at hfuel
  rw [List.append_assoc, h.readPart_append (q ++ rest) (by omega), readRepetitions, hq p rest hrest]
  exact readRepetition_of_stops hrest

/-! ## Parts one after the other -/

/-- Whether a text is read as some parts, and the rest behind it as by itself. -/
structure Reads (cs : List Char) (parts : List Syntax) : Prop where
  stops : Stops cs
  read : ∀ rest fuel, Stops rest → 5 * cs.length ≤ fuel → ∃ left, fuel ≤ left + 5 * cs.length ∧
    readSequence fuel (cs ++ rest) =
      (readSequence left rest).map fun (more, after) => (parts ++ more, after)

theorem reads_nil : Reads [] [] := by
  refine ⟨trivial, fun rest fuel _ _ => ⟨fuel, Nat.le_add_right _ _, ?_⟩⟩
  rw [List.nil_append]
  cases readSequence fuel rest <;> rfl

theorem Reads.append {cs ds : List Char} {ps qs : List Syntax} (hcs : Reads cs ps)
    (hds : Reads ds qs) : Reads (cs ++ ds) (ps ++ qs) := by
  refine ⟨stops_append hcs.stops hds.stops, ?_⟩
  intro rest fuel hstops hfuel
  rw [List.length_append] at hfuel
  obtain ⟨middle, hmiddle, hfirst⟩ :=
    hcs.read (ds ++ rest) fuel (stops_append hds.stops hstops) (by omega)
  obtain ⟨left, hleft, hsecond⟩ := hds.read rest middle hstops (by omega)
  refine ⟨left, by rw [List.length_append]; omega, ?_⟩
  rw [List.append_assoc, hfirst, hsecond]
  cases readSequence left rest with
  | ok read => simp [Except.map]
  | error fault => rfl

theorem ReadsPart.reads {cs : List Char} {p : Syntax} (h : ReadsPart cs p) : Reads cs [p] := by
  refine ⟨h.stops, ?_⟩
  intro rest fuel hstops hfuel
  have hlen := List.length_pos_iff.2 h.ne_nil
  obtain ⟨fuel, rfl⟩ : ∃ k, fuel = k + 1 := ⟨fuel - 1, by omega⟩
  refine ⟨fuel, by omega, ?_⟩
  rw [readSequence, h.read rest fuel hstops (by omega)]
  dsimp only
  cases readSequence fuel rest <;> rfl

/-- In front of a rest where reading ends, a text is read as its parts. -/
theorem Reads.readSequence_append {cs rest after : List Char} {ps more : List Syntax}
    (h : Reads cs ps) (hstops : Stops rest)
    (hrest : ∀ fuel, 2 ≤ fuel → readSequence fuel rest = .ok (more, after)) {fuel : Nat}
    (hfuel : 5 * cs.length + 2 ≤ fuel) :
    readSequence fuel (cs ++ rest) = .ok (ps ++ more, after) := by
  obtain ⟨left, hleft, hread⟩ := h.read rest fuel hstops (by omega)
  rw [hread, hrest left (by omega)]
  rfl

/-! ## Groups -/

/-- Where alternatives end: at the end of the text or of their group. -/
def Closes (rest : List Char) : Prop := rest = [] ∨ ∃ after, rest = ')' :: after

theorem Closes.stops {rest : List Char} (h : Closes rest) : Stops rest := by
  rcases h with rfl | ⟨after, rfl⟩
  · trivial
  · exact stops_cons (by decide) after

/-- Whether a text is read as alternatives. -/
structure ReadsOptions (cs : List Char) (options : List Syntax) : Prop where
  stops : Stops cs
  read : ∀ rest fuel, Closes rest → 5 * cs.length + 3 ≤ fuel →
    readOptions fuel (cs ++ rest) = .ok (options, rest)

theorem readSequence_of_unreadable {rest : List Char} (h : readAtom rest = .error .unreadable)
    (hhead : rest.head? ≠ some '(') :
    ∀ fuel, 2 ≤ fuel → readSequence fuel rest = .ok ([], rest) := by
  intro fuel hfuel
  obtain ⟨fuel, rfl⟩ : ∃ k, fuel = k + 2 := ⟨fuel - 2, by omega⟩
  rw [readSequence, readPart_of_not_group hhead, h]

theorem Closes.readSequence {rest : List Char} (h : Closes rest) :
    ∀ fuel, 2 ≤ fuel → readSequence fuel rest = .ok ([], rest) := by
  rcases h with rfl | ⟨after, rfl⟩
  · exact readSequence_of_unreadable rfl (by simp)
  · exact readSequence_of_unreadable rfl (by simp)

theorem Reads.options {cs : List Char} {ps : List Syntax} (h : Reads cs ps) :
    ReadsOptions cs [.sequence ps] := by
  refine ⟨h.stops, ?_⟩
  intro rest fuel hrest hfuel
  obtain ⟨fuel, rfl⟩ : ∃ k, fuel = k + 1 := ⟨fuel - 1, by omega⟩
  rw [readOptions, h.readSequence_append hrest.stops hrest.readSequence (by omega),
    List.append_nil]
  rcases hrest with rfl | ⟨after, rfl⟩ <;> rfl

theorem Reads.cons_options {cs ds : List Char} {ps : List Syntax} {options : List Syntax}
    (hcs : Reads cs ps) (hds : ReadsOptions ds options) :
    ReadsOptions (cs ++ '|' :: ds) (.sequence ps :: options) := by
  refine ⟨stops_append hcs.stops (stops_cons (by decide) ds), ?_⟩
  intro rest fuel hrest hfuel
  rw [List.length_append, List.length_cons] at hfuel
  obtain ⟨fuel, rfl⟩ : ∃ k, fuel = k + 1 := ⟨fuel - 1, by omega⟩
  have hend : ∀ fuel, 2 ≤ fuel →
      readSequence fuel ('|' :: (ds ++ rest)) = .ok ([], '|' :: (ds ++ rest)) :=
    readSequence_of_unreadable rfl (by simp)
  have hbar : Stops ('|' :: (ds ++ rest)) := stops_cons (by decide) _
  rw [List.append_assoc, List.cons_append, readOptions,
    hcs.readSequence_append hbar hend (by omega), List.append_nil]
  simp only [bind, Except.bind, hds.read rest fuel hrest (by omega)]
  rfl

/-- A parenthesis opens a group. -/
theorem readPart_open {cs : List Char} (h : Stops cs) (rest : List Char) (fuel : Nat) :
    readPart (fuel + 1) ('(' :: (cs ++ ')' :: rest)) =
      readGroup fuel .none .none (cs ++ ')' :: rest) := by
  cases cs with
  | nil => rfl
  | cons c cs =>
    -- Without a question mark there are neither modes nor looks.
    have hc : c ≠ '?' := h.2.2.1
    rw [readPart]
    · intro _ _ heq
      exact hc (List.cons.inj heq).1
    · intro _ heq
      exact hc (List.cons.inj heq).1

/-- A group is read as its alternatives, before what may repeat it. -/
theorem ReadsOptions.readPart_group {cs : List Char} {options : List Syntax}
    (h : ReadsOptions cs options) (rest : List Char) {fuel : Nat}
    (hfuel : 5 * cs.length + 5 ≤ fuel) : readPart fuel ('(' :: cs ++ ')' :: rest) =
      readRepetition (.group .none .none options) rest := by
  obtain ⟨fuel, rfl⟩ : ∃ k, fuel = k + 2 := ⟨fuel - 2, by omega⟩
  rw [List.cons_append, readPart_open h.stops, readGroup,
    h.read (')' :: rest) fuel (.inr ⟨rest, rfl⟩) (by omega)]
  rfl

theorem ReadsOptions.group {cs : List Char} {options : List Syntax} (h : ReadsOptions cs options) :
    ReadsPart ('(' :: cs ++ [')']) (.group .none .none options) := by
  refine ⟨by simp, stops_cons (by decide) _, ?_⟩
  intro rest fuel hrest hfuel
  have htext : '(' :: cs ++ [')'] ++ rest = '(' :: cs ++ ')' :: rest := by simp
  simp only [List.length_append, List.length_cons, List.length_nil] at hfuel
  rw [htext, h.readPart_group rest (by omega), readRepetition_of_stops hrest]

theorem ReadsOptions.quantified {cs q : List Char} {options : List Syntax} {least : Nat}
    {most : Option Nat} (h : ReadsOptions cs options) (hq : Quantifies q least most) :
    ReadsPart ('(' :: cs ++ [')'] ++ q) (.repeated (.group .none .none options) least most) := by
  refine ⟨by simp, stops_cons (by decide) _, ?_⟩
  intro rest fuel hrest hfuel
  have htext : '(' :: cs ++ [')'] ++ q ++ rest = '(' :: cs ++ ')' :: (q ++ rest) := by simp
  simp only [List.length_append, List.length_cons, List.length_nil] at hfuel
  rw [htext, h.readPart_group _ (by omega), hq _ rest hrest]

/-- A text that is read as alternatives is a pattern. -/
theorem ReadsOptions.read_eq {s : String} {options : List Syntax}
    (h : ReadsOptions s.toList options) :
    Syntax.read s = .ok (.group ((Syntax.lastModesOf options).getD .none) .none options) := by
  have hread := h.read [] (5 * s.toList.length + 5) (.inl rfl) (by omega)
  rw [List.append_nil] at hread
  rw [Syntax.read]
  simp only [hread, bind, Except.bind]
  rfl

end GuidedJson.Pattern
