import GuidedJson.Proofs.Pattern.Bounds
import GuidedJson.Proofs.Pattern.Denotation

/-!
# Spoiled patterns

A repetition whose bounds cannot be read, or are not in order, spoils the pattern that it stands
in. Where it cannot be read, reading stops in front of the group that is repeated, and nothing but a
part may stand there; where the bounds are not in order, there is a part that has no expression.
Either way the pattern is refused, whatever is written around the repetition.
-/

namespace GuidedJson.Pattern

/-! ## Parts without an expression -/

/-- Whether a part has no expression, in any modes and with any room. -/
def Syntax.Barren (p : Syntax) : Prop :=
  ∀ modes space, ∃ fault, Regex.ofSyntax modes space p = .error fault

section Barren

variable {p q : Syntax} {ps : List Syntax}

theorem barren_of_lt {least most : Nat} (h : most < least) (p : Syntax) :
    (Syntax.repeated p least (some most)).Barren := by
  intro modes space
  rw [Regex.ofSyntax]
  cases Regex.ofSyntax modes (0, 0) p with
  | error fault => exact ⟨fault, rfl⟩
  | ok r => exact ⟨_, if_pos h⟩

theorem Syntax.Barren.repeated (h : p.Barren) (least : Nat) (most : Option Nat) :
    (Syntax.repeated p least most).Barren := by
  intro modes space
  obtain ⟨fault, hfault⟩ := h modes (0, 0)
  rw [Regex.ofSyntax, hfault]
  exact ⟨fault, rfl⟩

/-- Parts one after the other: the first one, whether it looks around or not, then the others. -/
theorem exists_ofParts_cons (modes : Modes) (last : List Regex) (p : Syntax) (ps : List Syntax) :
    ∃ f, Regex.ofParts modes last (p :: ps) = Regex.ofSyntax modes (0, 0) p >>= f ∧
      ∀ r fault, Regex.ofParts modes last ps = .error fault → ∃ fault, f r = .error fault := by
  -- What looks ahead is joined with the parts behind it, and has an equation of its own.
  by_cases hlook : ∃ behind negated part, p = .look behind negated part
  · obtain ⟨behind, negated, part, rfl⟩ := hlook
    rw [Regex.ofParts, Regex.ofSyntax]
    refine ⟨_, rfl, fun r fault hfault => ?_⟩
    cases behind with
    | true => exact ⟨_, rfl⟩
    | false =>
      rw [hfault]
      exact ⟨fault, rfl⟩
  · rw [Regex.ofParts]
    · refine ⟨_, rfl, fun r fault hfault => ?_⟩
      rw [hfault]
      exact ⟨fault, rfl⟩
    · exact fun behind negated part heq => hlook ⟨behind, negated, part, heq⟩

/-- If one of some parts has no expression, all of them have none. -/
theorem exists_ofParts_error (h : ∃ p ∈ ps, p.Barren) (modes : Modes) (last : List Regex) :
    ∃ fault, Regex.ofParts modes last ps = .error fault := by
  induction ps with
  | nil => simp at h
  | cons p ps ih =>
    obtain ⟨f, hf, hrest⟩ := exists_ofParts_cons modes last p ps
    rw [hf]
    cases hp : Regex.ofSyntax modes (0, 0) p with
    | error fault => exact ⟨fault, rfl⟩
    | ok r =>
      rcases (List.exists_mem_cons_iff _ _ _).1 h with hbarren | htail
      · obtain ⟨fault, hfault⟩ := hbarren modes (0, 0)
        cases hp.symm.trans hfault
      · obtain ⟨fault, hfault⟩ := ih htail
        exact hrest r fault hfault

theorem exists_ofOptions_error (h : ∃ p ∈ ps, p.Barren) (modes : Modes) (space : Nat × Nat) :
    ∃ fault, Regex.ofOptions modes space ps = .error fault := by
  induction ps with
  | nil => simp at h
  | cons p ps ih =>
    rw [Regex.ofOptions]
    cases hp : Regex.ofSyntax modes space p with
    | error fault => exact ⟨fault, rfl⟩
    | ok r =>
      rcases (List.exists_mem_cons_iff _ _ _).1 h with hbarren | htail
      · obtain ⟨fault, hfault⟩ := hbarren modes space
        cases hp.symm.trans hfault
      · obtain ⟨fault, hfault⟩ := ih htail
        rw [hfault]
        exact ⟨fault, rfl⟩

theorem barren_sequence (h : ∃ p ∈ ps, p.Barren) : (Syntax.sequence ps).Barren := by
  intro modes space
  rw [Regex.ofSyntax]
  cases Regex.room (.sequence ps) with
  | error fault => exact ⟨fault, rfl⟩
  | ok room =>
    simp only [bind, Except.bind]
    split
    · exact ⟨_, rfl⟩
    · obtain ⟨fault, hfault⟩ := exists_ofParts_error h modes (Regex.padding space.2)
      rw [hfault]
      exact ⟨fault, rfl⟩

theorem barren_group (h : ∃ p ∈ ps, p.Barren) (on off : Modes) :
    (Syntax.group on off ps).Barren := by
  intro modes space
  obtain ⟨fault, hfault⟩ := exists_ofOptions_error h (modes.enter on off) space
  rw [Regex.ofSyntax, hfault]
  exact ⟨fault, rfl⟩

/-- A part that has no expression has none when it is repeated. -/
theorem Syntax.Barren.of_readRepetition (h : p.Barren) {cs rest : List Char}
    (hread : readRepetition p cs = .ok (q, rest)) : q.Barren := by
  unfold readRepetition at hread
  split at hread
  · cases hread
    exact h.repeated _ _
  · cases hread
    exact h.repeated _ _
  · cases hread
    exact h.repeated _ _
  next body =>
    cases hbounds : readBounds body with
    | error fault =>
      rw [hbounds] at hread
      cases hread
    | ok read =>
      rw [hbounds] at hread
      cases hread
      exact h.repeated _ _
  · cases hread
    exact h

end Barren

/-! ## Reading that comes to nothing -/

/-- Whether neither a group nor an alternative ends where a text begins. -/
def Stuck : List Char → Prop
  | [] => False
  | c :: _ => c ≠ ')' ∧ c ≠ '|'

/-- Whether what was read comes to nothing: reading has failed, it is stuck, or a part has no
expression. -/
def Futile (read : Except PatternFault (List Syntax × List Char)) : Prop :=
  ∀ ps rest, read = .ok (ps, rest) → Stuck rest ∨ ∃ p ∈ ps, p.Barren

section Futile

variable {fuel : Nat} {cs ds : List Char} {ps : List Syntax} {p : Syntax}

theorem futile_error {fault : PatternFault} : Futile (.error fault) := nofun

/-- Parts in front do not help. -/
theorem Futile.map_append {read : Except PatternFault (List Syntax × List Char)} (h : Futile read)
    (ps : List Syntax) : Futile (read.map fun (more, after) => (ps ++ more, after)) := by
  cases read with
  | error fault => exact futile_error
  | ok read =>
    obtain ⟨more, after⟩ := read
    rintro _ _ ⟨⟩
    refine (h more after rfl).imp_right ?_
    rintro ⟨p, hp, hbarren⟩
    exact ⟨p, List.mem_append_right _ hp, hbarren⟩

/-- Parts come to nothing where the first one cannot be read, or has no expression. -/
theorem futile_readSequence (hstuck : Stuck cs)
    (h : ∀ p rest, readPart fuel cs = .ok (p, rest) → p.Barren) :
    Futile (readSequence (fuel + 1) cs) := by
  rw [readSequence]
  cases hpart : readPart fuel cs with
  | error fault =>
    cases fault with
    -- The sequence ends in front of a part that cannot be read.
    | unreadable =>
      rintro _ _ ⟨⟩
      exact .inl hstuck
    | _ => exact futile_error
  | ok read =>
    obtain ⟨p, rest⟩ := read
    dsimp only
    cases readSequence fuel rest with
    | error fault => exact futile_error
    | ok read =>
      rintro _ _ ⟨⟩
      exact .inr ⟨p, List.mem_cons_self, h p rest hpart⟩

/-- Alternatives come to nothing where the parts of the first one do. -/
theorem futile_readOptions (h : Futile (readSequence fuel cs)) :
    Futile (readOptions (fuel + 1) cs) := by
  rw [readOptions]
  cases hread : readSequence fuel cs with
  | error fault => exact futile_error
  | ok read =>
    obtain ⟨ps, rest⟩ := read
    have hread := h ps rest hread
    simp only [bind, Except.bind]
    split
    next heq =>
      -- Another alternative follows, so reading is not stuck.
      obtain ⟨rfl, rfl⟩ := Prod.mk.inj heq
      have hbarren := barren_sequence (hread.resolve_left fun hstuck => hstuck.2 rfl)
      cases readOptions fuel _ with
      | error fault => exact futile_error
      | ok read =>
        rintro _ _ ⟨⟩
        exact .inr ⟨_, List.mem_cons_self, hbarren⟩
    next heq =>
      obtain ⟨rfl, rfl⟩ := Prod.mk.inj heq
      rintro _ _ ⟨⟩
      exact hread.imp_right fun hbarren => ⟨_, List.mem_singleton_self _, barren_sequence hbarren⟩

end Futile

/-! ## Spoiled texts -/

/-- Whether a text comes to nothing, whatever follows it. -/
structure Spoils (cs : List Char) : Prop where
  ne_nil : cs ≠ []
  stops : Stops cs
  read : ∀ rest fuel, 5 * cs.length ≤ fuel → Futile (readSequence fuel (cs ++ rest))

/-- Whether a text is read as some parts, or comes to nothing. -/
def Settled (cs : List Char) : Prop := (∃ ps, Reads cs ps) ∨ Spoils cs

/-- Whether a text comes to nothing as alternatives. -/
structure SpoilsOptions (cs : List Char) : Prop where
  stops : Stops cs
  read : ∀ rest fuel, 5 * cs.length + 1 ≤ fuel → Futile (readOptions fuel (cs ++ rest))

/-- Whether what a text repeats has no expression, if the text is read as a repetition at all. -/
def Misrepeats (q : List Char) : Prop :=
  ∀ p rest r after, readRepetition p (q ++ rest) = .ok (r, after) → r.Barren

section Texts

variable {cs ds q : List Char} {ps os : List Syntax}

theorem Spoils.append (h : Spoils cs) (ds : List Char) : Spoils (cs ++ ds) := by
  refine ⟨by simp [h.ne_nil], stops_append_of_ne_nil h.stops h.ne_nil, ?_⟩
  intro rest fuel hfuel
  rw [List.length_append] at hfuel
  rw [List.append_assoc]
  exact h.read (ds ++ rest) fuel (by omega)

theorem Reads.append_spoils (hcs : Reads cs ps) (hds : Spoils ds) : Spoils (cs ++ ds) := by
  refine ⟨by simp [hds.ne_nil], stops_append hcs.stops hds.stops, ?_⟩
  intro rest fuel hfuel
  rw [List.length_append] at hfuel
  have hstops : Stops (ds ++ rest) := stops_append_of_ne_nil hds.stops hds.ne_nil
  -- Behind the first text there is fuel enough for the second one.
  obtain ⟨left, hleft, hread⟩ := hcs.read (ds ++ rest) fuel hstops (by omega)
  rw [List.append_assoc, hread]
  exact (hds.read rest left (by omega)).map_append ps

theorem Spoils.options (h : Spoils cs) : SpoilsOptions cs := by
  refine ⟨h.stops, ?_⟩
  intro rest fuel hfuel
  obtain ⟨fuel, rfl⟩ : ∃ k, fuel = k + 1 := ⟨fuel - 1, by omega⟩
  exact futile_readOptions (h.read rest fuel (by omega))

/-- Alternatives in front do not help. -/
theorem Reads.cons_spoils (hcs : Reads cs ps) (hds : SpoilsOptions ds) :
    SpoilsOptions (cs ++ '|' :: ds) := by
  refine ⟨stops_append hcs.stops (stops_cons (by decide) ds), ?_⟩
  intro rest fuel hfuel
  rw [List.length_append, List.length_cons] at hfuel
  obtain ⟨fuel, rfl⟩ : ∃ k, fuel = k + 1 := ⟨fuel - 1, by omega⟩
  have hend : ∀ fuel, 2 ≤ fuel →
      readSequence fuel ('|' :: (ds ++ rest)) = .ok ([], '|' :: (ds ++ rest)) :=
    readSequence_of_unreadable rfl (by simp)
  have hbar : Stops ('|' :: (ds ++ rest)) := stops_cons (by decide) _
  rw [List.append_assoc, List.cons_append, readOptions,
    hcs.readSequence_append hbar hend (by omega)]
  have hfutile := hds.read rest fuel (by omega)
  cases hread : readOptions fuel (ds ++ rest) with
  | error fault =>
    simp only [bind, Except.bind, hread]
    exact futile_error
  | ok read =>
    obtain ⟨os, after⟩ := read
    simp only [bind, Except.bind, hread]
    rintro _ _ ⟨⟩
    refine (hfutile os after hread).imp_right ?_
    rintro ⟨p, hp, hbarren⟩
    exact ⟨p, List.mem_cons_of_mem _ hp, hbarren⟩

theorem stuck_open (cs : List Char) : Stuck ('(' :: cs) := ⟨by decide, by decide⟩

/-- A group of spoiled alternatives is spoiled. -/
theorem SpoilsOptions.group (h : SpoilsOptions cs) : Spoils ('(' :: cs ++ [')']) := by
  refine ⟨by simp, stops_cons (by decide) _, ?_⟩
  intro rest fuel hfuel
  have htext : '(' :: cs ++ [')'] ++ rest = '(' :: (cs ++ ')' :: rest) := by simp
  simp only [List.length_append, List.length_cons, List.length_nil] at hfuel
  obtain ⟨fuel, rfl⟩ : ∃ k, fuel = k + 3 := ⟨fuel - 3, by omega⟩
  rw [htext]
  refine futile_readSequence (stuck_open _) fun p after hpart => ?_
  have hfutile := h.read (')' :: rest) fuel (by omega)
  rw [readPart_open h.stops, readGroup] at hpart
  cases hread : readOptions fuel (cs ++ ')' :: rest) with
  | error fault =>
    rw [hread] at hpart
    cases hpart
  | ok read =>
    obtain ⟨options, behind⟩ := read
    rw [hread] at hpart
    simp only [bind, Except.bind] at hpart
    split at hpart
    next heq =>
      -- The group ends where its alternatives do, so reading them was not stuck.
      obtain ⟨rfl, rfl⟩ := Prod.mk.inj heq
      have hbarren := (hfutile _ _ hread).resolve_left fun hstuck => hstuck.1 rfl
      exact (barren_group hbarren _ _).of_readRepetition hpart
    next => cases hpart

/-- A group is spoiled by a repetition. -/
theorem ReadsOptions.misrepeated (h : ReadsOptions cs os) (hq : Misrepeats q) :
    Spoils ('(' :: cs ++ [')'] ++ q) := by
  refine ⟨by simp, stops_cons (by decide) _, ?_⟩
  intro rest fuel hfuel
  have htext : '(' :: cs ++ [')'] ++ q ++ rest = '(' :: cs ++ ')' :: (q ++ rest) := by simp
  simp only [List.length_append, List.length_cons, List.length_nil] at hfuel
  obtain ⟨fuel, rfl⟩ : ∃ k, fuel = k + 1 := ⟨fuel - 1, by omega⟩
  rw [htext]
  refine futile_readSequence (stuck_open _) fun p after hpart => ?_
  rw [h.readPart_group _ (by omega)] at hpart
  exact hq _ _ _ _ hpart

/-- A text that is spoiled by one of its pieces. -/
theorem Settled.append_spoils (hcs : Settled cs) (hds : Spoils ds) : Spoils (cs ++ ds) := by
  rcases hcs with ⟨ps, hps⟩ | hcs
  · exact hps.append_spoils hds
  · exact hcs.append ds

/-- Alternatives that are spoiled by one of them. -/
theorem Settled.cons_spoils (hcs : Settled cs) (hds : SpoilsOptions ds) :
    SpoilsOptions (cs ++ '|' :: ds) := by
  rcases hcs with ⟨ps, hps⟩ | hcs
  · exact hps.cons_spoils hds
  · exact (hcs.append _).options

/-- A spoiled text is no pattern. -/
theorem SpoilsOptions.read_eq_error {s : String} (h : SpoilsOptions s.toList) :
    ∃ fault, Regex.read s = .error fault := by
  have hfutile := h.read [] (5 * s.toList.length + 5) (by omega)
  rw [List.append_nil] at hfutile
  rw [Regex.read, Syntax.read]
  cases hread : readOptions (5 * s.toList.length + 5) s.toList with
  | error fault => exact ⟨fault, rfl⟩
  | ok read =>
    obtain ⟨options, rest⟩ := read
    simp only [bind, Except.bind]
    cases rest with
    | cons c rest => exact ⟨_, rfl⟩
    | nil =>
      have hbarren := barren_group ((hfutile _ _ hread).resolve_left id)
        ((Syntax.lastModesOf options).getD .none) .none
      simp only [pure, Except.pure]
      split
      · exact ⟨_, rfl⟩
      · cases Regex.room (.group ((Syntax.lastModesOf options).getD .none) .none options) with
        | error fault => exact ⟨fault, rfl⟩
        | ok space => exact hbarren .none space

/-- A spoiled pattern spells nothing. -/
theorem Spoils.not_spells {s : String} {l : Language Char} (h : Spoils s.toList) :
    ¬ Spells s.toList l := by
  intro hspells
  obtain ⟨r, hr, -⟩ := hspells.options.exists_read
  obtain ⟨fault, hfault⟩ := h.options.read_eq_error
  rw [hr] at hfault
  cases hfault

theorem Spells.settled {l : Language Char} (h : Spells cs l) : Settled cs := by
  obtain ⟨parts, -, hreads, -⟩ := h
  exact .inl ⟨parts, hreads⟩

theorem misrepeats_brace {body : List Char}
    (h : ∀ rest, (∃ fault, readBounds (body ++ rest) = .error fault) ∨
      ∃ least most after, readBounds (body ++ rest) = .ok ((least, some most), after) ∧
        most < least) : Misrepeats ('\x7b' :: body) := by
  intro p rest r after hread
  rw [List.cons_append, readRepetition] at hread
  rcases h rest with ⟨fault, hfault⟩ | ⟨least, most, behind, hbounds, hlt⟩
  · rw [hfault] at hread
    cases hread
  · rw [hbounds] at hread
    cases hread
    exact barren_of_lt hlt p

end Texts

/-! ## Braces -/

section Braces

variable {low high : List Char}

/-- Bounds in order are read as they are. -/
theorem quantifies_braced {s : Span} (h : Span.between? (bound? low) (bound? high) = some s) :
    Quantifies ('\x7b' :: (low ++ ',' :: (high ++ ['\x7d']))) s.least s.most := by
  obtain ⟨a, ha, hb, hleast⟩ := Span.between?_eq_some h
  intro p rest hstops
  have htext : '\x7b' :: (low ++ ',' :: (high ++ ['\x7d'])) ++ rest =
      '\x7b' :: (low ++ ',' :: (high ++ '\x7d' :: rest)) := by simp
  rw [htext, hleast]
  exact readRepetition_brace (readBounds_of_bound? ha hb) hstops

/-- Bounds out of order spoil what they repeat, and so does what is no bound. -/
theorem misrepeats_braced (h : Span.between? (bound? low) (bound? high) = none)
    (hlow : bound? low = none → Boundless low) (hhigh : bound? high = none → Boundless high) :
    Misrepeats ('\x7b' :: (low ++ ',' :: (high ++ ['\x7d']))) := by
  refine misrepeats_brace fun rest => ?_
  have htext : low ++ ',' :: (high ++ ['\x7d']) ++ rest =
      low ++ ',' :: (high ++ '\x7d' :: rest) := by simp
  rw [htext]
  cases ha : bound? low with
  | none => exact .inl ((hlow ha).readBounds_low _)
  | some a =>
    cases hb : bound? high with
    | none => exact .inl ((hhigh hb).readBounds_high (isDecimal_of_bound? ha) rest)
    | some b =>
      rw [ha, hb] at h
      obtain ⟨n, hn, hlt⟩ := Span.of?_eq_none h
      obtain rfl : b = some n := hn
      exact .inr ⟨_, n, rest, readBounds_of_bound? ha hb, hlt⟩

end Braces

end GuidedJson.Pattern
