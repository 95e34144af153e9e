import GuidedJson.Proofs.Grammar.Outcomes
import GuidedJson.Proofs.Schema.Inhabited
import GuidedJson.Proofs.Schema.Viability

/-!
# Grammars that a vocabulary can spell

A schema whose bounds are in order is compiled exactly if tokens of the vocabulary, one after the
other, make the octets of a text that its pattern accepts. Otherwise it is the vocabulary that is
refused: there is always a text to spell.
-/

namespace GuidedJson

open Automaton (Machine)
open Pattern (Regex)
open Text (Utf8.encode)

/-! ## Tokens that put out octets -/

namespace Vocabulary

variable {v : Vocabulary}

/-- Tokens of the table that are neither stop tokens nor special, one after the other. -/
def Ordinary (v : Vocabulary) (ids : List Nat) : Prop :=
  ∀ i ∈ ids, i < v.size ∧ i ∉ v.stop ∧ v.isSpecial i = false

/-- Whether ordinary tokens spell a text that a pattern accepts. -/
def CanSpell (v : Vocabulary) (p : String) : Prop :=
  ∃ ids, v.Ordinary ids ∧ ∃ w, v.spell ids = Utf8.encode w ∧ Pattern.Accepts p w

theorem Matchable.ordinary {ids : List Nat} (h : v.Matchable ids) : v.Ordinary ids := by
  intro i hi
  obtain ⟨hsize, hstop, hoctets⟩ := isMatchable_iff.1 (h i hi)
  refine ⟨hsize, hstop, Bool.eq_false_iff.2 fun hspecial => ?_⟩
  exact hoctets (octets_of_isSpecial hspecial)

/-- Tokens without octets count for nothing: what ordinary tokens spell is spelled by those of them
that are matchable. -/
theorem Ordinary.exists_matchable {ids : List Nat} (h : v.Ordinary ids) :
    ∃ js, v.Matchable js ∧ v.spell js = v.spell ids := by
  induction ids with
  | nil => exact ⟨[], by simp [Matchable], rfl⟩
  | cons i ids ih =>
    obtain ⟨⟨hsize, hstop, -⟩, hids⟩ := List.forall_mem_cons.1 h
    obtain ⟨js, hjs, hspell⟩ := ih hids
    by_cases hoctets : v.octets i = []
    · exact ⟨js, hjs, by rw [hspell, spell_cons, hoctets, List.nil_append]⟩
    · refine ⟨i :: js, matchable_cons.2 ⟨isMatchable_iff.2 ⟨hsize, hstop, hoctets⟩, hjs⟩, ?_⟩
      rw [spell_cons, spell_cons, hspell]

theorem canSpell_iff {p : String} : v.CanSpell p ↔
    ∃ ids, v.Matchable ids ∧ ∃ w, v.spell ids = Utf8.encode w ∧ Pattern.Accepts p w := by
  constructor
  · rintro ⟨ids, hids, hw⟩
    obtain ⟨js, hjs, hspell⟩ := hids.exists_matchable
    exact ⟨js, hjs, hspell ▸ hw⟩
  · rintro ⟨ids, hids, hw⟩
    exact ⟨ids, hids.ordinary, hw⟩

end Vocabulary

namespace Grammar

open Schema (IsBound Node)
open Value (Proper)

/-! ## Patterns of canonical texts -/

section Patterns

variable {n : Node} {indent : Option Int}

theorem carries_isBound (h : n.WellFormed) : ∀ k ∈ n.parts, k.Carries IsBound fun _ => True := by
  intro k hk
  have hsound := h k hk
  cases k with
  | text | array => exact ⟨hsound.lower, hsound.upper⟩
  | object => exact fun _ _ => trivial
  | _ => trivial

theorem canonical_of_isBound (v : Value) (h : IsBound v) : v.canonical false = v := by
  rcases h with rfl | ⟨k, rfl⟩ <;> rfl

theorem patternAt_settle_canonical (hn : n.WellFormed) :
    (n.settle (Value.canonical false)).patternAt indent 0 = n.patternAt indent 0 :=
  Node.patternAt_settle
    (fun k hk => (carries_isBound hn k hk).mono canonical_of_isBound fun _ h => h) indent 0

/-- The pattern of the canonical text of a schema in order is that of the schema. -/
theorem patternOf_eq (hn : n.WellFormed) (h : n.Built Proper Proper) {text : String}
    (htext : n.canonicalText = .ok text) :
    (patternOf ⟨text, indent⟩).result = n.pattern indent := by
  rw [result_patternOf h htext, Node.pattern, Node.pattern, patternAt_settle_canonical hn]

/-- A schema in order that can be printed has a pattern, which spells its texts, unless there is no
white space for its layout. -/
theorem pattern_cases (hn : n.WellFormed) (h : n.Built Proper Proper) {text : String}
    (htext : n.canonicalText = .ok text) (hindent : ∀ k ∈ indent, 0 ≤ k) :
    (n.LaidOut indent 0 → ∃ p, n.pattern indent = .ok p ∧
      Pattern.Spells p.toList (n.texts indent 0)) ∧
    (¬ n.LaidOut indent 0 → n.pattern indent = .error .tooWide) := by
  rw [Node.pattern_of_nonneg hindent]
  -- What is read of the canonical text has the same pattern, and its bounds can be written.
  have hsettled := built_settle_canonical h htext
  have hbounds := hn.settle canonical_of_isBound
  rcases Node.written_patternAt hbounds indent le_rfl with
    ⟨p, hp, -⟩ | ⟨e, herror, ⟨-, k, hk, hhuge⟩ | ⟨rfl, hnone⟩⟩
  · have hlaid : n.LaidOut indent 0 :=
      (Node.laidOut_settle n).1 ((Node.needs_patternAt hsettled le_rfl).result p hp).2
    rw [patternAt_settle_canonical hn] at hp
    exact ⟨fun _ => ⟨p, hp, (Node.written_patternAt hn indent le_rfl).of_eq_ok hp⟩,
      fun hnone => absurd hlaid hnone⟩
  · exact absurd hhuge (Node.not_huge_of_carries (hbounds k hk) (hsettled k hk).2)
  · rw [patternAt_settle_canonical hn] at herror
    exact ⟨fun hlaid => absurd ((Node.laidOut_settle n).2 hlaid) hnone, fun _ => herror⟩

end Patterns

/-! ## Refused vocabularies -/

section Refusals

variable {source : Schema.Source} {v : Vocabulary} {pattern : String} {r : Regex} {w : List Char}

/-- Where there is a text to spell, and no tokens spell one, it is for the vocabulary that there are
no masks. -/
theorem exists_index_eq_error (hreadable : v.checkReadable = .ok ()) (hw : r.Matches w)
    (horigin : Machine.origin ∉ Index.masks (.ofRegex r) (.ofVocabulary v) v) :
    ∃ fault, index (.ofRegex r) v = .error (.vocabulary fault) := by
  have hmade := Machine.made_ofRegex r
  have halive : (Machine.ofRegex r).alive Machine.start = true := by
    obtain ⟨q, hq, hf⟩ := Machine.mem_language_ofRegex.2 hw
    exact hmade.alive_iff.2 ⟨hmade.proper.size_pos, _, hmade.run_final_iff.1 ⟨q, hq, hf⟩⟩
  unfold index
  -- What the index is made of plays no part in the checks.
  generalize Index.masks (.ofRegex r) (.ofVocabulary v) v = found at horigin ⊢
  have hcontains : found.contains Machine.origin = false :=
    Bool.eq_false_iff.2 fun h => horigin (Std.HashMap.contains_iff_mem.1 h)
  simp only [hreadable, halive, hcontains, Bool.not_true, Bool.false_eq_true, if_false, bind,
    Except.bind]
  split
  · exact ⟨_, rfl⟩
  · exact ⟨_, rfl⟩

/-- Tokens lead from the start to an end only if they spell a text. -/
theorem not_mem_masks (hread : Regex.read pattern = .ok r) (hspell : ¬ v.CanSpell pattern) :
    Machine.origin ∉ Index.masks (.ofRegex r) (.ofVocabulary v) v := by
  have hmade := Machine.made_ofRegex r
  rw [Index.mem_masks]
  rintro ⟨-, ids, hids, q, hq, hf⟩
  obtain ⟨w, hw, hmatch⟩ := hmade.walk_final_iff.1 ⟨q, hq, hf⟩
  refine hspell (Vocabulary.canSpell_iff.2 ⟨ids, hids, w, hw, r, hread, ?_⟩)
  exact Machine.mem_language_ofRegex.1 hmatch

/-- A source with texts is compiled, or its vocabulary is refused. -/
theorem exists_compile_eq_error (hpattern : (patternOf source).result = .ok pattern)
    (hreadable : v.checkReadable = .ok ()) (hw : Pattern.Accepts pattern w)
    (hspell : ¬ v.CanSpell pattern) :
    ∃ fault, (compile source v).result = .error (.vocabulary fault) := by
  obtain ⟨r, hread, hw⟩ := hw
  obtain ⟨fault, hindex⟩ := exists_index_eq_error hreadable hw (not_mem_masks hread hspell)
  refine ⟨fault, ?_⟩
  rw [compile, Logged.result_bind_ok hpattern,
    Logged.result_bind_ok (machineOf_eq_ok.2 ⟨r, hread, rfl⟩), Logged.result_bind_error hindex]

/-- Tokens that spell a text of a source, if it is not empty, have masks. -/
theorem exists_compile_of_canSpell (hpattern : (patternOf source).result = .ok pattern)
    (hreadable : v.checkReadable = .ok ()) (hne : ∀ w, Pattern.Accepts pattern w → w ≠ [])
    (hspell : v.CanSpell pattern) : ∃ g, (compile source v).result = .ok g := by
  obtain ⟨ids, hids, w, hw, haccepts⟩ := Vocabulary.canSpell_iff.1 hspell
  obtain ⟨r, hr, hmatch⟩ := haccepts
  refine exists_compile_eq_ok hreadable hids ?_ hw ⟨pattern, r, hpattern, hr, hmatch⟩
  rintro rfl
  have hempty : Utf8.encode [] = Utf8.encode w := hw
  exact hne w ⟨r, hr, hmatch⟩ (Text.Utf8.encode_injective hempty).symm

end Refusals

/-! ## Success -/

section Success

variable {n : Node} {indent : Option Int} {v : Vocabulary}

/-- A source whose pattern spells the texts of a schema in order is compiled, or its vocabulary is
refused. -/
theorem compile_cases {source : Schema.Source} {p : String} (hn : n.WellFormed)
    (hpattern : (patternOf source).result = .ok p)
    (hspells : Pattern.Spells p.toList (n.texts source.indent 0)) (hv : v.checkReadable = .ok ()) :
    (v.CanSpell p → ∃ g, (compile source v).result = .ok g) ∧
      (¬ v.CanSpell p → ∃ fault, (compile source v).result = .error (.vocabulary fault)) := by
  have hne : ∀ w, Pattern.Accepts p w → w ≠ [] :=
    fun w hw => Node.ne_nil_of_mem_texts (hspells.accepts_iff.1 hw)
  obtain ⟨w, hw⟩ := @Node.exists_mem_texts n source.indent 0 hn
  exact ⟨exists_compile_of_canSpell hpattern hv hne,
    exists_compile_eq_error hpattern hv (hspells.accepts_iff.2 hw)⟩

/-- A schema whose bounds are in order and that can be printed is compiled, where there is white space
for its layout, exactly if the vocabulary can spell a text of its pattern; otherwise the vocabulary
is refused. It is never refused for having no texts. -/
theorem compile_iff_canSpell (hn : n.WellFormed) (h : n.Built Proper Proper)
    (hindent : ∀ k ∈ indent, 0 ≤ k) (hv : v.checkReadable = .ok ()) :
    (n.document.Fits → ∃ text, n.canonicalText = .ok text ∧
      (n.LaidOut indent 0 → ∃ p, n.pattern indent = .ok p ∧
        ((∃ g, (compile ⟨text, indent⟩ v).result = .ok g) ↔ v.CanSpell p) ∧
        (¬ v.CanSpell p →
          ∃ fault, (compile ⟨text, indent⟩ v).result = .error (.vocabulary fault))) ∧
      (¬ n.LaidOut indent 0 → (compile ⟨text, indent⟩ v).result = .error .tooWide) ∧
      (compile ⟨text, indent⟩ v).result ≠ .error (.setup .noTexts)) ∧
    (¬ n.document.Fits → n.canonicalText = .error (.digits none)) := by
  refine ⟨fun hfits => ?_, Value.canonicalText_of_not_fits⟩
  have htext : n.canonicalText = .ok _ := Value.canonicalText_of_fits hfits
  refine ⟨_, htext, ?_⟩
  obtain ⟨hwritten, hwide⟩ := pattern_cases hn h htext hindent
  -- The vocabulary is looked at only where there is white space for the layout.
  by_cases hlaid : n.LaidOut indent 0
  · obtain ⟨p, hp, hspells⟩ := hwritten hlaid
    obtain ⟨hmade, hrefused⟩ := compile_cases hn ((patternOf_eq hn h htext).trans hp) hspells hv
    by_cases hspell : v.CanSpell p
    · obtain ⟨g, hg⟩ := hmade hspell
      rw [hg]
      exact ⟨fun _ => ⟨p, hp, by simp [hspell]⟩, (absurd hlaid ·), nofun⟩
    · obtain ⟨fault, hfault⟩ := hrefused hspell
      rw [hfault]
      exact ⟨fun _ => ⟨p, hp, by simp [hspell]⟩, (absurd hlaid ·), nofun⟩
  · have herror := (patternOf_eq hn h htext).trans (hwide hlaid)
    rw [compile, Logged.result_bind_error herror]
    exact ⟨(absurd · hlaid), fun _ => rfl, nofun⟩

/-- Of the two texts of a truth, three tokens spell one. -/
theorem compile_iff_canSpell_pieces : Node.boolean.WellFormed ∧ Node.boolean.Built Proper Proper ∧
    (∀ k ∈ none, (0 : Int) ≤ k) ∧ Matcher.pieces.checkReadable = .ok () ∧
      ∃ text p, Node.boolean.canonicalText = .ok text ∧ Node.boolean.pattern none = .ok p ∧
        Matcher.pieces.CanSpell p ∧ ∃ g, (compile ⟨text, none⟩ Matcher.pieces).result = .ok g := by
  have hn : Node.boolean.WellFormed := List.forall_mem_singleton.2 trivial
  have hbuilt : Node.boolean.Built Proper Proper :=
    List.forall_mem_singleton.2 ⟨trivial, trivial⟩
  have hindent : ∀ k ∈ none, (0 : Int) ≤ k := by simp
  have hfits : Node.boolean.document.Fits := by
    simp [Node.document, Value.Fits, Value.MembersFit]
  obtain ⟨text, htext, hlaid, -⟩ :=
    (compile_iff_canSpell (v := Matcher.pieces) hn hbuilt hindent rfl).1 hfits
  obtain ⟨p, hp, hiff, -⟩ := hlaid trivial
  have hspell : Matcher.pieces.CanSpell p := by
    have hspells := (Node.written_patternAt hn none le_rfl).of_eq_ok (Node.patternAt_of_pattern hp)
    have hmem : "false".toList ∈ Node.boolean.texts none 0 := ⟨.bool false, trivial, rfl⟩
    exact ⟨[2], List.forall_mem_singleton.2 (by decide), "false".toList, by decide,
      hspells.accepts_iff.2 hmem⟩
  exact ⟨hn, hbuilt, hindent, rfl, text, p, htext, hp, hspell, hiff.2 hspell⟩

/-! ### Rows with room for too many items -/

/-- Rows of nothing, with an upper bound. -/
def row (most : Nat) : Node := .array .null .null (.int most)

/-- The empty row as one token. -/
def emptyRow : Vocabulary where
  tokens := #["[]"]
  encoding := .raw
  stop := []
  special := []
  size_pos := by decide
  stop_lt := by decide

section Rows

variable {most : Nat}

theorem wellFormed_row : (row most).WellFormed :=
  Node.forall_parts_array.2 ⟨⟨.inl rfl, .inr ⟨_, rfl⟩, fun _ _ => Nat.zero_le _⟩,
    List.forall_mem_singleton.2 trivial⟩

theorem built_row : (row most).Built Proper Proper :=
  Node.forall_parts_array.2
    ⟨⟨rfl, trivial, trivial⟩, List.forall_mem_singleton.2 ⟨trivial, trivial⟩⟩

theorem not_fits_row (h : 10 ^ Text.digitLimit ≤ most) : ¬ (row most).document.Fits := by
  intro hfits
  have hbound : (Value.int most).Fits :=
    Value.fits_object.1 hfits ("maxItems", _) (by simp [Node.optionalMember, Value.isNull])
  rw [Value.fits_int, Json.Fits, Int.natAbs_natCast] at hbound
  exact absurd h (Nat.not_le.2 hbound)

/-- The pattern of a row counts the items behind the first one. -/
theorem exists_pattern_row (hpos : 0 < most) (h : (Value.int (most - 1 : Nat)).Fits) :
    ∃ p, (row most).pattern none = .ok p := by
  obtain ⟨q, hq⟩ : ∃ q, Schema.tailQuantifier (.int (0 : Nat)) (.int most) = .ok q := by
    have hzero : (Value.int (0 - 1 : Nat)).boundText = .ok _ :=
      Value.boundText_of_fits Value.fits_zero
    rw [Schema.tailQuantifier_int 0 hpos.ne', hzero, Value.boundText_of_fits h]
    exact ⟨_, rfl⟩
  have hzero : ¬ (Value.int most).isNumber 0 = true := by
    rw [Value.isNumber_int, decide_eq_true_eq]
    omega
  have hindent : ∀ k ∈ (none : Option Int), 0 ≤ k := nofun
  have hpattern : (row most).pattern none =
      Schema.arrayPattern (Spacing.at none 0) "null" .null (.int most) := by
    rw [Node.pattern_of_nonneg hindent, row, Node.patternAt, if_neg hzero]
    rfl
  rw [hpattern, Schema.arrayPattern_eq]
  split
  · exact ⟨_, rfl⟩
  · have horZero : Value.null.orZero = .int (0 : Nat) := rfl
    rw [horZero, hq]
    exact ⟨_, rfl⟩

/-- The empty row is a text of its pattern. -/
theorem canSpell_emptyRow {p : String} (hp : (row most).pattern none = .ok p) :
    emptyRow.CanSpell p := by
  have hspells :=
    (Node.written_patternAt wellFormed_row none le_rfl).of_eq_ok (Node.patternAt_of_pattern hp)
  have hmem : "[]".toList ∈ (row most).texts none 0 :=
    ⟨.array [], ⟨⟨le_rfl, fun _ _ => Nat.zero_le _⟩, List.forall_mem_nil _⟩, rfl⟩
  exact ⟨[0], List.forall_mem_singleton.2 (by decide), "[]".toList, by decide,
    hspells.accepts_iff.2 hmem⟩

/-- What is printed of a row whose bound is too long is not read. -/
theorem compile_of_not_fits_row (h : 10 ^ Text.digitLimit ≤ most) : ∃ count,
    (compile ⟨((row most).document.canonical false).render (some 2), none⟩ emptyRow).result =
      .error (.digits (some count)) := by
  have hproper : (row most).document.Proper := Schema.hereditary_proper.document built_row
  have hcanonical := Value.proper_canonical _ false hproper
  obtain ⟨count, herror⟩ := (Json.parse_render hcanonical (some 2)).2
    (mt (Value.fits_canonical _ _).1 (not_fits_row h))
  refine ⟨count, ?_⟩
  rw [compile, Logged.result_bind_error]
  rw [patternOf, herror]
  rfl

end Rows

/-- A bound with one digit too many is written one lower into the pattern, and a token spells a text
of the pattern; but the row is not printed, and what would be printed is not read. -/
theorem compile_longRow : (row (10 ^ Text.digitLimit)).WellFormed ∧
    (row (10 ^ Text.digitLimit)).Built Proper Proper ∧
    (∃ p, (row (10 ^ Text.digitLimit)).pattern none = .ok p ∧ emptyRow.CanSpell p) ∧
    (row (10 ^ Text.digitLimit)).canonicalText = .error (.digits none) ∧
    ∃ count, (compile ⟨((row (10 ^ Text.digitLimit)).document.canonical false).render (some 2),
      none⟩ emptyRow).result = .error (.digits (some count)) := by
  have hpos : 0 < 10 ^ Text.digitLimit := Nat.pow_pos (by decide)
  have hbefore : (Value.int (10 ^ Text.digitLimit - 1 : Nat)).Fits := by
    rw [Value.fits_int, Json.Fits, Int.natAbs_natCast]
    exact Nat.sub_lt hpos (by decide)
  obtain ⟨p, hp⟩ := exists_pattern_row hpos hbefore
  exact ⟨wellFormed_row, built_row, ⟨p, hp, canSpell_emptyRow hp⟩,
    Value.canonicalText_of_not_fits (not_fits_row le_rfl), compile_of_not_fits_row le_rfl⟩

end Success

end Grammar

end GuidedJson
