import GuidedJson.Proofs.Pattern.Bounds
import GuidedJson.Proofs.Schema.Restrictions
import GuidedJson.Proofs.Schema.Viability

/-!
# Literals inside patterns

An escaped text is a row of characters to the reader of patterns, whatever the text looks like. So
it stands for the text alone wherever parts may stand: between other parts, beside alternatives and
inside of groups. The literal of a string stands for the JSON form of the string, from which the
string is read back.
-/

namespace GuidedJson.Pattern

open Regex (language)

/-! ## Patterns with a gap -/

/-- A pattern text that spells the same texts wherever it stands. -/
structure Piece where
  text : String
  texts : Language Char
  spells : Spells text.toList texts

/-- What may repeat a group. -/
structure Repeater where
  text : String
  span : Span
  quantifies : Quantifies text.toList span.least span.most

/-- A gap between two pieces, with other options before and behind it. -/
structure Row where
  optionsBefore : List Piece
  before : Piece
  after : Piece
  optionsAfter : List Piece

namespace Row

/-- The pattern with a text in the gap. -/
def plug (row : Row) (p : String) : String :=
  "|".intercalate (row.optionsBefore.map Piece.text ++
    (row.before.text ++ p ++ row.after.text) :: row.optionsAfter.map Piece.text)

/-- The texts of the pattern, from those of what is in the gap. -/
def texts (row : Row) (l : Language Char) : Language Char :=
  (row.optionsBefore.map Piece.texts).sum +
    (row.before.texts * l * row.after.texts + (row.optionsAfter.map Piece.texts).sum)

end Row

/-- A pattern with a gap at any depth: in a row, or in a group that stands in the gap of a row. -/
inductive Context where
  | flat (row : Row)
  | group (row : Row) (inner : Context)
  | repeated (row : Row) (repeater : Repeater) (inner : Context)

namespace Context

def plug : Context → String → String
  | .flat row, p => row.plug p
  | .group row inner, p => row.plug ("(" ++ inner.plug p ++ ")")
  | .repeated row repeater inner, p => row.plug ("(" ++ inner.plug p ++ ")" ++ repeater.text)

def texts : Context → Language Char → Language Char
  | .flat row, l => row.texts l
  | .group row inner, l => row.texts (inner.texts l)
  | .repeated row repeater inner, l =>
    row.texts (repetition (inner.texts l) repeater.span.least repeater.span.most)

end Context

section Gaps

variable {p : String} {l : Language Char}

theorem spells_pieces (ps : List Piece) :
    List.Forall₂ (fun p l => Spells p.toList l) (ps.map Piece.text) (ps.map Piece.texts) := by
  rw [List.forall₂_map_left_iff, List.forall₂_map_right_iff]
  exact List.forall₂_same.2 fun p _ => p.spells

/-- What spells a language by itself spells it in the gap of a row. -/
theorem Row.spells (row : Row) (h : Spells p.toList l) :
    SpellsOptions (row.plug p).toList (row.texts l) := by
  have hoption : Spells (row.before.text ++ p ++ row.after.text).toList
      (row.before.texts * l * row.after.texts) := by
    rw [String.toList_append, String.toList_append]
    exact (row.before.spells.append h).append row.after.spells
  have hall := List.rel_append (spells_pieces row.optionsBefore)
    (.cons hoption (spells_pieces row.optionsAfter))
  have hrow := Schema.spellsOptions_intercalate hall (by simp)
  rwa [List.sum_append, List.sum_cons] at hrow

/-- What spells a language by itself spells it in every gap. -/
theorem Context.spells (c : Context) (h : Spells p.toList l) :
    SpellsOptions (c.plug p).toList (c.texts l) := by
  induction c with
  | flat row => exact row.spells h
  | group row inner ih =>
    apply row.spells
    rw [String.toList_append, String.toList_append]
    exact ih.group
  | repeated row repeater inner ih =>
    apply row.spells
    rw [String.toList_append, String.toList_append, String.toList_append]
    exact ih.quantified repeater.quantifies repeater.span.le

/-- A pattern text in a gap is a pattern, and has the texts of the context. -/
theorem Context.exists_read (c : Context) (h : Spells p.toList l) :
    ∃ r, Regex.read (c.plug p) = .ok r ∧ r.language = c.texts l :=
  (c.spells h).exists_read

end Gaps

/-! ## Rows of characters -/

/-- The part that stands for one character. -/
def charPart (c : Char) : Syntax := .chars (.single c.toNat)

/-- The expression of one character, where letters count as they are written. -/
def charRegex (c : Char) : Regex := .chars (.single c)

theorem language_chain_charRegex (w : List Char) : language (.chain (w.map charRegex)) = {w} := by
  rw [Regex.language_chain]
  induction w with
  | nil => rfl
  | cons c w ih =>
    have hone : (charRegex c).language = {[c]} := by
      ext u
      rw [charRegex, Regex.mem_language, Regex.matches_chars]
      constructor
      · rintro ⟨d, hd, rfl⟩
        rw [CharSet.mem_single.1 hd]
        rfl
      · rintro rfl
        exact ⟨c, CharSet.mem_single.2 rfl, rfl⟩
    rw [List.map_cons, List.map_cons, List.prod_cons, ih, hone, ← singleton_append]
    rfl

/-- Characters have the same expressions whatever is written behind them. -/
theorem ofParts_charPart {modes : Modes} (hcase : modes.ignoreCase = false)
    (hlines : modes.multiline = false) (last : List Regex) (w : List Char) (ps : List Syntax) :
    Regex.ofParts modes last (w.map charPart ++ ps) =
      (Regex.ofParts modes last ps).map (w.map charRegex ++ ·) := by
  induction w with
  | nil =>
    rw [List.map_nil, List.nil_append]
    cases Regex.ofParts modes last ps <;> rfl
  | cons c w ih =>
    have hone : Regex.ofSyntax modes (0, 0) (charPart c) = .ok (charRegex c) := by
      rw [charPart, Regex.ofSyntax, hlines, hcase]
      rfl
    rw [List.map_cons, List.cons_append, Regex.ofParts, hone, ih]
    · cases Regex.ofParts modes last ps <;> rfl
    · intro behind negated part h
      cases h

/-- A pattern text that stands for one text alone, and adds that text to every context. Wherever the
reader comes to it, in front of anything but the sign of a repetition, it reads parts that match the
text if letters count as they are written, whatever other parts it reads behind them. -/
structure Verbatim (p : String) (w : List Char) : Prop where
  accepts_iff : ∀ u, Accepts p u ↔ u = w
  exists_read : ∀ c : Context, ∃ r, Regex.read (c.plug p) = .ok r ∧ r.language = c.texts {w}
  exists_parts : ∃ parts rs, Reads p.toList parts ∧ language (.chain rs) = {w} ∧
    ∀ modes : Modes, modes.ignoreCase = false → modes.multiline = false → ∀ last ps,
      Regex.ofParts modes last (parts ++ ps) = (Regex.ofParts modes last ps).map (rs ++ ·)

end GuidedJson.Pattern

namespace GuidedJson.Schema

open Pattern

/-! ## Escaped texts -/

theorem reads_escapeLiteral (s : String) :
    Reads (escapeLiteral s).toList (s.toList.map charPart) := by
  rw [escapeLiteral, String.toList_ofList]
  induction s.toList with
  | nil => exact reads_nil
  | cons c cs ih =>
    rw [List.flatMap_cons, List.map_cons, ← List.singleton_append]
    exact (atom_escapeLiteralChar c).readsPart.reads.append ih

theorem verbatim_escapeLiteral (s : String) : Verbatim (escapeLiteral s) s.toList where
  accepts_iff _ := (spells_escapeLiteral s).accepts_iff
  exists_read c := c.exists_read (spells_escapeLiteral s)
  exists_parts := ⟨s.toList.map charPart, s.toList.map charRegex, reads_escapeLiteral s,
    language_chain_charRegex s.toList, fun _ hcase hlines last ps =>
      ofParts_charPart hcase hlines last s.toList ps⟩

/-- An escaped text stands for itself wherever it is written. So does the literal of a string for the
JSON form of the string, and whatever the literal matches is read back as the string. -/
theorem literals_verbatim : (∀ s, Verbatim (escapeLiteral s) s.toList) ∧
    ∀ s, Verbatim (jsonLiteral s) (jsonString s).toList ∧
      ∀ w, Accepts (jsonLiteral s) w → Json.parse (String.ofList w) = .ok (.string s) := by
  refine ⟨verbatim_escapeLiteral, fun s => ?_⟩
  have hverbatim : Verbatim (jsonLiteral s) (jsonString s).toList :=
    verbatim_escapeLiteral (jsonString s)
  refine ⟨hverbatim, fun w hw => ?_⟩
  rw [(hverbatim.accepts_iff w).1 hw, String.ofList_toList]
  exact parse_jsonString s

theorem literals_verbatim_bar : Accepts (jsonLiteral "a|b*") (jsonString "a|b*").toList ∧
    Json.parse (String.ofList (jsonString "a|b*").toList) = .ok (.string "a|b*") := by
  obtain ⟨hverbatim, hparse⟩ := literals_verbatim.2 "a|b*"
  have haccepts := (hverbatim.accepts_iff _).2 rfl
  exact ⟨haccepts, hparse _ haccepts⟩

end GuidedJson.Schema
