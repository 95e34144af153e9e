import GuidedJson.Proofs.Grammar.Spelling
import GuidedJson.Proofs.Schema.Described

/-!
# Grammars of malformed bounds

What is read of a source may have bounds that are no counts, or not in order. Its grammar, if it has
one, accepts the texts of a schema whose bounds are in order all the same: the one that its pattern
describes. Where the pattern describes none, there is no grammar, and neither is there one where there
is no white space for the layout.
-/

namespace GuidedJson.Grammar

open Automaton (Machine)
open Pattern (Spoils Spells)
open Schema (Input Judged Node Source)

/-! ## Patterns of sources -/

section Sources

variable {source : Source} {v : Vocabulary} {document : Value} {n : Node} {p : String}

theorem result_patternOf_of_document (hdocument : Json.parse source.text = .ok document)
    (hn : (Input.document document).node?.result = .ok n) :
    (patternOf source).result = n.pattern source.indent := by
  rw [patternOf, hdocument]
  dsimp only
  rw [Logged.result_bind_ok hn]
  rfl

/-- The pattern of a source is read as that of a schema in order, or it is spoiled. -/
theorem judged_patternOf (hdocument : Json.parse source.text = .ok document)
    (hn : (Input.document document).node?.result = .ok n) (hbraces : n.Unbraced)
    (hindent : Node.checkIndent source.indent = .ok ()) :
    Judged (¬ n.LaidOut source.indent 0) (Node.Portrays source.indent 0) (fun p => Spoils p.toList)
      n.described? (patternOf source).result := by
  have hbuilt := Input.built_of_document hdocument hn
  rw [result_patternOf_of_document hdocument hn, Node.pattern, hindent]
  exact Node.depicted (hbuilt.mono (fun _ h => h.2) fun _ h => h) hbraces le_rfl

/-- A spoiled pattern has no automaton. -/
theorem exists_compile_of_spoils (hpattern : (patternOf source).result = .ok p)
    (h : Spoils p.toList) :
    ∃ fault, (compile source v).result = .error (.setup (.automaton fault)) := by
  obtain ⟨fault, hfault⟩ := h.options.read_eq_error
  have hmachine : machineOf p = .error (.setup (.automaton fault)) := by
    rw [machineOf, Machine.ofPattern, hfault]
    rfl
  refine ⟨fault, ?_⟩
  rw [compile, Logged.result_bind_ok hpattern, Logged.result_bind_error hmachine]

/-- The automaton of a compiled grammar accepts what the pattern of the source spells. -/
theorem accepts_machine_iff {g : Grammar} (hg : (compile source v).result = .ok g)
    (hpattern : (patternOf source).result = .ok p) {l : Language Char} (h : Spells p.toList l)
    {w : List Char} : g.machine.Accepts w ↔ w ∈ l := by
  obtain ⟨-, -, hpattern', hmachine, -⟩ := compile_eq_ok.1 hg
  rw [hpattern] at hpattern'
  cases hpattern'
  obtain ⟨m, hm, haccepts⟩ := Node.exists_machineOf h
  rw [hmachine] at hm
  cases hm
  exact haccepts w

end Sources

/-! ## Compilation -/

section Compilation

variable {source : Source} {v : Vocabulary} {document : Value} {n : Node}
variable (hdocument : Json.parse source.text = .ok document)
variable (hn : (Input.document document).node?.result = .ok n)
include hdocument hn

theorem checkIndent_of_compile {g : Grammar} (hg : (compile source v).result = .ok g) :
    Node.checkIndent source.indent = .ok () := by
  obtain ⟨-, -, hpattern, -, -⟩ := compile_eq_ok.1 hg
  rw [result_patternOf_of_document hdocument hn] at hpattern
  obtain ⟨_, hcheck, -⟩ := exceptBind_eq_ok.1 hpattern
  exact hcheck

variable (hbraces : n.Unbraced)
include hbraces

/-- What is compiled is the schema that the pattern describes. -/
theorem exists_described_of_compile {g : Grammar} (hg : (compile source v).result = .ok g) :
    ∃ m, n.described? = some m ∧ m.WellFormed ∧
      ∀ w, g.machine.Accepts w ↔ w ∈ m.texts source.indent 0 := by
  obtain ⟨-, -, hpattern, -, -⟩ := compile_eq_ok.1 hg
  have hjudged := judged_patternOf hdocument hn hbraces (checkIndent_of_compile hdocument hn hg)
  rw [hpattern] at hjudged
  -- There is an automaton, and so the pattern is not spoiled.
  have hread : ¬ Spoils g.pattern.toList := by
    intro hspoils
    obtain ⟨fault, herror⟩ := exists_compile_of_spoils (v := v) hpattern hspoils
    rw [hg] at herror
    cases herror
  obtain ⟨m, hm, hsound, hspells⟩ := hjudged.exists_told hread
  exact ⟨m, hm, hsound, fun w => accepts_machine_iff hg hpattern hspells⟩

/-- Where a schema is described, only the vocabulary can be refused, unless there is no white space for
the layout. -/
theorem compile_of_described {m : Node} (hm : n.described? = some m)
    (hindent : ∀ k ∈ source.indent, 0 ≤ k) (hv : v.checkReadable = .ok ()) :
    (∃ g, (compile source v).result = .ok g) ∨
      (∃ fault, (compile source v).result = .error (.vocabulary fault)) ∨
      ((compile source v).result = .error .tooWide ∧ ¬ n.LaidOut source.indent 0) := by
  have hjudged := judged_patternOf hdocument hn hbraces (Node.checkIndent_of_nonneg hindent)
  rw [hm] at hjudged
  rcases hjudged with ⟨p, hpattern, hsound, hspells⟩ | ⟨hwide, hnone⟩
  · obtain ⟨hmade, hrefused⟩ := compile_cases hsound hpattern hspells hv
    by_cases hspell : v.CanSpell p
    · exact .inl (hmade hspell)
    · exact .inr (.inl (hrefused hspell))
  · exact .inr (.inr ⟨by rw [compile, Logged.result_bind_error hwide], hnone⟩)

/-- Where no schema is described, there is no grammar. -/
theorem exists_compile_of_not_described (hm : n.described? = none) :
    ∃ e, (compile source v).result = .error e ∧
      ((∃ fault, e = .setup (.automaton fault)) ∨ e.IsEscape ∨
        Node.checkIndent source.indent = .error e) := by
  -- The layout is looked at before the schema is.
  cases hcheck : Node.checkIndent source.indent with
  | error e =>
    have hpattern : (patternOf source).result = .error e := by
      rw [result_patternOf_of_document hdocument hn, Node.pattern, hcheck]
      rfl
    exact ⟨e, by rw [compile, Logged.result_bind_error hpattern], .inr (.inr rfl)⟩
  | ok =>
    have hjudged := judged_patternOf hdocument hn hbraces hcheck
    rw [hm] at hjudged
    rcases hjudged with ⟨p, hpattern, hspoils⟩ | ⟨e, hpattern, hescape⟩
    · obtain ⟨fault, herror⟩ := exists_compile_of_spoils (v := v) hpattern hspoils
      exact ⟨_, herror, .inl ⟨fault, rfl⟩⟩
    · exact ⟨e, by rw [compile, Logged.result_bind_error hpattern], .inr (.inl hescape)⟩

end Compilation

/-- A source is compiled as the schema that its pattern describes, which need not be the one that is
read of it, as far as there is white space for its layout; where none is described, the source is
refused, or no pattern can be made of its bounds. A schema whose bounds are in order is described as
what it is. Of whole numbers only lower bounds of items below zero are misread, and what stands under
an upper bound of zero. -/
theorem compile_described {source : Source} {v : Vocabulary} {document : Value} {n : Node}
    (hdocument : Json.parse source.text = .ok document)
    (hn : (Input.document document).node?.result = .ok n) (hbraces : n.Unbraced) :
    (∀ g, (compile source v).result = .ok g → ∃ m, n.described? = some m ∧ m.WellFormed ∧
      ∀ w, g.machine.Accepts w ↔ w ∈ m.texts source.indent 0) ∧
    (∀ m, n.described? = some m → (∀ k ∈ source.indent, 0 ≤ k) → v.checkReadable = .ok () →
      (∃ g, (compile source v).result = .ok g) ∨
        (∃ fault, (compile source v).result = .error (.vocabulary fault)) ∨
        ((compile source v).result = .error .tooWide ∧ ¬ n.LaidOut source.indent 0)) ∧
    (n.described? = none → ∃ e, (compile source v).result = .error e ∧
      ((∃ fault, e = .setup (.automaton fault)) ∨ e.IsEscape ∨
        Node.checkIndent source.indent = .error e)) ∧
    (n.WellFormed → ∃ m, n.described? = some m ∧
      ∀ indent depth, m.texts indent depth = n.texts indent depth) ∧
    ((∀ k ∈ n.parts, k.Whole) → ∀ g, (compile source v).result = .ok g → n.WellFormed) := by
  refine ⟨fun _ => exists_described_of_compile hdocument hn hbraces,
    fun _ => compile_of_described hdocument hn hbraces,
    exists_compile_of_not_described hdocument hn hbraces,
    fun hordered => ?_, fun hwhole g hg => ?_⟩
  · obtain ⟨m, hm, hsame⟩ := Node.exists_described hordered
    exact ⟨m, hm, hsame.texts_eq⟩
  obtain ⟨m, hm, -⟩ := exists_described_of_compile hdocument hn hbraces hg
  exact Node.wellFormed_of_described (Input.built_of_document hdocument hn) hwhole hm

/-! ## A row with fewer items than none -/

/-- The source of a schema that asks for minus one item at the least. -/
def fewerThanNone : Source where
  text := "\x7b\"type\": \"array\", \"items\": \x7b\"type\": \"null\"\x7d, \"minItems\": -1\x7d"
  indent := none

/-- What that text holds. -/
def fewerDocument : Value := .object [
  ("type", .string "array"),
  ("items", .object [("type", .string "null")]),
  ("minItems", .int (-1))]

/-- Two tokens that make a row. -/
def rowPieces : Vocabulary where
  tokens := #["[null", "]"]
  encoding := .raw
  stop := []
  special := []
  size_pos := by decide
  stop_lt := by decide

theorem parse_fewerThanNone : Json.parse fewerThanNone.text = .ok fewerDocument := by cbv

theorem node?_fewerDocument :
    (Input.document fewerDocument).node?.result = .ok (.array .null (.int (-1)) .null) := rfl

theorem unbraced_fewer : (Node.array .null (.int (-1)) .null).Unbraced := by
  intro k hk least most heq
  subst heq
  simp [Node.parts] at hk

theorem described?_fewer :
    (Node.array .null (.int (-1)) .null).described? = some (.array .null (.int 1) .null) := rfl

theorem mem_texts_oneNull :
    "[null]".toList ∈ (Node.array .null (.int 1) .null).texts none 0 := by
  have hcount : Schema.Between (.int 1) .null 1 := ⟨le_rfl, nofun⟩
  exact ⟨.array [.null], ⟨hcount, List.forall_mem_singleton.2 trivial⟩, rfl⟩

/-- The tokens spell a row of one item, and it is a text of the pattern. -/
theorem exists_compile_fewerThanNone : ∃ g, (compile fewerThanNone rowPieces).result = .ok g := by
  have hjudged := judged_patternOf parse_fewerThanNone node?_fewerDocument unbraced_fewer rfl
  rw [described?_fewer] at hjudged
  have hlaid : (Node.array .null (.int (-1)) .null).LaidOut fewerThanNone.indent 0 :=
    .inr ⟨nofun, trivial⟩
  obtain ⟨p, hpattern, hsound, hspells⟩ := hjudged.resolve_right fun h => h.2 hlaid
  obtain ⟨hmade, -⟩ := compile_cases (v := rowPieces) hsound hpattern hspells rfl
  have hordinary : rowPieces.Ordinary [0, 1] := by
    rintro i hi
    rcases (List.mem_pair.1 hi) with rfl | rfl <;> decide
  exact hmade ⟨[0, 1], hordinary, "[null]".toList, by decide,
    hspells.accepts_iff.2 mem_texts_oneNull⟩

/-- A row with fewer items than none is compiled, though its bound counts nothing. -/
theorem compile_fewerThanNone : Json.parse fewerThanNone.text = .ok fewerDocument ∧
    (Input.document fewerDocument).node?.result = .ok (.array .null (.int (-1)) .null) ∧
    ¬ Schema.IsBound (.int (-1)) ∧ ∃ g, (compile fewerThanNone rowPieces).result = .ok g := by
  refine ⟨parse_fewerThanNone, node?_fewerDocument, ?_, exists_compile_fewerThanNone⟩
  rintro (hnull | ⟨k, hk⟩)
  · cases hnull
  · have hcount : (-1 : Int) = k := Value.int.inj hk
    omega

/-- It is compiled as a row of one item at the least. -/
theorem compile_described_fewerThanNone : Json.parse fewerThanNone.text = .ok fewerDocument ∧
    (Input.document fewerDocument).node?.result = .ok (.array .null (.int (-1)) .null) ∧
    (Node.array .null (.int (-1)) .null).Unbraced ∧
    ∃ g, (compile fewerThanNone rowPieces).result = .ok g ∧
      ∀ w, g.machine.Accepts w ↔ w ∈ (Node.array .null (.int 1) .null).texts none 0 := by
  obtain ⟨g, hg⟩ := exists_compile_fewerThanNone
  have hdescribed := compile_described (v := rowPieces) parse_fewerThanNone node?_fewerDocument
    unbraced_fewer
  obtain ⟨m, hm, -, haccepts⟩ := hdescribed.1 g hg
  rw [described?_fewer] at hm
  cases hm
  exact ⟨parse_fewerThanNone, node?_fewerDocument, unbraced_fewer, g, hg, haccepts⟩

end GuidedJson.Grammar
