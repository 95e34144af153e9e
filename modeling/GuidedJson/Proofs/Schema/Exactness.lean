import GuidedJson.Proofs.Grammar.Compiled
import GuidedJson.Proofs.Schema.Patterns

/-!
# The automaton of a schema

The automaton of a schema accepts the JSON texts of the values that conform to the schema, laid out
as they are printed: nothing else, and all of them whose strings are printed.
-/

namespace GuidedJson

open Automaton (Machine)
open Json (Tree IsText Printed)

/-- Whether an automaton accepts a text. -/
def Automaton.Machine.Accepts (m : Machine) (w : List Char) : Prop :=
  ∃ q, m.run Machine.start w = some q ∧ m.final q = true

namespace Schema.Node

variable {n : Node} {indent : Option Int} {depth : Int}

/-- What a pattern spells is what its automaton accepts. -/
theorem exists_machineOf {p : String} {l : Language Char} (h : Pattern.Spells p.toList l) :
    ∃ m, Grammar.machineOf p = .ok m ∧ ∀ w, m.Accepts w ↔ w ∈ l := by
  obtain ⟨r, hr, rfl⟩ := h.options.exists_read
  refine ⟨.ofRegex r, Grammar.machineOf_eq_ok.2 ⟨r, hr, rfl⟩, ?_⟩
  exact fun w => Machine.mem_language_ofRegex.trans Pattern.Regex.mem_language.symm

theorem checkIndent_of_nonneg (h : ∀ k ∈ indent, 0 ≤ k) : checkIndent indent = .ok () := by
  cases indent with
  | none => exact checkIndent_none
  | some k => exact checkIndent_some (h k rfl)

theorem pattern_of_nonneg (h : ∀ k ∈ indent, 0 ≤ k) : n.pattern indent = n.patternAt indent 0 := by
  rw [pattern, checkIndent_of_nonneg h]
  rfl

theorem patternAt_of_pattern {p : String} (h : n.pattern indent = .ok p) :
    n.patternAt indent 0 = .ok p := by
  obtain ⟨_, -, hp⟩ := exceptBind_eq_ok.1 h
  exact hp

/-- The automaton of a schema accepts the texts of the schema. -/
theorem accepts_iff (hn : n.WellFormed) (hdepth : 0 ≤ depth) {p : String}
    (hp : n.patternAt indent depth = .ok p) {m : Machine} (hm : Grammar.machineOf p = .ok m) {w : List Char} :
    m.Accepts w ↔ w ∈ n.texts indent depth := by
  obtain ⟨_, hm', haccepts⟩ := exists_machineOf ((written_patternAt hn indent hdepth).of_eq_ok hp)
  rw [hm] at hm'
  cases hm'
  exact haccepts w

/-- An object with one member that is true or false. -/
def switch : Node := .object [⟨"on", .boolean, .null⟩]

theorem wellFormed_switch : switch.WellFormed := by
  intro m hm
  have hcases : m = switch ∨ m = .boolean := by simpa [switch, parts, partsOfProperties] using hm
  rcases hcases with rfl | rfl <;> trivial

theorem not_someHuge_switch : ¬ SomeHuge switch.parts := by
  rintro ⟨m, hm, hhuge⟩
  have hcases : m = switch ∨ m = .boolean := by simpa [switch, parts, partsOfProperties] using hm
  rcases hcases with rfl | rfl <;> exact hhuge

theorem laidOut_switch : switch.LaidOut (some 2) 0 := by
  have hlayout : HasLayout (some 2) 0 := by
    rintro _ ⟨⟩
    decide
  exact .inr ⟨hlayout, trivial, trivial⟩

/-- A text that the automaton of a schema accepts is a JSON text of a value that conforms to the
schema, with no white space but that of the layout. The lengths of strings are left out: they count
spelled characters, of which two may stand for one code point. -/
theorem exists_conforming_of_accepts (hn : n.WellFormed) {p : String}
    (hp : n.pattern indent = .ok p) {m : Machine} (hm : Grammar.machineOf p = .ok m)
    {w : List Char} (hw : m.Accepts w) :
    ∃ t, IsText t w ∧ n.Conforms False t ∧ t.render indent = w := by
  obtain ⟨t, ht, rfl⟩ := (accepts_iff hn le_rfl (patternAt_of_pattern hp) hm).1 hw
  have hconforms : n.Conforms False t := Admits.mono weaker_conforming (fun _ _ => trivial) ht
  have htext := Tree.valueText_renderAt (Admits.spelled hconforms) indent 0
  refine ⟨t, ⟨[], _, [], Json.blank_nil, htext, Json.blank_nil, ?_⟩, hconforms, rfl⟩
  rw [List.nil_append, List.append_nil]

theorem exists_conforming_of_accepts_switch : ∃ p m,
    switch.pattern (some 2) = .ok p ∧ Grammar.machineOf p = .ok m ∧
      m.Accepts "\x7b\n  \"on\": true\n\x7d".toList ∧
      ∃ t, IsText t "\x7b\n  \"on\": true\n\x7d".toList ∧ switch.Conforms False t ∧
        t.render (some 2) = "\x7b\n  \"on\": true\n\x7d".toList := by
  rcases written_patternAt wellFormed_switch (some 2) le_rfl with
    ⟨p, hp, hspells⟩ | ⟨e, -, ⟨-, hhuge⟩ | ⟨-, hnone⟩⟩
  · obtain ⟨m, hm, haccepts⟩ := exists_machineOf hspells
    have hpattern : switch.pattern (some 2) = .ok p := by
      rw [pattern_of_nonneg (by simp), hp]
    have hw : m.Accepts "\x7b\n  \"on\": true\n\x7d".toList :=
      (haccepts _).2 ⟨.object [("on".toList, .bool true)], ⟨rfl, trivial, trivial⟩, rfl⟩
    exact ⟨p, m, hpattern, hm, hw, exists_conforming_of_accepts wellFormed_switch hpattern hm hw⟩
  · exact absurd hhuge not_someHuge_switch
  · exact absurd laidOut_switch hnone

/-- What is printed of a value that conforms to a schema is accepted by the automaton of the schema,
and so is what is printed of a document whose tree conforms. There is an automaton unless a bound has
more digits than are written, or there is no white space for the layout. -/
theorem accepts_render_of_conforms (hn : n.WellFormed) (hindent : ∀ k ∈ indent, 0 ≤ k) :
    (∃ p m, n.pattern indent = .ok p ∧ Grammar.machineOf p = .ok m ∧
      (∀ t, n.Conforms True t → (∀ b ∈ t.strings, Printed b) → m.Accepts (t.render indent)) ∧
      ∀ v text, v.write? indent = some text → n.Conforms True (Tree.ofValue v) →
        m.Accepts text.toList) ∨
    (n.pattern indent = .error (.digits none) ∧ SomeHuge n.parts) ∨
    (n.pattern indent = .error .tooWide ∧ ¬ n.LaidOut indent 0) := by
  rw [pattern_of_nonneg hindent]
  rcases written_patternAt hn indent le_rfl with
    ⟨p, hp, hspells⟩ | ⟨e, herror, ⟨rfl, hhuge⟩ | ⟨rfl, hnone⟩⟩
  · obtain ⟨m, hm, haccepts⟩ := exists_machineOf hspells
    have htree (t : Tree) (ht : n.Conforms True t) (hprinted : ∀ b ∈ t.strings, Printed b) :
        m.Accepts (t.render indent) :=
      (haccepts _).2 ⟨t, Admits.mono weaker_spelling hprinted ht, rfl⟩
    refine .inl ⟨p, m, hp, hm, htree, fun v text htext hv => ?_⟩
    rw [Value.eq_render_of_write? htext, Value.render, ← Tree.renderAt_ofValue]
    exact htree _ hv (Tree.printed_ofValue v)
  · exact .inr (.inl ⟨herror, hhuge⟩)
  · exact .inr (.inr ⟨herror, hnone⟩)

theorem accepts_render_of_conforms_switch : ∃ p m,
    switch.pattern (some 2) = .ok p ∧ Grammar.machineOf p = .ok m ∧
      m.Accepts "\x7b\n  \"on\": true\n\x7d".toList := by
  have hindent : ∀ k ∈ some (2 : Int), 0 ≤ k := by simp
  rcases accepts_render_of_conforms wellFormed_switch hindent with
    ⟨p, m, hp, hm, -, haccepts⟩ | ⟨-, hhuge⟩ | ⟨-, hnone⟩
  · refine ⟨p, m, hp, hm, haccepts (.object [("on", .bool true)]) _ rfl ?_⟩
    exact ⟨⟨Json.flatMap_jsonChar_mem_bodies "on".toList,
      Json.points_flatMap_jsonChar "on".toList⟩, trivial, trivial⟩
  · exact absurd hhuge not_someHuge_switch
  · exact absurd laidOut_switch hnone

end Schema.Node

end GuidedJson
