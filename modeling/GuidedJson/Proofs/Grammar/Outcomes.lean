import GuidedJson.Proofs.Grammar.Acceptance
import GuidedJson.Proofs.Schema.Counted
import GuidedJson.Proofs.Schema.NormalForm
import GuidedJson.Setup.Compile

/-!
# Outcomes of compilations

A compilation makes a grammar, or fails as setting a grammar up fails. It does so where the keywords
of the schema hold values of such kinds that they can be gone through, sorted, compared and counted,
and there is white space for its layout; where this is not so, there is no grammar, and another
failure may come before the fault.
-/

namespace GuidedJson

open Automaton (Machine)
open Schema (Input Node Legible parse parseText?)

/-! ## Inputs -/

namespace Schema

/-- Whether no escape of half a surrogate pair is met in a text. -/
def WholeText (s : String) : Prop := ∀ code, Json.parse s ≠ .error (.surrogate code)

/-- Whether the document of a text is legible. No integer in the text may have more digits than are
read; a text of no document is refused for that. -/
def LegibleText (s : String) : Prop :=
  match Json.parse s with
  | .ok v => Legible v
  | .error (.malformed _) => True
  | .error (.digits _) | .error (.surrogate _) => False

namespace Input

/-- Whether the keywords of an input hold what reading it needs. A schema is not read. -/
def Legible : Input → Prop
  | .document (.string s) | .text s => LegibleText s
  | .document v => Schema.Legible v
  | .node _ => True

/-- Whether an input is an object, a whole text, or a schema that the constructors have built. -/
def Given : Input → Prop
  | .document (.object ms) => (Value.object ms).Proper
  | .document (.string s) => WholeText s
  | .text s => WholeText s
  | .document _ => False
  | .node n => n.Built Value.Proper Value.Proper

variable {input : Input} {n : Node}

theorem Given.canonicalText (h : input.Given) :
    input.canonicalText = input.node? >>= fun n => n.canonicalText := by
  unfold Given at h
  split at h
  · rfl
  · rfl
  · rfl
  · cases h
  · rfl

theorem built_of_parseText? {s : String} (h : (parseText? s).result = .ok n) :
    n.Built Value.Readable Value.Readable := by
  unfold parseText? at h
  split at h
  · cases h
  · split at h
    · cases h
    next v hv => exact (readsParsed inward_readable v "$" n (Json.readable_of_parse hv) h).1

/-- What is read of an input is built by the constructors. -/
theorem Given.built (hgiven : input.Given) (h : input.node?.result = .ok n) :
    n.Built Value.Proper Value.Proper := by
  have hproper {k : Node} (hk : k.Built Value.Readable Value.Readable) :
      k.Built Value.Proper Value.Proper := hk.mono (fun _ hw => hw.1) fun _ hw => hw.1
  unfold Given at hgiven
  split at hgiven
  · exact (readsParsed inward_proper _ "$" n hgiven h).1
  · exact hproper (built_of_parseText? h)
  · exact hproper (built_of_parseText? h)
  · cases hgiven
  · cases h
    exact hgiven

/-- The bounds of what is read of a text can be written. -/
theorem built_of_document {text : String} {document : Value}
    (hdocument : Json.parse text = .ok document)
    (h : (Input.document document).node?.result = .ok n) :
    n.Built Value.Readable Value.Readable := by
  cases document with
  | string s => exact built_of_parseText? h
  | _ => exact (readsParsed inward_readable _ "$" n (Json.readable_of_parse hdocument) h).1

end Input

end Schema

/-! ## Compilation -/

namespace Grammar

open Value (Proper)

section Steps

variable {n : Node} {indent : Option Int} {v : Vocabulary} {text : String}

/-- What is read of a canonical text has bounds that can be written. -/
theorem built_settle_canonical (h : n.Built Proper Proper) (htext : n.canonicalText = .ok text) :
    (n.settle (Value.canonical false)).Built Value.Fits Value.Fits := by
  have hfits := (Value.canonicalText_eq_ok_iff.1 htext).1
  -- No integer of what was printed is too long, and so none of what is read of it.
  have hreadable : (n.document.canonical false).Readable :=
    ⟨Value.proper_canonical _ _ (Schema.hereditary_proper.document h),
      (Value.fits_canonical _ _).2 hfits⟩
  have hparsed := Schema.readsParsed Schema.inward_readable _ "$" _ hreadable
    (congrArg Logged.result (Node.parse_canonical h))
  exact hparsed.1.mono (fun _ hw => hw.2) fun _ hw => hw.2

/-- A canonical document is read as it stands. -/
theorem node?_canonical (h : n.Built Proper Proper) :
    (Input.document (n.document.canonical false)).node? =
      pure (n.settle (Value.canonical false)) := by
  have hparse := Node.parse_canonical h
  obtain ⟨ms, hms, -⟩ := n.exists_document
  obtain ⟨ns, hns, -⟩ := Value.exists_canonical_object false ms
  rw [hms, hns] at hparse ⊢
  exact hparse

/-- The pattern of a canonical text is that of what is read of it. -/
theorem result_patternOf (h : n.Built Proper Proper) (htext : n.canonicalText = .ok text)
    (indent : Option Int) :
    (patternOf ⟨text, indent⟩).result = (n.settle (Value.canonical false)).pattern indent := by
  obtain ⟨hfits, rfl⟩ := Value.canonicalText_eq_ok_iff.1 htext
  have hcanonical := Value.proper_canonical _ false (Schema.hereditary_proper.document h)
  unfold patternOf
  dsimp only
  rw [(Json.parse_render hcanonical (some 2)).1 ((Value.fits_canonical _ _).2 hfits)]
  dsimp only
  rw [node?_canonical h, Logged.pure_bind]
  rfl

end Steps

section Outcomes

variable {settings : Settings} {input : Input} {v : Vocabulary} {indent : Option Int}
  {choice : EngineChoice}

/-- A schema is read, and compiled from its canonical text. -/
theorem result_ofSchema (hgiven : input.Given) (hindent : Node.checkIndent indent = .ok ())
    (hengine : choice.resolve settings = .ok .automaton) :
    (ofSchema settings input v indent choice).result = input.node?.result >>= fun n =>
      n.canonicalText >>= fun text => (compile ⟨text, indent⟩ v).result := by
  have hsteps : (ofSchema settings input v indent choice).result = input.node?.result >>= fun n =>
      n.canonicalText >>= fun text => Schema.Source.of text indent >>= fun source =>
        choice.resolve settings >>= fun engine => (engine.compile source v).result := by
    rw [ofSchema, Input.source, hgiven.canonicalText]
    simp only [Logged.result_bind, bind_assoc]
    rfl
  rw [hsteps]
  cases hn : input.node?.result with
  | error e => rfl
  | ok n =>
    cases htext : n.canonicalText with
    | error e => simp only [bind, Except.bind, htext]
    -- A canonical text is not blank, so there is a source of it.
    | ok text =>
      obtain ⟨-, hprinted⟩ := Value.canonicalText_eq_ok_iff.1 htext
      have hproper := Schema.hereditary_proper.document (hgiven.built hn)
      have hcanonical := Value.proper_canonical n.document false hproper
      have hblank := Json.isBlankText_render hcanonical (some 2)
      rw [hprinted] at hblank
      have hsource : Schema.Source.of text indent = .ok ⟨text, indent⟩ := by
        rw [Schema.Source.of, hblank, hindent]
        rfl
      simp only [bind, Except.bind, htext, hsource, hengine]
      rfl

/-- A schema of two texts. -/
def answers : List (String × Value) := [
  ("type", .string "string"),
  ("enum", .array [.string "yes", .string "no"])]

end Outcomes

end Grammar

end GuidedJson
