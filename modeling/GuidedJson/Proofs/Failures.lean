import GuidedJson.Proofs.Results

/-!
# Failures that are expected

Setting a grammar up fails in ways that a caller is told of. Three other failures escape from it: of
a value that an operation is not defined for, of an integer with too many digits, and of a width
that counts no characters. What an operation needs, so that none of them escapes, is found step by
step.
-/

namespace GuidedJson

namespace Failure

/-- Whether a failure is of one of the four ways in which setting a grammar up fails. -/
def IsSetup : Failure → Prop
  | .setup fault => fault.kind ≠ .setup
  | _ => False

/-- Whether a failure is of a value of the wrong kind, or of an integer that is too long to be written
or too large to be counted with. -/
def IsEscape : Failure → Prop
  | .mismatch _ | .argument (.integer (.digits _)) | .overflow _ => True
  | _ => False

theorem IsEscape.not_isSetup {e : Failure} (h : e.IsEscape) : ¬ e.IsSetup := by
  cases e with
  | setup fault => exact h.elim
  | _ => exact id

theorem isSetup_schema (fault : SchemaFault) : (schema fault).IsSetup := nofun

end Failure

/-- That an operation has a result only under a condition, and under it fails only as setting a
grammar up fails. -/
structure Needs {α : Type} (K : Prop) (x : Except Failure α) : Prop where
  result : ∀ a, x = .ok a → K
  failure : ∀ e, x = .error e → e.IsSetup ∨ e.IsEscape ∧ ¬ K

section Needs

variable {α β : Type} {K L M : Prop} {x : Except Failure α}

theorem Needs.congr (h : Needs K x) (hiff : K ↔ L) : Needs L x := by
  rwa [← propext hiff]

theorem needs_ok {a : α} (h : K) : Needs K (.ok a : Except Failure α) := ⟨fun _ _ => h, nofun⟩

theorem needs_ok_iff {a : α} : Needs K (.ok a : Except Failure α) ↔ K :=
  ⟨fun h => h.result a rfl, needs_ok⟩

theorem needs_error_iff {e : Failure} :
    Needs K (.error e : Except Failure α) ↔ e.IsSetup ∨ e.IsEscape ∧ ¬ K :=
  ⟨fun h => h.failure e rfl, fun h => ⟨nofun, fun _ heq => Except.error.inj heq ▸ h⟩⟩

theorem needs_throw {e : Failure} (h : e.IsSetup) : Needs K (.error e : Except Failure α) :=
  needs_error_iff.2 (.inl h)

theorem needs_mismatch {fault : Mismatch} (h : ¬ K) :
    Needs K (.error (.mismatch fault) : Except Failure α) := needs_error_iff.2 (.inr ⟨trivial, h⟩)

theorem needs_digits {count : Option Nat} (h : ¬ K) :
    Needs K (.error (.digits count) : Except Failure α) := needs_error_iff.2 (.inr ⟨trivial, h⟩)

theorem Needs.and_trivial (h : Needs K x) (hM : M) : Needs (K ∧ M) x :=
  h.congr (and_iff_left hM).symm

theorem needs_tooWide (h : ¬ K) : Needs K (.error .tooWide : Except Failure α) :=
  needs_error_iff.2 (.inr ⟨trivial, h⟩)

/-- A failure of a step is a failure with what later steps need, too. -/
theorem Needs.and {e : Failure} (h : Needs K (.error e : Except Failure α)) (M : Prop) :
    Needs (K ∧ M) (.error e : Except Failure β) :=
  needs_error_iff.2 ((needs_error_iff.1 h).imp_right fun ⟨he, hK⟩ => ⟨he, fun hKM => hK hKM.1⟩)

theorem Needs.bind {f : α → Except Failure β} (hx : Needs K x)
    (hf : ∀ a, x = .ok a → Needs M (f a)) : Needs (K ∧ M) (x >>= f) := by
  cases x with
  | ok a => exact (hf a rfl).congr (and_iff_right (needs_ok_iff.1 hx)).symm
  | error e => exact hx.and M

/-- A step that never fails needs nothing. -/
theorem Needs.bind_ok {f : α → Except Failure β} (hx : Needs K x) (hf : ∀ a, ∃ b, f a = .ok b) :
    Needs K (x >>= f) := by
  refine (hx.bind fun a _ => ?_).congr (and_iff_left trivial)
  obtain ⟨b, hb⟩ := hf a
  exact hb ▸ needs_ok trivial

theorem Needs.map (h : Needs K x) (f : α → β) : Needs K (x.map f) := by
  cases x with
  | ok a => exact needs_ok (needs_ok_iff.1 h)
  | error e => exact needs_error_iff.2 (needs_error_iff.1 h)

end Needs

/-! ## Operations with a log -/

theorem Logged.result_bind {α β : Type} (x : Logged α) (f : α → Logged β) :
    (x >>= f).result = x.result >>= fun a => (f a).result := by
  cases h : x.result with
  | ok a => exact Logged.result_bind_ok h f
  | error e => exact Logged.result_bind_error h f

section Logged

variable {α β : Type} {K M : Prop} {x : Logged α}

theorem Needs.logged_bind {f : α → Logged β} (hx : Needs K x.result)
    (hf : ∀ a, x.result = .ok a → Needs M (f a).result) : Needs (K ∧ M) (x >>= f).result := by
  rw [Logged.result_bind]
  exact hx.bind hf

theorem Needs.logged_map (hx : Needs K x.result) (f : α → β) :
    Needs K (x >>= fun a => pure (f a)).result := by
  rw [Logged.result_bind]
  exact hx.map f

end Logged

end GuidedJson
