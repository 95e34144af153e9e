import GuidedJson.Automaton.Position
import GuidedJson.Proofs.Automaton.Living
import GuidedJson.Proofs.Text.Utf8
import Mathlib.Data.Finset.Prod
import Mathlib.Data.Fintype.Option
import Mathlib.Data.Fintype.Prod
import Mathlib.Data.List.ReduceOption

/-!
# Walks over octets

Octets walk to a position exactly where they are the octets of a text that the machine walks, and
the beginning of one more character that can still be read. The walk of a whole text is the walk
of its characters.
-/

namespace GuidedJson.Automaton

open Text
open Text.Utf8 (Partial Outcome Begins Spelled Standing)

namespace Machine

variable {m : Machine} {classes : Nat}

@[simp] theorem run_singleton (s : Nat) (c : Char) : m.run s [c] = m.step s c := by
  simp [run]

theorem walk_singleton (p : Position) (b : UInt8) : m.walk p [b] = m.consume p b := by
  rw [walk]
  cases m.consume p b <;> rfl

theorem consume_eq {bs : List UInt8} {state : Option Partial} (h : Standing bs state) (s : Nat)
    (b : UInt8) : m.consume ⟨s, bs⟩ b = match Utf8.step state b with
      | .char c => (m.step s c).map (⟨·, []⟩)
      | .more p => if m.canRead s p.span.1 p.span.2 then some ⟨s, bs ++ [b]⟩ else none
      | .refused => none := by
  simp only [consume, h.read_append]
  cases Utf8.step state b <;> simp

/-! ## Texts -/

/-- The octets of a character walk where the character leads. -/
theorem Made.walk_of_spelled (hm : m.Made classes) {s q : Nat} {c : Char}
    (hstep : m.step s c = some q) {bs pre : List UInt8} {state : Option Partial}
    (hpre : Standing pre state) (hc : Spelled state bs c) : m.walk ⟨s, pre⟩ bs = some ⟨q, []⟩ := by
  induction hc generalizing pre with
  | last hb =>
    rw [walk, consume_eq hpre, hb]
    simp [hstep]
  | more hb hlow hhigh _ ih =>
    rw [walk, consume_eq hpre, hb]
    simp only [hm.canRead_of_step hstep hlow hhigh, if_true]
    exact ih hstep (hpre.snoc hb)

theorem Made.walk_encode (hm : m.Made classes) {s q : Nat} {w : List Char}
    (h : m.run s w = some q) : m.walk ⟨s, []⟩ (Utf8.encode w) = some ⟨q, []⟩ := by
  induction w generalizing s with
  | nil =>
    cases h
    rfl
  | cons c w ih =>
    obtain ⟨p, hp, hq⟩ := Option.bind_eq_some_iff.1 h
    show m.walk ⟨s, []⟩ (Utf8.encodeChar c ++ Utf8.encode w) = _
    rw [walk_append, hm.walk_of_spelled hp .between (Utf8.spelled_encodeChar c), Option.bind_some,
      ih hq]

/-- Octets that are walked are those of a text and of the beginning of a character. -/
theorem walk_eq_some {s : Nat} {pre bs : List UInt8} {state : Option Partial} {p : Position}
    (hpre : Standing pre state) (h : m.walk ⟨s, pre⟩ bs = some p) :
    ∃ w state', m.run s w = some p.state ∧ pre ++ bs = Utf8.encode w ++ p.pending ∧
      Standing p.pending state' := by
  induction bs generalizing s pre state with
  | nil =>
    cases h
    exact ⟨[], state, rfl, by simp [Utf8.encode], hpre⟩
  | cons b bs ih =>
    rw [walk, consume_eq hpre] at h
    cases hb : Utf8.step state b with
    | refused => simp [hb] at h
    | more q =>
      rw [hb] at h
      simp only at h
      split at h
      · rename_i r hr
        split at hr
        -- The character goes on: the octet waits with those before it.
        · cases hr
          obtain ⟨w, state', hw, hbs, hp⟩ := ih (hpre.snoc hb) h
          exact ⟨w, state', hw, by rw [← hbs, List.append_assoc, List.singleton_append], hp⟩
        · cases hr
      · cases h
    | char c =>
      rw [hb] at h
      simp only at h
      cases hc : m.step s c with
      | none => simp [hc] at h
      | some q =>
        -- The character is whole: the octets that waited are its octets.
        rw [hc] at h
        obtain ⟨w, state', hw, hbs, hp⟩ := ih .between h
        refine ⟨c :: w, state', ?_, ?_, hp⟩
        · rw [run, hc, Option.bind_some, hw]
        · show pre ++ b :: bs = Utf8.encodeChar c ++ Utf8.encode w ++ p.pending
          rw [hpre.encodeChar_eq hb, List.append_assoc, ← hbs, List.append_assoc,
            List.singleton_append, List.nil_append]

/-- Where a walk ends a text may end exactly if its octets are those of an accepted text. -/
theorem Made.walk_final_iff (hm : m.Made classes) {bs : List UInt8} :
    (∃ p, m.walk origin bs = some p ∧ m.finalAt p = true) ↔
      ∃ w, bs = Utf8.encode w ∧ ∃ q, m.run start w = some q ∧ m.final q = true := by
  constructor
  · rintro ⟨⟨q, pending⟩, hp, hf⟩
    rw [finalAt, Bool.and_eq_true, List.isEmpty_iff] at hf
    obtain ⟨rfl, hf⟩ := hf
    obtain ⟨w, -, hw, hbs, -⟩ := walk_eq_some .between hp
    exact ⟨w, by simpa using hbs, q, hw, hf⟩
  · rintro ⟨w, rfl, q, hw, hf⟩
    exact ⟨⟨q, []⟩, hm.walk_encode hw, by simp [finalAt, hf]⟩

/-! ## Positions -/

/-- An octet, or none. -/
abbrev Slot := Option (Fin 256)

/-- The octets of some slots. -/
def octetsOf : Slot × Slot × Slot → List UInt8
  | (a, b, c) => [a, b, c].reduceOption.map UInt8.ofFin

theorem exists_octetsOf {bs : List UInt8} (h : bs.length ≤ 3) : ∃ slots, octetsOf slots = bs := by
  rcases bs with _ | ⟨a, _ | ⟨b, _ | ⟨c, _ | ⟨d, bs⟩⟩⟩⟩
  · exact ⟨(none, none, none), rfl⟩
  · exact ⟨(some a.toFin, none, none), rfl⟩
  · exact ⟨(some a.toFin, some b.toFin, none), rfl⟩
  · exact ⟨(some a.toFin, some b.toFin, some c.toFin), rfl⟩
  · simp only [List.length_cons] at h
    omega

/-- The positions that walks may end in: the start or a state that is alive, and at most three
octets. -/
def positions (m : Machine) : Finset Position :=
  (insert start (Finset.range m.living.size) ×ˢ (Finset.univ : Finset (Slot × Slot × Slot))).image
    fun x => ⟨x.1, octetsOf x.2⟩

theorem walk_mem_positions {bs : List UInt8} {p : Position} (h : m.walk origin bs = some p) :
    p ∈ m.positions := by
  obtain ⟨w, state, hw, -, hp⟩ := walk_eq_some .between h
  obtain ⟨slots, hslots⟩ := exists_octetsOf hp.length_le
  refine Finset.mem_image.2 ⟨(p.state, slots), ?_, by rw [hslots]⟩
  rw [Finset.mem_product, Finset.mem_insert, Finset.mem_range]
  exact ⟨(eq_or_alive_of_run hw).imp_right lt_size_of_alive, by simp only [Finset.mem_univ]⟩

end Machine

end GuidedJson.Automaton
