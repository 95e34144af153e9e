import GuidedJson.Proofs.Automaton.Covers
import GuidedJson.Proofs.Automaton.Walks
import GuidedJson.Proofs.Text.Beginnings

/-!
# Viable octets

In the machine of an expression that is made of ample sets, octets are walked exactly if they begin
the octets of a text that the expression matches. So nothing is ever consumed that is no UTF-8, and
a character that is not whole is kept exactly as long as one that it may become leads on.
-/

namespace GuidedJson.Automaton

open Text
open Text.Utf8 (Begins)
open Pattern (CharSet Regex)

namespace Machine

/-- Whether some text can be ended from a state. -/
def Live (m : Machine) (s : Nat) : Prop := ∃ w q, m.run s w = some q ∧ m.final q = true

/-- What walking octets comes to where a machine is to accept some texts: what is walked, where a
text may end, which octets inside a character are kept, and that all of them are UTF-8. -/
structure Viable (m : Machine) (accepted : List Char → Prop) : Prop where
  walk_iff : ∀ bs, (∃ p, m.walk origin bs = some p) ↔ ∃ w, accepted w ∧ bs <+: Utf8.encode w
  final_iff : ∀ bs p, m.walk origin bs = some p →
    (m.finalAt p = true ↔ ∃ w, accepted w ∧ bs = Utf8.encode w)
  keep_iff : ∀ bs p b, m.walk origin bs = some p →
    (m.consume p b = some ⟨p.state, p.pending ++ [b]⟩ ↔ ∃ c rest q,
      Utf8.encodeChar c = p.pending ++ b :: rest ∧ rest ≠ [] ∧ m.step p.state c = some q ∧
        m.Live q)
  spelled : ∀ bs p, m.walk origin bs = some p → ∃ w, bs = Utf8.encode w ++ p.pending ∧
    (p.pending = [] ∨ ∃ c rest, rest ≠ [] ∧ Utf8.encodeChar c = p.pending ++ rest)

/-- Octets of a character that is not whole are kept where a character can be read that they may
become. -/
theorem canRead_of_walk {m : Machine} {bs : List UInt8} {p : Position} {part : Utf8.Partial}
    (h : m.walk origin bs = some p) (hpart : Begins p.pending part) :
    m.canRead p.state part.span.1 part.span.2 = true := by
  rcases List.eq_nil_or_concat' bs with rfl | ⟨bs, b, rfl⟩
  · cases h
    have := hpart.bounds
    simp [origin] at this
  · rw [walk_append, Option.bind_eq_some_iff] at h
    obtain ⟨⟨s, pending⟩, hq, hb⟩ := h
    obtain ⟨-, state, -, -, hstanding⟩ := walk_eq_some .between hq
    rw [walk_singleton, consume_eq hstanding] at hb
    cases hstep : Utf8.step state b with
    | refused => simp [hstep] at hb
    | char c =>
      rw [hstep] at hb
      obtain ⟨q, -, rfl⟩ := Option.map_eq_some_iff.1 hb
      have := hpart.bounds
      simp at this
    | more owed =>
      rw [hstep] at hb
      simp only at hb
      split at hb
      · rename_i hread
        cases hb
        obtain rfl := (hstanding.snoc hstep).begins.unique hpart
        exact hread
      · cases hb

section Ample

variable {r : Regex} (h : r.MadeOf CharSet.Ample)
include h

theorem live_of_run {w : List Char} {s : Nat} (hw : (Machine.ofRegex r).run start w = some s) :
    (Machine.ofRegex r).Live s := by
  obtain ⟨v, hv⟩ := exists_matches_of_run h hw
  obtain ⟨q, hq, hf⟩ := mem_language_ofRegex.2 hv
  rw [run_append, hw, Option.bind_some] at hq
  exact ⟨v, q, hq, hf⟩

/-- The octets of a character that is not whole begin a character that leads on. -/
theorem exists_step_of_walk {w : List Char} {bs : List UInt8} {p : Position} {part : Utf8.Partial}
    (hwalk : (Machine.ofRegex r).walk origin bs = some p)
    (hw : (Machine.ofRegex r).run start w = some p.state) (hpart : Begins p.pending part) :
    ∃ c rest q, Utf8.encodeChar c = p.pending ++ rest ∧ rest ≠ [] ∧
      (Machine.ofRegex r).run start (w ++ [c]) = some q ∧
        (Machine.ofRegex r).step p.state c = some q := by
  obtain ⟨n, hn⟩ := hpart.exists_spans
  have hlow := (hpart.isValidChar_of_spans ⟨Nat.le_refl part.span.1, hn.1.trans hn.2⟩).1
  have hread := (canRead_iff h hw hlow (hn.1.trans hn.2) fun n hn hn' =>
    (hpart.isValidChar_of_spans ⟨hn, hn'⟩).2).1 (canRead_of_walk hwalk hpart)
  obtain ⟨c, hc, hc', hstep⟩ := hread
  obtain ⟨q, hq⟩ := Option.isSome_iff_exists.1 hstep
  obtain ⟨rest, hne, hrest⟩ := hpart.spans_iff.1 ⟨hc, hc'⟩
  exact ⟨c, rest, q, hrest, hne, by rw [run_append, hw, Option.bind_some, run_singleton, hq], hq⟩

/-- The machine of an expression walks what begins the octets of the texts it matches. -/
theorem viable_ofRegex : (Machine.ofRegex r).Viable r.Matches where
  walk_iff bs := by
    constructor
    · rintro ⟨p, hp⟩
      obtain ⟨w, state, hw, hbs, hstanding⟩ := walk_eq_some .between hp
      rw [List.nil_append] at hbs
      cases state with
      | none =>
        obtain ⟨v, hv⟩ := exists_matches_of_run h hw
        rw [hstanding.pending_eq_nil, List.append_nil] at hbs
        exact ⟨w ++ v, hv, Utf8.encode v, by rw [hbs, Utf8.encode_append]⟩
      -- The character that is not whole becomes one behind which a text can be ended.
      | some part =>
        obtain ⟨c, rest, q, hc, -, hq, -⟩ := exists_step_of_walk h hp hw hstanding.begins
        obtain ⟨v, hv⟩ := exists_matches_of_run h hq
        refine ⟨w ++ [c] ++ v, hv, rest ++ Utf8.encode v, ?_⟩
        rw [Utf8.encode_append, Utf8.encode_append, Utf8.encode_singleton, hc, hbs]
        simp only [List.append_assoc]
    · rintro ⟨w, hw, rest, hrest⟩
      obtain ⟨q, hq, -⟩ := mem_language_ofRegex.2 hw
      have hwalk := (made_ofRegex r).walk_encode hq
      rw [← hrest, walk_append, Option.bind_eq_some_iff] at hwalk
      obtain ⟨p, hp, -⟩ := hwalk
      exact ⟨p, hp⟩
  final_iff bs p hp := by
    have hfinal : (∃ p, (Machine.ofRegex r).walk origin bs = some p ∧
        (Machine.ofRegex r).finalAt p = true) ↔ ∃ w, r.Matches w ∧ bs = Utf8.encode w := by
      rw [(made_ofRegex r).walk_final_iff]
      exact exists_congr fun w => by rw [mem_language_ofRegex, and_comm]
    rw [← hfinal, hp]
    simp
  keep_iff bs p b hp := by
    obtain ⟨w, state, hw, -, hstanding⟩ := walk_eq_some .between hp
    constructor
    -- With the octet kept there is a longer walk, and what is pending in it can be completed.
    · intro hkeep
      have hwalk : (Machine.ofRegex r).walk origin (bs ++ [b]) =
          some ⟨p.state, p.pending ++ [b]⟩ := by
        rw [walk_append, hp, Option.bind_some, walk_singleton, hkeep]
      obtain ⟨v, after, -, -, hafter⟩ := walk_eq_some .between hwalk
      cases after with
      | none => simpa using hafter.pending_eq_nil
      | some part =>
        obtain ⟨c, rest, q, hc, hne, hq, hstep⟩ := exists_step_of_walk h hwalk hw hafter.begins
        rw [List.append_assoc, List.singleton_append] at hc
        exact ⟨c, rest, q, hc, hne, hstep, live_of_run h hq⟩
    · rintro ⟨c, rest, q, hc, hne, hq, -⟩
      obtain ⟨part, hpart, hspans⟩ := hstanding.step_of_encodeChar hc hne
      have hread := (made_ofRegex r).canRead_of_step hq hspans.1 hspans.2
      rw [consume_eq hstanding, hpart]
      simp only [hread, if_true]
  spelled bs p hp := by
    obtain ⟨w, state, hw, hbs, hstanding⟩ := walk_eq_some .between hp
    refine ⟨w, by rwa [List.nil_append] at hbs, ?_⟩
    cases state with
    | none => exact .inl hstanding.pending_eq_nil
    | some part =>
      obtain ⟨c, rest, -, hc, hne, -, -⟩ := exists_step_of_walk h hp hw hstanding.begins
      exact .inr ⟨c, rest, hne, hc⟩

end Ample

end Machine

end GuidedJson.Automaton
