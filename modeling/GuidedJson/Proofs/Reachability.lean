import GuidedJson.Automaton.Reach
import Mathlib.Data.Finset.Card
import Mathlib.Logic.Relation

/-!
# Reachability

Both kinds of work lists find what can be reached from the points that they start with, and nothing
else. The points are only known to lie in some finite set, so the loops are followed with a measure:
the points of the set that are not found yet, and those that wait.
-/

namespace GuidedJson

open Std (HashMap HashSet)

/-! ## Loops -/

section Loops

variable {σ α : Type} {step : σ → Option σ} {next? : σ → Option α} {s t : σ}

/-- The state after so many steps, if there are as many. -/
def after (step : σ → Option σ) : Nat → σ → Option σ
  | 0, s => some s
  | n + 1, s => (step s).bind (after step n)

theorem after_add (i k : Nat) : after step (i + k) s = (after step i s).bind (after step k) := by
  induction i generalizing s with
  | zero => rw [Nat.zero_add, after, Option.bind_some]
  | succ i ih =>
    rw [Nat.succ_add, after, after, Option.bind_assoc]
    exact Option.bind_congr fun _ _ => ih

/-- What every step preserves holds after all of them. -/
theorem holds_after {P : σ → Prop} (hstep : ∀ {s t}, P s → step s = some t → P t) {n : Nat}
    (hs : P s) (h : after step n s = some t) : P t := by
  induction n generalizing s with
  | zero =>
    cases h
    exact hs
  | succ n ih =>
    obtain ⟨u, hu, h⟩ := Option.bind_eq_some_iff.1 h
    exact ih (hstep hs hu) h

/-- Whether a loop comes to an end, and no two of its steps take the same point. -/
structure Ends (step : σ → Option σ) (next? : σ → Option α) (s t : σ) : Prop where
  stops : ∃ n, after step n s = some t ∧ step t = none
  once : ∀ i j a, (after step i s).bind next? = some a →
    (after step j s).bind next? = some a → i = j

theorem exhaust_of_after {n : Nat} (h : after step n s = some t) (hstop : step t = none) :
    exhaust step s = t := by
  induction n generalizing s with
  | zero =>
    cases h
    exact exhaust_of_none hstop
  | succ n ih =>
    obtain ⟨u, hu, h⟩ := Option.bind_eq_some_iff.1 h
    exact (exhaust_of_some hu).trans (ih h)

theorem Ends.exhaust_eq (h : Ends step next? s t) : exhaust step s = t := by
  obtain ⟨n, hafter, hstop⟩ := h.stops
  exact exhaust_of_after hafter hstop

/-- A loop stops whose steps go down in a well-founded order. -/
theorem exists_after {P : σ → Prop} {r : σ → σ → Prop} (hr : WellFounded r)
    (hstep : ∀ {s t}, P s → step s = some t → P t ∧ r t s) (hs : P s) :
    ∃ n t, after step n s = some t ∧ step t = none := by
  induction s using hr.induction with
  | _ s ih =>
    cases h : step s with
    | none => exact ⟨0, s, rfl, h⟩
    | some u =>
      obtain ⟨hu, hless⟩ := hstep hs h
      obtain ⟨n, t, hafter, hstop⟩ := ih u hless hu
      exact ⟨n + 1, t, by rw [after, h, Option.bind_some, hafter], hstop⟩

/-- No point is taken twice where it can be told from a state which points were taken before. -/
theorem eq_of_taken {P : σ → Prop} (Taken : σ → α → Prop)
    (hstep : ∀ {s t}, P s → step s = some t → P t)
    (htakes : ∀ {s t a}, P s → step s = some t → next? s = some a ∨ Taken s a → Taken t a)
    (hnot : ∀ {s a}, Taken s a → next? s ≠ some a) (hs : P s) :
    ∀ i j a, (after step i s).bind next? = some a → (after step j s).bind next? = some a →
      i = j := by
  -- A point is not taken again after the step that takes it.
  have hless : ∀ i j a, i < j → (after step i s).bind next? = some a →
      (after step j s).bind next? ≠ some a := by
    intro i j a hij hi hj
    obtain ⟨k, rfl⟩ := Nat.exists_eq_add_of_lt hij
    obtain ⟨u, hu, hnext⟩ := Option.bind_eq_some_iff.1 hi
    obtain ⟨t, ht, hagain⟩ := Option.bind_eq_some_iff.1 hj
    rw [Nat.add_assoc, Nat.add_comm k, after_add, hu, Option.bind_some, Nat.add_comm, after] at ht
    obtain ⟨v, hv, ht⟩ := Option.bind_eq_some_iff.1 ht
    have hu := holds_after hstep hs hu
    have hkept := holds_after (P := fun v => P v ∧ Taken v a)
      (fun h hstep' => ⟨hstep h.1 hstep', htakes h.1 hstep' (.inr h.2)⟩)
      ⟨hstep hu hv, htakes hu hv (.inl hnext)⟩ ht
    exact hnot hkept.2 hagain
  intro i j a hi hj
  rcases Nat.lt_trichotomy i j with h | h | h
  · exact absurd hj (hless i j a h hi)
  · exact h
  · exact absurd hi (hless j i a h hj)

end Loops

/-! ## Edges -/

section Edges

variable {α β : Type} {edges : α → β} {targets : β → List α}

/-- Whether an edge leads from one point to another. -/
def Leads (edges : α → β) (targets : β → List α) (a b : α) : Prop := b ∈ targets (edges a)

/-- Whether edges lead from one of some points to another point. -/
def ReachedFrom (edges : α → β) (targets : β → List α) (points : List α) (a : α) : Prop :=
  ∃ s ∈ points, Relation.ReflTransGen (Leads edges targets) s a

theorem ReachedFrom.of_mem {points : List α} {a : α} (h : a ∈ points) :
    ReachedFrom edges targets points a := ⟨a, h, .refl⟩

theorem ReachedFrom.tail {points : List α} {a b : α} (h : ReachedFrom edges targets points a)
    (hb : b ∈ targets (edges a)) : ReachedFrom edges targets points b := by
  obtain ⟨s, hs, hsa⟩ := h
  exact ⟨s, hs, hsa.tail hb⟩

/-- What has the points and goes along with the edges has all that is reached. -/
theorem ReachedFrom.induction {points : List α} {P : α → Prop} (hpoints : ∀ a ∈ points, P a)
    (htail : ∀ a, P a → ∀ b ∈ targets (edges a), P b) {a : α}
    (h : ReachedFrom edges targets points a) : P a := by
  obtain ⟨s, hs, hsa⟩ := h
  induction hsa with
  | refl => exact hpoints s hs
  | tail _ hbc ih => exact htail _ ih _ hbc

end Edges

/-! ## Searching -/

namespace Search

variable {α β : Type} [BEq α] [Hashable α] {edges : α → β} {targets : β → List α}
  {points : List α} {s t : Search α β} {a : α}

/-- What a turn can do: it passes by a point that is settled, or it settles the point. -/
theorem turn_cases (h : s.turn edges targets = some t) : ∃ a rest, s.queue = a :: rest ∧
    (a ∈ s.settled ∧ t = { s with queue := rest } ∨ a ∉ s.settled ∧
      t = ⟨rest ++ (targets (edges a)).filter fun b => !(s.settled.insert a (edges a)).contains b,
        s.settled.insert a (edges a)⟩) := by
  unfold turn at h
  split at h
  · cases h
  · rename_i a rest hqueue
    refine ⟨a, rest, hqueue, ?_⟩
    split at h
    · rename_i hsettled
      exact .inl ⟨HashMap.contains_iff_mem.1 hsettled, (Option.some.inj h).symm⟩
    · rename_i hsettled
      exact .inr ⟨fun hmem => hsettled (HashMap.contains_iff_mem.2 hmem), (Option.some.inj h).symm⟩

theorem queue_of_turn_eq_none (h : s.turn edges targets = none) : s.queue = [] := by
  unfold turn at h
  split at h
  · assumption
  · split at h <;> cases h

theorem next?_eq_some_iff :
    s.next? = some a ↔ s.queue.head? = some a ∧ a ∉ s.settled := by
  rw [next?, Option.filter_eq_some_iff, Bool.not_eq_true', ← Bool.not_eq_true,
    HashMap.contains_iff_mem]

theorem found_eq (h : Ends (turn edges targets) next? (start points) t) :
    found edges targets points = t.settled := by
  rw [found, h.exhaust_eq]

/-- What holds between two turns: the edges of a settled point are its own and lead to points that
are settled or wait; the first points are among these, and nothing else is but what is reached. -/
structure Invariant (edges : α → β) (targets : β → List α) (points : List α) (s : Search α β) :
    Prop where
  own : ∀ a out, s.settled[a]? = some out → out = edges a
  closed : ∀ a ∈ s.settled, ∀ b ∈ targets (edges a), b ∈ s.settled ∨ b ∈ s.queue
  started : ∀ a ∈ points, a ∈ s.settled ∨ a ∈ s.queue
  reached : ∀ a, a ∈ s.settled ∨ a ∈ s.queue → ReachedFrom edges targets points a

/-- A point that waits and is settled need not wait. -/
theorem Invariant.pass {rest : List α} (h : Invariant edges targets points s)
    (hqueue : s.queue = a :: rest) (ha : a ∈ s.settled) :
    Invariant edges targets points { s with queue := rest } := by
  have hwaits : ∀ b, b ∈ s.settled ∨ b ∈ s.queue → b ∈ s.settled ∨ b ∈ rest := by
    rintro b (hb | hb)
    · exact .inl hb
    · rw [hqueue] at hb
      rcases List.mem_cons.1 hb with rfl | hb
      · exact .inl ha
      · exact .inr hb
  refine ⟨h.own, fun b hb c hc => hwaits c (h.closed b hb c hc),
    fun b hb => hwaits b (h.started b hb), ?_⟩
  rintro b (hb | hb)
  · exact h.reached b (.inl hb)
  · exact h.reached b (.inr (hqueue ▸ List.mem_cons_of_mem a hb))

variable [LawfulBEq α]

theorem invariant_start : Invariant edges targets points (start points) := by
  refine ⟨by simp [start], by simp [start], fun a ha => .inr ha, ?_⟩
  rintro a (ha | ha)
  · simp [start] at ha
  · exact .of_mem ha

theorem Invariant.settle {rest : List α} (h : Invariant edges targets points s)
    (hqueue : s.queue = a :: rest) : Invariant edges targets points
      ⟨rest ++ (targets (edges a)).filter fun b => !(s.settled.insert a (edges a)).contains b,
        s.settled.insert a (edges a)⟩ := by
  have ha : ReachedFrom edges targets points a :=
    h.reached a (.inr (hqueue ▸ List.mem_cons_self))
  have hwaits : ∀ b, b ∈ s.settled ∨ b ∈ s.queue →
      b ∈ s.settled.insert a (edges a) ∨ b ∈ rest := by
    rintro b (hb | hb)
    · exact .inl (HashMap.mem_insert.2 (.inr hb))
    · rw [hqueue] at hb
      rcases List.mem_cons.1 hb with rfl | hb
      · exact .inl HashMap.mem_insert_self
      · exact .inr hb
  refine ⟨?_, ?_, ?_, ?_⟩
  · intro b out hb
    rw [HashMap.getElem?_insert] at hb
    split at hb
    · rename_i heq
      obtain rfl := eq_of_beq heq
      exact (Option.some.inj hb).symm
    · exact h.own b out hb
  · intro b hb c hc
    rw [List.mem_append, List.mem_filter]
    by_cases hb' : b = a
    -- The edges of the point itself: what is not settled behind them waits now.
    · subst hb'
      by_cases hcs : c ∈ s.settled.insert b (edges b)
      · exact .inl hcs
      · exact .inr (.inr ⟨hc, by simpa using hcs⟩)
    · have hold : b ∈ s.settled := (HashMap.mem_insert.1 hb).resolve_left fun heq =>
        hb' (eq_of_beq heq).symm
      exact (hwaits c (h.closed b hold c hc)).imp_right .inl
  · intro b hb
    exact (hwaits b (h.started b hb)).imp_right (List.mem_append_left _)
  · rintro b (hb | hb)
    · rcases HashMap.mem_insert.1 hb with heq | hb
      · exact eq_of_beq heq ▸ ha
      · exact h.reached b (.inl hb)
    · rcases List.mem_append.1 hb with hb | hb
      · exact h.reached b (.inr (hqueue ▸ List.mem_cons_of_mem a hb))
      · exact ha.tail (List.mem_filter.1 hb).1

theorem Invariant.turn (h : Invariant edges targets points s)
    (hturn : s.turn edges targets = some t) : Invariant edges targets points t := by
  obtain ⟨a, rest, hqueue, ⟨ha, rfl⟩ | ⟨-, rfl⟩⟩ := turn_cases hturn
  · exact h.pass hqueue ha
  · exact h.settle hqueue

/-- The points of a set that are not settled. -/
def unsettled (area : Finset α) (s : Search α β) : Finset α := area.filter (· ∉ s.settled)

/-- A turn settles one more point of the set, or one point fewer waits. -/
theorem Invariant.descends {area : Finset α} (h : Invariant edges targets points s)
    (harea : ∀ a, ReachedFrom edges targets points a → a ∈ area)
    (hturn : s.turn edges targets = some t) : Prod.Lex (· < ·) (· < ·)
      ((unsettled area t).card, t.queue.length)
      ((unsettled area s).card, s.queue.length) := by
  obtain ⟨a, rest, hqueue, ⟨-, rfl⟩ | ⟨ha, rfl⟩⟩ := turn_cases hturn
  · apply Prod.Lex.right
    rw [hqueue]
    exact Nat.lt_succ_self _
  · apply Prod.Lex.left
    apply Finset.card_lt_card
    have hmem : a ∈ area := harea a (h.reached a (.inr (hqueue ▸ List.mem_cons_self)))
    refine ⟨?_, ?_⟩
    · intro b hb
      rw [unsettled, Finset.mem_filter] at hb ⊢
      exact ⟨hb.1, fun hs => hb.2 (HashMap.mem_insert.2 (.inr hs))⟩
    · intro hsub
      have hagain := hsub (Finset.mem_filter.2 ⟨hmem, ha⟩)
      exact (Finset.mem_filter.1 hagain).2 HashMap.mem_insert_self

/-- A point that is settled by a turn, or was so before, is settled after it. -/
theorem mem_settled_of_turn (hturn : s.turn edges targets = some t)
    (ha : s.next? = some a ∨ a ∈ s.settled) : a ∈ t.settled := by
  obtain ⟨b, rest, hqueue, hcases⟩ := turn_cases hturn
  have hhead : s.next? = some a → b = a := by
    intro hnext
    obtain ⟨hfirst, -⟩ := next?_eq_some_iff.1 hnext
    rw [hqueue] at hfirst
    exact Option.some.inj hfirst
  obtain ⟨hb, rfl⟩ | ⟨-, rfl⟩ := hcases
  · rcases ha with hnext | ha
    · exact hhead hnext ▸ hb
    · exact ha
  · rcases ha with hnext | ha
    · exact hhead hnext ▸ HashMap.mem_insert_self
    · exact HashMap.mem_insert.2 (.inr ha)

/-- Where only finitely many points are reached a search ends, and settles no point twice. -/
theorem exists_ends (area : Finset α)
    (harea : ∀ a, ReachedFrom edges targets points a → a ∈ area) :
    ∃ t, Ends (turn edges targets) next? (start points) t := by
  have hwf := (invImage (fun s : Search α β => ((unsettled area s).card, s.queue.length))
    (Prod.lex Nat.lt_wfRel Nat.lt_wfRel)).wf
  obtain ⟨n, t, hafter, hstop⟩ : ∃ n t,
      after (turn edges targets) n (start points) = some t ∧ t.turn edges targets = none :=
    exists_after hwf (fun h hturn => ⟨h.turn hturn, h.descends harea hturn⟩)
      invariant_start
  refine ⟨t, ⟨n, hafter, hstop⟩, eq_of_taken (fun s a => a ∈ s.settled) Invariant.turn
    (fun _ hturn ha => mem_settled_of_turn hturn ha) ?_ invariant_start⟩
  exact fun ha hnext => (next?_eq_some_iff.1 hnext).2 ha

/-- Nothing waits when a search ends, so what is settled has all that is reached. -/
theorem getElem?_settled_iff (h : Ends (turn edges targets) next? (start points) t) {out : β} :
    t.settled[a]? = some out ↔ ReachedFrom edges targets points a ∧ out = edges a := by
  obtain ⟨n, hafter, hstop⟩ := h.stops
  have hend : Invariant edges targets points t := holds_after Invariant.turn invariant_start hafter
  have hqueue : t.queue = [] := queue_of_turn_eq_none hstop
  constructor
  · intro ha
    have hmem : a ∈ t.settled := by rw [HashMap.mem_iff_isSome_getElem?, ha, Option.isSome_some]
    exact ⟨hend.reached a (.inl hmem), hend.own a out ha⟩
  · rintro ⟨ha, rfl⟩
    have hmem : a ∈ t.settled := ha.induction
      (fun b hb => (hend.started b hb).resolve_right (by simp [hqueue]))
      (fun b hb c hc => (hend.closed b hb c hc).resolve_right (by simp [hqueue]))
    have hget := HashMap.getElem?_eq_some_getElem hmem
    rw [hget, hend.own a _ hget]

end Search

/-! ## Spreading marks -/

namespace Spread

variable {α : Type} [BEq α] [Hashable α] {edges : α → List α} {points : List α} {s t : Spread α}
  {a : α}

theorem found_eq (h : Ends (turn edges) next? (start points) t) :
    found edges points = t.marked := by
  rw [found, h.exhaust_eq]

theorem queue_of_turn_eq_none (h : s.turn edges = none) : s.queue = [] := by
  unfold turn at h
  split at h
  · assumption
  · cases h

variable [LawfulBEq α]

/-- Points are marked that were not, and they wait in their order behind the others. -/
theorem foldl_mark (bs : List α) (s : Spread α) : ∃ fresh,
    (bs.foldl mark s).queue = s.queue ++ fresh ∧ fresh.Nodup ∧
      (∀ b, b ∈ fresh ↔ b ∈ bs ∧ b ∉ s.marked) ∧
        ∀ b, b ∈ (bs.foldl mark s).marked ↔ b ∈ s.marked ∨ b ∈ bs := by
  induction bs generalizing s with
  | nil => exact ⟨[], by simp⟩
  | cons c bs ih =>
    obtain ⟨fresh, hqueue, hnodup, hfresh, hmarked⟩ := ih (s.mark c)
    rw [List.foldl_cons, hqueue]
    simp only [hmarked]
    unfold mark at hfresh hmarked ⊢
    by_cases hc : c ∈ s.marked
    · simp only [HashSet.contains_iff_mem.2 hc, if_true] at hfresh ⊢
      refine ⟨fresh, rfl, hnodup, ?_, ?_⟩
      · intro b
        rw [hfresh, List.mem_cons]
        constructor
        · exact fun h => ⟨.inr h.1, h.2⟩
        · rintro ⟨rfl | hb, hnot⟩
          · exact absurd hc hnot
          · exact ⟨hb, hnot⟩
      · intro b
        rw [List.mem_cons]
        constructor
        · exact fun h => h.imp_right .inr
        · rintro (hb | rfl | hb)
          · exact .inl hb
          · exact .inl hc
          · exact .inr hb
    · have hcontains : s.marked.contains c = false :=
        Bool.eq_false_iff.2 fun h => hc (HashSet.contains_iff_mem.1 h)
      simp only [hcontains, Bool.false_eq_true, if_false, HashSet.mem_insert, beq_iff_eq,
        not_or] at hfresh ⊢
      refine ⟨c :: fresh, by simp, ?_, ?_, ?_⟩
      · exact List.nodup_cons.2 ⟨fun h => ((hfresh c).1 h).2.1 rfl, hnodup⟩
      · intro b
        rw [List.mem_cons, List.mem_cons, hfresh]
        by_cases hb : b = c
        · subst hb
          simp [hc]
        · simp [hb, Ne.symm hb]
      · intro b
        rw [List.mem_cons, or_assoc, or_left_comm, eq_comm]

/-- What a turn does: the first point waits no longer, and of what its edges lead to the points that
are not marked become so and wait behind the others. -/
theorem turn_cases (h : s.turn edges = some t) : ∃ a rest fresh, s.queue = a :: rest ∧
    t.queue = rest ++ fresh ∧ fresh.Nodup ∧ (∀ b, b ∈ fresh ↔ b ∈ edges a ∧ b ∉ s.marked) ∧
      ∀ b, b ∈ t.marked ↔ b ∈ s.marked ∨ b ∈ edges a := by
  unfold turn at h
  split at h
  · cases h
  · rename_i a rest hqueue
    cases h
    obtain ⟨fresh, hspread⟩ := foldl_mark (edges a) { s with queue := rest }
    exact ⟨a, rest, fresh, hqueue, hspread⟩

/-- What holds between two turns: the points that wait are marked and wait once; the edges of the
other marked points lead to marked points; the first points are marked, and nothing else is but what
is reached. -/
structure Invariant (edges : α → List α) (points : List α) (s : Spread α) : Prop where
  waits : ∀ a ∈ s.queue, a ∈ s.marked
  nodup : s.queue.Nodup
  closed : ∀ a ∈ s.marked, a ∈ s.queue ∨ ∀ b ∈ edges a, b ∈ s.marked
  started : ∀ a ∈ points, a ∈ s.marked
  reached : ∀ a ∈ s.marked, ReachedFrom edges id points a

theorem invariant_start (h : points.Nodup) : Invariant edges points (start points) := by
  have hmarked : ∀ a, a ∈ (start points).marked ↔ a ∈ points := by
    intro a
    simp [start]
  exact ⟨fun a ha => (hmarked a).2 ha, h, fun a ha => .inl ((hmarked a).1 ha),
    fun a ha => (hmarked a).2 ha, fun a ha => .of_mem ((hmarked a).1 ha)⟩

theorem Invariant.turn (h : Invariant edges points s) (hturn : s.turn edges = some t) :
    Invariant edges points t := by
  obtain ⟨a, rest, fresh, hqueue, hqueue', hnodup, hfresh, hmarked⟩ := turn_cases hturn
  have ha : a ∈ s.marked := h.waits a (hqueue ▸ List.mem_cons_self)
  have hrest : ∀ b ∈ rest, b ∈ s.queue := fun b hb => hqueue ▸ List.mem_cons_of_mem a hb
  refine ⟨?_, ?_, ?_, fun b hb => (hmarked b).2 (.inl (h.started b hb)), ?_⟩
  · intro b hb
    rw [hmarked]
    rcases List.mem_append.1 (hqueue' ▸ hb) with hb | hb
    · exact .inl (h.waits b (hrest b hb))
    · exact .inr ((hfresh b).1 hb).1
  · rw [hqueue', List.nodup_append']
    refine ⟨(List.nodup_cons.1 (hqueue ▸ h.nodup)).2, hnodup, ?_⟩
    intro b hb hb'
    exact ((hfresh b).1 hb').2 (h.waits b (hrest b hb))
  · intro b hb
    rw [hqueue', List.mem_append]
    simp only [hmarked]
    by_cases hold : b ∈ s.marked
    · rcases h.closed b hold with hwaits | hclosed
      · rcases List.mem_cons.1 (hqueue ▸ hwaits) with rfl | hwaits
        · exact .inr fun c hc => .inr hc
        · exact .inl (.inl hwaits)
      · exact .inr fun c hc => .inl (hclosed c hc)
    · exact .inl (.inr ((hfresh b).2 ⟨((hmarked b).1 hb).resolve_left hold, hold⟩))
  · intro b hb
    rcases (hmarked b).1 hb with hb | hb
    · exact h.reached b hb
    · exact (h.reached a ha).tail hb

/-- The points of a set that are not marked. -/
def unmarked (area : Finset α) (s : Spread α) : Finset α := area.filter (· ∉ s.marked)

/-- A point is either not marked, waits, or has been taken, and a turn takes one. -/
theorem Invariant.descends {area : Finset α} (h : Invariant edges points s)
    (harea : ∀ a, ReachedFrom edges id points a → a ∈ area)
    (hturn : s.turn edges = some t) : (unmarked area t).card + t.queue.length <
      (unmarked area s).card + s.queue.length := by
  have hinv := h.turn hturn
  obtain ⟨a, rest, fresh, hqueue, hqueue', hnodup, hfresh, hmarked⟩ := turn_cases hturn
  -- What is marked now was not marked before, so the fresh points are only counted elsewhere.
  have hcard : (unmarked area t).card + fresh.length ≤ (unmarked area s).card := by
    classical
    rw [← List.toFinset_card_of_nodup hnodup, ← Finset.card_union_of_disjoint]
    · apply Finset.card_le_card
      intro b hb
      rw [Finset.mem_union, unmarked, Finset.mem_filter, List.mem_toFinset] at hb
      rw [unmarked, Finset.mem_filter]
      rcases hb with ⟨hb, hnot⟩ | hb
      · exact ⟨hb, fun hs => hnot ((hmarked b).2 (.inl hs))⟩
      · have hwaits : b ∈ t.queue := hqueue' ▸ List.mem_append_right rest hb
        exact ⟨harea b (hinv.reached b (hinv.waits b hwaits)), ((hfresh b).1 hb).2⟩
    · rw [Finset.disjoint_left]
      intro b hb hb'
      exact (Finset.mem_filter.1 hb).2
        ((hmarked b).2 (.inr ((hfresh b).1 (List.mem_toFinset.1 hb')).1))
  rw [hqueue, hqueue', List.length_append, List.length_cons]
  omega

/-- Whether a point has been taken: it is marked and waits no longer. -/
def Taken (s : Spread α) (a : α) : Prop := a ∈ s.marked ∧ a ∉ s.queue

theorem Invariant.taken (h : Invariant edges points s) (hturn : s.turn edges = some t)
    (ha : s.next? = some a ∨ s.Taken a) : t.Taken a := by
  obtain ⟨b, rest, fresh, hqueue, hqueue', -, hfresh, hmarked⟩ := turn_cases hturn
  have hold : a ∈ s.marked ∧ a ∉ rest := by
    rcases ha with ha | ⟨ha, hwaits⟩
    · rw [next?, hqueue] at ha
      cases ha
      exact ⟨h.waits a (hqueue ▸ List.mem_cons_self), (List.nodup_cons.1 (hqueue ▸ h.nodup)).1⟩
    · exact ⟨ha, fun h => hwaits (hqueue ▸ List.mem_cons_of_mem b h)⟩
  -- Only points that are not marked begin to wait.
  refine ⟨(hmarked a).2 (.inl hold.1), ?_⟩
  rw [hqueue', List.mem_append]
  rintro (h | h)
  · exact hold.2 h
  · exact ((hfresh a).1 h).2 hold.1

/-- Where only finitely many points are reached marks cease to spread, and no point is taken
twice. -/
theorem exists_ends (area : Finset α) (hnodup : points.Nodup)
    (harea : ∀ a, ReachedFrom edges id points a → a ∈ area) :
    ∃ t, Ends (turn edges) next? (start points) t := by
  have hstart : Invariant edges points (start points) := invariant_start hnodup
  have hwf := (measure fun s : Spread α => (unmarked area s).card + s.queue.length).wf
  obtain ⟨n, t, hafter, hstop⟩ : ∃ n t,
      after (turn edges) n (start points) = some t ∧ t.turn edges = none :=
    exists_after hwf (fun h hturn => ⟨h.turn hturn, h.descends harea hturn⟩) hstart
  refine ⟨t, ⟨n, hafter, hstop⟩, eq_of_taken Taken Invariant.turn Invariant.taken ?_ hstart⟩
  exact fun ha hnext => ha.2 (List.mem_of_mem_head? hnext)

/-- What is marked when marks cease to spread is what is reached. -/
theorem mem_marked_iff (hnodup : points.Nodup)
    (h : Ends (turn edges) next? (start points) t) :
    a ∈ t.marked ↔ ReachedFrom edges id points a := by
  obtain ⟨n, hafter, hstop⟩ := h.stops
  have hend : Invariant edges points t :=
    holds_after Invariant.turn (invariant_start hnodup) hafter
  have hqueue : t.queue = [] := queue_of_turn_eq_none hstop
  constructor
  · exact hend.reached a
  · exact fun ha => ha.induction hend.started fun b hb =>
      (hend.closed b hb).resolve_left (by simp [hqueue])

end Spread

end GuidedJson
