import GuidedJson.Proofs.Decoding.Batches
import GuidedJson.Proofs.Decoding.Masking

/-!
# Calls of the hooks

A step answers what it is told as far as it can. It cannot mask a single number, for it asks how wide
the scores are, nor scores of a type that has nothing to fill in behind the table; and it cannot note
a rejected token that is too long to be written. A step over a closed matcher leaves the scores alone,
and stays as it is.
-/

namespace GuidedJson.Decoding

/-- A call of a hook of a step. The scores to mask are of any type. -/
inductive Hook (α : Type) where
  | promptStart
  | process (a : Arithmetic α) (s : Scores α)
  | sampled (token : Value)

namespace Hook

variable {α : Type}

/-- What a hook answers, and where its step is then. Only masking answers with scores. -/
def call : Hook α → Action (Matcher × Counts) (Option (Masked α))
  | .promptStart => do
    let (m, c) ← get
    set (← (Decoding.promptStart m : Logged Matcher), c)
    return none
  | .process a s => do
    let (m, c) ← get
    let (answer, m) := maskScores a s m
    set (m, c)
    return some (← (answer : Logged (Masked α)))
  | .sampled token => do
    let (m, c) ← get
    let (answer, y) := Decoding.sampled token m c
    set y
    let _ ← (answer : Logged Unit)
    return none

/-- Whether a step over a matcher can do what a hook is called for. -/
def Handled (m : Matcher) : Hook α → Prop
  | .promptStart => True
  | .process a s => m.closed = true ∨ (∃ e, a.penalty = .error e) ∨
      s.IsMaskable a m.grammar.vocabulary.size
  | .sampled token => token.Fits ∨ m.closed = false ∧
      ∃ id, token.toInteger = .ok id ∧ (m.accept? id).isSome = true

section Calls

variable {m : Matcher} {c : Counts} {a : Arithmetic α} {s : Scores α} {token : Value}

/-! ## Where a step is then -/

theorem yields_reply {σ β γ : Type} {answer : Logged β} {b : β} (h : answer.result = .ok b)
    (f : β → γ) (x y : σ) : (do set y; return f (← answer) : Action σ γ).Yields x (f b) y := by
  refine Action.Yields.bind (a := ⟨⟩) (t := y) ⟨rfl, rfl⟩ ?_
  exact Action.Yields.bind (a := b) ⟨h, rfl⟩ ⟨rfl, rfl⟩

theorem fails_reply {σ β γ : Type} {answer : Logged β} {e : Failure} (h : answer.result = .error e)
    (f : β → γ) (x y : σ) : (do set y; return f (← answer) : Action σ γ).Fails x e y := by
  refine Action.Yields.bind_fails (a := ⟨⟩) (t := y) ⟨rfl, rfl⟩ ?_
  have hanswer : Action.Fails (liftM answer) y e y := ⟨h, rfl⟩
  exact hanswer.bind _

/-- An action that yields where an answer is there, and fails where it is not, yields exactly then. -/
theorem exists_yields_of_answer {σ β γ : Type} {x : Action σ γ} {answer : Logged β} {t : σ}
    (hok : ∀ {b}, answer.result = .ok b → ∃ d y, x.Yields t d y)
    (herror : ∀ {e}, answer.result = .error e → ∃ y, x.Fails t e y) :
    (∃ d y, x.Yields t d y) ↔ ∃ b, answer.result = .ok b := by
  cases hresult : answer.result with
  | ok b => exact iff_of_true (hok hresult) ⟨b, rfl⟩
  | error e =>
    obtain ⟨y, hfails⟩ := herror hresult
    constructor
    · rintro ⟨d, z, hyields⟩
      exact absurd hfails (hyields.not_fails e y)
    · rintro ⟨b, hb⟩
      cases hb

theorem yields_call_promptStart :
    (call .promptStart : Action _ (Option (Masked α))).Yields (m, c) none
      (m.reset.toOption.getD m, c) := by
  refine Action.Yields.bind (a := (m, c)) ⟨rfl, rfl⟩ ?_
  refine Action.Yields.bind (a := m.reset.toOption.getD m) ⟨result_promptStart m, rfl⟩ ?_
  exact ⟨rfl, rfl⟩

theorem yields_call_sampled (h : (Decoding.sampled token m c).1.result = .ok ()) :
    (call (.sampled token) : Action _ (Option (Masked α))).Yields (m, c) none
      (Decoding.sampled token m c).2 := by
  refine Action.Yields.bind (a := (m, c)) ⟨rfl, rfl⟩ ?_
  exact yields_reply h (fun _ => none) (m, c) (Decoding.sampled token m c).2

theorem fails_call_sampled {e : Failure}
    (h : (Decoding.sampled token m c).1.result = .error e) :
    (call (.sampled token) : Action _ (Option (Masked α))).Fails (m, c) e
      (Decoding.sampled token m c).2 := by
  refine Action.Yields.bind_fails (a := (m, c)) ⟨rfl, rfl⟩ ?_
  exact fails_reply h (fun _ => none) (m, c) (Decoding.sampled token m c).2

/-- The buffer is filled, if the matcher is open, even where the scores cannot be masked. -/
theorem maskScores_snd (a : Arithmetic α) (s : Scores α) (m : Matcher) :
    (maskScores a s m).2 = filled m := by
  unfold maskScores filled
  cases m.fill <;> rfl

theorem yields_call_process {b : Masked α} (h : (maskScores a s m).1.result = .ok b) :
    (call (.process a s)).Yields (m, c) (some b) (filled m, c) := by
  refine Action.Yields.bind (a := (m, c)) ⟨rfl, rfl⟩ ?_
  rw [← maskScores_snd a s m]
  exact yields_reply h some (m, c) ((maskScores a s m).2, c)

theorem fails_call_process {e : Failure} (h : (maskScores a s m).1.result = .error e) :
    (call (.process a s)).Fails (m, c) e (filled m, c) := by
  refine Action.Yields.bind_fails (a := (m, c)) ⟨rfl, rfl⟩ ?_
  rw [← maskScores_snd a s m]
  exact fails_reply h some (m, c) ((maskScores a s m).2, c)

/-- Whatever a hook answers, its step is somewhere. -/
theorem snd_run_call_sampled (token : Value) (m : Matcher) (c : Counts) :
    ((call (.sampled token) : Action _ (Option (Masked α))).run (m, c)).2 =
      (Decoding.sampled token m c).2 := by
  cases h : (Decoding.sampled token m c).1.result with
  | ok u => exact (yields_call_sampled h).2
  | error e => exact (fails_call_sampled h).2

theorem snd_run_call_process (a : Arithmetic α) (s : Scores α) (m : Matcher) (c : Counts) :
    ((call (.process a s)).run (m, c)).2 = (filled m, c) := by
  cases h : (maskScores a s m).1.result with
  | ok b => exact (yields_call_process h).2
  | error e => exact (fails_call_process h).2

/-! ## Scores that can be masked -/

theorem result_maskScores_of_closed (h : m.closed = true) (a : Arithmetic α) (s : Scores α) :
    (maskScores a s m).1.result = .ok .untouched := by
  rw [maskScores, Matcher.fill_of_closed h]
  rfl

theorem result_maskScores_of_open (h : m.closed = false) {penalty : Bool → α}
    (hpenalty : a.penalty = .ok penalty) (s : Scores α) : (maskScores a s m).1.result =
      (s.penalize a (m.mask.penaltiesBy penalty m.grammar.vocabulary.size)).map .scores := by
  rw [maskScores, Matcher.fill_of_open h]
  dsimp only
  rw [maskedBy, hpenalty]
  dsimp only
  cases s.penalize a (m.mask.penaltiesBy penalty m.grammar.vocabulary.size) <;> rfl

/-- Scores are answered exactly if they can be masked, or need not be. -/
theorem exists_result_maskScores_iff : (∃ b, (maskScores a s m).1.result = .ok b) ↔
    (Hook.process a s).Handled m := by
  cases hopen : m.closed with
  | true => exact ⟨fun _ => .inl hopen, fun _ => ⟨_, result_maskScores_of_closed hopen a s⟩⟩
  | false =>
    cases hpenalty : a.penalty with
    | error e =>
      refine ⟨fun _ => .inr (.inl ⟨e, hpenalty⟩), fun _ => ⟨.untouched, ?_⟩⟩
      rw [maskScores, Matcher.fill_of_open hopen]
      dsimp only
      rw [maskedBy, hpenalty]
      rfl
    | ok penalty =>
      have hsize : (m.mask.penaltiesBy penalty m.grammar.vocabulary.size).length =
          m.grammar.vocabulary.size := by simp [Mask.penaltiesBy]
      have hhandled : (Hook.process a s).Handled m ↔ s.IsMaskable a m.grammar.vocabulary.size := by
        simp [Handled, hopen, hpenalty]
      rw [hhandled, result_maskScores_of_open hopen hpenalty, ← hsize,
        ← Scores.exists_penalize_iff s, hsize]
      cases s.penalize a (m.mask.penaltiesBy penalty m.grammar.vocabulary.size) <;>
        simp [Except.map]

/-! ## Tokens that are noted -/

/-- A value that stands for an integer is no longer than that. -/
theorem fits_of_toInteger {v : Value} {id : Int} (h : v.toInteger = .ok id) (hid : Json.Fits id) :
    v.Fits := by
  cases v with
  | int n =>
    obtain rfl := Except.ok.inj h
    exact hid
  | array vs => cases h
  | object ms => cases h
  | _ => trivial

/-- A sampled token is answered exactly if it can be written, or the matcher takes it. -/
theorem result_sampled_iff : (Decoding.sampled token m c).1.result = .ok () ↔
    (Hook.sampled token : Hook α).Handled m := by
  by_cases hfits : token.Fits
  · exact ⟨fun _ => .inl hfits, fun _ => result_sampled_of_fits hfits m c⟩
  -- A token that is not taken is shown in the log, which cannot be done.
  · have hfailed (message : String) : (Decoding.sampled.failed token message).result ≠ .ok () := by
      rw [result_failed, if_neg (mt (Value.isWritable_iff token).1 hfits)]
      intro h
      cases h
    simp only [Handled, hfits, false_or]
    unfold Decoding.sampled
    cases hinteger : token.toInteger with
    | error fault => exact ⟨fun h => absurd h (hfailed _), by simp⟩
    | ok id =>
      have hlong : Text.writeInteger? id = none :=
        if_neg (mt Json.isWritable_iff.1 (mt (fits_of_toInteger hinteger) hfits))
      dsimp only
      cases hclosed : m.closed with
      | true =>
        rw [Matcher.advance_of_closed hclosed]
        exact ⟨fun h => absurd h (hfailed _), by simp⟩
      | false =>
        rw [Matcher.advance_of_open hclosed]
        cases haccept : m.accept? id with
        | some n => simp [haccept]
        | none =>
          dsimp only
          rw [hlong]
          exact ⟨fun h => absurd h (hfailed _), by simp [haccept]⟩

end Calls

/-! ## Every call -/

theorem exists_yields_iff (h : Hook α) (x : Matcher × Counts) :
    (∃ a y, h.call.Yields x a y) ↔ h.Handled x.1 := by
  obtain ⟨m, c⟩ := x
  cases h with
  | promptStart => exact ⟨fun _ => trivial, fun _ => ⟨_, _, yields_call_promptStart⟩⟩
  | process a s =>
    rw [← exists_result_maskScores_iff]
    exact exists_yields_of_answer (fun hok => ⟨_, _, yields_call_process hok⟩)
      fun herror => ⟨_, fails_call_process herror⟩
  | sampled token =>
    rw [← result_sampled_iff (c := c)]
    exact (exists_yields_of_answer (fun hok => ⟨_, _, yields_call_sampled hok⟩)
      fun herror => ⟨_, fails_call_sampled herror⟩).trans Unique.exists_iff

/-- Scores of a floating-point type that have rows are always answered. -/
theorem handled_floats {type : FloatType} {s : Scores} {dims : List Nat} {n : Nat}
    (hs : s.HasShape (dims ++ [n])) (hdims : 0 ∉ dims) (m : Matcher) :
    (Hook.process type.arithmetic s).Handled m :=
  .inr (.inr ((hs.isMaskable_iff rfl hdims).2 ⟨fun _ => ⟨_, rfl⟩, _, rfl⟩))

/-- Scores of a type of integers are masked by an open matcher as far as its table goes. -/
theorem handled_integers_iff [Zero α] [Add α] {lowest : α} {name : String} {s : Scores α}
    {dims : List Nat} {n : Nat} (hs : s.HasShape (dims ++ [n])) (hdims : 0 ∉ dims) {m : Matcher}
    (hopen : m.closed = false) :
    (Hook.process (.integers lowest name) s).Handled m ↔ n ≤ m.grammar.vocabulary.size := by
  rw [Handled, hs.isMaskable_iff rfl hdims]
  simp [hopen, Arithmetic.integers]

end Hook

end GuidedJson.Decoding
