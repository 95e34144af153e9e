import GuidedJson.Decoding.Workspace
import GuidedJson.Proofs.Results

/-!
# Requests on items

What a request does that takes an item of a workspace, or a result that it has already: it leaves
the workspace as it is.
-/

namespace GuidedJson.Decoding.Workspace

/-- Writing what is there already changes nothing. -/
theorem setIfInBounds_self {α : Type} {xs : Array α} {i : Nat} {a : α} (h : xs[i]? = some a) :
    xs.setIfInBounds i a = xs := by
  apply Array.ext_getElem?
  intro j
  rw [Array.getElem?_setIfInBounds]
  split
  next hij =>
    subst hij
    split <;> simp_all
  next => rfl

section Items

variable {w : Workspace} {α : Type} {i : Nat} {a : α}

theorem item_eq_ok {items : Array α} (h : items[i]? = some a) : item items i = .ok a := by
  rw [item, h]

theorem yields_matcher {m : Matcher Tensors} (h : w.matchers[i]? = some m) : (matcher i).Yields w m w :=
  Action.Yields.bind (a := w) ⟨rfl, rfl⟩ ⟨item_eq_ok h, rfl⟩

theorem yields_step {s : Step} (h : w.steps[i]? = some s) : (step i).Yields w s w :=
  Action.Yields.bind (a := w) ⟨rfl, rfl⟩ ⟨item_eq_ok h, rfl⟩

theorem yields_processor {q : Processor} (h : w.processors[i]? = some q) :
    (processor i).Yields w q w :=
  Action.Yields.bind (a := w) ⟨rfl, rfl⟩ ⟨item_eq_ok h, rfl⟩

theorem yields_ok {x : Except Failure α} (h : x = .ok a) : (liftM x : Request α).Yields w a w :=
  ⟨h, rfl⟩

theorem yields_result {x : Logged α} (h : x.result = .ok a) :
    (liftM x : Request α).Yields w a w := ⟨h, rfl⟩

end Items

end GuidedJson.Decoding.Workspace
