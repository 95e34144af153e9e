import GuidedJson.Mask.Words

/-! # Tensors

Masks lie in tensors. A tensor is reached by its handle, and whoever has the handle reads and
overwrites the same words as all others who have it. Handles are never used twice.
-/

namespace GuidedJson

/-- What a tensor is reached by. -/
structure Handle where
  number : Nat
deriving DecidableEq, Repr

/-- The tensors, in the order in which they were allocated. -/
structure Store where
  tensors : Array Mask

namespace Store

/-- The words of a tensor. -/
def read? (s : Store) (h : Handle) : Option Mask := s.tensors[h.number]?

/-- Overwrites the words of a tensor. -/
def write (s : Store) (h : Handle) (m : Mask) : Store := ⟨s.tensors.setIfInBounds h.number m⟩

/-- The handle of the tensor that is allocated next. -/
def next (s : Store) : Handle := ⟨s.tensors.size⟩

def allocate (s : Store) (m : Mask) : Store := ⟨s.tensors.push m⟩

/-! ## Laws -/

variable {s : Store} {h i : Handle} {m k : Mask}

theorem read?_write_self (hh : s.read? h = some k) : (s.write h m).read? h = some m := by
  obtain ⟨hlt, -⟩ := Array.getElem?_eq_some_iff.1 hh
  exact Array.getElem?_setIfInBounds_self_of_lt hlt

theorem read?_write_of_ne (hne : h ≠ i) : (s.write h m).read? i = s.read? i := by
  have hnumber : h.number ≠ i.number := fun heq => hne (congrArg Handle.mk heq)
  exact Array.getElem?_setIfInBounds_ne hnumber

/-- Writing keeps all tensors. -/
theorem exists_read?_write (hi : s.read? i = some k) : ∃ l, (s.write h m).read? i = some l := by
  by_cases hne : h = i
  · subst hne
    exact ⟨m, read?_write_self hi⟩
  · exact ⟨k, (read?_write_of_ne hne).trans hi⟩

theorem read?_allocate_next : (s.allocate m).read? s.next = some m :=
  Array.getElem?_push_size

theorem read?_allocate (hh : s.read? h = some k) : (s.allocate m).read? h = some k := by
  obtain ⟨hlt, rfl⟩ := Array.getElem?_eq_some_iff.1 hh
  exact Array.getElem?_push_lt hlt

/-- The handle of the next tensor leads nowhere yet. -/
theorem ne_next (hh : s.read? h = some k) : h ≠ s.next := by
  rintro rfl
  obtain ⟨hlt, -⟩ := Array.getElem?_eq_some_iff.1 hh
  exact Nat.lt_irrefl _ hlt

end Store

end GuidedJson
