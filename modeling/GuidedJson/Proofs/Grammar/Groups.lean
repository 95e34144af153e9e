import GuidedJson.Proofs.Grammar.Index

/-!
# Groups of tokens

The tokens that a position accepts are grouped by the position they end in. Walking them together
through their trie puts each into the group that its own walk names, once, and no other token into
any group.
-/

namespace GuidedJson

open Automaton (Machine Position)

namespace Vocabulary

variable {v : Vocabulary}

theorem lt_size_of_octets {i : Nat} (h : v.octets i ≠ []) : i < v.size := by
  by_contra hi
  have htoken : v.tokens[i]? = none := Array.getElem?_eq_none (Nat.le_of_not_lt hi)
  exact h (by rw [octets, htoken, ite_self])

theorem octets_eq_iff {i : Nat} {bs : List UInt8} (h : bs ≠ []) :
    v.octets i = bs ↔ v.decodedOctets i = .ok (some bs) := by
  have htoken : v.token? (i : Int) = v.tokens[i]? := by simp [token?]
  rw [octets, decodedOctets, lookup, htoken]
  cases v.isSpecial i with
  | true => simp [h.symm]
  | false =>
    cases v.tokens[i]? with
    | none => simpa using h.symm
    | some t =>
      cases hdecode : decodeOctets? v.encoding (codePoints t) with
      | none => simp [hdecode, h.symm]
      | some ds => simp [hdecode]

end Vocabulary

namespace Index

open Vocabulary (Trie)

variable {m : Machine} {v : Vocabulary}

/-! ## Keys -/

theorem targets_cons {p : Position} {ids : List Nat} {edges : Edges} :
    targets ((p, ids) :: edges) = p :: targets edges := rfl

theorem targets_addEdge {p : Position} {ids : List Nat} {edges : Edges} :
    targets (addEdge p ids edges) =
      if p ∈ targets edges then targets edges else targets edges ++ [p] := by
  induction edges with
  | nil => simp [targets, addEdge]
  | cons e edges ih =>
    obtain ⟨r, js⟩ := e
    unfold addEdge
    by_cases hr : r = p
    · simp [targets_cons, hr]
    · rw [if_neg hr, targets_cons, ih, targets_cons]
      by_cases hp : p ∈ targets edges
      · simp [hp]
      · simp [hp, Ne.symm hr]

theorem nodup_targets_addEdge {p : Position} {ids : List Nat} {edges : Edges}
    (h : (targets edges).Nodup) : (targets (addEdge p ids edges)).Nodup := by
  rw [targets_addEdge]
  split
  case isTrue => exact h
  case isFalse hp => exact List.nodup_append_comm.1 (List.nodup_cons.2 ⟨hp, h⟩)

mutual
theorem nodup_targets_ends {t : Trie} {p : Position} {found : Edges} (h : (targets found).Nodup) :
    (targets (ends m p t found)).Nodup := by
  obtain ⟨ids, children⟩ := t
  unfold ends
  apply nodup_targets_childEnds
  split
  · exact h
  · exact nodup_targets_addEdge h

theorem nodup_targets_childEnds (children : List (UInt8 × Trie)) {p : Position} {found : Edges}
    (h : (targets found).Nodup) : (targets (childEnds m p children found)).Nodup := by
  cases children with
  | nil => simpa only [childEnds] using h
  | cons child rest =>
    obtain ⟨b, t⟩ := child
    unfold childEnds
    apply nodup_targets_childEnds rest
    cases m.consume p b with
    | none => exact h
    | some q => exact nodup_targets_ends h
end

/-! ## Tokens of all groups -/

/-- The tokens of all groups. -/
def grouped (edges : Edges) : List Nat := edges.flatMap (·.2)

theorem grouped_addEdge {p : Position} {ids : List Nat} {edges : Edges} :
    (grouped (addEdge p ids edges)).Perm (grouped edges ++ ids) := by
  induction edges with
  | nil => simp [grouped, addEdge]
  | cons e edges ih =>
    obtain ⟨r, js⟩ := e
    unfold addEdge
    split
    · simp only [grouped, List.flatMap_cons, List.append_assoc]
      exact List.perm_append_comm.append_left _
    · simp only [grouped, List.flatMap_cons, List.append_assoc] at ih ⊢
      exact ih.append_left _

/-- The ids of the entries whose octets walk on from a position. -/
def walked (m : Machine) (p : Position) (entries : List (List UInt8 × Nat)) : List Nat :=
  (entries.filter fun e => (m.walk p e.1).isSome).map (·.2)

theorem walked_append {p : Position} {es fs : List (List UInt8 × Nat)} :
    walked m p (es ++ fs) = walked m p es ++ walked m p fs := by
  rw [walked, List.filter_append, List.map_append, walked, walked]

theorem walked_here {p : Position} (ids : List Nat) : walked m p (ids.map ([], ·)) = ids := by
  induction ids with
  | nil => rfl
  | cons i ids ih =>
    rw [List.map_cons, walked, List.filter_cons_of_pos (by simp), List.map_cons, ← walked, ih]

theorem walked_behind {p : Position} {b : UInt8} (es : List (List UInt8 × Nat)) :
    walked m p (es.map fun (bs, i) => (b :: bs, i)) =
      match m.consume p b with
      | some q => walked m q es
      | none => [] := by
  rw [walked, List.filter_map, List.map_map]
  cases hb : m.consume p b with
  | none => simp [Function.comp_def, Machine.walk, hb]
  | some q => simp [Function.comp_def, Machine.walk, hb, walked]

mutual
/-- The induction follows the trie, like the walk: an entry is grouped where its own walk ends. -/
theorem grouped_ends {t : Trie} {p : Position} {found : Edges} :
    (grouped (ends m p t found)).Perm (grouped found ++ walked m p t.entries) := by
  obtain ⟨ids, children⟩ := t
  have hhere : (grouped (if ids.isEmpty then found else addEdge p ids found)).Perm
      (grouped found ++ ids) := by
    split
    · rename_i hids
      rw [List.isEmpty_iff.1 hids, List.append_nil]
    · exact grouped_addEdge
  unfold ends
  rw [Trie.entries, walked_append, walked_here, ← List.append_assoc]
  exact (grouped_childEnds children).trans (hhere.append_right _)

theorem grouped_childEnds (children : List (UInt8 × Trie)) {p : Position} {found : Edges} :
    (grouped (childEnds m p children found)).Perm
      (grouped found ++ walked m p (Trie.childEntries children)) := by
  cases children with
  | nil => simp [childEnds, Trie.childEntries, walked]
  | cons child rest =>
    obtain ⟨b, t⟩ := child
    unfold childEnds
    rw [Trie.childEntries, walked_append, walked_behind, ← List.append_assoc]
    refine (grouped_childEnds rest).trans (List.Perm.append_right _ ?_)
    cases m.consume p b with
    | none => rw [List.append_nil]
    | some q => exact grouped_ends
end

/-! ## Groups of a vocabulary -/

/-- A token has one entry, so no token is in the groups twice. -/
theorem nodup_grouped_tokenEdges {p : Position} :
    (grouped (tokenEdges m (.ofVocabulary v) p)).Nodup := by
  have hwalked : (walked m p (Trie.ofVocabulary v).entries).Nodup := by
    have hperm := ((Trie.entries_ofVocabulary v).filter fun e => (m.walk p e.1).isSome).map (·.2)
    rw [List.filter_map, List.map_map] at hperm
    refine hperm.nodup_iff.2 (List.Nodup.map (fun _ _ h => h) ?_)
    exact (List.nodup_range.filter _).filter _
  rw [Trie.entries_eq, walked_append] at hwalked
  exact (grouped_childEnds _).nodup_iff.2 (List.nodup_append.1 hwalked).2.1

/-- Whether a token by itself leads from one position to another: it ends no text, is not special,
and puts out octets, at least one, that are walked. -/
def Lands (m : Machine) (v : Vocabulary) (p : Position) (i : Nat) (q : Position) : Prop :=
  v.isStop i = false ∧ v.isSpecial i = false ∧
    ∃ bs, v.decodedOctets i = .ok (some bs) ∧ bs ≠ [] ∧ m.walk p bs = some q

theorem lands_iff {p q : Position} {i : Nat} :
    Lands m v p i q ↔ v.isMatchable i = true ∧ m.walk p (v.octets i) = some q := by
  constructor
  · rintro ⟨hstop, -, bs, hbs, hne, hwalk⟩
    obtain rfl := (Vocabulary.octets_eq_iff hne).2 hbs
    have hmem : i ∉ v.stop := by simpa [Vocabulary.isStop] using hstop
    exact ⟨Vocabulary.isMatchable_iff.2 ⟨Vocabulary.lt_size_of_octets hne, hmem, hne⟩, hwalk⟩
  · rintro ⟨hi, hwalk⟩
    obtain ⟨-, hmem, hne⟩ := Vocabulary.isMatchable_iff.1 hi
    have hstop : v.isStop i = false := by simpa [Vocabulary.isStop] using hmem
    have hspecial : v.isSpecial i = false :=
      Bool.eq_false_iff.2 fun h => hne (Vocabulary.octets_of_isSpecial h)
    exact ⟨hstop, hspecial, _, (Vocabulary.octets_eq_iff hne).1 rfl, hne, hwalk⟩

/-- Walking the trie groups the tokens as their own walks do: a token is in the group of a position
exactly if it leads there by itself, no group is empty, every position has one group, and in all
groups together no token is there twice. -/
theorem groups_tokenEdges (m : Machine) (v : Vocabulary) (p : Position) :
    (∀ q i, LeadsTo (tokenEdges m (.ofVocabulary v) p) i q ↔ Lands m v p i q) ∧
      Filled (tokenEdges m (.ofVocabulary v) p) ∧
      (targets (tokenEdges m (.ofVocabulary v) p)).Nodup ∧
      (grouped (tokenEdges m (.ofVocabulary v) p)).Nodup := by
  refine ⟨fun q i => leadsTo_tokenEdges.trans lands_iff.symm, filled_tokenEdges, ?_,
    nodup_grouped_tokenEdges⟩
  exact nodup_targets_childEnds _ List.nodup_nil

end Index

end GuidedJson
