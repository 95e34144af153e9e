import GuidedJson.Automaton.Position
import GuidedJson.Mask.Words
import GuidedJson.Vocabulary.Trie

/-! # The index of an automaton over a vocabulary

Which token may come next at which position. Tokens are walked together through their trie. From
the start all positions are found that tokens lead to; of these the productive ones are kept, from
which tokens lead on to an end. A token is allowed where it leads to a productive position.
-/

namespace GuidedJson.Index

open Automaton (Machine Position)
open Std (HashMap HashSet)
open Vocabulary (Trie)

/-- The tokens that lead from one position to another. -/
abbrev Edges := List (Position × List Nat)

/-! ## Edges -/

/-- Adds tokens to a target. -/
def addEdge (target : Position) (ids : List Nat) : Edges → Edges
  | [] => [(target, ids)]
  | (p, js) :: rest =>
    if p = target then (p, js ++ ids) :: rest else (p, js) :: addEdge target ids rest

mutual
/-- The ends of the tokens below a node of the trie whose octets have led to a position. -/
def ends (m : Machine) (p : Position) : Trie → Edges → Edges
  | .node ids children, found =>
    childEnds m p children (if ids.isEmpty then found else addEdge p ids found)

def childEnds (m : Machine) (p : Position) : List (UInt8 × Trie) → Edges → Edges
  | [], found => found
  | (b, t) :: rest, found =>
    childEnds m p rest <|
      match m.consume p b with
      | some q => ends m q t found
      | none => found
end

/-- The tokens that are accepted at a position, by the position they end in. -/
def tokenEdges (m : Machine) (trie : Trie) (p : Position) : Edges :=
  childEnds m p trie.children []

def targets (edges : Edges) : List Position := edges.map (·.1)

/-! ## Productive positions -/

/-- The positions that tokens lead to from the start, with their edges. -/
def reachable (m : Machine) (trie : Trie) : HashMap Position Edges :=
  Search.found (tokenEdges m trie) targets [Machine.origin]

/-- Where the edges into each position come from. -/
def predecessors (edges : HashMap Position Edges) : HashMap Position (List Position) :=
  edges.fold
    (fun back p out => out.foldl (fun back (q, _) => back.insert q (p :: back.getD q [])) back) ∅

/-- The positions from which an end can be reached. -/
def productive (m : Machine) (edges : HashMap Position Edges) : HashSet Position :=
  let back := predecessors edges
  Spread.found (fun p => back.getD p []) (edges.keys.filter m.finalAt)

/-! ## Masks -/

/-- The ids that are allowed at a position. -/
def allowedIds (m : Machine) (v : Vocabulary) (useful : Position → Bool) (p : Position)
    (out : Edges) : List Nat :=
  (out.flatMap fun (q, ids) => if useful q then ids else []) ++
    if m.finalAt p then v.stop else []

/-- The masks of the productive positions. -/
def masks (m : Machine) (trie : Trie) (v : Vocabulary) : HashMap Position Mask :=
  let edges := reachable m trie
  let good := productive m edges
  edges.fold
    (fun found p out =>
      if good.contains p then
        found.insert p (Mask.ofIds v.size (allowedIds m v good.contains p out))
      else found) ∅

end GuidedJson.Index
