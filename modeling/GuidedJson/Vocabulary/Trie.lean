import GuidedJson.Vocabulary.Basic

/-! # Tries of tokens

The octets of all matchable tokens with shared beginnings. A node holds the ids of the tokens that
end there, in ascending order.
-/

namespace GuidedJson.Vocabulary

inductive Trie where
  | node (ids : List Nat) (children : List (UInt8 × Trie))

namespace Trie

def empty : Trie := .node [] []

def ids : Trie → List Nat
  | .node ids _ => ids

def children : Trie → List (UInt8 × Trie)
  | .node _ children => children

/-- Changes the child of an octet, which is made if it is missing. -/
def changeChild (b : UInt8) (f : Trie → Trie) : List (UInt8 × Trie) → List (UInt8 × Trie)
  | [] => [(b, f empty)]
  | (c, t) :: rest => if c = b then (c, f t) :: rest else (c, t) :: changeChild b f rest

/-- Adds a token by its octets. -/
def insert (id : Nat) : List UInt8 → Trie → Trie
  | [], .node ids children => .node (ids ++ [id]) children
  | b :: bs, .node ids children => .node ids (changeChild b (insert id bs) children)

/-- The trie of the matchable tokens. -/
def ofVocabulary (v : Vocabulary) : Trie :=
  (List.range v.size).foldl
    (fun t i => if v.isMatchable i then t.insert i (v.octets i) else t) empty

/-- The number of matchable tokens. -/
def tokenCount (v : Vocabulary) : Nat := ((List.range v.size).filter v.isMatchable).length

end Trie

end GuidedJson.Vocabulary
