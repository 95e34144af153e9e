import GuidedJson.Vocabulary.Basic

/-! # Tokenizer metadata

What a tokenizer declares of its tokens, and the vocabulary that follows from it: base tokens with
their ids, over them the added tokens, as many entries as the model has or as the highest id
needs. Ids outside the table are passed over, and so are tokens that should end a text but are not
in the table.
-/

namespace GuidedJson.Vocabulary

/-- A token that was added to the base tokens. -/
structure AddedToken (τ : Type) where
  id : Int
  content : τ
  special : Bool
deriving DecidableEq, Repr

/-- What is declared of tokens, which are texts or stand for them. -/
structure Metadata (τ : Type) where
  base : List (τ × Int)
  added : List (AddedToken τ)
  stages : List String
  eos : Option τ
  size : Option Int
deriving DecidableEq, Repr

/-- A table of tokens with what is known of them. -/
structure Table (τ : Type) where
  tokens : Array τ
  encoding : Encoding
  stop : List Int
  special : List Int

namespace Metadata

/-- The largest of numbers. -/
def largest? : List Int → Option Int
  | [] => none
  | n :: ns =>
    match largest? ns with
    | some m => some (max n m)
    | none => some n

variable {τ : Type} (d : Metadata τ)

/-- All ids that are declared. -/
def ids : List Int := d.base.map (·.2) ++ d.added.map (·.id)

/-- The size of the table: as declared, or one more than the highest id. -/
def tableSize : Int :=
  match d.size with
  | some n => n
  | none =>
    match largest? d.ids with
    | some n => n + 1
    | none => 0

/-- Writes an entry to its place; an id outside the table changes nothing. -/
def place (table : Array τ) (id : Int) (token : τ) : Array τ :=
  if inTable table.size id then table.setIfInBounds id.toNat token else table

/-- The tokens of a table: the base tokens, over them the added ones, and `gap` elsewhere. -/
def tokens (gap : τ) (size : Nat) : Array τ :=
  let base := d.base.foldl (fun t (token, id) => place t id token) (Array.replicate size gap)
  d.added.foldl (fun t a => place t a.id a.content) base

/-- The places of special tokens in a table. -/
def specialIds (size : Nat) : List Int :=
  (d.added.filter fun a => a.special && inTable size a.id).map (·.id)

/-- The first places of tokens in a table. -/
def firstPlaces [BEq τ] (table : Array τ) (tokens : List τ) : List Int :=
  tokens.filterMap fun t => (table.findIdx? (· == t)).map Int.ofNat

/-- The table; `extra` are further tokens that end a text. A special token that ends a text only
counts as ending it. -/
def table [BEq τ] (gap : τ) (extra : List τ) : Except VocabularyFault (Table τ) :=
  let size := d.tableSize
  if size ≤ 0 then .error .noDeclaredToken
  else
    let tokens := d.tokens gap size.toNat
    let stop := firstPlaces tokens (extra ++ d.eos.toList)
    let special := (d.specialIds size.toNat).filter fun i => !stop.contains i
    .ok ⟨tokens, .ofStages d.stages, stop, special⟩

/-- The vocabulary of tokens that are texts; a place without a token holds the empty text. -/
def build (d : Metadata String) (extra : List String) : Except Failure Vocabulary := do
  let t ← (d.table "" extra).mapError .vocabulary
  Vocabulary.of t.tokens t.encoding t.stop t.special

/-! ## Laws -/

@[simp] theorem size_place (t : Array τ) (id : Int) (token : τ) :
    (place t id token).size = t.size := by
  unfold place
  split <;> simp

/-- The table has the size that is asked for. -/
theorem size_tokens (gap : τ) (size : Nat) : (d.tokens gap size).size = size := by
  have base : ∀ (l : List (τ × Int)) (t : Array τ),
      (l.foldl (fun t (token, id) => place t id token) t).size = t.size := by
    intro l
    induction l with
    | nil => intro t; rfl
    | cons a l ih => intro t; simp [ih]
  have added : ∀ (l : List (AddedToken τ)) (t : Array τ),
      (l.foldl (fun t a => place t a.id a.content) t).size = t.size := by
    intro l
    induction l with
    | nil => intro t; rfl
    | cons a l ih => intro t; simp [ih]
  simp only [tokens, added, base, Array.size_replicate]

end Metadata

end GuidedJson.Vocabulary
