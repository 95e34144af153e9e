import GuidedJson.Text.Hex
import GuidedJson.Proofs.Language

/-!
# The grammar of JSON

The texts of RFC 8259, over trees that keep the spelling of strings and numbers. White space may
stand around every sign of punctuation, and around the whole.
-/

namespace GuidedJson.Json

open Computability

/-! ## Characters -/

/-- Whether a character lies between two code points. -/
def Lies (low high : Nat) (c : Char) : Prop := low ≤ c.toNat ∧ c.toNat ≤ high

instance (low high : Nat) (c : Char) : Decidable (Lies low high c) := instDecidableAnd

def IsDigit : Char → Prop := Lies 0x30 0x39

def IsPositive : Char → Prop := Lies 0x31 0x39

def IsHexDigit (c : Char) : Prop := Lies 0x30 0x39 c ∨ Lies 0x41 0x46 c ∨ Lies 0x61 0x66 c

/-- What stands in a string as itself: no quotation mark, no backslash and no control character. -/
def IsUnescaped (c : Char) : Prop := Lies 0x20 0x21 c ∨ Lies 0x23 0x5B c ∨ Lies 0x5D 0x10FFFF c

/-- What stands for a character of its own behind a backslash. -/
def IsShortEscape (c : Char) : Prop := c ∈ ['"', '\\', '/', 'b', 'f', 'n', 'r', 't']

def IsBlank (c : Char) : Prop := c ∈ [' ', '\t', '\n', '\r']

/-- White space. -/
def Blank (cs : List Char) : Prop := ∀ c ∈ cs, IsBlank c

/-! ## Numbers and strings -/

/-- One digit or more. -/
def digits : Language Char := oneChar IsDigit * (oneChar IsDigit)∗

/-- A minus sign if any, and digits of which the first is no zero unless it is the only one. -/
def integerTexts : Language Char :=
  (1 + {['-']}) * ({['0']} + oneChar IsPositive * (oneChar IsDigit)∗)

def fractionTexts : Language Char := {['.']} * digits

def exponentTexts : Language Char :=
  oneChar (· ∈ ['e', 'E']) * (1 + oneChar (· ∈ ['+', '-'])) * digits

def numberTexts : Language Char := integerTexts * (1 + fractionTexts) * (1 + exponentTexts)

/-- One character of a string: itself, with a short escape, or by its code. -/
def charTexts : Language Char :=
  oneChar IsUnescaped + {['\\']} * oneChar IsShortEscape + {['\\', 'u']} * oneChar IsHexDigit ^ 4

/-- What stands between the quotation marks of a string. -/
def bodies : Language Char := charTexts∗

def quoted (body : List Char) : List Char := '"' :: body ++ ['"']

/-! ## The value of a string -/

/-- The code point that a letter stands for behind a backslash. -/
def escapeValue : Char → Nat
  | 'b' => 8
  | 't' => 9
  | 'n' => 10
  | 'f' => 12
  | 'r' => 13
  | c => c.toNat

/-- The codes that the characters of a string stand for, surrogates by themselves. -/
def codes : List Char → List Nat
  | '\\' :: 'u' :: a :: b :: c :: d :: rest =>
    [a, b, c, d].foldl (fun n x => 16 * n + Text.hexValue x) 0 :: codes rest
  | '\\' :: c :: rest => escapeValue c :: codes rest
  | c :: rest => c.toNat :: codes rest
  | [] => []

/-- A pair of surrogates is one code point. -/
def joinPairs : List Nat → List Nat
  | h :: l :: rest =>
    if 0xD800 ≤ h ∧ h < 0xDC00 ∧ 0xDC00 ≤ l ∧ l < 0xE000 then
      (0x10000 + (h - 0xD800) * 0x400 + (l - 0xDC00)) :: joinPairs rest
    else h :: joinPairs (l :: rest)
  | rest => rest

/-- The code points of a string that is spelled between quotation marks. -/
def points (body : List Char) : List Nat := joinPairs (codes body)

/-! ## Trees and their texts -/

/-- A value with the spelling of its numbers and strings; the quotation marks are left out. -/
inductive Tree where
  | null
  | bool (b : Bool)
  | number (spelling : List Char)
  | string (body : List Char)
  | array (items : List Tree)
  | object (members : List (List Char × Tree))

def Tree.boolText (b : Bool) : List Char := if b then "true".toList else "false".toList

/-- Whether a text is several texts between commas, with white space around them. -/
inductive Separated {α : Type} (P : α → List Char → Prop) : List α → List Char → Prop
  | one {x a cs b} : Blank a → P x cs → Blank b → Separated P [x] (a ++ cs ++ b)
  | cons {x xs a cs b ds} : Blank a → P x cs → Blank b → Separated P xs ds →
      Separated P (x :: xs) (a ++ cs ++ b ++ ',' :: ds)

mutual
/-- Whether a text is a value without white space around it. -/
inductive ValueText : Tree → List Char → Prop
  | null : ValueText .null "null".toList
  | bool (b : Bool) : ValueText (.bool b) (Tree.boolText b)
  | number {cs} : cs ∈ numberTexts → ValueText (.number cs) cs
  | string {body} : body ∈ bodies → ValueText (.string body) (quoted body)
  | noItems {ws} : Blank ws → ValueText (.array []) ('[' :: ws ++ [']'])
  | array {ts cs} : Separated ValueText ts cs → ValueText (.array ts) ('[' :: cs ++ [']'])
  | noMembers {ws} : Blank ws → ValueText (.object []) ('\x7b' :: ws ++ ['\x7d'])
  | object {ms cs} : Separated MemberText ms cs →
      ValueText (.object ms) ('\x7b' :: cs ++ ['\x7d'])

/-- Whether a text is a name and a value with a colon between them. -/
inductive MemberText : List Char × Tree → List Char → Prop
  | mk {name t a b cs} : name ∈ bodies → Blank a → Blank b → ValueText t cs →
      MemberText (name, t) (quoted name ++ a ++ ':' :: b ++ cs)
end

/-- Whether a text is a JSON text of a value. -/
def IsText (t : Tree) (cs : List Char) : Prop :=
  ∃ a body b, Blank a ∧ ValueText t body ∧ Blank b ∧ cs = a ++ body ++ b

/-! ## Spellings -/

mutual
/-- Whether the numbers and strings of a tree are spelled as JSON has them. -/
def Tree.Spelled : Tree → Prop
  | .null | .bool _ => True
  | .number cs => cs ∈ numberTexts
  | .string body => body ∈ bodies
  | .array items => Tree.AllSpelled items
  | .object members => Tree.MembersSpelled members

def Tree.AllSpelled : List Tree → Prop
  | [] => True
  | t :: ts => t.Spelled ∧ Tree.AllSpelled ts

def Tree.MembersSpelled : List (List Char × Tree) → Prop
  | [] => True
  | (name, t) :: ms => name ∈ bodies ∧ t.Spelled ∧ Tree.MembersSpelled ms
end

theorem Tree.allSpelled_iff {ts : List Tree} : AllSpelled ts ↔ ∀ t ∈ ts, t.Spelled := by
  induction ts with
  | nil => simp [AllSpelled]
  | cons t ts ih => rw [AllSpelled, ih, List.forall_mem_cons]

theorem mem_numberTexts_of_mem_integerTexts {cs : List Char} (h : cs ∈ integerTexts) :
    cs ∈ numberTexts := by
  refine Language.mem_mul.2 ⟨cs, Language.mem_mul.2 ⟨cs, h, [], ?_, by simp⟩, [], ?_, by simp⟩
  · exact .inl rfl
  · exact .inl rfl

theorem lies_of_char (c : Char) : Lies 0 0x10FFFF c := by
  have hc : c.toNat < 0xD800 ∨ 0xDFFF < c.toNat ∧ c.toNat < 0x110000 := c.valid
  exact ⟨Nat.zero_le _, by omega⟩

end GuidedJson.Json
