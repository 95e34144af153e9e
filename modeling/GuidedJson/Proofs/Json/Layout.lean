import GuidedJson.Json.Printer
import GuidedJson.Proofs.Json.Grammar

/-!
# Trees in a layout

A tree is written in a layout as a document is, with its numbers and strings as they are spelled.
What is written is a JSON text of the tree, since a layout adds nothing but white space. A string
that is written for a text has the code points of the text.
-/

namespace GuidedJson.Json

/-! ## Writing trees -/

/-- Items between brackets in a layout. -/
def laidOut (spacing : Spacing) (left right : Char) (items : List (List Char)) : List Char :=
  if items.isEmpty then [left, right]
  else
    left :: spacing.afterOpen.toList ++ spacing.between.toList.intercalate items ++
      spacing.beforeClose.toList ++ [right]

theorem toList_enclose (spacing : Spacing) (left right : Char) (items : List String) :
    (enclose spacing (String.ofList [left]) (String.ofList [right]) items).toList =
      laidOut spacing left right (items.map String.toList) := by
  unfold enclose laidOut
  cases items with
  | nil => simp
  | cons item items => simp [String.toList_intercalate]

/-- A name and its value. -/
def member (name value : List Char) : List Char := quoted name ++ ": ".toList ++ value

/-- A string is written in quotation marks, character by character. -/
theorem toList_jsonString (s : String) :
    (jsonString s).toList = quoted (s.toList.flatMap jsonChar) := by
  simp [quoted, jsonString, jsonChars]

namespace Tree

mutual
/-- The text of a tree that stands at a nesting depth. -/
def renderAt (indent : Option Int) (depth : Int) : Tree → List Char
  | .null => "null".toList
  | .bool b => boolText b
  | .number cs => cs
  | .string body => quoted body
  | .array items => laidOut (Spacing.at indent depth) '[' ']' (renderItems indent (depth + 1) items)
  | .object members =>
    laidOut (Spacing.at indent depth) '\x7b' '\x7d' (renderMembers indent (depth + 1) members)

def renderItems (indent : Option Int) (depth : Int) : List Tree → List (List Char)
  | [] => []
  | t :: ts => t.renderAt indent depth :: renderItems indent depth ts

def renderMembers (indent : Option Int) (depth : Int) : List (List Char × Tree) → List (List Char)
  | [] => []
  | (name, t) :: ms => member name (t.renderAt indent depth) :: renderMembers indent depth ms
end

/-- The text of a whole document. -/
def render (indent : Option Int) (t : Tree) : List Char := t.renderAt indent 0

theorem renderItems_eq_map (indent : Option Int) (depth : Int) (ts : List Tree) :
    renderItems indent depth ts = ts.map (renderAt indent depth) := by
  induction ts with
  | nil => rfl
  | cons t ts ih => rw [renderItems, ih, List.map_cons]

theorem renderMembers_eq_map (indent : Option Int) (depth : Int) (ms : List (List Char × Tree)) :
    renderMembers indent depth ms = ms.map fun m => member m.1 (m.2.renderAt indent depth) := by
  induction ms with
  | nil => rfl
  | cons m ms ih => rw [renderMembers, ih, List.map_cons]

/-! ## Documents as trees -/

mutual
/-- The tree of a document, its strings and numbers spelled as they are printed. -/
def ofValue : Value → Tree
  | .null => .null
  | .bool b => .bool b
  | .int n => .number (toString n).toList
  | .float x => .number (x.text .json).toList
  | .string s => .string (s.toList.flatMap jsonChar)
  | .array items => .array (ofValues items)
  | .object ms => .object (ofMembers ms)

def ofValues : List Value → List Tree
  | [] => []
  | v :: vs => ofValue v :: ofValues vs

def ofMembers : List (String × Value) → List (List Char × Tree)
  | [] => []
  | (k, v) :: ms => (k.toList.flatMap jsonChar, ofValue v) :: ofMembers ms
end

mutual
/-- The tree of a document is written as the document is. -/
theorem renderAt_ofValue (indent : Option Int) (depth : Int) (v : Value) :
    (ofValue v).renderAt indent depth = (v.renderAt indent depth).toList := by
  cases v with
  | null => rfl
  | bool b => cases b <;> rfl
  | int n => rfl
  | float x => rfl
  | string s => rw [ofValue, renderAt, Value.renderAt, toList_jsonString]
  | array items =>
    rw [ofValue, renderAt, renderItems_ofValues, Value.renderAt]
    exact (toList_enclose _ _ _ _).symm
  | object ms =>
    rw [ofValue, renderAt, renderMembers_ofMembers, Value.renderAt]
    exact (toList_enclose _ _ _ _).symm

theorem renderItems_ofValues (indent : Option Int) (depth : Int) (vs : List Value) :
    renderItems indent depth (ofValues vs) =
      (Value.renderItems indent depth vs).map String.toList := by
  cases vs with
  | nil => rfl
  | cons v vs =>
    rw [ofValues, renderItems, renderAt_ofValue, renderItems_ofValues, Value.renderItems,
      List.map_cons]

theorem renderMembers_ofMembers (indent : Option Int) (depth : Int) (ms : List (String × Value)) :
    renderMembers indent depth (ofMembers ms) =
      (Value.renderMembers indent depth ms).map String.toList := by
  cases ms with
  | nil => rfl
  | cons m ms =>
    obtain ⟨k, v⟩ := m
    rw [ofMembers, renderMembers, renderAt_ofValue, renderMembers_ofMembers, Value.renderMembers,
      List.map_cons, String.toList_append, String.toList_append, toList_jsonString]
    rfl
end

end Tree

/-! ## White space -/

theorem blank_nil : Blank [] := by simp [Blank]

theorem blank_newLine (indent depth : Int) : Blank (newLine indent depth).toList := by
  intro c hc
  simp only [newLine_eq, String.toList_append, String.toList_ofList, List.mem_append,
    List.mem_replicate] at hc
  rcases hc with hc | ⟨-, rfl⟩
  · have : c = '\n' := by simpa using hc
    subst this
    simp [IsBlank]
  · simp [IsBlank]

/-- A layout adds nothing but white space: after an opening, before a closing, and behind commas. -/
theorem blank_spacing (indent : Option Int) (depth : Int) :
    Blank (Spacing.at indent depth).afterOpen.toList ∧
      Blank (Spacing.at indent depth).beforeClose.toList ∧
      ∃ ws, (Spacing.at indent depth).between.toList = ',' :: ws ∧ Blank ws := by
  cases indent with
  | none =>
    refine ⟨blank_nil, blank_nil, [' '], by simp [Spacing.at], ?_⟩
    simp [Blank, IsBlank]
  | some n =>
    have hinner := blank_newLine n (depth + 1)
    refine ⟨hinner, blank_newLine n depth, (newLine n (depth + 1)).toList, ?_, hinner⟩
    simp [Spacing.at]

/-! ## Written trees are texts -/

theorem separated_intercalate {α : Type} {P : α → List Char → Prop} {f : α → List Char}
    {xs : List α} {ws a b : List Char} (hws : Blank ws) (ha : Blank a) (hb : Blank b)
    (hxs : ∀ x ∈ xs, P x (f x)) (hne : xs ≠ []) :
    Separated P xs (a ++ (',' :: ws).intercalate (xs.map f) ++ b) := by
  induction xs generalizing a with
  | nil => exact absurd rfl hne
  | cons x xs ih =>
    obtain ⟨hx, hxs⟩ := List.forall_mem_cons.1 hxs
    cases xs with
    | nil =>
      rw [List.map_singleton, List.intercalate_singleton]
      exact .one ha hx hb
    | cons y xs =>
      have hrest := ih hws hxs (by simp)
      have htext : a ++ (',' :: ws).intercalate ((x :: y :: xs).map f) ++ b =
          a ++ f x ++ [] ++ ',' :: (ws ++ (',' :: ws).intercalate ((y :: xs).map f) ++ b) := by
        simp [List.map_cons, List.intercalate_cons_cons]
      rw [htext]
      exact .cons ha hx blank_nil hrest

/-- What is laid out is texts between commas, with white space around them. -/
theorem exists_separated_laidOut {α : Type} {P : α → List Char → Prop} {f : α → List Char}
    {xs : List α} (indent : Option Int) (depth : Int) (left right : Char)
    (hxs : ∀ x ∈ xs, P x (f x)) (hne : xs ≠ []) : ∃ cs, Separated P xs cs ∧
      laidOut (Spacing.at indent depth) left right (xs.map f) = left :: cs ++ [right] := by
  obtain ⟨hopen, hclose, ws, hbetween, hws⟩ := blank_spacing indent depth
  refine ⟨_, separated_intercalate hws hopen hclose hxs hne, ?_⟩
  have hmap : (xs.map f).isEmpty = false := by simpa using hne
  rw [laidOut, hmap, hbetween]
  simp

theorem memberText_member {name value : List Char} {t : Tree} (hname : name ∈ bodies)
    (hvalue : ValueText t value) : MemberText (name, t) (member name value) := by
  have hspace : Blank [' '] := by simp [Blank, IsBlank]
  have htext : member name value = quoted name ++ [] ++ ':' :: [' '] ++ value := by simp [member]
  rw [htext]
  exact .mk hname blank_nil hspace hvalue

namespace Tree

mutual
/-- What is written of a tree is a JSON text of it, in every layout and at every depth. -/
theorem valueText_renderAt {t : Tree} (h : t.Spelled) (indent : Option Int) (depth : Int) :
    ValueText t (t.renderAt indent depth) := by
  cases t with
  | null => exact .null
  | bool b => exact .bool b
  | number cs => exact .number h
  | string body => exact .string h
  | array ts =>
    have hitems : ∀ t ∈ ts, ValueText t (t.renderAt indent (depth + 1)) :=
      valueText_items h indent _
    rw [renderAt, renderItems_eq_map]
    rcases eq_or_ne ts [] with rfl | hne
    · exact .noItems blank_nil
    · obtain ⟨cs, hcs, htext⟩ := exists_separated_laidOut indent depth '[' ']' hitems hne
      rw [htext]
      exact .array hcs
  | object ms =>
    have hmembers : ∀ m ∈ ms, MemberText m (member m.1 (m.2.renderAt indent (depth + 1))) :=
      memberText_members h indent _
    rw [renderAt, renderMembers_eq_map]
    rcases eq_or_ne ms [] with rfl | hne
    · exact .noMembers blank_nil
    · obtain ⟨cs, hcs, htext⟩ := exists_separated_laidOut indent depth '\x7b' '\x7d' hmembers hne
      rw [htext]
      exact .object hcs

theorem valueText_items {ts : List Tree} (h : AllSpelled ts) (indent : Option Int) (depth : Int) :
    ∀ t ∈ ts, ValueText t (t.renderAt indent depth) := by
  cases ts with
  | nil => simp
  | cons t ts =>
    exact List.forall_mem_cons.2
      ⟨valueText_renderAt h.1 indent depth, valueText_items h.2 indent depth⟩

theorem memberText_members {ms : List (List Char × Tree)} (h : MembersSpelled ms)
    (indent : Option Int) (depth : Int) :
    ∀ m ∈ ms, MemberText m (member m.1 (m.2.renderAt indent depth)) := by
  cases ms with
  | nil => simp
  | cons m ms =>
    obtain ⟨name, t⟩ := m
    exact List.forall_mem_cons.2 ⟨memberText_member h.1 (valueText_renderAt h.2.1 indent depth),
      memberText_members h.2.2 indent depth⟩
end

end Tree

/-! ## Strings that are written for texts -/

theorem hexDigits_four (n : Nat) : Text.hexDigits 4 n = [Text.hexDigit (n / 4096 % 16),
    Text.hexDigit (n / 256 % 16), Text.hexDigit (n / 16 % 16), Text.hexDigit (n % 16)] := by
  simp [Text.hexDigits, Nat.div_div_eq_div_mul]

theorem isHexDigit_hexDigit {n : Nat} (h : n < 16) : IsHexDigit (Text.hexDigit n) := by
  have all : ∀ m ∈ List.range 16, IsHexDigit (Text.hexDigit m) := by
    unfold IsHexDigit
    decide
  exact all n (List.mem_range.2 h)

/-- The ways in which a character is written into a string. -/
theorem jsonChar_cases (c : Char) :
    (∃ e, jsonChar c = ['\\', e] ∧ IsShortEscape e ∧ escapeValue e = c.toNat) ∨
      (c.toNat < 32 ∧ jsonChar c = '\\' :: 'u' :: Text.hexDigits 4 c.toNat) ∨
      (IsUnescaped c ∧ c ≠ '\\' ∧ jsonChar c = [c]) := by
  unfold jsonChar
  -- Short escapes come first, then codes of control characters; the rest stands for itself.
  by_cases hquote : c = '"'
  · exact .inl ⟨'"', by simp [hquote], by simp [IsShortEscape], by simp [escapeValue, hquote]⟩
  by_cases hslash : c = '\\'
  · exact .inl ⟨'\\', by simp [hslash], by simp [IsShortEscape], by simp [escapeValue, hslash]⟩
  by_cases hline : c = '\n'
  · exact .inl ⟨'n', by simp [hline], by simp [IsShortEscape], by simp [escapeValue, hline]⟩
  by_cases hreturn : c = '\r'
  · exact .inl ⟨'r', by simp [hreturn], by simp [IsShortEscape], by simp [escapeValue, hreturn]⟩
  by_cases htab : c = '\t'
  · exact .inl ⟨'t', by simp [htab], by simp [IsShortEscape], by simp [escapeValue, htab]⟩
  simp only [hquote, hslash, hline, hreturn, htab, if_false]
  by_cases hback : c.toNat = 8
  · exact .inl ⟨'b', by simp [hback], by simp [IsShortEscape], by simp [escapeValue, hback]⟩
  by_cases hfeed : c.toNat = 12
  · exact .inl ⟨'f', by simp [hfeed], by simp [IsShortEscape], by simp [escapeValue, hfeed]⟩
  rw [if_neg hback, if_neg hfeed]
  by_cases hcontrol : c.toNat < 32
  · exact .inr (.inl ⟨hcontrol, if_pos hcontrol⟩)
  · refine .inr (.inr ⟨?_, hslash, if_neg hcontrol⟩)
    have hquote' : c.toNat ≠ 0x22 := fun h => hquote (Char.toNat_inj.1 h)
    have hslash' : c.toNat ≠ 0x5C := fun h => hslash (Char.toNat_inj.1 h)
    have hlast := (lies_of_char c).2
    unfold IsUnescaped Lies
    omega

theorem codeEscape_mem_charTexts {a b c d : Char} (ha : IsHexDigit a) (hb : IsHexDigit b)
    (hc : IsHexDigit c) (hd : IsHexDigit d) : ['\\', 'u', a, b, c, d] ∈ charTexts := by
  refine .inr (Language.mem_mul.2 ⟨['\\', 'u'], rfl, [a, b, c, d], ?_, rfl⟩)
  refine Language.mem_pow.2 ⟨[[a], [b], [c], [d]], rfl, rfl, ?_⟩
  simp only [List.forall_mem_cons, mem_oneChar, List.cons.injEq, and_true, exists_eq_right', ha, hb,
    hc, hd, List.not_mem_nil, false_implies, implies_true]

/-- What is written for a character spells one character. -/
theorem jsonChar_mem_charTexts (c : Char) : jsonChar c ∈ charTexts := by
  rcases jsonChar_cases c with ⟨e, htext, he, -⟩ | ⟨-, htext⟩ | ⟨hc, -, htext⟩
  · rw [htext]
    exact .inl (.inr (Language.mem_mul.2 ⟨_, rfl, [e], ⟨e, he, rfl⟩, rfl⟩))
  · have hlt : ∀ n, n % 16 < 16 := fun n => Nat.mod_lt n (by decide)
    rw [htext, hexDigits_four]
    exact codeEscape_mem_charTexts (isHexDigit_hexDigit (hlt _)) (isHexDigit_hexDigit (hlt _))
      (isHexDigit_hexDigit (hlt _)) (isHexDigit_hexDigit (hlt _))
  · rw [htext]
    exact .inl (.inl ⟨c, hc, rfl⟩)

theorem codes_short {e : Char} (h : IsShortEscape e) (rest : List Char) :
    codes ('\\' :: e :: rest) = escapeValue e :: codes rest := by
  rw [codes]
  rintro _ _ _ _ _ rfl
  exact absurd h (by simp [IsShortEscape])

theorem codes_unescaped {c : Char} (h : c ≠ '\\') (rest : List Char) :
    codes (c :: rest) = c.toNat :: codes rest := by
  rw [codes]
  · rintro _ _ _ _ _ rfl
    exact absurd rfl h
  · rintro _ _ rfl
    exact absurd rfl h

theorem codes_jsonChar (c : Char) (rest : List Char) :
    codes (jsonChar c ++ rest) = c.toNat :: codes rest := by
  rcases jsonChar_cases c with ⟨e, htext, he, hvalue⟩ | ⟨hlt, htext⟩ | ⟨-, hslash, htext⟩
  · rw [htext, List.cons_append, List.cons_append, List.nil_append, codes_short he, hvalue]
  · rw [htext, hexDigits_four]
    simp only [List.cons_append, List.nil_append, codes, List.foldl_cons, List.foldl_nil,
      Text.hexValue_hexDigit (Nat.mod_lt _ (by decide : 0 < 16)), List.cons.injEq, and_true]
    omega
  · rw [htext, List.singleton_append, codes_unescaped hslash]

theorem joinPairs_toNat (cs : List Char) : joinPairs (cs.map Char.toNat) = cs.map Char.toNat := by
  induction cs with
  | nil => rfl
  | cons c cs ih =>
    cases cs with
    | nil => rfl
    | cons d cs =>
      -- A character is no surrogate, so there is nothing to join.
      have hc : c.toNat < 0xD800 ∨ 0xDFFF < c.toNat ∧ c.toNat < 0x110000 := c.valid
      rw [List.map_cons, List.map_cons, joinPairs, if_neg (by omega), ← List.map_cons, ih]

/-- A string that is written for a text has its code points. -/
theorem points_flatMap_jsonChar (cs : List Char) :
    points (cs.flatMap jsonChar) = cs.map Char.toNat := by
  have hcodes : codes (cs.flatMap jsonChar) = cs.map Char.toNat := by
    induction cs with
    | nil => rfl
    | cons c cs ih => rw [List.flatMap_cons, codes_jsonChar, ih, List.map_cons]
  rw [points, hcodes, joinPairs_toNat]

theorem flatMap_jsonChar_mem_bodies (cs : List Char) : cs.flatMap jsonChar ∈ bodies := by
  rw [List.flatMap_def]
  apply Language.join_mem_kstar
  rw [List.forall_mem_map]
  exact fun c _ => jsonChar_mem_charTexts c

/-- Whether a string is spelled as a text is printed. -/
def Printed (body : List Char) : Prop := ∃ cs : List Char, body = cs.flatMap jsonChar

namespace Tree

mutual
/-- The strings of a tree and the names of its members. -/
def strings : Tree → List (List Char)
  | .string body => [body]
  | .array ts => stringsOfItems ts
  | .object ms => stringsOfMembers ms
  | _ => []

def stringsOfItems : List Tree → List (List Char)
  | [] => []
  | t :: ts => strings t ++ stringsOfItems ts

def stringsOfMembers : List (List Char × Tree) → List (List Char)
  | [] => []
  | (body, t) :: ms => body :: (strings t ++ stringsOfMembers ms)
end

theorem mem_stringsOfItems {ts : List Tree} {t : Tree} (ht : t ∈ ts) {b : List Char}
    (hb : b ∈ t.strings) : b ∈ stringsOfItems ts := by
  induction ts with
  | nil => simp at ht
  | cons u ts ih =>
    rcases List.mem_cons.1 ht with rfl | ht
    · exact List.mem_append_left _ hb
    · exact List.mem_append_right _ (ih ht)

mutual
/-- The strings of a document are printed. -/
theorem printed_ofValue (v : Value) : ∀ b ∈ (ofValue v).strings, Printed b := by
  cases v with
  | null | bool b | int n | float x => simp [ofValue, strings]
  | string s =>
    rw [ofValue, strings, List.forall_mem_singleton]
    exact ⟨s.toList, rfl⟩
  | array items => exact printed_ofValues items
  | object ms => exact printed_ofMembers ms

theorem printed_ofValues (vs : List Value) : ∀ b ∈ stringsOfItems (ofValues vs), Printed b := by
  cases vs with
  | nil => simp [ofValues, stringsOfItems]
  | cons v vs =>
    rw [ofValues, stringsOfItems, List.forall_mem_append]
    exact ⟨printed_ofValue v, printed_ofValues vs⟩

theorem printed_ofMembers (ms : List (String × Value)) :
    ∀ b ∈ stringsOfMembers (ofMembers ms), Printed b := by
  cases ms with
  | nil => simp [ofMembers, stringsOfMembers]
  | cons m ms =>
    rw [ofMembers, stringsOfMembers, List.forall_mem_cons, List.forall_mem_append]
    exact ⟨⟨m.1.toList, rfl⟩, printed_ofValue m.2, printed_ofMembers ms⟩
end

end Tree

end GuidedJson.Json
