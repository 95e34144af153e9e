import GuidedJson.Proofs.Automaton.Viability
import GuidedJson.Proofs.Schema.Lengths

/-!
# Viable octets of schemas

The pattern of a schema is made of ample sets: characters stand for themselves, classes name ASCII
characters, and the one class that is negated leaves only ASCII characters out. So the automaton of
a schema walks exactly the octets that begin a text of its pattern, whatever the order of the
bounds, as long as there is an automaton.
-/

namespace GuidedJson

open Automaton (Machine)
open Json (quoted)
open Pattern

/-- Whether the pattern that a text spells matches a text. -/
def Pattern.Accepts (p : String) (w : List Char) : Prop := ∃ r, Regex.read p = .ok r ∧ r.Matches w

theorem Pattern.accepts_iff {p : String} {m : Machine} (hm : Grammar.machineOf p = .ok m)
    {w : List Char} : Pattern.Accepts p w ↔ m.Accepts w := by
  obtain ⟨r, hr, rfl⟩ := Grammar.machineOf_eq_ok.1 hm
  constructor
  · rintro ⟨s, hs, hw⟩
    rw [hr] at hs
    cases hs
    exact Machine.mem_language_ofRegex.2 hw
  · exact fun hw => ⟨r, hr, Machine.mem_language_ofRegex.1 hw⟩

/-- A pattern matches the texts that it spells. -/
theorem Pattern.Spells.accepts_iff {p : String} {l : Language Char} (h : Spells p.toList l)
    {w : List Char} : Pattern.Accepts p w ↔ w ∈ l := by
  obtain ⟨m, hm, haccepts⟩ := Schema.Node.exists_machineOf h
  exact (Pattern.accepts_iff hm).trans (haccepts w)

namespace Schema

/-! ## Leaves -/

theorem ampleAtom_escapeLiteralChar (c : Char) : AmpleAtom (escapeLiteralChar c) :=
  ⟨_, atom_escapeLiteralChar c, ample_single c⟩

theorem ampleText_flatMap_escape (cs : List Char) :
    AmpleText (cs.flatMap escapeLiteralChar) := by
  induction cs with
  | nil => exact ampleText_nil
  | cons c cs ih => exact (ampleAtom_escapeLiteralChar c).text.append ih

theorem ampleText_escapeLiteral (s : String) : AmpleText (escapeLiteral s).toList := by
  rw [escapeLiteral, String.toList_ofList]
  exact ampleText_flatMap_escape s.toList

theorem ampleText_plain {cs : List Char} (h : cs.any isSpecial = false) : AmpleText cs := by
  have hample := ampleText_flatMap_escape cs
  rwa [flatMap_escape_of_not_special h] at hample

theorem ampleAtom_digit : AmpleAtom "[0-9]".toList :=
  ⟨_, atom_digit, ample_of_ascii (by decide) ⟨'0', by decide⟩⟩

theorem ampleText_digits : AmpleText "[0-9]+".toList := ampleAtom_digit.quantified quantifies_plus

theorem ampleText_optional {cs : List Char} (h : AmpleOptions cs) :
    AmpleText ('(' :: cs ++ [')', '?']) := by
  have hgroup := h.quantified quantifies_question
  rwa [List.append_assoc] at hgroup

theorem ampleText_integerPattern : AmpleText integerPattern.toList := by
  have hminus : AmpleText "-?".toList :=
    (ampleAtom_escapeLiteralChar '-').quantified quantifies_question
  have hpositive : AmpleAtom "[1-9]".toList :=
    ⟨_, atom_positive, ample_of_ascii (by decide) ⟨'1', by decide⟩⟩
  have htail : AmpleText "[0-9]*".toList := ampleAtom_digit.quantified quantifies_star
  have hzero : AmpleText "0".toList := ampleText_plain (by decide)
  exact hminus.append (hzero.cons_options (hpositive.text.append htail).options).group

theorem ampleText_numberPattern : AmpleText numberPattern.toList := by
  have hfraction : AmpleText "\\.[0-9]+".toList :=
    (ampleAtom_escapeLiteralChar '.').text.append ampleText_digits
  have hletter : AmpleAtom "[eE]".toList :=
    ⟨_, atom_exponent, ample_of_ascii (by decide) ⟨'e', by decide⟩⟩
  have hsign : AmpleText "[+-]?".toList :=
    AmpleAtom.quantified ⟨_, atom_sign, ample_of_ascii (by decide) ⟨'+', by decide⟩⟩
      quantifies_question
  have hexponent : AmpleText "[eE][+-]?[0-9]+".toList :=
    (hletter.text.append hsign).append ampleText_digits
  have h := (ampleText_integerPattern.append (ampleText_optional hfraction.options)).append
    (ampleText_optional hexponent.options)
  rw [List.append_assoc] at h
  rw [numberPattern, String.toList_append]
  exact h

theorem ampleOptions_stringChar : AmpleOptions stringChar.toList := by
  have hunescaped : AmpleAtom "[^\"\\\\\\x00-\\x1f]".toList :=
    ⟨_, atom_unescaped, ample_of_ascii (by decide) ⟨'a', by decide⟩⟩
  have hletter : AmpleAtom "[\"\\\\/bfnrt]".toList :=
    ⟨_, atom_shortEscape, ample_of_ascii (by decide) ⟨'b', by decide⟩⟩
  have hdigit : AmpleAtom "[0-9a-fA-F]".toList :=
    ⟨_, atom_hexDigit, ample_of_ascii (by decide) ⟨'0', by decide⟩⟩
  have hslash : AmpleText "\\\\".toList := (ampleAtom_escapeLiteralChar '\\').text
  have hu : AmpleText "\\\\u".toList :=
    hslash.append (ampleText_plain (by decide : ['u'].any isSpecial = false))
  have hcode : AmpleText "\\\\u[0-9a-fA-F]\x7b4\x7d".toList :=
    hu.append (hdigit.quantified quantifies_four)
  exact hunescaped.text.cons_options ((hslash.append hletter.text).cons_options hcode.options)

/-! ## Lists -/

section Lists

variable {ps : List String} (h : ∀ p ∈ ps, AmpleText p.toList)
include h

theorem ampleText_intercalate {sep : String} (hsep : AmpleText sep.toList) :
    AmpleText (sep.intercalate ps).toList := by
  rw [String.toList_intercalate]
  induction ps with
  | nil => exact ampleText_nil
  | cons p ps ih =>
    obtain ⟨hp, hps⟩ := List.forall_mem_cons.1 h
    cases ps with
    | nil => simpa using hp
    | cons q ps =>
      rw [List.map_cons, List.map_cons, List.intercalate_cons_cons, List.append_assoc]
      exact hp.append (hsep.append (ih hps))

theorem ampleOptions_intercalate : AmpleOptions ("|".intercalate ps).toList := by
  rw [String.toList_intercalate]
  induction ps with
  | nil => exact ampleText_nil.options
  | cons p ps ih =>
    obtain ⟨hp, hps⟩ := List.forall_mem_cons.1 h
    cases ps with
    | nil => simpa using hp.options
    | cons q ps =>
      rw [List.map_cons, List.map_cons, List.intercalate_cons_cons, List.append_assoc]
      exact hp.cons_options (ih hps)

theorem ampleText_alternatives : AmpleText (alternatives ps).toList := by
  rw [alternatives, String.toList_append, String.toList_append]
  exact (ampleOptions_intercalate h).group

end Lists

/-! ## White space -/

section Spacing

variable (indent : Option Int) (depth : Int)

theorem ampleText_spacing : AmpleText (Spacing.at indent depth).afterOpen.toList ∧
    AmpleText (Spacing.at indent depth).between.toList ∧
    AmpleText (Spacing.at indent depth).beforeClose.toList := by
  obtain ⟨hopen, hbetween, hclose⟩ := not_special_spacing indent depth
  exact ⟨ampleText_plain hopen, ampleText_plain hbetween, ampleText_plain hclose⟩

theorem ampleText_within {p : String} (h : AmpleText p.toList) :
    AmpleText ((Spacing.at indent depth).afterOpen ++ p ++
      (Spacing.at indent depth).beforeClose).toList := by
  obtain ⟨hopen, -, hclose⟩ := ampleText_spacing indent depth
  rw [String.toList_append, String.toList_append]
  exact (hopen.append h).append hclose

end Spacing

/-! ## Schemas -/

namespace Node

/-- What is asked of a schema by itself: its bounds are missing or count something. -/
def Bounded : Node → Prop
  | .text least most => IsBound least ∧ IsBound most
  | .array _ least most => IsBound least ∧ IsBound most
  | _ => True

/-- The pattern of an array of which a pattern of the items is given. -/
theorem written_ampleArray {least most : Value} (hleast : IsBound least) (hmost : IsBound most)
    (hne : highest most ≠ some 0) (indent : Option Int) (depth : Int) {item : String}
    (hitem : AmpleText item.toList) :
    Written (arrayPattern (Spacing.at indent depth) item least most)
      (fun p => AmpleText p.toList) fun _ => True := by
  have hsep := (ampleText_spacing indent depth).2.1
  -- The items behind the first one, where there may be any.
  have hrest : Written
      (if most.isNumber 1 then .ok ""
      else (tailQuantifier least.orZero most).map fun q =>
        "(" ++ (Spacing.at indent depth).between ++ item ++ ")" ++ q)
      (fun r => AmpleText r.toList) fun _ => True := by
    split
    · exact written_ok ampleText_nil
    · apply Written.map ((written_tailQuantifier hleast hmost hne).mono fun _ _ => trivial)
      intro q hq
      have hgroup := (hsep.append hitem).options.quantified hq
      simpa using hgroup
  rw [arrayPattern_eq]
  apply hrest.map
  intro r hr
  have hrow : AmpleText (item ++ r).toList := by
    rw [String.toList_append]
    exact hitem.append hr
  have hbody := ampleText_within indent depth hrow
  -- The brackets hold the row of items, or nothing at all where no item is needed.
  have hopen : AmpleText "\\[".toList := (ampleAtom_escapeLiteralChar '[').text
  have hclose : AmpleText "\\]".toList := (ampleAtom_escapeLiteralChar ']').text
  unfold brackets
  split
  · have hwhole := (hopen.append (ampleText_optional hbody.options)).append hclose
    simpa using hwhole
  · have hwhole := (hopen.append hbody).append hclose
    simpa using hwhole

mutual
/-- The pattern of a schema is ample. -/
theorem written_amplePattern {n : Node} (h : ∀ k ∈ n.parts, k.Bounded) (indent : Option Int)
    {depth : Int} (hdepth : 0 ≤ depth) :
    Written (n.patternAt indent depth) (fun p => AmpleText p.toList) fun _ => True := by
  cases n with
  | boolean =>
    have htrue : AmpleText "true".toList := ampleText_plain (by decide)
    have hfalse : AmpleText "false".toList := ampleText_plain (by decide)
    exact written_ok (htrue.cons_options hfalse.options).group
  | integer => exact written_ok ampleText_integerPattern
  | number => exact written_ok ampleText_numberPattern
  | null => exact written_ok (ampleText_plain (by decide))
  | text least most =>
    obtain ⟨hleast, hmost⟩ : IsBound least ∧ IsBound most := h _ List.mem_cons_self
    apply Written.map ((written_lengthQuantifier hleast hmost).mono fun _ _ => trivial)
    intro q hq
    have hquote : AmpleText "\"".toList := ampleText_plain (by decide)
    have hchars : AmpleText (stringCharPattern.toList ++ q.toList) := by
      rw [stringCharPattern_toList]
      exact ampleOptions_stringChar.quantified hq
    have hwhole := (hquote.append hchars).append hquote
    simpa using hwhole
  | choice choices =>
    apply written_ok
    apply ampleText_alternatives
    rw [List.forall_mem_map]
    exact fun s _ => ampleText_escapeLiteral (jsonString s)
  | object properties =>
    rw [patternAt]
    split
    · exact written_ok (ampleText_flatMap_escape "\x7b\x7d".toList)
    · have hparts := (List.forall_mem_cons.1 h).2
      refine Written.bind ((written_layout indent hdepth).mono fun _ _ => trivial) ?_
      rintro _ rfl
      rw [Spacing.afterKey_at]
      apply (written_ampleMembers hparts indent (by omega)).bind
      intro qs hqs
      apply written_ok
      have hmembers := ampleText_intercalate hqs (ampleText_spacing indent depth).2.1
      have hopen : AmpleText "\\\x7b".toList := (ampleAtom_escapeLiteralChar '\x7b').text
      have hclose : AmpleText "\\\x7d".toList := (ampleAtom_escapeLiteralChar '\x7d').text
      have hwhole := (hopen.append (ampleText_within indent depth hmembers)).append hclose
      simpa using hwhole
  | array items least most =>
    obtain ⟨⟨hleast, hmost⟩, hitems⟩ := List.forall_mem_cons.1 h
    rw [patternAt]
    split
    · exact written_ok (ampleText_flatMap_escape "[]".toList)
    · rename_i hzero
      have hne : highest most ≠ some 0 := fun heq => hzero ((hmost.isNumber_iff 0).2 heq)
      refine Written.bind ((written_layout indent hdepth).mono fun _ _ => trivial) ?_
      rintro _ rfl
      apply (written_amplePattern hitems indent (by omega)).bind
      exact fun item hitem => written_ampleArray hleast hmost hne indent depth hitem
  | union members =>
    apply (written_amplePatterns (List.forall_mem_cons.1 h).2 indent hdepth).bind
    intro ps hps
    split
    · exact written_ok (hps _ List.mem_cons_self)
    · exact written_ok (ampleText_alternatives hps)

theorem written_amplePatterns {ns : List Node} (h : ∀ k ∈ partsOfMembers ns, k.Bounded)
    (indent : Option Int) {depth : Int} (hdepth : 0 ≤ depth) :
    Written (patterns indent depth ns) (fun ps => ∀ p ∈ ps, AmpleText p.toList) fun _ => True := by
  cases ns with
  | nil => exact written_ok (by simp)
  | cons n ns =>
    obtain ⟨hn, hns⟩ := List.forall_mem_append.1 h
    apply (written_amplePattern hn indent hdepth).bind
    intro p hp
    apply (written_amplePatterns hns indent hdepth).bind
    exact fun ps hps => written_ok (List.forall_mem_cons.2 ⟨hp, hps⟩)

theorem written_ampleMembers {ps : List (Property Node)}
    (h : ∀ k ∈ partsOfProperties ps, k.Bounded) (indent : Option Int) {depth : Int}
    (hdepth : 0 ≤ depth) : Written (propertyPatterns ": " indent depth ps)
      (fun qs => ∀ q ∈ qs, AmpleText q.toList) fun _ => True := by
  cases ps with
  | nil => exact written_ok (by simp)
  | cons p ps =>
    obtain ⟨hschema, hps⟩ := List.forall_mem_append.1 h
    apply (written_amplePattern hschema indent hdepth).bind
    intro q hq
    apply (written_ampleMembers hps indent hdepth).bind
    intro qs hqs
    refine written_ok (List.forall_mem_cons.2 ⟨?_, hqs⟩)
    have hcolon : AmpleText ": ".toList := ampleText_plain (by decide)
    rw [String.toList_append, String.toList_append]
    exact ((ampleText_escapeLiteral (jsonString p.name)).append hcolon).append hq
end

/-- The automaton of a schema walks octets exactly if they begin the octets of a text that the
pattern matches, ends where they are all of them, and keeps of a character that is not whole what
begins a character that leads on. Octets that are no UTF-8 are never walked. -/
theorem viable_of_pattern {n : Node} (hn : ∀ k ∈ n.parts, k.Bounded) {indent : Option Int}
    {p : String} (hp : n.pattern indent = .ok p) {m : Machine}
    (hm : Grammar.machineOf p = .ok m) : m.Viable (Pattern.Accepts p) := by
  have hample := (written_amplePattern hn indent le_rfl).of_eq_ok (patternAt_of_pattern hp)
  obtain ⟨r, hr, rfl⟩ := Grammar.machineOf_eq_ok.1 hm
  have haccepts : Pattern.Accepts p = r.Matches := by
    funext w
    rw [Pattern.accepts_iff hm]
    exact propext Machine.mem_language_ofRegex
  rw [haccepts]
  exact Machine.viable_ofRegex (hample.options.madeOf hr)

/-- Of a text with the sign for euro, the first two of its three octets are walked. -/
theorem viable_of_pattern_euro : (∀ k ∈ (Node.text .null (.int 2)).parts, k.Bounded) ∧ ∃ p m,
    (Node.text .null (.int 2)).pattern none = .ok p ∧ Grammar.machineOf p = .ok m ∧
      m.Viable (Pattern.Accepts p) ∧ ∃ q, m.walk Machine.origin [0x22, 0xE2, 0x82] = some q := by
  have hbounded : ∀ k ∈ (Node.text .null (.int 2)).parts, k.Bounded :=
    List.forall_mem_singleton.2 ⟨.inl rfl, .inr ⟨2, rfl⟩⟩
  rcases exists_machine_text (ordered_upTo 2) none 0 with ⟨p, m, hp, hm⟩ | ⟨-, hlong⟩
  · have hpattern : (Node.text .null (.int 2)).pattern none = .ok p := by
      rw [pattern_of_nonneg (by simp)]
      exact hp
    have hviable := viable_of_pattern hbounded hpattern hm
    have hbody : ['€'] ∈ Json.bodies := Json.flatMap_jsonChar_mem_bodies ['€']
    have haccepts : m.Accepts (quoted ['€']) := by
      refine (accepts_quoted (ordered_upTo 2) hp hm hbody).2 ⟨Nat.zero_le _, ?_⟩
      rintro _ ⟨⟩
      decide
    refine ⟨hbounded, p, m, hpattern, hm, hviable, ?_⟩
    have hbegins : [0x22, 0xE2, 0x82] <+: Text.Utf8.encode (quoted ['€']) :=
      ⟨[0xAC, 0x22], by decide⟩
    exact (hviable.walk_iff _).2 ⟨_, (Pattern.accepts_iff hm).2 haccepts, hbegins⟩
  · exact absurd hlong (not_oversized_upTo (by decide))

end Node

end Schema

end GuidedJson
