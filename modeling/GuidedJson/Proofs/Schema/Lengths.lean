import GuidedJson.Proofs.Schema.Exactness

/-!
# Lengths of strings

How the bounds of a string schema count. A pattern counts the spelled characters of a string, each
of which stands for one code; an escaped pair of surrogates is two of them and one code point.
-/

namespace GuidedJson

open Computability
open Automaton (Machine)

namespace Json

/-! ## Codes of spelled characters -/

/-- A spelled character stands for one code, whatever comes after it. -/
theorem exists_codes_append {u : List Char} (hu : u ∈ charTexts) :
    ∃ n, ∀ rest, codes (u ++ rest) = n :: codes rest := by
  rcases hu with (⟨c, hc, rfl⟩ | hu) | hu
  · have hslash : c ≠ '\\' := by
      rintro rfl
      simp [IsUnescaped, Lies] at hc
    exact ⟨c.toNat, codes_unescaped hslash⟩
  · obtain ⟨_, rfl, _, ⟨e, he, rfl⟩, rfl⟩ := Language.mem_mul.1 hu
    exact ⟨escapeValue e, codes_short he⟩
  · obtain ⟨_, rfl, digits, hdigits, rfl⟩ := Language.mem_mul.1 hu
    obtain ⟨us, rfl, hlength, hus⟩ := Language.mem_pow.1 hdigits
    -- With its four digits at hand the code is read, and the rest is not looked at.
    obtain ⟨a, b, c, d, rfl⟩ := List.length_eq_four.1 hlength
    simp only [List.forall_mem_cons, mem_oneChar] at hus
    obtain ⟨⟨a, -, rfl⟩, ⟨b, -, rfl⟩, ⟨c, -, rfl⟩, ⟨d, -, rfl⟩, -⟩ := hus
    exact ⟨[a, b, c, d].foldl (fun n x => 16 * n + Text.hexValue x) 0, fun rest => rfl⟩

theorem length_codes_flatten {parts : List (List Char)} (h : ∀ u ∈ parts, u ∈ charTexts) :
    (codes parts.flatten).length = parts.length := by
  induction parts with
  | nil => rfl
  | cons u parts ih =>
    obtain ⟨hu, hparts⟩ := List.forall_mem_cons.1 h
    obtain ⟨n, hn⟩ := exists_codes_append hu
    rw [List.flatten_cons, hn, List.length_cons, List.length_cons, ih hparts]

/-- How many pairs of surrogates are joined. -/
def pairCount : List Nat → Nat
  | h :: l :: rest =>
    if 0xD800 ≤ h ∧ h < 0xDC00 ∧ 0xDC00 ≤ l ∧ l < 0xE000 then pairCount rest + 1
    else pairCount (l :: rest)
  | _ => 0

theorem length_joinPairs (ns : List Nat) : (joinPairs ns).length + pairCount ns = ns.length := by
  fun_induction joinPairs ns with
  | case1 h l rest hpair ih =>
    rw [pairCount, if_pos hpair, List.length_cons, List.length_cons, List.length_cons]
    omega
  | case2 h l rest hpair ih =>
    rw [pairCount, if_neg hpair, List.length_cons, List.length_cons]
    omega
  | case3 rest hshort =>
    have hzero : pairCount rest = 0 := by
      cases rest with
      | nil => rfl
      | cons h rest =>
        cases rest with
        | nil => rfl
        | cons l rest => exact absurd rfl (hshort h l rest)
    rw [hzero, Nat.add_zero]

/-- A string has a code for every code point, and one more for every escaped pair. -/
theorem length_codes (body : List Char) :
    (codes body).length = (points body).length + pairCount (codes body) :=
  (length_joinPairs (codes body)).symm

end Json

namespace Schema.Node

open Json (bodies quoted codes points pairCount)

variable {least most : Value} {indent : Option Int} {depth : Int} {body : List Char}

/-- A string with bounds is one of the texts of its schema if it has so many codes. -/
theorem quoted_mem_texts (hbody : body ∈ bodies) :
    quoted body ∈ (Node.text least most).texts indent depth ↔
      Between least most (codes body).length := by
  constructor
  · rintro ⟨t, ht, htext⟩
    cases t with
    | string body' =>
      obtain ⟨parts, hbetween, hparts, rfl⟩ := ht
      obtain rfl : body = parts.flatten := List.append_cancel_right (List.cons.inj htext).2
      rwa [Json.length_codes_flatten hparts]
    | _ => exact ht.elim
  · intro hbetween
    obtain ⟨parts, rfl, hparts⟩ := Language.mem_kstar.1 hbody
    rw [Json.length_codes_flatten hparts] at hbetween
    exact ⟨.string _, ⟨parts, hbetween, hparts, rfl⟩, rfl⟩

/-- The automaton of a string schema accepts the strings that have so many codes. -/
theorem accepts_quoted (h : Ordered least most) {p : String}
    (hp : (Node.text least most).patternAt indent depth = .ok p) {m : Machine}
    (hm : Grammar.machineOf p = .ok m) (hbody : body ∈ bodies) :
    m.Accepts (quoted body) ↔ Between least most (codes body).length := by
  obtain ⟨_, hm', haccepts⟩ := exists_machineOf ((written_text h indent depth).of_eq_ok hp)
  obtain rfl := Except.ok.inj (hm.symm.trans hm')
  rw [haccepts, quoted_mem_texts hbody]

/-- There is an automaton for every pair of bounds in order, unless one of them has more digits than
are written. -/
theorem exists_machine_text (h : Ordered least most) (indent : Option Int) (depth : Int) :
    (∃ p m, (Node.text least most).patternAt indent depth = .ok p ∧ Grammar.machineOf p = .ok m) ∨
      ((Node.text least most).patternAt indent depth = .error (.digits none) ∧
        Oversized least most) := by
  rcases written_text h indent depth with ⟨p, hp, hspells⟩ | ⟨_, herror, rfl, hlong⟩
  · obtain ⟨m, hm, -⟩ := exists_machineOf hspells
    exact .inl ⟨p, m, hp, hm⟩
  · exact .inr ⟨herror, hlong⟩

/-- The automaton of a string schema accepts the strings that have so many code points as its bounds
allow, where an escaped pair of surrogates counts as two. There is an automaton unless a bound has
more digits than are written. -/
theorem accepts_quoted_iff (h : Ordered least most) (indent : Option Int) (depth : Int) :
    (∃ p m, (Node.text least most).patternAt indent depth = .ok p ∧ Grammar.machineOf p = .ok m ∧
      ∀ body ∈ bodies, m.Accepts (quoted body) ↔
        Between least most ((points body).length + pairCount (codes body))) ∨
    ((Node.text least most).patternAt indent depth = .error (.digits none) ∧
      Oversized least most) := by
  refine (exists_machine_text h indent depth).imp_left ?_
  rintro ⟨p, m, hp, hm⟩
  refine ⟨p, m, hp, hm, fun body hbody => ?_⟩
  rw [accepts_quoted h hp hm hbody, Json.length_codes]

/-! ## An escaped pair -/

/-- The face with a big smile, by the codes of its two surrogates. -/
def escapedPair : List Char := "\\ud83d\\ude00".toList

theorem escapedPair_mem_bodies : escapedPair ∈ bodies := by
  refine Language.mem_kstar.2 ⟨["\\ud83d".toList, "\\ude00".toList], rfl, ?_⟩
  have hdigits : ∀ c ∈ "d83de00".toList, Json.IsHexDigit c := by
    simp [Json.IsHexDigit, Json.Lies]
  simp only [List.forall_mem_cons, List.not_mem_nil, false_implies, implies_true, and_true]
  exact ⟨Json.codeEscape_mem_charTexts (hdigits 'd' (by decide)) (hdigits '8' (by decide))
      (hdigits '3' (by decide)) (hdigits 'd' (by decide)),
    Json.codeEscape_mem_charTexts (hdigits 'd' (by decide)) (hdigits 'e' (by decide))
      (hdigits '0' (by decide)) (hdigits '0' (by decide))⟩

theorem ordered_upTo (n : Nat) : Ordered .null (.int n) :=
  ⟨.inl rfl, .inr ⟨n, rfl⟩, fun _ _ => Nat.zero_le _⟩

theorem not_oversized_upTo {n : Nat} (hn : n < 10) : ¬ Oversized .null (.int n) := by
  have hlimit : 10 ^ 1 ≤ 10 ^ Text.digitLimit := Nat.pow_le_pow_right (by decide) (by decide)
  rintro (h | ⟨m, hm, h⟩)
  · have hzero : lowest .null = 0 := rfl
    omega
  · obtain rfl : n = m := Option.some.inj hm
    omega

theorem accepts_quoted_iff_escapedPair : Ordered .null (.int 2) ∧ ∃ p m,
    (Node.text .null (.int 2)).patternAt none 0 = .ok p ∧ Grammar.machineOf p = .ok m ∧
      m.Accepts (quoted escapedPair) := by
  refine ⟨ordered_upTo 2, ?_⟩
  rcases accepts_quoted_iff (ordered_upTo 2) none 0 with ⟨p, m, hp, hm, haccepts⟩ | ⟨-, hlong⟩
  · refine ⟨p, m, hp, hm, (haccepts escapedPair escapedPair_mem_bodies).2 ⟨Nat.zero_le _, ?_⟩⟩
    rintro _ ⟨⟩
    decide
  · exact absurd hlong (not_oversized_upTo (by decide))

/-- One character is too long for a schema that allows one: its two escapes are counted. -/
theorem not_accepts_escapedPair : ∃ p m,
    (Node.text .null (.int 1)).patternAt none 0 = .ok p ∧ Grammar.machineOf p = .ok m ∧
      escapedPair ∈ bodies ∧ points escapedPair = [0x1F600] ∧
      Between .null (.int 1) (points escapedPair).length ∧ ¬ m.Accepts (quoted escapedPair) := by
  rcases exists_machine_text (ordered_upTo 1) none 0 with ⟨p, m, hp, hm⟩ | ⟨-, hlong⟩
  · have hpoints : points escapedPair = [0x1F600] := by decide
    refine ⟨p, m, hp, hm, escapedPair_mem_bodies, hpoints, ?_, ?_⟩
    · rw [hpoints]
      exact ⟨Nat.zero_le _, fun n hn => Nat.le_of_eq (Option.some.inj hn)⟩
    · rw [accepts_quoted (ordered_upTo 1) hp hm escapedPair_mem_bodies]
      exact fun hbetween => absurd (hbetween.2 1 rfl) (by decide)
  · exact absurd hlong (not_oversized_upTo (by decide))

end Schema.Node

end GuidedJson
