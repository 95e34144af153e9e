import GuidedJson.Json.Parser
import GuidedJson.Proofs.Json.Layout

/-!
# Strings that are read

A string that is printed for a text is read as the text.
-/

namespace GuidedJson.Json

theorem hexValue?_hexDigit {n : Nat} (h : n < 16) : hexValue? (Text.hexDigit n) = some n := by
  have all : ∀ m ∈ List.range 16, hexValue? (Text.hexDigit m) = some m := by decide
  exact all n (List.mem_range.2 h)

/-- The code of a character is read from its four digits. -/
theorem readUnicode_hexDigits {n : Nat} (hn : n < 65536) {rest : List Char} (hrest : rest ≠ []) :
    readUnicode (Text.hexDigits 4 n ++ rest) = .ok (n, rest) := by
  obtain ⟨c, cs, rfl⟩ := List.exists_cons_of_ne_nil hrest
  have hread : readHex4? (Text.hexDigits 4 n ++ c :: cs) = some (n, c :: cs) := by
    rw [hexDigits_four]
    simp only [List.cons_append, List.nil_append, readHex4?,
      hexValue?_hexDigit (Nat.mod_lt _ (by decide : 0 < 16)), Option.some.injEq, Prod.mk.injEq,
      and_true]
    omega
  rw [readUnicode, hread]

theorem shortEscape?_eq {e : Char} (h : IsShortEscape e) :
    shortEscape? e = some (Char.ofNat (escapeValue e)) := by
  simp only [IsShortEscape, List.mem_cons, List.not_mem_nil, or_false] at h
  rcases h with rfl | rfl | rfl | rfl | rfl | rfl | rfl | rfl <;> rfl

theorem charOf?_toNat (c : Char) : charOf? c.toNat = some c := by
  have hvalid : c.toNat.isValidChar := c.valid
  rw [charOf?, dif_pos hvalid]
  rfl

section Strings

variable (opening fuel : Nat) (done : List Char)

/-- What is written for a character is read as the character. -/
theorem readString_jsonChar (c : Char) {rest : List Char} (hrest : rest ≠ []) :
    readString opening (fuel + 1) done (jsonChar c ++ rest) =
      readString opening fuel (c :: done) rest := by
  rcases jsonChar_cases c with ⟨e, htext, he, hvalue⟩ | ⟨hlt, htext⟩ | ⟨hc, hslash, htext⟩
  · have hu : e ≠ 'u' := by
      rintro rfl
      exact absurd he (by simp [IsShortEscape])
    rw [htext, List.cons_append, List.cons_append, List.nil_append, readString]
    · simp only [shortEscape?_eq he, hvalue, Char.ofNat_toNat]
    · exact hu
  · have hread := readUnicode_hexDigits (show c.toNat < 65536 by omega) hrest
    have hsurrogate : (0xD800 ≤ c.toNat && c.toNat < 0xDC00) = false := by
      rw [Bool.and_eq_false_iff]
      exact .inl (decide_eq_false (by omega))
    rw [htext, List.cons_append, List.cons_append, readString]
    simp only [hread, readCode, hsurrogate, Bool.false_eq_true, if_false, charOf?_toNat]
  · have hquote : c ≠ '"' := by
      rintro rfl
      exact absurd hc (by simp [IsUnescaped, Lies])
    have hcontrol : ¬ c.toNat < 32 := by
      unfold IsUnescaped Lies at hc
      omega
    rw [htext, List.singleton_append, readString]
    · rw [if_neg hcontrol]
    · exact hquote
    · exact hslash

/-- A printed string is read as the text that it is printed for. -/
theorem readString_flatMap (cs rest : List Char) (hfuel : cs.length < fuel) :
    readString opening fuel done (cs.flatMap jsonChar ++ '"' :: rest) =
      .ok (String.ofList (done.reverse ++ cs), rest) := by
  induction cs generalizing fuel done with
  | nil =>
    obtain ⟨k, rfl⟩ := Nat.exists_eq_add_of_lt hfuel
    simp [readString]
  | cons c cs ih =>
    obtain ⟨k, rfl⟩ := Nat.exists_eq_add_of_lt hfuel
    rw [List.flatMap_cons, List.append_assoc, List.length_cons,
      show cs.length + 1 + k + 1 = (cs.length + 1 + k) + 1 from rfl,
      readString_jsonChar _ _ _ _ (by simp), ih _ _ (by omega)]
    simp

end Strings

theorem jsonChar_ne_nil (c : Char) : jsonChar c ≠ [] := by
  rcases jsonChar_cases c with ⟨e, htext, -⟩ | ⟨-, htext⟩ | ⟨-, -, htext⟩ <;> simp [htext]

theorem length_le_flatMap_jsonChar (cs : List Char) : cs.length ≤ (cs.flatMap jsonChar).length := by
  induction cs with
  | nil => exact le_rfl
  | cons c cs ih =>
    have hpos := List.length_pos_iff.2 (jsonChar_ne_nil c)
    rw [List.flatMap_cons, List.length_append, List.length_cons]
    omega

/-- What is printed for a text is read as the text, up to its closing quotation mark. -/
theorem readStringBody_jsonString (s : String) (rest : List Char) :
    readStringBody (s.toList.flatMap jsonChar ++ '"' :: rest) = .ok (s, rest) := by
  have hlength := length_le_flatMap_jsonChar s.toList
  rw [readStringBody, readString_flatMap]
  · simp
  · rw [List.length_append, List.length_cons]
    omega

end GuidedJson.Json
