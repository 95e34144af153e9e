import GuidedJson.Display.Table
import GuidedJson.Proofs.Results
import GuidedJson.Proofs.Vocabulary.Fingerprint
import Mathlib.Data.List.TakeWhile
import Mathlib.Data.String.Basic

/-!
# Markup that can be shown

A text without an opening bracket is no markup, and is shown as it is. One that is marked at its
beginning, and has no opening bracket behind that, is shown without its two tags, whatever else is
in it. What has room in one line is that line, and a table can be shown if all its texts can be.
-/

namespace GuidedJson.Display

open Text (lower trim trimList)

/-! ## Words that are styles -/

/-- Whether a word can be a tag: it is a style in its normal form, or none that is refused. -/
structure IsStyle (word : String) : Prop where
  normal : normalName word = .ok word
  readable : ∀ fault, Style.parse word ≠ .error (.number fault)
  start : ∃ c cs, word.toList = c :: cs ∧ 'a' ≤ c ∧ c ≤ 'z'
  plain : '[' ∉ word.toList ∧ ']' ∉ word.toList ∧ '=' ∉ word.toList
  trimmed : trimList word.toList = word.toList

/-- A word in small letters that is neither numbers nor shares is the color of that name, or there
is no such color. -/
theorem colorOf_eq_or {word : String} (hlower : lower word = word) {c : Char} {cs : List Char}
    (hword : word.toList = c :: cs) (hmark : c ≠ '#') (hnumber : enclosed? "color(" (c :: cs) = none)
    (hshares : enclosed? "rgb(" (c :: cs) = none) :
    colorOf word = .ok word ∨ colorOf word = .error .form := by
  rw [colorOf, hlower, hword]
  dsimp only
  by_cases h : (namedColors[word]?).isSome = true
  · rw [if_pos h]
    exact .inl rfl
  · rw [if_neg h]
    right
    split
    · rename_i heq
      exact absurd (List.cons.inj heq).1 hmark
    · rw [hnumber, hshares]
      rfl

/-- Whether there is a color of a name does not matter to a tag of that name. -/
theorem isStyle_of_colorOf {word : String}
    (hcolor : colorOf word = .ok word ∨ colorOf word = .error .form)
    (hone : words word.toList = [word])
    (hword : Style.ofWords {} [word] = colorOf word >>= fun c => Style.ofWords { color := some c } [])
    (hlower : lower (trim word) = word) (hnone : trim word ≠ "none")
    (hstart : ∃ c cs, word.toList = c :: cs ∧ 'a' ≤ c ∧ c ≤ 'z')
    (hplain : '[' ∉ word.toList ∧ ']' ∉ word.toList ∧ '=' ∉ word.toList)
    (htrimmed : trimList word.toList = word.toList) : IsStyle word := by
  have hparse : Style.parse word = .ok { color := some word } ∨
      Style.parse word = .error .form := by
    rw [Style.parse, if_neg hnone, hone, hword]
    rcases hcolor with h | h
    · exact .inl (by rw [h]; rfl)
    · exact .inr (by rw [h]; rfl)
  refine ⟨?_, ?_, hstart, hplain, htrimmed⟩
  · rw [normalName, Style.normalForm]
    rcases hparse with h | h
    · rw [h]
      rfl
    · rw [h]
      dsimp only
      rw [hlower]
  · intro fault hfault
    rcases hparse with h | h <;> rw [h] at hfault <;> cases hfault

/-! ## Pieces -/

theorem piecesFrom_plain {cs : List Char} (h : '[' ∉ cs) (text : List Char) (slashes position : Nat) :
    piecesFrom cs text slashes position =
      plainBefore (text.reverse ++ List.replicate slashes '\\' ++ cs) [] := by
  induction cs generalizing text slashes position with
  | nil => simp [piecesFrom, afterSlashes]
  | cons c cs ih =>
    have hc : '[' ≠ c := List.ne_of_not_mem_cons h
    have hcs : '[' ∉ cs := List.not_mem_of_not_mem_cons h
    rw [piecesFrom]
    split
    next hslash =>
      rw [ih hcs, hslash, List.replicate_succ']
      simp
    next =>
      rw [if_neg (Ne.symm hc), ih hcs]
      simp [afterSlashes]

/-- What can stand in a tag ends at the bracket that closes it. -/
theorem tagEnd?_append {inside after : List Char} (hopening : '[' ∉ inside)
    (hclosing : ']' ∉ inside) : tagEnd? (inside ++ ']' :: after) = some (inside, after) := by
  induction inside with
  | nil => simp [tagEnd?]
  | cons c cs ih =>
    have hrest := ih (List.not_mem_of_not_mem_cons hopening) (List.not_mem_of_not_mem_cons hclosing)
    rw [List.cons_append, tagEnd?, if_neg (Ne.symm (List.ne_of_not_mem_cons hclosing)),
      if_neg (Ne.symm (List.ne_of_not_mem_cons hopening)), hrest]
    rfl

theorem piecesFrom_tag {cs inside after : List Char} (hopening : '[' ∉ cs) (hslash : '\\' ∉ cs)
    (htag : tag? (inside ++ ']' :: after) = some (inside, after)) (text : List Char)
    (position : Nat) :
    ∃ p q, piecesFrom (cs ++ '[' :: (inside ++ ']' :: after)) text 0 position =
      plainBefore (text.reverse ++ cs) (.tag (Tag.ofInside inside) p :: piecesFrom after [] 0 q) := by
  induction cs generalizing text position with
  | nil =>
    refine ⟨position, position + inside.length + 2, ?_⟩
    rw [List.nil_append, piecesFrom, if_neg (by decide), if_pos rfl]
    split
    next inside' after' heq =>
      rw [htag] at heq
      cases heq
      simp [plainBefore]
    next heq =>
      rw [htag] at heq
      cases heq
  | cons c cs ih =>
    obtain ⟨p, q, hrest⟩ := ih (List.not_mem_of_not_mem_cons hopening)
      (List.not_mem_of_not_mem_cons hslash) (c :: text) (position + 1)
    refine ⟨p, q, ?_⟩
    rw [List.cons_append, piecesFrom, if_neg (Ne.symm (List.ne_of_not_mem_cons hslash)),
      if_neg (Ne.symm (List.ne_of_not_mem_cons hopening))]
    simpa [afterSlashes] using hrest

/-! ## Marked texts -/

/-- The characters of a text whose beginning is marked. -/
def marked (word : String) (body rest : List Char) : List Char :=
  '[' :: (word.toList ++ ']' :: (body ++ '[' :: '/' :: (word.toList ++ ']' :: rest)))

section Marked

variable {word : String} {body rest : List Char}

theorem IsStyle.tag? (h : IsStyle word) (after : List Char) :
    Display.tag? (word.toList ++ ']' :: after) = some (word.toList, after) := by
  obtain ⟨c, cs, hword, hlow, hhigh⟩ := h.start
  have hstart : isTagStart c = true := by simp [isTagStart, hlow, hhigh]
  obtain ⟨hopening, hclosing, -⟩ := h.plain
  rw [hword] at hopening hclosing
  rw [hword, List.cons_append, Display.tag?, if_pos hstart, tagEnd?_append
    (List.not_mem_of_not_mem_cons hopening) (List.not_mem_of_not_mem_cons hclosing)]
  rfl

theorem IsStyle.closingTag? (h : IsStyle word) (after : List Char) :
    Display.tag? (('/' :: word.toList) ++ ']' :: after) = some ('/' :: word.toList, after) := by
  rw [List.cons_append, Display.tag?, if_pos (by decide), tagEnd?_append h.plain.1 h.plain.2.1]
  rfl

/-- A tag without an equals sign has no parameters. -/
theorem ofInside_of_plain {inside : List Char} (h : '=' ∉ inside) :
    Tag.ofInside inside = ⟨String.ofList inside, none⟩ := by
  have hplain : ∀ c ∈ inside, (c != '=') = true := fun c hc =>
    bne_iff_ne.2 (ne_of_mem_of_not_mem hc h)
  have htake : inside.takeWhile (· != '=') = inside := List.takeWhile_eq_self_iff.2 hplain
  have hdrop : inside.dropWhile (· != '=') = [] := List.dropWhile_eq_nil_iff.2 hplain
  rw [Tag.ofInside, htake, hdrop]

theorem markupPieces_marked (h : IsStyle word) (hbody : '[' ∉ body) (hslash : '\\' ∉ body)
    (hsome : body ≠ []) (hrest : '[' ∉ rest) {markup : String}
    (hmarkup : markup.toList = marked word body rest) : ∃ p q, markupPieces markup =
      .tag ⟨word, none⟩ p :: .plain body :: .tag ⟨String.ofList ('/' :: word.toList), none⟩ q ::
        plainBefore rest [] := by
  obtain ⟨p, p', hfirst⟩ := piecesFrom_tag List.not_mem_nil List.not_mem_nil
    (h.tag? (body ++ '[' :: '/' :: (word.toList ++ ']' :: rest))) [] 0
  obtain ⟨q, q', hsecond⟩ := piecesFrom_tag hbody hslash (h.closingTag? rest) [] p'
  refine ⟨p, q, ?_⟩
  rw [markupPieces, hmarkup, marked]
  rw [List.nil_append] at hfirst
  rw [hfirst]
  rw [List.cons_append] at hsecond
  rw [hsecond, piecesFrom_plain hrest, ofInside_of_plain h.plain.2.2,
    ofInside_of_plain (List.not_mem_cons_of_ne_of_not_mem (by decide) h.plain.2.2),
    String.ofList_toList]
  simp [plainBefore, hsome]

theorem add_tag (h : IsStyle word) (p : Nat) :
    Marking.add {} (.tag ⟨word, none⟩ p) = .ok { opened := [(0, ⟨word, none⟩)] } := by
  obtain ⟨c, cs, hword, hlow, -⟩ := h.start
  rw [Marking.add]
  split
  next heq =>
    -- A name that starts with a letter closes nothing.
    rw [hword] at heq
    rw [(List.cons.inj heq).1] at hlow
    exact absurd hlow (by decide)
  next =>
    rw [h.normal]
    rfl

theorem add_closingTag (h : IsStyle word) (text : List Char) (q : Nat) :
    Marking.add { text, opened := [(0, ⟨word, none⟩)] }
        (.tag ⟨String.ofList ('/' :: word.toList), none⟩ q) =
      .ok { text, spans := [⟨0, text.length, word⟩] } := by
  obtain ⟨c, cs, hword, hlow, hhigh⟩ := h.start
  have hhead : ¬ word.toList.head? = some '@' := by
    rw [hword]
    rintro heq
    cases heq
    exact absurd hlow (by decide)
  have hempty : word.toList.isEmpty = false := by simp [hword]
  rw [Marking.add]
  have hclosed : closed? word [(0, ⟨word, none⟩)] = some ((0, ⟨word, none⟩), []) := if_pos rfl
  simp only [String.toList_ofList, h.trimmed, hempty, String.ofList_toList, h.normal, bind,
    Except.bind, hclosed, Marking.close, if_neg hhead]
  rfl

/-- What is marked is in the style of the word, and what follows is as it would be alone. -/
theorem styledOf_marked (h : IsStyle word) (hbody : '[' ∉ body) (hslash : '\\' ∉ body)
    (hsome : body ≠ []) (hrest : '[' ∉ rest) {markup : String}
    (hmarkup : markup.toList = marked word body rest) : ∃ n, styledOf markup =
      .ok ⟨shown (unescaped body) ++ shown (unescaped rest), [⟨0, n, word⟩]⟩ := by
  obtain ⟨p, q, hpieces⟩ := markupPieces_marked h hbody hslash hsome hrest hmarkup
  have hbracket : markup.toList.contains '[' = true := by simp [hmarkup, marked]
  have hfold : ∃ n, (markupPieces markup).foldlM Marking.add {} = .ok
      { text := (shown (unescaped body) ++ shown (unescaped rest)).reverse
        spans := [⟨0, n, word⟩] } := by
    refine ⟨(shown (unescaped body)).reverse.length, ?_⟩
    rw [hpieces, List.foldlM_cons, add_tag h]
    show List.foldlM Marking.add
      { text := (shown (unescaped body)).reverse ++ [], opened := [(0, ⟨word, none⟩)] }
      (.tag ⟨String.ofList ('/' :: word.toList), none⟩ q :: _) = _
    rw [List.append_nil, List.foldlM_cons, add_closingTag h]
    show List.foldlM Marking.add
      { text := (shown (unescaped body)).reverse,
        spans := [⟨0, (shown (unescaped body)).reverse.length, word⟩] } (plainBefore rest []) = _
    cases rest with
    | nil => simp [plainBefore, unescaped, shown, withPictures_nil, pure, Except.pure]
    | cons c cs => simp [plainBefore, Marking.add, bind, Except.bind, pure, Except.pure]
  obtain ⟨n, hfold⟩ := hfold
  refine ⟨n, ?_⟩
  rw [styledOf, if_pos hbracket, hfold]
  simp [Marking.styled, bind, Except.bind, pure, Except.pure]

end Marked

/-! ## What is shown -/

theorem textOf_of_not_mem {s : String} (h : '[' ∉ s.toList) : textOf s = .ok (shown s.toList) := by
  have hbracket : s.toList.contains '[' = false := by simpa using h
  have hcheck : Styled.check ⟨shown s.toList, []⟩ = .ok () := by
    rw [Styled.check, Styled.ordered, List.mergeSort_nil]
    rfl
  simp only [textOf, styledOf, hbracket, Bool.false_eq_true, if_false, bind, Except.bind, hcheck]
  rfl

/-- The style of a word is no obstacle to showing a text. -/
theorem IsStyle.check {word : String} (h : IsStyle word) (cs : List Char) (n : Nat) :
    Styled.check ⟨cs, [⟨0, n, word⟩]⟩ = .ok () := by
  have hordered : Styled.ordered ⟨cs, [⟨0, n, word⟩]⟩ = [⟨0, n, word⟩] := List.mergeSort_singleton _
  rw [Styled.check, hordered]
  simp only [List.forM_eq_forM, List.forM_cons, List.forM_nil]
  cases hparse : Style.parse word with
  | ok s => rfl
  | error fault =>
    cases fault with
    | form => rfl
    | number fault => exact absurd hparse (h.readable fault)

theorem textOf_marked {word : String} {body rest : List Char} (h : IsStyle word)
    (hbody : '[' ∉ body) (hslash : '\\' ∉ body) (hsome : body ≠ []) (hrest : '[' ∉ rest)
    {markup : String} (hmarkup : markup.toList = marked word body rest) :
    textOf markup = .ok (shown (unescaped body) ++ shown (unescaped rest)) := by
  obtain ⟨n, hstyled⟩ := styledOf_marked h hbody hslash hsome hrest hmarkup
  rw [textOf, hstyled]
  simp only [bind, Except.bind, h.check]
  rfl

/-- A text without a colon has no pictures. -/
theorem withPictures_of_not_mem {cs : List Char} (h : ':' ∉ cs) : withPictures cs = cs := by
  induction cs with
  | nil => exact withPictures_nil
  | cons c cs ih =>
    rw [withPictures, if_neg (Ne.symm (List.ne_of_not_mem_cons h)),
      ih (List.not_mem_of_not_mem_cons h)]

/-- Plain characters are shown as they are. -/
theorem shown_eq_self {cs : List Char} (h : ':' ∉ cs) (hsilent : cs.any isSilent = false) :
    shown cs = cs := by
  rw [shown, withPictures_of_not_mem h, List.filter_eq_self]
  exact fun c hc => by simpa using List.any_eq_false.1 hsilent c hc

/-! ## The styles of verdicts -/

theorem isStyle_of_mem {word : String} (h : word ∈ ["green", "red", "yellow", "blue"]) :
    IsStyle word := by
  simp only [List.mem_cons, List.not_mem_nil, or_false] at h
  rcases h with rfl | rfl | rfl | rfl <;>
    exact isStyle_of_colorOf (colorOf_eq_or (by decide) rfl (by decide) (by decide) (by decide))
      (by decide) rfl (by decide) (by decide) ⟨_, _, rfl, by decide, by decide⟩ (by decide)
      (by decide)

theorem isStyle_dim : IsStyle "dim" := by
  have hparse : Style.parse "dim" = .ok { attributes := [(.dim, true)] } := rfl
  refine ⟨?_, ?_, ⟨_, _, rfl, by decide, by decide⟩, by decide, by decide⟩
  · rw [normalName, Style.normalForm, hparse]
    rfl
  · intro fault hfault
    rw [hparse] at hfault
    cases hfault

/-! ## Texts without brackets -/

theorem not_mem_hexDigits (width n : Nat) : '[' ∉ Text.hexDigits width n := by
  have hdigit : ∀ k < 16, '[' ≠ Text.hexDigit k := by decide
  induction width generalizing n with
  | zero => simp [Text.hexDigits]
  | succ width ih => simp [Text.hexDigits, ih, hdigit (n % 16) (Nat.mod_lt n (by decide))]

theorem not_mem_escapeChar (quote : Char) {c : Char} (hc : '[' ≠ c) :
    '[' ∉ Text.escapeChar quote c := by
  simp only [Text.escapeChar]
  repeat' split
  all_goals simp [hc, not_mem_hexDigits]

/-- Quoting a text brings no bracket into it. -/
theorem not_mem_quoted {s : String} (h : '[' ∉ s.toList) : '[' ∉ (Text.quoted s).toList := by
  have hquote : '[' ≠ Text.quoteFor s.toList := by
    rw [Text.quoteFor]
    split <;> decide
  have hchars : '[' ∉ s.toList.flatMap (Text.escapeChar (Text.quoteFor s.toList)) := by
    rw [List.mem_flatMap]
    rintro ⟨c, hc, hmem⟩
    exact not_mem_escapeChar _ (fun heq => h (heq ▸ hc)) hmem
  simp [Text.quoted, hquote, hchars]

theorem not_mem_toString (n : Nat) : '[' ∉ (toString n).toList := fun h =>
  absurd (Text.isDigit_of_mem_toString h) (by decide)

/-! ## Lines -/

theorem splitOnAux_of_not_mem (l : List Char) {r : List Char} (h : '\n' ∉ r) :
    String.splitOnAux (String.ofList (l ++ r)) "\n" 0 ⟨String.utf8Len l⟩ 0 [] =
      [String.ofList (l ++ r)] := by
  induction r generalizing l with
  | nil =>
    have hextract := String.extract_of_valid [] l []
    rw [String.splitOnAux, if_pos ((String.atEnd_of_valid l []).2 rfl)]
    simpa using hextract
  | cons c r ih =>
    have hend : ¬ String.Pos.Raw.atEnd (String.ofList (l ++ c :: r)) ⟨String.utf8Len l⟩ = true := by
      rw [String.atEnd_of_valid]
      exact List.cons_ne_nil c r
    have hget : String.Pos.Raw.get (String.ofList (l ++ c :: r)) ⟨String.utf8Len l⟩ = c :=
      String.get_of_valid l (c :: r)
    have hline : String.Pos.Raw.get "\n" 0 = '\n' := by decide
    have hne : ¬ (c == '\n') = true := by simpa using (List.ne_of_not_mem_cons h).symm
    have hunoffset : (String.Pos.Raw.mk (String.utf8Len l)).unoffsetBy 0 = ⟨String.utf8Len l⟩ := rfl
    have hnext : String.Pos.Raw.next (String.ofList (l ++ c :: r)) ⟨String.utf8Len l⟩ =
        ⟨String.utf8Len (l ++ [c])⟩ := by
      simpa using String.next_of_valid l c r
    rw [String.splitOnAux, if_neg hend, hget, hline, if_neg hne, hunoffset, hnext]
    simpa using ih (l ++ [c]) (List.not_mem_of_not_mem_cons h)

theorem splitOn_of_not_mem {s : String} (h : '\n' ∉ s.toList) : s.splitOn "\n" = [s] := by
  have haux := splitOnAux_of_not_mem [] h
  rw [String.splitOn, if_neg (by decide)]
  simpa using haux

/-! ## Lines that fit -/

theorem cellCount_append (as bs : List Char) :
    cellCount (as ++ bs) = cellCount as + cellCount bs := by
  have hfold (n : Nat) : bs.foldl (fun n c => n + cellWidth c) n = n + cellCount bs := by
    induction bs generalizing n with
    | nil => rfl
    | cons b bs ih =>
      rw [cellCount, List.foldl_cons, ih, List.foldl_cons, ih]
      omega
  rw [cellCount, List.foldl_append, hfold]
  rfl

/-- No character has more than two cells. -/
theorem cellCount_le (cs : List Char) : cellCount cs ≤ 2 * cs.length := by
  have hwidth (c : Char) : cellWidth c ≤ 2 := by
    rw [cellWidth]
    repeat' split
    all_goals decide
  induction cs with
  | nil => exact Nat.zero_le _
  | cons c cs ih =>
    have hcons := cellCount_append [c] cs
    have hone : cellCount [c] ≤ 2 := by simpa [cellCount] using hwidth c
    rw [List.singleton_append] at hcons
    rw [hcons, List.length_cons]
    omega

theorem cellCount_trimEnd_le (cs : List Char) : cellCount (trimEnd cs) ≤ cellCount cs := by
  have hsplit : cs = trimEnd cs ++ (cs.reverse.takeWhile Text.isBlank).reverse := by
    rw [trimEnd, ← List.reverse_append, List.takeWhile_append_dropWhile, List.reverse_reverse]
  have hcount := cellCount_append (trimEnd cs) (cs.reverse.takeWhile Text.isBlank).reverse
  rw [← hsplit] at hcount
  omega

/-- Words have no cells but those of their text. -/
theorem cellCount_flatten_blankedWords_le (started ended : Bool) (word cs : List Char) :
    cellCount (blankedWords started ended word cs).flatten ≤ cellCount (word.reverse ++ cs) := by
  induction cs generalizing started ended word with
  | nil => cases started <;> simp [blankedWords]
  | cons c cs ih =>
    rw [blankedWords]
    split
    · simpa using ih started started (c :: word)
    · split
      · have hrest := ih true false [c]
        rw [List.flatten_cons, cellCount_append, cellCount_append]
        exact Nat.add_le_add_left (by simpa using hrest) _
      · simpa using ih true false (c :: word)

/-- Words that have room beside the cells in use are not divided. -/
theorem breaks_of_cellCount_le {fold : Bool} {width used : Nat} {ws : List (List Char)}
    (h : used + cellCount ws.flatten ≤ width) (start : Nat) :
    breaks fold width start used ws = [] := by
  induction ws generalizing start used with
  | nil => rfl
  | cons w ws ih =>
    rw [List.flatten_cons, cellCount_append] at h
    have htrim := cellCount_trimEnd_le w
    rw [breaks, if_pos (by omega)]
    exact ih (by omega) _

theorem expandTabs_of_not_mem {measure : Char → Nat} {step : Nat} {cs : List Char}
    (h : '\t' ∉ cs) (column : Nat) : expandTabs measure step column cs = cs := by
  induction cs generalizing column with
  | nil => rfl
  | cons c cs ih =>
    have hcs := ih (List.not_mem_of_not_mem_cons h)
    rw [expandTabs, if_neg (Ne.symm (List.ne_of_not_mem_cons h)), hcs, hcs, ite_self]

/-- A line that has room, however wide its characters are, is not divided, and nothing is cut
from it. -/
theorem wrapLine_of_length_le {width : Nat} {cs : List Char} (htab : '\t' ∉ cs)
    (h : 2 * cs.length ≤ width) (fold : Bool) : wrapLine fold width cs = [cs] := by
  have hcells := (cellCount_le cs).trans h
  have hlength : cs.length ≤ width := by omega
  have hwords := cellCount_flatten_blankedWords_le false false [] cs
  have hbreaks : breaks fold width 0 0 (blankedWords false false [] cs) = [] :=
    breaks_of_cellCount_le (by simpa using hwords.trans hcells) 0
  have htrim : trimExcess width cs = cs := by
    rw [trimExcess, Nat.sub_eq_zero_of_le hlength, Nat.min_zero, Nat.sub_zero, List.take_length]
  rw [wrapLine, expandTabs_of_not_mem htab, hbreaks, divide, List.map_singleton, htrim, fit,
    if_pos hcells]

/-- A text that has room in one line is that line. -/
theorem wrap_of_length_le {width : Nat} {s : String} (hbreak : '\n' ∉ s.toList)
    (htab : '\t' ∉ s.toList) (h : 2 * s.toList.length ≤ width) (fold : Bool) :
    wrap fold width s = [s] := by
  rw [wrap, splitOn_of_not_mem hbreak, List.flatMap_singleton, wrapLine_of_length_le htab h,
    List.map_singleton, String.ofList_toList]

/-! ## Tables -/

/-- Whether a text can be shown. -/
def Showable (s : String) : Prop := ∃ cs, textOf s = .ok cs

theorem Showable.exists_styledOf {s : String} (h : Showable s) : ∃ t, styledOf s = .ok t := by
  obtain ⟨cs, hcs⟩ := h
  rw [textOf] at hcs
  obtain ⟨t, ht, -⟩ := exceptBind_eq_ok.1 hcs
  exact ⟨t, ht⟩

theorem exists_mapM_eq_ok {ε α β : Type} {f : α → Except ε β} {as : List α}
    (h : ∀ a ∈ as, ∃ b, f a = .ok b) : ∃ bs, as.mapM f = .ok bs := by
  induction as with
  | nil => exact ⟨[], rfl⟩
  | cons a as ih =>
    obtain ⟨⟨b, hb⟩, has⟩ := List.forall_mem_cons.1 h
    obtain ⟨bs, hbs⟩ := ih has
    refine ⟨b :: bs, ?_⟩
    rw [List.mapM_cons, hb, hbs]
    rfl

/-- Whether the title of a table, its headers and its cells can be shown. -/
structure Table.IsShowable (t : Table) : Prop where
  title : Showable t.title
  headers : ∀ c ∈ t.columns, Showable c.header
  cells : ∀ row ∈ t.rows, ∀ cell ∈ row, Showable cell

namespace Table

variable {t : Table}

/-- A row that is too short has empty cells. -/
theorem IsShowable.columnCells (h : t.IsShowable) {c : Column} (hc : c ∈ t.columns) (i : Nat) :
    ∀ s ∈ t.columnCells i c, Showable s := by
  intro s hs
  rcases List.mem_cons.1 hs with rfl | hs
  · exact h.headers c hc
  · obtain ⟨row, hrow, rfl⟩ := List.mem_map.1 hs
    rw [List.getD_eq_getElem?_getD]
    cases hcell : row[i]? with
    | none => exact ⟨_, textOf_of_not_mem (by decide)⟩
    | some cell => exact h.cells row hrow cell (List.mem_of_getElem? hcell)

theorem IsShowable.exists_widths (h : t.IsShowable) (columns : Nat) :
    ∃ ws, t.widths columns = .ok ws := by
  have hnatural : ∀ p ∈ t.columns.zipIdx, ∃ w,
      t.naturalWidth (columns - (t.columns.length + 1)) p.2 p.1 = .ok w := by
    rintro ⟨c, i⟩ hc
    rw [naturalWidth]
    cases c.width with
    | some w => exact ⟨_, rfl⟩
    | none =>
      have hcells := h.columnCells (List.fst_mem_of_mem_zipIdx hc) i
      obtain ⟨us, hus⟩ := exists_mapM_eq_ok fun s hs => (hcells s hs).exists_styledOf
      exact ⟨_, exceptBind_eq_ok.2 ⟨us, hus, rfl⟩⟩
  obtain ⟨ws, hws⟩ := exists_mapM_eq_ok hnatural
  exact ⟨_, exceptBind_eq_ok.2 ⟨ws, hws, rfl⟩⟩

theorem exists_rowLines {cells : List String} (h : ∀ cell ∈ cells, Showable cell)
    (ws : List Nat) : ∃ ls, rowLines ws cells = .ok ls := by
  have hcells : ∀ p ∈ ws.zip cells, ∃ line, (do
      let text ← textOf p.2
      return (p.1 - padding, wrap false (p.1 - padding) (String.ofList text)) :
        Except MarkupRefusal (Nat × List String)) = .ok line := by
    rintro ⟨w, cell⟩ hcell
    obtain ⟨text, htext⟩ := h cell (List.of_mem_zip hcell).2
    exact ⟨_, exceptBind_eq_ok.2 ⟨text, htext, rfl⟩⟩
  obtain ⟨ls, hls⟩ := exists_mapM_eq_ok hcells
  exact ⟨_, exceptBind_eq_ok.2 ⟨ls, hls, rfl⟩⟩

theorem IsShowable.exists_lines (h : t.IsShowable) (columns : Nat) :
    ∃ ls, t.lines columns = .ok ls := by
  obtain ⟨ws, hws⟩ := h.exists_widths columns
  obtain ⟨title, htitle⟩ := h.title
  have hrows : ∀ cells ∈ (t.columns.map (·.header)) :: t.rows, ∃ ls, rowLines ws cells = .ok ls := by
    refine List.forall_mem_cons.2 ⟨exists_rowLines (List.forall_mem_map.2 h.headers) ws, ?_⟩
    exact fun row hrow => exists_rowLines (h.cells row hrow) ws
  obtain ⟨ls, hls⟩ := exists_mapM_eq_ok hrows
  exact ⟨_, exceptBind_eq_ok.2 ⟨ws, hws, exceptBind_eq_ok.2 ⟨title, htitle,
    exceptBind_eq_ok.2 ⟨ls, hls, rfl⟩⟩⟩⟩

end Table

end GuidedJson.Display
