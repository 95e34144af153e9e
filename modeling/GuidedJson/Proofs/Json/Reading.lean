import GuidedJson.Json.Display
import GuidedJson.Proofs.Json.Numbers
import GuidedJson.Proofs.Json.Strings
import GuidedJson.Proofs.Results
import GuidedJson.Text.Blank

/-!
# Printed documents are read

A document that is printed is read as itself, whatever the layout, unless an integer in it has too
many digits.
-/

namespace GuidedJson

namespace Value

/-! ## Documents as they are read -/

mutual
/-- Whether a document is as documents are read: its objects have no key twice, and its binary
numbers are in the form that rounding leaves. -/
def Proper : Value → Prop
  | .float x => Number.Format.binary64.Keeps x
  | .array vs => AllProper vs
  | .object ms => (ms.map Prod.fst).Nodup ∧ MembersProper ms
  | _ => True

def AllProper : List Value → Prop
  | [] => True
  | v :: vs => v.Proper ∧ AllProper vs

def MembersProper : List (String × Value) → Prop
  | [] => True
  | (_, v) :: ms => v.Proper ∧ MembersProper ms
end

mutual
/-- Whether no integer in a document has more digits than are read. -/
def Fits : Value → Prop
  | .int n => Json.Fits n
  | .array vs => AllFit vs
  | .object ms => MembersFit ms
  | _ => True

def AllFit : List Value → Prop
  | [] => True
  | v :: vs => v.Fits ∧ AllFit vs

def MembersFit : List (String × Value) → Prop
  | [] => True
  | (_, v) :: ms => v.Fits ∧ MembersFit ms
end

theorem allProper_iff {vs : List Value} : AllProper vs ↔ ∀ v ∈ vs, v.Proper := by
  induction vs with
  | nil => simp [AllProper]
  | cons v vs ih => rw [AllProper, ih, List.forall_mem_cons]

theorem membersProper_iff {ms : List (String × Value)} :
    MembersProper ms ↔ ∀ m ∈ ms, m.2.Proper := by
  induction ms with
  | nil => simp [MembersProper]
  | cons m ms ih => rw [MembersProper, ih, List.forall_mem_cons]

theorem allFit_iff {vs : List Value} : AllFit vs ↔ ∀ v ∈ vs, v.Fits := by
  induction vs with
  | nil => simp [AllFit]
  | cons v vs ih => rw [AllFit, ih, List.forall_mem_cons]

theorem membersFit_iff {ms : List (String × Value)} : MembersFit ms ↔ ∀ m ∈ ms, m.2.Fits := by
  induction ms with
  | nil => simp [MembersFit]
  | cons m ms ih => rw [MembersFit, ih, List.forall_mem_cons]

mutual
/-- What is read can be written, as far as its integers are concerned. -/
theorem isWritable_iff : ∀ v : Value, v.isWritable = true ↔ v.Fits
  | .null | .bool _ | .float _ | .string _ => by simp [isWritable, Fits]
  | .int n => by rw [isWritable, Fits, Json.isWritable_iff]
  | .array vs => by rw [isWritable, Fits, areWritable_iff vs]
  | .object ms => by rw [isWritable, Fits, haveWritable_iff ms]

theorem areWritable_iff : ∀ vs : List Value, areWritable vs = true ↔ AllFit vs
  | [] => by simp [areWritable, AllFit]
  | v :: vs => by rw [areWritable, AllFit, Bool.and_eq_true, isWritable_iff v, areWritable_iff vs]

theorem haveWritable_iff : ∀ ms : List (String × Value), haveWritable ms = true ↔ MembersFit ms
  | [] => by simp [haveWritable, MembersFit]
  | (_, v) :: ms => by
    rw [haveWritable, MembersFit, Bool.and_eq_true, isWritable_iff v, haveWritable_iff ms]
end

/-! ## Texts of values -/

theorem write?_of_fits {v : Value} (h : v.Fits) (indent : Option Int) :
    v.write? indent = some (v.render indent) := if_pos ((isWritable_iff v).2 h)

theorem write?_of_not_fits {v : Value} (h : ¬ v.Fits) (indent : Option Int) :
    v.write? indent = none := if_neg (mt (isWritable_iff v).1 h)

theorem eq_render_of_write? {v : Value} {indent : Option Int} {text : String}
    (h : v.write? indent = some text) : text = v.render indent := by
  rw [write?] at h
  split at h
  · exact (Option.some.inj h).symm
  · cases h

theorem inspect?_of_fits {v : Value} (h : v.Fits) : v.inspect? = some v.inspect :=
  if_pos ((isWritable_iff v).2 h)

theorem inspect?_of_not_fits {v : Value} (h : ¬ v.Fits) : v.inspect? = none :=
  if_neg (mt (isWritable_iff v).1 h)

end Value

namespace Json

open Value (Proper AllProper MembersProper Fits AllFit MembersFit)

/-! ## White space -/

theorem isSpace_iff {c : Char} : isSpace c = true ↔ IsBlank c := by
  simp [isSpace, IsBlank, or_assoc]

theorem skipSpace_append {ws : List Char} (hws : Blank ws) (cs : List Char) :
    skipSpace (ws ++ cs) = skipSpace cs :=
  List.dropWhile_append_of_pos fun c hc => isSpace_iff.2 (hws c hc)

theorem skipSpace_cons {c : Char} (hc : isSpace c = false) (cs : List Char) :
    skipSpace (c :: cs) = c :: cs := by
  simp [skipSpace, hc]

theorem endsNumber_append {ws : List Char} (hws : Blank ws) {c : Char} (rest : List Char)
    (hc : isDigit c = false ∧ c ≠ '.' ∧ c ≠ 'e' ∧ c ≠ 'E') : EndsNumber (ws ++ c :: rest) := by
  cases ws with
  | nil => exact endsNumber_cons rest hc
  | cons b ws =>
    apply endsNumber_cons
    have hb := hws b List.mem_cons_self
    simp only [IsBlank, List.mem_cons, List.not_mem_nil, or_false] at hb
    rcases hb with rfl | rfl | rfl | rfl <;> decide

/-! ## What readers do -/

section Takes

variable {α β : Type} {p q : Prop} {a : α} {b : β} {rest after : List Char}
  {x : Except Stop (α × List Char)}

/-- Whether a reader takes a thing from the front of a text, or ends at too many digits where an
integer does not fit. -/
def Takes (fits : Prop) (a : α) (rest : List Char) (x : Except Stop (α × List Char)) : Prop :=
  (fits → x = .ok (a, rest)) ∧ (¬ fits → ∃ count, x = .error (.digits count))

theorem takes_ok : Takes True a rest (.ok (a, rest)) := ⟨fun _ => rfl, fun h => absurd trivial h⟩

theorem Takes.bind {f : α × List Char → Except Stop (β × List Char)} (hx : Takes p a rest x)
    (hf : p → Takes q b after (f (a, rest))) : Takes (p ∧ q) b after (x >>= f) := by
  by_cases hp : p
  · have hbind : x >>= f = f (a, rest) := by rw [hx.1 hp]; rfl
    obtain ⟨hok, herror⟩ := hf hp
    rw [hbind]
    exact ⟨fun h => hok h.2, fun h => herror fun hq => h ⟨hp, hq⟩⟩
  · obtain ⟨count, herror⟩ := hx.2 hp
    have hbind : x >>= f = .error (.digits count) := by rw [herror]; rfl
    exact ⟨fun h => absurd h.1 hp, fun _ => ⟨count, hbind⟩⟩

theorem Takes.map {f : α → β} (hx : Takes p a rest x) :
    Takes p (f a) rest (x.map fun r => (f r.1, r.2)) := by
  constructor
  · intro hp
    rw [hx.1 hp]
    rfl
  · intro hp
    obtain ⟨count, herror⟩ := hx.2 hp
    exact ⟨count, by rw [herror]; rfl⟩

theorem Takes.bind_ok {f : α × List Char → Except Stop (β × List Char)} (hx : Takes p a rest x)
    (hf : f (a, rest) = .ok (b, after)) : Takes p b after (x >>= f) := by
  have htrue : Takes True b after (f (a, rest)) := hf ▸ takes_ok
  simpa only [and_true] using hx.bind fun _ => htrue

/-- A reader that takes something finds no fault. -/
theorem Takes.ne_stop (hx : Takes p a rest x) (cause : Cause) (left : List Char) :
    x ≠ stop cause left := by
  rintro rfl
  by_cases hp : p
  · cases hx.1 hp
  · obtain ⟨count, herror⟩ := hx.2 hp
    cases herror

end Takes

/-! ## Where a value begins -/

/-- Whether a value can begin with a character. -/
def BeginsValue (c : Char) : Prop :=
  isDigit c = true ∨ c ∈ ['"', '[', '\x7b', 'n', 't', 'f', 'N', 'I', '-']

theorem readScalar_of_not_beginsValue {c : Char} (hc : ¬ BeginsValue c) (cs : List Char) :
    readScalar (c :: cs) = stop .value (c :: cs) := by
  obtain ⟨hdigit, hmem⟩ := not_or.1 hc
  have hne : ∀ d ∈ ['"', '[', '\x7b', 'n', 't', 'f', 'N', 'I', '-'], c ≠ d := by
    rintro d hd rfl
    exact hmem hd
  have hwhole : readWhole (c :: cs) = none := by
    rw [readWhole]
    · rw [List.takeWhile_cons_of_neg hdigit]
    · rintro _ heq
      exact hdigit (by rw [(List.cons.inj heq).1]; rfl)
  rw [readScalar]
  · rw [readNumber, hwhole]
  all_goals
    intro _ heq
    exact hne _ (by decide) (List.cons.inj heq).1

/-- Nothing is read where no value begins. -/
theorem readValue_of_not_beginsValue {c : Char} (hc : ¬ BeginsValue c) (fuel : Nat)
    (cs : List Char) : readValue fuel (c :: cs) = stop .value (c :: cs) := by
  cases fuel with
  | zero => rfl
  | succ fuel =>
    have hne : ∀ d, BeginsValue d → c ≠ d := by
      rintro d hd rfl
      exact hc hd
    rw [readValue]
    · exact readScalar_of_not_beginsValue hc cs
    all_goals
      intro _ heq
      exact hne _ (.inr (by decide)) (List.cons.inj heq).1

theorem BeginsValue.isSpace {c : Char} (hc : BeginsValue c) : isSpace c = false := by
  rw [Bool.eq_false_iff]
  intro hspace
  have hblank := isSpace_iff.1 hspace
  simp only [IsBlank, List.mem_cons, List.not_mem_nil, or_false] at hblank
  rcases hblank with rfl | rfl | rfl | rfl <;>
    exact absurd hc (by simp [BeginsValue, isDigit])

theorem skipSpace_of_takes_value {p : Prop} {v : Value} {fuel : Nat} {cs rest : List Char}
    (h : Takes p v rest (readValue fuel cs)) : skipSpace cs = cs := by
  cases cs with
  | nil => rfl
  | cons c cs =>
    by_cases hc : BeginsValue c
    · exact skipSpace_cons hc.isSpace cs
    · exact absurd (readValue_of_not_beginsValue hc fuel cs) (h.ne_stop _ _)

theorem readItems_of_not_beginsValue {c : Char} (hc : ¬ BeginsValue c) (fuel : Nat)
    (cs : List Char) : readItems fuel (c :: cs) = stop .value (c :: cs) := by
  cases fuel with
  | zero => rfl
  | succ fuel =>
    rw [readItems, readValue_of_not_beginsValue hc]
    rfl

theorem skipSpace_of_takes_items {p : Prop} {vs : List Value} {fuel : Nat} {cs rest : List Char}
    (h : Takes p vs rest (readItems fuel cs)) : skipSpace cs = cs := by
  cases cs with
  | nil => rfl
  | cons c cs =>
    by_cases hc : BeginsValue c
    · exact skipSpace_cons hc.isSpace cs
    · exact absurd (readItems_of_not_beginsValue hc fuel cs) (h.ne_stop _ _)

/-! ## Items and members -/

section Steps

variable {p q : Prop} {v : Value} {vs : List Value} {ms : List (String × Value)} {fuel : Nat}
  {cs left after rest : List Char}

/-- The last item of an array. -/
theorem takes_lastItem (hv : Takes p v left (readValue fuel cs))
    (hleft : skipSpace left = ']' :: rest) : Takes p [v] rest (readItems (fuel + 1) cs) := by
  refine hv.bind_ok ?_
  simp only [hleft]
  rfl

/-- An item before others. -/
theorem takes_nextItem (hv : Takes p v left (readValue fuel cs))
    (hleft : skipSpace left = ',' :: after)
    (hvs : Takes q vs rest (readItems fuel (skipSpace after))) :
    Takes (p ∧ q) (v :: vs) rest (readItems (fuel + 1) cs) := by
  refine hv.bind fun _ => ?_
  simp only [hleft]
  exact hvs.bind_ok rfl

/-- The rest of an object, once a value of it is read. -/
def afterMember (fuel : Nat) (key : String) (r : Value × List Char) :
    Except Stop (List (String × Value) × List Char) :=
  match skipSpace r.2 with
  | '\x7d' :: after => .ok ([(key, r.1)], after)
  | ',' :: after => (readMembers fuel (skipSpace after)).map fun (ms, after) =>
      ((key, r.1) :: ms, after)
  | left => stop .comma left

/-- A name in front of a value. -/
theorem readMembers_name (key : String) (cs : List Char) :
    readMembers (fuel + 1) ((jsonString key).toList ++ (": ".toList ++ cs)) =
      (readValue fuel (skipSpace cs)).bind (afterMember fuel key) := by
  have htext : (jsonString key).toList ++ (": ".toList ++ cs) =
      '"' :: (key.toList.flatMap jsonChar ++ '"' :: ':' :: ' ' :: cs) := by
    simp [toList_jsonString, quoted]
  rw [htext, readMembers, readStringBody_jsonString]
  change (readValue fuel (skipSpace cs)).bind _ = _
  congr 1

/-- The last member of an object. -/
theorem takes_lastMember (key : String) (hv : Takes p v left (readValue fuel (skipSpace cs)))
    (hleft : skipSpace left = '\x7d' :: rest) :
    Takes p [(key, v)] rest
      (readMembers (fuel + 1) ((jsonString key).toList ++ (": ".toList ++ cs))) := by
  rw [readMembers_name]
  exact hv.bind_ok (by simp only [afterMember, hleft])

/-- A member before others. -/
theorem takes_nextMember {key : String} (hv : Takes p v left (readValue fuel (skipSpace cs)))
    (hleft : skipSpace left = ',' :: after)
    (hms : Takes q ms rest (readMembers fuel (skipSpace after))) :
    Takes (p ∧ q) ((key, v) :: ms) rest
      (readMembers (fuel + 1) ((jsonString key).toList ++ (": ".toList ++ cs))) := by
  rw [readMembers_name]
  refine hv.bind fun _ => ?_
  simp only [afterMember, hleft]
  exact hms.map

/-- A key that is not among members is set behind them. -/
theorem insertMember_of_not_mem {key : String} (h : key ∉ ms.map Prod.fst) :
    Value.insertMember key v ms = ms ++ [(key, v)] := by
  induction ms with
  | nil => rfl
  | cons m ms ih =>
    obtain ⟨k, w⟩ := m
    rw [List.map_cons, List.mem_cons, not_or] at h
    rw [Value.insertMember, if_neg (Ne.symm h.1), ih h.2, List.cons_append]

/-- Members without a key twice are kept as they are. -/
theorem members_of_nodup (h : (ms.map Prod.fst).Nodup) : Value.members ms = ms := by
  induction ms using List.reverseRecOn with
  | nil => rfl
  | append_singleton ms m ih =>
    rw [List.map_append, List.nodup_append] at h
    obtain ⟨hms, -, hdisjoint⟩ := h
    rw [Value.members, List.foldl_append]
    change Value.insertMember m.1 m.2 (Value.members ms) = _
    rw [ih hms, insertMember_of_not_mem]
    intro hmem
    exact hdisjoint m.1 hmem m.1 (by simp) rfl

end Steps

/-! ## Collections and scalars -/

section Values

variable {p : Prop} {v : Value} {vs : List Value} {ms : List (String × Value)} {fuel : Nat}
  {cs rest : List Char}

/-- Where a value that is neither a collection nor a string is read, nothing else is. -/
theorem takes_scalar (h : Takes p v rest (readScalar cs)) (fuel : Nat) :
    Takes p v rest (readValue (fuel + 1) cs) := by
  have hscalar : readValue (fuel + 1) cs = readScalar cs := by
    rw [readValue]
    all_goals
      rintro _ rfl
      exact h.ne_stop .value _ rfl
  rw [hscalar]
  exact h

/-- The items of an array behind its opening bracket. -/
theorem takes_array (h : Takes p vs rest (readItems fuel (skipSpace cs))) :
    Takes p (.array vs) rest (readValue (fuel + 1) ('[' :: cs)) := by
  have hvalue : readValue (fuel + 1) ('[' :: cs) =
      (readItems fuel (skipSpace cs)).map fun r => (.array r.1, r.2) := by
    rw [readValue]
    split
    next after heq =>
      have hclosing : ¬ BeginsValue ']' := by simp [BeginsValue, isDigit]
      rw [heq] at h
      exact absurd (readItems_of_not_beginsValue hclosing fuel after) (h.ne_stop _ _)
    next => rfl
  rw [hvalue]
  exact h.map

/-- The members of an object behind its opening brace. -/
theorem takes_object (h : Takes p ms rest (readMembers fuel (skipSpace cs)))
    (hms : (ms.map Prod.fst).Nodup) :
    Takes p (.object ms) rest (readValue (fuel + 1) ('\x7b' :: cs)) := by
  have hvalue : readValue (fuel + 1) ('\x7b' :: cs) =
      (readMembers fuel (skipSpace cs)).map fun r => (.object (Value.members r.1), r.2) := by
    rw [readValue]
    split
    next after heq =>
      rw [heq] at h
      cases fuel with
      | zero => exact absurd rfl (h.ne_stop .value _)
      | succ fuel => exact absurd rfl (h.ne_stop .propertyName ('\x7d' :: after))
    next => rfl
  have hread := h.map (f := fun ms => Value.object (Value.members ms))
  rw [members_of_nodup hms] at hread
  rwa [hvalue]

end Values

/-! ## Printed documents -/

/-- Items with commas and white space between them. -/
def joined (ws : List Char) (items : List String) : List Char :=
  (',' :: ws).intercalate (items.map String.toList)

theorem joined_singleton (ws : List Char) (item : String) : joined ws [item] = item.toList := by
  simp [joined]

theorem joined_cons (ws : List Char) (item : String) {items : List String} (hne : items ≠ []) :
    joined ws (item :: items) = item.toList ++ ',' :: (ws ++ joined ws items) := by
  obtain ⟨next, items, rfl⟩ := List.exists_cons_of_ne_nil hne
  simp [joined, List.intercalate_cons_cons]

theorem renderItems_ne_nil {vs : List Value} (hne : vs ≠ []) (indent : Option Int) (depth : Int) :
    Value.renderItems indent depth vs ≠ [] := by
  obtain ⟨v, vs, rfl⟩ := List.exists_cons_of_ne_nil hne
  rw [Value.renderItems]
  exact List.cons_ne_nil _ _

theorem renderMembers_ne_nil {ms : List (String × Value)} (hne : ms ≠ []) (indent : Option Int)
    (depth : Int) : Value.renderMembers indent depth ms ≠ [] := by
  obtain ⟨m, ms, rfl⟩ := List.exists_cons_of_ne_nil hne
  rw [Value.renderMembers]
  exact List.cons_ne_nil _ _

/-- A non-empty array is its items between brackets and white space. -/
theorem toList_renderAt_array {vs : List Value} (hne : vs ≠ []) (indent : Option Int)
    (depth : Int) : ∃ a b ws, Blank a ∧ Blank b ∧ Blank ws ∧
      ((Value.array vs).renderAt indent depth).toList =
        '[' :: (a ++ (joined ws (Value.renderItems indent (depth + 1) vs) ++ (b ++ [']']))) := by
  obtain ⟨ha, hb, ws, hbetween, hws⟩ := blank_spacing indent depth
  refine ⟨_, _, ws, ha, hb, hws, ?_⟩
  rw [Value.renderAt]
  refine (toList_enclose _ '[' ']' _).trans ?_
  simp [laidOut, joined, renderItems_ne_nil hne, hbetween]

/-- A non-empty object is its members between braces and white space. -/
theorem toList_renderAt_object {ms : List (String × Value)} (hne : ms ≠ []) (indent : Option Int)
    (depth : Int) : ∃ a b ws, Blank a ∧ Blank b ∧ Blank ws ∧
      ((Value.object ms).renderAt indent depth).toList = '\x7b' ::
        (a ++ (joined ws (Value.renderMembers indent (depth + 1) ms) ++ (b ++ ['\x7d']))) := by
  obtain ⟨ha, hb, ws, hbetween, hws⟩ := blank_spacing indent depth
  refine ⟨_, _, ws, ha, hb, hws, ?_⟩
  rw [Value.renderAt]
  refine (toList_enclose _ '\x7b' '\x7d' _).trans ?_
  simp [laidOut, joined, renderMembers_ne_nil hne, hbetween]

theorem skipSpace_joined_members (ws : List Char) (indent : Option Int) (depth : Int)
    {ms : List (String × Value)} (hne : ms ≠ []) (rest : List Char) :
    skipSpace (joined ws (Value.renderMembers indent depth ms) ++ rest) =
      joined ws (Value.renderMembers indent depth ms) ++ rest := by
  obtain ⟨cs, hcs⟩ : ∃ cs, joined ws (Value.renderMembers indent depth ms) = '"' :: cs := by
    obtain ⟨⟨key, v⟩, ms, rfl⟩ := List.exists_cons_of_ne_nil hne
    rcases eq_or_ne ms [] with rfl | hms
    · simp [Value.renderMembers, joined_singleton, toList_jsonString, quoted]
    · simp [Value.renderMembers, joined_cons ws _ (renderMembers_ne_nil hms indent depth),
        toList_jsonString, quoted]
  rw [hcs, List.cons_append, skipSpace_cons rfl]

/-- What stands behind an item or a member: white space and the closing bracket. -/
theorem skipSpace_close {ws : List Char} (hws : Blank ws) {c : Char} (hc : isSpace c = false)
    (rest : List Char) : skipSpace (ws ++ c :: rest) = c :: rest := by
  rw [skipSpace_append hws, skipSpace_cons hc]

theorem endsNumber_comma (cs : List Char) : EndsNumber (',' :: cs) :=
  endsNumber_cons cs (by decide)

mutual
/-- A document that is printed is read as itself. -/
theorem takes_value (v : Value) (hv : v.Proper) (indent : Option Int) (depth : Int) {fuel : Nat}
    {rest : List Char} (hrest : EndsNumber rest)
    (hfuel : 2 * (v.renderAt indent depth).toList.length < fuel) :
    Takes v.Fits v rest (readValue fuel ((v.renderAt indent depth).toList ++ rest)) := by
  obtain ⟨k, rfl⟩ : ∃ k, fuel = k + 1 := ⟨fuel - 1, by omega⟩
  cases v with
  | null =>
    rw [Value.renderAt]
    exact takes_scalar takes_ok k
  | bool b =>
    rw [Value.renderAt]
    cases b <;> exact takes_scalar takes_ok k
  | int n => exact takes_scalar (readScalar_int n hrest) k
  | float x => exact takes_scalar ⟨fun _ => readScalar_float hv hrest, fun h => absurd trivial h⟩ k
  | string s =>
    have htext : (jsonString s).toList ++ rest =
        '"' :: (s.toList.flatMap jsonChar ++ '"' :: rest) := by
      rw [toList_jsonString, quoted, List.cons_append, List.cons_append, List.append_assoc,
        List.singleton_append]
    rw [Value.renderAt, htext, readValue, readStringBody_jsonString]
    exact takes_ok
  | array vs =>
    by_cases hne : vs = []
    · have htext : ((Value.array vs).renderAt indent depth).toList = ['[', ']'] := by
        rw [hne, Value.renderAt, Value.renderItems]
        exact toList_enclose _ '[' ']' []
      rw [htext, hne]
      exact takes_ok
    · obtain ⟨a, b, ws, ha, hb, hws, htext⟩ := toList_renderAt_array hne indent depth
      simp only [htext, List.cons_append, List.append_assoc, List.nil_append, List.length_cons,
        List.length_append] at hfuel ⊢
      have hitems : Takes (AllFit vs) vs rest (readItems k (_ ++ (b ++ ']' :: rest))) :=
        takes_items vs hv hne indent (depth + 1) hws hb (by omega)
      refine takes_array ?_
      rwa [skipSpace_append ha, skipSpace_of_takes_items hitems]
  | object ms =>
    by_cases hne : ms = []
    · have htext : ((Value.object ms).renderAt indent depth).toList = ['\x7b', '\x7d'] := by
        rw [hne, Value.renderAt, Value.renderMembers]
        exact toList_enclose _ '\x7b' '\x7d' []
      rw [htext, hne]
      exact takes_ok
    · obtain ⟨a, b, ws, ha, hb, hws, htext⟩ := toList_renderAt_object hne indent depth
      simp only [htext, List.cons_append, List.append_assoc, List.nil_append, List.length_cons,
        List.length_append] at hfuel ⊢
      have hmembers : Takes (MembersFit ms) ms rest (readMembers k (_ ++ (b ++ '\x7d' :: rest))) :=
        takes_members ms hv.2 hne indent (depth + 1) hws hb (by omega)
      refine takes_object ?_ hv.1
      rwa [skipSpace_append ha, skipSpace_joined_members ws indent (depth + 1) hne]

theorem takes_items (vs : List Value) (hvs : AllProper vs) (hne : vs ≠ []) (indent : Option Int)
    (depth : Int) {ws b rest : List Char} (hws : Blank ws) (hb : Blank b) {fuel : Nat}
    (hfuel : 2 * (joined ws (Value.renderItems indent depth vs)).length + 1 < fuel) :
    Takes (AllFit vs) vs rest (readItems fuel
      (joined ws (Value.renderItems indent depth vs) ++ (b ++ ']' :: rest))) := by
  obtain ⟨k, rfl⟩ : ∃ k, fuel = k + 1 := ⟨fuel - 1, by omega⟩
  cases vs with
  | nil => exact absurd rfl hne
  | cons v vs =>
    by_cases hlast : vs = []
    · have htext : joined ws (Value.renderItems indent depth (v :: vs)) =
          (v.renderAt indent depth).toList := by
        rw [hlast, Value.renderItems, Value.renderItems, joined_singleton]
      rw [htext] at hfuel ⊢
      have hread : Takes v.Fits v _ (readValue k _) := takes_value v hvs.1 indent depth
        (endsNumber_append hb rest (by decide : isDigit ']' = false ∧ _)) (by omega)
      have hitems := takes_lastItem hread (skipSpace_close hb rfl rest)
      rw [hlast]
      simpa only [AllFit, and_true] using hitems
    · have htext := joined_cons ws (v.renderAt indent depth)
        (renderItems_ne_nil hlast indent depth)
      rw [Value.renderItems, htext] at hfuel ⊢
      simp only [List.length_append, List.length_cons] at hfuel
      simp only [List.append_assoc, List.cons_append]
      have hread (left : List Char) : Takes v.Fits v (',' :: left) (readValue k _) :=
        takes_value v hvs.1 indent depth (endsNumber_comma left) (by omega)
      have hitems : Takes (AllFit vs) vs rest (readItems k (_ ++ (b ++ ']' :: rest))) :=
        takes_items vs hvs.2 hlast indent depth hws hb (by omega)
      refine takes_nextItem (hread _) (skipSpace_cons rfl _) ?_
      rwa [skipSpace_append hws, skipSpace_of_takes_items hitems]

theorem takes_members (ms : List (String × Value)) (hms : MembersProper ms) (hne : ms ≠ [])
    (indent : Option Int) (depth : Int) {ws b rest : List Char} (hws : Blank ws) (hb : Blank b)
    {fuel : Nat}
    (hfuel : 2 * (joined ws (Value.renderMembers indent depth ms)).length + 1 < fuel) :
    Takes (MembersFit ms) ms rest (readMembers fuel
      (joined ws (Value.renderMembers indent depth ms) ++ (b ++ '\x7d' :: rest))) := by
  obtain ⟨k, rfl⟩ : ∃ k, fuel = k + 1 := ⟨fuel - 1, by omega⟩
  cases ms with
  | nil => exact absurd rfl hne
  | cons m ms =>
    obtain ⟨key, v⟩ := m
    have hvalue {rest : List Char} (hrest : EndsNumber rest)
        (hfuel : 2 * (v.renderAt indent depth).toList.length < k) :
        Takes v.Fits v rest
          (readValue k (skipSpace ((v.renderAt indent depth).toList ++ rest))) := by
      have hread := takes_value v hms.1 indent depth hrest hfuel
      rwa [skipSpace_of_takes_value hread]
    by_cases hlast : ms = []
    · have htext : joined ws (Value.renderMembers indent depth ((key, v) :: ms)) =
          (jsonString key).toList ++ (": ".toList ++ (v.renderAt indent depth).toList) := by
        rw [hlast, Value.renderMembers, Value.renderMembers, joined_singleton,
          String.toList_append, String.toList_append, List.append_assoc]
      rw [htext] at hfuel ⊢
      simp only [List.length_append] at hfuel
      simp only [List.append_assoc]
      have hread := hvalue (endsNumber_append hb rest (by decide : isDigit '\x7d' = false ∧ _))
        (by omega)
      have hmembers := takes_lastMember key hread (skipSpace_close hb rfl rest)
      rw [hlast]
      simpa only [MembersFit, and_true] using hmembers
    · have htext := joined_cons ws (jsonString key ++ ": " ++ v.renderAt indent depth)
        (renderMembers_ne_nil hlast indent depth)
      rw [Value.renderMembers, htext] at hfuel ⊢
      simp only [String.toList_append, List.length_append, List.length_cons] at hfuel
      simp only [String.toList_append, List.append_assoc, List.cons_append]
      have hmembers : Takes (MembersFit ms) ms rest (readMembers k (_ ++ (b ++ '\x7d' :: rest))) :=
        takes_members ms hms.2 hlast indent depth hws hb (by omega)
      refine takes_nextMember (hvalue (endsNumber_comma _) (by omega)) (skipSpace_cons rfl _) ?_
      rwa [skipSpace_append hws, skipSpace_joined_members ws indent depth hlast]
end

theorem endsNumber_nil : EndsNumber [] := by simp [EndsNumber]

theorem takes_render {v : Value} (hv : v.Proper) (indent : Option Int) {fuel : Nat}
    (hfuel : 2 * (v.render indent).toList.length < fuel) :
    Takes v.Fits v [] (readValue fuel (v.render indent).toList) := by
  have hread := takes_value v hv indent 0 endsNumber_nil hfuel
  rwa [List.append_nil] at hread

/-- What is printed begins as a value does. -/
theorem exists_render_cons {v : Value} (hv : v.Proper) (indent : Option Int) :
    ∃ c cs, (v.render indent).toList = c :: cs ∧ BeginsValue c := by
  have hread := takes_render hv indent (Nat.lt_succ_self _)
  cases hcs : (v.render indent).toList with
  | nil =>
    rw [hcs] at hread
    exact absurd rfl (hread.ne_stop .value [])
  | cons c cs =>
    rw [hcs] at hread
    refine ⟨c, cs, rfl, ?_⟩
    by_contra hc
    exact hread.ne_stop .value _ (readValue_of_not_beginsValue hc _ cs)

/-- A printed document is read as itself, or refused for the digits of an integer in it. -/
theorem parse_render {v : Value} (hv : v.Proper) (indent : Option Int) :
    (v.Fits → parse (v.render indent) = .ok v) ∧
      (¬ v.Fits → ∃ count, parse (v.render indent) = .error (.digits count)) := by
  have hread := takes_render hv indent (Nat.lt_add_of_pos_right (by decide : 0 < 2))
  have hspace := skipSpace_of_takes_value hread
  obtain ⟨c, cs, hcs, hc⟩ := exists_render_cons hv indent
  have hfirst : c.toNat ≠ 0xFEFF := by
    intro hmark
    have hchar : c = Char.ofNat 0xFEFF := by rw [← hmark, Char.ofNat_toNat]
    rw [hchar] at hc
    exact absurd hc (by simp [BeginsValue, isDigit])
  unfold parse readDocument
  rw [hcs] at hread hspace ⊢
  simp only [if_neg hfirst, hspace]
  constructor
  · intro hfits
    rw [hread.1 hfits]
    rfl
  · intro hfits
    obtain ⟨count, herror⟩ := hread.2 hfits
    rw [herror]
    exact ⟨count, rfl⟩

theorem BeginsValue.isBlank {c : Char} (hc : BeginsValue c) : Text.isBlank c = false := by
  rcases hc with hdigit | hmem
  · simp only [isDigit, Bool.and_eq_true, decide_eq_true_eq, Char.le_def, UInt32.le_iff_toNat_le]
      at hdigit
    have hlow : 48 ≤ c.toNat := hdigit.1
    have hhigh : c.toNat ≤ 57 := hdigit.2
    simp only [Text.isBlank, Bool.or_eq_false_iff, Bool.and_eq_false_iff, decide_eq_false_iff_not,
      beq_eq_false_iff_ne]
    omega
  · simp only [List.mem_cons, List.not_mem_nil, or_false] at hmem
    rcases hmem with rfl | rfl | rfl | rfl | rfl | rfl | rfl | rfl | rfl <;> rfl

/-- What is printed is not blank. -/
theorem isBlankText_render {v : Value} (hv : v.Proper) (indent : Option Int) :
    Text.isBlankText (v.render indent) = false := by
  obtain ⟨c, cs, hcs, hc⟩ := exists_render_cons hv indent
  rw [Text.isBlankText, hcs, List.all_cons, hc.isBlank, Bool.false_and]

end Json

end GuidedJson
