import GuidedJson.Pattern.CharSet
import GuidedJson.Pattern.Fault
import GuidedJson.Text.Letter

/-! # The pattern language

Patterns as they are written: characters, classes, groups with their modes, alternatives,
repetitions between two bounds, and looking ahead. Where a part cannot be read the parts before it
still stand, and what follows has to fit: so a text that is no pattern is refused at its end. Parts
that the language names and does not support are refused where they stand.
-/

namespace GuidedJson.Pattern

/-! ## Parts -/

/-- What a group switches on or off: letters of either case, lines, and the dot for all. -/
structure Modes where
  ignoreCase : Bool
  multiline : Bool
  dotAll : Bool
deriving DecidableEq, Repr

namespace Modes

def none : Modes := ⟨false, false, false⟩

def union (m n : Modes) : Modes :=
  ⟨m.ignoreCase || n.ignoreCase, m.multiline || n.multiline, m.dotAll || n.dotAll⟩

/-- The modes inside a group: what it switches off is only taken from what it switches on. -/
def enter (m on off : Modes) : Modes :=
  m.union ⟨on.ignoreCase && !off.ignoreCase, on.multiline && !off.multiline,
    on.dotAll && !off.dotAll⟩

/-- The modes that letters stand for. -/
def read : List Char → Except PatternFault Modes
  | [] => .ok none
  | c :: cs =>
    match c with
    | 'i' => (read cs).map (union ⟨true, false, false⟩)
    | 'm' => (read cs).map (union ⟨false, true, false⟩)
    | 's' => (read cs).map (union ⟨false, false, true⟩)
    | _ => .error (.unsupported (.mode c))

end Modes

/-- Characters, or all but them. -/
structure CharClass where
  chars : CharSet
  negated : Bool
deriving DecidableEq, Repr

namespace CharClass

def single (n : Nat) : CharClass := ⟨⟨[(n, n)]⟩, false⟩

/-- The one character that a class names. -/
def single? (k : CharClass) : Option Nat :=
  match k.chars.ranges with
  | [(a, b)] => if a = b then some a else Option.none
  | _ => Option.none

/-- The characters of a class; in either case all forms of the characters it names count. -/
def set (k : CharClass) (ignoreCase : Bool) : CharSet :=
  let s := if ignoreCase then k.chars.withCaseForms else k.chars
  if k.negated then s.compl else s

/-- A set without another one. -/
def minus (s t : CharSet) : CharSet := t.ranges.foldl (fun u (a, b) => u.remove a b) s

/-- The class of several items. If one of them is negated, what the negated ones name is left out,
except for what the others name. -/
def combine (items : List CharClass) (negated : Bool) : CharClass :=
  let named : CharSet := ⟨(items.filter (!·.negated)).flatMap (·.chars.ranges)⟩
  let barred : CharSet := ⟨(items.filter (·.negated)).flatMap (·.chars.ranges)⟩
  if barred.isEmpty then ⟨named, negated⟩ else ⟨minus barred named, !negated⟩

end CharClass

/-- A pattern as it is written. A repetition without an upper bound is not limited. -/
inductive Syntax where
  /-- A part that is read and stands for nothing at all, such as a comment. -/
  | missing
  /-- A part that sets the modes of the whole pattern. -/
  | modes (on : Modes)
  | chars (set : CharClass)
  | anyChar
  | sequence (parts : List Syntax)
  | group (on off : Modes) (options : List Syntax)
  | repeated (part : Syntax) (least : Nat) (most : Option Nat)
  | look (behind negated : Bool) (part : Syntax)

/-! ## Numbers -/

def isDecimal (c : Char) : Bool := '0' ≤ c && c ≤ '9'

def isOctal (c : Char) : Bool := '0' ≤ c && c ≤ '7'

/-- The digits at the head of a text, as a number. -/
def readNumber? (cs : List Char) : Option (Nat × List Char) :=
  match cs.takeWhile isDecimal with
  | [] => none
  | ds => some (ds.foldl (fun n c => 10 * n + (c.toNat - 48)) 0, cs.dropWhile isDecimal)

/-- A number, none where there are no digits. -/
def readBound (cs : List Char) : Except PatternFault (Option Nat × List Char) :=
  match readNumber? cs with
  | none => .ok (none, cs)
  | some (n, rest) =>
    let count := cs.length - rest.length
    if count ≤ Text.digitLimit then .ok (some n, rest) else .error (.digits count)

def hexDigit? (c : Char) : Option Nat :=
  if isDecimal c then some (c.toNat - 48)
  else if 'a' ≤ c && c ≤ 'f' then some (c.toNat - 87)
  else if 'A' ≤ c && c ≤ 'F' then some (c.toNat - 55)
  else none

/-- At most so many octal digits. -/
def readOctal (most : Nat) (cs : List Char) : Nat × List Char :=
  let digits := (cs.take most).takeWhile isOctal
  (digits.foldl (fun n c => 8 * n + (c.toNat - 48)) 0, cs.drop digits.length)

/-! ## Escapes -/

def wordChars : CharSet := ⟨[(0x30, 0x39), (0x41, 0x5A), (0x5F, 0x5F), (0x61, 0x7A)]⟩

def digitChars : CharSet := ⟨[(0x30, 0x39)]⟩

def spaceChars : CharSet := ⟨[(0x09, 0x0D), (0x20, 0x20)]⟩

/-- The letters that stand for a class after a backslash. -/
def escapedClass? : Char → Option CharClass
  | 'w' => some ⟨wordChars, false⟩
  | 'W' => some ⟨wordChars, true⟩
  | 'd' => some ⟨digitChars, false⟩
  | 'D' => some ⟨digitChars, true⟩
  | 's' => some ⟨spaceChars, false⟩
  | 'S' => some ⟨spaceChars, true⟩
  | 'a' => some (.single 7)
  | 'b' => some (.single 8)
  | 'f' => some (.single 12)
  | 'n' => some (.single 10)
  | 'r' => some (.single 13)
  | 't' => some (.single 9)
  | 'v' => some (.single 11)
  | _ => none

/-- A backslash before anything but a digit: a class, or a character that is no letter. -/
def readPlainEscape (inClass : Bool) : List Char → Except PatternFault (CharClass × List Char)
  | [] => .error .unreadable
  | c :: rest =>
    if !inClass && (c = 'A' || c = 'Z' || c = 'b' || c = 'B') then
      .error (.unsupported (.escape c))
    else
      match escapedClass? c with
      | some k => .ok (k, rest)
      | none => if Text.isLetter c then .error .unreadable else .ok (.single c.toNat, rest)

/-- What follows a backslash. Inside a class up to three octal digits make a character; outside it
takes three of them, as other digits would refer to a group. -/
def readEscape (inClass : Bool) : List Char → Except PatternFault (CharClass × List Char)
  | 'x' :: a :: b :: rest =>
    match hexDigit? a, hexDigit? b with
    | some m, some n => .ok (.single (16 * m + n), rest)
    | _, _ => .error .unreadable
  | 'x' :: _ => .error .unreadable
  | '0' :: rest =>
    let (n, after) := readOctal 2 rest
    if after.length = rest.length then .error .unreadable else .ok (.single n, after)
  | 'N' :: _ | 'p' :: _ | 'P' :: _ | 'u' :: _ | 'U' :: _ => .error (.unsupported .properties)
  | cs =>
    let (n, after) := readOctal 3 cs
    let count := cs.length - after.length
    if count = 3 || (inClass && 0 < count) then .ok (.single n, after)
    else if !inClass && cs.head?.any isDecimal then .error (.unsupported .reference)
    else readPlainEscape inClass cs

/-! ## Classes -/

/-- A character of a class, or what an escape stands for. -/
def readClassAtom : List Char → Except PatternFault (CharClass × List Char)
  | '\\' :: rest => readEscape true rest
  | ']' :: _ => .error .unreadable
  | c :: rest => .ok (.single c.toNat, rest)
  | [] => .error .unreadable

/-- A character or a range of a class; a dash before the end stands for itself. -/
def readClassItem (cs : List Char) : Except PatternFault (CharClass × List Char) := do
  match ← readClassAtom cs with
  | (low, '-' :: ']' :: rest) => return (.combine [low, .single 0x2D] false, ']' :: rest)
  | (low, '-' :: rest) => do
    let (high, rest) ← readClassAtom rest
    match low.single?, high.single? with
    | some a, some b =>
      if a ≤ b then return (⟨.range a b, false⟩, rest)
      else .error (.range (String.ofList (cs.take (cs.length - rest.length))))
    | _, _ => .error (.range (String.ofList (cs.take (cs.length - rest.length))))
  | item => return item

/-- The items of a class as far as they can be read. -/
def readClassItems :
    (fuel : Nat) → List Char → Except PatternFault (List CharClass × List Char)
  | 0, _ => .error .unreadable
  | fuel + 1, cs =>
    match readClassItem cs with
    | .error .unreadable => .ok ([], cs)
    | .error fault => .error fault
    | .ok (item, rest) => do
      let (items, rest) ← readClassItems fuel rest
      return (item :: items, rest)

/-- A class whose opening bracket has been read. -/
def readClass (cs : List Char) : Except PatternFault (CharClass × List Char) := do
  let (negated, cs) := match cs with
    | '^' :: rest => (true, rest)
    | _ => (false, cs)
  match ← readClassItems (cs.length + 1) cs with
  | ([item], ']' :: rest) => return (⟨item.chars, negated != item.negated⟩, rest)
  | (items, ']' :: rest) => return (.combine items negated, rest)
  | _ => .error .unreadable

/-! ## Repetitions -/

/-- A repetition is as greedy as it is: a question mark after it says nothing. -/
def dropLazy : List Char → List Char
  | '?' :: rest => rest
  | cs => cs

/-- The bounds between braces; a missing lower bound is zero. -/
def readBounds (cs : List Char) : Except PatternFault ((Nat × Option Nat) × List Char) := do
  let (least, rest) ← readBound cs
  let least := least.getD 0
  match rest with
  | '\x7d' :: rest => return ((least, some least), rest)
  | ',' :: rest => do
    match ← readBound rest with
    | (most, '\x7d' :: rest) => return ((least, most), rest)
    | _ => .error .unreadable
  | _ => .error .unreadable

/-- A part with the repetition that follows it, if one does. -/
def readRepetition (p : Syntax) (cs : List Char) : Except PatternFault (Syntax × List Char) :=
  match cs with
  | '*' :: rest => .ok (.repeated p 0 none, dropLazy rest)
  | '+' :: rest => .ok (.repeated p 1 none, dropLazy rest)
  | '?' :: rest => .ok (.repeated p 0 (some 1), dropLazy rest)
  | '\x7b' :: rest => do
    let ((least, most), rest) ← readBounds rest
    return (.repeated p least most, dropLazy rest)
  | _ => .ok (p, cs)

/-- A part that is not a group may be repeated twice over. -/
def readRepetitions (p : Syntax) (cs : List Char) : Except PatternFault (Syntax × List Char) := do
  let (p, rest) ← readRepetition p cs
  readRepetition p rest

/-! ## Patterns -/

/-- Characters that do not stand for themselves outside a class. -/
def isReserved (c : Char) : Bool := "+?*.$^\\()[|".toList.contains c

/-- A part that is not a group. -/
def readAtom : List Char → Except PatternFault (Syntax × List Char)
  | '[' :: rest => do
    let (k, rest) ← readClass rest
    readRepetitions (.chars k) rest
  | '\\' :: rest => do
    let (k, rest) ← readEscape false rest
    readRepetitions (.chars k) rest
  | '.' :: rest => readRepetitions .anyChar rest
  | '$' :: _ => .error (.unsupported (.anchor '$'))
  | '^' :: _ => .error (.unsupported (.anchor '^'))
  | c :: rest =>
    if isReserved c then .error .unreadable else readRepetitions (.chars (.single c.toNat)) rest
  | [] => .error .unreadable

/-- Letters and the underscore, of which names of groups are made, and digits. -/
def isNameChar (c : Char) : Bool := c.isAlphanum || c = '_'

def isModeChar (c : Char) : Bool := "aiLmsux".toList.contains c

mutual
/-- Alternatives up to where they end. -/
def readOptions : (fuel : Nat) → List Char → Except PatternFault (List Syntax × List Char)
  | 0, _ => .error .unreadable
  | fuel + 1, cs => do
    match ← readSequence fuel cs with
    | (parts, '|' :: rest) =>
      let (options, rest) ← readOptions fuel rest
      return (.sequence parts :: options, rest)
    | (parts, rest) => return ([.sequence parts], rest)

/-- Parts one after the other, as far as they can be read. -/
def readSequence : (fuel : Nat) → List Char → Except PatternFault (List Syntax × List Char)
  | 0, _ => .error .unreadable
  | fuel + 1, cs =>
    match readPart fuel cs with
    | .error .unreadable => .ok ([], cs)
    | .error fault => .error fault
    | .ok (p, rest) => do
      let (ps, rest) ← readSequence fuel rest
      return (p :: ps, rest)

def readPart : (fuel : Nat) → List Char → Except PatternFault (Syntax × List Char)
  | 0, _ => .error .unreadable
  | fuel + 1, cs =>
    match cs with
    | '(' :: '?' :: c :: rest => readExtension fuel c rest
    | '(' :: '?' :: _ => .error .unreadable
    | '(' :: rest => readGroup fuel .none .none rest
    | _ => readAtom cs

/-- A group up to its end, with what it switches and its repetition. -/
def readGroup :
    (fuel : Nat) → (on off : Modes) → List Char → Except PatternFault (Syntax × List Char)
  | 0, _, _, _ => .error .unreadable
  | fuel + 1, on, off, cs => do
    match ← readOptions fuel cs with
    | (options, ')' :: rest) => readRepetition (.group on off options) rest
    | _ => .error .unreadable

/-- Looking ahead or behind; it is not repeated. -/
def readLook :
    (fuel : Nat) → (behind negated : Bool) → List Char → Except PatternFault (Syntax × List Char)
  | 0, _, _, _ => .error .unreadable
  | fuel + 1, behind, negated, cs => do
    match ← readOptions fuel cs with
    | (options, ')' :: rest) => return (.look behind negated (.group .none .none options), rest)
    | _ => .error .unreadable

/-- Modes, for a group or for the whole pattern. -/
def readModes : (fuel : Nat) → List Char → Except PatternFault (Syntax × List Char)
  | 0, _ => .error .unreadable
  | fuel + 1, cs => do
    let on := cs.takeWhile isModeChar
    match cs.dropWhile isModeChar with
    | '-' :: rest =>
      match rest.takeWhile isModeChar, rest.dropWhile isModeChar with
      | c :: off, ':' :: rest => do
        match ← readOptions fuel rest with
        | (options, rest) =>
          let on ← Modes.read on
          let off ← Modes.read (c :: off)
          match rest with
          | ')' :: rest => readRepetition (.group on off options) rest
          | _ => .error .unreadable
      | _, _ => .error .unreadable
    | ':' :: rest => do
      let (options, rest) ← readOptions fuel rest
      let on ← Modes.read on
      match rest with
      | ')' :: rest => readRepetition (.group on .none options) rest
      | _ => .error .unreadable
    | ')' :: rest => return (.modes (← Modes.read on), rest)
    | _ => .error .unreadable

/-- A group with an extension, whose first character has been read. -/
def readExtension :
    (fuel : Nat) → Char → List Char → Except PatternFault (Syntax × List Char)
  | 0, _, _ => .error .unreadable
  | fuel + 1, c, cs =>
    if isModeChar c || c = '-' then readModes fuel (c :: cs)
    else
      match c, cs with
      | ':', _ => readGroup fuel .none .none cs
      | 'P', '<' :: rest =>
        match rest.takeWhile isNameChar, rest.dropWhile isNameChar with
        | _ :: _, '>' :: rest => readGroup fuel .none .none rest
        | _, _ => .error .unreadable
      | 'P', '=' :: _ => .error (.unsupported .reference)
      | 'P', _ => .ok (.missing, cs)
      | '#', _ =>
        match cs.dropWhile (· != ')') with
        | _ :: rest => .ok (.missing, rest)
        | [] => .error .unreadable
      | '=', _ => readLook fuel false false cs
      | '!', _ => readLook fuel false true cs
      | '<', '=' :: rest => readLook fuel true false rest
      | '<', '!' :: rest => readLook fuel true true rest
      | '<', _ :: rest => .ok (.missing, rest)
      | '<', [] => .error .unreadable
      | '(', _ => .error (.unsupported .conditional)
      | _, _ =>
        .error (.unsupported (.extension c (String.ofList ('(' :: '?' :: c :: cs.take 5))))
end

/-! ## The modes of the whole -/

mutual
/-- The last part that sets the modes of the whole. -/
def Syntax.lastModes : Syntax → Option Modes
  | .modes on => some on
  | .sequence parts => lastModesOf parts
  | .group _ _ options => lastModesOf options
  | .repeated part _ _ => part.lastModes
  | .look _ _ part => part.lastModes
  | .missing | .chars _ | .anyChar => none

def Syntax.lastModesOf : List Syntax → Option Modes
  | [] => none
  | p :: ps => (Syntax.lastModesOf ps).or p.lastModes
end

/-- The pattern that a text spells. -/
def Syntax.read (text : String) : Except PatternFault Syntax := do
  let cs := text.toList
  match ← readOptions (5 * cs.length + 5) cs with
  | (options, []) => return .group ((Syntax.lastModesOf options).getD .none) .none options
  | _ => .error .unreadable

/-! ## Laws -/

theorem Modes.enter_none (m : Modes) : m.enter .none .none = m := by
  simp [Modes.enter, Modes.union, Modes.none]

end GuidedJson.Pattern
