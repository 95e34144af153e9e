import GuidedJson.Display.Fault
import GuidedJson.Display.Parameters.Expression
import GuidedJson.Display.Pictures
import GuidedJson.Display.Style
import GuidedJson.Display.Wrap

/-! # Markup

Markup is text with tags in brackets that say how a part of it looks, and a closing tag ends one.
A tag starts with a small letter or one of three marks; a backslash in front makes it text. The
names of tags are styles, and a closing tag ends the last open tag of the same style.
-/

namespace GuidedJson.Display

/-! ## Tags in a text -/

def isTagStart (c : Char) : Bool :=
  ('a' ≤ c && c ≤ 'z') || c = '#' || c = '/' || c = '@'

/-- The inside of a tag up to its bracket, and what follows; none if a bracket opens before. -/
def tagEnd? : List Char → Option (List Char × List Char)
  | [] => none
  | c :: rest =>
    if c = ']' then some ([], rest)
    else if c = '[' then none
    else (tagEnd? rest).map fun (inside, after) => (c :: inside, after)

/-- The inside of the tag behind an opening bracket, and what follows. -/
def tag? : List Char → Option (List Char × List Char)
  | c :: rest =>
    if isTagStart c then (tagEnd? rest).map fun (inside, after) => (c :: inside, after) else none
  | [] => none

theorem length_lt_of_tagEnd? {cs inside after : List Char} (h : tagEnd? cs = some (inside, after)) :
    after.length < cs.length := by
  induction cs generalizing inside with
  | nil => simp [tagEnd?] at h
  | cons c rest ih =>
    simp only [tagEnd?] at h
    split at h
    · simp only [Option.some.injEq, Prod.mk.injEq] at h
      simp [← h.2]
    · split at h
      · simp at h
      · obtain ⟨⟨i, a⟩, ha, he⟩ := Option.map_eq_some_iff.1 h
        simp only [Prod.mk.injEq] at he
        have := ih (he.2 ▸ ha)
        simp only [List.length_cons]
        omega

theorem length_lt_of_tag? {cs inside after : List Char} (h : tag? cs = some (inside, after)) :
    after.length < cs.length := by
  cases cs with
  | nil => simp [tag?] at h
  | cons c rest =>
    simp only [tag?] at h
    split at h
    · obtain ⟨⟨i, a⟩, ha, he⟩ := Option.map_eq_some_iff.1 h
      simp only [Prod.mk.injEq] at he
      have := length_lt_of_tagEnd? (he.2 ▸ ha)
      simp only [List.length_cons]
      omega
    · simp at h

/-- The tag that is written in brackets. -/
def Tag.ofInside (inside : List Char) : Tag where
  name := String.ofList (inside.takeWhile (· != '='))
  parameters := match inside.dropWhile (· != '=') with
    | _ :: p => some (String.ofList p)
    | [] => none

/-- A piece of markup: text, or a tag and its position. -/
inductive Piece where
  | plain (cs : List Char)
  | tag (tag : Tag) (position : Nat)
deriving DecidableEq, Repr

/-- A piece of text in front of others, if it has any characters. -/
def plainBefore (cs : List Char) (ps : List Piece) : List Piece :=
  if cs.isEmpty then ps else .plain cs :: ps

/-- Backslashes behind a text, which is given from its end. -/
def afterSlashes (slashes : Nat) (text : List Char) : List Char :=
  List.replicate slashes '\\' ++ text

/-- The pieces of what follows a text, which is given from its end, and a number of backslashes. Of
the backslashes in front of a tag every second one counts, and one that is left makes it text. -/
def piecesFrom (cs text : List Char) (slashes position : Nat) : List Piece :=
  match cs with
  | [] => plainBefore (afterSlashes slashes text).reverse []
  | c :: rest =>
    if c = '\\' then piecesFrom rest text (slashes + 1) (position + 1)
    else if c = '[' then
      match ht : tag? rest with
      | some (inside, after) =>
        have := length_lt_of_tag? ht
        let next := piecesFrom after [] 0 (position + inside.length + 2)
        plainBefore text.reverse (plainBefore (List.replicate (slashes / 2) '\\')
          ((if slashes % 2 = 1 then .plain ('[' :: inside ++ [']'])
            else .tag (Tag.ofInside inside) position) :: next))
      | none => piecesFrom rest ('[' :: afterSlashes slashes text) 0 (position + 1)
    else piecesFrom rest (c :: afterSlashes slashes text) 0 (position + 1)
termination_by cs.length
decreasing_by
  all_goals subst_vars; simp_wf
  all_goals omega

/-- The pieces of markup. -/
def markupPieces (s : String) : List Piece := piecesFrom s.toList [] 0 0

/-! ## Text with styles -/

/-- A part of a text and the definition of its style. -/
structure Span where
  start : Nat
  stop : Nat
  definition : String
deriving DecidableEq, Repr

/-- Text with styles. -/
structure Styled where
  text : List Char
  spans : List Span := []
deriving DecidableEq, Repr

/-- Why markup cannot be shown: it is none, or a part of a color is no number. -/
inductive MarkupRefusal where
  | fault (fault : MarkupFault)
  | number (fault : Value.IntegerFault)

/-- A text as it is shown: with its pictures, and without controls. -/
def shown (cs : List Char) : List Char := (withPictures cs).filter (!isSilent ·)

/-- A backslash in front of an opening bracket is left out. -/
def unescaped : List Char → List Char
  | '\\' :: '[' :: cs => '[' :: unescaped cs
  | c :: cs => c :: unescaped cs
  | [] => []

/-- The text so far from its end, the open tags with their places, the last one first, and the spans
of those that are closed. -/
structure Marking where
  text : List Char := []
  opened : List (Nat × Tag) := []
  spans : List Span := []

/-- The normal form of a tag's name. -/
def normalName (name : String) : Except MarkupRefusal String :=
  match Style.normalForm name with
  | .ok s => .ok s
  | .error (.number fault) => .error (.number fault)
  | .error .form => .ok name

/-- The part of parameters that is a value: an action may be named in front of it. -/
def valueOfParameters (cs : List Char) : List Char :=
  match cs.dropWhile fun c => c = '.' || Parameters.isNamePart c with
  | [] => ['(', ')']
  | c :: rest =>
    if c = '(' && rest.getLast? = some ')' && !rest.contains '\n' then c :: rest else cs

/-- Checks the parameters of an action. -/
def checkAction (parameters : String) : Except MarkupRefusal Unit :=
  if parameters.isEmpty then .ok ()
  else
    let read := valueOfParameters (Text.trimList parameters.toList)
    match Parameters.check read with
    | .ok () => .ok ()
    | .error fault => .error (.fault (.parameters (String.ofList read) parameters fault))

/-- The open tags without the last one of a name, and that one; none if there is no such tag. -/
def closed? (name : String) : List (Nat × Tag) → Option ((Nat × Tag) × List (Nat × Tag))
  | [] => none
  | top :: rest =>
    if top.2.name = name then some (top, rest)
    else (closed? name rest).map fun (found, others) => (found, top :: others)

namespace Marking

/-- Closes a tag that was open from a place on; an action has no style. -/
def close (m : Marking) (start : Nat) (tag : Tag) (opened : List (Nat × Tag)) :
    Except MarkupRefusal Marking :=
  if tag.name.toList.head? = some '@' then do
    checkAction (tag.parameters.getD "")
    return { m with opened }
  else .ok { m with opened, spans := ⟨start, m.text.length, tag.definition⟩ :: m.spans }

/-- Adds a piece. -/
def add (m : Marking) : Piece → Except MarkupRefusal Marking
  | .plain cs => .ok { m with text := (shown (unescaped cs)).reverse ++ m.text }
  | .tag tag position =>
    match tag.name.toList with
    | '/' :: name =>
      let name := Text.trimList name
      if name.isEmpty then
        match m.opened with
        | (start, top) :: opened => m.close start top opened
        | [] => .error (.fault (.nothing position))
      else do
        match closed? (← normalName (String.ofList name)) m.opened with
        | some ((start, top), opened) => m.close start top opened
        | none => throw (.fault (.unmatched tag position))
    | _ => do
      let name ← normalName tag.name
      return { m with opened := (m.text.length, { tag with name }) :: m.opened }

/-- The text with its styles; tags that are still open reach to its end. -/
def styled (m : Marking) : Styled where
  text := m.text.reverse
  spans := (m.opened.reverse.map fun (start, tag) => ⟨start, m.text.length, tag.definition⟩) ++
    m.spans

end Marking

/-- The text of markup with its styles. A text without brackets is none. -/
def styledOf (markup : String) : Except MarkupRefusal Styled :=
  if markup.toList.contains '[' then do
    return (← (markupPieces markup).foldlM Marking.add {}).styled
  else .ok { text := shown markup.toList }

end GuidedJson.Display
