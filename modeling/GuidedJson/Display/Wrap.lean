import GuidedJson.Display.Cells
import GuidedJson.Text.Blank
import GuidedJson.Text.Newline

/-! # Lines that fit

A text is shown in lines of a width. A line ends before the first word that no longer fits, and a
word that is wider than a line is folded, or cut with a mark. Blanks at the end of a line that is
too long are left out, and tabs are blanks up to the next stop.
-/

namespace GuidedJson.Display

/-! ## Controls and tabs -/

/-- Controls that a terminal would act on are left out of what is shown. -/
def isSilent (c : Char) : Bool :=
  let n := c.toNat
  n = 7 || n = 8 || n = 11 || n = 12 || n = 13

/-- A text with its tabs expanded to stops that are `step` apart; a line end starts anew. -/
def expandTabs (measure : Char → Nat) (step : Nat) : (column : Nat) → List Char → List Char
  | _, [] => []
  | column, c :: cs =>
    if c = '\t' then
      let blanks := step - column % step
      List.replicate blanks ' ' ++ expandTabs measure step (column + blanks) cs
    else if c = '\n' || c = '\r' then c :: expandTabs measure step 0 cs
    else c :: expandTabs measure step (column + measure c) cs

/-! ## Words -/

/-- Words with the blanks around them: the first has those in front, every word those behind.
Blanks alone are no word. -/
def blankedWords : (started ended : Bool) → (word : List Char) → List Char → List (List Char)
  | started, _, word, [] => if started then [word.reverse] else []
  | started, ended, word, c :: cs =>
    if Text.isBlank c then blankedWords started started (c :: word) cs
    else if ended then word.reverse :: blankedWords true false [c] cs
    else blankedWords true false (c :: word) cs

def trimEnd (cs : List Char) : List Char := (cs.reverse.dropWhile Text.isBlank).reverse

/-- The places of the pieces of a text, the first of which starts at `start`. -/
def pieceStarts (start : Nat) : List (List Char) → List Nat
  | [] => []
  | p :: ps => start :: pieceStarts (start + p.length) ps

/-- Where lines end before words, given where the words start and the cells in use. -/
def breaks (fold : Bool) (width : Nat) : (start used : Nat) → List (List Char) → List Nat
  | _, _, [] => []
  | start, used, w :: ws =>
    let visible := cellCount (trimEnd w)
    let next := start + w.length
    let here := [start].filter (0 < ·)
    if used + visible ≤ width then breaks fold width next (used + cellCount w) ws
    else if visible ≤ width then
      if used = 0 then breaks fold width next used ws
      else here ++ breaks fold width next (cellCount w) ws
    else if fold then
      let ps := pieces width 0 [] w
      (pieceStarts start ps).filter (0 < ·) ++
        breaks fold width next (cellCount (ps.getLast?.getD [])) ws
    else here ++ breaks fold width next (cellCount w) ws

/-- A text divided at places, which ascend. -/
def divide (done : Nat) : List Nat → List Char → List (List Char)
  | [], cs => [cs]
  | p :: ps, cs => cs.take (p - done) :: divide p ps (cs.drop (p - done))

/-! ## Lines -/

/-- A line that is longer than a width without the blanks at its end that are too much. -/
def trimExcess (width : Nat) (cs : List Char) : List Char :=
  let blanks := cs.length - (trimEnd cs).length
  cs.take (cs.length - min blanks (cs.length - width))

/-- A line cut to a width; where words are not folded, a mark shows that it was cut. -/
def fit (fold : Bool) (width : Nat) (cs : List Char) : List Char :=
  if cellCount cs ≤ width then cs
  else if fold then cut width cs
  else cut (width - 1) cs ++ ['…']

/-- A line divided into lines of a width. -/
def wrapLine (fold : Bool) (width : Nat) (line : List Char) : List (List Char) :=
  let line := expandTabs cellWidth 8 0 line
  (divide 0 (breaks fold width 0 0 (blankedWords false false [] line)) line).map fun cs =>
    fit fold width (trimExcess width cs)

/-- The lines of a text in a width. -/
def wrap (fold : Bool) (width : Nat) (text : String) : List String :=
  (text.splitOn "\n").flatMap fun line => (wrapLine fold width line.toList).map String.ofList

/-- The lines of a text that are cut to a width, with tab stops that are four apart. A mark of the
byte order in front is left out. -/
def codeLines (width : Nat) (text : String) : List String :=
  let cs := expandTabs (fun _ => 1) 4 0 text.toList
  let cs := if cs.head? = some (Char.ofNat 0xFEFF) then cs.tail else cs
  let shown := String.ofList ((Text.unifyLineEnds cs).filter (!isSilent ·))
  (shown.splitOn "\n").map fun line => String.ofList (fit true width (trimExcess width line.toList))

end GuidedJson.Display
