import GuidedJson.Display.Markup

/-! # Tables

A table has a title, columns with a header and a width, and rows of cells; all texts are markup. A
column without a width of its own is as wide as its widest cell, as far as there is room, and a cell
that is wider than its column is wrapped and cut.
-/

namespace GuidedJson.Display

/-! ## Styles that cannot be shown -/

/-- Spans in the order in which they start. -/
def Styled.ordered (s : Styled) : List Span := s.spans.mergeSort fun a b => a.start ≤ b.start

/-- Whether a span is left when a text is divided into lines: it covers a character of one. -/
def Styled.covers (s : Styled) (span : Span) : Bool :=
  !(s.text.contains '\n' || s.text.contains '\t') ||
    ((s.text.drop span.start).take (span.stop - span.start)).any (· != '\n')

/-- Checks the styles of a text, whose definitions are read when it is shown. -/
def Styled.check (s : Styled) : Except MarkupRefusal Unit :=
  s.ordered.forM fun span =>
    match Style.parse span.definition with
    | .error (.number fault) => if s.covers span then .error (.number fault) else .ok ()
    | _ => .ok ()

/-- The text of markup that is shown. -/
def textOf (markup : String) : Except MarkupRefusal (List Char) := do
  let s ← styledOf markup
  s.check
  return s.text

/-! ## Widths -/

/-- A column: its header, and its width if that is given. -/
structure Column where
  header : String
  width : Option Nat := none

structure Table where
  title : String
  columns : List Column
  rows : List (List String)

namespace Table

variable (t : Table)

/-- The blanks at the sides of a cell. -/
def padding : Nat := 2

/-- The cells of a column with its header. -/
def columnCells (i : Nat) (c : Column) : List String := c.header :: t.rows.map (·.getD i "")

/-- The cells of the widest line of a text. -/
def widestLine (cs : List Char) : Nat := (Text.lines cs).foldl (fun n l => max n (cellCount l)) 0

/-- The width that a column would have in so much room. -/
def naturalWidth (room i : Nat) (c : Column) : Except MarkupRefusal Nat :=
  match c.width with
  | some w => .ok (min room (w + padding))
  | none => do
    let texts ← (t.columnCells i c).mapM styledOf
    return min room ((texts.foldl (fun n s => max n (widestLine s.text)) 0) + padding)

/-- Takes an excess from the widest of the columns whose width is not given. -/
def shrink (excess : Nat) (ws : List (Nat × Column)) : List Nat :=
  let widest := (ws.filter (·.2.width.isNone)).foldl (fun n w => max n w.1) 0
  ws.map fun (w, c) => if c.width.isNone && w = widest then w - excess else w

/-- The widths of the columns in a terminal. Borders take a cell each. -/
def widths (columns : Nat) : Except MarkupRefusal (List Nat) := do
  let room := columns - (t.columns.length + 1)
  let ws ← t.columns.zipIdx.mapM fun (c, i) => t.naturalWidth room i c
  return shrink (ws.foldl (· + ·) 0 - room) (ws.zip t.columns)

/-! ## Lines -/

/-- The lines of cells side by side. -/
def besides (cells : List (Nat × List String)) : List String :=
  let height := cells.foldl (fun n c => max n c.2.length) 0
  (List.range height).map fun i => " ".intercalate (cells.map fun (width, lines) =>
    let line := lines.getD i ""
    line ++ String.ofList (List.replicate (width - cellCount line.toList) ' '))

/-- The lines of a row. -/
def rowLines (ws : List Nat) (cells : List String) : Except MarkupRefusal (List String) := do
  let columns ← (ws.zip cells).mapM fun (w, cell) => do
    let text ← textOf cell
    return (w - padding, wrap false (w - padding) (String.ofList text))
  return besides columns

/-- The lines of a table in a terminal of so many columns. -/
def lines (columns : Nat) : Except MarkupRefusal (List String) := do
  let ws ← t.widths columns
  let title ← textOf t.title
  let rows ← ((t.columns.map (·.header)) :: t.rows).mapM (rowLines ws)
  return wrap true (ws.foldl (· + ·) 0 + ws.length + 1) (String.ofList title) ++ rows.flatten

end Table

end GuidedJson.Display
