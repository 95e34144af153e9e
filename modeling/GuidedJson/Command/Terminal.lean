import GuidedJson.Action
import GuidedJson.Command.Files
import GuidedJson.Display.Table

/-! # What commands show

A command prints lines, in markup or as they are, panels and tables, and writes files. What was
printed before a failure stays printed; of what cannot be shown nothing is printed.
-/

namespace GuidedJson.Command

open Display (Table)

/-- The lines so far, and the files as they are now. -/
structure Terminal where
  lines : List String := []
  files : Files

/-- A command at work. -/
abbrev Job := Action Terminal

namespace Terminal

/-- The columns of a terminal. -/
def columns : Nat := 4000

/-- The cells of a panel's border and of the blanks beside it. -/
def panelBorder : Nat := 4

def refusal : Display.MarkupRefusal → Failure
  | .fault fault => .markup fault
  | .number fault => .argument (.integer fault)

def printLines (lines : List String) : Job Unit := modify fun t =>
  { t with lines := t.lines ++ lines }

/-- Prints a text with its pictures. -/
def print (text : String) : Job Unit :=
  printLines (Display.wrap true columns (String.ofList (Display.shown text.toList)))

/-- Prints markup. -/
def say (markup : String) : Job Unit := do
  let text ← ((Display.textOf markup).mapError refusal : Except Failure (List Char))
  printLines (Display.wrap true columns (String.ofList text))

def success (message : String) : Job Unit := say ("[green]✓[/green] " ++ message)

def failure (message : String) : Job Unit := say ("[red]✗[/red] " ++ message)

def warning (message : String) : Job Unit := say ("[yellow]⚠[/yellow] " ++ message)

def note (message : String) : Job Unit := say ("[blue]ℹ[/blue] " ++ message)

def heading (title : String) : Job Unit := do
  say ("[bold cyan]" ++ title ++ "[/bold cyan]")
  print (String.ofList (title.toList.map fun _ => '='))

/-- Prints a text under a title. -/
def panel (title text : String) : Job Unit := do
  print title
  printLines (Display.codeLines (columns - panelBorder) text)

/-- Prints a table. -/
def table (t : Table) : Job Unit := do
  printLines (← ((t.lines columns).mapError refusal : Except Failure (List String)))

/-- Writes a file. -/
def write (path text : String) : Job Unit := do
  let files ← ((← get).files.write path text : Except Failure Files)
  modify fun t => { t with files }

end Terminal

end GuidedJson.Command
