import GuidedJson.Command.Arguments
import GuidedJson.Command.Terminal
import GuidedJson.Decoding.Trace
import GuidedJson.Generation.Generator
import GuidedJson.Schema.File
import GuidedJson.Schema.Nesting
import GuidedJson.Setup.Opening

/-! # What the commands do

One command shows the canonical text of a schema, one sums up a vocabulary, one traces tokens
through a grammar, and one has a model generate under a grammar.
-/

namespace GuidedJson.Command

open Decoding (TraceRow)
open Generation (Generator)
open Vocabulary (Declaration ModelPlace)

/-- A model as it is opened: its vocabulary, given further tokens that end a text, and how it
generates with it. -/
structure OpenedModel where
  vocabulary : List String → Except Failure Vocabulary
  model : Vocabulary → Generation.Model

/-- What commands find outside: settings, and models by name and device. -/
structure Surroundings where
  settings : Settings
  openModel : (name : String) → (device : Option String) → Except Failure OpenedModel

/-! ## Files -/

/-- The document of a schema file. -/
def readSchema (path : String) : Job Value := do
  let files := (← get).files
  (Schema.documentOfFile path (files.text? path) : Except Failure Value)

/-- Where the files of a model are: in a directory, if there is one of its name. -/
def modelPlace (files : Files) (model : String) : Except Failure ModelPlace := do
  if ← files.isDirectory (Text.shortPath model) then return .directory model
  else return .repository

/-- The declaration of a model's files. -/
def readDeclaration (model : String) : Job Declaration := do
  let files := (← get).files
  let place ← (modelPlace files model : Except Failure ModelPlace)
  (Declaration.ofFiles place (files.textIn? model) : Except Failure _)

/-! ## Schemas -/

/-- Shows the canonical text of a schema, and its pattern if that is wanted. -/
def showGrammar (o : GrammarOptions) : Job Unit := do
  let document ← readSchema o.schema
  (Schema.checkSteps document : Except Failure Unit)
  let input := Schema.Input.document document
  let text ← (input.canonicalText : Logged String)
  Terminal.panel "Canonical Schema" text
  if o.showPattern then
    let node ← (input.node? : Logged Schema.Node)
    let pattern ← (node.pattern o.indent : Except Failure String)
    Terminal.say "[bold cyan]FSM Regex:[/bold cyan]"
    Terminal.print pattern

/-! ## Vocabularies -/

/-- The stop tokens of a vocabulary with their ids. -/
def stopTokens (v : Vocabulary) : String :=
  if v.stop.isEmpty then "none"
  else ", ".intercalate (v.stop.map fun i =>
    toString i ++ " " ++ Text.quoted (v.tokens.getD i ""))

/-- Sums a vocabulary up. -/
def showVocabulary [Memory] (o : VocabularyOptions) : Job Unit := do
  let fetched ← try Except.ok <$> readDeclaration o.model catch e => pure (.error e)
  Terminal.print "Fetching tokenizer metadata..."
  let declaration ← fetched
  let v ← (declaration.vocabulary o.extraEos : Except Failure Vocabulary)
  let fingerprint ← (v.fingerprint? : Except Failure String)
  Terminal.table {
    title := "Vocabulary: " ++ o.model
    columns := [⟨"Property", some 20⟩, ⟨"Value", none⟩]
    rows := [
      ["Tokens", toString v.size],
      ["Encoding", v.encoding.name],
      ["Bitmask Words", toString v.words],
      ["Stop Tokens", stopTokens v],
      ["Special Tokens", toString v.special.length],
      ["Fingerprint", String.ofList (fingerprint.toList.take 16)]] }
  if v.stop.isEmpty then
    Terminal.warning "No stop token resolved; the grammar will never permit ending generation"

/-! ## Traces -/

def mark (b : Bool) : String := if b then "[green]✓[/green]" else "[red]✗[/red]"

/-- The cells of a trace's row. -/
def traceCells (number : Nat) (row : TraceRow) : List String := [
  toString number,
  Text.quoted row.token,
  match row.id with
  | some id => toString id
  | none => "-",
  toString row.allowed,
  mark row.permitted,
  mark row.accepted,
  if row.canTerminate then mark true else "[dim]-[/dim]"]

def warnMissing (row : TraceRow) : Job Unit :=
  if row.id.isNone then
    Terminal.warning ("Token " ++ Text.quoted row.token ++ " is not in the vocabulary, skipping")
  else pure ()

/-- Traces tokens through the grammar of a schema. -/
def showTrace [Memory] (s : Surroundings) (o : TraceOptions) : Job Unit := do
  let document ← readSchema o.schema
  let files := (← get).files
  let place ← (modelPlace files o.model : Except Failure ModelPlace)
  let request : GrammarRequest := {
    vocabulary := .files place (files.textIn? o.model) (some o.extraEos)
    input := .document document, indent := o.indent, engine := .named o.engine }
  (Schema.checkSteps document : Except Failure Unit)
  let grammar ← (request.compile s.settings : Logged Grammar)
  let rows ← (Decoding.trace grammar o.tokens : Logged (List TraceRow))
  for row in rows do warnMissing row
  Terminal.table {
    title := "Matcher Trace"
    columns := ⟨"#", some 4⟩ ::
      ["Token", "Id", "Allowed", "In Mask", "Accepted", "Can Stop"].map fun name => ⟨name, none⟩
    rows := rows.zipIdx.map fun (row, i) => traceCells (i + 1) row }
  if Decoding.isComplete rows then Terminal.success "Sequence is a complete match"
  else Terminal.note "Sequence is not a complete match"

/-! ## Generation -/

/-- A document as a panel shows it: a text as it is, anything else indented. -/
def panelText : Value → Except Failure String
  | .string s => .ok s
  | v => Failure.written (v.write? (some 2))

/-- Shows an output as a document, or as it is if it is none. -/
def showOutput (output : String) : Job Unit :=
  match Json.readWithin Json.nestingLimit .json output with
  | .ok v => do Terminal.panel "Output" (← (panelText v : Except Failure String))
  | .error (.json _) => do
    Terminal.warning "Output is not complete JSON"
    Terminal.print output
  | .error e => throw e

/-- Opens the generator of a command's model. -/
def openGenerator (s : Surroundings) (o : GenerateOptions) :
    Except Failure (Generator × Generation.Model) := do
  let opened ← s.openModel o.model o.device
  let g ← Generator.ofModel s.settings o.model o.device (.named o.engine) none opened.vocabulary
  return (g, opened.model g.vocabulary)

/-- Has a model generate under the grammar of a schema. -/
def showGeneration (s : Surroundings) (o : GenerateOptions) : Job Unit := do
  Terminal.heading "grammar-mask - Constrained Generation"
  let document ← readSchema o.schema
  Terminal.success ("Loaded schema from: " ++ o.schema)
  if o.showSchema then
    Terminal.panel "Schema" (← (panelText document : Except Failure String))
  Terminal.note ("Prompt: [bold]" ++ o.prompt ++ "[/bold]")
  Terminal.note ("Model: [bold]" ++ o.model ++ "[/bold]")
  let device := match o.device with
    | some d => if d.isEmpty then "auto" else d
    | none => "auto"
  Terminal.note ("Device: [bold]" ++ device ++ "[/bold]")
  Terminal.note ("Max Tokens: [bold]" ++ toString o.limit ++ "[/bold]")
  Terminal.print "Loading model..."
  let (g, model) ← (openGenerator s o : Except Failure _)
  Terminal.print "Generating..."
  (Schema.checkSteps document : Except Failure Unit)
  let task := g.task o.prompt o.limit o.temperature []
  let shared : Cache Grammar := .empty s.settings.cacheSize (.bool true)
  let outcome ← ((g.generate model (.document document) o.indent task).run shared).1
  showOutput outcome.output
  let rejected :=
    if outcome.rejected = 0 then [] else [["Rejected Tokens", toString outcome.rejected]]
  Terminal.table {
    title := "Generation Statistics"
    columns := [⟨"Metric", some 20⟩, ⟨"Value", some 30⟩]
    rows := [
      ["Status", if outcome.complete then "✓ Complete" else "✗ Incomplete"],
      ["Tokens Generated", toString outcome.tokens]] ++ rejected }
  match o.output with
  | some path => do
    Terminal.write path outcome.output
    Terminal.success ("Output saved to: " ++ path)
  | none => pure ()
  if !outcome.complete then
    Terminal.failure "Generation stopped before the grammar was complete"

end GuidedJson.Command
