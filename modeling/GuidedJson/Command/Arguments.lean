import GuidedJson.Command.Files
import GuidedJson.Command.Options
import GuidedJson.Number.Reader

/-! # Commands

The four commands with their options and arguments, read from the words of a command line. A
schema file must be there, an indentation is not negative, and numbers must be numbers.
-/

namespace GuidedJson.Command

open Number (Binary)

structure GrammarOptions where
  schema : String
  indent : Option Int
  showPattern : Bool

structure VocabularyOptions where
  model : String
  extraEos : List String
  revision : Option String

structure TraceOptions where
  schema : String
  model : String
  tokens : List String
  indent : Option Int
  engine : Option String
  extraEos : List String

structure GenerateOptions where
  prompt : String
  schema : String
  model : String
  device : Option String
  engine : Option String
  indent : Option Int
  limit : Int
  temperature : Binary
  output : Option String
  showSchema : Bool

/-- A command as it is to be run; help is no error. -/
inductive Request where
  | help
  | grammar (o : GrammarOptions)
  | vocabulary (o : VocabularyOptions)
  | trace (o : TraceOptions)
  | generate (o : GenerateOptions)

/-- The names of the commands. -/
inductive Name where
  | grammar
  | vocabulary
  | trace
  | generate
deriving DecidableEq, Repr

def Name.ofWord? : String → Option Name
  | "grammar" => some .grammar
  | "vocab" => some .vocabulary
  | "trace" => some .trace
  | "generate" => some .generate
  | _ => none

/-! ## Options -/

def helpForm : OptionForm := { long := "--help", takesValue := false }

def schemaForm : OptionForm := { long := "--schema", short := 's' }

def indentForm : OptionForm := { long := "--indent" }

def modelForm : OptionForm := { long := "--model", short := 'm' }

def engineForm : OptionForm := { long := "--engine", short := 'e' }

def extraForm : OptionForm := { long := "--extra-eos" }

/-- The options of a command. -/
def Name.forms : Name → List OptionForm
  | .grammar =>
    [helpForm, schemaForm, indentForm, { long := "--regex", takesValue := false }]
  | .vocabulary => [helpForm, modelForm, extraForm, { long := "--revision" }]
  | .trace => [helpForm, schemaForm, modelForm, indentForm, engineForm, extraForm]
  | .generate => [
    helpForm, schemaForm, modelForm, indentForm, engineForm,
    { long := "--prompt", short := 'p' },
    { long := "--device", short := 'd' },
    { long := "--max-tokens" },
    { long := "--temperature", short := 't' },
    { long := "--output", short := 'o' },
    { long := "--show-schema", takesValue := false }]

variable (w : Words)

/-- The value of an option that must be given. -/
def required (name : String) : Except UsageFault String :=
  match w.value? name with
  | some v => .ok v
  | none => .error (.missingOption name)

/-- The schema file, which must be there. -/
def schemaOption (f : Files) : Except UsageFault String := do
  let path ← required w "--schema"
  if (f.text? path).isSome then return Text.shortPath path
  else throw (.badValue "--schema" path)

def integerOption (name : String) : Except UsageFault (Option Int) :=
  match w.value? name with
  | none => .ok none
  | some v =>
    match Text.readInteger v with
    | .ok n => .ok (some n)
    | .error _ => .error (.badValue name v)

def indentOption : Except UsageFault (Option Int) := do
  match ← integerOption w "--indent" with
  | some n => if n < 0 then throw (.badValue "--indent" (toString n)) else return some n
  | none => return none

def numberOption (name : String) (default : Binary) : Except UsageFault Binary :=
  match w.value? name with
  | none => .ok default
  | some v =>
    match Number.read? v with
    | some x => .ok x
    | none => .error (.badValue name v)

/-- Only a trace has arguments. -/
def noArguments : Except UsageFault Unit :=
  if w.arguments.isEmpty then .ok () else .error (.extraArguments w.arguments)

/-! ## Requests -/

/-- The request of a command's words. -/
def Request.ofWords (f : Files) (name : Name) (words : List String) :
    Except UsageFault Request := do
  let w ← Words.read name.forms true words
  if w.has helpForm.long then return .help
  match name with
  | .grammar =>
    let schema ← schemaOption w f
    let indent ← indentOption w
    noArguments w
    return .grammar { schema, indent, showPattern := w.has "--regex" }
  | .vocabulary =>
    let model ← required w "--model"
    noArguments w
    return .vocabulary
      { model, extraEos := w.values "--extra-eos", revision := w.value? "--revision" }
  | .trace =>
    let schema ← schemaOption w f
    let model ← required w "--model"
    let indent ← indentOption w
    if w.arguments.isEmpty then throw (.missingArgument "tokens")
    return .trace
      { schema, model, tokens := w.arguments, indent, engine := w.value? "--engine"
        extraEos := w.values "--extra-eos" }
  | .generate =>
    let prompt ← required w "--prompt"
    let schema ← schemaOption w f
    let indent ← indentOption w
    let limit ← integerOption w "--max-tokens"
    let temperature ← numberOption w "--temperature" (.ofDecimal false 7 (-1))
    noArguments w
    return .generate
      { prompt, schema, model := (w.value? "--model").getD "Qwen/Qwen2.5-0.5B-Instruct"
        device := w.value? "--device", engine := w.value? "--engine", indent
        limit := limit.getD 200, temperature
        output := (w.value? "--output").map Text.shortPath, showSchema := w.has "--show-schema" }

end GuidedJson.Command
