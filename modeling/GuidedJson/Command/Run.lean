import GuidedJson.Command.Jobs
import GuidedJson.Setup.LogLevel

/-! # Running a command line

A command line has options of its own in front of the name of a command. A command line that
cannot be read ends with code 2 before anything is done; a command that fails says so and ends
with code 1.
-/

namespace GuidedJson.Command

/-- What is left behind: the exit code, the lines that were printed, and the files. A command line
that cannot be read has a fault; a failure that was not reported has escaped. -/
structure Ending where
  code : Nat
  lines : List String
  files : Files
  usage : Option UsageFault := none
  escaped : Option Failure := none

def versionLine : String := "grammar-mask version 0.1.0"

def helpLines : List String := [
  "grammar-mask - Grammar-constrained decoding for LLMs",
  "Commands: grammar, vocab, trace, generate"]

/-- The options in front of a command. -/
def commonForms : List OptionForm :=
  [helpForm, { long := "--version", short := 'v', takesValue := false }, { long := "--log-level" }]

/-- A failure that names a wrong value, and not a fault of the program. -/
def isValueFault : Failure → Bool
  | .setup _ | .argument _ | .json _ => true
  | _ => false

/-- A job whose failures of a kind are reported: its exit code. Other failures escape. -/
def reporting (reported : Failure → Bool) (job : Job Unit) : Job Nat :=
  try
    job
    return 0
  catch e =>
    if reported e then
      Terminal.failure ("Command failed: " ++ e.message)
      return 1
    else throw e

/-- The job of a request. -/
def Request.job [Memory] (s : Surroundings) : Request → Job Nat
  | .help => do
    for line in helpLines do Terminal.print line
    return 0
  | .grammar o => reporting isValueFault (showGrammar o)
  | .vocabulary o => reporting (fun _ => true) (showVocabulary o)
  | .trace o => reporting (fun _ => true) (showTrace s o)
  | .generate o => reporting (fun _ => true) (showGeneration s o)

/-- Runs a job; one that fails ends with code 1. -/
def perform (files : Files) (job : Job Nat) : Ending :=
  let (answer, t) := job.run { files }
  match answer.result with
  | .ok code => { code, lines := t.lines, files := t.files }
  | .error e => { code := 1, lines := t.lines, files := t.files, escaped := some e }

/-- The log level of a command line: that of its option, unless it is empty, or of the settings. -/
def logLevel (settings : Settings) (w : Words) : Except Failure Nat :=
  let given := (w.value? "--log-level").getD ""
  LogLevel.ofName (if given.isEmpty then settings.logLevel else given)

/-- What a command line does before its command: it shows the version, or sets the log up. -/
def prepared (settings : Settings) (w : Words) (job : Job Nat) : Job Nat := do
  if w.has "--version" then
    Terminal.print versionLine
    return 0
  let _ ← (logLevel settings w : Except Failure Nat)
  job

/-- Runs a command line. -/
def run [Memory] (s : Surroundings) (files : Files) (words : List String) : Ending :=
  match Words.read commonForms false words with
  | .error fault => { code := 2, lines := [], files, usage := some fault }
  | .ok w =>
    if w.has helpForm.long then perform files (Request.job s .help)
    else
      match w.arguments with
      | [] => perform files (prepared s.settings w (Request.job s .help))
      | word :: rest =>
        match Name.ofWord? word with
        | none =>
            { code := 2, lines := [], files, usage := some (.unknownCommand word) }
        | some name =>
          if w.has "--version" then perform files (prepared s.settings w (pure 0))
          else
            match Request.ofWords files name rest with
            | .ok request => perform files (prepared s.settings w (request.job s))
            | .error fault =>
              match logLevel s.settings w with
              | .ok _ => { code := 2, lines := [], files, usage := some fault }
              | .error e => { code := 1, lines := [], files, escaped := some e }

end GuidedJson.Command
