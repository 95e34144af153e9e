import GuidedJson.Command.Run

/-! # The command line program

The files that a command line names are read before it is run; what it prints and writes is done
afterwards. No model is at hand here, so nothing can be generated.
-/

namespace GuidedJson.Program

open Command (Files Surroundings)

/-- The file of a path, if it can be read. -/
def readFile? (path : String) : IO (Option (List String × String)) := do
  try return some (Text.pathPlace path, ← IO.FS.readFile path)
  catch _ => return none

/-- The place of a path that is a directory: only such a path has a further name behind it. -/
def directory? (path : String) : IO (Option (List String)) := do
  try
    let _ ← IO.FS.realPath (path ++ "/.")
    return some (Text.pathPlace path)
  catch _ => return none

/-- The paths that a word can lead to: its own, and those of a model's files in it. -/
def candidates (word : String) : List String :=
  let value := match (word.splitOn "=").getLast? with
    | some v => v
    | none => word
  [word, value].flatMap fun w =>
    [w, w ++ "/tokenizer.json", w ++ "/tokenizer_config.json", w ++ "/config.json"]

/-- The directory that a path lies in. -/
def parent (path : String) : String :=
  let names := path.splitOn "/"
  if names.length < 2 then "." else "/".intercalate names.dropLast ++ "/"

/-- The files and directories that words can lead to. -/
def survey (words : List String) : IO Files := do
  let texts ← (words.flatMap candidates).filterMapM readFile?
  let directories ← (words ++ words.map parent).filterMapM directory?
  return { texts, directories }

def settingNames : List String := [
  "GRAMMAR_MASK_LOG_LEVEL", "GRAMMAR_MASK_ENGINE", "GRAMMAR_MASK_CACHE_SIZE",
  "GRAMMAR_MASK_EXTRA_EOS", "GRAMMAR_MASK_DEVICE"]

/-- The settings of the environment. -/
def settings : IO Settings := do
  let found ← settingNames.filterMapM fun name => do return (← IO.getEnv name).map (name, ·)
  return .ofEnvironment fun name => found.lookup name

/-- The room that is taken to be here. -/
@[reducible]
def memory : Memory := ⟨Nat.pow 2 33⟩

attribute [local instance] memory

/-- Runs a command line: the exit code. -/
def run (words : List String) : IO UInt32 := do
  let surroundings : Surroundings := {
    settings := ← settings
    openModel := fun name _ => .error (.runtime ("No model can be loaded here: " ++ name)) }
  let files ← survey words
  let ending := Command.run surroundings files words
  for line in ending.lines do IO.println line
  for (place, text) in ending.files.texts do
    if !(files.texts.contains (place, text)) then
      IO.FS.writeFile ("/".intercalate place) text
  match ending.usage with
  | some fault => IO.eprintln fault.message
  | none => pure ()
  match ending.escaped with
  | some failure => IO.eprintln failure.message
  | none => pure ()
  return ending.code.toUInt32

end GuidedJson.Program

def main (words : List String) : IO UInt32 := GuidedJson.Program.run words
