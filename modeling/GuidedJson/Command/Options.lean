/-! # Options and arguments

A command line is a list of words. A word that starts with a hyphen and has more than that is an
option: a long one by its whole name, its value behind an equals sign or in the next word, or
several short ones by a letter each, the last with its value behind it or in the next word. Behind
two hyphens every word is an argument.
-/

namespace GuidedJson.Command

/-- Why a command line is refused. -/
inductive UsageFault where
  | unknownCommand (name : String)
  | unknownOption (name : String)
  | missingValue (option : String)
  | needlessValue (option : String)
  | missingOption (option : String)
  | missingArgument (name : String)
  | extraArguments (words : List String)
  | badValue (option value : String)
deriving DecidableEq, Repr

def UsageFault.message : UsageFault → String
  | .unknownCommand name => "No such command: " ++ name
  | .unknownOption name => "No such option: " ++ name
  | .missingValue option => "Option needs a value: " ++ option
  | .needlessValue option => "Option takes no value: " ++ option
  | .missingOption option => "Missing option: " ++ option
  | .missingArgument name => "Missing argument: " ++ name
  | .extraArguments words => "Unexpected arguments: " ++ " ".intercalate words
  | .badValue option value => "Invalid value for " ++ option ++ ": " ++ value

/-- An option of a command. -/
structure OptionForm where
  long : String
  short : Option Char := none
  takesValue : Bool := true
deriving DecidableEq, Repr

/-- The options of a command line in order, those without a value with an empty one, and its
arguments. -/
structure Words where
  options : List (String × String) := []
  arguments : List String := []
deriving DecidableEq, Repr

/-- What one word says: options that are complete, and one that waits for the next word. -/
structure Settled where
  options : List (String × String) := []
  waiting : Option String := none
deriving DecidableEq, Repr

/-! ## One word -/

/-- Short options, a letter each. -/
def readShort (forms : List OptionForm) : List Char → Except UsageFault Settled
  | [] => .ok {}
  | c :: rest =>
    match forms.find? (·.short = some c) with
    | none => .error (.unknownOption (String.ofList ['-', c]))
    | some form =>
      if form.takesValue then
        if rest.isEmpty then .ok { waiting := some form.long }
        else .ok { options := [(form.long, String.ofList rest)] }
      else do
        let settled ← readShort forms rest
        return { settled with options := (form.long, "") :: settled.options }

/-- A word up to its first equals sign, and the value behind it. -/
def splitValue (word : List Char) : List Char × Option (List Char) :=
  match word.dropWhile (· != '=') with
  | _ :: value => (word.takeWhile (· != '='), some value)
  | [] => (word, none)

/-- A word that is an option. -/
def readOption (forms : List OptionForm) (word : String) : Except UsageFault Settled :=
  let (name, value) := splitValue word.toList
  match forms.find? (·.long.toList = name) with
  | some form =>
    if form.takesValue then
      match value with
      | some v => .ok { options := [(form.long, String.ofList v)] }
      | none => .ok { waiting := some form.long }
    else
      match value with
      | some _ => .error (.needlessValue form.long)
      | none => .ok { options := [(form.long, "")] }
  | none =>
    match word.toList with
    | '-' :: '-' :: _ => .error (.unknownOption word)
    | _ :: letters => readShort forms letters
    | [] => .error (.unknownOption word)

def isOption (word : String) : Bool :=
  match word.toList with
  | '-' :: _ :: _ => true
  | _ => false

/-! ## All words -/

namespace Words

/-- Options in front of those of further words. -/
def before (options : List (String × String)) (w : Words) : Words :=
  { w with options := options ++ w.options }

/-- Reads a command line. Where arguments are not mixed with options, the first argument ends the
options. -/
def read (forms : List OptionForm) (mixed : Bool) : List String → Except UsageFault Words
  | [] => .ok {}
  | word :: rest =>
    if word = "--" then .ok { arguments := rest }
    else if isOption word then
      match readOption forms word with
      | .error fault => .error fault
      | .ok ⟨options, none⟩ => (read forms mixed rest).map (before options)
      | .ok ⟨options, some name⟩ =>
        match rest with
        | [] => .error (.missingValue name)
        | value :: rest => (read forms mixed rest).map (before (options ++ [(name, value)]))
    else if mixed then
      (read forms mixed rest).map fun w => { w with arguments := word :: w.arguments }
    else .ok { arguments := word :: rest }

variable (w : Words)

def has (name : String) : Bool := w.options.any (·.1 = name)

/-- All values of an option in order. -/
def values (name : String) : List String :=
  w.options.filterMap fun (n, v) => if n = name then some v else none

/-- The value of an option; the last one counts. -/
def value? (name : String) : Option String := (w.values name).getLast?

end Words

end GuidedJson.Command
