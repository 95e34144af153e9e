import GuidedJson.Text.Case
import GuidedJson.Text.Integer

/-! # Settings

What the environment sets: the log level, the engine, the size of the shared cache, extra tokens
that end a generation, and the device. Everything has a default.
-/

namespace GuidedJson

structure Settings where
  logLevel : String := "INFO"
  engine : String := "fsm"
  cacheSize : Int := 32
  extraEos : List String := []
  device : Option String := none
deriving DecidableEq, Repr

namespace Settings

/-- The parts between commas that are not blank, without the blanks around them. -/
def commaList (s : String) : List String :=
  ((s.splitOn ",").map Text.trim).filter (· ≠ "")

/-- The settings of an environment; a size that is no integer is the default. -/
def ofEnvironment (lookup : String → Option String) : Settings where
  logLevel := (lookup "GRAMMAR_MASK_LOG_LEVEL").getD "INFO"
  engine := Text.lower (Text.trim ((lookup "GRAMMAR_MASK_ENGINE").getD "fsm"))
  cacheSize :=
    match lookup "GRAMMAR_MASK_CACHE_SIZE" with
    | some s => (Text.readInteger s).toOption.getD 32
    | none => 32
  extraEos := commaList ((lookup "GRAMMAR_MASK_EXTRA_EOS").getD "")
  device :=
    match lookup "GRAMMAR_MASK_DEVICE" with
    | some s => if s.isEmpty then none else some s
    | none => none

end Settings

end GuidedJson
