import GuidedJson.Failure
import GuidedJson.Text.Case

/-! # Log levels

The threshold of the log, as a number, and how a line of it is laid out.
-/

namespace GuidedJson.LogLevel

def info : Nat := 20

def warning : Nat := 30

/-- The layout of a line. -/
def lineFormat : String := "%(asctime)s %(levelname)s %(name)s: %(message)s"

/-- The level of a name in any case. A name that is not known counts as `INFO`; the names of the
plain layout and of the table of layouts name no level, and are refused. -/
def ofName (name : String) : Except Failure Nat :=
  match Text.upper name with
  | "NOTSET" => .ok 0
  | "DEBUG" => .ok 10
  | "WARN" | "WARNING" => .ok warning
  | "ERROR" => .ok 40
  | "CRITICAL" | "FATAL" => .ok 50
  | "BASIC_FORMAT" => .error (.argument (.logLevel "%(levelname)s:%(name)s:%(message)s"))
  | "_STYLES" => .error (.mismatch .noLevel)
  | _ => .ok info

end GuidedJson.LogLevel
