import GuidedJson.Failure
import GuidedJson.Text.Case

/-! # Devices

A model runs on a device. A device that is asked for must be known and there; without a wish the
best one is taken.
-/

namespace GuidedJson

/-- Which accelerators are there. -/
structure Accelerators where
  cuda : Bool
  mps : Bool
deriving DecidableEq, Repr

namespace Accelerators

/-- The best device, or the processor where no accelerator is wanted. -/
def best (a : Accelerators) (accelerated : Bool) : String :=
  if !accelerated then "cpu" else if a.mps then "mps" else if a.cuda then "cuda" else "cpu"

/-- The kind of a device: what stands before a colon, in lower case. -/
def deviceKind (device : String) : String :=
  Text.lower (String.ofList (device.toList.takeWhile (· != ':')))

/-- The device that is asked for, as it was written. -/
def resolve (a : Accelerators) (device : Option String) : Except Failure String :=
  match device with
  | none => .ok (a.best true)
  | some device =>
    match deviceKind device with
    | "cpu" => .ok device
    | "cuda" => if a.cuda then .ok device else .error (.unavailable "CUDA")
    | "mps" => if a.mps then .ok device else .error (.unavailable "MPS")
    | _ => .error (.argument (.device device))

end Accelerators

end GuidedJson
