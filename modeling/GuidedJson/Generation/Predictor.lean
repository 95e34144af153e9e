import GuidedJson.Decoding.Workspace
import GuidedJson.Json.Order
import GuidedJson.Setup.Device
import GuidedJson.Vocabulary.Resolution
import GuidedJson.Vocabulary.TokenizerFile

/-! # Token predictors

A predictor is a loaded language model with its tokenizer, on a device. It is loaded with options,
and it generates with arguments; what a caller gives overrides what the predictor would choose.
-/

namespace GuidedJson.Generation

/-- A loaded tokenizer: its serialized form, its special tokens and their ids, and how it turns
text into ids and ids, with special tokens skipped or not, into text. -/
structure Tokenizer where
  serialized : String
  eos : Value
  eosId : Value
  pad : Value
  padId : Value
  encode : String → List Int
  decode : List Int → (skipSpecial : Bool) → String

structure Predictor where
  name : String
  device : String
  weightType : Value
  options : List (String × Value)
  tokenizer : Tokenizer
  lastIds : List Int := []

/-- What a caller gives for one generation. -/
structure Sampling where
  limit : Value := .int 100
  temperature : Value := .float (.exact 1)
  topP : Value := .float (.exact 1)
  stop : Value := .null
  others : List (String × Value) := []

namespace Predictor

/-! ## Loading -/

/-- The type of weights where none is given: half precision on an accelerator. -/
def defaultWeightType (device : String) : String :=
  match device.toList.takeWhile (· != ':') with
  | ['m', 'p', 's'] => "torch.float16"
  | ['c', 'u', 'd', 'a'] => "torch.float16"
  | _ => "torch.float32"

/-- A list of named values, with further ones set over them. -/
def override (base further : List (String × Value)) : List (String × Value) :=
  further.foldl (fun ms (k, v) => Value.insertMember k v ms) base

/-- Reports a failure under a heading and passes it on. -/
def reporting {α : Type} (heading : String) (x : Except Failure α) : Logged α :=
  match x with
  | .ok a => pure a
  | .error e => do
    Logged.error (heading ++ ": " ++ e.message)
    throw e

/-- Loads a predictor: the tokenizer, and with the options the model. A tokenizer without a token
for padding pads with the one that ends a text. -/
def load (accelerators : Accelerators) (name : String) (device : Option String)
    (weightType : Value) (options : List (String × Value)) (tokenizer : Except Failure Tokenizer)
    (model : Except Failure Unit) : Logged Predictor := do
  let device ← (accelerators.resolve device : Except Failure String)
  let weightType := if weightType.isNull then .string (defaultWeightType device) else weightType
  let t ← reporting "Failed to load tokenizer" tokenizer
  let t := if t.pad.isNull then { t with pad := t.eos } else t
  let options :=
    override [("torch_dtype", weightType), ("low_cpu_mem_usage", .bool true)] options
  reporting "Failed to load model" model
  return { name, device, weightType, options, tokenizer := t }

variable (p : Predictor)

/-- The vocabulary of the tokenizer, of the size that the model declares. -/
def vocabulary [Memory] (size : Value) (extraEos : List String) : Except Failure Vocabulary := do
  let d ← Vocabulary.Declaration.ofTokenizer p.tokenizer.serialized p.tokenizer.eos size
  d.vocabulary extraEos

def describe : String :=
  "TransformersBackend(model=" ++ p.name ++ ", device=" ++ p.device ++ ", dtype=" ++
    p.weightType.display ++ ")"

/-! ## Generating -/

/-- Whether tokens are sampled: only at a positive temperature. -/
def samples (temperature : Value) : Except Failure Bool :=
  (temperature.exceeds (.int 0)).mapError .mismatch

/-- What ends a generation: the items that the caller gives, or the token of the tokenizer. -/
def stopIds (stop : Value) : Except Failure Value :=
  if stop.truthy then (stop.elements.map Value.array).mapError .mismatch else .ok p.tokenizer.eosId

/-- The arguments of a generation. `processor` says whether one takes part. -/
def arguments (ids : List Int) (s : Sampling) (processor : Bool) :
    Except Failure (List (String × Value)) := do
  let stop ← p.stopIds s.stop
  let sampled ← samples s.temperature
  let base : List (String × Value) := [
    ("input_ids", .array [.array (ids.map Value.int)]),
    ("max_new_tokens", s.limit),
    ("do_sample", .bool sampled),
    ("pad_token_id", p.tokenizer.padId),
    ("eos_token_id", stop)]
  let sampling :=
    if sampled then [("temperature", s.temperature), ("top_p", s.topP)] else []
  let processors : List (String × Value) :=
    if processor then [("logits_processor", .array [.string "GrammarLogitsProcessor"])] else []
  return override (base ++ sampling ++ processors) s.others

/-- Generates: the text without the prompt. The model answers the arguments with the prompt's ids
and those it adds; a processor starts anew before it. -/
def generate (model : List (String × Value) → Except Failure (List Int)) (prompt : String)
    (s : Sampling) (processor : Option Decoding.Processor) :
    Action Predictor (String × Option Decoding.Processor) := do
  let p ← get
  let ids := p.tokenizer.encode prompt
  let arguments ← (p.arguments ids s processor.isSome : Except Failure _)
  let processor := processor.map fun q => { q with processed := none }
  let output ← (reporting "Generation failed" (model arguments) : Logged (List Int))
  let added := output.drop ids.length
  set { p with lastIds := added }
  return (p.tokenizer.decode added true, processor)

end Predictor

end GuidedJson.Generation
