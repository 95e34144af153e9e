import GuidedJson.Text.Quoted

/-! # Faults of markup

A closing tag must have a tag to close, and the parameters of an action must be a literal value.
-/

namespace GuidedJson.Display

/-! ## Tags -/

/-- A tag: its name, and what stands behind an equals sign. -/
structure Tag where
  name : String
  parameters : Option String := none
deriving DecidableEq, Repr

namespace Tag

/-- A tag as it is written. -/
def source (t : Tag) : String :=
  "[" ++ t.name ++ (match t.parameters with
    | some p => "=" ++ p
    | none => "") ++ "]"

/-- The definition of the style that a tag asks for. -/
def definition (t : Tag) : String :=
  match t.parameters with
  | some p => t.name ++ " " ++ p
  | none => t.name

end Tag

/-! ## Faults -/

/-- Why parameters are no value: they cannot be read, or what is read is not a value. -/
inductive ParameterFault where
  | form (message : String)
  | value (message : String)
deriving DecidableEq, Repr

/-- Why a text is no markup. -/
inductive MarkupFault where
  /-- A closing tag that names no open one. -/
  | unmatched (tag : Tag) (position : Nat)
  /-- A closing tag where no tag is open. -/
  | nothing (position : Nat)
  /-- Parameters of an action, as they are read and as they are written. -/
  | parameters (read written : String) (fault : ParameterFault)
deriving DecidableEq, Repr

def MarkupFault.message : MarkupFault → String
  | .unmatched tag position =>
    "closing tag '" ++ tag.source ++ "' at position " ++ toString position ++
      " doesn't match any open tag"
  | .nothing position =>
    "closing tag '[/]' at position " ++ toString position ++ " has nothing to close"
  | .parameters read written (.form message) =>
    "error parsing " ++ Text.quoted read ++ " in " ++ Text.quoted written ++ "; " ++ message
  | .parameters _ written (.value message) =>
    "error parsing " ++ Text.quoted written ++ "; " ++ message

end GuidedJson.Display
