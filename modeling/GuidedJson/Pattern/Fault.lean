import GuidedJson.Text.Integer
import GuidedJson.Text.Quoted

/-! # Pattern faults

Why a text is no pattern, or a pattern has no automaton. A fault that is only found while the text
is read has no wording of its own; parts of the wider pattern language that automata cannot express
are named.
-/

namespace GuidedJson

/-- Parts of patterns that are understood but not supported. -/
inductive UnsupportedPart where
  | anchor (c : Char)
  | properties
  | reference
  | escape (c : Char)
  | conditional
  | extension (c : Char) (context : String)
  | mode (c : Char)
  | multiline
  | behind
  | outside
deriving DecidableEq, Repr

def UnsupportedPart.message : UnsupportedPart → String
  | .anchor c => Text.quoted (String.singleton c)
  | .properties => "regex module unicode properties are not supported."
  | .reference => "Group references are not implemented"
  | .escape c => "Escape \\" ++ String.singleton c ++ " is not implemented"
  | .conditional => "Conditional matching is not implemented"
  | .extension c context =>
    "Unknown group-extension: " ++ Text.quoted (String.singleton c) ++ " (Context: " ++
      Text.quoted context
  | .mode c => "Flag " ++ String.singleton c ++ " is not implemented"
  | .multiline => "REFlags.MULTILINE"
  | .behind => "lookbacks are not implemented"
  | .outside => "Group can not have lookbacks/lookaheads that go beyond the group bounds."

/-- Why there is no automaton of a text. -/
inductive PatternFault where
  | unreadable
  | range (text : String)
  | behindLength (least : Nat) (most : Option Nat)
  | unsupported (part : UnsupportedPart)
  | missing
  | digits (count : Nat)
  | multiply (times : Int)
deriving DecidableEq, Repr

def PatternFault.message : PatternFault → String
  | .unreadable => ""
  | .range text => "Invalid Character-range: " ++ text
  | .behindLength least most =>
    "lookbacks have to have fixed length (" ++ toString least ++ ", " ++
      (most.map toString).getD "None" ++ ")"
  | .unsupported part => part.message
  | .missing => "'NoneType' object has no attribute 'get_alphabet'"
  | .digits count => Text.tooManyDigits (some count)
  | .multiply times => "Can't multiply an FSM by " ++ toString times

end GuidedJson
