import GuidedJson.Display.Parameters.Token
import GuidedJson.Text.Newline

/-! # Values of parameters

The tokens of parameters are read as an expression, and the expression must be a literal value.
Names and operations are expressions, but no values. Where no expression can be read, the reason is
told if one is known.
-/

namespace GuidedJson.Display.Parameters

/-! ## Expressions -/

/-- What an expression is called where it cannot stand. -/
inductive Form where
  | name
  | tuple
  | other (description : String)
deriving DecidableEq, Repr

/-- What an expression stands for. -/
inductive Meaning where
  | number
  | constant
  | unhashable (kind : String)
  | nothing
deriving DecidableEq, Repr

/-- An expression as it is read; a loose one has comparisons or words between its operands. -/
structure Expression where
  form : Form
  meaning : Except ParameterFault Meaning
  loose : Bool := false

/-- Where reading fails: before the tokens that are left, or for a reason that is told. -/
inductive Stop where
  | at (left : Nat)
  | told (message : String)

abbrev Tokens := List (Token × Nat)

def stop {α : Type} : Tokens → Except Stop α
  | (.stray, _) :: _ => .error (.told "unexpected character after line continuation character")
  | ts => .error (.at ts.length)

/-- Whether nothing can be read for a reason that must be told: the tokens end too early. -/
def Stop.isFinal : Stop → Bool
  | .at left => left = 0
  | .told _ => true

/-- What is read, or else what was read before, unless the failure is final. -/
def orElse {α : Type} (read : Except Stop α) (before : α) : Except Stop α :=
  match read with
  | .error e => if e.isFinal then .error e else .ok before
  | read => read

def malformed : ParameterFault := .value "malformed node or string on line 1"

def keywords : List String :=
  ["and", "as", "assert", "async", "await", "break", "class", "continue", "def", "del", "elif",
    "else", "except", "finally", "for", "from", "global", "if", "import", "in", "is", "lambda",
    "nonlocal", "not", "or", "pass", "raise", "return", "try", "while", "with", "yield"]

def constants : List String := ["None", "True", "False"]

/-- Whether tokens start with a name that is not called. -/
def startsUncalled : Tokens → Bool
  | (.name n, _) :: (t, _) :: _ =>
    !keywords.contains n && !constants.contains n && t != .mark "("
  | _ => false

/-- Whether tokens start with a name that may begin something else than an expression. -/
def startsPhrase : Tokens → Bool
  | (.name n, d) :: (t, e) :: _ =>
    startsUncalled [(.name n, d), (t, e)] &&
      (t matches .text _ || ["_", "case", "match"].contains n)
  | _ => false

/-- The tokens between two operands, and whether they compare. -/
def operator? : Token → Option Bool
  | .mark m =>
    if ["<", ">", "==", "<=", ">=", "!="].contains m then some true
    else if ["+", "-", "*", "/", "//", "%", "@", "**", "<<", ">>", "&", "|", "^"].contains m then
      some false
    else none
  | .name n =>
    if n = "in" || n = "is" then some true
    else if n = "and" || n = "or" then some false
    else none
  | _ => none

/-- The first fault among meanings, else the first that cannot be looked up, else a constant. -/
def joined (es : List Expression) : Except ParameterFault Meaning := do
  let meanings ← es.mapM (·.meaning)
  return (meanings.find? (· matches .unhashable _)).getD .constant

/-- Members of a set, and keys of a map, must be such that they can be looked up. -/
def checkHashable : Meaning → Except ParameterFault Unit
  | .unhashable kind => .error (.value ("unhashable type: '" ++ kind ++ "'"))
  | _ => .ok ()

def setMeaning (es : List Expression) : Except ParameterFault Meaning := do
  es.forM fun e => do checkHashable (← e.meaning)
  return .unhashable "set"

def mapMeaning (pairs : List (Expression × Expression)) : Except ParameterFault Meaning := do
  pairs.forM fun (k, v) => do
    let key ← k.meaning
    let _ ← v.meaning
    checkHashable key
  return .unhashable "dict"

def literal (meaning : Meaning) : Expression := ⟨.other "literal", .ok meaning, false⟩

def operation (description : String) : Expression :=
  ⟨.other description, .error malformed, false⟩

/-- Texts that stand side by side are one, if they are of one kind. -/
def joinTexts (octets : Bool) : Tokens → Except Stop (Expression × Tokens)
  | (.text other, _) :: rest =>
    if other = octets then joinTexts octets rest
    else .error (.told "cannot mix bytes and nonbytes literals")
  | rest => .ok (literal .constant, rest)

mutual
/-- An expression: operands with operators between them. -/
def expression : (fuel : Nat) → Tokens → Except Stop (Expression × Tokens)
  | 0, ts => stop ts
  | fuel + 1, ts => do
    let (e, rest) ← operand fuel ts
    match rest with
    | (t, _) :: after =>
      match operator? t with
      | some compares =>
        let after := match t, after with
          | .name "is", (.name "not", _) :: more => more
          | _, _ => after
        let read := (expression fuel after).map fun (next, rest) =>
          let loose := compares || t matches .name _ || next.loose
          ({ operation (if compares then "comparison" else "expression") with loose }, rest)
        orElse read (e, rest)
      | none =>
        if t = .name "if" then
          match expression fuel after with
          | .ok (_, (.name "else", _) :: more) =>
            orElse ((expression fuel more).map fun (_, rest) =>
              ({ operation "conditional expression" with loose := true }, rest)) (e, rest)
          | .ok (_, (.mark ":", _) :: _) => return (e, rest)
          | .ok (_, []) => stop []
          | .ok (_, (.stray, d) :: more) => stop ((.stray, d) :: more)
          | .ok _ => throw (.told "expected 'else' after 'if' expression")
          | .error reason => orElse (.error reason) (e, rest)
        else if t = .stray then stop rest
        else return (e, rest)
    | [] => return (e, [])

/-- An operand with the signs in front of it. -/
def operand : (fuel : Nat) → Tokens → Except Stop (Expression × Tokens)
  | 0, ts => stop ts
  | fuel + 1, ts =>
    match ts with
    | (.mark m, _) :: rest =>
      if m = "+" || m = "-" then do
        let (e, rest) ← operand fuel rest
        let signed := match ts, e.meaning with
          | _ :: (.number, _) :: _, .ok .number => true
          | _, _ => false
        let e : Expression :=
          if signed then ⟨.other "expression", .ok .constant, false⟩ else operation "expression"
        return (e, rest)
      else if m = "~" then do
        let (_, rest) ← operand fuel rest
        return (operation "expression", rest)
      else primary fuel ts
    | (.name "not", _) :: rest => do
      let (_, rest) ← operand fuel rest
      return ({ operation "expression" with loose := true }, rest)
    | _ => primary fuel ts

/-- An atom with the attributes and calls behind it. -/
def primary : (fuel : Nat) → Tokens → Except Stop (Expression × Tokens)
  | 0, ts => stop ts
  | fuel + 1, ts => do
    let (e, rest) ← atom fuel ts
    trailers fuel (ts matches (.name "set", _) :: _) e rest

def trailers (fuel : Nat) (isSet : Bool) (e : Expression) (ts : Tokens) :
    Except Stop (Expression × Tokens) :=
  match fuel with
  | 0 => stop ts
  | fuel + 1 =>
    match ts with
    | (.mark ".", _) :: (.name _, _) :: rest => trailers fuel false (operation "attribute") rest
    | (.mark ".", _) :: rest => orElse (stop rest) (e, ts)
    | (.mark "(", _) :: (.mark ")", _) :: rest =>
      trailers fuel false
        (if isSet then ⟨.other "function call", .ok (.unhashable "set"), false⟩
          else operation "function call") rest
    | (.mark "(", _) :: rest => do
      match items fuel true rest with
      | .ok (_, (.mark ")", _) :: rest) => trailers fuel false (operation "function call") rest
      | .ok (_, rest) => orElse (stop rest) (e, ts)
      | .error reason => orElse (.error reason) (e, ts)
    | _ => .ok (e, ts)

def atom : (fuel : Nat) → Tokens → Except Stop (Expression × Tokens)
  | 0, ts => stop ts
  | fuel + 1, ts =>
    match ts with
    | (.number, _) :: rest => .ok (literal .number, rest)
    | (.text octets, _) :: rest => joinTexts octets rest
    | (.name n, _) :: rest =>
      if constants.contains n then .ok (⟨.other n, .ok .constant, false⟩, rest)
      else if keywords.contains n then stop ts
      else .ok (⟨.name, .error malformed, false⟩, rest)
    | (.mark "...", _) :: rest => .ok (⟨.other "ellipsis", .ok .constant, false⟩, rest)
    | (.mark "(", _) :: (.mark ")", _) :: rest => .ok (⟨.tuple, .ok .constant, false⟩, rest)
    | (.mark "(", _) :: (.mark "**", _) :: rest => do
      match ← expression fuel rest with
      | (_, (.mark ")", _) :: _) => throw (.told "cannot use double starred expression here")
      | (_, []) => stop []
      | _ => stop rest
    | (.mark "(", _) :: rest => do
      let starred := rest matches (.mark "*", _) :: _
      let ((es, comma), rest) ← items fuel false rest
      match rest with
      | (.mark ")", _) :: rest =>
        match es, comma with
        | [e], false =>
          if starred then throw (.told "cannot use starred expression here")
          return ({ e with loose := false }, rest)
        | es, _ => return (⟨.tuple, joined es, false⟩, rest)
      | rest => stop rest
    | (.mark "\x7b", _) :: (.mark "\x7d", _) :: rest =>
      .ok (⟨.other "dict literal", .ok (.unhashable "dict"), false⟩, rest)
    | (.mark "\x7b", _) :: rest => do
      let (e, after) ← item fuel false rest
      match after with
      | (.mark ":", _) :: _ =>
        let (pairs, after) ← pairs fuel rest
        match after with
        | (.mark "\x7d", _) :: after =>
          return (⟨.other "dict literal", mapMeaning pairs, false⟩, after)
        | after => stop after
      | _ =>
        let ((es, _), after) ← items fuel false rest
        match after with
        | (.mark "\x7d", _) :: after =>
          return (⟨.other "set display", setMeaning es, false⟩, after)
        | after => let _ := e; stop after
    | ts => stop ts

/-- An expression. Another one behind it in brackets is told of. -/
def separated : (fuel : Nat) → Tokens → Except Stop (Expression × Tokens)
  | 0, ts => stop ts
  | fuel + 1, ts => do
    let (e, rest) ← expression fuel ts
    if !startsPhrase ts then
      match expression fuel rest with
      | .ok (_, after) =>
        let last := ((rest.take (rest.length - after.length)).getLast?.map (·.2)).getD 0
        if last != 0 then
          if after.isEmpty then stop []
          throw (.told "invalid syntax. Perhaps you forgot a comma?")
      | .error reason => if reason.isFinal && !rest.isEmpty then throw reason
    if startsUncalled ts then
      match ts.tail, separated fuel ts.tail with
      | (.text _, _) :: _, .ok (_, []) => stop []
      | _, .ok _ => return (e, rest)
      | _, .error reason => orElse (.error reason) (e, rest)
    else return (e, rest)

/-- An expression in brackets. An equals sign behind it is told of. -/
def item : (fuel : Nat) → (call : Bool) → Tokens → Except Stop (Expression × Tokens)
  | 0, _, ts => stop ts
  | fuel + 1, call, ts => do
    match ts with
    | (.mark "*", _) :: after =>
      match expression fuel after with
      | .ok (_, rest) => return (operation "starred", rest)
      | .error reason =>
        if reason.isFinal then throw reason else throw (.told "Invalid star expression")
    | _ => pure ()
    let named := ts matches (.name _, _) :: (.mark "=", _) :: _
    if call && named then return ← expression fuel (ts.drop 2)
    let (e, rest) ← separated fuel ts
    match rest with
    | (.mark "=", _) :: after =>
      let constant := match ts with
        | (.name n, _) :: _ => constants.contains n
        | _ => false
      if e.loose || constant then return (e, rest)
      match expression fuel after, e.form with
      | .ok (_, []), _ => stop []
      | .ok (_, (.mark "=", _) :: _), _ | .ok (_, (.mark ":=", _) :: _), _ => return (e, rest)
      | .ok _, .name =>
        throw (.told "invalid syntax. Maybe you meant '==' or ':=' instead of '='?")
      | .ok _, .other description =>
        throw (.told ("cannot assign to " ++ description ++
          " here. Maybe you meant '==' instead of '='?"))
      | .ok _, .tuple => return (e, rest)
      | .error reason, _ => orElse (.error reason) (e, rest)
    | _ => return (e, rest)

/-- Expressions with commas between them, at least one; whether there was a comma. -/
def items : (fuel : Nat) → (call : Bool) → Tokens →
    Except Stop ((List Expression × Bool) × Tokens)
  | 0, _, ts => stop ts
  | fuel + 1, call, ts => do
    let (e, rest) ← item fuel call ts
    match rest with
    | (.mark ",", _) :: after =>
      match after with
      | (.mark ")", _) :: _ | (.mark "\x7d", _) :: _ => return (([e], true), after)
      | after =>
        let ((es, _), rest) ← items fuel call after
        return ((e :: es, true), rest)
    | rest => return (([e], false), rest)

/-- Keys with their values, with commas between them. -/
def pairs : (fuel : Nat) → Tokens → Except Stop (List (Expression × Expression) × Tokens)
  | 0, ts => stop ts
  | fuel + 1, ts => do
    let (k, rest) ← item fuel false ts
    match rest with
    | (.mark ":", _) :: after =>
      match after with
      | (.mark "\x7d", _) :: _ | (.mark ",", _) :: _ =>
        throw (.told "expression expected after dictionary key and ':'")
      | after =>
        let (v, rest) ← item fuel false after
        match rest with
        | (.mark ",", _) :: (.mark "\x7d", d) :: rest =>
          return ([(k, v)], (.mark "\x7d", d) :: rest)
        | (.mark ",", _) :: rest =>
          let (ps, rest) ← pairs fuel rest
          return ((k, v) :: ps, rest)
        | rest => return ([(k, v)], rest)
    | [] => stop []
    | _ => throw (.told "':' expected after dictionary key")
end

/-- Expressions at the top, with commas between them. -/
def topItems : (fuel : Nat) → Tokens → Except Stop (List Expression × Tokens)
  | 0, ts => stop ts
  | fuel + 1, ts => do
    let (e, rest) ← separated fuel ts
    match rest with
    | [(.mark ",", _)] => return ([e], [])
    | (.mark ",", _) :: rest =>
      let (es, rest) ← topItems fuel rest
      return (e :: es, rest)
    | rest => return ([e], rest)

/-- Whether a text is a literal value. -/
def check (cs : List Char) : Except ParameterFault Unit := do
  if cs.any fun c => c.toNat = 0 then
    throw (.form "source code string cannot contain null bytes")
  let (ts, opened) ← tokens (cs.length + 1) {} (Text.unifyLineEnds cs)
  let unclosed : ParameterFault := match opened with
    | (c, _) :: _ => .form ("'" ++ String.singleton c ++ "' was never closed")
    | [] => .form "invalid syntax"
  match topItems (8 * ts.length + 8) ts with
  | .ok (es, []) =>
    let _ ← joined es
    return ()
  | .ok (_, _ :: _) => throw (.form "invalid syntax")
  | .error (.told message) => throw (.form message)
  | .error (.at 0) => throw unclosed
  | .error (.at _) => throw (.form "invalid syntax")

end GuidedJson.Display.Parameters
