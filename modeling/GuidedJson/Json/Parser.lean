import GuidedJson.Json.Value
import GuidedJson.Text.Integer

/-! # Reading JSON

A recursive reader over the characters. It stops at the first fault, which it places by the
number of characters before it, and at an integer with too many digits. Beyond the standard it
knows `NaN`, `Infinity` and `-Infinity`. The escape of half a surrogate pair names no character, and
reading stops there: no text can hold it.
-/

namespace GuidedJson

open Number (Binary)

namespace Json

/-! ## Faults -/

/-- What is wrong with a text that is no JSON. -/
inductive Cause where
  | value
  | propertyName
  | colon
  | comma
  | extraData
  | byteOrderMark
  | openString
  | controlChar
  | escape
  | unicodeEscape
deriving DecidableEq, Repr

def Cause.message : Cause → String
  | .value => "Expecting value"
  | .propertyName => "Expecting property name enclosed in double quotes"
  | .colon => "Expecting ':' delimiter"
  | .comma => "Expecting ',' delimiter"
  | .extraData => "Extra data"
  | .byteOrderMark => "Unexpected UTF-8 BOM (decode using utf-8-sig)"
  | .openString => "Unterminated string starting at"
  | .controlChar => "Invalid control character at"
  | .escape => "Invalid \\escape"
  | .unicodeEscape => "Invalid \\uXXXX escape"

/-- Where reading ends early. -/
inductive Stop where
  /-- A fault and the characters of the text that are left from it on. -/
  | fault (cause : Cause) (left : Nat)
  /-- An integer with too many digits. -/
  | digits (count : Nat)
  /-- The code of half a surrogate pair. -/
  | surrogate (code : Nat)
deriving DecidableEq, Repr

/-- A fault and its place: line and column count from 1, the offset from 0. -/
structure Fault where
  cause : Cause
  line : Nat
  column : Nat
  offset : Nat
deriving DecidableEq, Repr

def Fault.message (f : Fault) : String :=
  f.cause.message ++ ": line " ++ toString f.line ++ " column " ++ toString f.column ++
    " (char " ++ toString f.offset ++ ")"

/-- The fault at an offset of a text. -/
def Fault.at (cause : Cause) (text : List Char) (offset : Nat) : Fault :=
  let before := text.take offset
  ⟨cause, before.count '\n' + 1, (before.reverse.takeWhile (· != '\n')).length + 1, offset⟩

/-- Why a text has no value: it is no JSON, a number in it has too many digits, or it escapes what is
no character. -/
inductive Refusal where
  | malformed (fault : Fault)
  | digits (count : Nat)
  | surrogate (code : Nat)
deriving DecidableEq, Repr

/-- What a reader returns: a result and the rest of the text. -/
abbrev Read (α : Type) := Except Stop (α × List Char)

def stop {α : Type} (cause : Cause) (rest : List Char) : Read α := .error (.fault cause rest.length)

/-! ## White space and words -/

def isSpace (c : Char) : Bool := c == ' ' || c == '\t' || c == '\n' || c == '\r'

def skipSpace (cs : List Char) : List Char := cs.dropWhile isSpace

/-- The rest after a word that the text starts with. -/
def dropWord? : List Char → List Char → Option (List Char)
  | [], cs => some cs
  | _ :: _, [] => none
  | w :: ws, c :: cs => if w = c then dropWord? ws cs else none

/-! ## Strings -/

def hexValue? (c : Char) : Option Nat :=
  let n := c.toNat
  if 48 ≤ n && n ≤ 57 then some (n - 48)
  else if 97 ≤ n && n ≤ 102 then some (n - 87)
  else if 65 ≤ n && n ≤ 70 then some (n - 55)
  else none

/-- Four hexadecimal digits. -/
def readHex4? : List Char → Option (Nat × List Char)
  | a :: b :: c :: d :: rest =>
    match hexValue? a, hexValue? b, hexValue? c, hexValue? d with
    | some a, some b, some c, some d => some (((a * 16 + b) * 16 + c) * 16 + d, rest)
    | _, _, _, _ => none
  | _ => none

/-- The character of a short escape. -/
def shortEscape? (c : Char) : Option Char :=
  match c with
  | '"' => some '"'
  | '\\' => some '\\'
  | '/' => some '/'
  | 'b' => some (Char.ofNat 8)
  | 'f' => some (Char.ofNat 12)
  | 'n' => some '\n'
  | 'r' => some '\r'
  | 't' => some '\t'
  | _ => none

/-- The code point of a surrogate pair. -/
def joinSurrogates (high low : Nat) : Nat := 0x10000 + (high - 0xD800) * 0x400 + (low - 0xDC00)

/-- The character of a code point, none of half a surrogate pair. -/
def charOf? (n : Nat) : Option Char :=
  if h : n.isValidChar then some (Char.ofNatAux n h) else none

/-- The digits of an escape must be followed by something. -/
def readUnicode (rest : List Char) : Except Unit (Nat × List Char) :=
  match readHex4? rest with
  | some (n, []) => let _ := n; .error ()
  | some r => .ok r
  | none => .error ()

/-- The second half of a surrogate pair: none if no escape follows, an error if its digits are
bad. -/
def readLow (cs : List Char) : Except Nat (Option (Nat × List Char)) :=
  match cs with
  | '\\' :: 'u' :: rest =>
    if rest.length ≤ 4 then .ok none
    else
      match readHex4? rest with
      | none => .error (rest.length + 1)
      | some (n, after) => if 0xDC00 ≤ n && n < 0xE000 then .ok (some (n, after)) else .ok none
  | _ => .ok none

/-- The code point of an escape whose digits are read, and the rest of the text: two escapes are read
for a surrogate pair. An error is where the digits of the second escape are bad. -/
def readCode (n : Nat) (after : List Char) : Except Nat (Nat × List Char) :=
  if 0xD800 ≤ n && n < 0xDC00 then
    (readLow after).map fun
      | some (low, after) => (joinSurrogates n low, after)
      | none => (n, after)
  else .ok (n, after)

/-- The rest of a string, given what was read of it in reverse and the length of the text from
its opening quote. -/
def readString (opening : Nat) : (fuel : Nat) → List Char → List Char → Read String
  | 0, _, _ => .error (.fault .openString opening)
  | fuel + 1, done, cs =>
    match cs with
    | [] => .error (.fault .openString opening)
    | '"' :: rest => .ok (String.ofList done.reverse, rest)
    | '\\' :: rest =>
      match rest with
      | [] => .error (.fault .openString opening)
      | 'u' :: digits =>
        match readUnicode digits with
        | .error _ => .error (.fault .unicodeEscape (digits.length + 1))
        | .ok (n, after) =>
          match readCode n after with
          | .error left => .error (.fault .unicodeEscape left)
          | .ok (code, after) =>
            match charOf? code with
            | some c => readString opening fuel (c :: done) after
            | none => .error (.surrogate code)
      | e :: after =>
        match shortEscape? e with
        | some c => readString opening fuel (c :: done) after
        | none => .error (.fault .escape (after.length + 2))
    | c :: rest =>
      if c.toNat < 32 then .error (.fault .controlChar (rest.length + 1))
      else readString opening fuel (c :: done) rest

/-- A string whose opening quote has just been read. -/
def readStringBody (rest : List Char) : Read String :=
  readString (rest.length + 1) (rest.length + 1) [] rest

/-! ## Numbers -/

def isDigit (c : Char) : Bool := '0' ≤ c && c ≤ '9'

def digitsValue (ds : List Char) : Nat := ds.foldl (fun n c => 10 * n + (c.toNat - 48)) 0

/-- Whole digits: a zero alone, or digits that start with another one. -/
def readWhole : List Char → Option (List Char × List Char)
  | '0' :: rest => some (['0'], rest)
  | cs =>
    match cs.takeWhile isDigit with
    | [] => none
    | ds => some (ds, cs.dropWhile isDigit)

/-- A point and digits; a point without digits is not part of the number. -/
def readFraction : List Char → List Char × List Char
  | '.' :: rest =>
    match rest.takeWhile isDigit with
    | [] => ([], '.' :: rest)
    | ds => (ds, rest.dropWhile isDigit)
  | cs => ([], cs)

/-- An exponent with its sign; without digits it is not part of the number. -/
def readExponent (cs : List Char) : Option (Int × List Char) :=
  match cs with
  | e :: rest =>
    if e = 'e' || e = 'E' then
      let (negative, digits) :=
        match rest with
        | '-' :: r => (true, r)
        | '+' :: r => (false, r)
        | r => (false, r)
      match digits.takeWhile isDigit with
      | [] => none
      | ds =>
        let n : Int := digitsValue ds
        some (if negative then -n else n, digits.dropWhile isDigit)
    else none
  | [] => none

/-- A number after its sign; `cs` is the text from the sign on. -/
def readNumber (negative : Bool) (cs unsigned : List Char) : Read Value :=
  match readWhole unsigned with
  | none => stop .value cs
  | some (whole, rest) =>
    let (fraction, rest) := readFraction rest
    match readExponent rest with
    | some (e, rest) =>
      let mantissa := digitsValue (whole ++ fraction)
      .ok (.float (Binary.ofDecimal negative mantissa (e - fraction.length)), rest)
    | none =>
      if !fraction.isEmpty then
        let mantissa := digitsValue (whole ++ fraction)
        .ok (.float (Binary.ofDecimal negative mantissa (-(fraction.length : Int))), rest)
      else if Text.digitLimit < whole.length then .error (.digits whole.length)
      else
        let n : Int := digitsValue whole
        .ok (.int (if negative then -n else n), rest)

/-! ## Values -/

/-- A value that is neither a collection nor a string. -/
def readScalar (cs : List Char) : Read Value :=
  match cs with
  | 'n' :: _ => word "null" .null
  | 't' :: _ => word "true" (.bool true)
  | 'f' :: _ => word "false" (.bool false)
  | 'N' :: _ => word "NaN" (.float .nan)
  | 'I' :: _ => word "Infinity" (.float (.infinite false))
  | '-' :: rest =>
    match dropWord? "Infinity".toList rest with
    | some after => .ok (.float (.infinite true), after)
    | none => readNumber true cs rest
  | _ => readNumber false cs cs
where
  word (w : String) (v : Value) : Read Value :=
    match dropWord? w.toList cs with
    | some rest => .ok (v, rest)
    | none => stop .value cs

mutual
/-- A value at the head of the text. A level of nesting takes two units of fuel. -/
def readValue : (fuel : Nat) → List Char → Read Value
  | 0, cs => stop .value cs
  | fuel + 1, cs =>
    match cs with
    | '"' :: rest => (readStringBody rest).map fun (s, rest) => (.string s, rest)
    | '[' :: rest =>
      let rest := skipSpace rest
      match rest with
      | ']' :: after => .ok (.array [], after)
      | _ => (readItems fuel rest).map fun (items, rest) => (.array items, rest)
    | '{' :: rest =>
      let rest := skipSpace rest
      match rest with
      | '}' :: after => .ok (.object [], after)
      | _ => (readMembers fuel rest).map fun (ms, rest) => (.object (Value.members ms), rest)
    | _ => readScalar cs

/-- The items of an array that has at least one, up to its closing bracket. -/
def readItems : (fuel : Nat) → List Char → Except Stop (List Value × List Char)
  | 0, cs => stop .value cs
  | fuel + 1, cs => do
    let (v, rest) ← readValue fuel cs
    match skipSpace rest with
    | ']' :: after => return ([v], after)
    | ',' :: after =>
      let (vs, after) ← readItems fuel (skipSpace after)
      return (v :: vs, after)
    | rest => stop .comma rest

/-- The members of an object that has at least one, up to its closing brace. -/
def readMembers : (fuel : Nat) → List Char → Except Stop (List (String × Value) × List Char)
  | 0, cs => stop .value cs
  | fuel + 1, cs =>
    match cs with
    | '"' :: rest => do
      let (key, rest) ← readStringBody rest
      match skipSpace rest with
      | ':' :: rest => do
        let (v, rest) ← readValue fuel (skipSpace rest)
        match skipSpace rest with
        | '}' :: after => return ([(key, v)], after)
        | ',' :: after =>
          let (ms, after) ← readMembers fuel (skipSpace after)
          return ((key, v) :: ms, after)
        | rest => stop .comma rest
      | rest => stop .colon rest
    | _ => stop .propertyName cs
end

/-- A whole text with white space around its value. -/
def readDocument (cs : List Char) : Except Stop Value :=
  match cs with
  | [] => (readValue 1 cs).map (·.1)
  | first :: _ =>
    if first.toNat = 0xFEFF then .error (.fault .byteOrderMark cs.length)
    else do
      let (v, rest) ← readValue (2 * cs.length + 2) (skipSpace cs)
      match skipSpace rest with
      | [] => return v
      | rest => .error (.fault .extraData rest.length)

/-- The value of a JSON text. -/
def parse (text : String) : Except Refusal Value :=
  let cs := text.toList
  match readDocument cs with
  | .ok v => .ok v
  | .error (.fault cause left) => .error (.malformed (.at cause cs (cs.length - left)))
  | .error (.digits count) => .error (.digits count)
  | .error (.surrogate code) => .error (.surrogate code)

end Json

end GuidedJson
