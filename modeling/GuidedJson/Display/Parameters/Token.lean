import GuidedJson.Display.Fault
import GuidedJson.Text.Hex
import GuidedJson.Text.Integer
import GuidedJson.Text.Letter
import GuidedJson.Text.Printable

/-! # Tokens of parameters

An action is given parameters as a literal value: numbers, texts, tuples, sets and maps. What is
written is read into tokens first: numbers, texts, names and marks. A token knows how deep it lies
in brackets, and brackets must match.
-/

namespace GuidedJson.Display.Parameters

/-! ## Texts and numbers -/

inductive Token where
  | number
  | text (octets : Bool)
  | name (s : String)
  | mark (s : String)
  | stray
deriving DecidableEq, Repr

/-- The open brackets with their lines, the last one first, and the line that is read. -/
structure Place where
  opened : List (Char × Nat) := []
  line : Nat := 1

def isNameStart (c : Char) : Bool := c = '_' || c.isAlpha || (127 < c.toNat && Text.isLetter c)

def isNamePart (c : Char) : Bool := isNameStart c || (Text.digitValue? c).isSome

/-- The letters that a text can have in front of its quote. -/
def isTextStart (s : String) : Bool :=
  ["r", "b", "u", "f", "rb", "br", "fr", "rf"].contains (String.ofList (s.toList.map Char.toLower))

def longMarks : List String :=
  ["...", "**=", "//=", ">>=", "<<=", "==", "!=", "<=", ">=", "->", ":=", "**", "//", "<<", ">>",
    "+=", "-=", "*=", "/=", "%=", "&=", "|=", "^=", "@="]

/-- The mark at the front of a text. -/
def markAt (c : Char) (cs : List Char) : String :=
  (longMarks.find? fun m => m.toList.isPrefixOf (c :: cs)).getD (String.singleton c)

def unterminated (triple : Bool) (line : Nat) : ParameterFault :=
  .form ("unterminated " ++ (if triple then "triple-quoted " else "") ++
    "string literal (detected at line " ++ toString line ++ ")")

/-- What follows the end of a text, and whether all of it is ASCII. -/
def textEnd (quote : Char) (triple : Bool) (line : Nat) (ascii : Bool) :
    List Char → Except ParameterFault (Bool × Nat × List Char)
  | [] => .error (unterminated triple line)
  | '\\' :: c :: cs => textEnd quote triple (if c = '\n' then line + 1 else line) ascii cs
  | c :: cs =>
    if c = quote && !triple then .ok (ascii, line, cs)
    else if c = quote && cs.take 2 = [quote, quote] then .ok (ascii, line, cs.drop 2)
    else if c = '\n' && !triple then .error (unterminated false line)
    else
      textEnd quote triple (if c = '\n' then line + 1 else line) (ascii && c.toNat < 128) cs

def invalid (kind : String) : ParameterFault := .form ("invalid " ++ kind ++ " literal")

/-- Digits with single underscores between them. -/
def digits (kind : String) (isDigit : Char → Bool) :
    (after : Bool) → List Char → Except ParameterFault (List Char × List Char)
  | _, [] => .ok ([], [])
  | after, c :: cs =>
    if isDigit c then (digits kind isDigit true cs).map fun (ds, rest) => (c :: ds, rest)
    else if c = '_' then
      if after && (cs.head?.map isDigit).getD false then digits kind isDigit false cs
      else .error (invalid kind)
    else .ok ([], c :: cs)

/-- Words that may follow a number without a blank. -/
def joinedWords : List String := ["and", "else", "for", "if", "in", "is", "or", "not"]

/-- A number must not run into a name. -/
def numberEnd (kind : String) (cs : List Char) : Except ParameterFault (List Char) :=
  match cs with
  | c :: _ =>
    if isNamePart c && c.toNat < 128 && !joinedWords.any (·.toList.isPrefixOf cs) then
      .error (invalid kind)
    else .ok cs
  | [] => .ok []

/-- The kind and the base of a number that starts with a zero and a letter. -/
def baseOf? (c : Char) : Option (String × Nat) :=
  match c.toLower with
  | 'x' => some ("hexadecimal", 16)
  | 'o' => some ("octal", 8)
  | 'b' => some ("binary", 2)
  | _ => none

def inBase (base : Nat) (c : Char) : Bool :=
  (c.isDigit || ('a' ≤ c.toLower && c.toLower ≤ 'f')) && Text.hexValue c < base

/-- What follows a number in a base other than ten. -/
def basedEnd (kind : String) (base : Nat) (cs : List Char) : Except ParameterFault (List Char) := do
  let (ds, rest) ← digits kind (inBase base) true cs
  match rest with
  | c :: _ =>
    if c.isDigit then
      throw (.form ("invalid digit '" ++ String.singleton c ++ "' in " ++ kind ++ " literal"))
  | [] => pure ()
  if ds.isEmpty then throw (invalid kind)
  numberEnd kind rest

/-- What follows a number that may be imaginary. -/
def imaginaryEnd : List Char → Except ParameterFault (List Char)
  | [] => .ok []
  | c :: cs =>
    if c.toLower = 'j' then numberEnd "imaginary" cs else numberEnd "decimal" (c :: cs)

/-- What follows the exponent of a number and the mark of an imaginary one. -/
def exponentEnd : List Char → Except ParameterFault (List Char)
  | [] => .ok []
  | c :: rest =>
    let unsigned := match rest with
      | '+' :: r => r
      | '-' :: r => r
      | r => r
    if c.toLower = 'e' && (unsigned.head?.map Char.isDigit).getD false then do
      imaginaryEnd (← digits "decimal" Char.isDigit true unsigned).2
    else imaginaryEnd (c :: rest)

/-- What follows a number. -/
def afterNumber (c : Char) (cs : List Char) : Except ParameterFault (List Char) := do
  match c, cs.head?.bind baseOf? with
  | '0', some (kind, base) => basedEnd kind base cs.tail
  | _, _ =>
    let (whole, rest) ← digits "decimal" Char.isDigit false (c :: cs)
    match rest with
    | '.' :: r => exponentEnd (← digits "decimal" Char.isDigit false r).2
    | r =>
      let isWhole := (r.head?.map fun c => c.toLower ≠ 'e' && c.toLower ≠ 'j').getD true
      if isWhole && whole.head? = some '0' && whole.any (· != '0') then
        throw (.form ("leading zeros in decimal integer literals are not permitted; " ++
          "use an 0o prefix for octal integers"))
      exponentEnd r

def partner (c : Char) : Char := if c = ')' then '(' else '\x7b'

/-- The open brackets behind a mark. -/
def bracketed (p : Place) (c : Char) : Except ParameterFault Place :=
  if c = '(' || c = '\x7b' then .ok { p with opened := (c, p.line) :: p.opened }
  else if c = ')' || c = '\x7d' then
    match p.opened with
    | [] => .error (.form ("unmatched '" ++ String.singleton c ++ "'"))
    | (o, line) :: rest =>
      if o = partner c then .ok { p with opened := rest }
      else .error (.form ("closing parenthesis '" ++ String.singleton c ++
        "' does not match opening parenthesis '" ++ String.singleton o ++ "'" ++
        (if line = p.line then "" else " on line " ++ toString line)))
  else .ok p

def strangeCharacter (c : Char) : ParameterFault :=
  let code := "U+" ++ String.ofList ((Text.hexDigits 4 c.toNat).map Char.toUpper)
  if Text.isPrintable c.toNat then
    .form ("invalid character '" ++ String.singleton c ++ "' (" ++ code ++ ")")
  else .form ("invalid non-printable character " ++ code)

/-- The tokens of a text with their depth in brackets, and the brackets that stay open. A backslash
that ends no line is the last token. -/
def tokens (fuel : Nat) (p : Place) (cs : List Char) :
    Except ParameterFault (List (Token × Nat) × List (Char × Nat)) :=
  match fuel, cs with
  | 0, _ => .ok ([], p.opened)
  | _, [] => .ok ([], p.opened)
  | fuel + 1, c :: rest =>
    let go (t : Token) (p : Place) (rest : List Char) :=
      (tokens fuel p rest).map fun (ts, opened) => ((t, p.opened.length) :: ts, opened)
    let text (prefixName : String) (quote : Char) (rest : List Char) := do
      let triple := rest.take 2 = [quote, quote]
      let (ascii, line, after) ←
        textEnd quote triple p.line true (if triple then rest.drop 2 else rest)
      let octets := prefixName.toList.any fun c => c.toLower = 'b'
      if octets && !ascii then
        throw (.form "bytes can only contain ASCII literal characters")
      go (.text octets) { p with line } after
    if c = ' ' || c = '\t' || c.toNat = 12 then tokens fuel p rest
    else if c = '\n' then tokens fuel { p with line := p.line + 1 } rest
    else if c = '#' then tokens fuel p (rest.dropWhile (· != '\n'))
    else if c = '\\' then
      match rest with
      | '\n' :: rest => tokens fuel { p with line := p.line + 1 } rest
      | _ => .ok ([(.stray, p.opened.length)], p.opened)
    else if c = '\'' || c = '"' then text "" c rest
    else if c.isDigit || (c = '.' && (rest.head?.map Char.isDigit).getD false) then
      match afterNumber c rest with
      | .ok after => go .number p after
      | .error fault => .error fault
    else if isNameStart c then
      let name := String.ofList (c :: rest.takeWhile isNamePart)
      match rest.dropWhile isNamePart with
      | q :: after =>
        if (q = '\'' || q = '"') && isTextStart name then text name q after
        else go (.name name) p (q :: after)
      | [] => go (.name name) p []
    else if c.toNat < 32 || 126 < c.toNat then .error (strangeCharacter c)
    else
      match bracketed p c with
      | .error fault => .error fault
      | .ok next =>
        let mark := markAt c rest
        go (.mark mark) next (rest.drop (mark.length - 1))

end GuidedJson.Display.Parameters
