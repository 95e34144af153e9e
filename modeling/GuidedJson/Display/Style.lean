import GuidedJson.Json.Display
import GuidedJson.Text.Case
import Std.Data.HashMap

/-! # Styles

A style is written in words: attributes, with `not` in front of one that is off, a color, a color
behind `on`, and an address behind `link`. Two spellings of one style have the same normal form.
-/

namespace GuidedJson.Display

/-! ## Attributes -/

/-- What a text can look like besides its colors. -/
inductive Attribute where
  | bold
  | dim
  | italic
  | underline
  | blink
  | fastBlink
  | reverse
  | conceal
  | strike
  | doubleUnderline
  | frame
  | encircle
  | overline
deriving DecidableEq, Repr

namespace Attribute

def all : List Attribute :=
  [bold, dim, italic, underline, blink, fastBlink, reverse, conceal, strike, doubleUnderline, frame,
    encircle, overline]

def name : Attribute → String
  | bold => "bold"
  | dim => "dim"
  | italic => "italic"
  | underline => "underline"
  | blink => "blink"
  | fastBlink => "blink2"
  | reverse => "reverse"
  | conceal => "conceal"
  | strike => "strike"
  | doubleUnderline => "underline2"
  | frame => "frame"
  | encircle => "encircle"
  | overline => "overline"

/-- The short name of an attribute; some have none. -/
def shortName? : Attribute → Option String
  | bold => some "b"
  | dim => some "d"
  | italic => some "i"
  | underline => some "u"
  | reverse => some "r"
  | conceal => some "c"
  | strike => some "s"
  | doubleUnderline => some "uu"
  | overline => some "o"
  | _ => none

def ofWord? (word : String) : Option Attribute :=
  all.find? fun a => a.name = word || a.shortName? = some word

end Attribute

/-! ## Colors -/

/-- The colors that have a name. -/
def colorNames : String := "default
aquamarine1 aquamarine3 black blue blue1 blue3 blue_violet bright_black bright_blue bright_cyan
bright_green bright_magenta bright_red bright_white bright_yellow cadet_blue chartreuse1
chartreuse2 chartreuse3 chartreuse4 cornflower_blue cornsilk1 cyan cyan1 cyan2 cyan3 dark_blue
dark_cyan dark_goldenrod dark_green dark_khaki dark_magenta dark_olive_green1 dark_olive_green2
dark_olive_green3 dark_orange dark_orange3 dark_red dark_sea_green dark_sea_green1 dark_sea_green2
dark_sea_green3 dark_sea_green4 dark_slate_gray1 dark_slate_gray2 dark_slate_gray3 dark_turquoise
dark_violet deep_pink1 deep_pink2 deep_pink3 deep_pink4 deep_sky_blue1 deep_sky_blue2
deep_sky_blue3 deep_sky_blue4 dodger_blue1 dodger_blue2 dodger_blue3 gold1 gold3 gray0 gray100
gray11 gray15 gray19 gray23 gray27 gray3 gray30 gray35 gray37 gray39 gray42 gray46 gray50 gray53
gray54 gray58 gray62 gray63 gray66 gray69 gray7 gray70 gray74 gray78 gray82 gray84 gray85 gray89
gray93 green green1 green3 green4 green_yellow grey0 grey100 grey11 grey15 grey19 grey23 grey27
grey3 grey30 grey35 grey37 grey39 grey42 grey46 grey50 grey53 grey54 grey58 grey62 grey63 grey66
grey69 grey7 grey70 grey74 grey78 grey82 grey84 grey85 grey89 grey93 honeydew2 hot_pink hot_pink2
hot_pink3 indian_red indian_red1 khaki1 khaki3 light_coral light_cyan1 light_cyan3
light_goldenrod1 light_goldenrod2 light_goldenrod3 light_green light_pink1 light_pink3 light_pink4
light_salmon1 light_salmon3 light_sea_green light_sky_blue1 light_sky_blue3 light_slate_blue
light_slate_gray light_slate_grey light_steel_blue light_steel_blue1 light_steel_blue3
light_yellow3 magenta magenta1 magenta2 magenta3 medium_orchid medium_orchid1 medium_orchid3
medium_purple medium_purple1 medium_purple2 medium_purple3 medium_purple4 medium_spring_green
medium_turquoise medium_violet_red misty_rose1 misty_rose3 navajo_white1 navajo_white3 navy_blue
orange1 orange3 orange4 orange_red1 orchid orchid1 orchid2 pale_green1 pale_green3 pale_turquoise1
pale_turquoise4 pale_violet_red1 pink1 pink3 plum1 plum2 plum3 plum4 purple purple3 purple4 red
red1 red3 rosy_brown royal_blue1 salmon1 sandy_brown sea_green1 sea_green2 sea_green3 sky_blue1
sky_blue2 sky_blue3 slate_blue1 slate_blue3 spring_green1 spring_green2 spring_green3
spring_green4 steel_blue steel_blue1 steel_blue3 tan thistle1 thistle3 turquoise2 turquoise4
violet wheat1 wheat4 white yellow yellow1 yellow2 yellow3 yellow4"

/-- The words of a text. -/
def words (cs : List Char) : List String :=
  ((cs.splitBy fun a b => Text.isBlank a = Text.isBlank b).filter fun w =>
    !w.all Text.isBlank).map String.ofList

def namedColors : Std.HashMap String Unit :=
  .ofList ((words colorNames.toList).map fun name => (name, ()))

/-- Why words are no style: they have another form, or a color has a part that is no number. -/
inductive StyleFault where
  | form
  | number (fault : Value.IntegerFault)
deriving DecidableEq, Repr

/-- What stands between an opening text and a closing bracket. -/
def enclosed? (opening : String) (cs : List Char) : Option (List Char) :=
  if opening.toList.isPrefixOf cs && cs.getLast? = some ')' then
    some (cs.drop opening.length).dropLast
  else none

/-- Checks a color that is written as three numbers. -/
def checkShares (parts : List Char) : Except StyleFault Unit := do
  if parts.isEmpty || !parts.all fun c => c = ',' || (Text.digitValue? c).isSome then throw .form
  let shares := (String.ofList parts).splitOn ","
  if shares.length ≠ 3 then throw .form
  let numbers ← shares.mapM fun share => (Value.string share).toInteger.mapError .number
  if !numbers.all (· ≤ 255) then throw .form

def isColorDigit (c : Char) : Bool := c.isDigit || ('a' ≤ c && c ≤ 'f')

/-- The color that a word names, in small letters. -/
def colorOf (word : String) : Except StyleFault String := do
  let name := Text.lower word
  let cs := name.toList
  if (namedColors[name]?).isSome then return name
  match cs with
  | '#' :: digits =>
    if digits.length = 6 && digits.all isColorDigit then return name else throw .form
  | _ =>
    match enclosed? "color(" cs, enclosed? "rgb(" cs with
    | some number, _ =>
      if number.isEmpty || 3 < number.length || !number.all Char.isDigit then throw .form
      if 255 < number.foldl (fun n c => 10 * n + (c.toNat - 48)) 0 then throw .form
      return name
    | none, some shares =>
      checkShares shares
      return name
    | none, none => throw .form

/-! ## Styles -/

structure Style where
  attributes : List (Attribute × Bool) := []
  color : Option String := none
  background : Option String := none
  link : Option String := none

namespace Style

def withAttribute (s : Style) (a : Attribute) (on : Bool) : Style :=
  { s with attributes := (a, on) :: s.attributes.filter (·.1 ≠ a) }

/-- The style of words, which are added to a style. -/
def ofWords (s : Style) : List String → Except StyleFault Style
  | [] => .ok s
  | word :: rest =>
    match Text.lower word, rest with
    | "on", color :: rest => do ofWords { s with background := some (← colorOf color) } rest
    | "not", name :: rest =>
      match Attribute.ofWord? name with
      | some a => ofWords (s.withAttribute a false) rest
      | none => .error .form
    | "link", address :: rest => ofWords { s with link := some address } rest
    | "on", [] | "not", [] | "link", [] => .error .form
    | name, rest =>
      match Attribute.ofWord? name with
      | some a => ofWords (s.withAttribute a true) rest
      | none => do ofWords { s with color := some (← colorOf name) } rest

/-- The style of a definition. -/
def parse (definition : String) : Except StyleFault Style :=
  if Text.trim definition = "none" then .ok {} else ofWords {} (words definition.toList)

/-- A style in words: its attributes in their order, its colors and its address. -/
def text (s : Style) : String :=
  let attributes := Attribute.all.filterMap fun a =>
    (s.attributes.lookup a).map fun on => if on then a.name else "not " ++ a.name
  let parts := attributes ++ s.color.toList ++
    (s.background.map ("on " ++ ·)).toList ++ (s.link.map ("link " ++ ·)).toList
  if parts.isEmpty then "none" else " ".intercalate parts

/-- The normal form of a definition: that of its style, or else itself in small letters. -/
def normalForm (definition : String) : Except StyleFault String :=
  match parse definition with
  | .ok s => .ok s.text
  | .error .form => .ok (Text.lower (Text.trim definition))
  | .error fault => .error fault

end Style

end GuidedJson.Display
