import LineLint.Text.Blank
import LineLint.Text.Case
import LineLint.Text.Decimal
import LineLint.Text.Lines

/-! # Styles

A style is written as words: attributes, colours, `on` before the colour of the background, `not`
before an attribute to switch off, and `link` before an address. The case of a word does not matter,
except after `not` and `link`. A later word overrides an earlier one.

`Style.normalize` brings a style into a standard form, so that it can be closed under another
spelling. Words that are no style are their own standard form, apart from case. -/

namespace LineLint.Screen

/-- Why some words are no style. -/
inductive StyleFault where
  /-- A word means nothing. -/
  | unknownWord
  /-- A part of a colour is no number. -/
  | badNumber
  deriving DecidableEq, Repr

namespace Colour

/-- The colours that have names. -/
def names : List (List Char) := Text.words
    "default black red green yellow blue magenta cyan white bright_black bright_red bright_green
    bright_yellow bright_blue bright_magenta bright_cyan bright_white grey0 gray0 navy_blue
    dark_blue blue3 blue1 dark_green deep_sky_blue4 dodger_blue3 dodger_blue2 green4
    spring_green4 turquoise4 deep_sky_blue3 dodger_blue1 green3 spring_green3 dark_cyan
    light_sea_green deep_sky_blue2 deep_sky_blue1 spring_green2 cyan3 dark_turquoise turquoise2
    green1 spring_green1 medium_spring_green cyan2 cyan1 dark_red deep_pink4 purple4 purple3
    blue_violet orange4 grey37 gray37 medium_purple4 slate_blue3 royal_blue1 chartreuse4
    dark_sea_green4 pale_turquoise4 steel_blue steel_blue3 cornflower_blue chartreuse3
    cadet_blue sky_blue3 steel_blue1 pale_green3 sea_green3 aquamarine3 medium_turquoise
    chartreuse2 sea_green2 sea_green1 aquamarine1 dark_slate_gray2 dark_magenta dark_violet
    purple light_pink4 plum4 medium_purple3 slate_blue1 yellow4 wheat4 grey53 gray53
    light_slate_grey light_slate_gray medium_purple light_slate_blue dark_olive_green3
    dark_sea_green light_sky_blue3 sky_blue2 dark_sea_green3 dark_slate_gray3 sky_blue1
    chartreuse1 light_green pale_green1 dark_slate_gray1 red3 medium_violet_red magenta3
    dark_orange3 indian_red hot_pink3 medium_orchid3 medium_orchid medium_purple2 dark_goldenrod
    light_salmon3 rosy_brown grey63 gray63 medium_purple1 gold3 dark_khaki navajo_white3 grey69
    gray69 light_steel_blue3 light_steel_blue yellow3 dark_sea_green2 light_cyan3
    light_sky_blue1 green_yellow dark_olive_green2 dark_sea_green1 pale_turquoise1 deep_pink3
    magenta2 hot_pink2 orchid medium_orchid1 orange3 light_pink3 pink3 plum3 violet
    light_goldenrod3 tan misty_rose3 thistle3 plum2 khaki3 light_goldenrod2 light_yellow3 grey84
    gray84 light_steel_blue1 yellow2 dark_olive_green1 honeydew2 light_cyan1 red1 deep_pink2
    deep_pink1 magenta1 orange_red1 indian_red1 hot_pink dark_orange salmon1 light_coral
    pale_violet_red1 orchid2 orchid1 orange1 sandy_brown light_salmon1 light_pink1 pink1 plum1
    gold1 navajo_white1 misty_rose1 thistle1 yellow1 light_goldenrod1 khaki1 wheat1 cornsilk1
    grey100 gray100 grey3 gray3 grey7 gray7 grey11 gray11 grey15 gray15 grey19 gray19 grey23
    gray23 grey27 gray27 grey30 gray30 grey35 gray35 grey39 gray39 grey42 gray42 grey46 gray46
    grey50 gray50 grey54 gray54 grey58 gray58 grey62 gray62 grey66 gray66 grey70 gray70 grey74
    gray74 grey78 gray78 grey82 gray82 grey85 gray85 grey89 gray89 grey93 gray93".toList

/-- The content of parentheses after a name. -/
def call? (name : String) (word : List Char) : Option (List Char) :=
  let start := name.toList ++ ['(']
  if start.isPrefixOf word && word.getLast? == some ')' then
    some (word.drop start.length).dropLast
  else none

/-- A number of a colour: up to three digits that make no more than a byte. -/
def isIndex (text : List Char) : Bool :=
  !text.isEmpty && text.length ≤ 3 && text.all Char.isDigit &&
    Text.ofDigits 10 (text.map (·.toNat - 0x30)) ≤ 255

/-- Six hexadecimal digits after a hash. -/
def isHex : List Char → Bool
  | '#' :: digits => digits.length == 6 && digits.all fun c => c.isDigit || ('a' ≤ c && c ≤ 'f')
  | _ => false

/-- The number of digits from which on a component is no number. -/
def maxDigits : Nat := 4300

/-- A component of a colour. -/
def component (text : List Char) : Except StyleFault Nat :=
  match text.mapM Text.digitValue? with
  | some digits =>
    if digits.isEmpty || maxDigits < digits.length then throw .badNumber
    else return Text.ofDigits 10 digits
  | none => throw .badNumber

/-- Three components with commas between them, none of them more than a byte. -/
def isTriple (text : List Char) : Except StyleFault Bool := do
  let parts := Text.cut ',' text
  if text.isEmpty || !(text.all fun c => (Text.digitValue? c).isSome || c == ',') ||
      parts.length != 3 then
    return false
  return (← parts.mapM component).all (· ≤ 255)

/-- Whether a word in lower case is a colour. -/
def recognize (word : List Char) : Except StyleFault Bool :=
  if names.contains word || isHex word || (call? "color" word).any isIndex then return true
  else match call? "rgb" word with
    | some components => isTriple components
    | none => return false

end Colour

/-- The effect of a text with tags on what is inside them. -/
structure Style where
  /-- The attributes that are switched on or off; later ones come first. -/
  attributes : List (String × Bool) := []
  colour : Option (List Char) := none
  background : Option (List Char) := none
  link : Option (List Char) := none
  deriving DecidableEq, Repr

namespace Style

/-- The names of the attributes, with their short names. -/
def attributeNames : List (String × List String) := [
  ("bold", ["b"]), ("dim", ["d"]), ("italic", ["i"]), ("underline", ["u"]), ("blink", []),
  ("blink2", []), ("reverse", ["r"]), ("conceal", ["c"]), ("strike", ["s"]),
  ("underline2", ["uu"]), ("frame", []), ("encircle", []), ("overline", ["o"])]

/-- The full name of an attribute. -/
def attribute? (word : List Char) : Option String :=
  let word := String.ofList word
  (attributeNames.find? fun entry => entry.1 == word || entry.2.contains word).map (·.1)

/-! ## Reading -/

/-- What the next word has to be. -/
inductive Awaited where
  | anything
  | background
  | attribute
  | link
  deriving DecidableEq, Repr

/-- A word that has to be a colour, in lower case. -/
def readColour (word : List Char) : Except StyleFault (List Char) := do
  let word := Text.lower word
  if ← Colour.recognize word then return word else throw .unknownWord

/-- Reads a word at the start of a phrase. -/
def readWord (s : Style) (word : List Char) : Except StyleFault (Style × Awaited) := do
  let word := Text.lower word
  match String.ofList word with
  | "on" => return (s, .background)
  | "not" => return (s, .attribute)
  | "link" => return (s, .link)
  | _ => match attribute? word with
    | some name => return ({ s with attributes := (name, true) :: s.attributes }, .anything)
    | none => return ({ s with colour := some (← readColour word) }, .anything)

/-- Reads the next word. -/
def step (state : Style × Awaited) (word : List Char) : Except StyleFault (Style × Awaited) := do
  let s := state.1
  match state.2 with
  | .anything => s.readWord word
  | .background => return ({ s with background := some (← readColour word) }, .anything)
  | .attribute => match attribute? word with
    | some name => return ({ s with attributes := (name, false) :: s.attributes }, .anything)
    | none => throw .unknownWord
  | .link => return ({ s with link := some word }, .anything)

/-- The style that some words describe. -/
def parse (text : List Char) : Except StyleFault Style := do
  if Text.trim text == "none".toList then return {}
  match ← (Text.words text).foldlM step ({}, .anything) with
  | (s, .anything) => return s
  | _ => throw .unknownWord

/-! ## Writing -/

/-- The words for the attributes, in a fixed order. -/
def attributeWords (s : Style) : List (List Char) :=
  attributeNames.filterMap fun entry =>
    (s.attributes.lookup entry.1).map fun on =>
      (if on then entry.1 else s!"not {entry.1}").toList

/-- The words for a style, in a fixed order. -/
def toWords (s : Style) : List (List Char) :=
  s.attributeWords ++ s.colour.toList ++
    (s.background.map fun colour => ["on".toList, colour]).getD [] ++
    (s.link.map fun link => ["link".toList, link]).getD []

/-- The standard form of a style. -/
def toText (s : Style) : List Char :=
  if s.toWords.isEmpty then "none".toList else Text.glue ' ' s.toWords

/-- The standard form of what is written as a style. -/
def normalize (text : List Char) : Except StyleFault (List Char) :=
  match parse text with
  | .ok s => return s.toText
  | .error .unknownWord => return Text.lower (Text.trim text)
  | .error .badNumber => throw .badNumber

end Style

end LineLint.Screen
