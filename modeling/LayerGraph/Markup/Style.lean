import LayerGraph.Text.Case

/-! Style definitions of markup tags and their canonical texts.

Two tags belong together when their definitions have one canonical text: attributes in a fixed
order, then the colours and the link. A definition that is no style stands for itself in lower case. A
colour whose parts are no numbers is no style either, but it is refused.
-/

set_option autoImplicit false

namespace LayerGraph.Markup

open Text

/-- The attributes of a style in canonical order. -/
def attributeNames : List String :=
  ["bold", "dim", "italic", "underline", "blink", "blink2", "reverse", "conceal", "strike",
    "underline2", "frame", "encircle", "overline"]

/-- The attribute that a word or its abbreviation names. -/
def attribute? (word : String) : Option String :=
  match word with
  | "b" => some "bold"
  | "d" => some "dim"
  | "i" => some "italic"
  | "u" => some "underline"
  | "r" => some "reverse"
  | "c" => some "conceal"
  | "s" => some "strike"
  | "uu" => some "underline2"
  | "o" => some "overline"
  | word => if attributeNames.contains word then some word else none

/-- The named colours. -/
def colours : List String := [
  "default", "black", "red", "green", "yellow", "blue", "magenta", "cyan", "white", "bright_black",
  "bright_red", "bright_green", "bright_yellow", "bright_blue", "bright_magenta", "bright_cyan",
  "bright_white", "grey0", "gray0", "navy_blue", "dark_blue", "blue3", "blue1", "dark_green",
  "deep_sky_blue4", "dodger_blue3", "dodger_blue2", "green4", "spring_green4", "turquoise4",
  "deep_sky_blue3", "dodger_blue1", "green3", "spring_green3", "dark_cyan", "light_sea_green",
  "deep_sky_blue2", "deep_sky_blue1", "spring_green2", "cyan3", "dark_turquoise", "turquoise2",
  "green1", "spring_green1", "medium_spring_green", "cyan2", "cyan1", "dark_red", "deep_pink4",
  "purple4", "purple3", "blue_violet", "orange4", "grey37", "gray37", "medium_purple4",
  "slate_blue3", "royal_blue1", "chartreuse4", "dark_sea_green4", "pale_turquoise4", "steel_blue",
  "steel_blue3", "cornflower_blue", "chartreuse3", "cadet_blue", "sky_blue3", "steel_blue1",
  "pale_green3", "sea_green3", "aquamarine3", "medium_turquoise", "chartreuse2", "sea_green2",
  "sea_green1", "aquamarine1", "dark_slate_gray2", "dark_magenta", "dark_violet", "purple",
  "light_pink4", "plum4", "medium_purple3", "slate_blue1", "yellow4", "wheat4", "grey53", "gray53",
  "light_slate_grey", "light_slate_gray", "medium_purple", "light_slate_blue", "dark_olive_green3",
  "dark_sea_green", "light_sky_blue3", "sky_blue2", "dark_sea_green3", "dark_slate_gray3",
  "sky_blue1", "chartreuse1", "light_green", "pale_green1", "dark_slate_gray1", "red3",
  "medium_violet_red", "magenta3", "dark_orange3", "indian_red", "hot_pink3", "medium_orchid3",
  "medium_orchid", "medium_purple2", "dark_goldenrod", "light_salmon3", "rosy_brown", "grey63",
  "gray63", "medium_purple1", "gold3", "dark_khaki", "navajo_white3", "grey69", "gray69",
  "light_steel_blue3", "light_steel_blue", "yellow3", "dark_sea_green2", "light_cyan3",
  "light_sky_blue1", "green_yellow", "dark_olive_green2", "dark_sea_green1", "pale_turquoise1",
  "deep_pink3", "magenta2", "hot_pink2", "orchid", "medium_orchid1", "orange3", "light_pink3",
  "pink3", "plum3", "violet", "light_goldenrod3", "tan", "misty_rose3", "thistle3", "plum2",
  "khaki3", "light_goldenrod2", "light_yellow3", "grey84", "gray84", "light_steel_blue1", "yellow2",
  "dark_olive_green1", "honeydew2", "light_cyan1", "red1", "deep_pink2", "deep_pink1", "magenta1",
  "orange_red1", "indian_red1", "hot_pink", "dark_orange", "salmon1", "light_coral",
  "pale_violet_red1", "orchid2", "orchid1", "orange1", "sandy_brown", "light_salmon1",
  "light_pink1", "pink1", "plum1", "gold1", "navajo_white1", "misty_rose1", "thistle1", "yellow1",
  "light_goldenrod1", "khaki1", "wheat1", "cornsilk1", "grey100", "gray100", "grey3", "gray3",
  "grey7", "gray7", "grey11", "gray11", "grey15", "gray15", "grey19", "gray19", "grey23", "gray23",
  "grey27", "gray27", "grey30", "gray30", "grey35", "gray35", "grey39", "gray39", "grey42",
  "gray42", "grey46", "gray46", "grey50", "gray50", "grey54", "gray54", "grey58", "gray58",
  "grey62", "gray62", "grey66", "gray66", "grey70", "gray70", "grey74", "gray74", "grey78",
  "gray78", "grey82", "gray82", "grey85", "gray85", "grey89", "gray89", "grey93", "gray93"]

/-- A part of a colour that is no number. -/
inductive ColourDefect where
  | emptyPart
  /-- A number of more digits than are read. -/
  | longPart (digits : Nat)
  deriving DecidableEq, Repr

/-- The longest number that is read. -/
def ColourDefect.digitLimit : Nat := 4300

def ColourDefect.message : ColourDefect → String
  | .emptyPart => "invalid literal for int() with base 10: ''"
  | .longPart digits =>
    "Exceeds the limit (4300 digits) for integer string conversion: value has " ++ toString digits
      ++ " digits; use sys.set_int_max_str_digits() to increase the limit"

/-- A decimal digit of any series. -/
def isDecimal (c : Char) : Bool := isDigit (plainDigit c)

/-- The number that a part of a colour stands for. -/
def colourPart (part : List Char) : Except ColourDefect Nat :=
  let digits := (trimList isBlank part).map plainDigit
  if digits.isEmpty then .error .emptyPart
  else if ColourDefect.digitLimit < digits.length then .error (.longPart digits.length)
  else .ok (decimalValue digits)

/-- The text between an opening and a closing part. -/
private def between? (opening : String) (text : List Char) : Option (List Char) :=
  let front := text.take opening.length
  if String.ofList front = opening && text.getLast? = some ')' then
    some (text.drop opening.length).dropLast
  else none

/-- Whether a word in lower case names a colour: by name, by number or by its parts. -/
def isColour (word : String) : Except ColourDefect Bool :=
  if colours.contains word then .ok true
  else
    match word.toList with
    | '#' :: digits => .ok (digits.length = 6 && digits.all fun c => (hexValue? c).isSome)
    | text =>
      match between? "color(" text, between? "rgb(" text with
      | some digits, _ =>
        .ok (!digits.isEmpty && digits.length ≤ 3 && digits.all isDigit && decimalValue digits ≤ 255)
      | _, some [] => .ok false
      | _, some parts =>
        if parts.all fun c => isDecimal c || isBlank c || c = ',' then
          match ((String.ofList parts).splitOn ",").map String.toList with
          | [red, green, blue] => do
            return [← colourPart red, ← colourPart green, ← colourPart blue].all (· ≤ 255)
          | _ => .ok false
        else .ok false
      | none, none => .ok false

/-- A style under construction. -/
structure Style where
  attributes : List (String × Bool) := []
  colour : Option String := none
  background : Option String := none
  link : Option String := none

/-- What a word of a definition begins, in any case. -/
inductive StyleWord where
  | background
  | negation
  | link
  | style (word : String)

def StyleWord.ofText (word : String) : StyleWord :=
  match lower word with
  | "on" => .background
  | "not" => .negation
  | "link" => .link
  | word => .style word

/-- Read the words of a style definition. -/
def Style.ofWords? (style : Style) : List String → Except ColourDefect (Option Style)
  | [] => .ok (some style)
  | word :: words =>
    match StyleWord.ofText word, words with
    | .background, colour :: words => do
      if ← isColour (lower colour) then
        Style.ofWords? { style with background := some (lower colour) } words
      else return none
    | .negation, word :: words =>
      match attribute? word with
      | some name =>
        Style.ofWords? { style with attributes := (name, false) :: style.attributes } words
      | none => .ok none
    | .link, url :: words => Style.ofWords? { style with link := some url } words
    | .style word, words =>
      match attribute? word with
      | some name =>
        Style.ofWords? { style with attributes := (name, true) :: style.attributes } words
      | none => do
        if ← isColour word then Style.ofWords? { style with colour := some word } words
        else return none
    | _, [] => .ok none

/-- The canonical text of a style. -/
def Style.text (style : Style) : String :=
  let flags := attributeNames.filterMap fun name =>
    (style.attributes.lookup name).map fun on => if on then name else "not " ++ name
  let words := flags ++ style.colour.toList
    ++ (style.background.map ("on " ++ ·)).toList ++ (style.link.map ("link " ++ ·)).toList
  if words.isEmpty then "none" else join " " words

/-- Split a text at blanks. -/
def words (text : String) : List String :=
  (((text.toList.splitBy fun a b => isBlank a = isBlank b).filter fun part =>
    !(part.head?.map isBlank |>.getD true))).map String.ofList

/-- The style of a definition; a definition without words is a style that changes nothing. -/
def Style.ofText? (definition : String) : Except ColourDefect (Option Style) :=
  if strip definition = "none" then .ok (some {}) else Style.ofWords? {} (words definition)

/-- The text under which a tag is opened and closed. -/
def canonical (definition : String) : Except ColourDefect String := do
  match ← Style.ofText? definition with
  | some style => return style.text
  | none => return lower (strip definition)

end LayerGraph.Markup
