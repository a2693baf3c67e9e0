import TableSchema.Text.Cut
import TableSchema.Text.LetterCase
import TableSchema.Text.Numeral

/-!
# Styles

A style is described in words: effects, which can be denied, a colour, a colour behind `on`, and an address behind
`link`.  `normalForm` describes it in a fixed order, so that two descriptions of a style become the same.
-/

namespace TableSchema.Terminal

open Text

/-! ### Colours -/

/-- The names of colours. -/
def colorNames : List String := [
  "black", "red", "green", "yellow", "blue", "magenta", "cyan", "white", "bright_black", "bright_red",
  "bright_green", "bright_yellow", "bright_blue", "bright_magenta", "bright_cyan", "bright_white", "grey0", "gray0",
  "navy_blue", "dark_blue", "blue3", "blue1", "dark_green", "deep_sky_blue4", "dodger_blue3", "dodger_blue2",
  "green4", "spring_green4", "turquoise4", "deep_sky_blue3", "dodger_blue1", "green3", "spring_green3", "dark_cyan",
  "light_sea_green", "deep_sky_blue2", "deep_sky_blue1", "spring_green2", "cyan3", "dark_turquoise", "turquoise2",
  "green1", "spring_green1", "medium_spring_green", "cyan2", "cyan1", "dark_red", "deep_pink4", "purple4", "purple3",
  "blue_violet", "orange4", "grey37", "gray37", "medium_purple4", "slate_blue3", "royal_blue1", "chartreuse4",
  "dark_sea_green4", "pale_turquoise4", "steel_blue", "steel_blue3", "cornflower_blue", "chartreuse3", "cadet_blue",
  "sky_blue3", "steel_blue1", "pale_green3", "sea_green3", "aquamarine3", "medium_turquoise", "chartreuse2",
  "sea_green2", "sea_green1", "aquamarine1", "dark_slate_gray2", "dark_magenta", "dark_violet", "purple",
  "light_pink4", "plum4", "medium_purple3", "slate_blue1", "yellow4", "wheat4", "grey53", "gray53",
  "light_slate_grey", "light_slate_gray", "medium_purple", "light_slate_blue", "dark_olive_green3", "dark_sea_green",
  "light_sky_blue3", "sky_blue2", "dark_sea_green3", "dark_slate_gray3", "sky_blue1", "chartreuse1", "light_green",
  "pale_green1", "dark_slate_gray1", "red3", "medium_violet_red", "magenta3", "dark_orange3", "indian_red",
  "hot_pink3", "medium_orchid3", "medium_orchid", "medium_purple2", "dark_goldenrod", "light_salmon3", "rosy_brown",
  "grey63", "gray63", "medium_purple1", "gold3", "dark_khaki", "navajo_white3", "grey69", "gray69",
  "light_steel_blue3", "light_steel_blue", "yellow3", "dark_sea_green2", "light_cyan3", "light_sky_blue1",
  "green_yellow", "dark_olive_green2", "dark_sea_green1", "pale_turquoise1", "deep_pink3", "magenta2", "hot_pink2",
  "orchid", "medium_orchid1", "orange3", "light_pink3", "pink3", "plum3", "violet", "light_goldenrod3", "tan",
  "misty_rose3", "thistle3", "plum2", "khaki3", "light_goldenrod2", "light_yellow3", "grey84", "gray84",
  "light_steel_blue1", "yellow2", "dark_olive_green1", "honeydew2", "light_cyan1", "red1", "deep_pink2",
  "deep_pink1", "magenta1", "orange_red1", "indian_red1", "hot_pink", "dark_orange", "salmon1", "light_coral",
  "pale_violet_red1", "orchid2", "orchid1", "orange1", "sandy_brown", "light_salmon1", "light_pink1", "pink1",
  "plum1", "gold1", "navajo_white1", "misty_rose1", "thistle1", "yellow1", "light_goldenrod1", "khaki1", "wheat1",
  "cornsilk1", "grey100", "gray100", "grey3", "gray3", "grey7", "gray7", "grey11", "gray11", "grey15", "gray15",
  "grey19", "gray19", "grey23", "gray23", "grey27", "gray27", "grey30", "gray30", "grey35", "gray35", "grey39",
  "gray39", "grey42", "gray42", "grey46", "gray46", "grey50", "gray50", "grey54", "gray54", "grey58", "gray58",
  "grey62", "gray62", "grey66", "gray66", "grey70", "gray70", "grey74", "gray74", "grey78", "gray78", "grey82",
  "gray82", "grey85", "gray85", "grey89", "gray89", "grey93", "gray93"]

/-- Why words describe no style.  A number that is missing among three is not expected. -/
inductive StyleFault
  | unknownWord
  | missingNumber
deriving DecidableEq

/-- The message of a fault that is not expected. -/
def StyleFault.message : StyleFault → String
  | unknownWord => "unknown word"
  | missingNumber => "invalid literal for int() with base 10: ''"

/-- What stands in the parentheses behind a function. -/
def argument? (function : String) (word : List Char) : Option (List Char) :=
  let opening := (function ++ "(").toList
  if opening.isPrefixOf word && word.getLast? = some ')' then some (word.drop opening.length).dropLast else none

/-- The greatest number in a colour. -/
def maxColorNumber : Nat := 255

/-- Whether text is a colour's number. -/
def isColorNumber (text : List Char) : Bool :=
  text.length ≤ 3 && (readDigits asciiDigit? text).any (· ≤ maxColorNumber)

/-- Whether numbers between commas make up a colour: there are three, none too large. -/
def areColorNumbers (text : List Char) : Except StyleFault Bool := do
  let numbers := cutAt (· = ',') text
  if text.isEmpty || !text.all (fun c => c = ',' || (digitValue? c).isSome) || numbers.length ≠ 3 then return false
  if numbers.any (·.isEmpty) then throw .missingNumber
  return numbers.all fun n => (readDigits digitValue? n).any (· ≤ maxColorNumber)

/-- A colour in lower case: a name, `default`, six hexadecimal digits behind a number sign, one number or three. -/
def readColor (word : List Char) : Except StyleFault (List Char) := do
  let color := lower word
  let isHexDigit (c : Char) := c.isDigit || ('a' ≤ c && c ≤ 'f')
  let isColor ← match color, argument? "color" color, argument? "rgb" color with
    | '#' :: digits, _, _ => pure (digits.length = 6 && digits.all isHexDigit)
    | _, some number, _ => pure (isColorNumber number)
    | _, none, some numbers => areColorNumbers numbers
    | _, none, none => pure (color = "default".toList || colorNames.contains (String.ofList color))
  if isColor then return color else throw .unknownWord

/-! ### Styles -/

/-- A style.  An effect that is not named is left as it is. -/
structure Style where
  effects : List (String × Bool)
  color : Option (List Char)
  background : Option (List Char)
  link : Option (List Char)

/-- The effects in their order. -/
def effectNames : List String := [
  "bold", "dim", "italic", "underline", "blink", "blink2", "reverse", "conceal", "strike", "underline2", "frame",
  "encircle", "overline"]

/-- Short words for effects. -/
def shortEffects : List (String × String) := [
  ("d", "dim"), ("b", "bold"), ("i", "italic"), ("u", "underline"), ("r", "reverse"), ("c", "conceal"), ("s", "strike"),
  ("uu", "underline2"), ("o", "overline")]

/-- The effect that a word stands for. -/
def effect? (word : List Char) : Option String :=
  let word := String.ofList word
  if effectNames.contains word then some word else shortEffects.lookup word

namespace Style

/-- The style that nothing is said about. -/
def plain : Style :=
  ⟨[], none, none, none⟩

/-- What words say about a style, on top of what was said before. -/
def describe (s : Style) : List (List Char) → Except StyleFault Style
  | [] => .ok s
  | word :: rest =>
    let key := lower word
    let single : Except StyleFault Style :=
      match effect? key with
      | some name => describe { s with effects := (name, true) :: s.effects } rest
      | none => do describe { s with color := some (← readColor key) } rest
    match String.ofList key, rest with
    | "on", color :: rest => do describe { s with background := some (← readColor color) } rest
    | "not", word :: rest =>
      match effect? word with
      | some name => describe { s with effects := (name, false) :: s.effects } rest
      | none => .error .unknownWord
    | "link", address :: rest => describe { s with link := some address } rest
    | _, _ => single

/-- A style in words: its effects in order, its colour, its background and its link. -/
def words (s : Style) : List (List Char) :=
  let written (name : String) : Option (List Char) :=
    (s.effects.lookup name).map fun given => if given then name.toList else "not ".toList ++ name.toList
  effectNames.filterMap written ++ s.color.toList ++ (s.background.map ("on ".toList ++ ·)).toList
    ++ (s.link.map ("link ".toList ++ ·)).toList

end Style

/-- A description in its normal form.  One that describes no style is written in lower case. -/
def normalForm (description : List Char) : Except StyleFault (List Char) :=
  match Style.plain.describe ((cutAt isBlank description).filter (· ≠ [])) with
  | .ok s => .ok (List.intercalate [' '] s.words)
  | .error .unknownWord => .ok (lower (trim isBlank description))
  | .error fault => .error fault

end TableSchema.Terminal
