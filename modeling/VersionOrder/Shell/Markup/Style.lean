import VersionOrder.Numeral.Loose
import VersionOrder.Text.Case
import VersionOrder.Text.Cut
import VersionOrder.Text.Runs

/-!
# Names of styles

A style is named by words: effects, a colour, a colour of the ground, and a link. Styles with the
same effect have one normal name; what names no style is its own normal name, in lower case.

## Main definitions

- `Markup.normalName`: the normal name of a style
-/

namespace VersionOrder

namespace Markup

/-- The effects, in the order of a normal name. -/
def effects : List String :=
  ["bold", "dim", "italic", "underline", "blink", "blink2", "reverse", "conceal", "strike",
   "underline2", "frame", "encircle", "overline"]

/-- The short names of effects. -/
def effectLetters : List (String × String) :=
  [("d", "dim"), ("b", "bold"), ("i", "italic"), ("u", "underline"), ("r", "reverse"),
   ("c", "conceal"), ("s", "strike"), ("uu", "underline2"), ("o", "overline")]

/-- The effect that a word names. -/
def effect? (word : Text) : Option String :=
  let word := String.ofList word
  match effectLetters.lookup word with
  | some effect => some effect
  | none => if effects.contains word then some word else none

/-- The colours with names. -/
def colours : List String :=
  ["black", "red", "green", "yellow", "blue", "magenta", "cyan", "white", "bright_black",
   "bright_red", "bright_green", "bright_yellow", "bright_blue", "bright_magenta", "bright_cyan",
   "bright_white", "grey0", "gray0", "navy_blue", "dark_blue", "blue3", "blue1", "dark_green",
   "deep_sky_blue4", "dodger_blue3", "dodger_blue2", "green4", "spring_green4", "turquoise4",
   "deep_sky_blue3", "dodger_blue1", "green3", "spring_green3", "dark_cyan", "light_sea_green",
   "deep_sky_blue2", "deep_sky_blue1", "spring_green2", "cyan3", "dark_turquoise", "turquoise2",
   "green1", "spring_green1", "medium_spring_green", "cyan2", "cyan1", "dark_red", "deep_pink4",
   "purple4", "purple3", "blue_violet", "orange4", "grey37", "gray37", "medium_purple4",
   "slate_blue3", "royal_blue1", "chartreuse4", "dark_sea_green4", "pale_turquoise4",
   "steel_blue", "steel_blue3", "cornflower_blue", "chartreuse3", "cadet_blue", "sky_blue3",
   "steel_blue1", "pale_green3", "sea_green3", "aquamarine3", "medium_turquoise", "chartreuse2",
   "sea_green2", "sea_green1", "aquamarine1", "dark_slate_gray2", "dark_magenta", "dark_violet",
   "purple", "light_pink4", "plum4", "medium_purple3", "slate_blue1", "yellow4", "wheat4",
   "grey53", "gray53", "light_slate_grey", "light_slate_gray", "medium_purple",
   "light_slate_blue", "dark_olive_green3", "dark_sea_green", "light_sky_blue3", "sky_blue2",
   "dark_sea_green3", "dark_slate_gray3", "sky_blue1", "chartreuse1", "light_green",
   "pale_green1", "dark_slate_gray1", "red3", "medium_violet_red", "magenta3", "dark_orange3",
   "indian_red", "hot_pink3", "medium_orchid3", "medium_orchid", "medium_purple2",
   "dark_goldenrod", "light_salmon3", "rosy_brown", "grey63", "gray63", "medium_purple1",
   "gold3", "dark_khaki", "navajo_white3", "grey69", "gray69", "light_steel_blue3",
   "light_steel_blue", "yellow3", "dark_sea_green2", "light_cyan3", "light_sky_blue1",
   "green_yellow", "dark_olive_green2", "dark_sea_green1", "pale_turquoise1", "deep_pink3",
   "magenta2", "hot_pink2", "orchid", "medium_orchid1", "orange3", "light_pink3", "pink3",
   "plum3", "violet", "light_goldenrod3", "tan", "misty_rose3", "thistle3", "plum2", "khaki3",
   "light_goldenrod2", "light_yellow3", "grey84", "gray84", "light_steel_blue1", "yellow2",
   "dark_olive_green1", "honeydew2", "light_cyan1", "red1", "deep_pink2", "deep_pink1",
   "magenta1", "orange_red1", "indian_red1", "hot_pink", "dark_orange", "salmon1", "light_coral",
   "pale_violet_red1", "orchid2", "orchid1", "orange1", "sandy_brown", "light_salmon1",
   "light_pink1", "pink1", "plum1", "gold1", "navajo_white1", "misty_rose1", "thistle1",
   "yellow1", "light_goldenrod1", "khaki1", "wheat1", "cornsilk1", "grey100", "gray100", "grey3",
   "gray3", "grey7", "gray7", "grey11", "gray11", "grey15", "gray15", "grey19", "gray19",
   "grey23", "gray23", "grey27", "gray27", "grey30", "gray30", "grey35", "gray35", "grey39",
   "gray39", "grey42", "gray42", "grey46", "gray46", "grey50", "gray50", "grey54", "gray54",
   "grey58", "gray58", "grey62", "gray62", "grey66", "gray66", "grey70", "gray70", "grey74",
   "gray74", "grey78", "gray78", "grey82", "gray82", "grey85", "gray85", "grey89", "gray89",
   "grey93", "gray93"]

/-- What is inside a call, such as the numbers of a colour. -/
def callArgument? (name : String) (word : Text) : Option Text :=
  let start := name.toList ++ ['(']
  if start.isPrefixOf word && word.getLast? = some ')' then
    some (word.drop start.length).dropLast
  else
    none

/-- Whether three numbers with commas between them name a colour; each of them has to be written. -/
def isComponents (s : Text) : Except NumeralFault Bool :=
  if !s.isEmpty && s.all (fun c => (Numeral.asciiDigit? c).isSome || c = ',') then
    match Text.splitAt ',' s with
    | [red, green, blue] => do
      let values ← [red, green, blue].mapM (Numeral.parse 10)
      return values.all (· ≤ 255)
    | _ => .ok false
  else
    .ok false

/-- Whether a word in lower case names a colour: by its name, its number, or its parts. -/
def isColour (word : Text) : Except NumeralFault Bool :=
  if word = "default".toList || colours.contains (String.ofList word) then .ok true
  else
    match word, callArgument? "color" word, callArgument? "rgb" word with
    | '#' :: digits, _, _ =>
      .ok (digits.length = 6 && digits.all fun c => (Numeral.digitIn? 16 c).isSome)
    | _, some digits, _ =>
      .ok (!digits.isEmpty && digits.length ≤ 3 && digits.all Char.isDigit &&
        Numeral.value digits ≤ 255)
    | _, none, some parts => isComponents parts
    | _, none, none => .ok false

/-- A style, by its parts. -/
structure Style where
  /-- The effects that are set, or set to nothing. -/
  effects : List (String × Bool) := []
  colour? : Option Text := none
  ground? : Option Text := none
  link? : Option Text := none
  deriving DecidableEq, Repr

namespace Style

/-- A style with one more effect. -/
def withEffect (style : Style) (effect : String) (isSet : Bool) : Style :=
  { style with effects := (effect, isSet) :: style.effects }

/-- The normal name of a style. -/
def name (style : Style) : Text :=
  let effect (word : String) : List Text :=
    match style.effects.lookup word with
    | some true => [word.toList]
    | some false => ["not".toList, word.toList]
    | none => []
  let words := Markup.effects.flatMap effect ++ style.colour?.toList ++
    (style.ground?.toList.flatMap fun colour => ["on".toList, colour]) ++
    (style.link?.toList.flatMap fun link => ["link".toList, link])
  if words.isEmpty then "none".toList else [' '].intercalate words

/-- The style that words name, if they do. -/
def ofWords (style : Style) : List Text → Except NumeralFault (Option Style)
  | [] => .ok (some style)
  | first :: rest => do
    let word := Text.lower first
    if word = "on".toList then
      match rest with
      | [] => return none
      | colour :: rest =>
        if ← isColour (Text.lower colour) then
          ofWords { style with ground? := some (Text.lower colour) } rest
        else
          return none
    else if word = "not".toList then
      match rest with
      | [] => return none
      | effect :: rest =>
        match effect? effect with
        | some effect => ofWords (style.withEffect effect false) rest
        | none => return none
    else if word = "link".toList then
      match rest with
      | [] => return none
      | link :: rest => ofWords { style with link? := some link } rest
    else
      match effect? word with
      | some effect => ofWords (style.withEffect effect true) rest
      | none =>
        if ← isColour word then ofWords { style with colour? := some word } rest
        else return none

end Style

/-- The words of a text, without the blanks between them. -/
def words (s : Text) : List Text :=
  ((Text.runs Text.isBlank s).filter fun (blank, _) => !blank).map Prod.snd

/-- The normal name of a style; what names none is taken in lower case. -/
def normalName (s : Text) : Except NumeralFault Text := do
  if Text.trim s = "none".toList then return "none".toList
  else
    match ← Style.ofWords {} (words s) with
    | some style => return style.name
    | none => return Text.lower (Text.trim s)

end Markup

end VersionOrder
