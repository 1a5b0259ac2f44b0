import RubyStubs.Console.Emoji
import RubyStubs.Text.Numeral

namespace RubyStubs.Console

inductive MarkupError where
  | nothingOpen
  | notOpen (tag : String)
  | badNumber
  | badParameters
  deriving DecidableEq, Repr

def attributeNames : List (String × String) :=
  [("bold", "b"), ("dim", "d"), ("italic", "i"), ("underline", "u"), ("blink", "blink"),
   ("blink2", "blink2"), ("reverse", "r"), ("conceal", "c"), ("strike", "s"), ("underline2", "uu"),
   ("frame", "frame"), ("encircle", "encircle"), ("overline", "o")]

def attributeOf? (word : List Char) : Option String :=
  let w := String.ofList word
  (attributeNames.find? fun (name, short) => w == name || w == short).map (·.1)

def colourTable : List String :=
  ["black red green yellow blue magenta cyan white bright_black bright_red bright_green",
   "bright_yellow bright_blue bright_magenta bright_cyan bright_white grey0 gray0 navy_blue",
   "dark_blue blue3 blue1 dark_green deep_sky_blue4 dodger_blue3 dodger_blue2 green4",
   "spring_green4 turquoise4 deep_sky_blue3 dodger_blue1 green3 spring_green3 dark_cyan",
   "light_sea_green deep_sky_blue2 deep_sky_blue1 spring_green2 cyan3 dark_turquoise turquoise2",
   "green1 spring_green1 medium_spring_green cyan2 cyan1 dark_red deep_pink4 purple4 purple3",
   "blue_violet orange4 grey37 gray37 medium_purple4 slate_blue3 royal_blue1 chartreuse4",
   "dark_sea_green4 pale_turquoise4 steel_blue steel_blue3 cornflower_blue chartreuse3",
   "cadet_blue sky_blue3 steel_blue1 pale_green3 sea_green3 aquamarine3 medium_turquoise",
   "chartreuse2 sea_green2 sea_green1 aquamarine1 dark_slate_gray2 dark_magenta dark_violet",
   "purple light_pink4 plum4 medium_purple3 slate_blue1 yellow4 wheat4 grey53 gray53",
   "light_slate_grey light_slate_gray medium_purple light_slate_blue dark_olive_green3",
   "dark_sea_green light_sky_blue3 sky_blue2 dark_sea_green3 dark_slate_gray3 sky_blue1",
   "chartreuse1 light_green pale_green1 dark_slate_gray1 red3 medium_violet_red magenta3",
   "dark_orange3 indian_red hot_pink3 medium_orchid3 medium_orchid medium_purple2 dark_goldenrod",
   "light_salmon3 rosy_brown grey63 gray63 medium_purple1 gold3 dark_khaki navajo_white3 grey69",
   "gray69 light_steel_blue3 light_steel_blue yellow3 dark_sea_green2 light_cyan3",
   "light_sky_blue1 green_yellow dark_olive_green2 dark_sea_green1 pale_turquoise1 deep_pink3",
   "magenta2 hot_pink2 orchid medium_orchid1 orange3 light_pink3 pink3 plum3 violet",
   "light_goldenrod3 tan misty_rose3 thistle3 plum2 khaki3 light_goldenrod2 light_yellow3 grey84",
   "gray84 light_steel_blue1 yellow2 dark_olive_green1 honeydew2 light_cyan1 red1 deep_pink2",
   "deep_pink1 magenta1 orange_red1 indian_red1 hot_pink dark_orange salmon1 light_coral",
   "pale_violet_red1 orchid2 orchid1 orange1 sandy_brown light_salmon1 light_pink1 pink1 plum1",
   "gold1 navajo_white1 misty_rose1 thistle1 yellow1 light_goldenrod1 khaki1 wheat1 cornsilk1",
   "grey100 gray100 grey3 gray3 grey7 gray7 grey11 gray11 grey15 gray15 grey19 gray19 grey23",
   "gray23 grey27 gray27 grey30 gray30 grey35 gray35 grey39 gray39 grey42 gray42 grey46 gray46",
   "grey50 gray50 grey54 gray54 grey58 gray58 grey62 gray62 grey66 gray66 grey70 gray70 grey74",
   "gray74 grey78 gray78 grey82 gray82 grey85 gray85 grey89 gray89 grey93 gray93"]

def between? (opening : String) (word : List Char) : Option (List Char) :=
  if opening.toList.isPrefixOf word then withoutEnd? ")" (word.drop opening.toList.length) else none

def isColour (word : List Char) : Except MarkupError Bool :=
  let isByte (n : List Char) : Bool := (Text.integer? (String.ofList n)).any (· ≤ 255)
  if word == "default".toList || colourTable.any fun l => (Text.split ' ' l.toList).contains word then
    .ok true
  else if word.head? == some '#' then
    .ok (word.length == 7 && (Text.hexNumber? (word.drop 1)).isSome)
  else
    match between? "color(" word, between? "rgb(" word with
    | some n, _ => .ok (n.all Char.isDigit && n.length ≤ 3 && isByte n)
    | none, some ns =>
      let numbers := Text.split ',' ns
      if ns.all (fun c => c == ',' || (Text.digit? c).isSome) && numbers.length == 3 then
        if numbers.contains [] then .error .badNumber else .ok (numbers.all isByte)
      else .ok false
    | none, none => .ok false

structure StyleName where
  attributes : List (String × Bool) := []
  colour : Option (List Char) := none
  background : Option (List Char) := none
  link : Option (List Char) := none

namespace StyleName

def isPlain (s : StyleName) : Bool :=
  s.attributes.isEmpty && s.colour.isNone && s.background.isNone && s.link.isNone

def words (s : StyleName) : List (List Char) :=
  let attributes := attributeNames.filterMap fun (name, _) =>
    (s.attributes.find? (·.1 == name)).map fun (_, on) => ((if on then "" else "not ") ++ name).toList
  attributes ++ s.colour.toList ++ (s.background.map ("on ".toList ++ ·)).toList ++
    (s.link.map ("link ".toList ++ ·)).toList

def toText (s : StyleName) : List Char :=
  if s.isPlain then "none".toList else [' '].intercalate s.words

def read (s : StyleName) : List (List Char) → Except MarkupError (Option StyleName)
  | [] => .ok (some s)
  | w :: rest =>
    let word := w.map lower
    if word == "on".toList then
      match rest with
      | [] => .ok none
      | c :: rest => do
        let c := c.map lower
        if ← isColour c then read { s with background := some c } rest else return none
    else if word == "not".toList then
      match rest with
      | [] => .ok none
      | a :: rest =>
        match attributeOf? a with
        | some name => read { s with attributes := (name, false) :: s.attributes } rest
        | none => .ok none
    else if word == "link".toList then
      match rest with
      | [] => .ok none
      | url :: rest => read { s with link := some url } rest
    else
      match attributeOf? word with
      | some name => read { s with attributes := (name, true) :: s.attributes } rest
      | none => do
        if ← isColour word then read { s with colour := some word } rest else return none

end StyleName

def trimmed (cs : List Char) : List Char := (Text.trim (String.ofList cs)).toList

def wordsOf (cs : List Char) : List (List Char) :=
  (Text.split ' ' (cs.map fun c => if Text.isBlank c then ' ' else c)).filter (!·.isEmpty)

def canonical (name : List Char) : Except MarkupError (List Char) := do
  if trimmed name == "none".toList then return "none".toList
  match ← StyleName.read {} (wordsOf name) with
  | some s => return s.toText
  | none => return (trimmed name).map lower

end RubyStubs.Console
