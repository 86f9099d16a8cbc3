import StyleLinter.Text.Numeral
import StyleLinter.Text.Blank

/-!
# Style definitions

A tag in marked-up text names a style: a list of attributes, colours and a link, such as `bold red
on white`. Colours are not shown here, but **two spellings of one style close each other**: `[b]` is
closed by `[/bold]`. So a definition has a normal form, with the attributes in a fixed order, then
the colour, the background and the link. A word that is no style is only folded to lower case.
-/

namespace StyleLinter.Console.Style

/-- The attributes, in the order of the normal form, each with its abbreviations. -/
def attributes : List (Text × List Text) :=
  [("bold", ["b"]), ("dim", ["d"]), ("italic", ["i"]), ("underline", ["u"]), ("blink", []),
    ("blink2", []), ("reverse", ["r"]), ("conceal", ["c"]), ("strike", ["s"]),
    ("underline2", ["uu"]), ("frame", []), ("encircle", []), ("overline", ["o"])]

/-- The attribute that a word names, in full or abbreviated. -/
def attribute? (word : Text) : Option Text :=
  (attributes.find? fun (name, short) ↦ name == word || short.contains word).map (·.1)

/-- The words of a text, cut at blanks. -/
def words (t : Text) : List Text :=
  (Text.pieces ' ' (t.map fun c ↦ if Text.isBlank c then ' ' else c)).filter (!·.isEmpty)

/-- The named colours. -/
def colours : List Text := words "
  black red green yellow blue magenta cyan white bright_black bright_red bright_green
  bright_yellow bright_blue bright_magenta bright_cyan bright_white grey0 gray0 navy_blue
  dark_blue blue3 blue1 dark_green deep_sky_blue4 dodger_blue3 dodger_blue2 green4 spring_green4
  turquoise4 deep_sky_blue3 dodger_blue1 green3 spring_green3 dark_cyan light_sea_green
  deep_sky_blue2 deep_sky_blue1 spring_green2 cyan3 dark_turquoise turquoise2 green1
  spring_green1 medium_spring_green cyan2 cyan1 dark_red deep_pink4 purple4 purple3 blue_violet
  orange4 grey37 gray37 medium_purple4 slate_blue3 royal_blue1 chartreuse4 dark_sea_green4
  pale_turquoise4 steel_blue steel_blue3 cornflower_blue chartreuse3 cadet_blue sky_blue3
  steel_blue1 pale_green3 sea_green3 aquamarine3 medium_turquoise chartreuse2 sea_green2
  sea_green1 aquamarine1 dark_slate_gray2 dark_magenta dark_violet purple light_pink4 plum4
  medium_purple3 slate_blue1 yellow4 wheat4 grey53 gray53 light_slate_grey light_slate_gray
  medium_purple light_slate_blue dark_olive_green3 dark_sea_green light_sky_blue3 sky_blue2
  dark_sea_green3 dark_slate_gray3 sky_blue1 chartreuse1 light_green pale_green1 dark_slate_gray1
  red3 medium_violet_red magenta3 dark_orange3 indian_red hot_pink3 medium_orchid3 medium_orchid
  medium_purple2 dark_goldenrod light_salmon3 rosy_brown grey63 gray63 medium_purple1 gold3
  dark_khaki navajo_white3 grey69 gray69 light_steel_blue3 light_steel_blue yellow3
  dark_sea_green2 light_cyan3 light_sky_blue1 green_yellow dark_olive_green2 dark_sea_green1
  pale_turquoise1 deep_pink3 magenta2 hot_pink2 orchid medium_orchid1 orange3 light_pink3 pink3
  plum3 violet light_goldenrod3 tan misty_rose3 thistle3 plum2 khaki3 light_goldenrod2
  light_yellow3 grey84 gray84 light_steel_blue1 yellow2 dark_olive_green1 honeydew2 light_cyan1
  red1 deep_pink2 deep_pink1 magenta1 orange_red1 indian_red1 hot_pink dark_orange salmon1
  light_coral pale_violet_red1 orchid2 orchid1 orange1 sandy_brown light_salmon1 light_pink1
  pink1 plum1 gold1 navajo_white1 misty_rose1 thistle1 yellow1 light_goldenrod1 khaki1 wheat1
  cornsilk1 grey100 gray100 grey3 gray3 grey7 gray7 grey11 gray11 grey15 gray15 grey19 gray19
  grey23 gray23 grey27 gray27 grey30 gray30 grey35 gray35 grey39 gray39 grey42 gray42 grey46
  gray46 grey50 gray50 grey54 gray54 grey58 gray58 grey62 gray62 grey66 gray66 grey70 gray70
  grey74 gray74 grey78 gray78 grey82 gray82 grey85 gray85 grey89 gray89 grey93 gray93"

/-- The hexadecimal digits of a colour. -/
def isHexDigit (c : Char) : Bool := ('0' ≤ c && c ≤ '9') || ('a' ≤ c && c ≤ 'f')

/-- One of the three parts of a colour given by its parts: a number up to 255. -/
def isColourPart (t : Text) : Bool :=
  !t.isEmpty && t.all (Text.isDigit ·) && Text.valueOf t ≤ 255

/-- Is the lower-case word a colour: a name, six hexadecimal digits, a number or three parts? -/
def isColour (word : Text) : Bool :=
  word == "default" || colours.contains word
    || (match Text.after? "#" word with
      | some digits => digits.length == 6 && digits.all isHexDigit
      | none => false)
    || (match Text.after? "color(" word with
      | some rest =>
        let digits := rest.dropLast
        Text.endsWith rest ")" && 1 ≤ digits.length && digits.length ≤ 3 && digits.all Char.isDigit
          && Text.valueOf digits ≤ 255
      | none => false)
    || (match Text.after? "rgb(" word with
      | some rest =>
        let parts := Text.pieces ',' rest.dropLast
        Text.endsWith rest ")" && parts.length == 3 && parts.all isColourPart
      | none => false)

/-- A style. -/
structure Definition where
  /-- The attributes that are set, with what they are set to; the last setting counts. -/
  set : List (Text × Bool)
  /-- The colour. -/
  colour : Option Text
  /-- The colour of the background. -/
  background : Option Text
  /-- The address that the text links to. -/
  link : Option Text

/-- The word in lower case. Style words are ASCII, and so is the folding. -/
def lower (t : Text) : Text := t.map Char.toLower

/-- Reads the words of a definition on top of what was read before. -/
def read (d : Definition) : List Text → Option Definition
  | [] => some d
  | w :: ws =>
    if lower w = "on".toList then
      match ws with
      | c :: rest => if isColour (lower c) then read { d with background := lower c } rest else none
      | [] => none
    else if lower w = "not".toList then
      match ws with
      | a :: rest =>
        match attribute? a with
        | some name => read { d with set := (name, false) :: d.set } rest
        | none => none
      | [] => none
    else if lower w = "link".toList then
      match ws with
      | address :: rest => read { d with link := address } rest
      | [] => none
    else
      match attribute? (lower w) with
      | some name => read { d with set := (name, true) :: d.set } ws
      | none => if isColour (lower w) then read { d with colour := lower w } ws else none

/-- The words of the normal form. -/
def Definition.words (d : Definition) : List Text :=
  (attributes.filterMap fun (name, _) ↦
      (d.set.lookup name).map fun on ↦ if on then name else "not ".toList ++ name)
    ++ d.colour.toList ++ (d.background.map ("on ".toList ++ ·)).toList
    ++ (d.link.map ("link ".toList ++ ·)).toList

/-- The normal form of a style definition; a text that defines no style is trimmed and folded. -/
def normalize (t : Text) : Text :=
  match read ⟨[], none, none, none⟩ (if Text.trim t = "none".toList then [] else words t) with
  | some d => if d.words.isEmpty then "none" else Text.joinWith " " d.words
  | none => lower (Text.trim t)

end StyleLinter.Console.Style
