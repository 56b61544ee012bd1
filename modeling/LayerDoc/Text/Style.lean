import LayerDoc.Json.Reader
import LayerDoc.Text.Character

/-!
# Styles

A style is written in words: attributes such as `bold`, which may be negated, a colour, a colour of
the ground, and a link. One style can be written in many ways; each has one usual form. What is no
style is its own usual form.
-/

namespace LayerDoc.Text

/-- A style: its attributes, the last one first, its colours and its link. -/
structure Style where
  attributes : List (String × Bool)
  color : Option (List Char)
  ground : Option (List Char)
  link : Option (List Char)
  deriving DecidableEq, Repr

namespace Style

/-- A style in which nothing is set. -/
def plain : Style := ⟨[], none, none, none⟩

/-- Why words are no style. -/
inductive Fault where
  /-- They are something else. -/
  | unknown
  /-- A colour of three parts lacks a number. -/
  | broken
  deriving DecidableEq, Repr

/-- The attributes, in the order of the usual form. -/
def attributeNames : List String :=
  ["bold", "dim", "italic", "underline", "blink", "blink2", "reverse", "conceal", "strike",
    "underline2", "frame", "encircle", "overline"]

/-- The short names of attributes. -/
def shortNames : List (String × String) :=
  [("d", "dim"), ("b", "bold"), ("i", "italic"), ("u", "underline"), ("r", "reverse"),
    ("c", "conceal"), ("s", "strike"), ("uu", "underline2"), ("o", "overline")]

/-- The attribute that a word names. -/
def attribute? (word : List Char) : Option String :=
  let word := String.ofList word
  if attributeNames.contains word then some word else shortNames.lookup word

/-! ## Colours -/

/-- The names of colours. -/
def colorNames : List (List Char) :=
  (colorText.toList.splitOnP fun c => c = ' ' || c = '\n').filter (!·.isEmpty)
where
  colorText : String := "
  black red green yellow blue magenta cyan white bright_black bright_red bright_green
  bright_yellow bright_blue bright_magenta bright_cyan bright_white grey0 gray0 navy_blue
  dark_blue blue3 blue1 dark_green deep_sky_blue4 dodger_blue3 dodger_blue2 green4 spring_green4
  turquoise4 deep_sky_blue3 dodger_blue1 green3 spring_green3 dark_cyan light_sea_green
  deep_sky_blue2 deep_sky_blue1 spring_green2 cyan3 dark_turquoise turquoise2 green1
  spring_green1 medium_spring_green cyan2 cyan1 dark_red deep_pink4 purple4 purple3 blue_violet
  orange4 grey37 gray37 medium_purple4 slate_blue3 royal_blue1 chartreuse4 dark_sea_green4
  pale_turquoise4 steel_blue steel_blue3 cornflower_blue chartreuse3 cadet_blue sky_blue3
  steel_blue1 pale_green3 sea_green3 aquamarine3 medium_turquoise chartreuse2 sea_green2
  sea_green1 aquamarine1 dark_slate_gray2 dark_magenta dark_violet purple light_pink4 plum4
  medium_purple3 slate_blue1 yellow4 wheat4 grey53 gray53 light_slate_grey light_slate_gray
  medium_purple light_slate_blue dark_olive_green3 dark_sea_green light_sky_blue3 sky_blue2
  dark_sea_green3 dark_slate_gray3 sky_blue1 chartreuse1 light_green pale_green1
  dark_slate_gray1 red3 medium_violet_red magenta3 dark_orange3 indian_red hot_pink3
  medium_orchid3 medium_orchid medium_purple2 dark_goldenrod light_salmon3 rosy_brown grey63
  gray63 medium_purple1 gold3 dark_khaki navajo_white3 grey69 gray69 light_steel_blue3
  light_steel_blue yellow3 dark_sea_green2 light_cyan3 light_sky_blue1 green_yellow
  dark_olive_green2 dark_sea_green1 pale_turquoise1 deep_pink3 magenta2 hot_pink2 orchid
  medium_orchid1 orange3 light_pink3 pink3 plum3 violet light_goldenrod3 tan misty_rose3
  thistle3 plum2 khaki3 light_goldenrod2 light_yellow3 grey84 gray84 light_steel_blue1 yellow2
  dark_olive_green1 honeydew2 light_cyan1 red1 deep_pink2 deep_pink1 magenta1 orange_red1
  indian_red1 hot_pink dark_orange salmon1 light_coral pale_violet_red1 orchid2 orchid1 orange1
  sandy_brown light_salmon1 light_pink1 pink1 plum1 gold1 navajo_white1 misty_rose1 thistle1
  yellow1 light_goldenrod1 khaki1 wheat1 cornsilk1 grey100 gray100 grey3 gray3 grey7 gray7
  grey11 gray11 grey15 gray15 grey19 gray19 grey23 gray23 grey27 gray27 grey30 gray30 grey35
  gray35 grey39 gray39 grey42 gray42 grey46 gray46 grey50 gray50 grey54 gray54 grey58 gray58
  grey62 gray62 grey66 gray66 grey70 gray70 grey74 gray74 grey78 gray78 grey82 gray82 grey85
  gray85 grey89 gray89 grey93 gray93
"

/-- The text between a front and a closing bracket at the end. -/
def inBrackets? (front : String) (cs : List Char) : Option (List Char) :=
  (front.toList.isPrefixOf? cs).bind fun rest =>
    if rest.getLast? = some ')' then some rest.dropLast else none

/-- The number of a colour part, if it is small enough. -/
def isPart (cs : List Char) : Bool := Json.digitsValue (cs.map usualDigit) ≤ 255

/-- Whether a word in small letters is a colour: a name, six digits in base sixteen after a number
sign, a number up to 255, or three of them. -/
def isColor (word : List Char) : Except Fault Bool :=
  if word = "default".toList ∨ colorNames.contains word then .ok true
  else
    match word, inBrackets? "color(" word, inBrackets? "rgb(" word with
    | '#' :: digits, _, _ =>
      .ok (digits.length = 6 && digits.all fun c => (Json.hexDigit? c).isSome)
    | _, some digits, _ =>
      .ok (!digits.isEmpty && digits.length ≤ 3 && digits.all (·.isDigit) && isPart digits)
    | _, none, some inside =>
      if inside.isEmpty || !inside.all fun c => c = ',' || (digit? c).isSome then .ok false
      else
        let parts := inside.splitOn ','
        if parts.length ≠ 3 then .ok false
        else if parts.any (·.isEmpty) then .error .broken
        else .ok (parts.all isPart)
    | _, none, none => .ok false

/-- The name of a colour. -/
def colorName (word : List Char) : Except Fault (List Char) := do
  let word := lower word
  if ← isColor word then return word else throw .unknown

/-! ## Words -/

/-- Read the words of a style, after those that were read before. -/
def readWords : List (List Char) → Style → Except Fault Style
  | [], s => .ok s
  | [word], s => do
    match attribute? (lower word) with
    | some name => return { s with attributes := (name, true) :: s.attributes }
    | none => return { s with color := some (← colorName word) }
  | word :: next :: rest, s => do
    let name := String.ofList (lower word)
    if name = "on" then readWords rest { s with ground := some (← colorName next) }
    else if name = "not" then
      match attribute? next with
      | some name => readWords rest { s with attributes := (name, false) :: s.attributes }
      | none => throw .unknown
    else if name = "link" then readWords rest { s with link := some next }
    else
      match attribute? (lower word) with
      | some name => readWords (next :: rest) { s with attributes := (name, true) :: s.attributes }
      | none => readWords (next :: rest) { s with color := some (← colorName word) }

/-- The words of a text. -/
def wordsOf (cs : List Char) : List (List Char) := (cs.splitOnP isBlank).filter (!·.isEmpty)

/-- Read a style. -/
def read (cs : List Char) : Except Fault Style :=
  if trim cs = "none".toList then .ok plain else readWords (wordsOf cs) plain

/-- The words of a style in the usual order. -/
def words (s : Style) : List (List Char) :=
  (attributeNames.flatMap fun name =>
    match s.attributes.lookup name with
    | some true => [name.toList]
    | some false => ["not".toList, name.toList]
    | none => []) ++
    s.color.toList ++ (s.ground.map fun c => ["on".toList, c]).getD [] ++
    (s.link.map fun l => ["link".toList, l]).getD []

/-- The usual form of a style. -/
def text (s : Style) : List Char :=
  if s.words.isEmpty then "none".toList else [' '].intercalate s.words

/-- The usual form of the style that a text names. What is no style is in small letters, without
blanks around it; there is no form of a broken colour. -/
def usual? (cs : List Char) : Option (List Char) :=
  match read cs with
  | .ok s => some s.text
  | .error .unknown => some (lower (trim cs))
  | .error .broken => none

end Style

end LayerDoc.Text
