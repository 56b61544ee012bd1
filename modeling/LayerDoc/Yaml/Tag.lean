import LayerDoc.Json.Reader
import LayerDoc.Timestamp
import LayerDoc.Yaml.Token

/-!
# Tags of YAML 1.1

The tag of a node says what is to be made of it. A plain scalar without a tag is null, a truth
value, a number, a date or a text, by its form alone. Numbers may be binary, octal, hexadecimal or
in base sixty, and hold underscores; a number with a fraction needs a point, and its exponent a
sign.
-/

namespace LayerDoc.Yaml

/-- The kinds of scalars. -/
inductive Kind where
  | null
  | bool
  | int
  | float
  | binary
  | timestamp
  | text
  deriving DecidableEq, Repr

/-- The kinds of collections. -/
inductive Shape where
  | list
  | map
  | set
  /-- A list of mappings of one entry each, which become pairs. -/
  | pairs
  deriving DecidableEq, Repr

/-- What a tag asks for. -/
inductive Tag where
  | scalar (kind : Kind)
  | collection (shape : Shape)
  /-- The mark of a key whose value is merged in. -/
  | merge
  /-- The mark of a key that gives the value of the mapping around it. -/
  | value
  | unknown
  deriving DecidableEq, Repr

/-! ## Forms of plain scalars -/

namespace Kind

/-- The words for truth values, with what they stand for. -/
def truthWords : List (String × Bool) :=
  [("yes", true), ("no", false), ("true", true), ("false", false), ("on", true), ("off", false)]

/-- The three ways to write a word: small, with a capital, all in capitals. -/
def spellings (word : String) : List String :=
  let cs := word.toList
  [word, String.ofList ((cs.take 1).map Char.toUpper ++ cs.drop 1),
    String.ofList (cs.map Char.toUpper)]

def isTruthWord (s : String) : Bool := truthWords.any fun w => (spellings w.1).contains s

/-- A digit or an underscore. -/
def isDigitOrLine (c : Char) : Bool := c.isDigit || c = '_'

/-- The text after a sign, if there is one. -/
def afterSign : List Char → List Char
  | '-' :: rest => rest
  | '+' :: rest => rest
  | cs => cs

/-- A number from zero to fifty-nine. -/
def isSixtieth : List Char → Bool
  | [a] => a.isDigit
  | [a, b] => '0' ≤ a && a ≤ '5' && b.isDigit
  | _ => false

/-- The parts of a text between colons. -/
def colonParts (cs : List Char) : List (List Char) := cs.splitOn ':'

/-- Digits and underscores that begin with a digit. -/
def isDigits : List Char → Bool
  | [] => false
  | c :: rest => c.isDigit && rest.all isDigitOrLine

/-- A whole number. -/
def isInt (cs : List Char) : Bool :=
  match afterSign cs with
  | ['0'] => true
  | '0' :: 'b' :: rest => !rest.isEmpty && rest.all fun c => c = '0' || c = '1' || c = '_'
  | '0' :: 'x' :: rest => !rest.isEmpty && rest.all fun c => (Json.hexDigit? c).isSome || c = '_'
  | '0' :: rest => !rest.isEmpty && rest.all fun c => ('0' ≤ c && c ≤ '7') || c = '_'
  | cs =>
    match colonParts cs with
    | [] => false
    | [whole] => isDigits whole
    | first :: others => isDigits first && others.all isSixtieth

/-- An exponent with its sign, or nothing. -/
def isExponent : List Char → Bool
  | [] => true
  | e :: sign :: digits =>
    (e = 'e' || e = 'E') && (sign = '-' || sign = '+') && !digits.isEmpty && digits.all (·.isDigit)
  | _ => false

/-- The digits after a point, with an exponent. -/
def isFraction (cs : List Char) : Bool := isExponent (cs.dropWhile isDigitOrLine)

/-- A number with a fraction, infinity or what is no number. -/
def isFloat (cs : List Char) : Bool :=
  let unsigned := afterSign cs
  let whole := unsigned.takeWhile (· ≠ '.')
  match unsigned.dropWhile (· ≠ '.') with
  | [] => false
  | _ :: after =>
    if whole.isEmpty then
      [".inf", ".Inf", ".INF"].contains (String.ofList unsigned) ||
        [".nan", ".NaN", ".NAN"].contains (String.ofList cs) ||
        cs.length = unsigned.length && (after.head?.map (·.isDigit)).getD false && isFraction after
    else
      match colonParts whole with
      | [whole] => isDigits whole && isFraction after
      | first :: others => isDigits first && others.all isSixtieth && after.all isDigitOrLine
      | [] => false

end Kind

/-! ## Forms of dates -/

namespace Date

/-- The number of digits at the front, if there are at least `least` and at most `most`. -/
def digitCount? (least most : Nat) (cs : List Char) : Option Nat :=
  let n := (cs.takeWhile (·.isDigit)).length
  if least ≤ n ∧ n ≤ most then some n else none

/-- A number of a given count of digits, and what follows it. -/
def number? (least most : Nat) (cs : List Char) : Option (Nat × List Char) := do
  let n ← digitCount? least most cs
  return (Json.digitsValue (cs.take n), cs.drop n)

/-- Pass over one character. -/
def expect? (c : Char) : List Char → Option (List Char)
  | d :: rest => if c = d then some rest else none
  | [] => none

def isBlank (c : Char) : Bool := c = ' ' || c = '\t'

/-- The offset from universal time at the end of a point in time. -/
def zone? (cs : List Char) : Option (Option Int) :=
  match cs.dropWhile isBlank with
  | [] => if cs.isEmpty then some none else none
  | ['Z'] => some (some 0)
  | sign :: rest => do
    let negative ← if sign = '-' then some true else if sign = '+' then some false else none
    let (hours, rest) ← number? 1 2 rest
    let minutes ← match rest with
      | [] => some 0
      | ':' :: rest => do
        let (minutes, rest) ← number? 2 2 rest
        if rest.isEmpty then some minutes else none
      | _ => none
    let offset : Int := hours * 60 + minutes
    return some (if negative then -offset else offset)

/-- The time of day in a point in time. Of a fraction six digits count. -/
def time? (cs : List Char) : Option (TimeOfDay × Option Int) := do
  let (hour, rest) ← number? 1 2 cs
  let (minute, rest) ← number? 2 2 (← expect? ':' rest)
  let (second, rest) ← number? 2 2 (← expect? ':' rest)
  let (fraction, rest) : List Char × List Char :=
    match rest with
    | '.' :: rest => (rest.takeWhile (·.isDigit), rest.dropWhile (·.isDigit))
    | rest => ([], rest)
  let micro := Json.digitsValue (fraction.take 6 ++ List.replicate (6 - fraction.length) '0')
  return (⟨hour, minute, second, micro⟩, ← zone? rest)

/-- Read a date, or a point in time. There need not be such a date. -/
def ofChars? (cs : List Char) : Option Timestamp := do
  let (year, rest) ← number? 4 4 cs
  let (month, rest) ← number? 1 2 (← expect? '-' rest)
  let (day, rest) ← number? 1 2 (← expect? '-' rest)
  match rest with
  | [] => some ⟨year, month, day, none, none⟩
  | c :: after =>
    if c = 'T' ∨ c = 't' then
      let (time, zone) ← time? after
      return ⟨year, month, day, some time, zone⟩
    else if isBlank c then
      let (time, zone) ← time? (after.dropWhile isBlank)
      return ⟨year, month, day, some time, zone⟩
    else none

/-- Read a plain scalar as a date. A date alone has two digits for the month and the day then. -/
def ofPlain? (cs : List Char) : Option Timestamp :=
  (ofChars? cs).filter fun t => t.time.isSome || cs.length = 10

end Date

namespace Tag

/-- The front of the names of the tags that have a meaning here. -/
def nameFront : String := "tag:yaml.org,2002:"

/-- The tags by the rest of their names. -/
def named : List (String × Tag) :=
  [("null", .scalar .null), ("bool", .scalar .bool), ("int", .scalar .int),
    ("float", .scalar .float), ("binary", .scalar .binary), ("timestamp", .scalar .timestamp),
    ("str", .scalar .text), ("seq", .collection .list), ("map", .collection .map),
    ("set", .collection .set), ("omap", .collection .pairs), ("pairs", .collection .pairs),
    ("merge", .merge), ("value", .value)]

/-- The tag that has a name. -/
def ofName (name : String) : Tag :=
  match nameFront.toList.isPrefixOf? name.toList with
  | some rest => (named.lookup (String.ofList rest)).getD .unknown
  | none => .unknown

/-- A text without a line feed after its last character. -/
def withoutFeed (s : String) : String :=
  match s.toList.reverse with
  | '\n' :: c :: rest => String.ofList (c :: rest).reverse
  | _ => s

/-- The tag of a plain scalar, by its form. A line feed at its end does not count. -/
def ofText (s : String) : Tag :=
  let s := withoutFeed s
  let cs := s.toList
  if Kind.isTruthWord s then .scalar .bool
  else if Kind.isFloat cs then .scalar .float
  else if Kind.isInt cs then .scalar .int
  else if s = "<<" then .merge
  else if ["", "~", "null", "Null", "NULL"].contains s then .scalar .null
  else if (Date.ofPlain? cs).isSome then .scalar .timestamp
  else if s = "=" then .value
  else .scalar .text

end Tag

end LayerDoc.Yaml
