import LayerDoc.Text.Quoted
import LayerDoc.Decimal.Shortest
import LayerDoc.Value

/-!
# Values as text

The text that stands for a value where a text is wanted: a string is its own text, a date is shown
as one, and every other value is a literal, in which strings are quoted. There is none for a value
with a whole number of too many digits in it (`Value.display?`).
-/

namespace LayerDoc

/-- How a byte is written between two `quote`s. -/
def quotedByte (quote : Char) (b : UInt8) : List Char :=
  let c := Char.ofNat b.toNat
  if c = quote ∨ c = '\\' then ['\\', c]
  else if c = '\t' then ['\\', 't']
  else if c = '\n' then ['\\', 'n']
  else if c = '\r' then ['\\', 'r']
  else if 32 ≤ b.toNat ∧ b.toNat < 127 then [c]
  else '\\' :: 'x' :: Text.hex 2 b.toNat

/-- Bytes as a literal: the letter `b`, and the bytes in quotes. -/
def bytesLiteral (content : List UInt8) : String :=
  let quote := Text.quoteFor (content.map fun b => Char.ofNat b.toNat)
  String.ofList ('b' :: quote :: content.flatMap (quotedByte quote) ++ [quote])

namespace Timestamp

/-- An offset as a literal. One that is negative counts as a day before, and the rest. -/
def zoneLiteral (offset : Int) : String :=
  if offset = 0 then "datetime.timezone.utc"
  else
    let days := if offset < 0 then "days=-1, " else ""
    let seconds := if offset < 0 then 86400 + offset * 60 else offset * 60
    "datetime.timezone(datetime.timedelta(" ++ days ++ "seconds=" ++ toString seconds ++ "))"

/-- The numbers of a time of day, without a fraction and seconds that are zero. -/
def timeNumbers (time : TimeOfDay) : List Nat :=
  [time.hour, time.minute] ++
    (if time.micro = 0 then (if time.second = 0 then [] else [time.second])
    else [time.second, time.micro])

/-- A date, or a point in time, as a literal. -/
def literal (t : Timestamp) : String :=
  let numbers (ns : List Nat) : String := String.intercalate ", " (ns.map toString)
  match t.time with
  | none => "datetime.date(" ++ numbers [t.year, t.month, t.day] ++ ")"
  | some time =>
    "datetime.datetime(" ++ numbers ([t.year, t.month, t.day] ++ timeNumbers time) ++
      ((t.zone.map fun offset => ", tzinfo=" ++ zoneLiteral offset).getD "") ++ ")"

/-- A date, or a point in time, as it is shown. -/
def display (t : Timestamp) : String :=
  padded 4 t.year ++ "-" ++ padded 2 t.month ++ "-" ++ padded 2 t.day ++
    match t.time with
    | none => ""
    | some time =>
      " " ++ timeText time ++
        ((t.zone.map fun offset => if offset = 0 then "+00:00" else zoneText offset).getD "")

end Timestamp

/-- A key as a literal. -/
def Key.literal : Key → String
  | .null => "None"
  | .bool true => "True"
  | .bool false => "False"
  | .int n => toString n
  | .float d => d.text .code
  | .str s => Text.quoted s
  | .bytes content => bytesLiteral content
  | .moment t => t.literal

/-- Whether a key can be written as a literal. -/
def Key.hasLiteral : Key → Bool
  | .int n => isWritable n
  | _ => true

namespace Value

mutual

/-- A value as a literal, which counts only if it can be written as one. -/
def literal : Value → String
  | .null => "None"
  | .bool true => "True"
  | .bool false => "False"
  | .int n => toString n
  | .float d => d.text .code
  | .str s => Text.quoted s
  | .list items => "[" ++ String.intercalate ", " (literalItems items) ++ "]"
  | .object es => Text.braced (String.intercalate ", " (literalEntries es))
  | .bytes content => bytesLiteral content
  | .moment t => t.literal
  | .set [] => "set()"
  | .set members => Text.braced (String.intercalate ", " (literalItems members))
  | .mapping es => Text.braced (String.intercalate ", " (literalMapping es))
  | .cycle => "..."

/-- The literals of a list of values. -/
def literalItems : List Value → List String
  | [] => []
  | v :: rest => v.literal :: literalItems rest

/-- The entries of an object as literals. -/
def literalEntries : List (String × Value) → List String
  | [] => []
  | (k, v) :: rest => (Text.quoted k ++ ": " ++ v.literal) :: literalEntries rest

/-- The entries of a mapping as literals. -/
def literalMapping : List (Key × Value) → List String
  | [] => []
  | (k, v) :: rest => (k.literal ++ ": " ++ v.literal) :: literalMapping rest

end

mutual

/-- Whether a value can be written as a literal: no whole number in it has too many digits. -/
def hasLiteral : Value → Bool
  | .int n => isWritable n
  | .list items => itemsHaveLiteral items
  | .object es => entriesHaveLiteral es
  | .set members => itemsHaveLiteral members
  | .mapping es => mappingHasLiteral es
  | _ => true

/-- `hasLiteral` of all items. -/
def itemsHaveLiteral : List Value → Bool
  | [] => true
  | v :: rest => v.hasLiteral && itemsHaveLiteral rest

/-- `hasLiteral` of all entries. -/
def entriesHaveLiteral : List (String × Value) → Bool
  | [] => true
  | (_, v) :: rest => v.hasLiteral && entriesHaveLiteral rest

/-- `hasLiteral` of all entries of a mapping, with their keys. -/
def mappingHasLiteral : List (Key × Value) → Bool
  | [] => true
  | (k, v) :: rest => k.hasLiteral && v.hasLiteral && mappingHasLiteral rest

end

/-- The text that stands for a value, if it has one. -/
def display? : Value → Option String
  | .str s => some s
  | .moment t => some t.display
  | v => if v.hasLiteral then some v.literal else none

end Value

end LayerDoc
