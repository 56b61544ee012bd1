import LayerDoc.Value
import LayerDoc.Decimal.Shortest
import LayerDoc.Text.Quoted

/-!
# Writing JSON

A value is written on one line, as program text or in ASCII, or laid out over lines that hold ASCII
only. On one line the parts of a value and the texts in it are written in a style: program text has
all of Unicode but the control characters stand for itself. A value that cannot stand in program
text has no text at all (`Json.text?`).
-/

namespace LayerDoc.Json

/-- The escape of a UTF-16 unit by its code. -/
def unitEscape (unit : Nat) : List Char := '\\' :: 'u' :: Text.hex 4 unit

/-- The escapes that have a letter, and those of the other control characters. -/
def escaped? (c : Char) : Option (List Char) :=
  if c = '"' then some ['\\', '"']
  else if c = '\\' then some ['\\', '\\']
  else if c = '\n' then some ['\\', 'n']
  else if c = '\r' then some ['\\', 'r']
  else if c = '\t' then some ['\\', 't']
  else if c = '\x08' then some ['\\', 'b']
  else if c = '\x0c' then some ['\\', 'f']
  else if c.toNat < 32 then some (unitEscape c.toNat)
  else none

/-- A character inside quotes, as it is wherever that is possible. -/
def charText (c : Char) : List Char := (escaped? c).getD [c]

/-- A character inside quotes, in ASCII: one escape for each of its UTF-16 units. -/
def charAscii (c : Char) : List Char :=
  match escaped? c, Text.Surrogate.unit? c with
  | some text, _ => text
  | none, some unit => unitEscape unit
  | none, none =>
    let code := c.toNat
    if code < 127 then [c]
    else if code < 0x10000 then unitEscape code
    else
      unitEscape (0xD800 + (code - 0x10000) / 0x400) ++
        unitEscape (0xDC00 + (code - 0x10000) % 0x400)

/-- A text in quotes. -/
def string (s : String) : String := String.ofList ('"' :: s.toList.flatMap charText ++ ['"'])

/-- A text in quotes, in ASCII. -/
def stringAscii (s : String) : String :=
  String.ofList ('"' :: s.toList.flatMap charAscii ++ ['"'])

/-- How a value is written on one line. -/
structure Style where
  /-- A text in quotes. -/
  quoted : String → String
  /-- What stands between parts. -/
  comma : String
  /-- What stands between a key and its value. -/
  colon : String

/-- The style of program text. -/
def Style.code : Style := ⟨string, ",", ":"⟩

/-- The style in which data is compared, which holds ASCII only. -/
def Style.ascii : Style := ⟨stringAscii, ", ", ": "⟩

mutual

/-- The form of a value on one line, which counts only if the value can stand in program text.
Entries whose keys have one text are all written. -/
def line (style : Style) : Value → String
  | .null => "null"
  | .bool true => "true"
  | .bool false => "false"
  | .int n => toString n
  | .float d => d.text .json
  | .str s => style.quoted s
  | .list items => "[" ++ String.intercalate style.comma (lineItems style items) ++ "]"
  | .object es => Text.braced (String.intercalate style.comma (lineEntries style es))
  | .mapping es => Text.braced (String.intercalate style.comma (lineMapping style es))
  | _ => "null"

/-- The forms of a list of values. -/
def lineItems (style : Style) : List Value → List String
  | [] => []
  | v :: rest => line style v :: lineItems style rest

/-- The forms of the entries of an object. -/
def lineEntries (style : Style) : List (String × Value) → List String
  | [] => []
  | (k, v) :: rest => (style.quoted k ++ style.colon ++ line style v) :: lineEntries style rest

/-- The forms of the entries of a mapping. -/
def lineMapping (style : Style) : List (Key × Value) → List String
  | [] => []
  | (k, v) :: rest =>
    (style.quoted (k.json?.getD "") ++ style.colon ++ line style v) :: lineMapping style rest

end

/-- The text of a value in a style, if it has one. -/
def text? (style : Style) (v : Value) : Option String :=
  if v.hasCode then some (line style v) else none

/-- The line break before a part that stands `depth` levels deep, with two blanks a level. -/
def lineBreak (depth : Nat) : String := "\n" ++ String.ofList (List.replicate (2 * depth) ' ')

/-- Parts between two brackets, each on a line of its own. -/
def block (opening closing : String) (depth : Nat) (parts : List String) : String :=
  if parts.isEmpty then opening ++ closing
  else
    opening ++ lineBreak (depth + 1) ++ String.intercalate ("," ++ lineBreak (depth + 1)) parts ++
      lineBreak depth ++ closing

mutual

/-- The form of a plain value over several lines, in ASCII, for a value that stands `depth` levels
deep. -/
def indented (depth : Nat) : Value → String
  | .str s => stringAscii s
  | .list items => block "[" "]" depth (indentedItems (depth + 1) items)
  | .object es => block Text.openBrace Text.closeBrace depth (indentedEntries (depth + 1) es)
  | .bool true => "true"
  | .bool false => "false"
  | .int n => toString n
  | .float d => d.text .json
  | _ => "null"

/-- The forms of a list of values. -/
def indentedItems (depth : Nat) : List Value → List String
  | [] => []
  | v :: rest => indented depth v :: indentedItems depth rest

/-- The forms of the entries of an object. -/
def indentedEntries (depth : Nat) : List (String × Value) → List String
  | [] => []
  | (k, v) :: rest => (stringAscii k ++ ": " ++ indented depth v) :: indentedEntries depth rest

end

end LayerDoc.Json
