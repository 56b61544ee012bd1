import LayerDoc.Text.Quoted
import LayerDoc.Value.Plain
import LayerDoc.Yaml.Tag

/-!
# Writing YAML

A value is written in blocks. Lists that are values of a mapping are not indented, empty lists and
mappings are written in brackets. A text is written plainly if it reads back as the same text, else
in single quotes, and in double quotes where only escapes will do; the written form is ASCII.
Scalars are folded at blanks past the eightieth column. Only plain values are written; any other has
the text of its plain form.
-/

namespace LayerDoc.Yaml

/-- What was written, and where it ends. -/
structure Sheet where
  /-- The characters, the last first. -/
  written : List Char
  column : Nat
  /-- Whether the last character separates words. -/
  spaced : Bool
  /-- Whether the line holds nothing but indentation and its indicators. -/
  indented : Bool

namespace Sheet

/-- An empty sheet. -/
def blank : Sheet := ⟨[], 0, true, true⟩

/-- Write some characters on the line. -/
def add (s : Sheet) (cs : List Char) : Sheet :=
  { s with written := cs.reverse ++ s.written, column := s.column + cs.length }

/-- End the line. -/
def endLine (s : Sheet) : Sheet := ⟨'\n' :: s.written, 0, true, true⟩

/-- Go to a column, on a new line if this one is in use. -/
def indentTo (indent : Nat) (s : Sheet) : Sheet :=
  let s :=
    if !s.indented || indent < s.column || (s.column = indent && !s.spaced) then s.endLine else s
  if s.column < indent then { s.add (List.replicate (indent - s.column) ' ') with spaced := true }
  else s

/-- Write an indicator, with a blank in front of it where one is needed. -/
def indicator (s : Sheet) (cs : List Char) (needsSpace keepsIndent : Bool) : Sheet :=
  let t := s.add (if s.spaced || !needsSpace then cs else ' ' :: cs)
  { t with spaced := false, indented := s.indented && keepsIndent }

/-- The text of a sheet. -/
def text (s : Sheet) : String := String.ofList s.written.reverse

end Sheet

/-! ## Forms of a scalar -/

/-- The characters that end a line in a written text. A carriage return is always escaped. -/
def isFeed (c : Char) : Bool := isBreak c && c ≠ '\r'

/-- What a text allows. -/
structure Analysis where
  multiline : Bool
  plain : Bool
  singleQuoted : Bool

/-- Whether a place in a text, between the character before it, if there is one, and the rest after
it, holds something that cannot stand in a plain scalar. -/
def isIndicatorAt (before : Option Char) (ch : Char) (after : List Char) : Bool :=
  let gapAfter := isGap (after.headD '\x00')
  match before with
  | none =>
    "#,[]\x7b\x7d&*!|>'\"%@`".toList.contains ch || ((ch = '?' || ch = ':' || ch = '-') && gapAfter)
  | some b => (ch = ':' && gapAfter) || (ch = '#' && isGap b)

/-- Whether some place in a text holds something that cannot stand in a plain scalar. -/
def hasIndicator : Option Char → List Char → Bool
  | _, [] => false
  | before, ch :: rest => isIndicatorAt before ch rest || hasIndicator (some ch) rest

/-- Whether two neighbours in a text have a property. -/
def hasPair (p : Char → Char → Bool) : List Char → Bool
  | a :: b :: rest => p a b || hasPair p (b :: rest)
  | _ => false

/-- What a text allows. -/
def analyze (cs : List Char) : Analysis :=
  match cs with
  | [] => ⟨false, true, true⟩
  | first :: _ =>
    let last := cs.getLast?.getD first
    let isEdge (c : Char) : Bool := c = ' ' || isFeed c
    let special := cs.any fun c => c ≠ '\n' && !(' ' ≤ c && c ≤ '~')
    let breakThenSpace := hasPair (fun a b => isFeed a && b = ' ') cs
    let spaceThenBreak := hasPair (fun a b => a = ' ' && isFeed b) cs
    let separator := ['-', '-', '-'].isPrefixOf cs || ['.', '.', '.'].isPrefixOf cs
    let multiline := cs.any isFeed
    ⟨multiline,
      !(isEdge first || isEdge last || breakThenSpace || spaceThenBreak || special || multiline ||
        separator || hasIndicator none cs),
      !(breakThenSpace || spaceThenBreak || special)⟩

/-- The forms of a scalar. -/
inductive Style where
  | plain
  | single
  | double
  deriving DecidableEq, Repr

/-- The form of a text, as a key or not. -/
def styleOf (isKey : Bool) (s : String) : Style :=
  let a := analyze s.toList
  if Tag.ofText s = .scalar .text && a.plain && !(isKey && (s.isEmpty || a.multiline)) then .plain
  else if a.singleQuoted && !(isKey && a.multiline) then .single
  else .double

/-- The columns past which a scalar is folded. -/
def foldColumn : Nat := 80

/-- A plain scalar: words and the runs of blanks between them. A single blank past the last column
becomes a line break if the scalar can be folded. -/
def writePlain (canFold : Bool) (indent : Nat) : List (List Char) → Sheet → Sheet
  | [], s => s
  | part :: rest, s =>
    if part = [' '] ∧ foldColumn < s.column ∧ canFold then
      writePlain canFold indent rest { s.indentTo indent with spaced := false, indented := false }
    else writePlain canFold indent rest (s.add part)

/-- The parts of a text of which all characters are alike in a property. -/
def runsOf (p : Char → Nat) (cs : List Char) : List (List Char) := cs.splitBy fun a b => p a = p b

/-- The kinds of characters in a single-quoted scalar: breaks, blanks, all else. -/
def partKind (c : Char) : Nat := if isFeed c then 2 else if c = ' ' then 1 else 0

/-- The parts of a single-quoted scalar. A quote is doubled. A single blank past the last column,
which is neither the first nor the last part, becomes a line break if the scalar can be folded; a
line feed is written as one more line break than there are. -/
def writeSingle (canFold : Bool) (indent : Nat) (isFirst : Bool) : List (List Char) → Sheet → Sheet
  | [], s => s
  | part :: rest, s =>
    let s :=
      match part.map partKind with
      | 2 :: _ =>
        let s := if part.head? = some '\n' then s.endLine else s
        (part.foldl (fun s _ => s.endLine) s).indentTo indent
      | 1 :: _ =>
        if part = [' '] ∧ foldColumn < s.column ∧ canFold ∧ !isFirst ∧ !rest.isEmpty then
          s.indentTo indent
        else s.add part
      | _ => s.add (part.flatMap fun c => if c = '\'' then ['\'', '\''] else [c])
    writeSingle canFold indent false rest s

/-- The escape of a character in double quotes, if it needs one. -/
def doubleEscape? (c : Char) : Option (List Char) :=
  let code := (Text.Surrogate.unit? c).getD c.toNat
  let upperHex (size : Nat) : List Char := (Text.hex size code).map Char.toUpper
  if c = '"' then some ['\\', '"']
  else if c = '\\' then some ['\\', '\\']
  else if ' ' ≤ c ∧ c ≤ '~' then none
  else
    match ([('\x00', '0'), ('\x07', 'a'), ('\x08', 'b'), ('\t', 't'), ('\n', 'n'), ('\x0b', 'v'),
      ('\x0c', 'f'), ('\r', 'r'), ('\x1b', 'e'), ('\u0085', 'N'), ('\u00a0', '_'), ('\u2028', 'L'),
      ('\u2029', 'P')] : List (Char × Char)).lookup c with
    | some letter => some ['\\', letter]
    | none =>
      if code ≤ 0xFF then some ('\\' :: 'x' :: upperHex 2)
      else if code ≤ 0xFFFF then some ('\\' :: 'u' :: upperHex 4)
      else some ('\\' :: 'U' :: upperHex 8)

/-- A double-quoted scalar: the characters that are still to write, those that are held back, and
the place in the text. Past the last column the line is ended with a backslash before a blank or
after an escape; a blank at the start of the next line needs one too. -/
def writeDouble (canFold : Bool) (indent size : Nat) :
    Nat → List Char → List Char → Sheet → Sheet
  | _, held, [], s => s.add held
  | place, held, c :: rest, s =>
    let (held, s, escaped) : List Char × Sheet × Bool :=
      match doubleEscape? c with
      | some escape => ([], (s.add held).add escape, true)
      | none => (held, s, false)
    -- an unescaped character joins the held ones only after the line was looked at
    let endsHere := 0 < place && place + 1 < size && (c = ' ' || escaped || held.isEmpty) &&
      (if escaped then foldColumn + 1 < s.column else foldColumn < s.column + held.length) &&
      canFold
    if endsHere then
      let s := { (s.add (held ++ ['\\'])).indentTo indent with spaced := false, indented := false }
      if escaped then
        let s := if rest.head? = some ' ' then s.add ['\\'] else s
        writeDouble canFold indent size (place + 1) [] rest s
      else
        let s := if c = ' ' then s.add ['\\'] else s
        writeDouble canFold indent size (place + 1) [c] rest s
    else writeDouble canFold indent size (place + 1) (if escaped then [] else held ++ [c]) rest s

/-- A text as a scalar, folded to an indentation. -/
def writeText (isKey : Bool) (indent : Nat) (text : String) (s : Sheet) : Sheet :=
  let cs := text.toList
  match styleOf isKey text with
  | .plain =>
    let s := if s.spaced then s else s.add [' ']
    writePlain (!isKey) indent (runsOf partKind cs) { s with spaced := false, indented := false }
  | .single =>
    let s := s.indicator ['\''] true false
    (writeSingle (!isKey) indent true (runsOf partKind cs) s).indicator ['\''] false false
  | .double =>
    let s := s.indicator ['"'] true false
    (writeDouble (!isKey) indent cs.length 0 [] cs s).indicator ['"'] false false

/-- A scalar that is no text. -/
def writeWord (word : String) (s : Sheet) : Sheet :=
  let s := if s.spaced then s else s.add [' ']
  { s.add word.toList with spaced := false, indented := false }

/-- Numbers are written so that they read back as numbers: with a point before an exponent. -/
def numberLayout : Decimal.Layout :=
  { Decimal.Layout.code with pointBeforeExponent := true, infinite := ".inf", nan := ".nan" }

/-! ## Blocks -/

/-- Whether a key can stand in front of its colon: it is one line, not empty and not too long. -/
def isSimpleKey (key : String) : Bool :=
  !key.isEmpty && !key.toList.any isFeed && key.length + 5 < 128

/-- Where a value stands: at the root, in a list, or in a mapping. -/
inductive Place where
  | root
  | inList
  | inMapping
  deriving DecidableEq, Repr

/-- The indentation inside a block. -/
def inner : Option Nat → Nat
  | none => 0
  | some indent => indent + 2

mutual

/-- A value at a place inside a block with an indentation. -/
def writeValue (place : Place) (indent : Option Nat) : Value → Sheet → Sheet
  | .null, s => writeWord "null" s
  | .bool true, s => writeWord "true" s
  | .bool false, s => writeWord "false" s
  | .int n, s => writeWord (toString n) s
  | .float d, s => writeWord (d.text numberLayout) s
  | .str text, s => writeText false (indent.getD 0 + 2) text s
  | .list [], s => (s.indicator ['['] true false).indicator [']'] false false
  | .list (v :: rest), s =>
    let indent := if place = .inMapping ∧ !s.indented then indent.getD 0 else inner indent
    writeItems indent rest
      (writeValue .inList (some indent) v ((s.indentTo indent).indicator ['-'] true true))
  | .object [], s => (s.indicator ['{'] true false).indicator ['}'] false false
  | .object (e :: rest), s => writeEntries (inner indent) rest (writeEntry (inner indent) e s)
  | _, s => writeWord "null" s

/-- The items of a list. -/
def writeItems (indent : Nat) : List Value → Sheet → Sheet
  | [], s => s
  | v :: rest, s =>
    writeItems indent rest
      (writeValue .inList (some indent) v ((s.indentTo indent).indicator ['-'] true true))

/-- An entry of a mapping. A key that cannot stand in front of its colon is marked as one. -/
def writeEntry (indent : Nat) : String × Value → Sheet → Sheet
  | (key, v), s =>
    let s := s.indentTo indent
    let s :=
      if isSimpleKey key then (writeText true (indent + 2) key s).indicator [':'] false false
      else
        ((writeText false (indent + 2) key (s.indicator ['?'] true true)).indentTo indent).indicator
          [':'] true true
    writeValue .inMapping (some indent) v s

/-- The entries of a mapping. -/
def writeEntries (indent : Nat) : List (String × Value) → Sheet → Sheet
  | [], s => s
  | e :: rest, s => writeEntries indent rest (writeEntry indent e s)

end

/-- The text of a value. -/
def print (v : Value) : String := ((writeValue .root none v.plain Sheet.blank).indentTo 0).text

end LayerDoc.Yaml
