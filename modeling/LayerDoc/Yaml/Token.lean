import LayerDoc.Json.Reader
import LayerDoc.Text.Encoding
import LayerDoc.Yaml.Cursor

/-!
# Tokens of YAML

A text is read as a list of tokens. Indentation becomes tokens of its own, which open and close
the blocks. That a piece of text is the key of a mapping is known only at the colon after it, so
the tokens that open a key are put in front of it then; a key that is not marked as one must be on
one line and no longer than 1024 characters. A text that is not well formed gives the tokens that
are certain before the place where that shows.
-/

namespace LayerDoc.Yaml

/-- Why a scalar, or an escape in one, stands for no value. -/
inductive ScalarFault where
  /-- It does not have the form that is asked for. -/
  | wrongForm
  /-- It stands for a number that is too large. -/
  | tooLarge
  /-- It is none of the words for truth values. -/
  | unknownWord
  /-- A number is asked for, and it is empty. -/
  | noDigits
  /-- A date is asked for, and it is none. -/
  | noDate
  /-- A date is asked for, and it is given in parts. -/
  | dateInParts
  deriving DecidableEq, Repr

/-- Why a text cannot be read. -/
inductive Error where
  /-- The text is not well formed, or asks for what there is not. -/
  | malformed
  /-- A scalar stands for no value. -/
  | scalar (fault : ScalarFault)
  deriving DecidableEq, Repr

/-- The tokens of a text. -/
inductive Token where
  | directive (name : String) (value : List String)
  | documentStart
  | documentEnd
  | sequenceStart
  | mappingStart
  | blockEnd
  | flowSequenceStart
  | flowSequenceEnd
  | flowMappingStart
  | flowMappingEnd
  | flowEntry
  | blockEntry
  | key
  | value
  | alias (name : String)
  | anchor (name : String)
  /-- A tag, its handle apart; one that is written in full has none. -/
  | tag (handle : Option String) (suffix : String)
  | scalar (text : List Char) (isPlain : Bool)
  deriving DecidableEq, Repr

/-- A place at which a key that is not marked as one may have begun. -/
structure KeyPlace where
  token : Nat
  required : Bool
  index : Nat
  line : Nat
  column : Nat

/-- What is known while a text is read. -/
structure Scan where
  cursor : Cursor
  tokens : Array Token
  flowLevel : Nat
  /-- The column of the block that is open; `-1` if there is none. -/
  indent : Int
  indents : List Int
  keyAllowed : Bool
  /-- The place of a key at each level of brackets, if there may be one. -/
  keyPlaces : List (Nat × KeyPlace)
  /-- Whether the end of the text was reached. -/
  atEnd : Bool

namespace Scan

/-- The start of a text. -/
def start (cs : List Char) : Scan := ⟨Cursor.start cs, #[], 0, -1, [], true, [], false⟩

def inFlow (s : Scan) : Bool := s.flowLevel ≠ 0

def push (s : Scan) (t : Token) : Scan := { s with tokens := s.tokens.push t }

/-- The column, for comparisons with an indentation. -/
def column (s : Scan) : Int := s.cursor.column

/-- Put a token in front of the token with a number. -/
def insertToken (s : Scan) (n : Nat) (t : Token) : Scan :=
  { s with tokens := (s.tokens.toList.take n ++ t :: s.tokens.toList.drop n).toArray }

/-- Give up the places at which a key can no longer have begun. -/
def dropStaleKeys (s : Scan) : Except Error Scan :=
  let stale (k : KeyPlace) : Bool := k.line ≠ s.cursor.line || 1024 < s.cursor.index - k.index
  if s.keyPlaces.any fun k => stale k.2 && k.2.required then .error .malformed
  else .ok { s with keyPlaces := s.keyPlaces.filter fun k => !stale k.2 }

/-- Give up the place of a key at the present level. -/
def dropKey (s : Scan) : Except Error Scan :=
  match s.keyPlaces.lookup s.flowLevel with
  | some k =>
    if k.required then .error .malformed
    else .ok { s with keyPlaces := s.keyPlaces.filter (·.1 ≠ s.flowLevel) }
  | none => .ok s

/-- Note that a key may begin here. -/
def noteKey (s : Scan) : Except Error Scan :=
  if s.keyAllowed then do
    let required := !s.inFlow && s.indent = s.column
    let s ← s.dropKey
    let c := s.cursor
    let place : KeyPlace := ⟨s.tokens.size, required, c.index, c.line, c.column⟩
    return { s with keyPlaces := (s.flowLevel, place) :: s.keyPlaces }
  else .ok s

/-- Close the blocks that stand further to the right than a column. -/
def closeTo (column : Int) : List Int → Scan → Scan
  | [], s => s
  | outer :: more, s =>
    if column < s.indent then
      closeTo column more
        { s with indent := outer, indents := more, tokens := s.tokens.push .blockEnd }
    else s

/-- Close the blocks that end before a column. Between brackets indentation does not count. -/
def unwind (s : Scan) (column : Int) : Scan :=
  if s.inFlow then s else closeTo column s.indents s

/-- Open a block at a column, if it stands further to the right than the one that is open. -/
def openAt (s : Scan) (column : Int) : Option Scan :=
  if s.indent < column then some { s with indents := s.indent :: s.indents, indent := column }
  else none

/-- Open a block at the present column with a token. -/
def openBlock (s : Scan) (t : Token) : Scan :=
  match s.openAt s.column with
  | some opened => opened.push t
  | none => s

end Scan

/-! ## Scalars -/

/-- The line breaks and blanks that follow, from the start of a line: the further breaks, the
position after them, and whether a line that separates documents begins there. -/
def furtherBreaks : Nat → Cursor → List Char → List Char × Cursor × Bool
  | 0, c, acc => (acc.reverse, c, true)
  | fuel + 1, c, acc =>
    if c.peek = ' ' then furtherBreaks fuel c.forward acc
    else
      match c.lineBreak? with
      | some (b, c) =>
        if c.atSeparator then (acc.reverse, c, true) else furtherBreaks fuel c (b :: acc)
      | none => (acc.reverse, c, false)

/-- What line breaks between two parts of a scalar stand for: a single one for a blank. -/
def foldBreaks (first : Char) (further : List Char) : List Char :=
  if first ≠ '\n' then first :: further else if further.isEmpty then [' '] else further

/-- The blanks after a part of a plain scalar: what they stand for if the scalar goes on, which is
nothing if it cannot; the position after them; and whether a line ended. -/
def plainGap (c : Cursor) : List Char × Cursor × Bool :=
  let (spaces, c) := c.run (· = ' ')
  match c.lineBreak? with
  | none => (spaces, c, false)
  | some (first, c) =>
    if c.atSeparator then ([], c, true)
    else
      let (further, c, atEnd) := furtherBreaks (c.rest.length + 1) c []
      (if atEnd then [] else foldBreaks first further, c, true)

/-- Whether a plain scalar ends at a character, given the one after it. -/
def endsPlain (inFlow : Bool) (ch next : Char) : Bool :=
  isGap ch || (ch = ':' && (isGap next || (inFlow && [',', '[', ']', '{', '}'].contains next))) ||
    (inFlow && [',', '?', '[', ']', '{', '}'].contains ch)

/-- The length of the part of a plain scalar that begins a list of characters. -/
def plainLength (inFlow : Bool) : List Char → Nat
  | [] => 0
  | ch :: rest =>
    if endsPlain inFlow ch (rest.headD '\x00') then 0 else plainLength inFlow rest + 1

/-- A plain scalar: its characters, the last first, the position after it, and whether a key may
begin there. -/
def scanPlain (inFlow : Bool) (indent : Int) :
    Nat → Cursor → List Char → List Char → Bool → List Char × Cursor × Bool
  | 0, c, acc, _, keyAllowed => (acc, c, keyAllowed)
  | fuel + 1, c, acc, gap, keyAllowed =>
    if c.peek = '#' then (acc, c, keyAllowed)
    else
      let size := plainLength inFlow c.rest
      if size = 0 then (acc, c, keyAllowed)
      else
        let acc := (gap ++ c.rest.take size).reverseAux acc
        let (gap, c, lineEnded) := plainGap (c.forwardBy size)
        if gap.isEmpty || c.peek = '#' || (!inFlow && (c.column : Int) < indent) then
          (acc, c, lineEnded)
        else scanPlain inFlow indent fuel c acc gap lineEnded

/-- The line breaks inside quotes, from the start of a line. Blanks around them do not count, and
no line that separates documents may begin. -/
def quotedBreaks : Nat → Cursor → List Char → Except Error (List Char × Cursor)
  | 0, _, _ => .error .malformed
  | fuel + 1, c, acc =>
    if c.atSeparator then .error .malformed
    else
      let c := (c.run fun ch => ch = ' ' || ch = '\t').2
      match c.lineBreak? with
      | some (b, c) => quotedBreaks fuel c (b :: acc)
      | none => .ok (acc.reverse, c)

/-- Blanks and line breaks inside quotes, and what they stand for. -/
def quotedGap (c : Cursor) : Except Error (List Char × Cursor) :=
  let (spaces, c) := c.run fun ch => ch = ' ' || ch = '\t'
  if c.peek = '\x00' then .error .malformed
  else
    match c.lineBreak? with
    | none => .ok (spaces, c)
    | some (first, c) => do
      let (further, c) ← quotedBreaks (c.rest.length + 1) c []
      return (foldBreaks first further, c)

/-- The character that a letter after a backslash stands for. -/
def letterEscape? (c : Char) : Option Char :=
  match c with
  | '0' => some '\x00'
  | 'a' => some '\x07'
  | 'b' => some '\x08'
  | 't' => some '\t'
  | '\t' => some '\t'
  | 'n' => some '\n'
  | 'v' => some '\x0b'
  | 'f' => some '\x0c'
  | 'r' => some '\r'
  | 'e' => some '\x1b'
  | ' ' => some ' '
  | '"' => some '"'
  | '\\' => some '\\'
  | '/' => some '/'
  | 'N' => some '\u0085'
  | '_' => some '\u00a0'
  | 'L' => some '\u2028'
  | 'P' => some '\u2029'
  | _ => none

/-- The number of hexadecimal digits after a letter that asks for them. -/
def codeEscape? (c : Char) : Option Nat :=
  match c with
  | 'x' => some 2
  | 'u' => some 4
  | 'U' => some 8
  | _ => none

/-- The number that hexadecimal digits stand for. -/
def hexValue? (cs : List Char) : Option Nat :=
  cs.foldlM (fun n c => (Json.hexDigit? c).map (n * 16 + ·)) 0

/-- The character of a code; there is none from `0x110000` on. -/
def charOfCode (code : Nat) : Except Error Char :=
  if Nat.pow 2 31 ≤ code then .error (.scalar .tooLarge)
  else if 0x110000 ≤ code then .error (.scalar .wrongForm)
  else .ok (Text.Surrogate.ofCode code)

/-- A part of a quoted scalar without blanks, in single or in double quotes. The characters of the
scalar are given the last first. -/
def quotedPart (isDouble : Bool) : Nat → Cursor → List Char → Except Error (List Char × Cursor)
  | 0, _, _ => .error .malformed
  | fuel + 1, c, acc =>
    let (cs, c) := c.run fun ch => !(isGap ch || ch = '\'' || ch = '"' || ch = '\\')
    let acc := cs.reverseAux acc
    let ch := c.peek
    if !isDouble && ch = '\'' && c.peekAt 1 = '\'' then
      quotedPart isDouble fuel (c.forwardBy 2) ('\'' :: acc)
    else if (isDouble && ch = '\'') || (!isDouble && (ch = '"' || ch = '\\')) then
      quotedPart isDouble fuel c.forward (ch :: acc)
    else if isDouble && ch = '\\' then
      let c := c.forward
      match letterEscape? c.peek, codeEscape? c.peek with
      | some e, _ => quotedPart isDouble fuel c.forward (e :: acc)
      | none, some size => do
        let c := c.forward
        let ds := c.rest.take size
        if ds.length < size then throw .malformed
        match hexValue? ds with
        | none => throw .malformed
        | some code => quotedPart isDouble fuel (c.forwardBy size) ((← charOfCode code) :: acc)
      | none, none =>
        match c.lineBreak? with
        | none => .error .malformed
        | some (_, c) => do
          let (breaks, c) ← quotedBreaks (c.rest.length + 1) c []
          quotedPart isDouble fuel c (breaks.reverseAux acc)
    else .ok (acc, c)

/-- The parts of a quoted scalar up to the closing quote, the last character first. -/
def quotedParts (isDouble : Bool) (quote : Char) :
    Nat → Cursor → List Char → Except Error (List Char × Cursor)
  | 0, _, _ => .error .malformed
  | fuel + 1, c, acc => do
    let (acc, c) ← quotedPart isDouble (c.rest.length + 1) c acc
    if c.peek = quote then return (acc, c.forward)
    let (gap, c) ← quotedGap c
    quotedParts isDouble quote fuel c (gap.reverseAux acc)

/-- A quoted scalar, from its opening quote on. -/
def scanQuoted (c : Cursor) : Except Error (List Char × Cursor) :=
  let quote := c.peek
  (quotedParts (quote = '"') quote (c.rest.length + 1) c.forward []).map fun (cs, c) =>
    (cs.reverse, c)

/-- How the line breaks at the end of a block scalar are kept. -/
inductive Chomping where
  | strip
  | clip
  | keep
  deriving DecidableEq, Repr

def Chomping.ofChar? (c : Char) : Option Chomping :=
  if c = '+' then some .keep else if c = '-' then some .strip else none

/-- A digit from one to nine. -/
def stepDigit? (c : Char) : Option Nat :=
  if '1' ≤ c ∧ c ≤ '9' then some (c.toNat - '0'.toNat) else none

/-- The signs after the indicator of a block scalar: how its end is kept, and its indentation. -/
def blockHeader (c : Cursor) : Except Error (Chomping × Option Nat × Cursor) := do
  let (chomping, step, c) : Chomping × Option Nat × Cursor :=
    match Chomping.ofChar? c.peek with
    | some chomping =>
      let c := c.forward
      match stepDigit? c.peek with
      | some n => (chomping, some n, c.forward)
      | none => (chomping, none, c)
    | none =>
      match stepDigit? c.peek with
      | some n =>
        let c := c.forward
        match Chomping.ofChar? c.peek with
        | some chomping => (chomping, some n, c.forward)
        | none => (.clip, some n, c)
      | none => (.clip, none, c)
  if !isSpaceOrEnd c.peek then throw .malformed
  let c := c.skipSpaces.skipComment
  if !isLineEnd c.peek then throw .malformed
  return (chomping, step, (c.lineBreak?.map Prod.snd).getD c)

/-- The empty lines at the start of a block scalar: their breaks, and the furthest column that a
blank reaches. -/
def blockIndentation : Nat → Cursor → List Char → Nat → List Char × Nat × Cursor
  | 0, c, acc, furthest => (acc.reverse, furthest, c)
  | fuel + 1, c, acc, furthest =>
    if c.peek = ' ' then
      let c := c.forward
      blockIndentation fuel c acc (max furthest c.column)
    else
      match c.lineBreak? with
      | some (b, c) => blockIndentation fuel c (b :: acc) furthest
      | none => (acc.reverse, furthest, c)

/-- Go right to a column, over blanks only. -/
def indentTo (indent : Nat) : Nat → Cursor → Cursor
  | 0, c => c
  | fuel + 1, c => if c.column < indent ∧ c.peek = ' ' then indentTo indent fuel c.forward else c

/-- The empty lines inside a block scalar. -/
def blockBreaks (indent : Nat) : Nat → Cursor → List Char → List Char × Cursor
  | 0, c, acc => (acc.reverse, c)
  | fuel + 1, c, acc =>
    let c := indentTo indent indent c
    match c.lineBreak? with
    | some (b, c) => blockBreaks indent fuel c (b :: acc)
    | none => (acc.reverse, c)

/-- The lines of a block scalar. In a folded one a single break between two lines that begin with
no blank becomes a blank. The characters are given the last first; the last break and the empty
lines after it are handed back apart. -/
def blockLines (isFolded : Bool) (indent : Nat) :
    Nat → Cursor → List Char → List Char → List Char × List Char × List Char × Cursor
  | 0, c, acc, breaks => (acc, [], breaks, c)
  | fuel + 1, c, acc, breaks =>
    let startsText := c.peek ≠ ' ' ∧ c.peek ≠ '\t'
    let (line, c) := c.run fun ch => !isLineEnd ch
    let acc := (breaks ++ line).reverseAux acc
    let (lineEnd, c) : List Char × Cursor :=
      match c.lineBreak? with
      | some (b, c) => ([b], c)
      | none => ([], c)
    let (breaks, c) := blockBreaks indent (c.rest.length + 1) c []
    if c.column = indent ∧ c.peek ≠ '\x00' then
      let joined :=
        if isFolded ∧ lineEnd = ['\n'] ∧ startsText ∧ c.peek ≠ ' ' ∧ c.peek ≠ '\t' then
          if breaks.isEmpty then [' '] else []
        else lineEnd
      blockLines isFolded indent fuel c (joined.reverseAux acc) breaks
    else (acc, lineEnd, breaks, c)

/-- A block scalar, from its indicator on, in a block that stands at `indent`. -/
def scanBlock (indent : Int) (c : Cursor) : Except Error (List Char × Cursor) := do
  let isFolded := c.peek = '>'
  let (chomping, step, c) ← blockHeader c.forward
  let least := (max (indent + 1) 1).toNat
  let (breaks, column, c) : List Char × Nat × Cursor :=
    match step with
    | none =>
      let (breaks, furthest, c) := blockIndentation (c.rest.length + 1) c [] 0
      (breaks, max least furthest, c)
    | some n =>
      let (breaks, c) := blockBreaks (least + n - 1) (c.rest.length + 1) c []
      (breaks, least + n - 1, c)
  let (text, lineEnd, breaks, c) : List Char × List Char × List Char × Cursor :=
    if c.column = column ∧ c.peek ≠ '\x00' then
      blockLines isFolded column (c.rest.length + 1) c [] breaks
    else ([], [], breaks, c)
  let tail :=
    match chomping with
    | .strip => []
    | .clip => lineEnd
    | .keep => lineEnd ++ breaks
  return (text.reverseAux tail, c)

/-! ## Names, tags and directives -/

/-- A character of a name. -/
def isNameChar (c : Char) : Bool := c.isAlphanum || c = '-' || c = '_'

/-- A character of a tag. -/
def isTagChar (c : Char) : Bool :=
  isNameChar c || ";/?:@&=+$,.!~*'()[]%".toList.contains c

/-- The name of an anchor or an alias, after its sign. -/
def scanName (c : Cursor) : Except Error (String × Cursor) :=
  let (cs, c) := c.forward.run isNameChar
  if cs.isEmpty then .error .malformed
  else if isGap c.peek || ['?', ':', ',', ']', '}', '%', '@', '\x60'].contains c.peek then
    .ok (String.ofList cs, c)
  else .error .malformed

/-- Replace the escapes by number in a tag, each of which stands for a byte. The bytes of escapes
that follow one another are given; together they must be text. -/
def tagText (bytes : List UInt8) : List Char → Option (List Char)
  | '%' :: a :: b :: rest => do tagText (bytes ++ [UInt8.ofNat (← hexValue? [a, b])]) rest
  | '%' :: _ => none
  | c :: rest => do return (← Text.ofUtf8? bytes).toList ++ c :: (← tagText [] rest)
  | [] => (Text.ofUtf8? bytes).map String.toList

/-- The part of a tag after its handle. -/
def scanSuffix (c : Cursor) : Except Error (String × Cursor) :=
  let (cs, c) := c.run isTagChar
  match tagText [] cs with
  | some (first :: rest) => .ok (String.ofList (first :: rest), c)
  | _ => .error .malformed

/-- The handle of a tag: an exclamation mark, or a name between two. -/
def scanHandle (c : Cursor) : Except Error (String × Cursor) :=
  if c.peek ≠ '!' then .error .malformed
  else if c.peekAt 1 = ' ' then .ok ("!", c.forward)
  else
    let (cs, after) := c.forward.run isNameChar
    if after.peek = '!' then .ok (String.ofList ('!' :: cs ++ ['!']), after.forward)
    else .error .malformed

/-- A tag. -/
def scanTag (c : Cursor) : Except Error (Token × Cursor) := do
  let ch := c.peekAt 1
  let (handle, suffix, c) : Option String × String × Cursor ←
    if ch = '<' then do
      let (suffix, c) ← scanSuffix (c.forwardBy 2)
      if c.peek ≠ '>' then throw Error.malformed
      pure (none, suffix, c.forward)
    else if isGap ch then pure (none, "!", c.forward)
    else do
      let word := c.forward.rest.takeWhile fun ch => !isSpaceOrEnd ch
      let (handle, c) ← if word.contains '!' then scanHandle c else pure ("!", c.forward)
      let (suffix, c) ← scanSuffix c
      pure (some handle, suffix, c)
  if !isSpaceOrEnd c.peek then throw .malformed
  return (.tag handle suffix, c)

/-- The version in a directive. -/
def scanVersion (c : Cursor) : Except Error (List String × Cursor) := do
  let (major, c) := c.skipSpaces.run (·.isDigit)
  if major.isEmpty || c.peek ≠ '.' then throw .malformed
  let (minor, c) := c.forward.run (·.isDigit)
  if minor.isEmpty || !isSpaceOrEnd c.peek then throw .malformed
  return ([String.ofList major, String.ofList minor], c)

/-- The handle and what it stands for in a directive. -/
def scanHandleValue (c : Cursor) : Except Error (List String × Cursor) := do
  let (handle, c) ← scanHandle c.skipSpaces
  if c.peek ≠ ' ' then throw .malformed
  let (meaning, c) ← scanSuffix c.skipSpaces
  if !isSpaceOrEnd c.peek then throw .malformed
  return ([handle, meaning], c)

/-- A directive. One that is not known is passed over. -/
def scanDirective (c : Cursor) : Except Error (Token × Cursor) := do
  let (name, c) := c.forward.run isNameChar
  if name.isEmpty || !isSpaceOrEnd c.peek then throw .malformed
  let name := String.ofList name
  let (value, c) ←
    if name = "YAML" then scanVersion c
    else if name = "TAG" then scanHandleValue c
    else pure ([], (c.run fun ch => !isLineEnd ch).2)
  let c := c.skipSpaces.skipComment
  if !isLineEnd c.peek then throw .malformed
  return (.directive name value, (c.lineBreak?.map Prod.snd).getD c)

/-! ## Tokens -/

namespace Scan

/-- Skip blanks, comments and empty lines. In a block a key may begin on every new line. -/
def skipToToken : Nat → Scan → Scan
  | 0, s => s
  | fuel + 1, s =>
    let c := s.cursor.skipSpaces.skipComment
    match c.lineBreak? with
    | some (_, c) =>
      skipToToken fuel { s with cursor := c, keyAllowed := if s.inFlow then s.keyAllowed else true }
    | none => { s with cursor := c }

/-- A token of some characters at the present place. -/
def take (s : Scan) (size : Nat) (t : Token) : Scan :=
  { s with cursor := s.cursor.forwardBy size, tokens := s.tokens.push t }

/-- The line that starts or ends a document. -/
def takeSeparator (s : Scan) (t : Token) : Except Error Scan := do
  let s ← (s.unwind (-1)).dropKey
  return { s with keyAllowed := false }.take 3 t

def takeDirective (s : Scan) : Except Error Scan := do
  let s ← (s.unwind (-1)).dropKey
  let (t, c) ← scanDirective s.cursor
  return { s with keyAllowed := false, cursor := c }.push t

def takeFlowStart (s : Scan) (t : Token) : Except Error Scan := do
  let s ← s.noteKey
  return { s with flowLevel := s.flowLevel + 1, keyAllowed := true }.take 1 t

def takeFlowEnd (s : Scan) (t : Token) : Except Error Scan := do
  let s ← s.dropKey
  return { s with flowLevel := s.flowLevel - 1, keyAllowed := false }.take 1 t

def takeFlowEntry (s : Scan) : Except Error Scan := do
  let s ← { s with keyAllowed := true }.dropKey
  return s.take 1 .flowEntry

def takeBlockEntry (s : Scan) : Except Error Scan := do
  if !s.inFlow && !s.keyAllowed then throw .malformed
  let s := if s.inFlow then s else s.openBlock .sequenceStart
  let s ← { s with keyAllowed := true }.dropKey
  return s.take 1 .blockEntry

def takeKey (s : Scan) : Except Error Scan := do
  if !s.inFlow && !s.keyAllowed then throw .malformed
  let s := if s.inFlow then s else s.openBlock .mappingStart
  let s ← { s with keyAllowed := !s.inFlow }.dropKey
  return s.take 1 .key

/-- The colon before a value. If a key may have begun before it, the key did. -/
def takeValue (s : Scan) : Except Error Scan := do
  match s.keyPlaces.lookup s.flowLevel with
  | some k =>
    let s := { s with keyPlaces := s.keyPlaces.filter (·.1 ≠ s.flowLevel) }
    let s := s.insertToken k.token .key
    let s :=
      if s.inFlow then s
      else
        match s.openAt k.column with
        | some opened => opened.insertToken k.token .mappingStart
        | none => s
    return { s with keyAllowed := false }.take 1 .value
  | none =>
    if !s.inFlow && !s.keyAllowed then throw .malformed
    let s := if s.inFlow then s else s.openBlock .mappingStart
    let s ← { s with keyAllowed := !s.inFlow }.dropKey
    return s.take 1 .value

/-- A token that may begin a key and is read by a function of its own. -/
def takeNode (s : Scan) (read : Cursor → Except Error (Token × Cursor)) : Except Error Scan := do
  let s ← s.noteKey
  let (t, c) ← read s.cursor
  return { s with keyAllowed := false, cursor := c }.push t

def takeBlock (s : Scan) : Except Error Scan := do
  let s ← { s with keyAllowed := true }.dropKey
  let (cs, c) ← scanBlock s.indent s.cursor
  return { s with cursor := c }.push (.scalar cs false)

def takePlain (s : Scan) : Except Error Scan := do
  let s ← s.noteKey
  let (cs, c, keyAllowed) :=
    scanPlain s.inFlow (s.indent + 1) (s.cursor.rest.length + 1) s.cursor [] [] false
  return { s with keyAllowed := keyAllowed, cursor := c }.push (.scalar cs.reverse true)

/-- Whether a plain scalar can begin with a character, given the one after it. -/
def startsPlain (s : Scan) (ch next : Char) : Bool :=
  !(isGap ch || "-?:,[]\x7b\x7d#&*!|>'\"%@`".toList.contains ch) ||
    (!isGap next && (ch = '-' || (!s.inFlow && (ch = '?' || ch = ':'))))

/-- Read the next token, with the tokens of indentation before it. -/
def takeNext (s : Scan) : Except Error Scan :=
  let ch := s.cursor.peek
  let next := s.cursor.peekAt 1
  let atStart := s.cursor.column = 0
  if ch = '%' && atStart then s.takeDirective
  else if ch = '-' && atStart && s.cursor.atSeparator then s.takeSeparator .documentStart
  else if ch = '.' && atStart && s.cursor.atSeparator then s.takeSeparator .documentEnd
  else if ch = '[' then s.takeFlowStart .flowSequenceStart
  else if ch = '{' then s.takeFlowStart .flowMappingStart
  else if ch = ']' then s.takeFlowEnd .flowSequenceEnd
  else if ch = '}' then s.takeFlowEnd .flowMappingEnd
  else if ch = ',' then s.takeFlowEntry
  else if ch = '-' && isGap next then s.takeBlockEntry
  else if ch = '?' && (s.inFlow || isGap next) then s.takeKey
  else if ch = ':' && (s.inFlow || isGap next) then s.takeValue
  else if ch = '*' then s.takeNode fun c => (scanName c).map fun (n, c) => (.alias n, c)
  else if ch = '&' then s.takeNode fun c => (scanName c).map fun (n, c) => (.anchor n, c)
  else if ch = '!' then s.takeNode scanTag
  else if (ch = '|' || ch = '>') && !s.inFlow then s.takeBlock
  else if ch = '\'' || ch = '"' then
    s.takeNode fun c => (scanQuoted c).map fun (cs, c) => (.scalar cs false, c)
  else if s.startsPlain ch next then s.takePlain
  else .error .malformed

/-- Read on by one token, or up to the end of the text. -/
def advance (s : Scan) : Except Error Scan := do
  let s := skipToToken (s.cursor.rest.length + 1) s
  let s ← s.dropStaleKeys
  let s := s.unwind s.column
  if s.cursor.rest.isEmpty then
    let s ← (s.unwind (-1)).dropKey
    return { s with atEnd := true }
  else s.takeNext

/-- Whether the token with a number may be the start of a key, so that more may come before it. -/
def mayBeKey (s : Scan) (n : Nat) : Bool := s.keyPlaces.any fun k => k.2.token = n

end Scan

/-- The tokens of a text, up to the place where it shows that the text is not well formed. -/
structure Tokens where
  items : List Token
  fault? : Option Error

namespace Scan

/-- Read on until the token with the number `n` is certain, and so on up to the end. -/
def readAll : Nat → Nat → Scan → Tokens
  | 0, n, s => ⟨s.tokens.toList.take n, some .malformed⟩
  | fuel + 1, n, s =>
    if s.atEnd then ⟨s.tokens.toList, none⟩
    else
      let looked : Except Error (Scan × Bool) :=
        if n < s.tokens.size then s.dropStaleKeys.map fun s => (s, !s.mayBeKey n)
        else .ok (s, false)
      match looked with
      | .error e => ⟨s.tokens.toList.take n, some e⟩
      | .ok (s, true) => readAll fuel (n + 1) s
      | .ok (s, false) =>
        match s.advance with
        | .error e => ⟨s.tokens.toList.take n, some e⟩
        | .ok s => readAll fuel n s

end Scan

/-- The characters that a text may hold. -/
def isTextChar (c : Char) : Bool :=
  let code := c.toNat
  c = '\t' || c = '\n' || c = '\r' || (0x20 ≤ code && code ≤ 0x7E) || code = 0x85 ||
    (0xA0 ≤ code && code ≤ 0xFFFD) || 0x10000 ≤ code

/-- A text with all its lines ended by a line feed. -/
def unifyLines : List Char → List Char
  | [] => []
  | '\r' :: '\n' :: rest => '\n' :: unifyLines rest
  | '\r' :: rest => '\n' :: unifyLines rest
  | c :: rest => c :: unifyLines rest

/-- The tokens of a text. -/
def tokensOf (text : String) : Tokens :=
  let cs := unifyLines text.toList
  if cs.any fun c => !isTextChar c then ⟨[], some .malformed⟩
  else
    let cs := if cs.head? = some '\ufeff' then cs.drop 1 else cs
    Scan.readAll (8 * cs.length + 8) 0 (Scan.start cs)

end LayerDoc.Yaml
