/-!
# Reading position

Where a reader stands in a text, with the line and the column of the next character. Past the end
the next character reads as NUL, which no text holds.
-/

namespace LayerDoc.Yaml

/-- A position in a text. -/
structure Cursor where
  rest : List Char
  index : Nat
  line : Nat
  column : Nat
  deriving Repr

/-- The characters that end a line. -/
def isBreak (c : Char) : Bool :=
  c = '\n' || c = '\r' || c = '\u0085' || c = '\u2028' || c = '\u2029'

/-- The end of a line or of the text. -/
def isLineEnd (c : Char) : Bool := c = '\x00' || isBreak c

/-- A blank or the end of a line. -/
def isSpaceOrEnd (c : Char) : Bool := c = ' ' || isLineEnd c

/-- A blank, a tab, or the end of a line: what ends an indicator. -/
def isGap (c : Char) : Bool := c = '\t' || isSpaceOrEnd c

namespace Cursor

/-- The start of a text. -/
def start (cs : List Char) : Cursor := ⟨cs, 0, 0, 0⟩

/-- The next character. -/
def peek (c : Cursor) : Char := c.rest.headD '\x00'

/-- The character `n` places on. -/
def peekAt (c : Cursor) (n : Nat) : Char := (c.rest[n]?).getD '\x00'

/-- Whether the text goes on with some characters. -/
def startsWith (c : Cursor) (cs : List Char) : Bool := cs.isPrefixOf c.rest

/-- The position after the next character. -/
def forward (c : Cursor) : Cursor :=
  match c.rest with
  | [] => c
  | ch :: rest =>
    if ch = '\n' || ch = '\u0085' || ch = '\u2028' || ch = '\u2029' ||
        (ch = '\r' && rest.head? ≠ some '\n') then
      ⟨rest, c.index + 1, c.line + 1, 0⟩
    else if ch = '\ufeff' then ⟨rest, c.index + 1, c.line, c.column⟩
    else ⟨rest, c.index + 1, c.line, c.column + 1⟩

/-- The position `n` characters on. -/
def forwardBy : Nat → Cursor → Cursor
  | 0, c => c
  | n + 1, c => forwardBy n c.forward

/-- The longest run of characters with a property, and the position after it. -/
def run (p : Char → Bool) (c : Cursor) : List Char × Cursor :=
  let cs := c.rest.takeWhile p
  (cs, c.forwardBy cs.length)

/-- The position after the blanks. -/
def skipSpaces (c : Cursor) : Cursor := (c.run (· = ' ')).2

/-- The position after a comment, if there is one. -/
def skipComment (c : Cursor) : Cursor :=
  if c.peek = '#' then (c.run fun ch => !isLineEnd ch).2 else c

/-- The line break here, if there is one, and the position after it. The three usual forms of a
break read as a line feed. -/
def lineBreak? (c : Cursor) : Option (Char × Cursor) :=
  let ch := c.peek
  if ch = '\r' && c.peekAt 1 = '\n' then some ('\n', c.forwardBy 2)
  else if ch = '\r' || ch = '\n' || ch = '\u0085' then some ('\n', c.forward)
  else if ch = '\u2028' || ch = '\u2029' then some (ch, c.forward)
  else none

/-- Whether a line that separates documents begins here. -/
def atSeparator (c : Cursor) : Bool :=
  (c.startsWith ['-', '-', '-'] || c.startsWith ['.', '.', '.']) && isGap (c.peekAt 3)

end Cursor

end LayerDoc.Yaml
