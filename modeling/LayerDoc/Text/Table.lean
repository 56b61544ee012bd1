import LayerDoc.Decimal.Double
import LayerDoc.Text.Lines

/-!
# Tables

A table with a heading, drawn with lines: heavy ones around the heading, light ones around the
rows. A column is as wide as its content, with a blank at either side. If all columns together are
too wide the widest are narrowed first, and their texts broken into lines.
-/

namespace LayerDoc.Text

/-- A column of a table. -/
structure Column where
  heading : List Char
  alignsRight : Bool

/-- The characters that end a line where texts are measured. -/
def endsLine (c : Char) : Bool :=
  ['\n', '\r', '\x0b', '\x0c', '\x1c', '\x1d', '\x1e', '\u0085', '\u2028', '\u2029'].contains c

/-- The columns that the longest line of a text takes. -/
def longestLine (cs : List Char) : Nat := ((cs.splitOnP endsLine).map width).foldl max 0

/-- Take away from the widest columns alike, as far as allowed, until `excess` is gone. -/
def narrowEvenly (chosen : Nat → Bool) (limit : Nat) : List Nat → Nat → Nat → List Nat
  | [], _, _ => []
  | w :: rest, remaining, shares =>
    if chosen w && 0 < shares && 0 < limit then
      let part := min limit (Double.roundQuotient remaining shares)
      (w - part) :: narrowEvenly chosen limit rest (remaining - part) (shares - 1)
    else w :: narrowEvenly chosen limit rest remaining shares

/-- The width of all columns together. -/
def total (widths : List Nat) : Nat := widths.foldl (· + ·) 0

/-- Narrow the widest columns down to the next ones until all fit, or all are alike. -/
def narrowWidest (available : Nat) : Nat → List Nat → List Nat
  | 0, widths => widths
  | fuel + 1, widths =>
    let excess := total widths - available
    if excess = 0 then widths
    else
      let widest := widths.foldl max 0
      let second := (widths.filter (· ≠ widest)).foldl max 0
      if widest = second then widths
      else
        let step := min excess (widest - second)
        narrowWidest available fuel
          (narrowEvenly (· = widest) step widths excess (widths.count widest))

/-- The widths of the columns, so that they fit if that can be. -/
def fitWidths (available : Nat) (widths : List Nat) : List Nat :=
  if total widths ≤ available then widths
  else
    let narrowed := narrowWidest available (total widths + 1) widths
    if total narrowed ≤ available then narrowed
    else
      narrowEvenly (fun w => 0 < w) available narrowed (total narrowed - available) narrowed.length

/-- A line filled with blanks up to a width. The first blank may be lost to a joiner before it,
which is made up for. -/
def filled (columns : Nat) (line : List Char) : List Char :=
  let once := line ++ List.replicate (columns - width line) ' '
  once ++ List.replicate (columns - width once) ' '

/-- The text of a cell in lines of exactly a width. -/
def cellLines (columns : Nat) (alignsRight : Bool) (cs : List Char) : List (List Char) :=
  (wrapped columns .ellipsis cs).map fun line =>
    if alignsRight then
      let line := truncated columns .ellipsis (trimEnd line)
      List.replicate (columns - width line) ' ' ++ line
    else filled columns line

/-- A horizontal line of a table. -/
def rule (left middle line right : Char) (widths : List Nat) : List Char :=
  left :: [middle].intercalate (widths.map fun w => List.replicate w line) ++ [right]

/-- A line of a cell between blanks. The blank after it is left out where the line is too wide, as
one that begins with a joiner may be. -/
def spaced (columns : Nat) (line : List Char) : List Char :=
  ' ' :: line ++ if width line ≤ columns then [' '] else []

/-- The lines of a row, between vertical lines. -/
def rowLines (vertical : Char) (columns : List Column) (widths : List Nat)
    (cells : List (List Char)) : List (List Char) :=
  let blocks := (columns.zip (widths.zip cells)).map fun (column, w, cell) =>
    (w, cellLines (w - 2) column.alignsRight cell)
  let height := (blocks.map (·.2.length)).foldl max 0
  (List.range height).map fun i =>
    vertical :: [vertical].intercalate (blocks.map fun (w, lines) =>
      spaced (w - 2) ((lines[i]?).getD (List.replicate (w - 2) ' '))) ++ [vertical]

/-- The lines of a table that takes at most a width. -/
def tableLines (available : Nat) (columns : List Column) (rows : List (List (List Char))) :
    List (List Char) :=
  let cellsOf (i : Nat) : List (List Char) := rows.map fun row => (row[i]?).getD []
  let room := available - (columns.length + 1)
  let wanted := columns.mapIdx fun i column =>
    min room (((column.heading :: cellsOf i).map longestLine).foldl max 0 + 2)
  let given := fitWidths room wanted
  let widths := (wanted.zip given).map fun (a, b) => min a b
  [rule '┏' '┳' '━' '┓' widths] ++
    rowLines '┃' columns widths (columns.map Column.heading) ++
    [rule '┡' '╇' '━' '┩' widths] ++
    rows.flatMap (rowLines '│' columns widths) ++
    [rule '└' '┴' '─' '┘' widths]

end LayerDoc.Text
