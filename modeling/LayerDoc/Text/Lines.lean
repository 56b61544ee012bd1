import LayerDoc.Text.Character
import LayerDoc.Text.Cluster

/-!
# Lines of a given width

A text is broken into lines at its blanks. A word that is too long for a line is either folded over
several or cut off.
-/

namespace LayerDoc.Text

/-- What happens to what does not fit. -/
inductive Overflow where
  | fold
  | ellipsis
  deriving DecidableEq, Repr

/-- The words of a text, each with the blanks after it, the first also with those before it. -/
def wordsWithBlanks : Nat → List Char → List (List Char)
  | 0, _ => []
  | fuel + 1, cs =>
    let before := cs.takeWhile isBlank
    let rest := cs.drop before.length
    if rest.isEmpty then []
    else
      let word := rest.takeWhile (!isBlank ·)
      let rest := rest.drop word.length
      let after := rest.takeWhile isBlank
      (before ++ word ++ after) :: wordsWithBlanks fuel (rest.drop after.length)

/-- A text without the blanks at its end. -/
def trimEnd (cs : List Char) : List Char := (cs.reverse.dropWhile isBlank).reverse

/-- Words in lines. The line that is being filled is given, with the columns that its words take,
and the lines before it, the last first. -/
def fillLines (columns : Nat) (overflow : Overflow) :
    List (List Char) → List Char → Nat → List (List Char) → List (List Char)
  | [], line, _, done => (line :: done).reverse
  | word :: rest, line, used, done =>
    let size := width (trimEnd word)
    let closed := if line.isEmpty then done else line :: done
    if used + size ≤ columns then
      fillLines columns overflow rest (line ++ word) (used + width word) done
    else if columns < size then
      match overflow with
      | .ellipsis => fillLines columns overflow rest word (width word) closed
      | .fold =>
        match (pieces columns word).reverse with
        | [] => fillLines columns overflow rest line used done
        | last :: others => fillLines columns overflow rest last (width last) (others ++ closed)
    else fillLines columns overflow rest word (width word) closed

/-- A line without the blanks past a number of characters. -/
def trimPast (columns : Nat) (line : List Char) : List Char :=
  let blanks := line.length - (trimEnd line).length
  line.take (line.length - min blanks (line.length - columns))

/-- A line that takes at most a width. -/
def truncated (columns : Nat) (overflow : Overflow) (line : List Char) : List Char :=
  if width line ≤ columns then line
  else
    match overflow with
    | .fold => resized columns line
    | .ellipsis => resized (columns - 1) line ++ ['…']

/-- Tabs become blanks up to the next multiple of eight columns, each part between tabs being
measured by itself. -/
def expandTabs : Nat → List (List Char) → List Char
  | _, [] => []
  | _, [part] => part
  | column, part :: rest =>
    let column := column + width (part ++ [' '])
    let blanks := (8 - column % 8) % 8
    part ++ List.replicate (blanks + 1) ' ' ++ expandTabs (column + blanks) rest

/-- A text in lines of at most a width. -/
def wrapped (columns : Nat) (overflow : Overflow) (cs : List Char) : List (List Char) :=
  (cs.splitOn '\n').flatMap fun line =>
    let line := expandTabs 0 (line.splitOn '\t')
    (match wordsWithBlanks (line.length + 1) line with
      | [] => [line]
      | words => fillLines columns overflow words [] 0 []).map
      fun line => truncated columns overflow (trimPast columns line)

end LayerDoc.Text
