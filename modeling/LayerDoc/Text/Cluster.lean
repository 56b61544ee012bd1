import LayerDoc.Text.Width

/-!
# Clusters

A text falls into clusters, which are not broken: a character with all that combine with it or are
joined to it. The clusters of a text are the text again, whatever it is.
-/

namespace LayerDoc.Text

/-- Characters that stay together, and the columns that they take. -/
structure Cluster where
  chars : List Char
  columns : Nat
  deriving DecidableEq, Repr

namespace Cluster

/-- A cluster with more characters. -/
def extended (s : Cluster) (cs : List Char) : Cluster := { s with chars := s.chars ++ cs }

end Cluster

/-- Put characters into the last cluster, of those found so far, the last first. If there is none
they make one that takes no column. -/
def joinLast (cs : List Char) : List Cluster → List Cluster
  | [] => [⟨cs, 0⟩]
  | s :: others => s.extended cs :: others

/-- The clusters of a text, after those found so far, the last first, and after the character that a
selector would widen. -/
def clustersAfter (found : List Cluster) (last : Option Char) : List Char → List Cluster
  | [] => found.reverse
  | c :: rest =>
    if c = joiner ∧ !found.isEmpty then
      match rest with
      | [] => (joinLast [c] found).reverse
      | d :: rest => clustersAfter (joinLast [c, d] found) last rest
    else if c = emojiSelector ∧ !found.isEmpty then
      let wider := (last.map widening).getD 0
      let found := match joinLast [c] found with
        | s :: others => { s with columns := s.columns + wider } :: others
        | [] => []
      clustersAfter found (if wider = 0 then last else none) rest
    else if c = joiner ∨ c = emojiSelector ∨ charWidth c = 0 then
      clustersAfter (joinLast [c] found) last rest
    else clustersAfter (⟨[c], charWidth c⟩ :: found) (some c) rest

/-- The clusters of a text. -/
def clusters (cs : List Char) : List Cluster := clustersAfter [] none cs

/-- The clusters at the front that fit into some columns. A wide one that fits in part leaves
blanks. -/
def fitting : Nat → List Cluster → List Char
  | 0, _ => []
  | _, [] => []
  | columns + 1, s :: rest =>
    if s.columns ≤ columns + 1 then s.chars ++ fitting (columns + 1 - s.columns) rest else [' ']

/-- Clusters in pieces of at most a width, after the piece that is being filled. -/
def chopped (columns : Nat) : List Cluster → List Char → Nat → List (List Char)
  | [], piece, used => if used = 0 then [] else [piece]
  | s :: rest, piece, used =>
    if columns < used + s.columns then piece :: chopped columns rest s.chars s.columns
    else chopped columns rest (piece ++ s.chars) (used + s.columns)

/-- A word in pieces of at most a width. -/
def pieces (columns : Nat) (cs : List Char) : List (List Char) := chopped columns (clusters cs) [] 0

/-- A line of exactly a width: cut, or filled with blanks. -/
def resized (columns : Nat) (line : List Char) : List Char :=
  let taken := width line
  if columns < taken then fitting columns (clusters line)
  else line ++ List.replicate (columns - taken) ' '

end LayerDoc.Text
