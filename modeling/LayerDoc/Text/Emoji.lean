import LayerDoc.Json.Reader
import LayerDoc.Text.Character
import LayerDoc.Text.Emoji.Names

/-!
# Emoji by name

A name between colons stands for an emoji, in any case. It may say at its end that the form of a
picture or that of text is wanted. A name that there is not stays as it is, with both its colons.
-/

namespace LayerDoc.Text.Emoji

/-- The number that digits in base sixteen stand for. -/
def codeValue (cs : List Char) : Nat := cs.foldl (fun n c => n * 16 + (Json.hexDigit? c).getD 0) 0

/-- An entry of the list of names. -/
def entry? (cs : List Char) : Option (List Char × List Char) :=
  match cs.splitOn '=' with
  | [name, codes] => some (name, (codes.splitOn '-').map fun code => Char.ofNat (codeValue code))
  | _ => none

/-- The emoji by their names. -/
def table : List (List Char × List Char) :=
  (names.toList.splitOnP fun c => c = ' ' || c = '\n').filterMap entry?

/-- The wishes for a form at the end of a name, and the characters that give the form. -/
def variants : List (List Char × Char) :=
  [("-emoji".toList, '\ufe0f'), ("-text".toList, '\ufe0e')]

/-- The emoji that a name between colons stands for, in a form if one is wanted. -/
def find? (emoji : List (List Char × List Char)) (name : List Char) : Option (List Char) :=
  match variants.find? fun v => v.1.isSuffixOf name with
  | some (ending, form) =>
    (emoji.lookup (lower (name.take (name.length - ending.length)))).map (· ++ [form])
  | none => emoji.lookup (lower name)

/-- A text with emoji for their names. -/
def replace (emoji : List (List Char × List Char)) : Nat → List Char → List Char
  | 0, cs => cs
  | _, [] => []
  | fuel + 1, ':' :: rest =>
    let name := rest.takeWhile fun c => c ≠ ':' && !isBlank c
    match rest.drop name.length with
    | ':' :: after => (find? emoji name).getD (':' :: name ++ [':']) ++ replace emoji fuel after
    | _ => ':' :: replace emoji fuel rest
  | fuel + 1, c :: rest => c :: replace emoji fuel rest

/-- A text with emoji for their names. -/
def shown (cs : List Char) : List Char := replace table cs.length cs

end LayerDoc.Text.Emoji
