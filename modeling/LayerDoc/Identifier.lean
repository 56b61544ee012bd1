import LayerDoc.Entries
import LayerDoc.Text.Character
import LayerDoc.Variable

/-!
# Identifiers

Generated code calls a variable by an identifier made from its name. A name that is an identifier
already is kept; the words of any other name are joined in camel case. Variables with one
identifier are told apart by a number.
-/

namespace LayerDoc

namespace Identifier

/-- An ASCII letter, the underscore or the dollar sign. -/
def isStart (c : Char) : Bool := c.isAlpha || c = '_' || c = '$'

/-- A character that can stand in an identifier after the first. -/
def isPart (c : Char) : Bool := isStart c || c.isDigit

/-- Whether a text is an identifier. -/
def isValid : List Char → Bool
  | [] => false
  | c :: rest => isStart c && rest.all isPart

/-- The words of a name: its longest runs of characters that can stand in an identifier. -/
def words : List Char → List (List Char)
  | [] => []
  | c :: rest =>
    if isPart c then
      match rest, words rest with
      | d :: _, word :: others => if isPart d then (c :: word) :: others else [c] :: word :: others
      | _, others => [c] :: others
    else words rest

/-- A word with its first letter in lower case. -/
def uncapitalized : List Char → List Char
  | [] => []
  | c :: rest => c.toLower :: rest

/-- A word with its first letter in upper case and all others in lower case. -/
def capitalized : List Char → List Char
  | [] => []
  | c :: rest => c.toUpper :: rest.map Char.toLower

/-- Words joined in camel case. -/
def camelCase : List (List Char) → List Char
  | [] => []
  | word :: rest => uncapitalized word ++ rest.flatMap capitalized

/-- The identifier of a name that gives none. -/
def fallback : String := "variable"

/-- Turn a name into an identifier. -/
def ofName (name : String) : String :=
  let trimmed := Text.trim name.toList
  if isValid trimmed then String.ofList trimmed
  else
    match camelCase (words trimmed) with
    | [] => fallback
    | c :: rest =>
      let cs := if isStart c then c :: rest else '_' :: c :: rest
      if isValid cs then String.ofList cs else fallback

/-- The base if it is free, or else the base with the least number from one on that is free. -/
def unused (base : String) (used : List String) : String :=
  if used.contains base then
    let candidates := (List.range (used.length + 1)).map fun k => base ++ toString (k + 1)
    (candidates.find? fun c => !used.contains c).getD base
  else base

/-- The identifiers of a list of variables, in order, given those in use. -/
def assign : List Variable → List String → List (String × String)
  | [], _ => []
  | v :: rest, used =>
    let identifier := unused (ofName v.name) used
    (v.id, identifier) :: assign rest (identifier :: used)

/-- The identifier of every variable by its id. Of variables that share an id the last counts. -/
def ofVariables (vars : List Variable) : Entries String :=
  Entries.ofWrites (assign vars [])

end Identifier

end LayerDoc
