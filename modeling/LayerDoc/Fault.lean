import LayerDoc.Value.Plain

/-!
# Faults of data

Why data was refused, and the checks on single fields that lead there. A model is read field by
field; all its fields are looked at, and the fault names every field that did not fit.
-/

namespace LayerDoc

/-- Why data does not fit a model. -/
inductive Fault where
  /-- The named fields do not fit; no field is named if the data is no object. -/
  | fields (names : List String)
  /-- Two layers of a document share an id. -/
  | duplicateId (id : String)
  /-- A parameter type is neither text nor an object. -/
  | noTypeToken
  /-- A parameter type is a run of bytes, or a mapping with a key that is not text. -/
  | illTypedToken
  deriving DecidableEq, Repr

namespace Fault

/-- Insert a name into a sorted list of names, unless it is there. -/
def insertName (name : String) : List String → List String
  | [] => [name]
  | other :: rest =>
    if name = other then other :: rest
    else if name < other then name :: other :: rest
    else other :: insertName name rest

/-- The fault of a model some of whose fields failed: their names, sorted and without
repetition. -/
def ofFields (checks : List (String × Bool)) : Fault :=
  .fields ((checks.filter (!·.2)).foldr (fun c names => insertName c.1 names) [])

/-- A fault as part of a message. -/
def word : Fault → String
  | .fields _ => "ValidationError"
  | .duplicateId id => "Duplicate layer id in document: " ++ id
  | .noTypeToken => "AttributeError"
  | .illTypedToken => "TypeError"

end Fault

namespace Value

/-- The entries of an object. Of a mapping only those count whose key is text. -/
def entries? : Value → Option (Entries Value)
  | .object es => some es
  | .mapping es => some (es.filterMap fun e => e.1.str?.map (·, e.2))
  | _ => none

/-- The entries of an object all of whose keys are text, or bytes that hold text. -/
def textEntries? : Value → Option (Entries Value)
  | .object es => some es
  | .mapping es => (es.mapM fun (e : Key × Value) => e.1.text?.map (·, e.2)).map Entries.ofWrites
  | _ => none

/-- The items of a list, or the members of a set. -/
def items? : Value → Option (List Value)
  | .list items => some items
  | .set members => some members
  | _ => none

/-- A field of a model under its written name or its other spelling. The written name wins; it is
also the one to be named if the field is missing. -/
def field (es : Entries Value) (name other : String) : String × Option Value :=
  match Entries.get? es name, Entries.get? es other with
  | some v, _ => (name, some v)
  | none, some v => (other, some v)
  | none, none => (name, none)

/-- Text, or bytes that hold text. -/
def text? : Value → Option String
  | .str s => some s
  | .bytes content => Text.ofUtf8? content
  | _ => none

/-- Text or null. -/
def textOrNull? : Value → Option (Option String)
  | .null => some none
  | v => v.text?.map some

/-- A list of texts. -/
def texts? (v : Value) : Option (List String) := v.items?.bind fun items => items.mapM text?

/-- A truth value: true and false, one and zero, and the usual words in any case. -/
def flag? : Value → Option Bool
  | .bool b => some b
  | .int n => if n = 1 then some true else if n = 0 then some false else none
  | .float d =>
    if d.toInt? = some 1 then some true else if d.toInt? = some 0 then some false else none
  | v =>
    v.text?.bind fun s =>
      let word := String.ofList (s.toList.map Char.toLower)
      if word ∈ ["1", "on", "t", "true", "y", "yes"] then some true
      else if word ∈ ["0", "off", "f", "false", "n", "no"] then some false
      else none

end Value

end LayerDoc
