import LayerDoc.Fault
import LayerDoc.Supply

/-!
# Variables

A variable has an id, a name, a type and a default. Props and children of layers can be bound to
it. The default of a function variable is the id of a registered function.
-/

namespace LayerDoc

/-- The types of variables. -/
inductive VariableType where
  | string
  | number
  | boolean
  | function
  deriving DecidableEq, Repr

namespace VariableType

/-- The word for a type. -/
def word : VariableType → String
  | .string => "string"
  | .number => "number"
  | .boolean => "boolean"
  | .function => "function"

/-- The type that a word stands for. -/
def ofWord? : String → Option VariableType
  | "string" => some .string
  | "number" => some .number
  | "boolean" => some .boolean
  | "function" => some .function
  | _ => none

/-- The type that a value names. -/
def ofValue? (v : Value) : Option VariableType := v.text?.bind ofWord?

theorem ofValue?_word (t : VariableType) : ofValue? (.str t.word) = some t := by cases t <;> rfl

end VariableType

/-- A named value of a document. -/
structure Variable where
  id : String
  name : String
  type : VariableType
  default : Value
  deriving Repr

namespace Variable

/-- Whether the default names a function. -/
def isFunction (v : Variable) : Bool := v.type = .function

/-- The first variable with an id. -/
def find? (vars : List Variable) (id : String) : Option Variable :=
  vars.find? (·.id == id)

/-- Read a variable. The default may be under either of two names, and may be missing. -/
def read : Value → Supply → Except Fault (Variable × Supply)
  | v, s =>
    match v.entries? with
    | none => .error (.fields [])
    | some es =>
      let (id?, s) : Option String × Supply :=
        match Entries.get? es "id" with
        | none => (some s.next.1, s.next.2)
        | some given => (given.text?, s)
      let name? := (Entries.get? es "name").bind Value.text?
      let type? := (Entries.get? es "type").bind VariableType.ofValue?
      let default := (Value.field es "defaultValue" "default_value").2.getD .null
      match id?, name?, type? with
      | some id, some name, some type => .ok (⟨id, name, type, default⟩, s)
      | _, _, _ =>
        .error (Fault.ofFields [("id", id?.isSome), ("name", name?.isSome), ("type", type?.isSome)])

/-- Read a list of variables. -/
def readAll : List Value → Supply → Option (List Variable × Supply)
  | [], s => some ([], s)
  | v :: rest, s =>
    match read v s with
    | .ok (first, s) => (readAll rest s).map fun (others, s) => (first :: others, s)
    | .error _ => none

/-- The variable with a patch written over it, checked again as a whole. Of two spellings of the
default the later one counts; the id cannot be patched. -/
def patched (v : Variable) (patch : Entries Value) : Option Variable :=
  let name? := ((Entries.get? patch "name").map Value.text?).getD (some v.name)
  let type? := ((Entries.get? patch "type").map VariableType.ofValue?).getD (some v.type)
  let default := patch.foldl
    (fun value e => if e.1 = "defaultValue" ∨ e.1 = "default_value" then e.2 else value) v.default
  match name?, type? with
  | some name, some type => some { v with name := name, type := type, default := default }
  | _, _ => none

/-- A variable as data. -/
def toValue (v : Variable) : Value :=
  .object [("id", .str v.id), ("name", .str v.name), ("type", .str v.type.word),
    ("defaultValue", v.default)]

end Variable

end LayerDoc
