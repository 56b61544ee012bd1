import LayerDoc.Fault

/-!
# Registered functions

A function that variables and props can point at is known by the types of its parameters, by a
type signature of its own, or by neither.
-/

namespace LayerDoc

/-- The type of a parameter: a word, perhaps over an inner type as in `optional` and `nullable`. -/
inductive ParamType where
  | plain (word : String)
  | over (word : String) (inner : ParamType)
  deriving DecidableEq, Repr

namespace ParamType

/-- The outermost word of a type. -/
def word : ParamType → String
  | .plain word => word
  | .over word _ => word

/-- The inner type. -/
def inner? : ParamType → Option ParamType
  | .plain _ => none
  | .over _ inner => some inner

/-- A type from its word and its inner type. -/
def ofParts (word : String) : Option ParamType → ParamType
  | none => .plain word
  | some inner => .over word inner

/-- A type from what was read of its word and its inner type. -/
def settle (word? : Option String) (inner? : Option (Option ParamType)) : Except Fault ParamType :=
  match word?, inner? with
  | some word, some inner => .ok (ofParts word inner)
  | _, _ => .error (Fault.ofFields [("type", word?.isSome), ("inner", inner?.isSome)])

/-- The word of a type, which may be left out. -/
def readWord : Option Value → Option String
  | some v => v.text?
  | none => some "unknown"

mutual

/-- Read the full form of a type. -/
def readFull : Value → Except Fault ParamType
  | .object es => settle (readWord (Entries.get? es "type")) (readInnerIn es)
  | .mapping es => settle (readWord (Key.find? es (.str "type"))) (readInnerAmong es)
  | _ => .error (.fields [])

/-- Read the inner type, which may be null or left out. -/
def readInner : Value → Option (Option ParamType)
  | .null => some none
  | v => (readFull v).toOption.map some

/-- Read the inner type among the entries of an object. -/
def readInnerIn : List (String × Value) → Option (Option ParamType)
  | [] => some none
  | (k, v) :: rest => if k = "inner" then readInner v else readInnerIn rest

/-- Read the inner type among the entries of a mapping. -/
def readInnerAmong : List (Key × Value) → Option (Option ParamType)
  | [] => some none
  | (k, v) :: rest => if k = .str "inner" then readInner v else readInnerAmong rest

end

/-- Read a type: a word, a word with a question mark for an optional one, or the full form. -/
def read : Value → Except Fault ParamType
  | .str s =>
    match s.toList.reverse with
    | '?' :: rest => .ok (.over "optional" (.plain (String.ofList rest.reverse)))
    | _ => .ok (.plain s)
  | .object es => readFull (.object es)
  | .mapping _ => .error .illTypedToken
  | .bytes _ => .error .illTypedToken
  | _ => .error .noTypeToken

/-- A type as data. -/
def toValue : ParamType → Value
  | .plain word => .object [("type", .str word), ("inner", .null)]
  | .over word inner => .object [("type", .str word), ("inner", inner.toValue)]

end ParamType

/-- How a function takes its parameters. -/
inductive ParamKind where
  | tuple
  | object
  | function
  deriving DecidableEq, Repr

namespace ParamKind

def word : ParamKind → String
  | .tuple => "tuple"
  | .object => "object"
  | .function => "function"

/-- The kind that a value names, which must be text. -/
def ofValue? : Value → Option ParamKind
  | .str "tuple" => some .tuple
  | .str "object" => some .object
  | .str "function" => some .function
  | _ => none

end ParamKind

/-- The parameters of a function: in order, or by name. -/
structure FunctionSchema where
  kind : ParamKind
  items : List ParamType
  shape : Entries ParamType
  deriving Repr

namespace FunctionSchema

/-- The outcome of reading a field that holds types: a fault that ends all reading, or else the
types if they all fit. -/
def settle {α : Type} : Except Fault α → Except Fault (Option α)
  | .ok a => .ok (some a)
  | .error .noTypeToken => .error .noTypeToken
  | .error .illTypedToken => .error .illTypedToken
  | .error _ => .ok none

/-- The parameters in order. Only in a list can they be written as words, so a set that has any does
not fit. -/
def readItems : Option Value → Except Fault (List ParamType)
  | none => .ok []
  | some (.list items) => items.mapM ParamType.read
  | some (.set []) => .ok []
  | some _ => .error (.fields ["items"])

/-- The parameters by name. -/
def readShape : Option Value → Except Fault (Entries ParamType)
  | none => .ok []
  | some (.object es) => es.mapM fun e => (ParamType.read e.2).map (e.1, ·)
  | some (.mapping es) => do
    let shape ← es.mapM fun e => (ParamType.read e.2).map (e.1, ·)
    match shape.mapM fun e => e.1.text?.map (·, e.2) with
    | some named => return Entries.ofWrites named
    | none => throw (.fields ["shape"])
  | some _ => .error (.fields ["shape"])

/-- Read the parameters of a function. -/
def read (v : Value) : Except Fault FunctionSchema :=
  match v.entries? with
  | none => .error (.fields [])
  | some es => do
    let kind? := ((Entries.get? es "kind").map ParamKind.ofValue?).getD (some .tuple)
    let items? ← settle (readItems (Entries.get? es "items"))
    let shape? ← settle (readShape (Entries.get? es "shape"))
    match kind?, items?, shape? with
    | some kind, some items, some shape => return ⟨kind, items, shape⟩
    | _, _, _ =>
      throw (Fault.ofFields
        [("kind", kind?.isSome), ("items", items?.isSome), ("shape", shape?.isSome)])

/-- The parameters of a function as data. -/
def toValue (f : FunctionSchema) : Value :=
  .object [("kind", .str f.kind.word), ("items", .list (f.items.map ParamType.toValue)),
    ("shape", .object (Entries.mapValues ParamType.toValue f.shape))]

/-- Whether a function that takes `candidate` can be called with what `target` says: it may take
fewer parameters in order, or parameters by name that are all given. All else is let pass. -/
def accepts (target candidate : Option FunctionSchema) : Bool :=
  match target, candidate with
  | some target, some candidate =>
    match target.kind, candidate.kind with
    | .tuple, .tuple => candidate.items.length ≤ target.items.length
    | .object, .object => (Entries.keys candidate.shape).all (Entries.has target.shape)
    | _, _ => true
  | _, _ => true

end FunctionSchema

/-- A registered function. -/
structure FunctionDef where
  schema : Option FunctionSchema
  signature : Option String
  description : Option String
  deriving Repr

/-- The registered functions by id. -/
abbrev FunctionRegistry := Entries FunctionDef

namespace FunctionDef

/-- The parameters of a function, which may be null. -/
def readSchema : Option Value → Except Fault (Option FunctionSchema)
  | none => .ok none
  | some .null => .ok none
  | some v => (FunctionSchema.read v).map some

/-- Read a function. What is blank counts as an empty object. -/
def read (v : Value) : Except Fault FunctionDef :=
  match (if v.isBlank then some [] else v.entries?) with
  | none => .error (.fields [])
  | some es => do
    let schema := Value.field es "schema" "params"
    let signature := Value.field es "typeSignature" "type_signature"
    let schema? ← FunctionSchema.settle (readSchema schema.2)
    let signature? := (signature.2.map Value.textOrNull?).getD (some none)
    let description? := ((Entries.get? es "description").map Value.textOrNull?).getD (some none)
    match schema?, signature?, description? with
    | some s, some t, some d => return ⟨s, t, d⟩
    | _, _, _ =>
      throw (Fault.ofFields [(schema.1, schema?.isSome), (signature.1, signature?.isSome),
        ("description", description?.isSome)])

/-- A function as data. -/
def toValue (f : FunctionDef) : Value :=
  .object [("schema", match f.schema with | some schema => schema.toValue | none => .null),
    ("typeSignature", match f.signature with | some text => .str text | none => .null),
    ("description", match f.description with | some text => .str text | none => .null)]

end FunctionDef

namespace FunctionRegistry

/-- Read the entries of a registry of functions, one after the other. -/
def readEntries : Entries Value → Except Fault FunctionRegistry
  | [] => .ok []
  | (id, v) :: rest => do
    let definition ← FunctionDef.read v
    let others ← readEntries rest
    return ((id, definition) :: others)

/-- The ids of the functions that can be called with what `target` says. -/
def compatible (functions : FunctionRegistry) (target : Option FunctionSchema) : List String :=
  (functions.filter fun f => FunctionSchema.accepts target f.2.schema).map Prod.fst

end FunctionRegistry

end LayerDoc
