import LayerDoc.Function.Schema

/-!
# Function types

The type that generated code declares for a function: the signature it was registered with, or
else one made from its parameters, or else the type of any function.
-/

namespace LayerDoc

namespace ParamType

/-- The types of generated code that words stand for. -/
def tokens : Entries String :=
  [("string", "string"), ("number", "number"), ("boolean", "boolean"), ("void", "void"),
    ("undefined", "undefined"), ("null", "null"), ("any", "unknown"), ("unknown", "unknown"),
    ("custom", "unknown"), ("object", "Record<string, unknown>"), ("array", "unknown[]")]

/-- The type that a word stands for. -/
def token (word : String) : String := (Entries.get? tokens word).getD "unknown"

/-- The type of a parameter in generated code. Only the two wrappers look at an inner type; one
without an inner type wraps an unknown one. -/
def code : ParamType → String
  | .over word inner =>
    if word = "optional" then inner.code ++ " | undefined"
    else if word = "nullable" then inner.code ++ " | null"
    else token word
  | .plain word =>
    if word = "optional" then "unknown | undefined"
    else if word = "nullable" then "unknown | null"
    else token word

/-- The inner type in generated code. -/
def innerCode (p : ParamType) : String :=
  match p.inner? with
  | some inner => inner.code
  | none => "unknown"

end ParamType

/-- A parameter in a list of parameters. -/
structure Param where
  index : Nat
  optional : Bool
  type : String
  deriving DecidableEq, Repr

namespace Param

/-- The parameter at an index. An optional one is marked as such and declared by its inner type. -/
def ofType (index : Nat) (p : ParamType) : Param :=
  if p.word = "optional" then ⟨index, true, p.innerCode⟩ else ⟨index, false, p.code⟩

def name (p : Param) : String := "arg" ++ toString p.index

def code (p : Param) : String := p.name ++ (if p.optional then "?: " else ": ") ++ p.type

end Param

namespace FunctionSchema

/-- The parameters of a function that takes them in order. -/
def params (f : FunctionSchema) : List Param := f.items.mapIdx Param.ofType

/-- The type of a function in generated code, from its parameters. -/
def code (f : FunctionSchema) : String :=
  match f.kind with
  | .tuple =>
    if f.items.isEmpty then "() => void"
    else "(" ++ String.intercalate ", " (f.params.map Param.code) ++ ") => void"
  | .object => "(params: Record<string, unknown>) => void"
  | .function => "(...args: unknown[]) => unknown"

end FunctionSchema

namespace FunctionDef

/-- The type of any function. -/
def anyFunction : String := "(...args: unknown[]) => unknown"

/-- The type of a function in generated code. An empty signature counts as none. -/
def code (f : FunctionDef) : String :=
  match f.signature with
  | some text =>
    if text.isEmpty then ((f.schema.map FunctionSchema.code).getD anyFunction) else text
  | none => (f.schema.map FunctionSchema.code).getD anyFunction

/-- The type of a function that may be unknown. -/
def codeOf (f : Option FunctionDef) : String := (f.map code).getD anyFunction

end FunctionDef

end LayerDoc
