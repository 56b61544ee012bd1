import LayerDoc.Layer.Data

/-!
# Component registry

The registry maps the type of a layer to what is known of it: its props with their defaults, the
children and bindings that a new layer starts with, where generated code imports the component
from, and the types it may stand under.
-/

namespace LayerDoc

/-- The name under which the slot for children is listed among the props. -/
def childrenProp : String := "children"

/-- What is known of a prop. -/
structure PropSpec where
  type : String
  required : Bool
  /-- The declared default, which may be null. -/
  default : Option Value
  options : Option (List Value)
  description : Option String
  deriving Repr

namespace PropSpec

/-- The value that a new layer starts with: the declared default, or else the first option of an
enumeration. -/
def initial? (p : PropSpec) : Option Value :=
  match p.default with
  | some v => some v
  | none => if p.type = "enum" then p.options.bind List.head? else none

/-- The options: a list, which may be null. -/
def readOptions : Option Value → Option (Option (List Value))
  | none => some none
  | some .null => some none
  | some v => v.items?.map some

/-- Read a prop from its full form. -/
def readFull (es : Entries Value) : Option PropSpec := do
  let type ← ((Entries.get? es "type").map Value.text?).getD (some "any")
  let required ← ((Entries.get? es "required").map Value.flag?).getD (some false)
  let options ← readOptions (Entries.get? es "options")
  let description ← ((Entries.get? es "description").map Value.textOrNull?).getD (some none)
  return ⟨type, required, Entries.get? es "default", options, description⟩

/-- A prop that is given by its default alone. -/
def ofDefault (type : String) (v : Value) : PropSpec := ⟨type, false, some v, none, none⟩

/-- Read a prop: an object is the full form, any other data is the default itself. -/
def read? : Value → Option PropSpec
  | .null => some (ofDefault "any" .null)
  | .bool b => some (ofDefault "boolean" (.bool b))
  | .int n => some (ofDefault "number" (.int n))
  | .float d => some (ofDefault "number" (.float d))
  | .object es => readFull es
  | .mapping es => (Value.mapping es).entries?.bind readFull
  | v =>
    match v.text?, v.items? with
    | some s, _ => some (ofDefault "string" (.str s))
    | none, some items => some (ofDefault "array" (.list items))
    | none, none => none

/-- A prop as data. -/
def toValue (p : PropSpec) : Value :=
  .object [("type", .str p.type), ("required", .bool p.required), ("default", p.default.getD .null),
    ("options", match p.options with | some items => .list items | none => .null),
    ("description", match p.description with | some text => .str text | none => .null)]

end PropSpec

/-- A slot that is bound to a variable as soon as a layer is made. -/
structure Binding where
  prop : String
  variableId : String
  immutable : Bool
  deriving DecidableEq, Repr

namespace Binding

/-- Read a binding. -/
def read? (v : Value) : Option Binding := do
  let es ← v.entries?
  let prop ← (Value.field es "propName" "prop_name").2.bind Value.text?
  let variableId ← (Value.field es "variableId" "variable_id").2.bind Value.text?
  let immutable ← ((Entries.get? es "immutable").map Value.flag?).getD (some false)
  return ⟨prop, variableId, immutable⟩

/-- A binding as data. -/
def toValue (b : Binding) : Value :=
  .object
    [("propName", .str b.prop), ("variableId", .str b.variableId), ("immutable", .bool b.immutable)]

end Binding

/-- What is known of a type of layers. -/
structure RegistryEntry where
  props : Entries PropSpec
  /-- The module that generated code imports the component from. -/
  source : Option String
  isDefaultExport : Bool
  /-- The children of a new layer. -/
  template : Option (Slot Layer)
  bindings : List Binding
  fieldOverrides : Entries Value
  /-- The types of the parents that are allowed, if not all are. -/
  childOf : Option (List String)
  deriving Repr

/-- The registry: types with their entries. -/
abbrev Registry := Entries RegistryEntry

namespace RegistryEntry

/-- The children of a new layer: null, or what can stand in a children slot. -/
def readTemplate : Option Value → Supply → Option (Option (Slot Layer) × Supply)
  | none, s => some (none, s)
  | some .null, s => some (none, s)
  | some v, s => (Layer.readSlot .component v s).map fun (slot, s) => (some slot, s)

/-- The props of an entry. -/
def readProps : Option Value → Option (Entries PropSpec)
  | none => some []
  | some v => v.textEntries?.bind fun es => es.mapM fun e => (PropSpec.read? e.2).map (e.1, ·)

/-- The bindings of an entry. -/
def readBindings : Option Value → Option (List Binding)
  | none => some []
  | some v => v.items?.bind fun items => items.mapM Binding.read?

/-- The overrides of an entry, which are kept as they are. -/
def readOverrides : Option Value → Option (Entries Value)
  | none => some []
  | some v => v.textEntries?

/-- The allowed parents of an entry. -/
def readChildOf : Option Value → Option (Option (List String))
  | none => some none
  | some .null => some none
  | some v => v.texts?.map some

/-- Read an entry. What is blank counts as an empty object. -/
def read (v : Value) (s : Supply) : Except Fault (RegistryEntry × Supply) :=
  match (if v.isBlank then some [] else v.entries?) with
  | none => .error (.fields [])
  | some es =>
    let source := Value.field es "from" "from_"
    let export_ := Value.field es "isFromDefaultExport" "is_from_default_export"
    let template := Value.field es "defaultChildren" "default_children"
    let bindings := Value.field es "defaultVariableBindings" "default_variable_bindings"
    let overrides := Value.field es "fieldOverrides" "field_overrides"
    let childOf := Value.field es "childOf" "child_of"
    let props? := readProps (Entries.get? es "props")
    let source? := (source.2.map Value.textOrNull?).getD (some none)
    let export? := (export_.2.map Value.flag?).getD (some false)
    let template? := readTemplate template.2 s
    let bindings? := readBindings bindings.2
    let overrides? := readOverrides overrides.2
    let childOf? := readChildOf childOf.2
    match props?, source?, export?, template?, bindings?, overrides?, childOf? with
    | some props, some source, some isDefault, some (template, s), some bindings, some overrides,
      some childOf => .ok (⟨props, source, isDefault, template, bindings, overrides, childOf⟩, s)
    | _, _, _, _, _, _, _ =>
      .error (Fault.ofFields [("props", props?.isSome), (source.1, source?.isSome),
        (export_.1, export?.isSome), (template.1, template?.isSome), (bindings.1, bindings?.isSome),
        (overrides.1, overrides?.isSome), (childOf.1, childOf?.isSome)])

/-- An entry as data. -/
def toValue (e : RegistryEntry) : Value :=
  .object [("props", .object (Entries.mapValues PropSpec.toValue e.props)),
    ("from", match e.source with | some source => .str source | none => .null),
    ("isFromDefaultExport", .bool e.isDefaultExport),
    ("defaultChildren", match e.template with | some slot => Layer.slotValue slot | none => .null),
    ("defaultVariableBindings", .list (e.bindings.map Binding.toValue)),
    ("fieldOverrides", .object e.fieldOverrides),
    ("childOf", match e.childOf with | some types => .list (types.map .str) | none => .null)]

/-- The props that a new layer starts with, but for the slot of its children. -/
def defaultProps (e : RegistryEntry) : Entries Value :=
  e.props.filterMap fun p => if p.1 = childrenProp then none else p.2.initial?.map (p.1, ·)

/-- The required props for which there is nothing to start with. -/
def missingRequired (e : RegistryEntry) : List String :=
  (e.props.filter fun p => p.1 ≠ childrenProp && p.2.required && p.2.initial?.isNone).map Prod.fst

/-- Whether the children slot takes text: there is a prop for it whose type is text. -/
def acceptsText (e : RegistryEntry) : Bool :=
  match Entries.get? e.props childrenProp with
  | some p => p.type = "string"
  | none => false

/-- The text that the children slot falls back to. -/
def defaultText (e : RegistryEntry) : Option String :=
  match e.template with
  | some (.text content) => some content
  | _ => (Entries.get? e.props childrenProp).bind fun p => p.default.bind Value.str?

/-- The variable to which an immutable binding ties a slot. -/
def immutableBinding? (e : RegistryEntry) (prop : String) : Option String :=
  (e.bindings.find? fun b => b.prop = prop && b.immutable).map Binding.variableId

end RegistryEntry

namespace Registry

/-- Read the entries of a registry, one after the other. -/
def readEntries : Entries Value → Supply → Except Fault (Registry × Supply)
  | [], s => .ok ([], s)
  | (type, v) :: rest, s => do
    let (entry, s) ← RegistryEntry.read v s
    let (others, s) ← readEntries rest s
    return ((type, entry) :: others, s)

/-- The props that a layer of a type starts with; none for an unknown type. -/
def defaultProps (r : Registry) (type : String) : Entries Value :=
  match Entries.get? r type with
  | some entry => entry.defaultProps
  | none => []

/-- The text that the children of a layer of a type fall back to, which may be empty. -/
def defaultText (r : Registry) (type : String) : String :=
  ((Entries.get? r type).bind RegistryEntry.defaultText).getD ""

end Registry

end LayerDoc
