import LayerDoc.Fault
import LayerDoc.Layer.Basic
import LayerDoc.Supply

/-!
# Layers as data

Layers are read from data and written as data. Reading turns marker objects among the props and in
the children slot into references, keeps attributes it does not know, and gives a layer without an
id a fresh one. Writing puts the five known attributes first.
-/

namespace LayerDoc

namespace Layer

/-- The attributes that the model knows. -/
def knownFields : List String := ["id", "type", "name", "props", "children"]

/-- The attributes that the model does not know. -/
def unknownEntries (es : Entries Value) : Entries Value :=
  es.filter fun e => !knownFields.contains e.1

/-- Whether all names of attributes are made of characters. -/
def hasNames (es : Entries Value) : Bool := es.all fun e => !Text.Surrogate.occursIn e.1

/-- The props of a layer: an object, whose marker objects become references. -/
def readProps : Option Value → Option Props
  | none => some []
  | some v => v.textEntries?.map (Entries.mapValues PropValue.ofValue)

/-- The type of a layer. Only a page may leave it out. -/
def readType (role : Role) : Option Value → Option String
  | some v => v.text?
  | none => match role with
    | .page => some pageType
    | .component => none

/-- The name of a layer, which may be null. -/
def readName : Option Value → Option (Option String)
  | none => some none
  | some v => v.textOrNull?

/-- The id of a layer: the given one, or else the next of the supply. -/
def readId (given : Option Value) (s : Supply) : Option String × Supply :=
  match given with
  | none => (some s.next.1, s.next.2)
  | some v => (v.text?, s)

/-- The variable that an object in a children slot refers to: under the marker, or else under
`ref_id`. -/
def readReference (es : Entries Value) : Option String :=
  ((Value.field es referenceKey "ref_id").2).bind Value.text?

mutual

/-- Read a layer, which is an object with text for keys. The ids of a supply are used from the top
down. -/
def read (role : Role) : Value → Supply → Except Fault (Layer × Supply)
  | .object es, s =>
    let (id?, s) := readId (Entries.get? es "id") s
    let type? := readType role (Entries.get? es "type")
    let name? := readName (Entries.get? es "name")
    let props? := readProps (Entries.get? es "props")
    let slot? := readSlotIn role es s
    if !hasNames es then .error (.fields [])
    else match id?, type?, name?, props?, slot? with
    | some id, some type, some name, some props, some (slot, s) =>
      .ok (.node ⟨role, id, type, name, props, unknownEntries es⟩ slot, s)
    | _, _, _, _, _ =>
      .error (Fault.ofFields [("id", id?.isSome), ("type", type?.isSome), ("name", name?.isSome),
        ("props", props?.isSome), ("children", slot?.isSome)])
  | _, _ => .error (.fields [])

/-- Read the children slot among the attributes of a layer; a missing one is an empty list. -/
def readSlotIn (role : Role) : List (String × Value) → Supply → Option (Slot Layer × Supply)
  | [], s => some (.layers [], s)
  | (k, v) :: rest, s => if k = "children" then readSlot role v s else readSlotIn role rest s

/-- Read a children slot. That of a page must be a list. -/
def readSlot (role : Role) : Value → Supply → Option (Slot Layer × Supply)
  | .list items, s => (readItems items s).map fun (layers, s) => (.layers layers, s)
  | .set members, s => (readItems members s).map fun (layers, s) => (.layers layers, s)
  | v, s =>
    if role = .page then none
    else
      match v.text?, v.entries?.bind readReference with
      | some content, _ => some (.text content, s)
      | none, some variableId => some (.bound variableId, s)
      | none, none => none

/-- Read a list of component layers. -/
def readItems : List Value → Supply → Option (Forest × Supply)
  | [], s => some ([], s)
  | v :: rest, s =>
    match read .component v s with
    | .ok (layer, s) => (readItems rest s).map fun (layers, s) => (layer :: layers, s)
    | .error _ => none

end

/-- The layer with `props` written over its props and `patch` over its other attributes, checked
again as a whole. The id, and `props` in the patch, are the caller's concern: both are taken from
the layer. -/
def patched (l : Layer) (props patch : Entries Value) (s : Supply) : Option (Layer × Supply) :=
  let type? := ((Entries.get? patch "type").map Value.text?).getD (some l.type)
  let name? := ((Entries.get? patch "name").map Value.textOrNull?).getD (some l.head.name)
  let slot? :=
    match Entries.get? patch "children" with
    | some v => readSlot l.head.role v s
    | none => if l.head.role = .component ∨ l.holdsLayers then some (l.slot, s) else none
  match type?, name?, slot? with
  | some type, some name, some (slot, s) =>
    let merged := Entries.merge l.props (Entries.mapValues PropValue.ofValue props)
    if hasNames patch then
      some (.node { l.head with
        type := type
        name := name
        props := Entries.mapValues PropValue.normalized merged
        extra := Entries.merge l.head.extra (unknownEntries patch) } slot, s)
    else none
  | _, _, _ => none

/-- A component as the root of a page, which it can be if its children are a list. It keeps its
type. -/
def asPage? (l : Layer) : Option Layer :=
  if l.holdsLayers then
    some (.node { l.head with
      role := .page
      props := Entries.mapValues PropValue.normalized l.props } l.slot)
  else none

mutual

/-- A layer as data. -/
def toValue : Layer → Value
  | .node head slot =>
    .object ([("id", .str head.id), ("type", .str head.type),
      ("name", match head.name with | some name => .str name | none => .null),
      ("props", .object (Entries.mapValues PropValue.toValue head.props)),
      ("children", slotValue slot)] ++ head.extra)

/-- A children slot as data. -/
def slotValue : Slot Layer → Value
  | .layers items => .list (itemValues items)
  | .text content => .str content
  | .bound variableId => Value.ofReference variableId

/-- A list of layers as data. -/
def itemValues : List Layer → List Value
  | [] => []
  | l :: rest => l.toValue :: itemValues rest

end

end Layer

end LayerDoc
