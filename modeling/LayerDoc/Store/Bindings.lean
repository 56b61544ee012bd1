import LayerDoc.Store.Layers

/-!
# Editing bindings

Tying props and children of layers to variables, and untying them. A slot that an immutable binding
ties to the variable it still refers to cannot be untied.
-/

namespace LayerDoc

namespace Store

/-- Whether a slot of a layer refers to the variable that an immutable binding ties it to. -/
def isPinned (st : Store) (l : Layer) (slot : String) (reference : Option String) : Bool :=
  match st.entryOf? l, reference with
  | some entry, some variableId => entry.immutableBinding? slot = some variableId
  | _, _ => false

/-- The variable that a prop of a layer refers to. -/
def propReference? (l : Layer) (prop : String) : Option String :=
  (Entries.get? l.props prop).bind PropValue.reference?

/-- Whether a prop of a layer of the selected page is tied for good. -/
def isPropPinned (st : Store) (id prop : String) : Bool :=
  match st.document.layer? id with
  | some layer => st.isPinned layer prop (propReference? layer prop)
  | none => false

/-- Whether the children of a layer of the selected page are tied for good. -/
def isChildrenPinned (st : Store) (id : String) : Bool :=
  match st.document.layer? id with
  | some layer => st.isPinned layer childrenProp layer.slot.reference?
  | none => false

/-- Tie a prop to a variable. -/
def bindProp (st : Store) (s : Supply) (id prop variableId : String) : Edit Unit :=
  st.updateLayer s id [(prop, Value.ofReference variableId)] []

/-- Untie a prop: it gets its default, or else the empty text. -/
def unbindProp (st : Store) (s : Supply) (id prop : String) : Edit Unit :=
  if st.isPropPinned id prop then Edit.refuse () s (.propPinned prop id)
  else
    match st.document.layer? id with
    | none => Edit.refuse () s (.layerUnknown id)
    | some layer =>
      match propReference? layer prop with
      | none => Edit.idle () s
      | some _ =>
        let value := (Entries.get? (st.registry.defaultProps layer.type) prop).getD (.str "")
        st.updateLayer s id [(prop, value)] []

/-- Tie the children of a layer to a variable, if its type takes text. -/
def bindChildren (st : Store) (s : Supply) (id variableId : String) : Edit Unit :=
  match st.document.layer? id with
  | none => Edit.refuse () s (.layerUnknown id)
  | some layer =>
    if ((st.entryOf? layer).map RegistryEntry.acceptsText).getD false then
      st.updateLayer s id [] [("children", Value.ofReference variableId)]
    else Edit.refuse () s (.textRefused layer.type)

/-- Untie the children of a layer: they become the default text, which may be empty. -/
def unbindChildren (st : Store) (s : Supply) (id : String) : Edit Unit :=
  if st.isChildrenPinned id then Edit.refuse () s (.childrenPinned id)
  else
    match st.document.layer? id with
    | none => Edit.refuse () s (.layerUnknown id)
    | some layer =>
      match layer.slot.reference? with
      | none => Edit.idle () s
      | some _ => st.updateLayer s id [] [("children", .str (st.registry.defaultText layer.type))]

end Store

end LayerDoc
