import LayerDoc.Store.Basic

/-!
# Editing variables

Adding, changing and removing variables. With a variable every binding to it goes, on every page:
a bound prop falls back to its default or goes too, bound children fall back to a text.
-/

namespace LayerDoc

/-- What the props of a layer fall back to when their variable goes. A prop without a default
goes. -/
def Props.released (variableId : String) (defaults : Entries Value) (props : Props) : Props :=
  props.filterMap fun p =>
    if p.2.reference? = some variableId then
      (Entries.get? defaults p.1).map fun v => (p.1, .plain v)
    else some p

namespace Layer

/-- A layer's own attributes without the bindings to a variable. -/
def releasedHead (registry : Registry) (variableId : String) (head : Head) : Head :=
  { head with props := head.props.released variableId (registry.defaultProps head.type) }

mutual

/-- A layer without the bindings to a variable, at any depth. -/
def released (registry : Registry) (variableId : String) : Layer → Layer
  | .node head (.layers items) =>
    .node (releasedHead registry variableId head)
      (.layers (releasedItems registry variableId items))
  | .node head (.text content) => .node (releasedHead registry variableId head) (.text content)
  | .node head (.bound other) =>
    .node (releasedHead registry variableId head)
      (if other = variableId then .text (registry.defaultText head.type) else .bound other)

/-- `released` on each layer of a list. -/
def releasedItems (registry : Registry) (variableId : String) : List Layer → List Layer
  | [] => []
  | l :: rest => released registry variableId l :: releasedItems registry variableId rest

end

end Layer

namespace Store

/-- Add a variable at the end. The result is its id. -/
def addVariable (st : Store) (s : Supply) (name type default : Value) : Edit (Option String) :=
  let (id, after) := s.next
  match name.text?, VariableType.ofValue? type with
  | some name, some type =>
    Edit.commit (some id)
      { st.document with vars := st.document.vars ++ [⟨id, name, type, default⟩] } after []
  | _, _ => Edit.refuse none s (.variableRefused name)

/-- Write a patch over a variable. Every variable with the id becomes the patched first one. -/
def updateVariable (st : Store) (s : Supply) (id : String) (patch : Entries Value) : Edit Unit :=
  match Variable.find? st.document.vars id with
  | none => Edit.refuse () s (.variableUnknown id)
  | some found =>
    match found.patched patch with
    | none => Edit.refuse () s (.variablePatchRefused id)
    | some updated =>
      Edit.commit ()
        { st.document with
          vars := st.document.vars.map fun v => if v.id = id then updated else v }
        s []

/-- Remove a variable and every binding to it. -/
def removeVariable (st : Store) (s : Supply) (id : String) : Edit Unit :=
  match Variable.find? st.document.vars id with
  | none => Edit.refuse () s (.variableUnknown id)
  | some _ =>
    Edit.commit ()
      { st.document with
        pages := Layer.releasedItems st.registry id st.document.pages
        vars := st.document.vars.filter (·.id ≠ id) }
      s []

end Store

end LayerDoc
