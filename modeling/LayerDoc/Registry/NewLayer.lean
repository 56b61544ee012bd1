import LayerDoc.Forest.Basic
import LayerDoc.Registry.Entry
import LayerDoc.Warning

/-!
# New layers

A new layer starts with what the registry knows of its type: the defaults of its props, a copy of
the children of its template, and its bindings, which are written over both.
-/

namespace LayerDoc

namespace RegistryEntry

/-- The children that a new layer starts with, before its bindings. -/
def initialSlot (e : RegistryEntry) (s : Supply) : Slot Layer × Supply :=
  match e.template with
  | some (.text content) => (.text content, s)
  | some (.bound variableId) => (.bound variableId, s)
  | some (.layers items) => ((.layers (Layer.copyItems items s).1), (Layer.copyItems items s).2)
  | none => (.layers [], s)

/-- The props that a new layer starts with, its bindings included. -/
def initialProps (e : RegistryEntry) : Props :=
  Entries.merge (Entries.mapValues PropValue.ofValue e.defaultProps)
    ((e.bindings.filter (·.prop ≠ childrenProp)).map fun b => (b.prop, .bound b.variableId))

/-- The variable that the children of a new layer are bound to: that of the last such binding. -/
def childrenBinding? (e : RegistryEntry) : Option String :=
  ((e.bindings.filter (·.prop = childrenProp)).getLast?).map Binding.variableId

end RegistryEntry

namespace Layer

/-- A new layer of a type that may be registered, with the warnings about required props that have
no default. -/
def ofType (type : String) (entry : Option RegistryEntry) (s : Supply) :
    Layer × List Warning × Supply :=
  match entry with
  | none =>
    let (id, s) := s.next
    (.node ⟨.component, id, type, some type, [], []⟩ (.layers []), [], s)
  | some entry =>
    let (slot, s) := entry.initialSlot s
    let slot :=
      match entry.childrenBinding? with
      | some variableId => .bound variableId
      | none => slot
    let (id, s) := s.next
    (.node ⟨.component, id, type, some type, entry.initialProps, []⟩ slot,
      entry.missingRequired.map (.requiredWithoutDefault · type), s)

end Layer

end LayerDoc
