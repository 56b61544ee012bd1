import LayerDoc.Value

/-!
# Layers

A page is a tree of layers. A layer has an id, a type, perhaps a name, props, attributes of its
own making, and a slot for its children: a list of layers, a text, or a reference to the variable
that gives the text.
-/

namespace LayerDoc

/-- The type of a page that does not say its type. -/
def pageType : String := "_page_"

/-- What a prop holds: a reference to a variable, or plain data. -/
inductive PropValue where
  | bound (variableId : String)
  | plain (value : Value)
  deriving Inhabited, Repr

namespace PropValue

/-- A marker object becomes a reference; all other data stays as it is. -/
def ofValue (v : Value) : PropValue :=
  match v.reference? with
  | some variableId => .bound variableId
  | none => .plain v

/-- The data that stands for what a prop holds. -/
def toValue : PropValue → Value
  | .bound variableId => Value.ofReference variableId
  | .plain v => v

/-- The variable that a prop refers to. A marker object counts as a reference. -/
def reference? : PropValue → Option String
  | .bound variableId => some variableId
  | .plain v => v.reference?

/-- The same with a marker object turned into a reference. -/
def normalized (p : PropValue) : PropValue := ofValue p.toValue

@[simp] theorem normalized_bound (variableId : String) :
    (bound variableId).normalized = .bound variableId := by
  simp [normalized, toValue, ofValue]

@[simp] theorem reference?_ofValue (v : Value) : (ofValue v).reference? = v.reference? := by
  unfold ofValue
  split <;> simp_all [reference?]

end PropValue

/-- The props of a layer. -/
abbrev Props := Entries PropValue

/-- Whether a layer was made as a page, whose slot must be a list, or as a component. -/
inductive Role where
  | page
  | component
  deriving DecidableEq, Repr

/-- All that a layer holds beside its children. -/
structure Head where
  role : Role
  id : String
  type : String
  name : Option String
  props : Props
  /-- Attributes that the model does not know, in order. -/
  extra : Entries Value
  deriving Repr

/-- What stands in the place of a layer's children. -/
inductive Slot (α : Type) where
  | layers (items : List α)
  | text (content : String)
  | bound (variableId : String)
  deriving Repr

/-- A layer with all that is below it. -/
inductive Layer where
  | node (head : Head) (slot : Slot Layer)
  deriving Repr

/-- Layers side by side. -/
abbrev Forest := List Layer

namespace Slot

variable {α : Type}

/-- The variable that a slot refers to. -/
def reference? : Slot α → Option String
  | .bound variableId => some variableId
  | _ => none

/-- Whether a slot is a list of layers. -/
def isList : Slot α → Bool
  | .layers _ => true
  | _ => false

/-- The layers of a slot. -/
def items : Slot α → List α
  | .layers items => items
  | _ => []

end Slot

namespace Layer

def head : Layer → Head
  | .node head _ => head

def slot : Layer → Slot Layer
  | .node _ slot => slot

def id (l : Layer) : String := l.head.id

def type (l : Layer) : String := l.head.type

def props (l : Layer) : Props := l.head.props

/-- The child layers; none if the slot is no list. -/
def children (l : Layer) : Forest := l.slot.items

/-- Whether the slot is a list, which may be empty. -/
def holdsLayers (l : Layer) : Bool := l.slot.isList

/-- The layer with other children. -/
def withSlot (l : Layer) (slot : Slot Layer) : Layer := .node l.head slot

@[simp] theorem head_node (head : Head) (slot : Slot Layer) : (node head slot).head = head := rfl

@[simp] theorem slot_node (head : Head) (slot : Slot Layer) : (node head slot).slot = slot := rfl

end Layer

end LayerDoc
