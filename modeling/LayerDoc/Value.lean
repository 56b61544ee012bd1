import LayerDoc.Entries
import LayerDoc.Key

/-!
# Values

The dynamic data of a document: what a prop, a default, an extra attribute or a parsed text can
hold. Whole numbers and floating point numbers are different values, also when they are equal as
numbers, and objects keep the order of their keys. Some kinds of values come from document texts
only: bytes, dates, sets, mappings with keys that are not text, and values that hold themselves.
-/

namespace LayerDoc

/-- A piece of plain data. -/
inductive Value where
  | null
  | bool (b : Bool)
  | int (n : Int)
  | float (d : Double)
  | str (s : String)
  | list (items : List Value)
  | object (entries : List (String × Value))
  | bytes (content : List UInt8)
  | moment (t : Timestamp)
  /-- The members of a set, in the order in which they are shown. -/
  | set (members : List Value)
  /-- A mapping some key of which is not text. -/
  | mapping (entries : List (Key × Value))
  /-- The place at which a value holds one that it is a part of. -/
  | cycle
  deriving Inhabited, Repr

/-- A key as a value. -/
def Key.value : Key → Value
  | .null => .null
  | .bool b => .bool b
  | .int n => .int n
  | .float d => .float d
  | .str s => .str s
  | .bytes content => .bytes content
  | .moment t => .moment t

/-- The key that marks an object as a reference to a variable. -/
def referenceKey : String := "__variableRef"

namespace Value

/-- The text of a value that is text. -/
def str? : Value → Option String
  | .str s => some s
  | _ => none

/-- The marker object that stands for a reference. -/
def ofReference (variableId : String) : Value := .object [(referenceKey, .str variableId)]

/-- The variable that a marker object refers to: an object whose marker is text. -/
def reference? : Value → Option String
  | .object es => (Entries.get? es referenceKey).bind str?
  | .mapping es => (Key.find? es (.str referenceKey)).bind str?
  | _ => none

/-- Null, false, zero and whatever is empty count as absent where a text may leave a part out. -/
def isBlank : Value → Bool
  | .null => true
  | .bool b => !b
  | .int n => n = 0
  | .float d => d.isZero
  | .str s => s.isEmpty
  | .list items => items.isEmpty
  | .object es => es.isEmpty
  | .bytes content => content.isEmpty
  | .set members => members.isEmpty
  | .mapping es => es.isEmpty
  | _ => false

mutual

/-- The value with the keys of all its objects in the order of code points. -/
def sorted : Value → Value
  | .list items => .list (sortedItems items)
  | .object es => .object (Entries.sortByKey (sortedEntries es))
  | v => v

/-- `sorted` on each item. -/
def sortedItems : List Value → List Value
  | [] => []
  | v :: rest => v.sorted :: sortedItems rest

/-- `sorted` on each entry. -/
def sortedEntries : List (String × Value) → List (String × Value)
  | [] => []
  | (k, v) :: rest => (k, v.sorted) :: sortedEntries rest

end

mutual

/-- Whether the value can stand in program text. Bytes, dates, sets, what holds itself and numbers
of too many digits cannot; a mapping can if its keys can be keys there. -/
def hasCode : Value → Bool
  | .int n => isWritable n
  | .list items => itemsHaveCode items
  | .object es => entriesHaveCode es
  | .mapping es => mappingHasCode es
  | .bytes _ => false
  | .moment _ => false
  | .set _ => false
  | .cycle => false
  | _ => true

/-- `hasCode` of all items. -/
def itemsHaveCode : List Value → Bool
  | [] => true
  | v :: rest => v.hasCode && itemsHaveCode rest

/-- `hasCode` of all entries. -/
def entriesHaveCode : List (String × Value) → Bool
  | [] => true
  | (_, v) :: rest => v.hasCode && entriesHaveCode rest

/-- `hasCode` of all entries of a mapping, with their keys. -/
def mappingHasCode : List (Key × Value) → Bool
  | [] => true
  | (k, v) :: rest => k.json?.isSome && v.hasCode && mappingHasCode rest

end

@[simp] theorem reference?_ofReference (variableId : String) :
    (ofReference variableId).reference? = some variableId := by
  simp [ofReference, reference?, Entries.get?, str?]

end Value

end LayerDoc
