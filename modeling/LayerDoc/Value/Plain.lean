import LayerDoc.Value

/-!
# Plain values

What is shown of data and written to files is made of null, truth values, finite numbers, texts,
lists and objects alone. Each other kind of value has a plain form: a number that is not finite is
null, a date is its text, bytes are the text that they hold, a set is a list, and keys become text.
Bytes that hold no text and values that hold themselves have none, nor have keys that are numbers of
too many digits.
-/

namespace LayerDoc.Value

/-- Why a value has no plain form. -/
inductive PlainFault where
  /-- Bytes hold no text. -/
  | notText
  /-- A value holds itself. -/
  | cyclic
  /-- A whole number has too many digits. -/
  | tooLong
  deriving DecidableEq, Repr

mutual

/-- The plain form of a value, which counts only if the value has no `plainFault?`. -/
def plain : Value → Value
  | .float d => if d.isFinite then .float d else .null
  | .list items => .list (plainItems items)
  | .object es => .object (plainEntries es)
  | .bytes content => .str ((Text.ofUtf8? content).getD "")
  | .moment t => .str t.text
  | .set members => .list (plainItems members)
  | .mapping es => .object (Entries.ofWrites (plainMapping es))
  | .cycle => .null
  | v => v

/-- `plain` on each item. -/
def plainItems : List Value → List Value
  | [] => []
  | v :: rest => v.plain :: plainItems rest

/-- `plain` on each entry. -/
def plainEntries : List (String × Value) → List (String × Value)
  | [] => []
  | (k, v) :: rest => (Key.replaced k, v.plain) :: plainEntries rest

/-- `plain` on each entry of a mapping. Keys that become equal are for the caller to join. -/
def plainMapping : List (Key × Value) → List (String × Value)
  | [] => []
  | (k, v) :: rest => (k.plain, v.plain) :: plainMapping rest

end

/-- Why a key has no plain form. -/
def keyFault? : Key → Option PlainFault
  | .bytes content => if (Text.ofUtf8? content).isSome then none else some .notText
  | .int n => if isWritable n then none else some .tooLong
  | _ => none

mutual

/-- The first reason, from left to right, why a value has no plain form. -/
def plainFault? : Value → Option PlainFault
  | .list items => itemsFault? items
  | .object es => entriesFault? es
  | .bytes content => if (Text.ofUtf8? content).isSome then none else some .notText
  | .set members => itemsFault? members
  | .mapping es => mappingFault? es
  | .cycle => some .cyclic
  | _ => none

/-- `plainFault?` of the items. -/
def itemsFault? : List Value → Option PlainFault
  | [] => none
  | v :: rest => v.plainFault? <|> itemsFault? rest

/-- `plainFault?` of the entries. -/
def entriesFault? : List (String × Value) → Option PlainFault
  | [] => none
  | (_, v) :: rest => v.plainFault? <|> entriesFault? rest

/-- `plainFault?` of the entries of a mapping, with their keys. -/
def mappingFault? : List (Key × Value) → Option PlainFault
  | [] => none
  | (k, v) :: rest => keyFault? k <|> v.plainFault? <|> mappingFault? rest

end

/-- The plain form of a value, or the reason why there is none. -/
def plain? (v : Value) : Except PlainFault Value :=
  match v.plainFault? with
  | some fault => .error fault
  | none => .ok v.plain

theorem plainItems_eq_map (items : List Value) : plainItems items = items.map plain := by
  induction items with
  | nil => rfl
  | cons v rest ih => simp [plainItems, ih]

end LayerDoc.Value
