import LayerDoc.Decimal.Shortest
import LayerDoc.Text.Encoding
import LayerDoc.Timestamp

/-!
# Keys

What a mapping of a document text can have for a key: a piece of data without parts. Two keys that
are equal as numbers are one key, also if they are of different kinds.
-/

namespace LayerDoc

/-- A key of a mapping. -/
inductive Key where
  | null
  | bool (b : Bool)
  | int (n : Int)
  | float (d : Double)
  | str (s : String)
  | bytes (content : List UInt8)
  | moment (t : Timestamp)
  deriving DecidableEq, Inhabited, Repr

/-- JSON writes numbers as program text does, but has names of its own for what is not finite. -/
def Decimal.Layout.json : Decimal.Layout :=
  { Decimal.Layout.code with infinite := "Infinity", nan := "NaN" }

/-- Whether a whole number has few enough digits to be written as a text. -/
def isWritable (n : Int) : Bool := n.natAbs < Nat.pow 10 4300

theorem isWritable_pow : isWritable (Int.ofNat (Nat.pow 10 4300)) = false := by
  unfold isWritable
  generalize Nat.pow 10 4300 = k
  simp

namespace Key

/-- The number that a key is, if it is a whole one. Truth values are one and zero. -/
def whole? : Key → Option Int
  | .bool b => some (if b then 1 else 0)
  | .int n => some n
  | .float d => d.toInt?
  | _ => none

/-- Whether two keys are one key. -/
def same (a b : Key) : Bool :=
  match a.whole?, b.whole? with
  | some m, some n => m = n
  | none, none =>
    match a, b with
    | .float c, .float d => c.same d
    | .moment s, .moment t => s.same t
    | a, b => a = b
  | _, _ => false

/-- The text of a key that is text. -/
def str? : Key → Option String
  | .str s => some s
  | _ => none

/-- The text of a key that is text, or bytes that hold text. -/
def text? : Key → Option String
  | .str s => some s
  | .bytes content => Text.ofUtf8? content
  | _ => none

/-- The text of a key in a JSON text; dates, bytes and numbers of too many digits have none. -/
def json? : Key → Option String
  | .null => some "null"
  | .bool true => some "true"
  | .bool false => some "false"
  | .int n => if isWritable n then some (toString n) else none
  | .float d => some (d.text .json)
  | .str s => some s
  | .bytes _ => none
  | .moment _ => none

/-- A text with three replacement characters in the place of every unit that is no character, one
for each byte that it would take. -/
def replaced (s : String) : String :=
  if Text.Surrogate.occursIn s then
    String.ofList (s.toList.flatMap fun c =>
      if (Text.Surrogate.unit? c).isSome then ['\ufffd', '\ufffd', '\ufffd'] else [c])
  else s

/-- The text of a key where only text can be a key: dates and bytes have one there, and a number
that is not finite has that of null. -/
def plain : Key → String
  | .null => "None"
  | .bool true => "true"
  | .bool false => "false"
  | .int n => toString n
  | .float d => if d.isFinite then d.text .code else "None"
  | .str s => replaced s
  | .bytes content => (Text.ofUtf8? content).getD ""
  | .moment t => t.text

/-- The value under a key. -/
def find? {α : Type} : List (Key × α) → Key → Option α
  | [], _ => none
  | (k, v) :: rest, key => if k.same key then some v else find? rest key

/-- Write a value under a key: in place if the key is there, which keeps its first form, else at the
end. -/
def put {α : Type} : List (Key × α) → Key → α → List (Key × α)
  | [], key, value => [(key, value)]
  | (k, v) :: rest, key, value =>
    if k.same key then (k, value) :: rest else (k, v) :: put rest key value

end Key

end LayerDoc
