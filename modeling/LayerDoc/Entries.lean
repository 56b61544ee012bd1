import LayerDoc.Text.Encoding

/-!
# Ordered entries

A finite map written as the list of its entries. The order is the order in which the keys were
first written, and it is kept: a second write to a key changes the value in its place.
-/

namespace LayerDoc

/-- Keys with their values, in the order in which the keys were first written. -/
abbrev Entries (α : Type) := List (String × α)

namespace Entries

variable {α β : Type}

/-- The value of the first entry under `key`. -/
def get? : Entries α → String → Option α
  | [], _ => none
  | (k, v) :: rest, key => if k = key then some v else get? rest key

/-- Whether some entry stands under `key`. -/
def has (es : Entries α) (key : String) : Bool := (get? es key).isSome

/-- The keys, in order. -/
def keys (es : Entries α) : List String := es.map Prod.fst

/-- Write `value` under `key`: in place if the key is there, else at the end. -/
def put : Entries α → String → α → Entries α
  | [], key, value => [(key, value)]
  | (k, v) :: rest, key, value =>
    if k = key then (k, value) :: rest else (k, v) :: put rest key value

/-- Write the entries of `patch` over `es`, one after the other. -/
def merge (es patch : Entries α) : Entries α :=
  patch.foldl (fun acc e => put acc e.1 e.2) es

/-- Entries of distinct keys from a list in which a later write wins over an earlier one. -/
def ofWrites (writes : List (String × α)) : Entries α := merge [] writes

/-- Change every value by `f`, keys and order kept. -/
def mapValues (f : α → β) (es : Entries α) : Entries β := es.map fun e => (e.1, f e.2)

/-- Keys in the order of their code points; equal keys keep their order. -/
def insertSorted (e : String × α) : Entries α → Entries α
  | [] => [e]
  | d :: rest =>
    if Text.Surrogate.codes e.1 < Text.Surrogate.codes d.1 then e :: d :: rest
    else d :: insertSorted e rest

/-- The entries sorted by key, in the order of code points. -/
def sortByKey (es : Entries α) : Entries α := es.foldl (fun acc e => insertSorted e acc) []

@[simp] theorem get?_nil (key : String) : get? ([] : Entries α) key = none := rfl

theorem get?_put_self (es : Entries α) (key : String) (value : α) :
    get? (put es key value) key = some value := by
  induction es with
  | nil => simp [put, get?]
  | cons e rest ih =>
    by_cases h : e.1 = key
    · simp [put, get?, h]
    · simp [put, get?, h, ih]

theorem get?_put_of_ne (es : Entries α) {key other : String} (value : α) (h : other ≠ key) :
    get? (put es key value) other = get? es other := by
  induction es with
  | nil => simp [put, get?, h.symm]
  | cons e rest ih =>
    by_cases hk : e.1 = key
    · subst hk; simp [put, get?, h.symm]
    · by_cases ho : e.1 = other
      · simp [put, get?, ho, h]
      · simp [put, get?, hk, ho, ih]

end Entries

end LayerDoc
