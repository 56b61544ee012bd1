import LayerDoc.Document

/-!
# History

Two stacks of documents around the present one. A commit that changes no data is not recorded, and
one of data that cannot be compared with that of the present document fails to be. Neither stack
grows beyond a limit; what is pushed on a full one drives out its oldest entry.
-/

namespace LayerDoc

/-- The documents before and after the present one, the nearest first. -/
structure History where
  limit : Nat
  past : List Document
  present : Document
  future : List Document

namespace History

/-- The greatest limit that a history can have. -/
def greatestLimit : Nat := Nat.pow 2 63 - 1

/-- A history that starts at a document. -/
def start (limit : Nat) (d : Document) : History := ⟨limit, [], d, []⟩

/-- Push on a stack that holds no more than `limit` entries. -/
def push (limit : Nat) (d : Document) (stack : List Document) : List Document :=
  (d :: stack).take limit

/-- The history with a new present document. What was undone before is lost. -/
def advanced (h : History) (d : Document) : History :=
  { h with past := push h.limit h.present h.past, present := d, future := [] }

/-- Record a commit, unless it changes no data. It is an error if one of the two documents that are
compared has no fingerprint. -/
def record (h : History) (d : Document) : Except Value.PlainFault History :=
  match d.fingerprint, h.present.fingerprint with
  | .ok new, .ok old => .ok (if new = old then h else h.advanced d)
  | .error fault, _ => .error fault
  | .ok _, .error fault => .error fault

/-- One step back, if there is one. -/
def undo? (h : History) : Option History :=
  match h.past with
  | [] => none
  | d :: past =>
    some { h with past := past, present := d, future := push h.limit h.present h.future }

/-- One step forward, if there is one. -/
def redo? (h : History) : Option History :=
  match h.future with
  | [] => none
  | d :: future =>
    some { h with past := push h.limit h.present h.past, present := d, future := future }

/-- Forget all steps and start again at a document. -/
def cleared (h : History) (d : Document) : History := start h.limit d

end History

end LayerDoc
