import LayerDoc.Proofs.History.Documents
import Mathlib.Data.List.Chain

/-!
# The history as a timeline

A timeline is one list of documents, the oldest first, with a cursor at the present one. The two
stacks of a history around its present document are such a list (`History.timeline`). Recording a
commit is a commit on the timeline, and as long as both stacks together hold no more than one stack
may, steps through the history move the cursor and drive nothing out. Documents are compared by
their keys, and one whose data cannot be written has none; such a commit breaks off and leaves the
timeline as it is.
-/

namespace LayerDoc

/-- A document has a key that it is compared by. -/
def Document.HasKey (d : Document) : Prop := ∃ key, d.fingerprint = .ok key

instance (d : Document) : Decidable d.HasKey :=
  match h : d.fingerprint with
  | .ok key => isTrue ⟨key, h⟩
  | .error _ => isFalse (by simp [Document.HasKey, h])

/-- Two documents have keys, and not the same. -/
def Document.Differs (c d : Document) : Prop :=
  ∃ old new, c.fingerprint = .ok old ∧ d.fingerprint = .ok new ∧ old ≠ new

instance (c d : Document) : Decidable (c.Differs d) :=
  match hc : c.fingerprint, hd : d.fingerprint with
  | .ok old, .ok new => decidable_of_iff (old ≠ new) (by simp [Document.Differs, hc, hd])
  | .error _, _ => isFalse (by simp [Document.Differs, hc])
  | .ok _, .error _ => isFalse (by simp [Document.Differs, hd])

/-- Two documents have the same key, as far as they have keys. -/
def Document.Agrees (c d : Document) : Prop :=
  ∀ key key', c.fingerprint = .ok key → d.fingerprint = .ok key' → key = key'

/-- Documents in the order of their commits, the place of the present one among them, and how many
may lie before it. -/
structure Timeline where
  limit : Nat
  entries : List Document
  cursor : Nat

namespace Timeline

/-- The document at the cursor. -/
def present? (l : Timeline) : Option Document := l.entries[l.cursor]?

/-- The timeline with a new present document. What comes after the cursor is cut off and the
document takes its place there; then the oldest documents give way until no more than the limit lie
before the cursor. -/
def advanced (l : Timeline) (d : Document) : Timeline :=
  let excess := l.cursor + 1 - l.limit
  { l with
    entries := (l.entries.take (l.cursor + 1) ++ [d]).drop excess
    cursor := l.cursor + 1 - excess }

/-- Commit a document. One with the key of the present document changes nothing. If one of the two
documents has no key, the commit breaks off and changes nothing here. -/
def commit (l : Timeline) (d : Document) : Timeline :=
  match d.fingerprint, l.present?.map Document.fingerprint with
  | .ok new, some (.ok old) => if new = old then l else l.advanced d
  | _, _ => l

/-- One place back, if there is one. -/
def undo? (l : Timeline) : Option Timeline :=
  if 0 < l.cursor then some { l with cursor := l.cursor - 1 } else none

/-- One place forward, if there is one. -/
def redo? (l : Timeline) : Option Timeline :=
  if l.cursor + 1 < l.entries.length then some { l with cursor := l.cursor + 1 } else none

/-- The timeline with one document only. -/
def cleared (l : Timeline) (d : Document) : Timeline := { l with entries := [d], cursor := 0 }

end Timeline

namespace History

/-- The timeline that the stacks of a history make up. -/
def timeline (h : History) : Timeline :=
  ⟨h.limit, h.past.reverse ++ h.present :: h.future, h.past.length⟩

/-- Both stacks together hold no more than one stack may. -/
def Bounded (h : History) : Prop := h.past.length + h.future.length ≤ h.limit

/-- Documents that follow each other have different keys. -/
def Distinct (h : History) : Prop := h.timeline.entries.IsChain Document.Differs

variable {h : History} {d : Document}

/-! ## The parts of the timeline -/

theorem present?_timeline (h : History) : h.timeline.present? = some h.present := by
  simp [timeline, Timeline.present?]

theorem past_eq_take (h : History) :
    h.past = (h.timeline.entries.take h.timeline.cursor).reverse := by
  simp [timeline]

theorem future_eq_drop (h : History) :
    h.future = h.timeline.entries.drop (h.timeline.cursor + 1) := by
  simp [timeline, List.drop_append]

/-- What lies before the cursor and at it, the oldest first. -/
theorem take_timeline (h : History) :
    h.timeline.entries.take (h.timeline.cursor + 1) = (h.present :: h.past).reverse := by
  have hentries : h.timeline.entries = (h.present :: h.past).reverse ++ h.future := by
    simp [timeline]
  rw [hentries, List.take_left' (by simp [timeline])]

/-! ## Recording a commit -/

theorem timeline_advanced (h : History) (d : Document) :
    (h.advanced d).timeline = h.timeline.advanced d := by
  have hlength : (h.present :: h.past).reverse.length = h.past.length + 1 := by simp
  have hexcess : h.past.length + 1 - h.limit ≤ (h.present :: h.past).reverse.length := by omega
  have hentries : (push h.limit h.present h.past).reverse ++ [d] =
      ((h.present :: h.past).reverse ++ [d]).drop (h.past.length + 1 - h.limit) := by
    rw [push, List.reverse_take, List.drop_append_of_le_length hexcess, List.length_cons]
  have hcursor : (push h.limit h.present h.past).length =
      h.past.length + 1 - (h.past.length + 1 - h.limit) := by
    rw [push, List.length_take, List.length_cons]
    omega
  rw [Timeline.advanced, take_timeline]
  simp only [timeline, advanced, hentries, hcursor]

/-- Recording a commit is a commit on the timeline. -/
theorem timeline_record {h' : History} (hrecord : h.record d = .ok h') :
    h'.timeline = h.timeline.commit d := by
  obtain ⟨new, old, hnew, hold, rfl⟩ := record_eq_ok_iff.mp hrecord
  rw [Timeline.commit, present?_timeline, Option.map_some, hnew, hold]
  dsimp only
  split
  · rfl
  · exact timeline_advanced h d

/-- What cannot be recorded changes nothing on the timeline. -/
theorem commit_timeline_of_error {fault : Value.PlainFault} (hrecord : h.record d = .error fault) :
    h.timeline.commit d = h.timeline := by
  rw [Timeline.commit, present?_timeline, Option.map_some]
  rcases record_eq_error_iff.mp hrecord with hnew | ⟨⟨new, hnew⟩, hold⟩
  · rw [hnew]
  · rw [hnew, hold]

/-- What holds of a history in order: neither side drives a document out, and neighbours differ. -/
structure InOrder (h : History) (limit : Nat) : Prop where
  limit : h.limit = limit
  bounded : h.Bounded
  distinct : h.Distinct

theorem inOrder_start (limit : Nat) (d : Document) : (start limit d).InOrder limit :=
  ⟨rfl, Nat.zero_le _, List.isChain_singleton d⟩

theorem InOrder.advanced {limit : Nat} (horder : h.InOrder limit) (hdiffers : h.present.Differs d) :
    (h.advanced d).InOrder limit := by
  refine ⟨horder.limit, ?_, ?_⟩
  · simp only [Bounded, History.advanced, push, List.length_take, List.length_nil, Nat.add_zero]
    exact Nat.min_le_left _ _
  · rw [Distinct, timeline_advanced, Timeline.advanced]
    refine List.IsChain.drop ?_ _
    refine List.isChain_append.mpr ⟨horder.distinct.take _, List.isChain_singleton d, ?_⟩
    -- the last entry that is kept is the present document
    rw [take_timeline]
    intro c hc d' hd'
    simp only [List.reverse_cons, List.getLast?_concat, Option.mem_some_iff] at hc
    simp only [List.head?_cons, Option.mem_some_iff] at hd'
    exact hc ▸ hd' ▸ hdiffers

/-- A commit changes the history if it and the present document have keys, and not the same. -/
theorem record_of_differs (hdiffers : h.present.Differs d) : h.record d = .ok (h.advanced d) := by
  obtain ⟨old, new, hold, hnew, hother⟩ := hdiffers
  exact record_eq_ok_iff.mpr ⟨new, old, hnew, hold, if_neg (Ne.symm hother)⟩

theorem record_of_not_differs {h' : History} (hsame : ¬ h.present.Differs d)
    (hrecord : h.record d = .ok h') : h' = h := by
  obtain ⟨new, old, hnew, hold, rfl⟩ := record_eq_ok_iff.mp hrecord
  exact if_pos (by_contra fun hother => hsame ⟨old, new, hold, hnew, Ne.symm hother⟩)

/-- A recorded commit keeps the history in order, and the present document then has its key. -/
theorem InOrder.record {limit : Nat} {h' : History} (horder : h.InOrder limit)
    (hrecord : h.record d = .ok h') :
    h'.InOrder limit ∧ h'.present.fingerprint = d.fingerprint := by
  obtain ⟨new, old, hnew, hold, rfl⟩ := record_eq_ok_iff.mp hrecord
  split
  · next hsame => exact ⟨horder, by rw [hnew, hold, hsame]⟩
  · next hother => exact ⟨horder.advanced ⟨old, new, hold, hnew, Ne.symm hother⟩, rfl⟩

/-! ## Steps back and forward -/

theorem push_of_lt {limit : Nat} {stack : List Document} (hlt : stack.length < limit) :
    push limit d stack = d :: stack := List.take_of_length_le hlt

/-- A step back takes the nearest document before the present one, which goes to the other side.
None is driven out there. -/
theorem undo?_eq_some {h' : History} (hbounded : h.Bounded) :
    h.undo? = some h' ↔
      h.past = h'.present :: h'.past ∧ h'.future = h.present :: h.future ∧ h'.limit = h.limit := by
  obtain ⟨limit, past, present, future⟩ := h
  obtain ⟨limit', past', present', future'⟩ := h'
  cases past with
  | nil => simp [undo?]
  | cons d past =>
    simp only [Bounded, List.length_cons] at hbounded
    have hpush : push limit present future = present :: future := push_of_lt (by omega)
    simp only [undo?, hpush, Option.some.injEq, mk.injEq, List.cons.injEq]
    constructor
    · rintro ⟨rfl, rfl, rfl, rfl⟩
      exact ⟨⟨rfl, rfl⟩, rfl, rfl⟩
    · rintro ⟨⟨rfl, rfl⟩, rfl, rfl⟩
      exact ⟨rfl, rfl, rfl, rfl⟩

/-- A step forward takes the nearest document after the present one, which goes to the other side.
None is driven out there. -/
theorem redo?_eq_some {h' : History} (hbounded : h.Bounded) :
    h.redo? = some h' ↔
      h.future = h'.present :: h'.future ∧ h'.past = h.present :: h.past ∧ h'.limit = h.limit := by
  have hflipped : h.flipped.Bounded := (Nat.add_comm _ _).trans_le hbounded
  rw [redo?_eq_flipped, Option.map_eq_some_iff]
  constructor
  · rintro ⟨g, hundo, rfl⟩
    exact (undo?_eq_some hflipped).mp hundo
  · intro hsides
    exact ⟨h'.flipped, (undo?_eq_some hflipped).mpr hsides, rfl⟩

theorem undo?_eq_none : h.undo? = none ↔ h.past = [] := by
  obtain ⟨limit, past, present, future⟩ := h
  cases past <;> simp [undo?]

theorem redo?_eq_none : h.redo? = none ↔ h.future = [] := by
  rw [redo?_eq_flipped, Option.map_eq_none_iff, undo?_eq_none]
  rfl

/-- A step back moves the cursor back. -/
theorem timeline_undo (hbounded : h.Bounded) : h.undo?.map timeline = h.timeline.undo? := by
  cases hundo : h.undo? with
  | none => simp [timeline, Timeline.undo?, undo?_eq_none.mp hundo]
  | some h' =>
    obtain ⟨hpast, hfuture, hlimit⟩ := (undo?_eq_some hbounded).mp hundo
    simp [timeline, Timeline.undo?, hpast, hfuture, hlimit]

/-- A step forward moves the cursor forward. -/
theorem timeline_redo (hbounded : h.Bounded) : h.redo?.map timeline = h.timeline.redo? := by
  cases hredo : h.redo? with
  | none => simp [timeline, Timeline.redo?, redo?_eq_none.mp hredo]
  | some h' =>
    obtain ⟨hfuture, hpast, hlimit⟩ := (redo?_eq_some hbounded).mp hredo
    simp [timeline, Timeline.redo?, hpast, hfuture, hlimit]

/-- Steps go over the documents that are there. -/
theorem entries_of_undo {h' : History} (hbounded : h.Bounded) (hundo : h.undo? = some h') :
    h'.timeline.entries = h.timeline.entries := by
  obtain ⟨hpast, hfuture, -⟩ := (undo?_eq_some hbounded).mp hundo
  simp [timeline, hpast, hfuture]

theorem entries_of_redo {h' : History} (hbounded : h.Bounded) (hredo : h.redo? = some h') :
    h'.timeline.entries = h.timeline.entries := by
  obtain ⟨hfuture, hpast, -⟩ := (redo?_eq_some hbounded).mp hredo
  simp [timeline, hpast, hfuture]

theorem bounded_of_undo {h' : History} (hbounded : h.Bounded) (hundo : h.undo? = some h') :
    h'.Bounded := by
  obtain ⟨hpast, hfuture, hlimit⟩ := (undo?_eq_some hbounded).mp hundo
  simp only [Bounded, hpast, hfuture, hlimit, List.length_cons] at hbounded ⊢
  omega

theorem bounded_of_redo {h' : History} (hbounded : h.Bounded) (hredo : h.redo? = some h') :
    h'.Bounded := by
  obtain ⟨hfuture, hpast, hlimit⟩ := (redo?_eq_some hbounded).mp hredo
  simp only [Bounded, hpast, hfuture, hlimit, List.length_cons] at hbounded ⊢
  omega

theorem InOrder.undo {limit : Nat} {h' : History} (horder : h.InOrder limit)
    (hundo : h.undo? = some h') : h'.InOrder limit := by
  refine ⟨((undo?_eq_some horder.bounded).mp hundo).2.2.trans horder.limit,
    bounded_of_undo horder.bounded hundo, ?_⟩
  rw [Distinct, entries_of_undo horder.bounded hundo]
  exact horder.distinct

theorem InOrder.redo {limit : Nat} {h' : History} (horder : h.InOrder limit)
    (hredo : h.redo? = some h') : h'.InOrder limit := by
  refine ⟨((redo?_eq_some horder.bounded).mp hredo).2.2.trans horder.limit,
    bounded_of_redo horder.bounded hredo, ?_⟩
  rw [Distinct, entries_of_redo horder.bounded hredo]
  exact horder.distinct

/-- A step back can be taken again forward. -/
theorem redo_undo {h' : History} (hbounded : h.Bounded) (hundo : h.undo? = some h') :
    h'.redo? = some h := by
  obtain ⟨hpast, hfuture, hlimit⟩ := (undo?_eq_some hbounded).mp hundo
  exact (redo?_eq_some (bounded_of_undo hbounded hundo)).mpr ⟨hfuture, hpast, hlimit.symm⟩

end History

end LayerDoc
