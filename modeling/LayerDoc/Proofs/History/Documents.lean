import LayerDoc.History

/-!
# The documents of a history

The documents of a history are the present one and those on the two stacks. Recording a commit adds
the commit or nothing (`History.record_eq_ok_iff`), and steps add nothing. What goes back on the one
side goes forward on the other (`History.redo?_eq_flipped`), so that steps forward need no proofs of
their own.
-/

namespace LayerDoc.History

variable {h h' : History} {d : Document}

/-- The documents of a history. -/
def documents (h : History) : List Document := h.present :: (h.past ++ h.future)

theorem mem_documents : d ∈ h.documents ↔ d = h.present ∨ d ∈ h.past ∨ d ∈ h.future := by
  simp [documents]

/-- The history with its two sides exchanged. -/
def flipped (h : History) : History := { h with past := h.future, future := h.past }

theorem mem_documents_flipped : d ∈ h.flipped.documents ↔ d ∈ h.documents := by
  rw [mem_documents, mem_documents]
  exact or_congr Iff.rfl or_comm

/-- A step forward is a step back on the other side. -/
theorem redo?_eq_flipped (h : History) : h.redo? = h.flipped.undo?.map flipped := by
  obtain ⟨limit, past, present, future⟩ := h
  cases future <;> rfl

theorem push_subset (limit : Nat) (d : Document) (stack : List Document) :
    push limit d stack ⊆ d :: stack := List.take_subset _ _

/-- A commit is recorded if it and the present document have keys. -/
theorem record_eq_ok_iff : h.record d = .ok h' ↔
    ∃ new old, d.fingerprint = .ok new ∧ h.present.fingerprint = .ok old ∧
      (if new = old then h else h.advanced d) = h' := by
  unfold record
  cases d.fingerprint with
  | error fault => simp
  | ok new =>
    cases h.present.fingerprint with
    | error fault => simp
    | ok old => simp

theorem record_eq_error_iff {fault : Value.PlainFault} : h.record d = .error fault ↔
    d.fingerprint = .error fault ∨
      (∃ new, d.fingerprint = .ok new) ∧ h.present.fingerprint = .error fault := by
  unfold record
  cases d.fingerprint with
  | error other => simp
  | ok new =>
    cases h.present.fingerprint with
    | error other => simp
    | ok old => simp

theorem documents_advanced (h : History) (c : Document) :
    (h.advanced c).documents ⊆ c :: h.documents := by
  intro d hd
  rw [mem_documents] at hd
  rw [List.mem_cons, mem_documents]
  rcases hd with hd | hd | hd
  · exact Or.inl hd
  · rcases List.mem_cons.mp (push_subset _ _ _ hd) with hd | hd
    · exact Or.inr (Or.inl hd)
    · exact Or.inr (Or.inr (Or.inl hd))
  · cases hd

/-- What is recorded is the only new document of a history. -/
theorem mem_documents_record {c : Document} (hrecord : h.record c = .ok h')
    (hd : d ∈ h'.documents) : d ∈ h.documents ∨ d = c := by
  obtain ⟨new, old, -, -, rfl⟩ := record_eq_ok_iff.mp hrecord
  split at hd
  · exact Or.inl hd
  · exact (List.mem_cons.mp (documents_advanced h c hd)).symm

theorem documents_undo (hundo : h.undo? = some h') : h'.documents ⊆ h.documents := by
  unfold undo? at hundo
  split at hundo
  · cases hundo
  · next e past hpast =>
    cases hundo
    intro d hd
    rw [mem_documents] at hd ⊢
    rcases hd with hd | hd | hd
    · exact Or.inr (Or.inl (hpast ▸ hd ▸ List.mem_cons_self))
    · exact Or.inr (Or.inl (hpast ▸ List.mem_cons_of_mem _ hd))
    · rcases List.mem_cons.mp (push_subset _ _ _ hd) with hd | hd
      · exact Or.inl hd
      · exact Or.inr (Or.inr hd)

theorem documents_redo (hredo : h.redo? = some h') : h'.documents ⊆ h.documents := by
  rw [redo?_eq_flipped, Option.map_eq_some_iff] at hredo
  obtain ⟨g, hundo, rfl⟩ := hredo
  intro d hd
  rw [mem_documents_flipped] at hd
  exact mem_documents_flipped.mp (documents_undo hundo hd)

end LayerDoc.History
