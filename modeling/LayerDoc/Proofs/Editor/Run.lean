import LayerDoc.Proofs.History.Documents
import LayerDoc.Proofs.Store.Commits

/-!
# Runs of an editor

An editor holds documents in its store and in its history. A step of a run brings no document
among them but the one that the store commits (`Editor.documents_run`), and moves the supply onward
(`Editor.supply_run`). So what every commit keeps, and what lasts while labels are given out, holds
of all documents after any run (`Editor.holds_runAll`).
-/

namespace LayerDoc

/-- Whether an operation is one of the store, as opposed to steps through the history and to changes
of who listens. -/
def Operation.isEdit : Operation → Bool
  | .undo | .redo | .clearHistory | .closeHistory | .subscribe _ | .unsubscribe _ => false
  | _ => true

/-- Whether an operation puts a document in the place of the edited one. -/
def Operation.replaces : Operation → Bool
  | .replaceDocument _ _ _ _ => true
  | _ => false

/-- No id that `ids` lists of a document is among the labels to come once an operation has put the
document in the place of the edited one. -/
def Operation.LeavesFresh (ids : Document → List String) (st : Store) (s : Supply)
    (op : Operation) : Prop :=
  op.replaces = true → ∀ d t, op.effect st s = (some d, t) → t.FreshFor (ids d)

theorem Operation.effect_of_not_isEdit {op : Operation} (h : op.isEdit = false) (st : Store)
    (s : Supply) : op.effect st s = (none, s) := by
  cases op <;> first | rfl | simp [isEdit] at h

/-- Only operations of the store commit. -/
theorem Operation.isEdit_of_effect {op : Operation} {st : Store} {s : Supply} {d : Document}
    (h : (op.effect st s).1 = some d) : op.isEdit = true := by
  cases hop : op.isEdit with
  | true => rfl
  | false =>
    rw [effect_of_not_isEdit hop] at h
    cases h

namespace Editor

/-- The documents that an editor holds, in its store and in its history. -/
def documents (e : Editor) : List Document := e.document :: e.history.documents

/-- The editor after what came of an edit for the store. -/
def settled (e : Editor) (effect : Option Document × Supply) : Editor :=
  match effect.1 with
  | some d => { e with supply := effect.2 }.committed d
  | none => { e with supply := effect.2 }

theorem editor_apply {α : Type} (e : Editor) (edit : Edit α) (reply : α → Reply) :
    (e.apply edit reply).editor = e.settled edit.effect := by
  obtain ⟨result, committed, warnings, s⟩ := edit
  cases committed <;> rfl

/-- What an operation of the store does to the editor comes from its effect on the store. -/
theorem run_of_isEdit (e : Editor) {op : Operation} (h : op.isEdit = true) :
    (e.run op).editor = e.settled (op.effect e.store e.supply) := by
  cases op with
  | undo | redo | clearHistory | closeHistory | subscribe _ | unsubscribe _ => cases h
  | _ => exact editor_apply e _ _

/-- A commit that is recorded is replied to and told. -/
theorem replyTo_of_ok {e : Editor} {d : Document} {h : History} (hrecorded : e.recorded d = .ok h)
    (reply : Reply) : e.replyTo d reply = reply := by
  rw [replyTo, hrecorded]

theorem told_of_ok {e : Editor} {d : Document} {h : History} (hrecorded : e.recorded d = .ok h) :
    e.told d = e.listeners.map (⟨·, e.document, d⟩) := by
  rw [told, hrecorded]

/-- A commit that cannot be recorded is told to nobody, and makes the operation fail. -/
theorem replyTo_of_error {e : Editor} {d : Document} {fault : Value.PlainFault}
    (hrecorded : e.recorded d = .error fault) (reply : Reply) :
    e.replyTo d reply = .failed (.unrecorded fault) := by
  rw [replyTo, hrecorded]

theorem told_of_error {e : Editor} {d : Document} {fault : Value.PlainFault}
    (hrecorded : e.recorded d = .error fault) : e.told d = [] := by
  rw [told, hrecorded]

/-! ## One step -/

/-- A step leaves the supply as the store does. -/
theorem supply_run (e : Editor) (op : Operation) :
    (e.run op).editor.supply = (op.effect e.store e.supply).2 := by
  cases hop : op.isEdit with
  | true =>
    rw [run_of_isEdit e hop]
    unfold settled
    split <;> rfl
  | false =>
    rw [Operation.effect_of_not_isEdit hop]
    cases op with
    | undo | redo =>
      rw [run]
      unfold travel
      split <;> rfl
    | clearHistory | closeHistory | subscribe _ | unsubscribe _ => rfl
    | _ => cases hop

theorem history_committed_of_ok {e : Editor} {d : Document} {h : History}
    (hrecorded : e.recorded d = .ok h) : (e.committed d).history = h := by
  rw [committed, hrecorded]
  rfl

/-- The history stays as it is if a commit cannot be recorded. -/
theorem history_committed_of_error {e : Editor} {d : Document} {fault : Value.PlainFault}
    (hrecorded : e.recorded d = .error fault) : (e.committed d).history = e.history := by
  rw [committed, hrecorded]
  rfl

theorem documents_committed {e : Editor} {c d : Document} (hd : d ∈ (e.committed c).documents) :
    d ∈ e.documents ∨ d = c := by
  rw [documents, List.mem_cons] at hd
  rcases hd with hd | hd
  · exact Or.inr hd
  · cases hrecorded : e.recorded c with
    | error fault =>
      rw [history_committed_of_error hrecorded] at hd
      exact Or.inl (List.mem_cons_of_mem _ hd)
    | ok h =>
      rw [history_committed_of_ok hrecorded] at hd
      unfold recorded at hrecorded
      split at hrecorded
      · rcases History.mem_documents_record hrecorded hd with hd | hd
        · exact Or.inl (List.mem_cons_of_mem _ hd)
        · exact Or.inr hd
      · cases hrecorded
        exact Or.inl (List.mem_cons_of_mem _ hd)

theorem documents_travel {e : Editor} {step : Option History}
    (hstep : ∀ h, step = some h → h.documents ⊆ e.history.documents) :
    (e.travel step).editor.documents ⊆ e.documents := by
  unfold travel
  split
  · next h =>
    intro d hd
    rw [documents, List.mem_cons] at hd
    refine List.mem_cons_of_mem _ (hstep h rfl ?_)
    rcases hd with hd | hd
    · exact History.mem_documents.mpr (Or.inl hd)
    · exact hd
  · exact List.Subset.refl _

/-- After a step there is no document that was not there before, but for what the store
committed. -/
theorem documents_run {e : Editor} {op : Operation} {d : Document}
    (hd : d ∈ (e.run op).editor.documents) :
    d ∈ e.documents ∨ (op.effect e.store e.supply).1 = some d := by
  cases hop : op.isEdit with
  | true =>
    rw [run_of_isEdit e hop] at hd
    unfold settled at hd
    split at hd
    · next c hc =>
      rcases documents_committed hd with hd | hd
      · exact Or.inl hd
      · exact Or.inr (hd ▸ hc)
    · exact Or.inl hd
  | false =>
    refine Or.inl ?_
    cases op with
    | undo => exact documents_travel (fun _ => History.documents_undo) hd
    | redo => exact documents_travel (fun _ => History.documents_redo) hd
    | clearHistory =>
      rw [documents, List.mem_cons] at hd
      rcases hd with hd | hd
      · exact List.mem_cons.mpr (Or.inl hd)
      · simpa [run, History.documents, History.cleared, History.start, documents] using
          Or.inl hd
    | closeHistory | subscribe _ | unsubscribe _ => exact hd
    | _ => cases hop

/-- A step changes nothing of the store but its document. -/
theorem store_run (e : Editor) (op : Operation) :
    (e.run op).editor.store = { e.store with document := (e.run op).editor.document } := by
  cases hop : op.isEdit with
  | true =>
    rw [run_of_isEdit e hop]
    unfold settled
    split <;> rfl
  | false =>
    cases op with
    | undo | redo =>
      rw [run]
      unfold travel
      split <;> rfl
    | clearHistory | closeHistory | subscribe _ | unsubscribe _ => rfl
    | _ => cases hop

/-! ## Runs -/

/-- A condition on the operations of a run, each with the store and the supply it comes to. -/
def Along (A : Store → Supply → Operation → Prop) (e : Editor) : List Operation → Prop
  | [] => True
  | op :: rest => A e.store e.supply op ∧ Along A (e.run op).editor rest

theorem Along.and {A : Store → Supply → Operation → Prop} {Q : Operation → Prop} {e : Editor}
    {ops : List Operation} (h : e.Along A ops) (hops : ∀ op ∈ ops, Q op) :
    e.Along (fun st s op => A st s op ∧ Q op) ops := by
  induction ops generalizing e with
  | nil => trivial
  | cons op rest ih =>
    rw [List.forall_mem_cons] at hops
    exact ⟨⟨h.1, hops.1⟩, ih h.2 hops.2⟩

theorem Along.inter {A B : Store → Supply → Operation → Prop} {e : Editor} {ops : List Operation}
    (hA : e.Along A ops) (hB : e.Along B ops) :
    e.Along (fun st s op => A st s op ∧ B st s op) ops := by
  induction ops generalizing e with
  | nil => trivial
  | cons op rest ih => exact ⟨⟨hA.1, hB.1⟩, ih hA.2 hB.2⟩

/-- Over a run nothing of the store changes but its document. -/
theorem along_store (e : Editor) (ops : List Operation) :
    e.Along (fun st _ _ => st = { e.store with document := st.document }) ops := by
  suffices h : ∀ store : Store, e.store = { store with document := e.document } →
      e.Along (fun st _ _ => st = { store with document := st.document }) ops from h e.store rfl
  intro store hstore
  induction ops generalizing e with
  | nil => trivial
  | cons op rest ih =>
    refine ⟨hstore, ih _ ?_⟩
    rw [store_run, hstore]

/-- All documents of an editor have a property, which may refer to the labels to come. -/
def Holds (P : Supply → Document → Prop) (e : Editor) : Prop := ∀ d ∈ e.documents, P e.supply d

theorem runAll_cons (e : Editor) (op : Operation) (rest : List Operation) :
    e.runAll (op :: rest) = (e.run op).editor.runAll rest := rfl

theorem runAll_concat (e : Editor) (ops : List Operation) (op : Operation) :
    e.runAll (ops ++ [op]) = ((e.runAll ops).run op).editor := by
  simp [runAll, List.foldl_append]

section

variable {A : Store → Supply → Operation → Prop} {P : Supply → Document → Prop}
  (hlasts : ∀ s t d, s.Onward t → P s d → P t d)
  (hkeeps : ∀ st s op d t, A st s op → P s st.document → op.effect st s = (some d, t) → P t d)

include hlasts hkeeps

theorem holds_run {e : Editor} {op : Operation} (hop : A e.store e.supply op) (h : e.Holds P) :
    (e.run op).editor.Holds P := by
  intro d hd
  rw [supply_run]
  rcases documents_run hd with hd | hd
  · exact hlasts _ _ _ (Store.onward_effect e.store e.supply op) (h d hd)
  · exact hkeeps _ _ _ _ _ hop (h e.document List.mem_cons_self) (Prod.ext hd rfl)

/-- What lasts while labels are given out, and is kept by every commit of a run, holds of all
documents after the run. -/
theorem holds_runAll {e : Editor} {ops : List Operation} (hops : e.Along A ops) (h : e.Holds P) :
    (e.runAll ops).Holds P := by
  induction ops generalizing e with
  | nil => exact h
  | cons op rest ih =>
    rw [runAll_cons]
    exact ih hops.2 (holds_run hlasts hkeeps hops.1 h)

end

end Editor

/-! ## Where runs start -/

/-- A document that was accepted: read from data, or put together of components. -/
inductive Document.Accepted : Document → Prop
  | read {v : Value} {s t : Supply} {d : Document} (h : Document.read v s = .ok (d, t)) : Accepted d
  | assembled {layers pages : Forest} {page layer : Option String} {vars : List Variable}
      {d : Document} (hpages : Store.pagesOfComponents layers = some pages)
      (h : Document.assemble pages page layer vars = .ok d) : Accepted d

/-- An accepted document has pages with lists of layers, all of its layer ids are distinct, and its
selected page is among its pages. -/
theorem Document.Accepted.sound {d : Document} (h : d.Accepted) :
    d.pages.ArePages ∧ d.pages ≠ [] ∧ (Forest.ids d.pages).Nodup ∧
      ∃ p ∈ d.pages, p.id = d.selectedPage := by
  cases h with
  | read h => exact Document.read_eq_ok h
  | assembled hpages h =>
    obtain ⟨he, -, -, hne, hids, hselected⟩ := Document.assemble_eq_ok h
    exact ⟨he ▸ Store.arePages_of_pagesOfComponents hpages, hne, hids, hselected⟩

namespace Editor

/-- An editor at the start, with a document that was accepted or with the default one. -/
inductive Opened : Editor → Prop
  | accepted {registry : Registry} {functions : FunctionRegistry} {config : Config} {d : Document}
      {s : Supply} (h : d.Accepted) : Opened (start registry functions config (some d) s)
  | default {registry : Registry} {functions : FunctionRegistry} {config : Config} {s : Supply} :
      Opened (start registry functions config none s)

namespace Opened

theorem sound {e : Editor} (he : e.Opened) :
    e.document.pages.ArePages ∧ e.document.pages ≠ [] ∧ (Forest.ids e.document.pages).Nodup ∧
      ∃ p ∈ e.document.pages, p.id = e.document.selectedPage := by
  cases he with
  | accepted h => exact h.sound
  | @default registry functions config s =>
    refine ⟨Forest.ArePages.singleton rfl rfl, List.cons_ne_nil _ _, ?_, _, List.mem_cons_self, rfl⟩
    exact List.nodup_singleton _

/-- At the start there is one document, in the store and in the history. -/
theorem holds {e : Editor} (he : e.Opened) {P : Supply → Document → Prop}
    (h : P e.supply e.document) : e.Holds P := by
  intro d hd
  have hsingle : d = e.document := by
    cases he with
    | accepted | default => simpa [documents, History.documents, start, History.start, document]
      using hd
  exact hsingle ▸ h

end Opened

/-- Every label of a run is new: the labels to come are distinct, and none is among the ids that
`ids` lists of the first document, or of one that was put in the place of the edited one. -/
structure FreshRun (ids : Document → List String) (e : Editor) (ops : List Operation) : Prop where
  injective : e.supply.Injective
  first : e.supply.FreshFor (ids e.document)
  replaced : e.Along (Operation.LeavesFresh ids) ops

end Editor

end LayerDoc
