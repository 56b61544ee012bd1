import LayerDoc.Proofs.Editor.Run
import LayerDoc.Proofs.History.Timeline

/-!
# Runs over a timeline

An editor on a timeline has the store of an editor and a timeline in place of the two stacks. As
long as the history of an editor is not closed, the editor does as the one on the timeline does
(`Editor.refines_timeline`): the stacks are the two parts of the timeline around its cursor. A
commit that cannot be recorded, because its data or that of the present document cannot be written,
breaks off: it takes the place of the document in the store, and the timeline stays as it is.
-/

namespace LayerDoc

/-- A store with a timeline of its documents. -/
structure TimelineEditor where
  store : Store
  timeline : Timeline
  supply : Supply

namespace TimelineEditor

/-- The timeline starts with the store's document. -/
def start (limit : Nat) (store : Store) (s : Supply) : TimelineEditor :=
  ⟨store, ⟨limit, [store.document], 0⟩, s⟩

/-- A move of the cursor, if there is one. The store gets the document that the cursor comes to. -/
def travel (r : TimelineEditor) (moved : Option Timeline) : TimelineEditor :=
  match moved with
  | some l =>
    match l.present? with
    | some d => { r with store := { r.store with document := d }, timeline := l }
    | none => r
  | none => r

/-- What came of an edit for the store. What is committed goes to the timeline. -/
def settled (r : TimelineEditor) (effect : Option Document × Supply) : TimelineEditor :=
  match effect.1 with
  | some d => ⟨{ r.store with document := d }, r.timeline.commit d, effect.2⟩
  | none => { r with supply := effect.2 }

/-- Do an operation. -/
def run (r : TimelineEditor) : Operation → TimelineEditor
  | .undo => r.travel r.timeline.undo?
  | .redo => r.travel r.timeline.redo?
  | .clearHistory => { r with timeline := r.timeline.cleared r.store.document }
  | op => r.settled (op.effect r.store r.supply)

theorem run_of_isEdit (r : TimelineEditor) {op : Operation} (h : op.isEdit = true) :
    r.run op = r.settled (op.effect r.store r.supply) := by
  cases op with
  | undo | redo | clearHistory | closeHistory | subscribe _ | unsubscribe _ => cases h
  | _ => rfl

/-- The store and the timeline after a list of operations. -/
def runAll (r : TimelineEditor) (ops : List Operation) : TimelineEditor := ops.foldl run r

end TimelineEditor

namespace Editor

/-- An editor with its stacks read as a timeline. -/
def onTimeline (e : Editor) : TimelineEditor := ⟨e.store, e.history.timeline, e.supply⟩

/-- What holds of an editor with a limit of its history as long as the history is not closed. -/
structure Tracked (e : Editor) (limit : Nat) : Prop where
  recording : e.recording = true
  order : e.history.InOrder limit
  synced : e.document.Agrees e.history.present

theorem agrees_self (d : Document) : d.Agrees d := by
  intro key key' hkey hkey'
  rw [hkey] at hkey'
  exact Except.ok.inj hkey'

theorem tracked_start (registry : Registry) (functions : FunctionRegistry) (config : Config)
    (document : Option Document) (s : Supply) :
    (start registry functions config document s).Tracked config.historyLimit :=
  ⟨rfl, History.inOrder_start _ _, agrees_self _⟩

/-! ## One step -/

variable {e : Editor} {limit : Nat}

theorem Tracked.recorded_eq (h : e.Tracked limit) (d : Document) :
    e.recorded d = e.history.record d := if_pos h.recording

theorem Tracked.withSupply (h : e.Tracked limit) (s : Supply) :
    { e with supply := s }.Tracked limit := ⟨h.recording, h.order, h.synced⟩

theorem Tracked.committed (h : e.Tracked limit) (d : Document) : (e.committed d).Tracked limit := by
  have hrecorded := h.recorded_eq d
  cases hrecord : e.history.record d with
  | ok h' =>
    obtain ⟨horder, hkey⟩ := h.order.record hrecord
    have hhistory := history_committed_of_ok (hrecorded.trans hrecord)
    refine ⟨h.recording, hhistory.symm ▸ horder, fun key key' hd hpresent => ?_⟩
    rw [hhistory, hkey] at hpresent
    exact agrees_self d key key' hd hpresent
  | error fault =>
    have hhistory := history_committed_of_error (hrecorded.trans hrecord)
    refine ⟨h.recording, hhistory.symm ▸ h.order, fun key key' hd hpresent => ?_⟩
    rw [hhistory] at hpresent
    -- two documents with keys are recorded
    have hboth := History.record_eq_ok_iff.mpr ⟨key, key', hd, hpresent, rfl⟩
    have hfailed : e.history.record (e.committed d).document = .error fault := hrecord
    rw [hfailed] at hboth
    cases hboth

theorem Tracked.settled (h : e.Tracked limit) (effect : Option Document × Supply) :
    (e.settled effect).Tracked limit := by
  unfold Editor.settled
  split
  · exact (h.withSupply _).committed _
  · exact h.withSupply _

theorem Tracked.travel (h : e.Tracked limit) {step : Option History}
    (hstep : ∀ h', step = some h' → h'.InOrder limit) : (e.travel step).editor.Tracked limit := by
  unfold Editor.travel
  split
  · next h' => exact ⟨h.recording, hstep h' rfl, agrees_self _⟩
  · exact ⟨h.recording, h.order, h.synced⟩

/-- A step keeps the history in order, unless it closes it. -/
theorem Tracked.run (h : e.Tracked limit) {op : Operation} (hop : op ≠ .closeHistory) :
    (e.run op).editor.Tracked limit := by
  cases hedit : op.isEdit with
  | true =>
    rw [run_of_isEdit e hedit]
    exact h.settled _
  | false =>
    cases op with
    | undo => exact h.travel fun _ => h.order.undo
    | redo => exact h.travel fun _ => h.order.redo
    | clearHistory =>
      exact ⟨h.recording, h.order.limit ▸ History.inOrder_start _ _, agrees_self _⟩
    | closeHistory => exact absurd rfl hop
    | subscribe _ | unsubscribe _ => exact ⟨h.recording, h.order, h.synced⟩
    | _ => cases hedit

theorem timeline_committed (h : e.Tracked limit) (d : Document) :
    (e.committed d).history.timeline = e.history.timeline.commit d := by
  have hrecorded := h.recorded_eq d
  cases hrecord : e.history.record d with
  | ok h' => rw [history_committed_of_ok (hrecorded.trans hrecord), History.timeline_record hrecord]
  | error fault =>
    rw [history_committed_of_error (hrecorded.trans hrecord),
      History.commit_timeline_of_error hrecord]

theorem onTimeline_settled (h : e.Tracked limit) (effect : Option Document × Supply) :
    (e.settled effect).onTimeline = e.onTimeline.settled effect := by
  obtain ⟨committed, s⟩ := effect
  cases committed with
  | some d =>
    exact congrArg (TimelineEditor.mk { e.store with document := d } · s)
      (timeline_committed (h.withSupply s) d)
  | none => rfl

theorem onTimeline_travel {step : Option History} :
    (e.travel step).editor.onTimeline = e.onTimeline.travel (step.map History.timeline) := by
  cases step with
  | none => rfl
  | some h => simp [travel, TimelineEditor.travel, onTimeline, History.present?_timeline]

/-- After a step through the history the store has the document that the step came to. -/
theorem travel_some {step : Option History} {h : History} (hstep : step = some h) :
    (e.travel step).editor.history = h ∧ (e.travel step).editor.document = h.present := by
  rw [hstep]
  exact ⟨rfl, rfl⟩

/-- A step does the same on the stacks as on the timeline. -/
theorem onTimeline_run (h : e.Tracked limit) (op : Operation) :
    (e.run op).editor.onTimeline = e.onTimeline.run op := by
  cases hedit : op.isEdit with
  | true =>
    rw [run_of_isEdit e hedit, TimelineEditor.run_of_isEdit _ hedit]
    exact onTimeline_settled h _
  | false =>
    cases op with
    | undo =>
      refine onTimeline_travel.trans ?_
      rw [History.timeline_undo h.order.bounded]
      rfl
    | redo =>
      refine onTimeline_travel.trans ?_
      rw [History.timeline_redo h.order.bounded]
      rfl
    | clearHistory | closeHistory | subscribe _ | unsubscribe _ => rfl
    | _ => cases hedit

/-! ## Runs -/

/-- A run does the same on the stacks as on the timeline, and keeps the history in order. -/
theorem Tracked.runAll (h : e.Tracked limit) {ops : List Operation}
    (hops : ∀ op ∈ ops, op ≠ .closeHistory) :
    (e.runAll ops).Tracked limit ∧ (e.runAll ops).onTimeline = e.onTimeline.runAll ops := by
  induction ops generalizing e with
  | nil => exact ⟨h, rfl⟩
  | cons op rest ih =>
    rw [List.forall_mem_cons] at hops
    obtain ⟨htracked, hsame⟩ := ih (h.run hops.1) hops.2
    rw [onTimeline_run h] at hsame
    exact ⟨htracked, hsame⟩

/-- As many steps forward as there were steps back lead to where the steps back began. -/
theorem redo_undo_all (h : e.Tracked limit) {k : Nat} (hk : k ≤ e.history.past.length) :
    ((e.runAll (List.replicate k .undo)).runAll (List.replicate k .redo)).history = e.history ∧
      (0 < k → ((e.runAll (List.replicate k .undo)).runAll (List.replicate k .redo)).document =
        e.history.present) := by
  induction k generalizing e with
  | zero => exact ⟨rfl, fun hpos => absurd hpos (Nat.lt_irrefl 0)⟩
  | succ k ih =>
    cases hundo : e.history.undo? with
    | none =>
      rw [History.undo?_eq_none.mp hundo] at hk
      cases hk
    | some h' =>
      have hfirst : (e.run .undo).editor.history = h' := (travel_some hundo).1
      obtain ⟨hpast, -⟩ := (History.undo?_eq_some h.order.bounded).mp hundo
      have hk' : k ≤ (e.run .undo).editor.history.past.length := by
        rw [hpast, List.length_cons] at hk
        rw [hfirst]
        omega
      obtain ⟨hback, -⟩ := ih (h.run (by simp)) hk'
      have hlast : (((e.run .undo).editor.runAll (List.replicate k .undo)).runAll
          (List.replicate k .redo)).history.redo? = some e.history := by
        rw [hback, hfirst]
        exact History.redo_undo h.order.bounded hundo
      rw [List.replicate_succ, runAll_cons, List.replicate_succ', runAll_concat]
      obtain ⟨hhistory, hdocument⟩ := travel_some hlast
      exact ⟨hhistory, fun _ => hdocument⟩

/-- An editor does as an editor on a timeline does: the stacks are what lies before and after the
cursor, the present document is at the cursor, and the store's document has its key, as far as the
two have keys. -/
structure Follows (e : Editor) (r : TimelineEditor) : Prop where
  store : e.store = r.store
  supply : e.supply = r.supply
  past : e.history.past = (r.timeline.entries.take r.timeline.cursor).reverse
  present : r.timeline.present? = some e.history.present
  future : e.history.future = r.timeline.entries.drop (r.timeline.cursor + 1)
  synced : e.document.Agrees e.history.present
  distinct : r.timeline.entries.IsChain Document.Differs

theorem Tracked.follows (h : e.Tracked limit) : e.Follows e.onTimeline :=
  ⟨rfl, rfl, History.past_eq_take _, History.present?_timeline _, History.future_eq_drop _,
    h.synced, h.order.distinct⟩

/-- If the first document has a key and all that are committed on the way, then so have all that are
left. -/
theorem holds_hasKey {first : Editor} {ops : List Operation} (hfirst : first.document.HasKey)
    (hhistory : first.history.documents = [first.document])
    (hkeys : first.Along (fun st s op => ∀ d t, op.effect st s = (some d, t) → d.HasKey) ops) :
    (first.runAll ops).Holds fun _ d => d.HasKey := by
  refine holds_runAll (fun _ _ _ _ h => h) (fun st s op d t hop _ heffect => hop d t heffect)
    hkeys ?_
  intro d hd
  rw [documents, hhistory, List.mem_cons, List.mem_singleton, or_self] at hd
  exact hd ▸ hfirst

end Editor

end LayerDoc
