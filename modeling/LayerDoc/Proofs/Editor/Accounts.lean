import LayerDoc.Proofs.Editor.LayerIds
import LayerDoc.Proofs.Store.Answers

/-!
# Operations account for what they do

An operation of an editor commits once and tells every listener, or it leaves the editor as it is,
but for labels that it used up, and says why; it is silent only if there is nothing to do
(`Editor.Accounts`). This holds of every operation, in every state, that does not break off, and it
fails of every one that does (`Editor.accounts_iff`).

There are three ways to break off: a layer is to be patched where none can be looked for, it is to
be put below itself, or what is committed cannot be recorded. The last one leaves a commit behind
that nobody was told of.
-/

namespace LayerDoc

namespace Editor

/-- What is said of an operation of the store, by whether it commits. -/
structure Accounts (e : Editor) (op : Operation) : Prop where
  /-- A commit changes the document and the history, which records it if it is not closed, and is
  told once to each listener. -/
  committed : ∀ d, (op.effect e.store e.supply).1 = some d →
    ∃ h, e.recorded d = .ok h ∧
      (e.run op).editor = { e with
        store := { e.store with document := d }
        history := h
        supply := (e.run op).editor.supply } ∧
      (e.run op).notices = e.listeners.map (⟨·, e.document, d⟩)
  /-- Without a commit nothing changes and nobody is told, and there is a warning unless there is
  nothing to do. -/
  refused : (op.effect e.store e.supply).1 = none →
    (e.run op).editor = { e with supply := (e.run op).editor.supply } ∧
    (e.run op).notices = [] ∧ ((e.run op).warnings = [] ↔ op.HasNothingToDo e.store)
  /-- The reply to an operation that makes something new is an id exactly if it commits, and the id
  is listed then. -/
  answered : op.creates = true →
    ((∃ id, (e.run op).reply = .id (some id)) ↔
      (op.effect e.store e.supply).1.isSome = true) ∧
    ∀ id, (e.run op).reply = .id (some id) → id ∈ op.listing (e.run op).editor.document
  /-- There is a reply. -/
  ended : ∀ error, (e.run op).reply ≠ .failed error

/-- The ways in which an operation breaks off. -/
inductive BreaksOff (e : Editor) (op : Operation) : Prop
  | unsearchable (h : op.IsUnsearchable e.store)
  | endless (h : op.IsEndless e.store e.supply)
  | unrecorded {d : Document} {fault : Value.PlainFault}
      (hcommitted : (op.effect e.store e.supply).1 = some d) (hfault : e.recorded d = .error fault)

end Editor

namespace Store

variable (st : Store) (s : Supply)

theorem Patches.isEdit {st : Store} {op : Operation} {id : String} {props patch : Entries Value}
    (h : st.Patches op id props patch) : op.isEdit = true := by
  cases h <;> rfl

/-- Every operation of the store ends in one of these ways. -/
theorem answers_answer {op : Operation} (hop : op.isEdit = true) :
    st.Answers s op (op.answer st s) := by
  cases op with
  | addLayer type parent position => exact st.answers_addLayer s type parent position
  | addPage name => exact st.answers_addPage s name
  | duplicateLayer id => exact st.answers_duplicateLayer s id
  | removeLayer id => exact st.answers_removeLayer s id
  | updateLayer id props patch => exact Patches.updateLayer.answers s
  | moveLayer id parent position => exact st.answers_moveLayer s id parent position
  | selectLayer id => exact st.answers_selectLayer s id
  | selectPage id => exact st.answers_selectPage s id
  | replaceDocument pages page layer vars =>
    exact st.answers_replaceDocument s pages page layer vars
  | addVariable name type default => exact st.answers_addVariable s name type default
  | updateVariable id patch => exact st.answers_updateVariable s id patch
  | removeVariable id => exact st.answers_removeVariable s id
  | bindProp id prop variableId => exact Patches.bindProp.answers s
  | unbindProp id prop => exact st.answers_unbindProp s id prop
  | bindChildren id variableId => exact st.answers_bindChildren s id variableId
  | unbindChildren id => exact st.answers_unbindChildren s id
  | undo | redo | clearHistory | closeHistory | subscribe _ | unsubscribe _ => cases hop

end Store

namespace Editor

variable {e : Editor} {op : Operation}

theorem apply_map {α : Type} (e : Editor) (edit : Edit α) (reply : α → Reply) :
    e.apply (edit.map reply) id = e.apply edit reply := by
  obtain ⟨result, committed, warnings, s⟩ := edit
  cases result <;> rfl

theorem run_eq_apply (hop : op.isEdit = true) :
    e.run op = e.apply (op.answer e.store e.supply) id := by
  cases op with
  | undo | redo | clearHistory | closeHistory | subscribe _ | unsubscribe _ => cases hop
  | addPage name => exact (apply_map e (e.store.addPage e.supply name) fun id => .id (some id)).symm
  | _ => exact (apply_map e _ _).symm

theorem apply_commit_of_ok {reply : Reply} {d : Document} {warnings : List Warning} {t : Supply}
    {h : History} (hrecorded : e.recorded d = .ok h) :
    e.apply (.commit reply d t warnings) id =
      ⟨{ e with store := { e.store with document := d }, history := h, supply := t }, reply,
        e.listeners.map (⟨·, e.document, d⟩), warnings⟩ := by
  have hhistory : (Editor.committed { e with supply := t } d).history = h :=
    history_committed_of_ok hrecorded
  rw [← told_of_ok hrecorded, ← hhistory]
  exact congrArg (Outcome.mk _ · _ _) (replyTo_of_ok hrecorded reply)

theorem apply_of_error {result : Except EditError Reply} {d : Document}
    {warnings : List Warning} {t : Supply} {fault : Value.PlainFault}
    (hrecorded : e.recorded d = .error fault) :
    e.apply ⟨result, some d, warnings, t⟩ id =
      ⟨{ e with store := { e.store with document := d }, supply := t },
        .failed (.unrecorded fault), [], warnings⟩ := by
  have hhistory : (Editor.committed { e with supply := t } d).history = e.history :=
    history_committed_of_error hrecorded
  rw [← told_of_error hrecorded, ← hhistory]
  exact congrArg (Outcome.mk _ · _ _) (replyTo_of_error hrecorded _)

theorem effect_eq_answer (hop : op.isEdit = true) (st : Store) (s : Supply) :
    op.effect st s = (op.answer st s).effect := by
  cases op with
  | undo | redo | clearHistory | closeHistory | subscribe _ | unsubscribe _ => cases hop
  | _ => rfl

/-! ## What operations do -/

/-- What comes to no commit is accounted for if it gives no id and is silent only if there is
nothing to do. -/
theorem accounts_of_uncommitted {reply : Reply} {warnings : List Warning} {t : Supply}
    (hrun : e.run op = e.apply ⟨.ok reply, none, warnings, t⟩ id)
    (hnone : (op.effect e.store e.supply).1 = none) (hreply : reply = .nothing ∨ reply = .id none)
    (hsilent : warnings = [] ↔ op.HasNothingToDo e.store) : e.Accounts op := by
  have hgiven : (e.run op).reply = reply := by
    rw [hrun]
    rfl
  refine ⟨fun d hd => ?_, fun _ => ?_, fun _ => ?_, fun error => ?_⟩
  · rw [hnone] at hd
    cases hd
  · rw [hrun]
    exact ⟨rfl, rfl, hsilent⟩
  · rw [hgiven, hnone]
    rcases hreply with rfl | rfl <;> simp
  · rw [hgiven]
    rcases hreply with rfl | rfl <;> nofun

/-- A commit that is recorded is accounted for, if the reply to what makes something new is an id
that is listed. -/
theorem accounts_of_committed {reply : Reply} {d : Document} {warnings : List Warning} {t : Supply}
    {h : History} (hrun : e.run op = e.apply (.commit reply d t warnings) id)
    (hcommitted : (op.effect e.store e.supply).1 = some d) (hrecorded : e.recorded d = .ok h)
    (hreply : op.creates = true → ∃ id ∈ op.listing d, reply = .id (some id))
    (hends : ∀ error, reply ≠ .failed error) : e.Accounts op := by
  rw [apply_commit_of_ok hrecorded] at hrun
  have hgiven : (e.run op).reply = reply := congrArg Outcome.reply hrun
  refine ⟨fun c hc => ?_, fun hnone => ?_, fun hcreates => ?_, fun error => hgiven ▸ hends error⟩
  · rw [hcommitted] at hc
    cases hc
    rw [hrun]
    exact ⟨h, hrecorded, rfl, rfl⟩
  · rw [hcommitted] at hnone
    cases hnone
  · obtain ⟨made, hlisted, rfl⟩ := hreply hcreates
    rw [hgiven, hcommitted]
    refine ⟨⟨fun _ => rfl, fun _ => ⟨made, rfl⟩⟩, fun id hid => ?_⟩
    cases hid
    rw [hrun]
    exact hlisted

/-- An operation that does not break off accounts for what it does. -/
theorem accounts_of_not_breaksOff (hop : op.isEdit = true) (h : ¬ e.BreaksOff op) :
    e.Accounts op := by
  have hrun : e.run op = e.apply (op.answer e.store e.supply) id := run_eq_apply hop
  have heffect : op.effect e.store e.supply = (op.answer e.store e.supply).effect :=
    effect_eq_answer hop _ _
  -- what is committed is recorded
  have hrecorded : ∀ d, (op.effect e.store e.supply).1 = some d → ∃ h, e.recorded d = .ok h := by
    intro d hd
    cases hcase : e.recorded d with
    | ok history => exact ⟨history, rfl⟩
    | error fault => exact absurd (.unrecorded hd hcase) h
  have hanswers := e.store.answers_answer e.supply hop
  revert hrun heffect hanswers
  generalize op.answer e.store e.supply = edit
  intro hrun heffect hanswers
  cases hanswers with
  | commit hcreates =>
    obtain ⟨history, hhistory⟩ := hrecorded _ (congrArg Prod.fst heffect)
    refine accounts_of_committed hrun (congrArg Prod.fst heffect) hhistory (fun hc => ?_) nofun
    rw [hcreates] at hc
    cases hc
  | create hlisted =>
    obtain ⟨history, hhistory⟩ := hrecorded _ (congrArg Prod.fst heffect)
    exact accounts_of_committed hrun (congrArg Prod.fst heffect) hhistory
      (fun _ => ⟨_, hlisted, rfl⟩) nofun
  | refuse hreply hwarnings hbusy =>
    exact accounts_of_uncommitted hrun (congrArg Prod.fst heffect) hreply
      ⟨fun h => absurd h hwarnings, fun h => absurd h hbusy⟩
  | idle hidle =>
    exact accounts_of_uncommitted hrun (congrArg Prod.fst heffect) (.inl rfl)
      ⟨fun _ => hidle, fun _ => rfl⟩
  | unsearchable hfail => exact absurd (.unsearchable hfail) h
  | endless hfail => exact absurd (.endless hfail) h

/-! ## What is left of an operation that breaks off -/

theorem isEdit_of_isUnsearchable {st : Store} (h : op.IsUnsearchable st) : op.isEdit = true := by
  obtain ⟨_, _, _, _, hpatches, -⟩ := h
  exact hpatches.isEdit

theorem isEdit_of_isEndless {st : Store} {s : Supply} (h : op.IsEndless st s) :
    op.isEdit = true := by
  obtain ⟨_, _, _, _, _, _, _, hpatches, -⟩ := h
  exact hpatches.isEdit

/-- Where no layer can be looked for a patch does nothing and says nothing. -/
theorem run_of_isUnsearchable (h : op.IsUnsearchable e.store) :
    ∃ page, e.run op = ⟨e, .failed (.pageNotSearchable page), [], []⟩ := by
  obtain ⟨page, hanswer⟩ := Store.answer_of_isUnsearchable h e.supply
  refine ⟨page, ?_⟩
  rw [run_eq_apply (isEdit_of_isUnsearchable h), hanswer]
  rfl

/-- A patch that never comes to an end leaves the editor as it is but for labels that it used up.
All that may be said is that the id cannot be changed. -/
theorem run_of_isEndless (h : op.IsEndless e.store e.supply) :
    ∃ id warnings t, e.run op = ⟨{ e with supply := t }, .failed (.endless id), [], warnings⟩ ∧
      warnings ⊆ [.idInPatch id] ∧ e.supply.Onward t := by
  obtain ⟨id, warnings, t, hanswer, hwarnings, honward⟩ := Store.answer_of_isEndless h
  refine ⟨id, warnings, t, ?_, hwarnings, honward⟩
  rw [run_eq_apply (isEdit_of_isEndless h), hanswer]
  rfl

/-- What cannot be recorded stays in the place of the document, and nobody is told. -/
theorem run_of_unrecorded {d : Document} {fault : Value.PlainFault}
    (hcommitted : (op.effect e.store e.supply).1 = some d) (hfault : e.recorded d = .error fault) :
    (e.run op).editor = { e with
      store := { e.store with document := d }
      supply := (e.run op).editor.supply } ∧
    (e.run op).reply = .failed (.unrecorded fault) ∧ (e.run op).notices = [] := by
  have hop : op.isEdit = true := Operation.isEdit_of_effect hcommitted
  rw [effect_eq_answer hop] at hcommitted
  rw [run_eq_apply hop]
  revert hcommitted
  generalize op.answer e.store e.supply = edit
  intro hcommitted
  obtain ⟨result, committed, warnings, t⟩ := edit
  cases hcommitted
  rw [apply_of_error hfault]
  exact ⟨rfl, rfl, rfl⟩

/-- Every operation that breaks off fails. -/
theorem reply_of_breaksOff (h : e.BreaksOff op) : ∃ error, (e.run op).reply = .failed error := by
  cases h with
  | unsearchable h =>
    obtain ⟨page, hrun⟩ := run_of_isUnsearchable h
    exact ⟨_, congrArg Outcome.reply hrun⟩
  | endless h =>
    obtain ⟨id, warnings, t, hrun, -⟩ := run_of_isEndless h
    exact ⟨_, congrArg Outcome.reply hrun⟩
  | unrecorded hcommitted hfault => exact ⟨_, (run_of_unrecorded hcommitted hfault).2.1⟩

/-- The operations of the store that account for what they do are those that do not break off. -/
theorem accounts_iff (hop : op.isEdit = true) : e.Accounts op ↔ ¬ e.BreaksOff op := by
  refine ⟨fun haccounts hbreaks => ?_, accounts_of_not_breaksOff hop⟩
  obtain ⟨error, hreply⟩ := reply_of_breaksOff hbreaks
  exact haccounts.ended error hreply

theorem notices_travel (e : Editor) (step : Option History) : (e.travel step).notices = [] := by
  cases step <;> rfl

/-! ## Runs on which every layer is found and no patch is endless -/

theorem not_isUnsearchable_of_arePages {st : Store} (h : st.document.pages.ArePages)
    (op : Operation) : ¬ op.IsUnsearchable st := by
  rintro ⟨id, props, patch, page, -, hpage, -, hslot⟩
  have hholds := (h page (Document.page?_eq_some hpage).1).2
  obtain ⟨head, slot⟩ := page
  cases slot with
  | layers items => exact hslot
  | text content => cases hholds
  | bound variableId => cases hholds

/-- With distinct ids a patch that brings no list of children leaves the layer out of what is below
it. -/
theorem not_isEndless_of_nodup {st : Store} {s : Supply}
    (h : (Forest.ids st.document.pages).Nodup) (hop : op.PatchesNoList) : ¬ op.IsEndless st s := by
  rintro ⟨id, props, patch, page, target, updated, t, hpatches, hpage, htarget, hupdated, hbelow⟩
  obtain ⟨hmem, hid⟩ := Store.mem_preorder_of_searched hpage htarget
  have hsub : updated.ids.Sublist target.ids :=
    (Layer.ids_of_patched hupdated (hpatches.no_items hop)).1
  have hnodup : updated.ids.Nodup :=
    (h.sublist ((Forest.preorder_sublist_of_mem hmem).map Layer.id)).sublist hsub
  rw [Layer.ids_eq, List.nodup_cons, Layer.id_of_patched hupdated, hid] at hnodup
  exact hnodup.1 hbelow

/-- As long as no patch puts a list in the place of a layer's children, all layers are found, and
such a patch comes to an end. -/
theorem searchable_runAll (he : e.Opened) {ops : List Operation}
    (hfresh : e.FreshRun (fun d => Forest.ids d.pages) ops)
    (hops : ∀ op ∈ ops, op.PatchesNoList) (op : Operation) :
    ¬ op.IsUnsearchable (e.runAll ops).store ∧
      (op.PatchesNoList → ¬ op.IsEndless (e.runAll ops).store (e.runAll ops).supply) := by
  have hintact := kept_runAll (Q := fun d => d.pages.ArePages ∧ (Forest.ids d.pages).Nodup) he
    hfresh ((e.along_store ops).and hops) (fun _ _ _ h => h.2) ⟨he.sound.1, he.sound.2.2.1⟩
    (fun _ _ _ hintact _ => ⟨hintact.pages, hintact.nodup⟩)
  obtain ⟨hpages, hnodup⟩ := hintact _ List.mem_cons_self
  exact ⟨not_isUnsearchable_of_arePages hpages op, not_isEndless_of_nodup hnodup⟩

/-- Every operation of the store is atomic and reports refusal, in every state of an editor, unless
it breaks off: it either commits once and tells every listener, or changes nothing, tells nobody and
says why, the only silent ones being those that untie a slot that is not bound. It breaks off in
three ways. If it patches a layer below a selected page whose slot is a reference or a text, it does
nothing and says nothing. If it would put a layer below itself, nothing changes but the labels to
come. If what it commits cannot be recorded, the document is replaced, the history stays as it is
and nobody is told. The first two do not come about without a patch that puts a list in the place of
a layer's children. The steps through the history tell nobody. -/
theorem accounts_or_breaks_off (e : Editor) :
    (∀ op : Operation, op.isEdit = true → (e.Accounts op ↔ ¬ e.BreaksOff op)) ∧
    (∀ op : Operation, op.IsUnsearchable e.store →
      ∃ page, e.run op = ⟨e, .failed (.pageNotSearchable page), [], []⟩) ∧
    (∀ op : Operation, op.IsEndless e.store e.supply → ∃ id warnings t,
      e.run op = ⟨{ e with supply := t }, .failed (.endless id), [], warnings⟩ ∧
        warnings ⊆ [.idInPatch id] ∧ e.supply.Onward t) ∧
    (∀ (op : Operation) (d : Document) (fault : Value.PlainFault),
      (op.effect e.store e.supply).1 = some d → e.recorded d = .error fault →
      (e.run op).editor = { e with
        store := { e.store with document := d }
        supply := (e.run op).editor.supply } ∧
      (e.run op).reply = .failed (.unrecorded fault) ∧ (e.run op).notices = []) ∧
    (e.Opened → ∀ ops : List Operation, e.FreshRun (fun d => Forest.ids d.pages) ops →
      (∀ op ∈ ops, op.PatchesNoList) → ∀ op : Operation,
        ¬ op.IsUnsearchable (e.runAll ops).store ∧
        (op.PatchesNoList → ¬ op.IsEndless (e.runAll ops).store (e.runAll ops).supply)) ∧
    (e.run .undo).notices = [] ∧ (e.run .redo).notices = [] := by
  refine ⟨fun op => accounts_iff, fun op => run_of_isUnsearchable, fun op => run_of_isEndless,
    fun op d fault => run_of_unrecorded, fun he ops hfresh hops => searchable_runAll he hfresh hops,
    ?_, ?_⟩
  · exact notices_travel e _
  · exact notices_travel e _

/-- Two listen while a box is added to the default document. A patch of the box is told to both,
though it comes with a warning about the id in it, and taking it back is told to none. -/
theorem accounts_of_added_box :
    let e := start [] [] .default none .start
    let ops : List Operation :=
      [.subscribe 1, .subscribe 2, .addLayer "Box" (Supply.groupLabel 0) none]
    let patch : Operation := .updateLayer (Supply.groupLabel 1) [("n", .int 1)] [("id", .str "b")]
    (e.Opened ∧ e.FreshRun (fun d => Forest.ids d.pages) ops ∧ ∀ op ∈ ops, op.PatchesNoList) ∧
    patch.isEdit = true ∧ ¬ (e.runAll ops).BreaksOff patch ∧ (e.runAll ops).Accounts patch ∧
      ((e.runAll ops).run patch).notices.map Notice.listener = [1, 2] ∧
      ((e.runAll ops).run .undo).notices = [] := by
  intro e ops patch
  have hops : ∀ op ∈ ops, op.PatchesNoList := by simp [ops, Operation.PatchesNoList]
  have hfresh : e.FreshRun (fun d => Forest.ids d.pages) ops := by
    refine ⟨Supply.start_injective, (Supply.Gives.one .start).freshFor Supply.start_injective, ?_⟩
    simp [ops, Along, Operation.LeavesFresh, Operation.replaces]
  obtain ⟨-, -, -, -, hsearchable, -⟩ := accounts_or_breaks_off e
  obtain ⟨hfound, hends⟩ := hsearchable .default ops hfresh hops patch
  obtain ⟨haccounts, -, -, -, -, hundo, -⟩ := accounts_or_breaks_off (e.runAll ops)
  have hpatch : patch.PatchesNoList := by simp [patch, Operation.PatchesNoList, Entries.get?]
  -- the reply says that the patch was recorded
  have hreply : ((e.runAll ops).run patch).reply = .nothing := by decide +kernel
  have hkept : ¬ (e.runAll ops).BreaksOff patch := by
    rintro (h | h | ⟨hcommitted, hfault⟩)
    · exact hfound h
    · exact hends hpatch h
    · rw [(run_of_unrecorded hcommitted hfault).2.1] at hreply
      cases hreply
  exact ⟨⟨.default, hfresh, hops⟩, rfl, hkept, (haccounts patch rfl).mpr hkept, by decide +kernel,
    hundo⟩

/-- An operation that breaks off does not account for it. A layer gets a child with the id of a
page, and when the child is patched with a text, what comes of it stands in the place of the page as
well. On this page a patch of a layer that is not there commits nothing and gives no warning. -/
theorem not_accounts_on_text_page :
    let data : Value := .object [("pages", .list [
      .object [("id", .str "p"),
        ("children", .list [.object [("id", .str "a"), ("type", .str "Box")]])],
      .object [("id", .str "q")]])]
    ∃ d t, Document.read data .start = .ok (d, t) ∧
      let e := (start [] [] .default (some d) t).runAll
        [.updateLayer "a" []
          [("children", .list [.object [("id", .str "q"), ("type", .str "Box")]])],
          .updateLayer "q" [] [("children", .str "text")], .selectPage "q", .subscribe 0]
      let patch : Operation := .updateLayer "x" [("n", .int 1)] []
      (patch.effect e.store e.supply).1 = none ∧ (e.run patch).warnings = [] ∧
        (e.run patch).reply = .failed (.pageNotSearchable "q") ∧ ¬ patch.HasNothingToDo e.store ∧
        ¬ e.Accounts patch := by
  intro data
  refine ⟨_, _, rfl, ?_⟩
  intro e patch
  have hbreaks : e.BreaksOff patch :=
    .unsearchable ⟨"x", _, _, _, .updateLayer, rfl, by decide, rfl⟩
  exact ⟨rfl, rfl, rfl, not_false, fun h => (accounts_iff rfl).mp h hbreaks⟩

end Editor

end LayerDoc
