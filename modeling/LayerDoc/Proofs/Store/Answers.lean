import LayerDoc.Proofs.Store.Commits

/-!
# Answers of the store

What an operation answers beside its effect: a reply, and what it has to say. `Store.Answers` lists
the ways in which an operation can end: it commits, and if it makes something new the reply is an id
that the new document lists; it refuses and says why; it has nothing to do and says nothing; or it
breaks off, since the layer that it patches cannot be looked for or since the patch never comes to
an end. For each operation a lemma says that there are no others.
-/

namespace LayerDoc

/-- The ids among which that of something new is to be found. -/
def Operation.listing : Operation → Document → List String
  | .addLayer _ _ _, d | .addPage _, d | .duplicateLayer _, d => Forest.ids d.pages
  | .addVariable _ _ _, d => d.vars.map Variable.id
  | _, _ => []

/-- Whether an operation makes something new, which has an id. -/
def Operation.creates : Operation → Bool
  | .addLayer _ _ _ | .addPage _ | .duplicateLayer _ | .addVariable _ _ _ => true
  | _ => false

/-- Whether an operation unties a slot. -/
def Operation.unties : Operation → Bool
  | .unbindProp _ _ | .unbindChildren _ => true
  | _ => false

/-- There is nothing to do: the slot that is to be untied is not bound. -/
def Operation.HasNothingToDo (st : Store) : Operation → Prop
  | .unbindProp id prop =>
    ∃ layer, st.document.layer? id = some layer ∧ Store.propReference? layer prop = none
  | .unbindChildren id =>
    ∃ layer, st.document.layer? id = some layer ∧ layer.slot.reference? = none
  | _ => False

theorem Operation.not_hasNothingToDo {op : Operation} (h : op.unties = false) (st : Store) :
    ¬ op.HasNothingToDo st := by
  cases op with
  | unbindProp id prop => cases h
  | unbindChildren id => cases h
  | _ => exact not_false

namespace Edit

variable {α : Type}

/-- The edit with its result as a reply. -/
def map (edit : Edit α) (reply : α → Reply) : Edit Reply :=
  { edit with result := edit.result.map reply }

end Edit

/-- What an operation of the store comes to. -/
def Operation.answer (st : Store) (s : Supply) : Operation → Edit Reply
  | .addLayer type parent position => (st.addLayer s type parent position).map .id
  | .addPage name => (st.addPage s name).map fun id => .id (some id)
  | .duplicateLayer id => (st.duplicateLayer s id).map .id
  | .removeLayer id => (st.removeLayer s id).map fun _ => .nothing
  | .updateLayer id props patch => (st.updateLayer s id props patch).map fun _ => .nothing
  | .moveLayer id parent position => (st.moveLayer s id parent position).map fun _ => .nothing
  | .selectLayer id => (st.selectLayer s id).map fun _ => .nothing
  | .selectPage id => (st.selectPage s id).map fun _ => .nothing
  | .replaceDocument pages page layer vars =>
    (st.replaceDocument s pages page layer vars).map fun _ => .nothing
  | .addVariable name type default => (st.addVariable s name type default).map .id
  | .updateVariable id patch => (st.updateVariable s id patch).map fun _ => .nothing
  | .removeVariable id => (st.removeVariable s id).map fun _ => .nothing
  | .bindProp id prop variableId => (st.bindProp s id prop variableId).map fun _ => .nothing
  | .unbindProp id prop => (st.unbindProp s id prop).map fun _ => .nothing
  | .bindChildren id variableId => (st.bindChildren s id variableId).map fun _ => .nothing
  | .unbindChildren id => (st.unbindChildren s id).map fun _ => .nothing
  | .undo | .redo | .clearHistory | .closeHistory | .subscribe _ | .unsubscribe _ =>
    Edit.idle .nothing s

/-- No layer can be looked for below the layer: its slot is a text that is not empty, or a
reference. -/
def Layer.Unsearchable (l : Layer) : Prop :=
  match l.slot with
  | .layers _ => False
  | .text content => content.isEmpty = false
  | .bound _ => True

/-- A layer is to be patched below the selected page, where none can be looked for. -/
def Operation.IsUnsearchable (op : Operation) (st : Store) : Prop :=
  ∃ id props patch page, st.Patches op id props patch ∧ st.document.currentPage? = some page ∧
    id ≠ page.id ∧ page.Unsearchable

/-- A layer is to be patched that would be below itself after the patch. -/
def Operation.IsEndless (op : Operation) (st : Store) (s : Supply) : Prop :=
  ∃ id props patch page target updated t, st.Patches op id props patch ∧
    st.document.currentPage? = some page ∧ page.searched id = .ok (some target) ∧
    target.patched props patch s = some (updated, t) ∧ id ∈ Forest.ids updated.children

namespace Store

/-- The ways in which an operation ends. -/
inductive Answers (st : Store) (s : Supply) (op : Operation) : Edit Reply → Prop
  | commit {d : Document} {warnings : List Warning} {t : Supply} (hcreates : op.creates = false) :
      Answers st s op (.commit .nothing d t warnings)
  | create {id : String} {d : Document} {warnings : List Warning} {t : Supply}
      (hlisted : id ∈ op.listing d) : Answers st s op (.commit (.id (some id)) d t warnings)
  | refuse {reply : Reply} {warnings : List Warning} {t : Supply}
      (hreply : reply = .nothing ∨ reply = .id none) (hwarnings : warnings ≠ [])
      (hbusy : ¬ op.HasNothingToDo st) : Answers st s op ⟨.ok reply, none, warnings, t⟩
  | idle {t : Supply} (hidle : op.HasNothingToDo st) : Answers st s op (.idle .nothing t)
  | unsearchable {page : String} {t : Supply} (h : op.IsUnsearchable st) :
      Answers st s op (.fail (.pageNotSearchable page) t [])
  | endless {id : String} {warnings : List Warning} {t : Supply} (h : op.IsEndless st s) :
      Answers st s op (.fail (.endless id) t warnings)

namespace Answers

variable {st : Store} {s t : Supply} {op : Operation} {warning : Warning}

theorem refused (h : op.unties = false) :
    st.Answers s op ((Edit.refuse () t warning).map fun _ => .nothing) :=
  .refuse (.inl rfl) (List.cons_ne_nil _ _) (op.not_hasNothingToDo h st)

theorem refusedId (h : op.unties = false) :
    st.Answers s op ((Edit.refuse none t warning).map .id) :=
  .refuse (.inr rfl) (List.cons_ne_nil _ _) (op.not_hasNothingToDo h st)

end Answers

/-! ## Searches -/

theorem searched_eq_error {page : Layer} {id : String} {error : EditError}
    (h : page.searched id = .error error) :
    id ≠ page.id ∧ page.Unsearchable ∧ error = .pageNotSearchable page.id := by
  unfold Layer.searched at h
  unfold Layer.Unsearchable
  split at h
  · cases h
  · next hid =>
    cases hslot : page.slot with
    | layers items => simp [hslot] at h
    | text content =>
      simp only [hslot] at h
      split at h
      · cases h
      · next hcontent =>
        cases h
        exact ⟨hid, by simpa using hcontent, rfl⟩
    | bound variableId =>
      simp only [hslot] at h
      cases h
      exact ⟨hid, trivial, rfl⟩

theorem searched_of_unsearchable {page : Layer} {id : String} (hid : id ≠ page.id)
    (h : page.Unsearchable) : page.searched id = .error (.pageNotSearchable page.id) := by
  unfold Layer.Unsearchable at h
  rw [Layer.searched, if_neg hid]
  cases hslot : page.slot with
  | layers items => simp [hslot] at h
  | text content =>
    simp only [hslot] at h
    simp [h]
  | bound variableId => rfl

/-- What is found in the selected page is found by a search of that page. -/
theorem searched_of_layer? {d : Document} {id : String} {l : Layer} (h : d.layer? id = some l) :
    ∃ page, d.currentPage? = some page ∧ page.searched id = .ok (some l) := by
  unfold Document.layer? at h
  split at h
  · cases h
  · split at h
    · next hid =>
      refine ⟨l, h, ?_⟩
      rw [Layer.searched, if_pos (hid.trans (Document.page?_eq_some h).2.symm)]
    · next hid =>
      unfold Document.layersOfPage at h
      split at h
      · next page hpage =>
        have hne : id ≠ page.id := fun he => hid (he.trans (Document.page?_eq_some hpage).2)
        refine ⟨page, hpage, ?_⟩
        obtain ⟨head, slot⟩ := page
        cases slot with
        | layers items =>
          rw [Layer.searched, if_neg hne]
          exact congrArg Except.ok h
        | text content => simp [Forest.find?, Layer.children, Slot.items] at h
        | bound variableId => simp [Forest.find?, Layer.children, Slot.items] at h
      · simp [Forest.find?] at h

/-! ## Patches -/

namespace Patches

variable {st : Store} {op : Operation} {id : String} {props patch : Entries Value}

/-- What an operation that patches a layer answers is what the patch comes to. -/
theorem answer_eq (h : st.Patches op id props patch) (s : Supply) :
    op.answer st s = (st.updateLayer s id props patch).map fun _ => .nothing := by
  cases h with
  | updateLayer | bindProp => rfl
  | unbindProp hfree hlayer hbound =>
    simp [Operation.answer, Store.unbindProp, hfree, hlayer, hbound]
  | bindChildren hlayer htext => simp [Operation.answer, Store.bindChildren, hlayer, htext]
  | unbindChildren hfree hlayer hbound =>
    simp [Operation.answer, Store.unbindChildren, hfree, hlayer, hbound]

theorem creates_eq_false (h : st.Patches op id props patch) : op.creates = false := by
  cases h <;> rfl

/-- A slot that is untied by a patch is bound. -/
theorem not_hasNothingToDo (h : st.Patches op id props patch) : ¬ op.HasNothingToDo st := by
  cases h with
  | updateLayer | bindProp | bindChildren => exact not_false
  | unbindProp _ hlayer hbound | unbindChildren _ hlayer hbound =>
    rintro ⟨layer, hsame, hnone⟩
    rw [hlayer] at hsame
    cases hsame
    rw [hbound] at hnone
    cases hnone

/-- A patch commits, or refuses and says why, or breaks off. -/
theorem answers (h : st.Patches op id props patch) (s : Supply) :
    st.Answers s op (op.answer st s) := by
  have hrefused : ∀ w, st.Answers s op ((Edit.refuse () s w).map fun _ => .nothing) :=
    fun w => .refuse (.inl rfl) (List.cons_ne_nil _ _) h.not_hasNothingToDo
  rw [h.answer_eq]
  unfold Store.updateLayer
  dsimp only
  split
  · exact hrefused _
  · next page hpage =>
    split
    · next error herror =>
      obtain ⟨hid, hslot, rfl⟩ := searched_eq_error herror
      exact .unsearchable ⟨id, props, patch, page, h, hpage, hid, hslot⟩
    · exact hrefused _
    · next target htarget =>
      split
      · exact .refuse (.inl rfl) (by simp) h.not_hasNothingToDo
      · next updated t hupdated =>
        split
        · next hnone =>
          have hbelow := (Forest.replace?_eq_none_iff.mp hnone).2
          exact .endless ⟨id, props, patch, page, target, updated, t, h, hpage, htarget, hupdated,
            hbelow⟩
        · exact .commit h.creates_eq_false

end Patches

/-- The search for a layer that is to be patched fails where none can be looked for. -/
theorem answer_of_isUnsearchable {st : Store} {op : Operation} (h : op.IsUnsearchable st)
    (s : Supply) : ∃ page, op.answer st s = .fail (.pageNotSearchable page) s [] := by
  obtain ⟨id, props, patch, page, hpatches, hpage, hid, hslot⟩ := h
  refine ⟨page.id, ?_⟩
  simp only [hpatches.answer_eq, updateLayer, hpage, searched_of_unsearchable hid hslot]
  rfl

/-- A patch that puts a layer below itself never comes to an end. All that may be said before is
that the id cannot be changed. -/
theorem answer_of_isEndless {st : Store} {s : Supply} {op : Operation} (h : op.IsEndless st s) :
    ∃ id warnings t, op.answer st s = .fail (.endless id) t warnings ∧
      warnings ⊆ [.idInPatch id] ∧ s.Onward t := by
  obtain ⟨id, props, patch, page, target, updated, t, hpatches, hpage, htarget, hupdated,
    hbelow⟩ := h
  have hlisted : id ∈ Forest.ids st.document.pages := by
    obtain ⟨hmem, hid⟩ := mem_preorder_of_searched hpage htarget
    exact Forest.mem_ids_iff.mpr ⟨target, hmem, hid⟩
  have hnone : Forest.replace? id updated st.document.pages = none :=
    Forest.replace?_eq_none_iff.mpr ⟨hlisted, hbelow⟩
  refine ⟨id, if Entries.has patch "id" then [.idInPatch id] else [], t, ?_, ?_,
    Layer.onward_patched hupdated⟩
  · simp only [hpatches.answer_eq, updateLayer, hpage, htarget, hupdated, hnone]
    rfl
  · split <;> simp

/-! ## There are no other answers -/

variable (st : Store) (s : Supply)

theorem answers_addLayer (type parent : String) (position : Option Int) :
    st.Answers s (.addLayer type parent position)
      ((st.addLayer s type parent position).map .id) := by
  unfold addLayer
  dsimp only
  split
  · exact .refusedId rfl
  · next target htarget =>
    split
    · exact .refusedId rfl
    · next hholds =>
      rw [Bool.not_eq_true, Bool.not_eq_false'] at hholds
      obtain ⟨hmem, hid⟩ := Forest.find?_eq_some htarget
      -- the parent that was found takes the layer in
      have hlisted : ∀ layer : Layer,
          layer.id ∈ Forest.ids (Forest.insert parent layer position st.document.pages) :=
        fun layer => Forest.ids_layer_subset_insert (Forest.holders_pos hmem hid hholds) layer
          position layer.id_mem_ids
      split
      · exact .create (hlisted _)
      · split
        · exact .refusedId rfl
        · exact .create (hlisted _)

theorem answers_addPage (name : Option String) :
    st.Answers s (.addPage name) ((st.addPage s name).map fun id => .id (some id)) := by
  refine .create ?_
  simp [Operation.listing, Layer.ids_eq]

theorem answers_duplicateLayer (id : String) :
    st.Answers s (.duplicateLayer id) ((st.duplicateLayer s id).map .id) := by
  unfold duplicateLayer
  dsimp only
  split
  · refine .create ?_
    rw [Operation.listing, Forest.ids_append, Forest.ids_singleton]
    exact List.mem_append_right _ (Layer.id_mem_ids _)
  · split
    · next layer page hlayer hpage =>
      split
      · exact .refusedId rfl
      · next parent hparent =>
        refine .create ?_
        obtain ⟨hmem, child, hchild, -⟩ := Forest.parentOf?_eq_some hparent
        have hholds := Layer.holdsLayers_of_mem_children hchild
        have hpages := Forest.mem_preorder_of_mem (Document.page?_eq_some hpage).1
        rw [Forest.preorder_cons, Forest.preorder_nil, List.append_nil] at hmem
        have hlisted := (Forest.preorder_sublist_of_mem hpages).subset hmem
        exact Forest.ids_layer_subset_insert (Forest.holders_pos hlisted rfl hholds) _ _
          (Layer.id_mem_ids _)
    · exact .refusedId rfl

theorem answers_removeLayer (id : String) :
    st.Answers s (.removeLayer id) ((st.removeLayer s id).map fun _ => .nothing) := by
  unfold removeLayer
  dsimp only
  split
  · split
    · exact .refused rfl
    · exact .commit rfl
  · split
    · exact .refused rfl
    · exact .commit rfl

theorem answers_moveLayer (id parent : String) (position : Option Int) :
    st.Answers s (.moveLayer id parent position)
      ((st.moveLayer s id parent position).map fun _ => .nothing) := by
  unfold moveLayer
  dsimp only
  split
  · exact .refused rfl
  · split
    · exact .refused rfl
    · split
      · exact .refused rfl
      · exact .commit rfl

theorem answers_selectLayer (id : String) :
    st.Answers s (.selectLayer id) ((st.selectLayer s id).map fun _ => .nothing) := by
  unfold selectLayer
  split
  · exact .refused rfl
  · exact .commit rfl

theorem answers_selectPage (id : String) :
    st.Answers s (.selectPage id) ((st.selectPage s id).map fun _ => .nothing) := by
  unfold selectPage
  split
  · exact .refused rfl
  · exact .commit rfl

theorem answers_replaceDocument (pages : Pages) (page layer : Value) (vars : List Value) :
    st.Answers s (.replaceDocument pages page layer vars)
      ((st.replaceDocument s pages page layer vars).map fun _ => .nothing) := by
  unfold replaceDocument
  cases pages with
  | data items | components layers =>
    dsimp only
    split
    · exact .refused rfl
    · split
      · split
        · exact .commit rfl
        · exact .refused rfl
      · exact .refused rfl

theorem answers_addVariable (name type default : Value) :
    st.Answers s (.addVariable name type default)
      ((st.addVariable s name type default).map .id) := by
  unfold addVariable
  dsimp only
  split
  · exact .create (by simp [Operation.listing])
  · exact .refusedId rfl

theorem answers_updateVariable (id : String) (patch : Entries Value) :
    st.Answers s (.updateVariable id patch)
      ((st.updateVariable s id patch).map fun _ => .nothing) := by
  unfold updateVariable
  split
  · exact .refused rfl
  · split
    · exact .refused rfl
    · exact .commit rfl

theorem answers_removeVariable (id : String) :
    st.Answers s (.removeVariable id) ((st.removeVariable s id).map fun _ => .nothing) := by
  unfold removeVariable
  split
  · exact .refused rfl
  · exact .commit rfl

theorem isPinned_none (l : Layer) (slot : String) : st.isPinned l slot none = false := by
  unfold isPinned
  cases st.entryOf? l <;> rfl

/-- A slot is untied by a patch, unless it is pinned or not bound. -/
theorem answers_unbindProp (id prop : String) :
    st.Answers s (.unbindProp id prop) ((st.unbindProp s id prop).map fun _ => .nothing) := by
  by_cases hpinned : st.isPropPinned id prop = true
  · have hbusy : ¬ (Operation.unbindProp id prop).HasNothingToDo st := by
      rintro ⟨layer, hlayer, hnone⟩
      simp [isPropPinned, hlayer, hnone, isPinned_none] at hpinned
    rw [unbindProp, if_pos hpinned]
    exact .refuse (.inl rfl) (List.cons_ne_nil _ _) hbusy
  · cases hlayer : st.document.layer? id with
    | none =>
      simp only [unbindProp, hpinned, hlayer]
      exact .refuse (.inl rfl) (List.cons_ne_nil _ _) (by simp [Operation.HasNothingToDo, hlayer])
    | some layer =>
      cases hbound : propReference? layer prop with
      | none =>
        simp only [unbindProp, hpinned, hlayer, hbound]
        exact .idle ⟨layer, hlayer, hbound⟩
      | some variableId =>
        exact (Patches.unbindProp (by simpa using hpinned) hlayer hbound).answers s

theorem answers_bindChildren (id variableId : String) :
    st.Answers s (.bindChildren id variableId)
      ((st.bindChildren s id variableId).map fun _ => .nothing) := by
  cases hlayer : st.document.layer? id with
  | none =>
    simp only [bindChildren, hlayer]
    exact .refused rfl
  | some layer =>
    by_cases htext : ((st.entryOf? layer).map RegistryEntry.acceptsText).getD false = true
    · exact (Patches.bindChildren hlayer htext).answers s
    · simp only [bindChildren, hlayer, htext]
      exact .refused rfl

theorem answers_unbindChildren (id : String) :
    st.Answers s (.unbindChildren id) ((st.unbindChildren s id).map fun _ => .nothing) := by
  by_cases hpinned : st.isChildrenPinned id = true
  · have hbusy : ¬ (Operation.unbindChildren id).HasNothingToDo st := by
      rintro ⟨layer, hlayer, hnone⟩
      simp [isChildrenPinned, hlayer, hnone, isPinned_none] at hpinned
    rw [unbindChildren, if_pos hpinned]
    exact .refuse (.inl rfl) (List.cons_ne_nil _ _) hbusy
  · cases hlayer : st.document.layer? id with
    | none =>
      simp only [unbindChildren, hpinned, hlayer]
      exact .refuse (.inl rfl) (List.cons_ne_nil _ _) (by simp [Operation.HasNothingToDo, hlayer])
    | some layer =>
      cases hbound : layer.slot.reference? with
      | none =>
        simp only [unbindChildren, hpinned, hlayer, hbound]
        exact .idle ⟨layer, hlayer, hbound⟩
      | some variableId =>
        exact (Patches.unbindChildren (by simpa using hpinned) hlayer hbound).answers s

end Store

end LayerDoc
