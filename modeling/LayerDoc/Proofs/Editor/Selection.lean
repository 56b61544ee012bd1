import LayerDoc.Proofs.Editor.LayerIds

/-!
# The selected layer over a run

The selected layer is one of the document, on whichever page, or no layer is selected. What goes
with a layer that is taken out are exactly the ids of that layer, since no id occurs twice; so the
selection goes if and only if it has to. A run keeps this in all documents that the editor holds
(`Editor.ownsSelection_runAll`), if a list of children is never replaced as a whole and a document
that is put in the place of the edited one brings its own selection.
-/

namespace LayerDoc

namespace Document

/-- No layer is selected, or one that is on some page, at any depth. -/
def OwnsSelection (d : Document) : Prop :=
  ∀ id, d.selectedLayer = some id → id ∈ Forest.ids d.pages

namespace OwnsSelection

variable {c d : Document}

/-- More layers leave the selection where it is. -/
theorem of_subset (h : d.OwnsSelection) (hselected : c.selectedLayer = d.selectedLayer)
    (hids : Forest.ids d.pages ⊆ Forest.ids c.pages) : c.OwnsSelection := by
  intro id hid
  rw [hselected] at hid
  exact hids (h id hid)

/-- When a layer is taken out, the selection stays only if it was elsewhere. -/
theorem of_without (h : d.OwnsSelection) {removed : Layer}
    (hselected : c.selectedLayer = Store.selectionWithout d.selectedLayer removed)
    (hids : ∀ id ∈ Forest.ids d.pages, id ∉ removed.ids → id ∈ Forest.ids c.pages) :
    c.OwnsSelection := by
  intro id hid
  rw [hselected] at hid
  unfold Store.selectionWithout at hid
  split at hid
  · next selected hold =>
    split at hid
    · cases hid
    · next hout =>
      cases hid
      rw [List.contains_iff_mem] at hout
      exact hids _ (h _ hold) hout
  · cases hid

end OwnsSelection

end Document

/-- With distinct ids, what is not below a page is on the pages with other ids. -/
theorem Forest.mem_ids_filter_of_not_mem {f : Forest} (hf : (ids f).Nodup) {page : Layer}
    (hpage : page ∈ f) {id : String} (hid : id ∈ ids f) (hout : id ∉ page.ids) :
    id ∈ ids (f.filter (·.id ≠ page.id)) := by
  rw [ids_eq_flatMap, List.mem_flatMap] at hid ⊢
  obtain ⟨other, hother, hbelow⟩ := hid
  refine ⟨other, List.mem_filter.mpr ⟨hother, ?_⟩, hbelow⟩
  rw [decide_eq_true_iff]
  rintro hsame
  have := eq_of_mem_preorder hf (mem_preorder_of_mem hother) (mem_preorder_of_mem hpage) hsame
  exact hout (this ▸ hbelow)

namespace Operation

/-- An operation that does not replace a list of children as a whole: no patch of the children of a
layer, and no binding of children that are a list. -/
def SparesLists (st : Store) : Operation → Prop
  | .updateLayer _ _ patch => Entries.get? patch "children" = none
  | .bindChildren id _ => ∀ l, st.document.layer? id = some l → l.holdsLayers = false
  | _ => True

/-- An operation that, if it starts over with other pages, selects no layer or one of theirs. -/
def SelectsGiven (s : Supply) : Operation → Prop
  | .replaceDocument pages _ selectedLayer _ =>
    ∀ id forest t, selectedLayer.textOrNull? = some (some id) →
      pages.read? s = some (forest, t) → id ∈ Forest.ids forest
  | _ => True

theorem SparesLists.patchesNoList {st : Store} {op : Operation} (h : op.SparesLists st) :
    op.PatchesNoList := by
  cases op with
  | updateLayer id props patch =>
    have hnone : Entries.get? patch "children" = none := h
    intro v hv
    rw [hnone] at hv
    cases hv
  | _ => trivial

end Operation

namespace Store

variable {st : Store} {s t : Supply} {d : Document}

/-- A patch that leaves a list of children as it is changes no ids. -/
theorem Updated.ids_pages {id : String} {props patch : Entries Value}
    (h : st.Updated s id props patch d t) (hnodup : (Forest.ids st.document.pages).Nodup)
    (hpatch : ∀ v, Entries.get? patch "children" = some v → v.items? = none ∧
      ∀ l ∈ Forest.preorder st.document.pages, l.id = id → l.holdsLayers = false) :
    Forest.ids d.pages = Forest.ids st.document.pages ∧
      d.selectedLayer = st.document.selectedLayer := by
  obtain ⟨target, updated, hmem, rfl, hupdated, -, rfl⟩ := h.exists_target
  refine ⟨Forest.ids_replace fun l hl hid => ?_, rfl⟩
  rw [Forest.eq_of_mem_preorder hnodup hl hmem hid]
  refine Layer.ids_eq_of_patched hupdated fun v hv => ?_
  obtain ⟨hitems, hleaf⟩ := hpatch v hv
  exact ⟨hitems, hleaf target hmem rfl⟩

theorem Updated.ownsSelection {id : String} {props patch : Entries Value}
    (h : st.Updated s id props patch d t) (hnodup : (Forest.ids st.document.pages).Nodup)
    (hpatch : ∀ v, Entries.get? patch "children" = some v → v.items? = none ∧
      ∀ l ∈ Forest.preorder st.document.pages, l.id = id → l.holdsLayers = false)
    (hdoc : st.document.OwnsSelection) : d.OwnsSelection := by
  obtain ⟨hids, hselected⟩ := h.ids_pages hnodup hpatch
  exact hdoc.of_subset hselected (hids ▸ List.Subset.refl _)

/-- In a document of distinct ids the layer that is found by an id is the only one with it. -/
theorem holdsLayers_of_layer? {id : String} {layer : Layer}
    (hnodup : (Forest.ids st.document.pages).Nodup) (hlayer : st.document.layer? id = some layer)
    {l : Layer} (hl : l ∈ Forest.preorder st.document.pages) (hid : l.id = id) :
    l.holdsLayers = layer.holdsLayers := by
  obtain ⟨hmem, hsame⟩ := Document.layer?_eq_some hlayer
  rw [Forest.eq_of_mem_preorder hnodup hl hmem (hid.trans hsame.symm)]

/-- An operation that spares lists of children writes children over a layer without such a list. -/
theorem Patches.spares {op : Operation} {id : String} {props patch : Entries Value}
    (h : st.Patches op id props patch) (hlists : op.SparesLists st)
    (hnodup : (Forest.ids st.document.pages).Nodup) :
    ∀ v, Entries.get? patch "children" = some v → v.items? = none ∧
      ∀ l ∈ Forest.preorder st.document.pages, l.id = id → l.holdsLayers = false := by
  intro v hv
  refine ⟨h.no_items hlists.patchesNoList v hv, fun l hl hid => ?_⟩
  cases h with
  | updateLayer =>
    have hnone : Entries.get? patch "children" = none := hlists
    rw [hnone] at hv
    cases hv
  | bindProp | unbindProp => cases hv
  | bindChildren hlayer =>
    rw [holdsLayers_of_layer? hnodup hlayer hl hid]
    exact hlists _ hlayer
  | unbindChildren _ hlayer hbound =>
    rw [holdsLayers_of_layer? hnodup hlayer hl hid]
    exact Layer.holdsLayers_of_reference? hbound

/-- Every commit keeps the selected layer in the document or the selection empty. -/
theorem Commits.ownsSelection {op : Operation} (h : st.Commits s op d t)
    (hlists : op.SparesLists st) (hgiven : op.SelectsGiven s)
    (hnodup : (Forest.ids st.document.pages).Nodup) (hdoc : st.document.OwnsSelection) :
    d.OwnsSelection := by
  cases h with
  | addLayer htarget hholds =>
    obtain ⟨hmem, hid⟩ := Forest.find?_eq_some htarget
    intro id hselected
    cases hselected
    exact Forest.ids_layer_subset_insert (Forest.holders_pos hmem hid hholds) _ _
      (Layer.id_mem_ids _)
  | addPage =>
    intro id hselected
    cases hselected
    rw [Forest.ids_append, Forest.ids_singleton]
    exact List.mem_append_right _ (Layer.id_mem_ids _)
  | duplicatePage =>
    refine hdoc.of_subset rfl ?_
    rw [Forest.ids_append]
    exact List.subset_append_left _ _
  | duplicateLayer => exact hdoc.of_subset rfl (Forest.ids_subset_insert _ _ _ _)
  | removePage hpage =>
    obtain ⟨hmem, rfl⟩ := Document.page?_eq_some hpage
    exact hdoc.of_without rfl fun id => Forest.mem_ids_filter_of_not_mem hnodup hmem
  | removeLayer _ hlayer =>
    obtain ⟨hmem, rfl⟩ := Forest.find?_eq_some hlayer
    have hperm := Forest.perm_ids_without hnodup hmem
    exact hdoc.of_without rfl fun id hid hout =>
      (List.mem_append.mp (hperm.subset hid)).resolve_left hout
  | moveLayer _ _ hmove =>
    exact hdoc.of_subset rfl (Forest.perm_ids_move hnodup hmove).symm.subset
  | selectLayer hlayer =>
    obtain ⟨hmem, hid⟩ := Document.layer?_eq_some hlayer
    intro id hselected
    cases hselected
    exact Forest.mem_ids_iff.mpr ⟨_, hmem, hid⟩
  | replaceDocument hpages _ _ hlayer h =>
    obtain ⟨hforest, -, hselected, -⟩ := Document.assemble_eq_ok h
    intro id hid
    rw [hselected] at hid
    rw [hforest]
    exact hgiven id _ _ (hid ▸ hlayer) hpages
  | patch hpatches h => exact h.ownsSelection hnodup (hpatches.spares hlists hnodup) hdoc
  | removeVariable =>
    refine hdoc.of_subset rfl ?_
    rw [Forest.ids_releasedItems]
    exact List.Subset.refl _
  | selectPage | addVariable | updateVariable => exact hdoc

end Store

namespace Editor

/-- Over every run from an editor at the start whose document selects no layer or one of its own,
with new labels, without a list of children that is replaced as a whole, and with documents that
bring their own selection: in every document that the editor holds, in its store and in its history,
no layer is selected or one of that document. -/
theorem ownsSelection_runAll {e : Editor} (he : e.Opened) (hstart : e.document.OwnsSelection)
    {ops : List Operation} (hfresh : e.FreshRun (fun d => Forest.ids d.pages) ops)
    (hops : e.Along (fun st s op => op.SparesLists st ∧ op.SelectsGiven s) ops) :
    ∀ d ∈ (e.runAll ops).documents,
      d.selectedLayer = none ∨ ∃ l ∈ Forest.preorder d.pages, d.selectedLayer = some l.id := by
  have howns := kept_runAll he hfresh hops (fun st s op h => h.1.patchesNoList) hstart
    fun hop hcommit hdoc _ hq => hcommit.ownsSelection hop.1 hop.2 hdoc.nodup hq
  intro d hd
  cases hselected : d.selectedLayer with
  | none => exact Or.inl rfl
  | some id =>
    obtain ⟨l, hl, hid⟩ := Forest.mem_ids_iff.mp (howns d hd id hselected)
    exact Or.inr ⟨l, hl, hid ▸ rfl⟩

/-- The default document gives way to one whose selected layer is nested; that layer is removed with
the box around it, and the box is taken back. -/
theorem ownsSelection_of_removed_box :
    let ops : List Operation :=
      [.replaceDocument
          (.data [.object [("id", .str "home"), ("children", .list [.object [("id", .str "box"),
            ("type", .str "Box"), ("children", .list [.object [("id", .str "text"),
              ("type", .str "Text")]])]])]]) .null (.str "text") [],
        .removeLayer "box", .undo]
    let e := (start [] [] .default none .start).runAll ops
    e.document.selectedLayer = none ∨
      ∃ l ∈ Forest.preorder e.document.pages, e.document.selectedLayer = some l.id := by
  intro ops
  have hfirst : (start [] [] .default none .start).supply.FreshFor
      (Forest.ids (start [] [] .default none .start).document.pages) :=
    (Supply.Gives.one .start).freshFor Supply.start_injective
  have hfresh : (start [] [] .default none .start).FreshRun (fun d => Forest.ids d.pages) ops := by
    refine ⟨Supply.start_injective, hfirst, fun _ d t h => ?_, ?_⟩
    · have hids : Forest.ids d.pages = ["home", "box", "text"] :=
        Option.some.inj (congrArg Prod.fst h) ▸ rfl
      have hlabel : t.label = Supply.groupLabel := (congrArg (fun r => r.2.label) h).symm
      show t.FreshFor (Forest.ids d.pages)
      rw [hids]
      exact Supply.freshFor_of_label_eq hlabel (by decide)
    · simp [Along, Operation.LeavesFresh, Operation.replaces]
  have hstart : (start [] [] .default none .start).document.OwnsSelection := by
    intro id hid
    cases hid
  refine ownsSelection_runAll .default hstart hfresh ⟨⟨trivial, ?_⟩, ?_⟩ _ List.mem_cons_self
  · intro id forest t hid hread
    cases hid
    cases hread
    decide
  · simp [Along, Operation.SparesLists, Operation.SelectsGiven]

end Editor

end LayerDoc
