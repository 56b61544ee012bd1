import LayerDoc.Proofs.Forest.Visiting
import LayerDoc.Proofs.Reading
import LayerDoc.Editor

/-!
# Commits of the store

What an operation asks of the store is its effect: the document that it commits, if it does, and
the ids that are left. `Store.Commits` lists the documents that operations commit, with the
conditions under which they do, and `Store.commits_of_effect` says that there are no others. What
holds of all documents that the store commits is shown by cases on it.
-/

namespace LayerDoc

/-- What comes of an edit for the store. -/
def Edit.effect {α : Type} (edit : Edit α) : Option Document × Supply :=
  (edit.committed, edit.supply)

/-- What an operation comes to for the store. The steps through the history, and those that change
who listens, ask nothing of it. -/
def Operation.effect (st : Store) (s : Supply) : Operation → Option Document × Supply
  | .addLayer type parent position => (st.addLayer s type parent position).effect
  | .addPage name => (st.addPage s name).effect
  | .duplicateLayer id => (st.duplicateLayer s id).effect
  | .removeLayer id => (st.removeLayer s id).effect
  | .updateLayer id props patch => (st.updateLayer s id props patch).effect
  | .moveLayer id parent position => (st.moveLayer s id parent position).effect
  | .selectLayer id => (st.selectLayer s id).effect
  | .selectPage id => (st.selectPage s id).effect
  | .replaceDocument pages page layer vars => (st.replaceDocument s pages page layer vars).effect
  | .addVariable name type default => (st.addVariable s name type default).effect
  | .updateVariable id patch => (st.updateVariable s id patch).effect
  | .removeVariable id => (st.removeVariable s id).effect
  | .bindProp id prop variableId => (st.bindProp s id prop variableId).effect
  | .unbindProp id prop => (st.unbindProp s id prop).effect
  | .bindChildren id variableId => (st.bindChildren s id variableId).effect
  | .unbindChildren id => (st.unbindChildren s id).effect
  | .undo | .redo | .clearHistory | .closeHistory | .subscribe _ | .unsubscribe _ => (none, s)

namespace Document

theorem page?_eq_some {d : Document} {id : String} {page : Layer} (h : d.page? id = some page) :
    page ∈ d.pages ∧ page.id = id := by
  refine ⟨List.mem_of_find?_eq_some h, ?_⟩
  simpa using List.find?_some h

theorem page?_eq_none_iff {d : Document} {id : String} :
    d.page? id = none ↔ ∀ page ∈ d.pages, page.id ≠ id := by
  simp [page?]

/-- A layer that is found in the selected page is one of the document. -/
theorem layer?_eq_some {d : Document} {id : String} {l : Layer} (h : d.layer? id = some l) :
    l ∈ Forest.preorder d.pages ∧ l.id = id := by
  unfold layer? at h
  split at h
  · cases h
  · split at h
    · next hid =>
      obtain ⟨hmem, hpage⟩ := page?_eq_some h
      exact ⟨Forest.mem_preorder_of_mem hmem, hpage.trans hid.symm⟩
    · obtain ⟨hmem, hid⟩ := Forest.find?_eq_some h
      refine ⟨?_, hid⟩
      unfold layersOfPage at hmem
      split at hmem
      · next page hpage =>
        have hpages := Forest.mem_preorder_of_mem (page?_eq_some hpage).1
        refine (Forest.preorder_sublist_of_mem hpages).subset ?_
        rw [Layer.preorder_eq]
        exact List.mem_cons_of_mem _ hmem
      · simp at hmem

end Document

namespace Store

theorem isPage_eq_false_iff {st : Store} {id : String} :
    st.isPage id = false ↔ ∀ page ∈ st.document.pages, page.id ≠ id := by
  simp [isPage]

/-- The pages that a document starts over with, read from data or taken from components. -/
def Pages.read? (s : Supply) : Pages → Option (Forest × Supply)
  | .data pages => Document.readPages pages s
  | .components layers => (pagesOfComponents layers).map (·, s)

theorem Pages.onward_read? {pages : Pages} {s t : Supply} {forest : Forest}
    (h : pages.read? s = some (forest, t)) : s.Onward t := by
  cases pages with
  | data items => exact Document.onward_readPages h
  | components layers =>
    obtain ⟨f, -, he⟩ := Option.map_eq_some_iff.mp h
    cases he
    exact .refl s

/-- Every page that was given as a component comes from one of the components. -/
theorem exists_of_mem_pagesOfComponents : ∀ {layers forest : Forest},
    pagesOfComponents layers = some forest → ∀ page ∈ forest, ∃ l ∈ layers, l.asPage? = some page
  | [], forest, h => by
    cases h
    simp
  | l :: rest, forest, h => by
    unfold pagesOfComponents at h
    rw [List.mapM_cons] at h
    obtain ⟨page, hpage, h⟩ := Option.bind_eq_some_iff.mp h
    obtain ⟨others, hothers, h⟩ := Option.bind_eq_some_iff.mp h
    cases h
    refine List.forall_mem_cons.mpr ⟨⟨l, List.mem_cons_self, hpage⟩, fun other hother => ?_⟩
    obtain ⟨m, hm, he⟩ := exists_of_mem_pagesOfComponents hothers other hother
    exact ⟨m, List.mem_cons_of_mem _ hm, he⟩

theorem arePages_of_pagesOfComponents {layers forest : Forest}
    (h : pagesOfComponents layers = some forest) : forest.ArePages := by
  intro page hpage
  obtain ⟨l, -, he⟩ := exists_of_mem_pagesOfComponents h page hpage
  exact Layer.asPage?_eq_some he

theorem Pages.arePages_of_read? {pages : Pages} {s t : Supply} {forest : Forest}
    (h : pages.read? s = some (forest, t)) : forest.ArePages := by
  cases pages with
  | data items => exact Document.arePages_of_readPages h
  | components layers =>
    obtain ⟨f, hf, he⟩ := Option.map_eq_some_iff.mp h
    cases he
    exact arePages_of_pagesOfComponents hf

/-- A search of a page finds the page or a layer under it. -/
theorem searched_eq_ok {page l : Layer} {id : String} (h : page.searched id = .ok (some l)) :
    l ∈ page.preorder ∧ l.id = id := by
  unfold Layer.searched at h
  split at h
  · next hid =>
    cases h
    exact ⟨page.mem_preorder_self, hid.symm⟩
  · split at h
    · next items hslot =>
      cases h' : Forest.find? items id with
      | none =>
        rw [h'] at h
        cases h
      | some found =>
        rw [h'] at h
        cases h
        obtain ⟨hmem, hid⟩ := Forest.find?_eq_some h'
        obtain ⟨head, slot⟩ := page
        cases hslot
        rw [Layer.preorder_layers]
        exact ⟨List.mem_cons_of_mem _ hmem, hid⟩
    · split at h <;> cases h
    · cases h

/-- What is found in the selected page is a layer of the document. -/
theorem mem_preorder_of_searched {d : Document} {page l : Layer} {id : String}
    (hpage : d.currentPage? = some page) (h : page.searched id = .ok (some l)) :
    l ∈ Forest.preorder d.pages ∧ l.id = id := by
  obtain ⟨hbelow, hid⟩ := searched_eq_ok h
  have hpages := Forest.mem_preorder_of_mem (Document.page?_eq_some hpage).1
  exact ⟨(Forest.preorder_sublist_of_mem hpages).subset hbelow, hid⟩

/-- The patches that operations write over a layer: its id, the props and the other attributes. -/
inductive Patches (st : Store) : Operation → String → Entries Value → Entries Value → Prop
  | updateLayer {id : String} {props patch : Entries Value} :
      Patches st (.updateLayer id props patch) id props patch
  | bindProp {id prop variableId : String} :
      Patches st (.bindProp id prop variableId) id [(prop, Value.ofReference variableId)] []
  | unbindProp {id prop variableId : String} {layer : Layer}
      (hfree : st.isPropPinned id prop = false) (hlayer : st.document.layer? id = some layer)
      (hbound : propReference? layer prop = some variableId) :
      Patches st (.unbindProp id prop) id
        [(prop, (Entries.get? (st.registry.defaultProps layer.type) prop).getD (.str ""))] []
  | bindChildren {id variableId : String} {layer : Layer}
      (hlayer : st.document.layer? id = some layer)
      (htext : ((st.entryOf? layer).map RegistryEntry.acceptsText).getD false = true) :
      Patches st (.bindChildren id variableId) id [] [("children", Value.ofReference variableId)]
  | unbindChildren {id variableId : String} {layer : Layer}
      (hfree : st.isChildrenPinned id = false) (hlayer : st.document.layer? id = some layer)
      (hbound : layer.slot.reference? = some variableId) :
      Patches st (.unbindChildren id) id []
        [("children", .str (st.registry.defaultText layer.type))]

/-- The document after a layer of the selected page, or that page, was patched. It is not below
itself after the patch. -/
inductive Updated (st : Store) (s : Supply) (id : String) (props patch : Entries Value) :
    Document → Supply → Prop
  | intro {page target updated : Layer} {t : Supply}
      (hpage : st.document.currentPage? = some page)
      (htarget : page.searched id = .ok (some target))
      (hupdated : target.patched props patch s = some (updated, t))
      (hends : id ∉ Forest.ids updated.children) :
      Updated st s id props patch
        { st.document with pages := Forest.replace id updated st.document.pages } t

/-- What is patched is a layer of the document. -/
theorem Updated.exists_target {st : Store} {s t : Supply} {id : String}
    {props patch : Entries Value}
    {d : Document} (h : st.Updated s id props patch d t) :
    ∃ target updated, target ∈ Forest.preorder st.document.pages ∧ target.id = id ∧
      target.patched props patch s = some (updated, t) ∧ id ∉ Forest.ids updated.children ∧
      d = { st.document with pages := Forest.replace id updated st.document.pages } := by
  obtain ⟨hpage, htarget, hupdated, hends⟩ := h
  obtain ⟨hmem, hid⟩ := mem_preorder_of_searched hpage htarget
  exact ⟨_, _, hmem, hid, hupdated, hends, rfl⟩

/-- The documents that operations commit to a store, with the supply that each leaves. -/
inductive Commits (st : Store) (s : Supply) : Operation → Document → Supply → Prop
  | addLayer {type parent : String} {position : Option Int} {target : Layer}
      (htarget : Forest.find? st.document.pages parent = some target)
      (hholds : target.holdsLayers = true) (hnest : st.nestingProblem? type target = none)
      {layer : Layer} {warnings : List Warning} {t : Supply}
      (hlayer : Layer.ofType type (Entries.get? st.registry type) s = (layer, warnings, t)) :
      Commits st s (.addLayer type parent position)
        { st.document with
          pages := Forest.insert parent layer position st.document.pages
          selectedLayer := some layer.id } t
  | addPage {name : Option String} :
      Commits st s (.addPage name)
        { st.document with
          pages := st.document.pages ++ [.node ⟨.page, s.next.1, st.config.pageType, name,
            Entries.mapValues PropValue.ofValue st.config.defaultPageProps, []⟩ (.layers [])]
          selectedPage := s.next.1
          selectedLayer := some s.next.1 } (s.skip 1)
  | duplicatePage {id : String} {page copy : Layer} {t : Supply}
      (hpage : st.document.page? id = some page)
      (hcopy : page.copyNamed st.config.copySuffix s = (copy, t)) :
      Commits st s (.duplicateLayer id)
        { st.document with pages := st.document.pages ++ [copy], selectedPage := copy.id } t
  | duplicateLayer {id : String} {layer page parent copy : Layer} {t : Supply}
      (hnone : st.document.page? id = none) (hlayer : st.document.layer? id = some layer)
      (hpage : st.document.currentPage? = some page)
      (hparent : Forest.parentOf? [page] id = some parent)
      (hcopy : layer.copyNamed st.config.copySuffix s = (copy, t)) :
      Commits st s (.duplicateLayer id)
        { st.document with
          pages := Forest.insert parent.id copy
            ((Forest.indexOf? parent.children id).map fun i => (i + 1 : Int)) st.document.pages } t
  | removePage {id : String} {page : Layer} (hpage : st.document.page? id = some page)
      (hmany : st.document.pages.length ≠ 1) :
      Commits st s (.removeLayer id)
        { st.document with
          pages := st.document.pages.filter (·.id ≠ id)
          selectedPage :=
            if st.document.selectedPage = id then
              (((st.document.pages.filter (·.id ≠ id)).head?).map Layer.id).getD
                st.document.selectedPage
            else st.document.selectedPage
          selectedLayer := selectionWithout st.document.selectedLayer page } s
  | removeLayer {id : String} {layer : Layer} (hnone : st.document.page? id = none)
      (hlayer : Forest.find? st.document.pages id = some layer) :
      Commits st s (.removeLayer id)
        { st.document with
          pages := Forest.without id st.document.pages
          selectedLayer := selectionWithout st.document.selectedLayer layer } s
  | patch {op : Operation} {id : String} {props patch : Entries Value} {d : Document} {t : Supply}
      (hpatches : st.Patches op id props patch) (h : st.Updated s id props patch d t) :
      Commits st s op d t
  | moveLayer {id parent : String} {position : Option Int} {pages : Forest}
      (hpage : st.isPage id = false)
      (hnest : ∀ layer target, Forest.find? st.document.pages id = some layer →
        Forest.find? st.document.pages parent = some target →
        st.nestingProblem? layer.type target = none)
      (hmove : Forest.move? st.document.pages id parent position = some pages) :
      Commits st s (.moveLayer id parent position) { st.document with pages := pages } s
  | selectLayer {id : String} {layer : Layer} (hlayer : st.document.layer? id = some layer) :
      Commits st s (.selectLayer id) { st.document with selectedLayer := some id } s
  | selectPage {id : String} {page : Layer} (hpage : st.document.page? id = some page) :
      Commits st s (.selectPage id) { st.document with selectedPage := id } s
  | replaceDocument {pages : Pages} {selectedPage selectedLayer : Value} {values : List Value}
      {forest : Forest} {page layer : Option String} {vars : List Variable} {d : Document}
      {u t : Supply} (hpages : pages.read? s = some (forest, u))
      (hvars : Variable.readAll values u = some (vars, t))
      (hpage : selectedPage.textOrNull? = some page)
      (hlayer : selectedLayer.textOrNull? = some layer)
      (h : Document.assemble forest page layer vars = .ok d) :
      Commits st s (.replaceDocument pages selectedPage selectedLayer values) d t
  | addVariable {name type default : Value} {text : String} {kind : VariableType}
      (hname : name.text? = some text) (htype : VariableType.ofValue? type = some kind) :
      Commits st s (.addVariable name type default)
        { st.document with vars := st.document.vars ++ [⟨s.next.1, text, kind, default⟩] }
        (s.skip 1)
  | updateVariable {id : String} {patch : Entries Value} {found v : Variable}
      (hfound : Variable.find? st.document.vars id = some found)
      (hpatched : found.patched patch = some v) :
      Commits st s (.updateVariable id patch)
        { st.document with vars := st.document.vars.map fun w => if w.id = id then v else w } s
  | removeVariable {id : String} {found : Variable}
      (hfound : Variable.find? st.document.vars id = some found) :
      Commits st s (.removeVariable id)
        { st.document with
          pages := Layer.releasedItems st.registry id st.document.pages
          vars := st.document.vars.filter (·.id ≠ id) } s

/-- The outcomes of operations for the store: a commit of one of the documents listed, or nothing.
Labels may be used up without a commit, by the reading of a document that is refused. -/
inductive Settles (st : Store) (s : Supply) (op : Operation) : Option Document × Supply → Prop
  | nothing {t : Supply} (h : s.Onward t) : Settles st s op (none, t)
  | commit {d : Document} {t : Supply} (h : st.Commits s op d t) : Settles st s op (some d, t)

/-! ## There are no other outcomes -/

variable (st : Store) (s : Supply)

theorem Settles.idle {st : Store} {s : Supply} {op : Operation} : st.Settles s op (none, s) :=
  .nothing (.refl s)

theorem settles_addLayer (type parent : String) (position : Option Int) :
    st.Settles s (.addLayer type parent position) (st.addLayer s type parent position).effect := by
  unfold addLayer
  dsimp only
  split
  · exact .idle
  · next target htarget =>
    split
    · exact .idle
    · next hholds =>
      rw [Bool.not_eq_true, Bool.not_eq_false'] at hholds
      rcases hlayer : Layer.ofType type (Entries.get? st.registry type) s with ⟨layer, warnings, t⟩
      cases hentry : Entries.get? st.registry type with
      | none =>
        have hnest : st.nestingProblem? type target = none := by simp [nestingProblem?, hentry]
        have hcommit : st.Commits s (.addLayer type parent position) _ t :=
          .addLayer htarget hholds hnest hlayer
        rw [hentry] at hlayer
        simp only [hlayer]
        exact .commit hcommit
      | some entry =>
        dsimp only
        split
        · exact .idle
        · next hnest =>
          have hcommit : st.Commits s (.addLayer type parent position) _ t :=
            .addLayer htarget hholds hnest hlayer
          rw [hentry] at hlayer
          simp only [hlayer]
          exact .commit hcommit

theorem settles_duplicateLayer (id : String) :
    st.Settles s (.duplicateLayer id) (st.duplicateLayer s id).effect := by
  unfold duplicateLayer
  dsimp only
  split
  · next page hpage => exact .commit (.duplicatePage hpage rfl)
  · next hnone =>
    split
    · next layer page hlayer hpage =>
      split
      · exact .idle
      · next parent hparent => exact .commit (.duplicateLayer hnone hlayer hpage hparent rfl)
    · exact .idle

theorem settles_removeLayer (id : String) :
    st.Settles s (.removeLayer id) (st.removeLayer s id).effect := by
  unfold removeLayer
  dsimp only
  split
  · next page hpage =>
    split
    · exact .idle
    · next hmany => exact .commit (.removePage hpage hmany)
  · next hnone =>
    split
    · exact .idle
    · next layer hlayer => exact .commit (.removeLayer hnone hlayer)

/-- Every operation that patches a layer comes to the patched document or to nothing. -/
theorem settles_updateLayer {op : Operation} {id : String} {props patch : Entries Value}
    (hpatches : st.Patches op id props patch) :
    st.Settles s op (st.updateLayer s id props patch).effect := by
  unfold updateLayer
  dsimp only
  split
  · exact .idle
  · next page hpage =>
    split
    · exact .idle
    · exact .idle
    · next target htarget =>
      split
      · exact .idle
      · next updated t hupdated =>
        split
        · exact .nothing (Layer.onward_patched hupdated)
        · next pages hpages =>
          rw [Forest.replace?_eq_some_iff_not] at hpages
          obtain ⟨hends, rfl⟩ := hpages
          have hid := Forest.mem_ids_iff.mpr ⟨target, mem_preorder_of_searched hpage htarget⟩
          exact .commit (.patch hpatches
            (.intro hpage htarget hupdated fun hbelow => hends ⟨hid, hbelow⟩))

theorem settles_moveLayer (id parent : String) (position : Option Int) :
    st.Settles s (.moveLayer id parent position) (st.moveLayer s id parent position).effect := by
  unfold moveLayer
  dsimp only
  split
  · exact .idle
  · next hpage =>
    split
    · exact .idle
    · next hnest =>
      split
      · exact .idle
      · next pages hmove =>
        refine .commit (.moveLayer (by simpa using hpage) ?_ hmove)
        intro layer target hlayer htarget
        simpa only [hlayer, htarget] using hnest

theorem settles_selectLayer (id : String) :
    st.Settles s (.selectLayer id) (st.selectLayer s id).effect := by
  unfold selectLayer
  split
  · exact .idle
  · next layer hlayer => exact .commit (.selectLayer hlayer)

theorem settles_selectPage (id : String) :
    st.Settles s (.selectPage id) (st.selectPage s id).effect := by
  unfold selectPage
  split
  · exact .idle
  · next page hpage => exact .commit (.selectPage hpage)

theorem settles_replaceDocument (pages : Pages) (page layer : Value) (values : List Value) :
    st.Settles s (.replaceDocument pages page layer values)
      (st.replaceDocument s pages page layer values).effect := by
  have honward : ∀ {forest : Forest} {u : Supply}, pages.read? s = some (forest, u) →
      s.Onward u := Pages.onward_read?
  unfold replaceDocument
  cases pages with
  | data items | components layers =>
    dsimp only
    split
    · exact .idle
    · split
      · next forest u selectedPage selectedLayer vars t hpages hpage hlayer hvars =>
        rw [hpages] at hvars
        split
        · next d hd => exact .commit (.replaceDocument hpages hvars hpage hlayer hd)
        · exact .nothing ((honward hpages).trans (Variable.onward_readAll hvars))
      · exact .idle

theorem settles_addVariable (name type default : Value) :
    st.Settles s (.addVariable name type default) (st.addVariable s name type default).effect := by
  unfold addVariable
  dsimp only
  split
  · next text kind hname htype => exact .commit (.addVariable hname htype)
  · exact .idle

theorem settles_updateVariable (id : String) (patch : Entries Value) :
    st.Settles s (.updateVariable id patch) (st.updateVariable s id patch).effect := by
  unfold updateVariable
  split
  · exact .idle
  · next found hfound =>
    split
    · exact .idle
    · next v hpatched => exact .commit (.updateVariable hfound hpatched)

theorem settles_removeVariable (id : String) :
    st.Settles s (.removeVariable id) (st.removeVariable s id).effect := by
  unfold removeVariable
  split
  · exact .idle
  · next found hfound => exact .commit (.removeVariable hfound)

theorem settles_unbindProp (id prop : String) :
    st.Settles s (.unbindProp id prop) (st.unbindProp s id prop).effect := by
  unfold unbindProp
  split
  · exact .idle
  · next hfree =>
    split
    · exact .idle
    · next layer hlayer =>
      split
      · exact .idle
      · next variableId hbound =>
        exact settles_updateLayer st s (.unbindProp (by simpa using hfree) hlayer hbound)

theorem settles_bindChildren (id variableId : String) :
    st.Settles s (.bindChildren id variableId) (st.bindChildren s id variableId).effect := by
  unfold bindChildren
  split
  · exact .idle
  · next layer hlayer =>
    split
    · next htext => exact settles_updateLayer st s (.bindChildren hlayer htext)
    · exact .idle

theorem settles_unbindChildren (id : String) :
    st.Settles s (.unbindChildren id) (st.unbindChildren s id).effect := by
  unfold unbindChildren
  split
  · exact .idle
  · next hfree =>
    split
    · exact .idle
    · next layer hlayer =>
      split
      · exact .idle
      · next variableId hbound =>
        exact settles_updateLayer st s (.unbindChildren (by simpa using hfree) hlayer hbound)

/-- Every operation comes to one of the commits listed or to nothing. -/
theorem settles_effect (op : Operation) : st.Settles s op (op.effect st s) := by
  cases op with
  | addLayer type parent position => exact st.settles_addLayer s type parent position
  | addPage name => exact .commit .addPage
  | duplicateLayer id => exact st.settles_duplicateLayer s id
  | removeLayer id => exact st.settles_removeLayer s id
  | updateLayer id props patch => exact st.settles_updateLayer s .updateLayer
  | moveLayer id parent position => exact st.settles_moveLayer s id parent position
  | selectLayer id => exact st.settles_selectLayer s id
  | selectPage id => exact st.settles_selectPage s id
  | replaceDocument pages page layer vars =>
    exact st.settles_replaceDocument s pages page layer vars
  | addVariable name type default => exact st.settles_addVariable s name type default
  | updateVariable id patch => exact st.settles_updateVariable s id patch
  | removeVariable id => exact st.settles_removeVariable s id
  | bindProp id prop variableId => exact st.settles_updateLayer s .bindProp
  | unbindProp id prop => exact st.settles_unbindProp s id prop
  | bindChildren id variableId => exact st.settles_bindChildren s id variableId
  | unbindChildren id => exact st.settles_unbindChildren s id
  | undo | redo | clearHistory | closeHistory | subscribe _ | unsubscribe _ => exact .idle

variable {st s}

theorem commits_of_effect {op : Operation} {d : Document} {t : Supply}
    (h : op.effect st s = (some d, t)) : st.Commits s op d t := by
  have hsettles := st.settles_effect s op
  rw [h] at hsettles
  cases hsettles with
  | commit hcommit => exact hcommit

/-! ## The supply after a commit -/

/-- The ids of a new layer and of all below it are those that were given out for them. -/
theorem gives_ofType {type : String} {entry : Option RegistryEntry} {layer : Layer}
    {warnings : List Warning} {t : Supply} (h : Layer.ofType type entry s = (layer, warnings, t)) :
    s.Gives layer.ids t := by
  cases entry with
  | none =>
    cases h
    exact .one s
  | some entry =>
    have hslot : s.Gives (Forest.ids (entry.initialSlot s).1.items) (entry.initialSlot s).2 := by
      unfold RegistryEntry.initialSlot
      split
      · exact .nil_of_onward (.refl s)
      · exact .nil_of_onward (.refl s)
      · next items _ =>
        obtain ⟨hids, hsupply⟩ := Forest.ids_copyItems items s
        exact ⟨_, hsupply, hids ▸ List.Subperm.refl _⟩
      · exact .nil_of_onward (.refl s)
    cases h
    rw [Layer.ids_eq]
    refine Supply.Gives.cons ?_
    cases entry.childrenBinding? with
    | none => exact hslot
    | some variableId => exact .nil_of_onward hslot.onward

theorem Updated.onward {id : String} {props patch : Entries Value} {d : Document} {t : Supply}
    (h : st.Updated s id props patch d t) : s.Onward t := by
  obtain ⟨-, -, hupdated, -⟩ := h
  exact Layer.onward_patched hupdated

theorem Commits.onward {op : Operation} {d : Document} {t : Supply} (h : st.Commits s op d t) :
    s.Onward t := by
  cases h with
  | addLayer _ _ _ hlayer => exact (gives_ofType hlayer).onward
  | addPage => exact s.onward_skip 1
  | duplicatePage _ hcopy => exact (Layer.gives_copyNamed hcopy).onward
  | duplicateLayer _ _ _ _ hcopy => exact (Layer.gives_copyNamed hcopy).onward
  | replaceDocument hpages hvars =>
    exact (Pages.onward_read? hpages).trans (Variable.onward_readAll hvars)
  | addVariable => exact s.onward_skip 1
  | patch _ h => exact h.onward
  | removePage => exact .refl s
  | removeLayer => exact .refl s
  | moveLayer => exact .refl s
  | selectLayer => exact .refl s
  | selectPage => exact .refl s
  | updateVariable => exact .refl s
  | removeVariable => exact .refl s

/-- Operations move the supply onward. -/
theorem onward_effect (st : Store) (s : Supply) (op : Operation) :
    s.Onward (op.effect st s).2 := by
  have hsettles := st.settles_effect s op
  rcases he : op.effect st s with ⟨committed, t⟩
  rw [he] at hsettles
  cases hsettles with
  | nothing h => exact h
  | commit h => exact h.onward

end Store

end LayerDoc
