import LayerDoc.Proofs.Editor.Run
import LayerDoc.Proofs.Store.Binding

/-!
# Slots that are tied when a layer is made

The bindings of an entry are written one after the other, so a slot of a new layer refers to the
variable that the last of its bindings names (`Layer.slotReference?_ofType`). If an immutable
binding ties the slot to the same variable, it is pinned, and stays tied whatever is untied in the
document (`Store.HoldsFast`, `Editor.pins_created_slot`). A later binding that is not immutable goes
before an immutable one (`Editor.later_binding_wins`).
-/

namespace LayerDoc

/-! ## What a slot refers to -/

/-- The variable that a slot of a layer refers to: a prop, or the children. -/
def Layer.slotReference? (l : Layer) (slot : String) : Option String :=
  if slot = childrenProp then l.slot.reference? else Store.propReference? l slot

/-- The last binding of a slot. -/
def RegistryEntry.lastBinding? (e : RegistryEntry) (slot : String) : Option Binding :=
  (e.bindings.filter (·.prop = slot)).getLast?

namespace Store

/-- The variable that a slot of a layer of the selected page refers to. -/
def slotReference? (st : Store) (id slot : String) : Option String :=
  (st.document.layer? id).bind (·.slotReference? slot)

theorem slotReference?_of_layer? {st : Store} {id : String} {l : Layer}
    (h : st.document.layer? id = some l) (slot : String) :
    st.slotReference? id slot = l.slotReference? slot := by
  rw [slotReference?, h]
  rfl

/-- Whether a slot of a layer of the selected page is tied for good. -/
def isSlotPinned (st : Store) (id slot : String) : Bool :=
  if slot = childrenProp then st.isChildrenPinned id else st.isPropPinned id slot

theorem isSlotPinned_of_layer? {st : Store} {id : String} {l : Layer}
    (h : st.document.layer? id = some l) (slot : String) :
    st.isSlotPinned id slot = st.isPinned l slot (l.slotReference? slot) := by
  unfold isSlotPinned Layer.slotReference?
  by_cases hslot : slot = childrenProp
  · simp only [hslot, if_true, isChildrenPinned, h]
  · simp only [hslot, if_false, isPropPinned, h]

end Store

/-! ## New layers -/

/-- After writes that may repeat keys, what is found is what was written last, or else what was
there before. -/
theorem Entries.get?_merge_eq_getLast? {α : Type} (es patch : Entries α) (key : String) :
    get? (merge es patch) key =
      ((patch.filter (·.1 = key)).getLast?.map Prod.snd).or (get? es key) := by
  induction patch generalizing es with
  | nil => rfl
  | cons p rest ih =>
    rw [merge_cons, ih]
    by_cases hkey : p.1 = key
    · rw [List.filter_cons_of_pos (by simpa using hkey), List.getLast?_cons, ← hkey, get?_put_self]
      cases (rest.filter (·.1 = p.1)).getLast? <;> rfl
    · rw [List.filter_cons_of_neg (by simpa using hkey), get?_put_of_ne es p.2 (Ne.symm hkey)]

namespace RegistryEntry

variable {entry : RegistryEntry}

/-- What a prop of a new layer holds: a reference to the variable that the last of its bindings
names, or else its default. -/
theorem get?_initialProps_of_ne {slot : String} (hslot : slot ≠ childrenProp) :
    Entries.get? entry.initialProps slot =
      ((entry.lastBinding? slot).map fun b => PropValue.bound b.variableId).or
        ((Entries.get? entry.defaultProps slot).map PropValue.ofValue) := by
  have hwritten : (((entry.bindings.filter (·.prop ≠ childrenProp)).map
      fun b => (b.prop, PropValue.bound b.variableId)).filter (·.1 = slot)) =
      (entry.bindings.filter (·.prop = slot)).map fun b =>
        (b.prop, PropValue.bound b.variableId) := by
    rw [List.filter_map, List.filter_filter]
    refine congrArg _ (List.filter_congr fun b _ => ?_)
    by_cases hb : b.prop = slot <;> simp [hb, hslot]
  rw [initialProps, Entries.get?_merge_eq_getLast?, hwritten, List.getLast?_map, Option.map_map,
    Entries.get?_mapValues]
  rfl

/-- What a prop of a new layer refers to. -/
theorem get?_initialProps {slot : String} {b : Binding} (hslot : slot ≠ childrenProp)
    (hlast : entry.lastBinding? slot = some b) :
    Entries.get? entry.initialProps slot = some (.bound b.variableId) := by
  rw [get?_initialProps_of_ne hslot, hlast]
  rfl

end RegistryEntry

/-- A slot of a new layer refers to the variable that the last of its bindings names. -/
theorem Layer.slotReference?_ofType {entry : RegistryEntry} {slot : String} {b : Binding}
    (hlast : entry.lastBinding? slot = some b) (type : String) (s : Supply) :
    (Layer.ofType type (some entry) s).1.slotReference? slot = some b.variableId := by
  by_cases hslot : slot = childrenProp
  · have hchildren : entry.childrenBinding? = some b.variableId := by
      rw [hslot, RegistryEntry.lastBinding?] at hlast
      rw [RegistryEntry.childrenBinding?, hlast]
      rfl
    rw [slotReference?, if_pos hslot, ofType]
    simp only [hchildren, slot_node]
    rfl
  · rw [slotReference?, if_neg hslot, Store.propReference?]
    have hprops : (Layer.ofType type (some entry) s).1.props = entry.initialProps := rfl
    rw [hprops, RegistryEntry.get?_initialProps hslot hlast]
    rfl

/-! ## Untying -/

theorem Layer.SameButChildren.slotReference?_eq {l m : Layer} (h : l.SameButChildren m)
    (slot : String) : m.slotReference? slot = l.slotReference? slot := by
  have hprops : m.props = l.props := congrArg Head.props h.head
  have hchildren : m.slot.reference? = l.slot.reference? := by
    cases hholds : l.holdsLayers with
    | true =>
      rw [Layer.reference?_of_holdsLayers hholds,
        Layer.reference?_of_holdsLayers (h.holdsLayers.trans hholds)]
    | false => rw [h.leaf hholds]
  rw [slotReference?, slotReference?, hchildren, Store.propReference?, Store.propReference?, hprops]

theorem PropValue.reference?_normalized (p : PropValue) :
    p.normalized.reference? = p.reference? := by
  cases p with
  | bound variableId => rw [normalized_bound]
  | plain v => exact reference?_ofValue v

namespace Layer

variable {l m : Layer} {s t : Supply} {v : Value}

theorem eq_withProp_of_patched {prop : String} (h : l.patched [(prop, v)] [] s = some (m, t)) :
    m = l.withProp prop (.ofValue v) := by
  obtain ⟨-, hfit, -⟩ := (patched_eq_some_iff rfl).mp h
  rw [patched_prop hfit] at h
  exact (congrArg Prod.fst (Option.some.inj h)).symm

theorem eq_refilled_of_patched {content : String}
    (h : l.patched [] [("children", .str content)] s = some (m, t)) :
    m = l.refilled (.text content) := by
  obtain ⟨_, _, -, hslot⟩ := patched_eq_some h
  have hrole : l.head.role = .component := (readSlot_of_no_items rfl hslot).1
  have hread : readSlot l.head.role (.str content) s = some (.text content, s) := by
    rw [hrole]
    rfl
  rw [patched_children hread] at h
  exact (congrArg Prod.fst (Option.some.inj h)).symm

end Layer

namespace Store

theorem propReference?_normalized (l : Layer) (prop : String) :
    (Entries.get? (Entries.mapValues PropValue.normalized l.props) prop).bind PropValue.reference? =
      propReference? l prop := by
  rw [Entries.get?_mapValues, propReference?]
  cases Entries.get? l.props prop with
  | none => rfl
  | some p => exact p.reference?_normalized

/-- What an update comes to when its layer is found. -/
theorem Updated.of_layer? {st : Store} {s t : Supply} {id : String} {props patch : Entries Value}
    {d : Document} {layer : Layer} (h : st.Updated s id props patch d t)
    (hlayer : st.document.layer? id = some layer) :
    ∃ updated, layer.patched props patch s = some (updated, t) ∧
      d = st.document.rewritten updated := by
  obtain @⟨page, target, updated, t, hpage, htarget, hupdated, -⟩ := h
  obtain ⟨page', hpage', hsearched⟩ := searched_of_layer? hlayer
  obtain rfl := Option.some.inj (hpage.symm.trans hpage')
  obtain rfl := Option.some.inj (Except.ok.inj (htarget.symm.trans hsearched))
  have hid := (Layer.id_of_patched hupdated).trans (searched_eq_ok htarget).2
  exact ⟨updated, hupdated, by rw [Document.rewritten, hid]⟩

/-- A slot of a layer refers to the variable to which an immutable binding ties it. -/
structure HoldsFast (st : Store) (id slot variableId : String) : Prop where
  nodup : (Forest.ids st.document.pages).Nodup
  held : ∃ l, st.document.layer? id = some l ∧ l.slotReference? slot = some variableId ∧
    (st.entryOf? l).bind (·.immutableBinding? slot) = some variableId

namespace HoldsFast

variable {st : Store} {s : Supply} {id slot variableId : String}

theorem pinned (h : st.HoldsFast id slot variableId) : st.isSlotPinned id slot = true := by
  obtain ⟨l, hfound, hreference, hbinding⟩ := h.held
  rw [isSlotPinned_of_layer? hfound, hreference, isPinned_some, hbinding]
  simp

theorem reference (h : st.HoldsFast id slot variableId) :
    st.slotReference? id slot = some variableId := by
  obtain ⟨l, hfound, hreference, -⟩ := h.held
  exact (slotReference?_of_layer? hfound slot).trans hreference

/-- A layer written anew, with what is below it, lets go of a slot only if it is the slot's layer
and lets go of it itself. -/
theorem rewritten (h : st.HoldsFast id slot variableId) {layer updated : Layer}
    (hlayer : st.document.layer? layer.id = some layer) (hid : updated.id = layer.id)
    (htype : updated.type = layer.type) (hids : updated.ids = layer.ids)
    (hbelow : Forest.preorder layer.children ⊆ Forest.preorder updated.children)
    (hkeeps : layer.id = id → layer.slotReference? slot = some variableId →
      updated.slotReference? slot = some variableId) :
    HoldsFast { st with document := st.document.rewritten updated } id slot variableId := by
  obtain ⟨l, hfound, hreference, hbinding⟩ := h.held
  obtain ⟨page, hpage, -⟩ := searched_of_layer? hlayer
  have hid' : id ≠ "" := Document.ne_empty_of_layer? hfound
  have hlayer' := hlayer
  rw [Document.layer?_eq_find? hpage (Document.ne_empty_of_layer? hlayer)] at hlayer'
  rw [Document.layer?_eq_find? hpage hid'] at hfound
  have hmem : layer ∈ Forest.preorder [page] := (Forest.find?_eq_some hlayer').1
  obtain ⟨hl, hlid⟩ := Forest.find?_eq_some hfound
  -- what is found in the page after the change
  have hone : (Forest.ids [page]).Nodup := by
    rw [Forest.ids_singleton]
    exact Forest.nodup_ids_of_mem h.nodup (Document.page?_eq_some hpage).1
  have hafter : Forest.replace layer.id updated [page] =
      [Forest.replaceIn updated.id updated page] := by
    rw [Forest.replace_cons, Forest.replace_nil, hid]
  obtain ⟨hself, hothers⟩ := Forest.sameOutside_replace hone hmem hid hbelow
    (Forest.ids_replace_of_mem hone hmem hids ▸ hone)
  rw [hafter] at hself hothers
  have hsearch := Document.layer?_eq_find? (Document.currentPage?_rewritten hpage updated) hid'
  refine ⟨?_, ?_⟩
  · rw [Document.rewritten, hid,
      Forest.ids_replace_of_mem h.nodup (Document.layer?_eq_some hlayer).1
      hids]
    exact h.nodup
  · by_cases hsame : layer.id = id
    · have heq : l = layer := Forest.eq_of_mem_preorder hone hl hmem (hlid.trans hsame.symm)
      subst heq
      refine ⟨updated, hsearch.trans (hsame ▸ hself), hkeeps hsame hreference, ?_⟩
      rw [entryOf?, htype]
      exact hbinding
    · obtain ⟨m, hm, hkept, -, -⟩ := hothers.others l hl fun he => hsame (he.symm.trans hlid)
      have htype' : m.type = l.type := congrArg Head.type hkept.head
      refine ⟨m, hsearch.trans (hlid ▸ hm), (hkept.slotReference?_eq slot).trans hreference, ?_⟩
      rw [entryOf?, htype']
      exact hbinding

/-- A prop is untied of any layer, if it is not tied for good. -/
theorem unbindProp (h : st.HoldsFast id slot variableId) {layer : Layer} {prop : String} {v : Value}
    {d : Document} {t : Supply} (hfree : st.isPropPinned layer.id prop = false)
    (hlayer : st.document.layer? layer.id = some layer)
    (hupdated : st.Updated s layer.id [(prop, v)] [] d t) :
    HoldsFast { st with document := d } id slot variableId := by
  obtain ⟨updated, hpatched, rfl⟩ := hupdated.of_layer? hlayer
  obtain rfl := Layer.eq_withProp_of_patched hpatched
  refine h.rewritten hlayer rfl rfl (layer.ids_withProp prop _) (List.Subset.refl _) ?_
  rintro rfl hreference
  rw [← hreference]
  by_cases hslot : slot = childrenProp
  · rw [Layer.slotReference?, Layer.slotReference?, if_pos hslot, if_pos hslot]
    rfl
  · have hother : slot ≠ prop := by
      rintro rfl
      have hpinned := h.pinned
      rw [isSlotPinned, if_neg hslot, hfree] at hpinned
      cases hpinned
    rw [Layer.slotReference?, Layer.slotReference?, if_neg hslot, if_neg hslot, propReference?,
      Layer.props_withProp, Entries.get?_put_of_ne _ _ hother]
    exact propReference?_normalized layer slot

/-- The children are untied of any layer, if they are not tied for good. -/
theorem unbindChildren (h : st.HoldsFast id slot variableId) {layer : Layer}
    {other content : String} {d : Document} {t : Supply}
    (hfree : st.isChildrenPinned layer.id = false)
    (hlayer : st.document.layer? layer.id = some layer)
    (hbound : layer.slot.reference? = some other)
    (hupdated : st.Updated s layer.id [] [("children", .str content)] d t) :
    HoldsFast { st with document := d } id slot variableId := by
  obtain ⟨updated, hpatched, rfl⟩ := hupdated.of_layer? hlayer
  obtain rfl := Layer.eq_refilled_of_patched hpatched
  have hleaf := Layer.holdsLayers_of_reference? hbound
  have hbelow : Forest.preorder layer.children = [] := by
    rw [Layer.children_of_holdsLayers_eq_false hleaf, Forest.preorder_nil]
  refine h.rewritten hlayer rfl rfl ?_ (hbelow ▸ List.nil_subset _) ?_
  · rw [Layer.ids_of_holdsLayers_eq_false hleaf]
    exact Layer.ids_leaf _ rfl
  · rintro rfl hreference
    rw [← hreference]
    have hslot : slot ≠ childrenProp := by
      rintro rfl
      have hpinned := h.pinned
      rw [isSlotPinned, if_pos rfl, hfree] at hpinned
      cases hpinned
    rw [Layer.slotReference?, Layer.slotReference?, if_neg hslot, if_neg hslot, propReference?,
      Layer.props_refilled]
    exact propReference?_normalized layer slot

/-- To untie a slot, of any layer, leaves what is tied for good as it is. -/
theorem commits (h : st.HoldsFast id slot variableId) {op : Operation} (hop : op.unties = true)
    {d : Document} {t : Supply} (hcommit : st.Commits s op d t) :
    HoldsFast { st with document := d } id slot variableId := by
  cases hcommit with
  | patch hpatches hupdated =>
    cases hpatches with
    | unbindProp hfree hlayer _ =>
      obtain rfl := (Document.layer?_eq_some hlayer).2
      exact h.unbindProp hfree hlayer hupdated
    | unbindChildren hfree hlayer hbound =>
      obtain rfl := (Document.layer?_eq_some hlayer).2
      exact h.unbindChildren hfree hlayer hbound hupdated
    | _ => cases hop
  | _ => cases hop

end HoldsFast

end Store

/-! ## Making a layer -/

theorem Forest.insert_eq_map (parent : String) (layer : Layer) (position : Option Int)
    (f : Forest) :
    insert parent layer position f = f.map (insertIn parent layer position) := by
  induction f with
  | nil => rw [insert_nil, List.map_nil]
  | cons l rest ih => rw [insert_cons, ih, List.map_cons]

theorem Document.page?_insert (d : Document) (parent : String) (layer : Layer)
    (position : Option Int) (other : String) :
    Document.page?
        { d with
          pages := Forest.insert parent layer position d.pages
          selectedLayer := some layer.id } other =
      (d.page? other).map (Forest.insertIn parent layer position) := by
  have hsame : ((fun l : Layer => l.id == other) ∘ Forest.insertIn parent layer position) =
      fun l => l.id == other := by
    funext l
    rw [Function.comp_apply, (Forest.sameButChildren_insertIn parent layer position l).id_eq]
  rw [page?, page?, Forest.insert_eq_map, List.find?_map, hsame]

namespace Store

variable {st : Store} {s : Supply} {page parent layer : Layer} {position : Option Int}

/-- A new layer under a layer of the selected page is found in that page. -/
theorem layer?_insert (hids : (Forest.ids st.document.pages).Nodup)
    (hpage : st.document.currentPage? = some page) (hparent : parent ∈ page.preorder)
    (hholds : parent.holdsLayers = true) (hnew : layer.ids.Nodup)
    (hdisjoint : (Forest.ids st.document.pages).Disjoint layer.ids) (hid : layer.id ≠ "") :
    Document.layer? { st.document with
      pages := Forest.insert parent.id layer position st.document.pages
      selectedLayer := some layer.id } layer.id = some layer := by
  have hafter := Document.page?_insert st.document parent.id layer position st.document.selectedPage
  rw [show st.document.page? st.document.selectedPage = some page from hpage] at hafter
  have hone : parent ∈ Forest.preorder [page] := by simpa using hparent
  have hlisted : layer ∈ Forest.preorder (Forest.insert parent.id layer position [page]) :=
    Forest.mem_preorder_insert_self hone rfl hholds
  rw [Forest.insert_cons, Forest.insert_nil, Forest.preorder_cons, Forest.preorder_nil,
    List.append_nil] at hlisted
  exact Document.layer?_of_mem_preorder
    (Forest.nodup_ids_insert hids hnew hdisjoint parent.id position) hafter hlisted hid

theorem addLayer_of_entry (hids : (Forest.ids st.document.pages).Nodup)
    (hparent : parent ∈ Forest.preorder st.document.pages) (hholds : parent.holdsLayers = true)
    {type : String} {entry : RegistryEntry} (hentry : Entries.get? st.registry type = some entry)
    (hnest : st.nestingProblem? type parent = none) (position : Option Int)
    {warnings : List Warning} {t : Supply}
    (hmade : Layer.ofType type (some entry) s = (layer, warnings, t)) :
    st.addLayer s type parent.id position =
      Edit.commit (some layer.id)
        { st.document with
          pages := Forest.insert parent.id layer position st.document.pages
          selectedLayer := some layer.id }
        t warnings := by
  simp only [addLayer, Forest.find?_of_mem hids hparent, hholds, hentry, hnest, hmade]
  simp

end Store

namespace Editor

variable {e : Editor} {id slot variableId : String}

/-- A slot refers to a variable, and it is pinned and does so whatever is untied in the document. -/
def Pins (e : Editor) (id slot variableId : String) : Prop :=
  ∀ ops : List Operation, (∀ op ∈ ops, op.unties = true) →
    (e.runAll ops).store.isSlotPinned id slot = true ∧
      (e.runAll ops).store.slotReference? id slot = some variableId

theorem holdsFast_run (h : e.store.HoldsFast id slot variableId) {op : Operation}
    (hop : op.unties = true) : (e.run op).editor.store.HoldsFast id slot variableId := by
  have hedit : op.isEdit = true := by cases op <;> first | rfl | cases hop
  rw [run_of_isEdit e hedit]
  rcases heffect : op.effect e.store e.supply with ⟨committed, t⟩
  cases committed with
  | none => exact h
  | some d => exact h.commits hop (Store.commits_of_effect heffect)

theorem holdsFast_runAll (h : e.store.HoldsFast id slot variableId) {ops : List Operation}
    (hops : ∀ op ∈ ops, op.unties = true) :
    (e.runAll ops).store.HoldsFast id slot variableId := by
  induction ops generalizing e with
  | nil => exact h
  | cons op rest ih =>
    rw [List.forall_mem_cons] at hops
    exact ih (holdsFast_run h hops.1) hops.2

section

variable {page parent : Layer} {type : String} {entry : RegistryEntry}
  (hids : (Forest.ids e.document.pages).Nodup) (hinj : e.supply.Injective)
  (hfresh : e.supply.FreshFor ("" :: Forest.ids e.document.pages))
  (hpage : e.document.currentPage? = some page) (hparent : parent ∈ page.preorder)
  (hholds : parent.holdsLayers = true) (hentry : Entries.get? e.store.registry type = some entry)
  (hnest : e.store.nestingProblem? type parent = none) (position : Option Int)

include hids hinj hfresh hpage hparent hholds hentry hnest

/-- The layer that is made is found, and its slots refer to the variables that their last bindings
name. Its id is the reply, unless the document with the layer cannot be recorded. -/
theorem exists_of_run_addLayer :
    ∃ layer, (e.run (.addLayer type parent.id position)).reply =
        e.replyTo (e.run (.addLayer type parent.id position)).editor.document
          (.id (some layer.id)) ∧
      (Forest.ids (e.run (.addLayer type parent.id position)).editor.document.pages).Nodup ∧
      (e.run (.addLayer type parent.id position)).editor.document.layer? layer.id = some layer ∧
      (e.run (.addLayer type parent.id position)).editor.store.entryOf? layer = some entry ∧
      ∀ slot b, entry.lastBinding? slot = some b →
        layer.slotReference? slot = some b.variableId := by
  rcases hmade : Layer.ofType type (some entry) e.supply with ⟨layer, warnings, t⟩
  have hgives := Store.gives_ofType hmade
  have hnew : layer.ids.Nodup := hgives.nodup hinj
  have hdisjoint := hgives.disjoint hfresh
  rw [List.disjoint_cons_left] at hdisjoint
  have hid : layer.id ≠ "" := fun he => hdisjoint.1 (he ▸ layer.id_mem_ids)
  have hmem := Document.mem_preorder_of_currentPage? hpage hparent
  have hrun : e.run (.addLayer type parent.id position) =
      e.apply (e.store.addLayer e.supply type parent.id position) .id := rfl
  rw [Store.addLayer_of_entry hids hmem hholds hentry hnest position hmade] at hrun
  have hlayer : (Layer.ofType type (some entry) e.supply).1 = layer := congrArg Prod.fst hmade
  have htype : layer.type = type := hlayer ▸ rfl
  rw [hrun]
  refine ⟨layer, rfl, Forest.nodup_ids_insert hids hnew hdisjoint.2 parent.id position,
    Store.layer?_insert hids hpage hparent hholds hnew hdisjoint.2 hid, ?_, fun slot b hlast => ?_⟩
  · rw [Store.entryOf?, htype]
    exact hentry
  · rw [← hlayer]
    exact Layer.slotReference?_ofType hlast type e.supply

/-- When a layer is made, a slot is pinned to the variable that its last binding names, if its
immutable binding names the same: it refers to the variable, and goes on to do so whatever is
untied. If no immutable binding of the slot names the variable of the last binding, the slot refers
to that variable but is not pinned. The reply is the id of the layer, unless the document with the
layer cannot be recorded. -/
theorem pins_created_slot :
    ∃ id, (e.run (.addLayer type parent.id position)).reply =
        e.replyTo (e.run (.addLayer type parent.id position)).editor.document (.id (some id)) ∧
      ∀ slot b, entry.lastBinding? slot = some b →
        (entry.immutableBinding? slot = some b.variableId →
          (e.run (.addLayer type parent.id position)).editor.Pins id slot b.variableId) ∧
        ((∀ c ∈ entry.bindings, c.prop = slot → c.immutable = true → c.variableId ≠ b.variableId) →
          (e.run (.addLayer type parent.id position)).editor.store.slotReference? id slot =
            some b.variableId ∧
            (e.run (.addLayer type parent.id position)).editor.store.isSlotPinned id slot =
              false) := by
  obtain ⟨layer, hreply, hnodup, hfound, hentry', hreferences⟩ :=
    exists_of_run_addLayer hids hinj hfresh hpage hparent hholds hentry hnest position
  refine ⟨layer.id, hreply, fun slot b hlast => ?_⟩
  have hreference := hreferences slot b hlast
  refine ⟨fun himmutable ops hops => ?_, fun hother => ?_⟩
  · have hheld : (e.run (.addLayer type parent.id position)).editor.store.HoldsFast layer.id slot
        b.variableId := ⟨hnodup, layer, hfound, hreference, by rw [hentry']; exact himmutable⟩
    have hafter := holdsFast_runAll hheld hops
    exact ⟨hafter.pinned, hafter.reference⟩
  · have hfree : entry.immutableBinding? slot ≠ some b.variableId := by
      intro himmutable
      obtain ⟨c, hc, hid⟩ := Option.map_eq_some_iff.mp himmutable
      have hfits := List.find?_some hc
      rw [Bool.and_eq_true, decide_eq_true_eq] at hfits
      exact hother c (List.mem_of_find?_eq_some hc) hfits.1 hfits.2 hid
    refine ⟨(Store.slotReference?_of_layer? hfound slot).trans hreference, ?_⟩
    rw [Store.isSlotPinned_of_layer? hfound, hreference, Store.isPinned_some, hentry']
    exact decide_eq_false hfree

end

/-- A badge is made whose label and children are bound for good, the label by the last of two
bindings. Its title is bound for good first and then to another variable. -/
theorem pins_label_and_text :
    let badge : RegistryEntry := ⟨[], none, false, none,
      [⟨"label", "w", false⟩, ⟨"title", "v", true⟩, ⟨"children", "v", true⟩, ⟨"label", "v", true⟩,
        ⟨"title", "w", false⟩], [], none⟩
    let page : Layer := .node ⟨.page, "p", "Page", none, [], []⟩ (.layers [])
    let e := Editor.start [("Badge", badge)] [] .default (some ⟨[page], "p", none, []⟩) .start
    (Forest.ids e.document.pages).Nodup ∧ e.supply.Injective ∧
      e.supply.FreshFor ("" :: Forest.ids e.document.pages) ∧
      e.document.currentPage? = some page ∧ page ∈ page.preorder ∧ page.holdsLayers = true ∧
      Entries.get? e.store.registry "Badge" = some badge ∧
      e.store.nestingProblem? "Badge" page = none ∧
      ∃ id, (e.run (.addLayer "Badge" "p" none)).reply = .id (some id) ∧
        (e.run (.addLayer "Badge" "p" none)).editor.Pins id "label" "v" ∧
        (e.run (.addLayer "Badge" "p" none)).editor.Pins id "children" "v" ∧
        (e.run (.addLayer "Badge" "p" none)).editor.store.slotReference? id "title" = some "w" ∧
        (e.run (.addLayer "Badge" "p" none)).editor.store.isSlotPinned id "title" = false := by
  intro badge page e
  have hids : (Forest.ids e.document.pages).Nodup := by decide
  have hfresh : e.supply.FreshFor ("" :: Forest.ids e.document.pages) :=
    Supply.freshFor_of_label_eq rfl (by decide)
  have hpage : e.document.currentPage? = some page := rfl
  have hentry : Entries.get? e.store.registry "Badge" = some badge := rfl
  obtain ⟨id, hmade, hslots⟩ := pins_created_slot hids Supply.start_injective hfresh hpage
    page.mem_preorder_self rfl hentry rfl none
  have hreply : (e.run (.addLayer "Badge" "p" none)).reply = .id (some id) := by
    have hrecorded : (e.run (.addLayer "Badge" page.id none)).reply =
        .id (some (Supply.groupLabel 0)) := by decide +kernel
    rw [hrecorded, Editor.replyTo] at hmade
    split at hmade
    · exact hrecorded.trans hmade
    · cases hmade
  obtain ⟨hlabel, -⟩ := hslots "label" ⟨"label", "v", true⟩ (by decide)
  obtain ⟨hchildren, -⟩ := hslots "children" ⟨"children", "v", true⟩ (by decide)
  obtain ⟨-, htitle⟩ := hslots "title" ⟨"title", "w", false⟩ (by decide)
  exact ⟨hids, Supply.start_injective, hfresh, hpage, page.mem_preorder_self, rfl, hentry, rfl, id,
    hreply, hlabel (by decide), hchildren (by decide), htitle (by decide)⟩

/-- A label is bound for good, and a later binding that is not immutable binds it to another
variable. The label of a new badge refers to that variable, and it is untied. -/
theorem later_binding_wins :
    let badge : RegistryEntry := ⟨[], none, false, none,
      [⟨"label", "v", true⟩, ⟨"label", "w", false⟩], [], none⟩
    let page : Layer := .node ⟨.page, "p", "Page", none, [], []⟩ (.layers [])
    let e := Editor.start [("Badge", badge)] [] .default (some ⟨[page], "p", none, []⟩) .start
    let created := e.run (.addLayer "Badge" "p" none)
    let id := Supply.groupLabel 0
    let untied := (created.editor.run (.unbindProp id "label")).editor
    badge.immutableBinding? "label" = some "v" ∧ created.reply = .id (some id) ∧
      created.editor.store.isPropPinned id "label" = false ∧
      created.editor.store.slotReference? id "label" = some "w" ∧
      untied.store.slotReference? id "label" = none := by
  intro badge page e created id untied
  have hreply : created.reply = .id (some id) := by decide +kernel
  have hfree : created.editor.store.isPropPinned id "label" = false := by decide
  have htied : created.editor.store.slotReference? id "label" = some "w" := by decide
  have huntied : untied.store.slotReference? id "label" = none := by decide
  exact ⟨rfl, hreply, hfree, htied, huntied⟩

end Editor

end LayerDoc
