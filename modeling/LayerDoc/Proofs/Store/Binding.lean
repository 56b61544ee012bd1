import LayerDoc.Proofs.Store.Answers
import LayerDoc.Proofs.Store.Copying
import LayerDoc.Proofs.Store.Updating

/-!
# Bindings in the store

A slot of a layer that was tied to a variable and is untied again holds its default, and all around
it is as before (`Store.unties_to_default`): the other props and their order, if it was a prop
(`Layer.PropWritten`), and the props, if it was the children (`Layer.Refilled`). The slot stays tied
if an immutable binding ties it to the variable. As in every update, a marker object among the props
becomes the reference that it stands for (`Store.untying_coerces_marker`).
-/

namespace LayerDoc

theorem Props.mapValues_normalized_eq_self {props : Props}
    (h : ∀ p ∈ props, ∀ v, p.2 = .plain v → v.reference? = none) :
    Entries.mapValues PropValue.normalized props = props := by
  have hnormalized : props.Normalized := fun p hp => PropValue.normalized_eq_self (h p hp)
  exact hnormalized.mapValues_eq_self

/-! ## Layers with one slot written -/

namespace Layer

variable {l : Layer} {s t : Supply}

/-- The layer with a value for one of its props, checked again as a whole. -/
def withProp (l : Layer) (prop : String) (value : PropValue) : Layer :=
  .node
    { l.head with
      props := Entries.put (Entries.mapValues PropValue.normalized l.props) prop value }
    l.slot

/-- The layer with something else in place of its children, checked again as a whole. -/
def refilled (l : Layer) (slot : Slot Layer) : Layer :=
  .node { l.head with props := Entries.mapValues PropValue.normalized l.props } slot

@[simp] theorem props_withProp (l : Layer) (prop : String) (value : PropValue) :
    (l.withProp prop value).props =
      Entries.put (Entries.mapValues PropValue.normalized l.props) prop value := rfl

@[simp] theorem props_refilled (l : Layer) (slot : Slot Layer) :
    (l.refilled slot).props = Entries.mapValues PropValue.normalized l.props := rfl

theorem patched_prop (hfit : l.head.role = .component ∨ l.holdsLayers = true) (prop : String)
    (v : Value) (s : Supply) :
    l.patched [(prop, v)] [] s = some (l.withProp prop (.ofValue v), s) :=
  (patched_eq_some_iff rfl).mpr ⟨rfl, hfit, rfl, rfl, rfl, rfl⟩

theorem patched_children {v : Value} {slot : Slot Layer}
    (h : readSlot l.head.role v s = some (slot, t)) :
    l.patched [] [("children", v)] s = some (l.refilled slot, t) := by
  have hpatch : Entries.get? [("children", v)] "children" = some v := rfl
  have hnames : hasNames [("children", v)] = true := by
    have hname : Text.Surrogate.occursIn "children" = false := occursIn_of_known (by decide)
    simp [hasNames, hname]
  have hunknown : unknownEntries [("children", v)] = [] := by simp [unknownEntries, knownFields]
  simp only [patched, hpatch, h, hnames, hunknown]
  rfl

theorem ids_withProp (l : Layer) (prop : String) (value : PropValue) :
    (l.withProp prop value).ids = l.ids := ids_eq_of_slot_eq rfl rfl

theorem ids_refilled_sublist {slot : Slot Layer} (hslot : slot.isList = false) (l : Layer) :
    (l.refilled slot).ids.Sublist l.ids := by
  rw [refilled, ids_leaf _ hslot]
  exact List.singleton_sublist.mpr l.id_mem_ids

/-- Nothing is below a layer with something else than a list in place of its children. -/
theorem not_mem_children_refilled {slot : Slot Layer} (hslot : slot.isList = false) (l : Layer)
    {id : String} : id ∉ Forest.ids (l.refilled slot).children := by
  cases slot with
  | layers items => cases hslot
  | text content | bound variableId => exact List.not_mem_nil

/-- Of two values that are written for a prop the later one counts. -/
theorem withProp_withProp (l : Layer) (prop : String) (v w : PropValue) :
    (l.withProp prop v).withProp prop w = l.withProp prop w := by
  have hagain := (Props.Normalized.mapValues_normalized l.props).mapValues_eq_self
  have hprops :
      Entries.put (Entries.mapValues PropValue.normalized (l.withProp prop v).props) prop w =
        Entries.put (Entries.mapValues PropValue.normalized l.props) prop w := by
    rw [props_withProp, Entries.mapValues_put, hagain, Entries.put_put]
  rw [withProp, hprops]
  rfl

theorem refilled_refilled (l : Layer) (slot slot' : Slot Layer) :
    (l.refilled slot).refilled slot' = l.refilled slot' := by
  have hagain := (Props.Normalized.mapValues_normalized l.props).mapValues_eq_self
  have hprops : Entries.mapValues PropValue.normalized (l.refilled slot).props =
      Entries.mapValues PropValue.normalized l.props := hagain
  rw [refilled, hprops]
  rfl

/-- A layer before and after a value was written for one of its props. A marker object among the
other props has become the reference that it stands for. -/
structure PropWritten (before after : Layer) (prop : String) (value : PropValue) : Prop where
  sameHead : after.head = { before.head with props := after.props }
  sameSlot : after.slot = before.slot
  written : Entries.get? after.props prop = some value
  keys : Entries.keys after.props =
    if prop ∈ Entries.keys before.props then Entries.keys before.props
    else Entries.keys before.props ++ [prop]
  others : after.props.filter (·.1 ≠ prop) =
    Entries.mapValues PropValue.normalized (before.props.filter (·.1 ≠ prop))
  sameOthers : (∀ p ∈ before.props, p.1 ≠ prop → ∀ v, p.2 = .plain v → v.reference? = none) →
    after.props.filter (·.1 ≠ prop) = before.props.filter (·.1 ≠ prop)

/-- A layer before and after something else was written in place of its children. A marker object
among its props has become the reference that it stands for. -/
structure Refilled (before after : Layer) (slot : Slot Layer) : Prop where
  sameHead : after.head = { before.head with props := after.props }
  slot : after.slot = slot
  props : after.props = Entries.mapValues PropValue.normalized before.props
  sameProps : (∀ p ∈ before.props, ∀ v, p.2 = .plain v → v.reference? = none) →
    after.props = before.props

theorem propWritten_withProp (l : Layer) (prop : String) (value : PropValue) :
    l.PropWritten (l.withProp prop value) prop value := by
  have hothers : (l.withProp prop value).props.filter (·.1 ≠ prop) =
      Entries.mapValues PropValue.normalized (l.props.filter (·.1 ≠ prop)) := by
    have hfilter := Entries.filter_put (fun key => decide (key ≠ prop))
      (Entries.mapValues PropValue.normalized l.props) prop value
    rw [if_neg (by simp)] at hfilter
    rw [props_withProp, hfilter, Entries.mapValues, Entries.mapValues, List.filter_map]
    rfl
  refine ⟨rfl, rfl, Entries.get?_put_self _ prop value, ?_, hothers, fun hplain => ?_⟩
  · rw [props_withProp, Entries.keys_put, Entries.keys_mapValues]
  · rw [hothers]
    refine Props.mapValues_normalized_eq_self fun p hp => ?_
    obtain ⟨hmem, hne⟩ := List.mem_filter.mp hp
    exact hplain p hmem (by simpa using hne)

theorem isRefilled_refilled (l : Layer) (slot : Slot Layer) : l.Refilled (l.refilled slot) slot :=
  ⟨rfl, rfl, rfl, fun hplain => Props.mapValues_normalized_eq_self hplain⟩

end Layer

namespace Document

variable {d : Document} {page layer updated : Layer}

/-- What is found is what a search of the selected page finds, unless the id is empty. -/
theorem layer?_eq_find? (hpage : d.currentPage? = some page) {id : String} (hid : id ≠ "") :
    d.layer? id = Forest.find? [page] id := by
  have hselected : page.id = d.selectedPage := (page?_eq_some hpage).2
  have hempty : id.isEmpty = false := by simpa using hid
  have hlayers : d.layersOfPage d.selectedPage = page.children := by
    rw [layersOfPage, show d.page? d.selectedPage = some page from hpage]
  have hsearch : Forest.find? [page] id =
      if page.id = id then some page else Forest.find? page.children id := by
    rw [Forest.find?, Forest.preorder_cons, Forest.preorder_nil, List.append_nil, Layer.preorder_eq]
    by_cases h : page.id = id
    · rw [if_pos h, List.find?_cons_of_pos (by simpa using h)]
    · rw [if_neg h, List.find?_cons_of_neg (by simpa using h), Forest.find?]
  simp only [layer?, hempty, Bool.false_eq_true, if_false, hpage, hlayers, hsearch, hselected,
    eq_comm (a := id)]

theorem ne_empty_of_layer? {id : String} (h : d.layer? id = some layer) : id ≠ "" := by
  rintro rfl
  cases h

/-- In a document of distinct ids the selected page and every layer below it are found, unless their
id is empty. -/
theorem layer?_of_mem_preorder (hids : (Forest.ids d.pages).Nodup)
    (hpage : d.currentPage? = some page) (hlayer : layer ∈ page.preorder) (hid : layer.id ≠ "") :
    d.layer? layer.id = some layer := by
  have hone : (Forest.ids [page]).Nodup := by
    rw [Forest.ids_singleton]
    exact Forest.nodup_ids_of_mem hids (page?_eq_some hpage).1
  rw [layer?_eq_find? hpage hid]
  exact Forest.find?_of_mem hone (by simpa using hlayer)

/-- A document before and after a layer of it was written anew. The selections and the variables are
as they were, and all that was not below the layer. -/
structure RewrittenAt (before after : Document) (layer updated : Layer) : Prop where
  sameRest : after = { before with pages := after.pages }
  pages : Forest.RewrittenAt before.pages after.pages layer updated

/-- The document with a layer written anew. -/
def rewritten (d : Document) (updated : Layer) : Document :=
  { d with pages := Forest.replace updated.id updated d.pages }

theorem mem_preorder_replaceIn (hlayer : layer ∈ page.preorder) (hid : updated.id = layer.id) :
    updated ∈ (Forest.replaceIn updated.id updated page).preorder := by
  have hone : layer ∈ Forest.preorder [page] := by simpa using hlayer
  have hput : updated ∈ Forest.preorder (Forest.replace updated.id updated [page]) :=
    Forest.mem_preorder_replace_self hone hid.symm
  rwa [Forest.replace_cons, Forest.replace_nil, Forest.preorder_cons, Forest.preorder_nil,
    List.append_nil] at hput

variable (hids : (Forest.ids d.pages).Nodup) (hpage : d.currentPage? = some page)
  (hlayer : layer ∈ page.preorder) (hid : updated.id = layer.id)
  (hsub : updated.ids.Sublist layer.ids)

include hpage hlayer in
theorem mem_preorder_of_currentPage? : layer ∈ Forest.preorder d.pages := by
  have hroot := Forest.mem_preorder_of_mem (page?_eq_some hpage).1
  exact (Forest.preorder_sublist_of_mem hroot).subset hlayer

include hids hpage hlayer hid hsub in
theorem rewrittenAt_rewritten : d.RewrittenAt (d.rewritten updated) layer updated := by
  have hmem := mem_preorder_of_currentPage? hpage hlayer
  refine ⟨rfl, ?_⟩
  rw [rewritten, hid]
  exact Forest.rewrittenAt_replace hids hmem hid hsub

include hpage in
theorem currentPage?_rewritten (updated : Layer) :
    (d.rewritten updated).currentPage? = some (Forest.replaceIn updated.id updated page) := by
  rw [currentPage?, rewritten, page?_replace rfl]
  rw [show d.page? d.selectedPage = some page from hpage]
  rfl

include hids hpage hlayer hid hsub in
/-- What was written anew is found in its place. -/
theorem layer?_rewritten (hne : layer.id ≠ "") :
    (d.rewritten updated).layer? updated.id = some updated := by
  have hmem := mem_preorder_of_currentPage? hpage hlayer
  have hnodup : (Forest.ids (d.rewritten updated).pages).Nodup := by
    rw [rewritten, hid]
    exact Forest.nodup_ids_replace hids hmem hsub
  exact layer?_of_mem_preorder hnodup (currentPage?_rewritten hpage updated)
    (mem_preorder_replaceIn hlayer hid) (hid ▸ hne)

theorem rewritten_rewritten {again : Layer} (hid : updated.id = again.id) :
    (d.rewritten updated).rewritten again = d.rewritten again := by
  rw [rewritten, rewritten, rewritten, hid, Forest.replace_replace hid]

end Document

namespace Store

variable {st : Store} {s : Supply} {layer : Layer}

/-- An update of a layer that is found and is not below itself after it. -/
theorem updateLayer_of_layer? {t : Supply} {props patch : Entries Value} {updated : Layer}
    (h : st.document.layer? layer.id = some layer) (hpatch : Entries.has patch "id" = false)
    (hpatched : layer.patched props patch s = some (updated, t))
    (hends : layer.id ∉ Forest.ids updated.children) :
    st.updateLayer s layer.id props patch =
      Edit.commit () (st.document.rewritten updated) t [] := by
  obtain ⟨page, hpage, hsearched⟩ := searched_of_layer? h
  have hpages : Forest.replace? layer.id updated st.document.pages =
      some (Forest.replace layer.id updated st.document.pages) :=
    Forest.replace?_eq_some_iff_not.mpr ⟨fun hboth => hends hboth.2, rfl⟩
  simp only [updateLayer, hpage, hsearched, hpatched, hpages, hpatch, Bool.false_eq_true, if_false,
    Document.rewritten, Layer.id_of_patched hpatched]

theorem isPinned_some (st : Store) (l : Layer) (slot variableId : String) :
    st.isPinned l slot (some variableId) =
      decide ((st.entryOf? l).bind (·.immutableBinding? slot) = some variableId) := by
  unfold isPinned
  cases st.entryOf? l with
  | none => simp
  | some entry => simp

/-! ## Ties and what they leave -/

section

variable (hfound : st.document.layer? layer.id = some layer)

include hfound

theorem bindProp_of_layer? (hbelow : layer.id ∉ Forest.ids layer.children)
    (hfit : layer.head.role = .component ∨ layer.holdsLayers = true) (s : Supply)
    (prop variableId : String) :
    st.bindProp s layer.id prop variableId =
      Edit.commit () (st.document.rewritten (layer.withProp prop (.bound variableId))) s [] := by
  have hvalue : PropValue.ofValue (Value.ofReference variableId) = .bound variableId := by
    simp [PropValue.ofValue]
  exact updateLayer_of_layer? hfound rfl (hvalue ▸ Layer.patched_prop hfit prop _ s) hbelow

theorem unbindProp_of_layer? (hbelow : layer.id ∉ Forest.ids layer.children)
    (hfit : layer.head.role = .component ∨ layer.holdsLayers = true)
    (s : Supply) {prop variableId : String} (hbound : propReference? layer prop = some variableId) :
    st.unbindProp s layer.id prop =
      if (st.entryOf? layer).bind (·.immutableBinding? prop) = some variableId then
        Edit.refuse () s (.propPinned prop layer.id)
      else
        Edit.commit ()
          (st.document.rewritten (layer.withProp prop
            (.ofValue ((Entries.get? (st.registry.defaultProps layer.type) prop).getD (.str "")))))
          s [] := by
  have hupdate := fun v =>
    updateLayer_of_layer? hfound rfl (Layer.patched_prop hfit prop v s) hbelow
  simp only [unbindProp, isPropPinned, hfound, hbound, isPinned_some, decide_eq_true_eq, hupdate]

theorem bindChildren_of_layer? (hrole : layer.head.role = .component)
    (htext : (st.entryOf? layer).map RegistryEntry.acceptsText = some true) (s : Supply)
    (variableId : String) :
    st.bindChildren s layer.id variableId =
      Edit.commit () (st.document.rewritten (layer.refilled (.bound variableId))) s [] := by
  have hread : Layer.readSlot layer.head.role (Value.ofReference variableId) s =
      some (.bound variableId, s) := by
    rw [hrole]
    rfl
  have hupdate := updateLayer_of_layer? hfound (by rfl) (Layer.patched_children hread)
    (Layer.not_mem_children_refilled rfl layer)
  simp only [bindChildren, hfound, htext, Option.getD_some, if_true, hupdate]

theorem unbindChildren_of_layer? (hrole : layer.head.role = .component) (s : Supply)
    {variableId : String} (hbound : layer.slot.reference? = some variableId) :
    st.unbindChildren s layer.id =
      if (st.entryOf? layer).bind (·.immutableBinding? childrenProp) = some variableId then
        Edit.refuse () s (.childrenPinned layer.id)
      else
        let text := st.registry.defaultText layer.type
        Edit.commit () (st.document.rewritten (layer.refilled (.text text))) s [] := by
  have hread : ∀ text, Layer.readSlot layer.head.role (.str text) s = some (.text text, s) := by
    intro text
    rw [hrole]
    rfl
  have hupdate := fun text =>
    updateLayer_of_layer? hfound (by rfl) (Layer.patched_children (hread text))
      (Layer.not_mem_children_refilled rfl layer)
  simp only [unbindChildren, isChildrenPinned, hfound, hbound, isPinned_some, decide_eq_true_eq,
    hupdate]

end

section

variable {page : Layer} (hids : (Forest.ids st.document.pages).Nodup)
  (hpage : st.document.currentPage? = some page) (hlayer : layer ∈ page.preorder)
  (hid : layer.id ≠ "")

include hids hpage hlayer

theorem rewrittenAt_withProp (prop : String) (value : PropValue) :
    st.document.RewrittenAt (st.document.rewritten (layer.withProp prop value)) layer
      (layer.withProp prop value) :=
  Document.rewrittenAt_rewritten hids hpage hlayer rfl
    (layer.ids_withProp prop value ▸ List.Sublist.refl _)

theorem rewrittenAt_refilled {slot : Slot Layer} (hslot : slot.isList = false) :
    st.document.RewrittenAt (st.document.rewritten (layer.refilled slot)) layer
      (layer.refilled slot) :=
  Document.rewrittenAt_rewritten hids hpage hlayer rfl (layer.ids_refilled_sublist hslot)

include hid

/-- What comes of a prop that was just tied, when it is untied. -/
theorem unbindProp_withProp (hfit : layer.head.role = .component ∨ layer.holdsLayers = true)
    (s : Supply) (prop variableId : String) :
    Store.unbindProp
        { st with document := st.document.rewritten (layer.withProp prop (.bound variableId)) }
        s layer.id prop =
      if (st.entryOf? layer).bind (·.immutableBinding? prop) = some variableId then
        Edit.refuse () s (.propPinned prop layer.id)
      else
        Edit.commit ()
          (st.document.rewritten (layer.withProp prop
            (.ofValue ((Entries.get? (st.registry.defaultProps layer.type) prop).getD (.str "")))))
          s [] := by
  have hsub : (layer.withProp prop (.bound variableId)).ids.Sublist layer.ids :=
    layer.ids_withProp prop _ ▸ List.Sublist.refl _
  have hsame : (layer.withProp prop (.bound variableId)).id = layer.id := rfl
  have hthere := Document.layer?_rewritten hids hpage hlayer hsame hsub hid
  have hbelow := Forest.not_mem_ids_children hids
    (Document.mem_preorder_of_currentPage? hpage hlayer)
  have hbound : propReference? (layer.withProp prop (.bound variableId)) prop =
      some variableId := by
    rw [propReference?, Layer.props_withProp, Entries.get?_put_self]
    rfl
  have huntie := @unbindProp_of_layer?
    { st with document := st.document.rewritten (layer.withProp prop (.bound variableId)) } _ hthere
    hbelow hfit s prop variableId hbound
  have hlater : ∀ value, (st.document.rewritten (layer.withProp prop (.bound variableId))).rewritten
      (layer.withProp prop value) = st.document.rewritten (layer.withProp prop value) :=
    fun value => Document.rewritten_rewritten rfl
  simp only [Layer.withProp_withProp, hlater] at huntie
  exact huntie

/-- What comes of children that were just tied, when they are untied. -/
theorem unbindChildren_refilled (hrole : layer.head.role = .component) (s : Supply)
    (variableId : String) :
    Store.unbindChildren
        { st with document := st.document.rewritten (layer.refilled (.bound variableId)) }
        s layer.id =
      if (st.entryOf? layer).bind (·.immutableBinding? childrenProp) = some variableId then
        Edit.refuse () s (.childrenPinned layer.id)
      else
        Edit.commit ()
          (st.document.rewritten (layer.refilled (.text (st.registry.defaultText layer.type))))
          s [] := by
  have hsub : (layer.refilled (.bound variableId)).ids.Sublist layer.ids :=
    layer.ids_refilled_sublist rfl
  have hsame : (layer.refilled (.bound variableId)).id = layer.id := rfl
  have hthere := Document.layer?_rewritten hids hpage hlayer hsame hsub hid
  have huntie := @unbindChildren_of_layer?
    { st with document := st.document.rewritten (layer.refilled (.bound variableId)) } _ hthere
    hrole s variableId rfl
  have hlater : ∀ slot, (st.document.rewritten (layer.refilled (.bound variableId))).rewritten
      (layer.refilled slot) = st.document.rewritten (layer.refilled slot) :=
    fun slot => Document.rewritten_rewritten rfl
  simp only [Layer.refilled_refilled, hlater] at huntie
  exact huntie

end

/-- In a document of distinct ids a prop of any layer of the selected page, or of the page, can be
tied to any variable, and then untied, but for an immutable binding that ties it to this variable:
then it stays tied. Untied it holds its default, or else the empty text. The same holds of the
children of a component whose type takes text: untied they are the default text, and what was below
the layer is gone. All else is as it was before the slot was tied; but a marker object among the
props of the layer becomes the reference that it stands for. -/
theorem unties_to_default {page : Layer} (hids : (Forest.ids st.document.pages).Nodup)
    (hpage : st.document.currentPage? = some page) (hlayer : layer ∈ page.preorder)
    (hid : layer.id ≠ "") (hfit : layer.head.role = .page → layer.holdsLayers = true) :
    (∀ s t prop variableId, ∃ bound updated,
      st.bindProp s layer.id prop variableId = Edit.commit () bound s [] ∧
      st.document.RewrittenAt bound layer updated ∧
      layer.PropWritten updated prop (.bound variableId) ∧
      if (st.entryOf? layer).bind (·.immutableBinding? prop) = some variableId then
        Store.unbindProp { st with document := bound } t layer.id prop =
          Edit.refuse () t (.propPinned prop layer.id)
      else
        ∃ untied updated,
          Store.unbindProp { st with document := bound } t layer.id prop =
            Edit.commit () untied t [] ∧
          st.document.RewrittenAt untied layer updated ∧
          layer.PropWritten updated prop
            (.ofValue ((Entries.get? (st.registry.defaultProps layer.type) prop).getD (.str "")))) ∧
    (layer.head.role = .component →
      (st.entryOf? layer).map RegistryEntry.acceptsText = some true →
      ∀ s t variableId, ∃ bound updated,
        st.bindChildren s layer.id variableId = Edit.commit () bound s [] ∧
        st.document.RewrittenAt bound layer updated ∧ layer.Refilled updated (.bound variableId) ∧
        if (st.entryOf? layer).bind (·.immutableBinding? childrenProp) = some variableId then
          Store.unbindChildren { st with document := bound } t layer.id =
            Edit.refuse () t (.childrenPinned layer.id)
        else
          ∃ untied updated,
            Store.unbindChildren { st with document := bound } t layer.id =
              Edit.commit () untied t [] ∧
            st.document.RewrittenAt untied layer updated ∧
            layer.Refilled updated (.text (st.registry.defaultText layer.type))) := by
  have hfound := Document.layer?_of_mem_preorder hids hpage hlayer hid
  refine ⟨fun s t prop variableId => ?_, fun hrole htext s t variableId => ?_⟩
  · have hfit' : layer.head.role = .component ∨ layer.holdsLayers = true := by
      cases hrole : layer.head.role with
      | page => exact Or.inr (hfit hrole)
      | component => exact Or.inl rfl
    have huntie := unbindProp_withProp hids hpage hlayer hid hfit' t prop variableId
    have hbelow := Forest.not_mem_ids_children hids
      (Document.mem_preorder_of_currentPage? hpage hlayer)
    refine ⟨_, _, bindProp_of_layer? hfound hbelow hfit' s prop variableId,
      rewrittenAt_withProp hids hpage hlayer prop _, layer.propWritten_withProp prop _, ?_⟩
    split
    · next hpinned => exact huntie.trans (if_pos hpinned)
    · next hfree =>
      exact ⟨_, _, huntie.trans (if_neg hfree), rewrittenAt_withProp hids hpage hlayer prop _,
        layer.propWritten_withProp prop _⟩
  · have huntie := unbindChildren_refilled hids hpage hlayer hid hrole t variableId
    refine ⟨_, _, bindChildren_of_layer? hfound hrole htext s variableId,
      rewrittenAt_refilled hids hpage hlayer rfl, layer.isRefilled_refilled _, ?_⟩
    split
    · next hpinned => exact huntie.trans (if_pos hpinned)
    · next hfree =>
      exact ⟨_, _, huntie.trans (if_neg hfree), rewrittenAt_refilled hids hpage hlayer rfl,
        layer.isRefilled_refilled _⟩

/-- A title is tied and falls back to its default, a label stays tied to the variable of an
immutable binding, and a text in the place of two children falls back to the default text. -/
theorem unties_title_and_text :
    let leaf (id : String) : Layer := .node ⟨.component, id, "Text", none, [], []⟩ (.layers [])
    let card : Layer := .node ⟨.component, "a", "Card", none,
      [("title", .plain (.str "News")), ("size", .plain (.int 2))], []⟩
        (.layers [leaf "x", leaf "y"])
    let page : Layer := .node ⟨.page, "p", "Page", none, [], []⟩ (.layers [leaf "b", card])
    let entry : RegistryEntry := ⟨[("title", ⟨"string", false, some (.str "Card"), none, none⟩),
      ("children", ⟨"string", false, none, none, none⟩)], none, false, some (.text "Empty"),
      [⟨"label", "v", true⟩], [], none⟩
    let st : Store := ⟨[("Card", entry)], [], .default, ⟨[page], "p", some "x", []⟩⟩
    (Forest.ids st.document.pages).Nodup ∧ st.document.currentPage? = some page ∧
      card ∈ page.preorder ∧ card.id ≠ "" ∧ (card.head.role = .page → card.holdsLayers = true) ∧
      (∃ bound untied updated, st.bindProp .start "a" "title" "v" = Edit.commit () bound .start [] ∧
        Store.unbindProp { st with document := bound } .start "a" "title" =
          Edit.commit () untied .start [] ∧
        st.document.RewrittenAt untied card updated ∧
        card.PropWritten updated "title" (.plain (.str "Card"))) ∧
      (∃ bound, st.bindProp .start "a" "label" "v" = Edit.commit () bound .start [] ∧
        Store.unbindProp { st with document := bound } .start "a" "label" =
          Edit.refuse () .start (.propPinned "label" "a")) ∧
      ∃ bound untied updated, st.bindChildren .start "a" "v" = Edit.commit () bound .start [] ∧
        Store.unbindChildren { st with document := bound } .start "a" =
          Edit.commit () untied .start [] ∧
        st.document.RewrittenAt untied card updated ∧ card.Refilled updated (.text "Empty") := by
  intro leaf card page entry st
  have hids : (Forest.ids st.document.pages).Nodup := by decide
  have hcard : card ∈ page.preorder := by simp [page, Layer.mem_preorder_self]
  have hpage : st.document.currentPage? = some page := rfl
  obtain ⟨hprops, hchildren⟩ := unties_to_default hids hpage hcard (by decide) (fun _ => rfl)
  obtain ⟨bound, -, hbind, -, -, huntie⟩ := hprops .start .start "title" "v"
  rw [if_neg (by decide)] at huntie
  obtain ⟨untied, updated, huntied, hrest, hwritten⟩ := huntie
  obtain ⟨bound', -, hbind', -, -, hpinned⟩ := hprops .start .start "label" "v"
  rw [if_pos (by decide)] at hpinned
  obtain ⟨bound'', -, hbind'', -, -, huntie'⟩ := hchildren rfl rfl .start .start "v"
  rw [if_neg (by decide)] at huntie'
  obtain ⟨untied'', updated'', hrest''⟩ := huntie'
  exact ⟨hids, hpage, hcard, by decide, fun _ => rfl,
    ⟨bound, untied, updated, hbind, huntied, hrest, hwritten⟩, ⟨bound', hbind', hpinned⟩,
    ⟨bound'', untied'', updated'', hbind'', hrest''⟩⟩

/-- A prop is released to a default that is a marker object with a further key. When another prop is
tied and untied, that key goes. -/
theorem untying_coerces_marker :
    let marker : Value := .object [(referenceKey, .str "w"), ("x", .int 1)]
    let box : Layer := .node ⟨.component, "a", "Box", none, [("link", .bound "v")], []⟩ (.layers [])
    let e := ((Editor.start
      [("Box",
        ⟨[("link", ⟨"object", false, some marker, none, none⟩)], none, false, none, [], [], none⟩)]
      [] .default (some ⟨[.node ⟨.page, "p", pageType, none, [], []⟩ (.layers [box])], "p", none,
        [⟨"v", "target", .string, .null⟩]⟩) .start).run (.removeVariable "v")).editor
    let tied := (e.run (.bindProp "a" "title" "w")).editor
    let untied := (tied.run (.unbindProp "a" "title")).editor
    let prop (e : Editor) (name : String) : Option Value :=
      ((Forest.find? e.document.pages "a").bind fun l => Entries.get? l.props name).map
        PropValue.toValue
    (Forest.ids e.document.pages).Nodup ∧ tied.store.isPropPinned "a" "title" = false ∧
    prop tied "title" = some (Value.ofReference "w") ∧ prop untied "title" = some (.str "") ∧
    prop e "link" = some marker ∧ prop untied "link" = some (Value.ofReference "w") ∧
    prop untied "link" ≠ prop e "link" := by
  intro marker box e tied untied prop
  let page (title : PropValue) : Layer := .node ⟨.page, "p", pageType, none, [], []⟩
    (.layers [.node ⟨.component, "a", "Box", none, [("link", .bound "w"), ("title", title)], []⟩
      (.layers [])])
  have hbefore : prop e "link" = some marker := rfl
  -- the marker is gone when the title is tied
  have htied : tied.store = { e.store with document := ⟨[page (.bound "w")], "p", none, []⟩ } := rfl
  have huntied : untied.document = ⟨[page (.plain (.str ""))], "p", none, []⟩ := by
    have hrun := @Editor.run_of_isEdit tied (.unbindProp "a" "title") rfl
    rw [Operation.effect, htied] at hrun
    exact congrArg Editor.document hrun
  have hafter : prop untied "link" = some (Value.ofReference "w") := by
    simp only [prop, huntied]
    rfl
  refine ⟨by decide, ?_, rfl, ?_, hbefore, hafter, fun h => ?_⟩
  · rw [htied]
    rfl
  · simp only [prop, huntied]
    rfl
  · rw [hbefore, hafter] at h
    simp [marker, Value.ofReference] at h

end Store

end LayerDoc
