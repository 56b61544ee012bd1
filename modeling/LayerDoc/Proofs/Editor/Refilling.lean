import LayerDoc.Proofs.Editor.Selection
import LayerDoc.Proofs.Forest.Replacing

/-!
# The selected layer when children are replaced

A patch of the children of a layer, or a binding of them, replaces all that was below the layer
(`Operation.refills?`). A removal compares the selected layer with those that go; here the selection
stays as it is. So the selected layer is one of the document afterwards exactly if it was not below
the layer or has come back among the new children (`Store.ownsSelection_iff_of_refilled`). Else no
layer has the selected id any more (`Editor.selects_lost_child`).
-/

namespace LayerDoc

/-- The layer whose children an operation replaces as a whole, and what they are read from. -/
def Operation.refills? : Operation → Option (String × Value)
  | .updateLayer id _ patch => (Entries.get? patch "children").map (id, ·)
  | .bindChildren id variableId => some (id, Value.ofReference variableId)
  | _ => none

namespace Store

variable {st : Store} {s t : Supply} {op : Operation} {d : Document}

/-- Whatever replaces the children of a layer is an update of it. -/
theorem Commits.updated_of_refills {id : String} {v : Value} (h : st.Commits s op d t)
    (hop : op.refills? = some (id, v)) :
    ∃ props patch, Entries.get? patch "children" = some v ∧ st.Updated s id props patch d t := by
  cases h with
  | patch hpatches h =>
    cases hpatches with
    | updateLayer =>
      obtain ⟨w, hpatch, hpair⟩ := Option.map_eq_some_iff.mp hop
      cases hpair
      exact ⟨_, _, hpatch, h⟩
    | bindChildren =>
      cases hop
      exact ⟨_, _, rfl, h⟩
    | bindProp | unbindProp | unbindChildren => cases hop
  | _ => cases hop

/-- When the children of a layer are replaced in a document of distinct ids, the selection stays
what it was. The layer is found again with what was read in its slot; and if the selected layer was
one of the document before, it is one afterwards exactly if it was not below the layer or is below
it again. -/
theorem ownsSelection_iff_of_refilled {layer : Layer} {v : Value}
    (hids : (Forest.ids st.document.pages).Nodup) (howns : st.document.OwnsSelection)
    (hlayer : layer ∈ Forest.preorder st.document.pages)
    (hop : op.refills? = some (layer.id, v)) (h : op.effect st s = (some d, t)) :
    d.selectedLayer = st.document.selectedLayer ∧
      ∃ updated, Forest.find? d.pages layer.id = some updated ∧
        Layer.readSlot layer.head.role v s = some (updated.slot, t) ∧
        (d.OwnsSelection ↔ ∀ id, st.document.selectedLayer = some id →
          id ∈ Forest.ids layer.children → id ∈ Forest.ids updated.children) := by
  obtain ⟨props, patch, hpatch, hupdate⟩ := (commits_of_effect h).updated_of_refills hop
  obtain ⟨target, updated, htarget, hid, hpatched, -, rfl⟩ := hupdate.exists_target
  obtain rfl := Forest.eq_of_mem_preorder hids htarget hlayer hid
  have hsame : updated.id = target.id := Layer.id_of_patched hpatched
  obtain ⟨_, _, -, hslot⟩ := Layer.patched_eq_some hpatched
  rw [hpatch] at hslot
  refine ⟨rfl, updated, ?_, hslot, ?_⟩
  · rw [Forest.find?_replace_self hsame, Forest.find?_of_mem hids hlayer]
    rfl
  · refine forall_congr' fun id => forall_congr' fun hselected => ?_
    exact Forest.mem_ids_replace_iff hids hlayer hsame (howns id hselected)

/-- A text is selected in a box. The box is given the text again with another one, and the text is
still selected; it is tied to a variable, and no layer has the selected id. -/
theorem ownsSelection_of_refilled_box :
    let text (id : String) : Layer := .node ⟨.component, id, "Text", none, [], []⟩ (.text "Hello")
    let box : Layer := .node ⟨.component, "a", "Box", none, [], []⟩ (.layers [text "b", text "c"])
    let page : Layer := .node ⟨.page, "p", pageType, none, [], []⟩ (.layers [box])
    let entry : RegistryEntry :=
      ⟨[("children", ⟨"string", false, none, none, none⟩)], none, false, none, [], [], none⟩
    let st : Store := ⟨[("Box", entry)], [], .default, ⟨[page], "p", some "b", []⟩⟩
    let data (id : String) : Value := .object [("id", .str id), ("type", .str "Text")]
    let refill : Operation := .updateLayer "a" [] [("children", .list [data "x", data "b"])]
    let bind : Operation := .bindChildren "a" "v"
    ((Forest.ids st.document.pages).Nodup ∧ st.document.OwnsSelection ∧
      box ∈ Forest.preorder st.document.pages) ∧
    (∃ d t, refill.effect st .start = (some d, t) ∧ d.selectedLayer = some "b" ∧
      d.OwnsSelection) ∧
    ∃ d t, bind.effect st .start = (some d, t) ∧ d.selectedLayer = some "b" ∧
      ¬ d.OwnsSelection := by
  intro text box page entry st data refill bind
  have hids : (Forest.ids st.document.pages).Nodup := by decide
  have howns : st.document.OwnsSelection := by
    intro id hid
    cases hid
    decide
  have hbox : box ∈ Forest.preorder st.document.pages := by
    have hpage : page ∈ Forest.preorder st.document.pages :=
      Forest.mem_preorder_of_mem List.mem_cons_self
    exact Forest.mem_preorder_of_mem_children hpage List.mem_cons_self
  obtain ⟨d, hd⟩ : ∃ d, (refill.effect st .start).1 = some d :=
    Option.isSome_iff_exists.mp (by decide)
  have hrefill : refill.effect st .start = (some d, (refill.effect st .start).2) := Prod.ext hd rfl
  obtain ⟨d', t', hbind⟩ : ∃ d t, bind.effect st .start = (some d, t) := ⟨_, _, rfl⟩
  obtain ⟨hselected, m, -, hslot, hiff⟩ := ownsSelection_iff_of_refilled hids howns hbox rfl hrefill
  obtain ⟨hselected', m', -, hslot', hiff'⟩ :=
    ownsSelection_iff_of_refilled hids howns hbox rfl hbind
  have hback : m.children.map Layer.id = ["x", "b"] := by
    have hread : (Layer.readSlot .component (.list [data "x", data "b"]) .start).map
        (·.1.items.map Layer.id) = some ["x", "b"] := by decide
    rw [show Layer.readSlot .component (.list [data "x", data "b"]) .start = _ from hslot] at hread
    exact Option.some.inj hread
  have hgone : m'.children = [] := by
    have hread : (Layer.readSlot .component (Value.ofReference "v") .start).map (·.1.items) =
        some [] := rfl
    rw [show Layer.readSlot .component (Value.ofReference "v") .start = _ from hslot'] at hread
    exact Option.some.inj hread
  refine ⟨⟨hids, howns, hbox⟩, ⟨d, _, hrefill, hselected, hiff.mpr fun id hid _ => ?_⟩,
    d', t', hbind, hselected', fun hstill => ?_⟩
  · cases hid
    refine (Forest.roots_sublist_ids m.children).subset ?_
    rw [hback]
    exact List.mem_cons_of_mem _ List.mem_cons_self
  · have hmem := hiff'.mp hstill "b" rfl (by decide)
    rw [hgone] at hmem
    cases hmem

end Store

namespace Editor

/-- A text is selected in a box. The box is given an empty list of children, or its children are
tied to a variable. Both are accepted and keep all ids distinct, and then the selected id is that of
no layer. -/
theorem selects_lost_child :
    let text : Layer := .node ⟨.component, "b", "Text", none, [], []⟩ (.layers [])
    let box : Layer := .node ⟨.component, "a", "Box", none, [], []⟩ (.layers [text])
    let page : Layer := .node ⟨.page, "p", pageType, none, [], []⟩ (.layers [box])
    let entry : RegistryEntry :=
      ⟨[("children", ⟨"string", false, none, none, none⟩)], none, false, none, [], [], none⟩
    let e := start [("Box", entry)] [] .default (some ⟨[page], "p", some "b", []⟩) .start
    let emptied := (e.run (.updateLayer "a" [] [("children", .list [])])).editor.document
    let tied := (e.run (.bindChildren "a" "v")).editor.document
    (Forest.ids e.document.pages = ["p", "a", "b"] ∧ e.document.selectedLayer = some "b") ∧
      (Forest.ids emptied.pages = ["p", "a"] ∧ emptied.selectedLayer = some "b") ∧
      (Forest.ids tied.pages = ["p", "a"] ∧ tied.selectedLayer = some "b") := by
  intro text box page entry e emptied tied
  exact ⟨⟨rfl, rfl⟩, ⟨rfl, rfl⟩, rfl, rfl⟩

end Editor

end LayerDoc
