import LayerDoc.Proofs.Editor.Run
import LayerDoc.Proofs.Forest.Replacing
import LayerDoc.Proofs.Layer.Patching

/-!
# Updates in the store

An update that leaves the children alone changes the layer that it is for, and that layer only
(`Document.PatchedAt`). Two of them, one after the other, are the update with the second patches
written over the first, and an update that is refused changes nothing (`Store.updates_compose`). The
one thing that changes without being mentioned is a marker object that a default has left among the
props: it becomes the reference that it stands for (`Store.coerces_marker_of_default`).
-/

namespace LayerDoc

/-- A document after the layer with an id was patched. All else is as it was. -/
structure Document.PatchedAt (id : String) (props patch : Entries Value) (c d : Document) :
    Prop where
  sameRest : d = { c with pages := d.pages }
  sameIds : Forest.ids d.pages = Forest.ids c.pages
  others : Forest.SameOutside c.pages d.pages id
  target : ∃ l m, Forest.find? c.pages id = some l ∧ Forest.find? d.pages id = some m ∧
    l.Patched props patch m

theorem Document.page?_replace {d : Document} {id : String} {replacement : Layer}
    (hid : replacement.id = id) (other : String) :
    Document.page? { d with pages := Forest.replace id replacement d.pages } other =
      (d.page? other).map (Forest.replaceIn id replacement) := by
  have hsame : ((fun l : Layer => l.id == other) ∘ Forest.replaceIn id replacement) =
      fun l => l.id == other := by
    funext l
    rw [Function.comp_apply, Forest.id_replaceIn hid]
  rw [page?, page?, Forest.replace_eq_map, List.find?_map, hsame]

/-- After a replacement that keeps the ids, a search for the replaced layer finds the
replacement. -/
theorem Layer.searched_replaceIn {page target updated : Layer} {id : String}
    (hpage : page.ids.Nodup) (htarget : page.searched id = .ok (some target))
    (hids : updated.ids = target.ids) (hid : updated.id = id) :
    (Forest.replaceIn id updated page).searched id = .ok (some updated) := by
  by_cases hself : id = page.id
  · rw [Forest.replaceIn_self hself.symm, searched, if_pos hid.symm]
  · obtain ⟨head, slot⟩ := page
    have hne : ¬ head.id = id := fun he => hself he.symm
    rw [searched, if_neg hself] at htarget
    cases slot with
    | layers items =>
      have hfound : Forest.find? items id = some target := by simpa using htarget
      obtain ⟨hmem, htargetid⟩ := Forest.find?_eq_some hfound
      rw [Layer.ids_layers, List.nodup_cons] at hpage
      have hsameIds := Forest.ids_replace_of_mem hpage.2 hmem hids
      rw [htargetid] at hsameIds
      have hlisted : updated ∈ Forest.preorder (Forest.replace id updated items) :=
        Forest.mem_preorder_replace_self hmem htargetid
      have hupdated := Forest.find?_of_mem (hsameIds ▸ hpage.2) hlisted
      rw [hid] at hupdated
      have hself' : ¬ id = Layer.id (.node head (.layers (Forest.replace id updated items))) :=
        hself
      rw [Forest.replaceIn_layers, if_neg hne, searched, if_neg hself']
      simp [hupdated]
    | text content =>
      simp only [slot_node] at htarget
      split at htarget <;> cases htarget
    | bound variableId => cases htarget

namespace Store

variable {st : Store} {s : Supply} {id : String} {props patch : Entries Value} {d : Document}

/-- An update is accepted if the layer is found, the patch fits, and the layer is not below itself
after it. -/
theorem committed_updateLayer :
    (st.updateLayer s id props patch).committed = some d ↔
      ∃ t, st.Updated s id props patch d t := by
  constructor
  · intro h
    unfold updateLayer at h
    dsimp only at h
    split at h
    · cases h
    · next page hpage =>
      split at h
      · cases h
      · cases h
      · next target htarget =>
        split at h
        · cases h
        · next updated t hupdated =>
          split at h
          · cases h
          · next pages hpages =>
            obtain ⟨hends, rfl⟩ := Forest.replace?_eq_some_iff_not.mp hpages
            obtain ⟨hmem, hid⟩ := mem_preorder_of_searched hpage htarget
            cases h
            exact ⟨t, .intro hpage htarget hupdated fun hbelow =>
              hends ⟨Forest.mem_ids_iff.mpr ⟨target, hmem, hid⟩, hbelow⟩⟩
  · rintro ⟨t, @⟨page, target, updated, t, hpage, htarget, hupdated, hends⟩⟩
    have hpages : Forest.replace? id updated st.document.pages =
        some (Forest.replace id updated st.document.pages) :=
      Forest.replace?_eq_some_iff_not.mpr ⟨fun hboth => hends hboth.2, rfl⟩
    simp only [updateLayer, hpage, htarget, hupdated, hpages]
    rfl

/-- Nothing but the layer that is found changes by an update without children. -/
theorem patchedAt_of_updateLayer (hids : (Forest.ids st.document.pages).Nodup)
    (hprops : (Entries.keys props).Nodup) (hchildren : Entries.get? patch "children" = none)
    (h : (st.updateLayer s id props patch).committed = some d) :
    st.document.PatchedAt id props patch d := by
  obtain ⟨t, hupdate⟩ := committed_updateLayer.mp h
  obtain ⟨target, updated, hmem, rfl, hpatched, -, rfl⟩ := hupdate.exists_target
  have hmade := Layer.patched_of_patched hprops hchildren hpatched
  have hsameIds := Forest.ids_replace_of_mem hids hmem
    (Layer.ids_eq_of_slot_eq hmade.sameId hmade.sameSlot)
  have hbelow : Forest.preorder target.children ⊆ Forest.preorder updated.children := by
    rw [Layer.children, Layer.children, hmade.sameSlot]
    exact List.Subset.refl _
  obtain ⟨hfound, hothers⟩ :=
    Forest.sameOutside_replace hids hmem hmade.sameId hbelow (hsameIds ▸ hids)
  exact ⟨rfl, hsameIds, hothers, target, updated, Forest.find?_of_mem hids hmem, hfound, hmade⟩

/-- Two updates without children come to the one update with the second patches written over the
first. -/
theorem updateLayer_updateLayer (hids : (Forest.ids st.document.pages).Nodup)
    {props' patch' : Entries Value} (hprops : (Entries.keys props).Nodup)
    (hpatch : (Entries.keys patch).Nodup) (hpatch' : (Entries.keys patch').Nodup)
    (hchildren : Entries.get? patch "children" = none)
    (hchildren' : Entries.get? patch' "children" = none) {t : Supply} {d' : Document}
    (h : (st.updateLayer s id props patch).committed = some d)
    (h' : (Store.updateLayer { st with document := d } t id props' patch').committed = some d')
    (u : Supply) :
    (st.updateLayer u id (Entries.merge props props')
      (Entries.merge patch patch')).committed = some d' := by
  obtain ⟨v, hupdate⟩ := committed_updateLayer.mp h
  obtain ⟨w, hupdate'⟩ := committed_updateLayer.mp h'
  obtain ⟨hpage, htarget, hpatched, -⟩ := hupdate
  obtain ⟨hpage', htarget', hpatched', hends'⟩ := hupdate'
  next page target updated page' target' updated' =>
  have hid : updated.id = id := (Layer.id_of_patched hpatched).trans (searched_eq_ok htarget).2
  have hsameIds : updated.ids = target.ids :=
    Layer.ids_eq_of_patched hpatched fun v hv => by rw [hchildren] at hv; cases hv
  have hbelow := Forest.nodup_ids_of_mem hids (Document.page?_eq_some hpage).1
  -- the second search finds what the first update has put there
  have hafter := Document.page?_replace (d := st.document) hid st.document.selectedPage
  rw [show st.document.page? st.document.selectedPage = some page from hpage] at hafter
  have hsamePage : page' = Forest.replaceIn id updated page :=
    Option.some.inj (hpage'.symm.trans hafter)
  have hsame : target' = updated := by
    have hfound := Layer.searched_replaceIn hbelow htarget hsameIds hid
    rw [← hsamePage, htarget'] at hfound
    exact Option.some.inj (Except.ok.inj hfound)
  subst hsame
  have hmerged := Layer.patched_patched hprops hpatch hpatch' hchildren hchildren' hpatched
    hpatched' u
  refine committed_updateLayer.mpr ⟨u, ?_⟩
  simp only [Forest.replace_replace hid]
  exact .intro hpage htarget hmerged hends'

/-- Updates without children compose, and touch the layer that they are for alone. Two accepted ones
have the outcome of one, with the second patches written over the first. An accepted one leaves all
other layers, the selections and the variables as they are, and of the layer itself the id, what
stands in its slot, and what is not mentioned; but a marker object among its props becomes the
reference that it stands for. A refused one leaves the document as it is. -/
theorem updates_compose (hids : (Forest.ids st.document.pages).Nodup) (id : String)
    (props patch props' patch' : Entries Value) (hprops : (Entries.keys props).Nodup)
    (hpatch : (Entries.keys patch).Nodup) (hpatch' : (Entries.keys patch').Nodup)
    (hchildren : Entries.get? patch "children" = none)
    (hchildren' : Entries.get? patch' "children" = none) :
    (∀ s t u d d', (st.updateLayer s id props patch).committed = some d →
      (Store.updateLayer { st with document := d } t id props' patch').committed = some d' →
      (st.updateLayer u id (Entries.merge props props')
        (Entries.merge patch patch')).committed = some d') ∧
    (∀ s d, (st.updateLayer s id props patch).committed = some d →
      st.document.PatchedAt id props patch d) ∧
    ∀ e : Editor, e.store = st → (st.updateLayer e.supply id props patch).committed = none →
      (e.run (.updateLayer id props patch)).editor.document = st.document := by
  refine ⟨fun s t u d d' h h' => ?_, fun s d h => ?_, fun e he h => ?_⟩
  · exact updateLayer_updateLayer hids hprops hpatch hpatch' hchildren hchildren' h h' u
  · exact patchedAt_of_updateLayer hids hprops hchildren h
  · subst he
    have hnone : ((Operation.updateLayer id props patch).effect e.store e.supply).1 = none := h
    rw [e.run_of_isEdit rfl, Editor.settled, hnone]
    rfl

/-- A box is given a title and a size, then another size, a type and a note. A name that is no text
is refused. -/
theorem composes_of_sized_box :
    let box : Layer := .node ⟨.component, "a", "Box", none, [("title", .plain (.str "Hi"))],
      [("note", .int 1)]⟩ (.text "Hello")
    let st : Store := ⟨[], [], .default,
      ⟨[.node ⟨.page, "p", "Page", none, [], []⟩ (.layers [box])], "p", some "a", []⟩⟩
    let first : Entries Value := [("title", .str "Ho"), ("size", .int 1)]
    let second : Entries Value := [("size", .int 2)]
    let patch : Entries Value := [("type", .str "Card"), ("note", .int 2)]
    (Forest.ids st.document.pages).Nodup ∧
    (∃ d d', (st.updateLayer .start "a" first []).committed = some d ∧
      (Store.updateLayer { st with document := d } .start "a" second patch).committed = some d' ∧
      (st.updateLayer .start "a" [("title", .str "Ho"), ("size", .int 2)] patch).committed =
        some d' ∧
      st.document.PatchedAt "a" first [] d) ∧
    (st.updateLayer .start "a" [] [("name", .int 1)]).committed = none ∧
    ((Editor.mk st (.start 1 st.document) true 0 [] .start).run
      (.updateLayer "a" [] [("name", .int 1)])).editor.document = st.document := by
  intro box st first second patch
  have hids : (Forest.ids st.document.pages).Nodup := by decide
  obtain ⟨d, hd⟩ : ∃ d, (st.updateLayer .start "a" first []).committed = some d := ⟨_, rfl⟩
  obtain ⟨d', hd'⟩ : ∃ d', (Store.updateLayer { st with document := d } .start "a" second
      patch).committed = some d' := by
    cases hd
    exact ⟨_, rfl⟩
  have hrefused : (st.updateLayer .start "a" [] [("name", .int 1)]).committed = none := rfl
  obtain ⟨hcompose, htouched, -⟩ := updates_compose hids "a" first [] second patch
    (by decide) (by decide) (by decide) rfl rfl
  obtain ⟨-, -, hleft⟩ := updates_compose hids "a" [] [("name", .int 1)] [] []
    (by decide) (by decide) (by decide) rfl rfl
  exact ⟨hids, ⟨d, d', hd, hd', hcompose _ _ .start d d' hd hd', htouched _ d hd⟩, hrefused,
    hleft (Editor.mk st (.start 1 st.document) true 0 [] .start) rfl hrefused⟩

/-- A prop is released to a default that is a marker object with a further key. An update of another
prop takes that key away. -/
theorem coerces_marker_of_default :
    let marker : Value := .object [(referenceKey, .str "w"), ("x", .int 1)]
    let box : Layer := .node ⟨.component, "a", "Box", none, [("link", .bound "v")], []⟩ (.layers [])
    let e := ((Editor.start
      [("Box",
        ⟨[("link", ⟨"object", false, some marker, none, none⟩)], none, false, none, [], [], none⟩)]
      [] .default (some ⟨[.node ⟨.page, "p", pageType, none, [], []⟩ (.layers [box])], "p", none,
        [⟨"v", "target", .string, .null⟩]⟩) .start).run (.removeVariable "v")).editor
    let patched := (e.run (.updateLayer "a" [("title", .str "Home")] [])).editor
    let link (e : Editor) : Option Value :=
      ((Forest.find? e.document.pages "a").bind fun l => Entries.get? l.props "link").map
        PropValue.toValue
    (Forest.ids e.document.pages).Nodup ∧
    (e.store.updateLayer e.supply "a" [("title", .str "Home")] []).committed =
      some patched.document ∧
    link e = some marker ∧ link patched = some (Value.ofReference "w") ∧ link patched ≠ link e := by
  intro marker box e patched link
  have hbefore : link e = some marker := rfl
  have hafter : link patched = some (Value.ofReference "w") := rfl
  refine ⟨by decide, rfl, hbefore, hafter, fun h => ?_⟩
  rw [hbefore, hafter] at h
  simp [marker, Value.ofReference] at h

end Store

end LayerDoc
