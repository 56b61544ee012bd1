import LayerDoc.Proofs.Forest.Removing
import LayerDoc.Proofs.Store.Copying

/-!
# Removals in the store

To remove a layer takes it out with all that is below it and with nothing else. A page goes alone,
if there is another one, and the only page stays (`Store.removes_one_tree`). What else changes is
the selection, where it was on something that went.
-/

namespace LayerDoc

/-- A document before and after one of its pages was removed. -/
structure Document.DropsPage (before after : Document) (page : Layer) : Prop where
  pages : ∃ front back, before.pages = front ++ page :: back ∧ after.pages = front ++ back
  selectedPage : before.selectedPage ≠ page.id → after.selectedPage = before.selectedPage
  firstSelected : before.selectedPage = page.id →
    after.pages.head?.map Layer.id = some after.selectedPage
  selectedLayer : after.selectedLayer = Store.selectionWithout before.selectedLayer page
  vars : after.vars = before.vars

namespace Store

variable {st : Store}

/-- With distinct ids the pages that do not have the id of a page are those around it. -/
theorem exists_pages_around (hids : (Forest.ids st.document.pages).Nodup) {page : Layer}
    (hpage : page ∈ st.document.pages) :
    ∃ front back, st.document.pages = front ++ page :: back ∧
      st.document.pages.filter (·.id ≠ page.id) = front ++ back := by
  obtain ⟨front, back, hsplit⟩ := List.append_of_mem hpage
  have hroots := hids.sublist (Forest.roots_sublist_ids _)
  rw [hsplit, List.map_append, List.map_cons, List.nodup_middle, List.nodup_cons,
    List.mem_append, not_or] at hroots
  have hother : ∀ layers : Forest, page.id ∉ layers.map Layer.id →
      layers.filter (·.id ≠ page.id) = layers := by
    intro layers hnew
    refine List.filter_eq_self.mpr fun l hl => ?_
    have hne : l.id ≠ page.id := fun he => hnew (he ▸ List.mem_map_of_mem hl)
    simpa using hne
  refine ⟨front, back, hsplit, ?_⟩
  rw [hsplit, List.filter_append, List.filter_cons_of_neg (by simp), hother front hroots.1.1,
    hother back hroots.1.2]

theorem removeLayer_of_page (hids : (Forest.ids st.document.pages).Nodup) {page : Layer}
    (hpage : page ∈ st.document.pages) (hmany : 1 < st.document.pages.length) (s : Supply) :
    ∃ after, st.removeLayer s page.id = Edit.commit () after s [] ∧
      st.document.DropsPage after page := by
  obtain ⟨front, back, hsplit, hleft⟩ := exists_pages_around hids hpage
  have hfound := Document.page?_of_mem hids hpage
  have hne : st.document.pages.length ≠ 1 := by omega
  have hcommit : st.removeLayer s page.id =
      Edit.commit ()
        { st.document with
          pages := st.document.pages.filter (·.id ≠ page.id)
          selectedPage :=
            if st.document.selectedPage = page.id then
              ((st.document.pages.filter (·.id ≠ page.id)).head?.map Layer.id).getD
                st.document.selectedPage
            else st.document.selectedPage
          selectedLayer := selectionWithout st.document.selectedLayer page }
        s [] := by
    simp only [removeLayer, hfound, hne, if_false]
  refine ⟨_, hcommit, ⟨front, back, hsplit, hleft⟩, fun hother => if_neg hother,
    fun hselected => ?_, rfl, rfl⟩
  -- another page is left to be selected
  have hlength : 0 < (front ++ back).length := by
    rw [hsplit, List.length_append, List.length_cons] at hmany
    rw [List.length_append]
    omega
  obtain ⟨first, rest, hfirst⟩ := List.exists_cons_of_length_pos hlength
  simp only [hleft, hfirst, hselected, if_true, List.head?_cons, Option.map_some, Option.getD_some]

theorem removeLayer_of_only_page {page : Layer} (hpage : st.document.pages = [page])
    (s : Supply) : st.removeLayer s page.id = Edit.refuse () s (.onlyPage page.id) := by
  have hfound : st.document.page? page.id = some page := by simp [Document.page?, hpage]
  simp only [removeLayer, hfound, hpage, List.length_singleton, if_true]

theorem removeLayer_of_layer (hids : (Forest.ids st.document.pages).Nodup) {layer : Layer}
    (hlayer : layer ∈ Forest.preorder st.document.pages)
    (hpage : ∀ page ∈ st.document.pages, page.id ≠ layer.id) (s : Supply) :
    st.removeLayer s layer.id =
      Edit.commit ()
        { st.document with
          pages := Forest.without layer.id st.document.pages
          selectedLayer := selectionWithout st.document.selectedLayer layer }
        s [] := by
  simp only [removeLayer, Document.page?_eq_none_iff.mpr hpage, Forest.find?_of_mem hids hlayer]

/-- To take an id out of a forest, whatever ids are repeated, is to leave out every layer with it
and all below it, so the id is not found any more. In a document of distinct ids the removal of a
layer that is no page takes out its tree, so that the ids are the others in their order and all
other layers are as they were, but that its parent has one child less. The removal of one of several
pages takes that page alone, and the only page is not removed. -/
theorem removes_one_tree :
    (∀ (id : String) (f : Forest), Forest.takenOut id f = Forest.without id f ∧
      Forest.find? (Forest.takenOut id f) id = none) ∧
    ∀ (st : Store) (s : Supply), (Forest.ids st.document.pages).Nodup →
      (∀ layer ∈ Forest.preorder st.document.pages,
        (∀ page ∈ st.document.pages, page.id ≠ layer.id) →
        ∃ pages, Forest.Loses st.document.pages pages layer ∧
          st.removeLayer s layer.id =
            Edit.commit ()
              { st.document with
                pages := pages
                selectedLayer := selectionWithout st.document.selectedLayer layer }
              s []) ∧
      (∀ page ∈ st.document.pages, 1 < st.document.pages.length →
        ∃ after, st.removeLayer s page.id = Edit.commit () after s [] ∧
          st.document.DropsPage after page) ∧
      ∀ page, st.document.pages = [page] →
        st.removeLayer s page.id = Edit.refuse () s (.onlyPage page.id) := by
  refine ⟨fun id f => ?_, fun st s hids => ⟨fun layer hlayer hpage => ?_, ?_, ?_⟩⟩
  · rw [Forest.takenOut_eq_without]
    exact ⟨rfl, Forest.find?_without id f⟩
  · exact ⟨_, Forest.loses_without hids hlayer hpage, removeLayer_of_layer hids hlayer hpage s⟩
  · exact fun page hpage hmany => removeLayer_of_page hids hpage hmany s
  · exact fun page hpage => removeLayer_of_only_page hpage s

/-- Of two pages, a card with a text in it is removed from the one, and then the other one goes. -/
theorem removes_card_then_page :
    let leaf (id : String) : Layer := .node ⟨.component, id, "Text", none, [], []⟩ (.text "Hello")
    let card : Layer := .node ⟨.component, "a", "Card", none, [], []⟩ (.layers [leaf "x"])
    let page : Layer :=
      .node ⟨.page, "p", "Page", none, [], []⟩ (.layers [leaf "b", card, leaf "c"])
    let other : Layer := .node ⟨.page, "q", "Page", none, [], []⟩ (.layers [])
    let st : Store := ⟨[], [], .default, ⟨[other, page], "q", some "x", []⟩⟩
    (Forest.ids st.document.pages).Nodup ∧
      (∃ pages, Forest.Loses st.document.pages pages card ∧
        st.removeLayer .start "a" =
          Edit.commit () { st.document with pages := pages, selectedLayer := none } .start [] ∧
        Forest.ids pages = ["q", "p", "b", "c"]) ∧
      (∃ after, st.removeLayer .start "q" = Edit.commit () after .start [] ∧
        st.document.DropsPage after other ∧ after.selectedPage = "p") ∧
      Store.removeLayer { st with document := { st.document with pages := [page] } } .start "p" =
        Edit.refuse () .start (.onlyPage "p") := by
  intro leaf card page other st
  have hids : (Forest.ids st.document.pages).Nodup := by decide
  have hone : (Forest.ids [page]).Nodup := by decide
  have hcard : card ∈ Forest.preorder st.document.pages := by
    have hpage : page ∈ Forest.preorder st.document.pages :=
      Forest.mem_preorder_of_mem (by simp [st])
    exact Forest.mem_preorder_of_mem_children hpage (by simp [page, Layer.children, Slot.items])
  obtain ⟨-, hremoves⟩ := removes_one_tree
  obtain ⟨hlayers, hpages, -⟩ := hremoves st .start hids
  obtain ⟨pages, hloses, hcommit⟩ := hlayers card hcard (by simp [st, page, other, card, Layer.id])
  obtain ⟨after, hcommit', hdrops⟩ := hpages other List.mem_cons_self (by decide)
  obtain ⟨-, -, honly⟩ :=
    hremoves { st with document := { st.document with pages := [page] } } .start hone
  have hselected : ((st.removeLayer .start "q").committed.map Document.selectedPage) = some "p" :=
    rfl
  rw [show "q" = other.id from rfl, hcommit'] at hselected
  refine ⟨hids, ⟨pages, hloses, hcommit, ?_⟩,
    ⟨after, hcommit', hdrops, Option.some.inj hselected⟩, honly page rfl⟩
  rw [hloses.ids]
  decide

end Store

end LayerDoc
