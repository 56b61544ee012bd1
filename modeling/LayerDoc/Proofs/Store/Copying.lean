import LayerDoc.Proofs.Forest.Copying
import LayerDoc.Proofs.Store.Commits

/-!
# Copies in the store

A copy of a layer of the selected page comes to stand right after the layer, a copy of a page after
all pages. In both cases nothing else changes but that the copy of a page is selected, and a copy
of a layer can be removed again, which gives back the document as it was
(`Store.copies_and_takes_back`).
-/

namespace LayerDoc

namespace Document

variable {d : Document} {page layer : Layer}

/-- A layer below a page is not a page, in a document of distinct ids. -/
theorem page?_of_mem_children (hids : (Forest.ids d.pages).Nodup) {parent : Layer}
    (hparent : parent ∈ Forest.preorder d.pages) (hlayer : layer ∈ parent.children) :
    d.page? layer.id = none := by
  refine page?_eq_none_iff.mpr fun root hroot he => ?_
  exact Forest.not_mem_roots_of_mem_children hids hparent (List.mem_map_of_mem hlayer)
    (he ▸ List.mem_map_of_mem hroot)

theorem page?_of_mem (hids : (Forest.ids d.pages).Nodup) (hpage : page ∈ d.pages) :
    d.page? page.id = some page := by
  cases hfound : d.page? page.id with
  | none => exact absurd rfl (page?_eq_none_iff.mp hfound page hpage)
  | some other =>
    obtain ⟨hother, hid⟩ := page?_eq_some hfound
    exact congrArg some (Forest.eq_of_mem_preorder hids (Forest.mem_preorder_of_mem hother)
      (Forest.mem_preorder_of_mem hpage) hid)

/-- In a document of distinct ids every layer below the selected page is found, unless its id is
empty. -/
theorem layer?_of_mem (hids : (Forest.ids d.pages).Nodup) (hpage : d.currentPage? = some page)
    (hlayer : layer ∈ Forest.preorder page.children) (hid : layer.id ≠ "") :
    d.layer? layer.id = some layer := by
  obtain ⟨hmem, hselected⟩ := page?_eq_some hpage
  have hbelow := Forest.nodup_ids_of_mem hids hmem
  rw [Layer.ids_eq, List.nodup_cons, hselected] at hbelow
  have hother : layer.id ≠ d.selectedPage :=
    fun he => hbelow.1 (he ▸ Forest.mem_ids_iff.mpr ⟨layer, hlayer, rfl⟩)
  have hlayers : d.layersOfPage d.selectedPage = page.children := by
    rw [layersOfPage, show d.page? d.selectedPage = some page from hpage]
  have hempty : layer.id.isEmpty = false := by simpa using hid
  simp only [layer?, hempty, Bool.false_eq_true, if_false, if_neg hother, hlayers]
  exact Forest.find?_of_mem hbelow.2 hlayer

end Document

namespace Store

variable {st : Store} {s : Supply}

theorem selectionWithout_of_disjoint {selected : Option String} {removed : Layer}
    (h : selected.toList.Disjoint removed.ids) : selectionWithout selected removed = selected := by
  cases selected with
  | none => rfl
  | some id =>
    have hout : id ∉ removed.ids := fun hmem => h List.mem_cons_self hmem
    simp [selectionWithout, hout]

/-- A new layer that was put into a document is removed again with nothing else, but that it is no
longer selected if it was. -/
theorem removeLayer_of_insert {parent new : Layer} {position : Option Int}
    (hids : (Forest.ids st.document.pages).Nodup)
    (hparent : parent ∈ Forest.preorder st.document.pages) (hholds : parent.holdsLayers = true)
    (hnew : new.ids.Nodup) (hdisjoint : (Forest.ids st.document.pages).Disjoint new.ids)
    (s : Supply) :
    Store.removeLayer
        { st with
          document :=
            { st.document with
              pages := Forest.insert parent.id new position st.document.pages } } s new.id =
      Edit.commit ()
        { st.document with
          selectedLayer := selectionWithout st.document.selectedLayer new } s [] := by
  have hout : new.id ∉ Forest.ids st.document.pages := fun hmem => hdisjoint hmem new.id_mem_ids
  have hpage : Document.page? { st.document with
      pages := Forest.insert parent.id new position st.document.pages } new.id = none := by
    refine Document.page?_eq_none_iff.mpr fun root hroot he => hout ?_
    have hroots := Forest.map_id_insert parent.id new position st.document.pages
    have hmem : root.id ∈ st.document.pages.map Layer.id := hroots ▸ List.mem_map_of_mem hroot
    exact he ▸ (Forest.roots_sublist_ids _).subset hmem
  have hfound : Forest.find? (Forest.insert parent.id new position st.document.pages) new.id =
      some new :=
    Forest.find?_of_mem (Forest.nodup_ids_insert hids hnew hdisjoint parent.id position)
      (Forest.mem_preorder_insert_self hparent rfl hholds)
  simp only [removeLayer, hpage, hfound, Forest.without_insert hout]

/-- A new layer that stands beside another one is removed again with nothing else. -/
theorem removeLayer_insert {parent new : Layer} {position : Option Int}
    (hids : (Forest.ids st.document.pages).Nodup)
    (hparent : parent ∈ Forest.preorder st.document.pages) (hholds : parent.holdsLayers = true)
    (hnew : new.ids.Nodup) (hdisjoint : (Forest.ids st.document.pages).Disjoint new.ids)
    (hselected : st.document.selectedLayer.toList.Disjoint new.ids) (s : Supply) :
    Store.removeLayer
        { st with
          document :=
            { st.document with
              pages := Forest.insert parent.id new position st.document.pages } } s new.id =
      Edit.commit () st.document s [] := by
  rw [removeLayer_of_insert hids hparent hholds hnew hdisjoint,
    selectionWithout_of_disjoint hselected]

/-- In a document of distinct ids a layer of the selected page is copied to the place right after
it, and to remove the copy gives back the document as it was. A page is copied to the end, and the
copy is selected. The ids of the copy are new, and nothing else changes in the document. -/
theorem copies_and_takes_back (hids : (Forest.ids st.document.pages).Nodup) (hs : s.Injective)
    (hfresh : s.FreshFor
      (Forest.ids st.document.pages ++ st.document.selectedLayer.toList)) :
    (∀ page layer, st.document.currentPage? = some page → layer ∈ Forest.preorder page.children →
      layer.id ≠ "" →
      ∃ copy pages t, layer.IsCopy st.config.copySuffix copy ∧
        (Forest.ids st.document.pages).Disjoint copy.ids ∧
        Forest.PutBeside st.document.pages pages layer copy ∧
        st.duplicateLayer s layer.id =
          Edit.commit (some copy.id) { st.document with pages := pages } t [] ∧
        Store.removeLayer { st with document := { st.document with pages := pages } } t copy.id =
          Edit.commit () st.document t []) ∧
    (∀ page ∈ st.document.pages,
      ∃ copy t, page.IsCopy st.config.copySuffix copy ∧
        (Forest.ids st.document.pages).Disjoint copy.ids ∧
        st.duplicateLayer s page.id =
          Edit.commit (some copy.id)
            { st.document with pages := st.document.pages ++ [copy], selectedPage := copy.id }
            t []) := by
  have hcopied : ∀ l : Layer, ∃ copy t, l.copyNamed st.config.copySuffix s = (copy, t) ∧
      l.IsCopy st.config.copySuffix copy ∧ (Forest.ids st.document.pages).Disjoint copy.ids ∧
      st.document.selectedLayer.toList.Disjoint copy.ids := by
    intro l
    cases hcopy : l.copyNamed st.config.copySuffix s
    have hdisjoint := (Layer.gives_copyNamed hcopy).disjoint hfresh
    rw [List.disjoint_append_left] at hdisjoint
    exact ⟨_, _, rfl, Layer.isCopy_copyNamed hs hcopy, hdisjoint⟩
  refine ⟨fun page layer hpage hlayer hid => ?_, fun page hpage => ?_⟩
  · obtain ⟨copy, t, hcopy, hiscopy, hnew, hselected⟩ := hcopied layer
    obtain ⟨parent, hparent, hchild, hfound⟩ :=
      Forest.exists_parentOf?_of_mem hids (Document.page?_eq_some hpage).1 hlayer
    have hholds := Layer.holdsLayers_of_mem_children hchild
    refine ⟨copy, _, t, hiscopy, hnew,
      Forest.putBeside_insert hids hparent hchild hiscopy.nodup hnew, ?_, ?_⟩
    · simp only [duplicateLayer, Document.page?_of_mem_children hids hparent hchild,
        Document.layer?_of_mem hids hpage hlayer hid, hpage, hfound, hcopy]
    · exact removeLayer_insert hids hparent hholds hiscopy.nodup hnew hselected t
  · obtain ⟨copy, t, hcopy, hiscopy, hnew, -⟩ := hcopied page
    refine ⟨copy, t, hiscopy, hnew, ?_⟩
    simp only [duplicateLayer, Document.page?_of_mem hids hpage, hcopy]

/-- A card is copied with the text in it to the place between the card and what stands after it. -/
theorem copies_of_named_card :
    let leaf (id : String) : Layer := .node ⟨.component, id, "Text", none, [], []⟩ (.text "Hello")
    let card : Layer := .node ⟨.component, "a", "Card", some "Teaser", [], []⟩ (.layers [leaf "x"])
    let page : Layer := .node ⟨.page, "p", "Page", some "Home", [], []⟩ (.layers [card, leaf "b"])
    let st : Store :=
      ⟨[], [], .default, ⟨[page, .node ⟨.page, "q", "Page", none, [], []⟩ (.layers [])],
      "p", some "x", []⟩⟩
    (Forest.ids st.document.pages).Nodup ∧ st.document.currentPage? = some page ∧
    (∃ copy pages t, card.IsCopy " (Copy)" copy ∧
      Forest.PutBeside st.document.pages pages card copy ∧
      st.duplicateLayer .start "a" =
        Edit.commit (some copy.id) { st.document with pages := pages } t [] ∧
      Forest.ids pages = ["p", "a", "x", Supply.groupLabel 0, Supply.groupLabel 1, "b", "q"] ∧
      Store.removeLayer { st with document := { st.document with pages := pages } } t copy.id =
        Edit.commit () st.document t []) ∧
    ∃ copy t, page.IsCopy " (Copy)" copy ∧ copy.head.name = some "Home (Copy)" ∧
      st.duplicateLayer .start "p" =
        Edit.commit (some copy.id) { st.document with
          pages := st.document.pages ++ [copy], selectedPage := copy.id } t [] := by
  intro leaf card page st
  have hids : (Forest.ids st.document.pages).Nodup := by decide
  have hpage : st.document.currentPage? = some page := rfl
  have hfresh : Supply.start.FreshFor
      (Forest.ids st.document.pages ++ st.document.selectedLayer.toList) :=
    Supply.freshFor_of_label_eq rfl (by decide)
  obtain ⟨hlayers, hpages⟩ := copies_and_takes_back hids Supply.start_injective hfresh
  obtain ⟨copy, pages, t, hcopy, -, hbeside, hcommit, hremove⟩ :=
    hlayers page card hpage (by simp [page, card]) (by decide)
  obtain ⟨copy', t', hcopy', -, hcommit'⟩ := hpages page List.mem_cons_self
  have hlisted : (st.duplicateLayer .start "a").committed.map (fun d => Forest.ids d.pages) =
      some ["p", "a", "x", Supply.groupLabel 0, Supply.groupLabel 1, "b", "q"] := rfl
  rw [show "a" = card.id from rfl, hcommit] at hlisted
  refine ⟨hids, hpage, ⟨copy, pages, t, hcopy, hbeside, hcommit, Option.some.inj hlisted, hremove⟩,
    copy', t', hcopy', ?_, hcommit'⟩
  have hname := congrArg (fun l : Layer => l.head.name) hcopy'.same
  simpa [Layer.withoutIds, page, copyName, st, Config.default] using hname

end Store

end LayerDoc
