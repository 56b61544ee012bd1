import LayerDoc.Proofs.Editor.Run

/-!
# Pages over a run

Every document that an editor holds has a page, no two of its pages have one id, and the selected
page is among them (`Editor.pages_runAll`). So there is always a page to generate code for if none
is named. This needs nothing of the layers below the pages, whose ids may repeat each other and
those of pages.
-/

namespace LayerDoc

/-- The ids of the pages of a document. -/
def Document.pageIds (d : Document) : List String := d.pages.map Layer.id

/-- The pages of a document are told apart by their ids, none of which is among the labels to come,
and one of them is selected. -/
structure Document.Paged (s : Supply) (d : Document) : Prop where
  injective : s.Injective
  fresh : s.FreshFor d.pageIds
  nodup : d.pageIds.Nodup
  selected : d.selectedPage ∈ d.pageIds

namespace Document.Paged

variable {s t : Supply} {d : Document}

theorem onward (h : d.Paged s) (hst : s.Onward t) : d.Paged t :=
  ⟨h.injective.onward hst, h.fresh.onward hst, h.nodup, h.selected⟩

/-- Below the pages anything may change. -/
theorem of_pageIds_eq (h : d.Paged s) {c : Document} (hids : c.pageIds = d.pageIds)
    (hselected : c.selectedPage = d.selectedPage) : c.Paged s := by
  refine ⟨h.injective, ?_, ?_, ?_⟩
  · rw [hids]
    exact h.fresh
  · rw [hids]
    exact h.nodup
  · rw [hids, hselected]
    exact h.selected

/-- A new page at the end is selected. -/
theorem append (h : d.Paged s) {page : Layer} (hpage : s.Gives page.ids t) {c : Document}
    (hpages : c.pages = d.pages ++ [page]) (hselected : c.selectedPage = page.id) : c.Paged t := by
  have hids : c.pageIds = d.pageIds ++ [page.id] := by
    rw [pageIds, hpages, List.map_append, List.map_singleton, pageIds]
  have hid : [page.id] ⊆ page.ids := by
    rw [Layer.ids_eq]
    exact List.cons_subset_cons _ (List.nil_subset _)
  refine ⟨h.injective.onward hpage.onward, ?_, ?_, ?_⟩
  · rw [hids]
    exact (h.fresh.onward hpage.onward).append ((hpage.freshFor h.injective).subset hid)
  · rw [hids]
    refine h.nodup.append (List.nodup_singleton _) fun id hold hnew => ?_
    exact hpage.disjoint h.fresh hold (hid hnew)
  · rw [hids, hselected]
    exact List.mem_append_right _ List.mem_cons_self

/-- Without one of several pages a page is left, and if the selected one was taken out, the first
one left is selected. -/
theorem removePage (h : d.Paged s) {id : String} (hpage : id ∈ d.pageIds)
    (hmany : d.pages.length ≠ 1) {c : Document} (hpages : c.pages = d.pages.filter (·.id ≠ id))
    (hselected : c.selectedPage =
      if d.selectedPage = id then
        (((d.pages.filter (·.id ≠ id)).head?).map Layer.id).getD d.selectedPage
      else d.selectedPage) : c.Paged s := by
  have hids : c.pageIds = d.pageIds.filter (· ≠ id) := by
    rw [pageIds, hpages, pageIds, List.filter_map]
    rfl
  have hsub : c.pageIds.Sublist d.pageIds := hids ▸ List.filter_sublist
  refine ⟨h.injective, h.fresh.subset hsub.subset, h.nodup.sublist hsub, ?_⟩
  rw [hselected, ← hpages]
  split
  · next hsame =>
    have herase : c.pageIds = d.pageIds.erase id := by
      rw [hids, h.nodup.erase_eq_filter]
      exact List.filter_congr fun x _ => by simp [bne, BEq.beq]
    -- the ids of the pages are distinct, so only one page is gone
    have hlength : c.pages.length = d.pages.length - 1 := by
      have := congrArg List.length herase
      rwa [List.length_erase_of_mem hpage, pageIds, pageIds, List.length_map, List.length_map]
        at this
    cases hleft : c.pages with
    | nil =>
      have hpos := List.length_pos_of_mem hpage
      rw [pageIds, List.length_map] at hpos
      rw [hleft, List.length_nil] at hlength
      omega
    | cons first rest =>
      rw [pageIds, hleft]
      exact List.mem_cons_self
  · next hother =>
    rw [hids, List.mem_filter]
    exact ⟨h.selected, by simpa using hother⟩

end Document.Paged

namespace Store

variable {st : Store} {s t : Supply} {d : Document}

theorem Updated.paged {id : String} {props patch : Entries Value}
    (h : st.Updated s id props patch d t) (hdoc : st.document.Paged s) : d.Paged t := by
  obtain @⟨page, target, updated, t, hpage, htarget, hupdated⟩ := h
  have hid : updated.id = id :=
    (Layer.id_of_patched hupdated).trans (searched_eq_ok htarget).2
  exact (hdoc.onward (Layer.onward_patched hupdated)).of_pageIds_eq
    (Forest.map_id_replace hid _) rfl

/-- Every commit keeps the pages apart and one of them selected. -/
theorem Commits.paged {op : Operation} (h : st.Commits s op d t)
    (hfresh : op.replaces = true → t.FreshFor d.pageIds) (hdoc : st.document.Paged s) :
    d.Paged t := by
  have honward := h.onward
  cases h with
  | addLayer =>
    exact (hdoc.onward honward).of_pageIds_eq
      (map_id_of_map_footing (Forest.map_footing_insert _ _ _ _)) rfl
  | addPage =>
    refine hdoc.append ?_ rfl rfl
    exact .one s
  | duplicatePage _ hcopy => exact hdoc.append (Layer.gives_copyNamed hcopy) rfl rfl
  | duplicateLayer =>
    exact (hdoc.onward honward).of_pageIds_eq
      (map_id_of_map_footing (Forest.map_footing_insert _ _ _ _)) rfl
  | removePage hpage hmany =>
    obtain ⟨hmem, hid⟩ := Document.page?_eq_some hpage
    exact hdoc.removePage (hid ▸ List.mem_map_of_mem hmem) hmany rfl rfl
  | removeLayer hnone =>
    have hroots := Forest.map_footing_without (Document.page?_eq_none_iff.mp hnone)
    exact hdoc.of_pageIds_eq (map_id_of_map_footing hroots) rfl
  | moveLayer hpage _ hmove =>
    have hroots := Forest.map_footing_move (isPage_eq_false_iff.mp hpage) hmove
    exact hdoc.of_pageIds_eq (map_id_of_map_footing hroots) rfl
  | selectPage hpage =>
    obtain ⟨hmem, hid⟩ := Document.page?_eq_some hpage
    exact ⟨hdoc.injective, hdoc.fresh, hdoc.nodup, hid ▸ List.mem_map_of_mem hmem⟩
  | replaceDocument _ _ _ _ h =>
    obtain ⟨-, -, -, -, hnodup, page, hmem, hid⟩ := Document.assemble_eq_ok h
    exact ⟨hdoc.injective.onward honward, hfresh rfl, hnodup.sublist (Forest.roots_sublist_ids _),
      hid ▸ List.mem_map_of_mem hmem⟩
  | removeVariable =>
    exact hdoc.of_pageIds_eq
      (map_id_of_map_footing (Forest.map_footing_releasedItems st.registry _ _)) rfl
  | patch _ h => exact h.paged hdoc
  | addVariable => exact (hdoc.onward honward).of_pageIds_eq rfl rfl
  | selectLayer | updateVariable => exact hdoc.of_pageIds_eq rfl rfl

end Store

namespace Editor

/-- What is exported if no page is named is the selected page, whenever a document has one: its
code, or else the word that some data of it cannot be written. -/
theorem exportPage_none {e : Editor} (h : e.document.selectedPage ∈ e.document.pageIds) :
    ∃ page ∈ e.document.pages, e.document.currentPage? = some page ∧
      e.exportPage none = e.exported page := by
  cases hpage : e.document.page? e.document.selectedPage with
  | none =>
    obtain ⟨page, hmem, hid⟩ := List.mem_map.mp h
    exact absurd hid (Document.page?_eq_none_iff.mp hpage page hmem)
  | some page =>
    refine ⟨page, (Document.page?_eq_some hpage).1, hpage, ?_⟩
    simp only [exportPage, exportTarget, hpage]

/-- So the page is never missing. -/
theorem exportPage_none_ne_pageNotFound {e : Editor}
    (h : e.document.selectedPage ∈ e.document.pageIds) (id : String) :
    e.exportPage none ≠ .error (.pageNotFound id) := by
  obtain ⟨page, -, -, hexport⟩ := exportPage_none h
  rw [hexport, exported]
  cases e.compiler.code? page <;> nofun

/-- Over every run from an editor at the start, with labels that are no ids of pages: every document
that the editor holds, in its store and in its history, has a page, its pages have distinct ids, and
the selected one is among them. So there is always a selected page, and it is what is exported if no
page is named: its code, or else the word that some data of it cannot be written, but never that
there is no such page. -/
theorem pages_runAll {e : Editor} (he : e.Opened) {ops : List Operation}
    (hfresh : e.FreshRun Document.pageIds ops) :
    (∀ d ∈ (e.runAll ops).documents, d.pages ≠ [] ∧ d.pageIds.Nodup ∧
      d.selectedPage ∈ d.pageIds) ∧
    ∃ page ∈ (e.runAll ops).document.pages, (e.runAll ops).document.currentPage? = some page ∧
      (e.runAll ops).exportPage none = (e.runAll ops).exported page ∧
      ∀ id, (e.runAll ops).exportPage none ≠ .error (.pageNotFound id) := by
  obtain ⟨-, -, hnodup, page, hmem, hid⟩ := he.sound
  have hstart : e.Holds fun s d => d.Paged s :=
    he.holds ⟨hfresh.injective, hfresh.first, hnodup.sublist (Forest.roots_sublist_ids _),
      hid ▸ List.mem_map_of_mem hmem⟩
  have hend : (e.runAll ops).Holds fun s d => d.Paged s := by
    refine holds_runAll (fun _ _ _ honward h => h.onward honward) (fun st s op d t hop hd h => ?_)
      hfresh.replaced hstart
    exact (Store.commits_of_effect h).paged (fun hreplaces => hop hreplaces d t h) hd
  have hselected : (e.runAll ops).document.selectedPage ∈ (e.runAll ops).document.pageIds :=
    (hend _ List.mem_cons_self).selected
  obtain ⟨page, hpage, hcurrent, hexport⟩ := exportPage_none hselected
  refine ⟨fun d hd => ?_, page, hpage, hcurrent, hexport,
    exportPage_none_ne_pageNotFound hselected⟩
  obtain ⟨-, -, hnodup, hselected⟩ := hend d hd
  refine ⟨?_, hnodup, hselected⟩
  rintro hnil
  simp [Document.pageIds, hnil] at hselected

/-- The default document gives way to one that was read, whose page is copied and then removed. -/
theorem pages_of_replaced_default :
    let e := (start [] [] .default none .start).runAll
      [.replaceDocument (.data [.object [("id", .str "home")]]) .null .null [],
        .duplicateLayer "home", .removeLayer "home"]
    (∀ d ∈ e.documents, d.pages ≠ [] ∧ d.pageIds.Nodup ∧ d.selectedPage ∈ d.pageIds) ∧
    ∃ page ∈ e.document.pages, e.document.currentPage? = some page ∧
      e.exportPage none = e.exported page ∧
        ∀ id, e.exportPage none ≠ .error (.pageNotFound id) := by
  have hstart : (start [] [] .default none .start).supply.FreshFor
      (start [] [] .default none .start).document.pageIds :=
    (Supply.Gives.one .start).freshFor Supply.start_injective
  refine pages_runAll .default ⟨Supply.start_injective, hstart, fun _ d t h => ?_, ?_⟩
  · have hids : d.pageIds = ["home"] := Option.some.inj (congrArg Prod.fst h) ▸ rfl
    have hlabel : t.label = Supply.groupLabel := (congrArg (fun r => r.2.label) h).symm
    rw [hids]
    intro n _ hmem
    rw [hlabel, List.mem_singleton] at hmem
    have hhead := Supply.head?_groupLabel n
    rw [hmem] at hhead
    exact absurd hhead (by decide)
  · simp [Along, Operation.LeavesFresh, Operation.replaces]

end Editor

end LayerDoc
