import LayerDoc.Proofs.Editor.Run

/-!
# Layer ids over a run

No two layers of a document have one id, at any depth and over all pages, and the slot of every
page is a list. A run keeps this in all documents that the editor holds
(`Editor.nodup_ids_runAll`), if no patch of a layer puts a list in the place of its children: such
a list brings its own ids along.
-/

namespace LayerDoc

/-- A forest of pages with distinct ids, none of which is among the labels to come. -/
structure Forest.Intact (s : Supply) (f : Forest) : Prop where
  injective : s.Injective
  fresh : s.FreshFor (ids f)
  nodup : (ids f).Nodup
  pages : f.ArePages

namespace Forest.Intact

variable {s t : Supply} {f g : Forest}

theorem onward (h : f.Intact s) (hst : s.Onward t) : f.Intact t :=
  ⟨h.injective.onward hst, h.fresh.onward hst, h.nodup, h.pages⟩

/-- A rewriting that brings no new ids and repeats none. -/
theorem shrunk (h : f.Intact s) (hnodup : (ids g).Nodup) (hsub : ids g ⊆ ids f)
    (hpages : g.ArePages) : g.Intact s :=
  ⟨h.injective, h.fresh.subset hsub, hnodup, hpages⟩

theorem insert (h : f.Intact s) {layer : Layer} (hlayer : s.Gives layer.ids t) (parent : String)
    (position : Option Int) : Forest.Intact t (Forest.insert parent layer position f) := by
  refine ⟨h.injective.onward hlayer.onward, ?_,
    nodup_ids_insert h.nodup (hlayer.nodup h.injective) (hlayer.disjoint h.fresh) _ _,
    h.pages.of_footing (map_footing_insert _ _ _ _)⟩
  have hboth := (h.fresh.onward hlayer.onward).append (hlayer.freshFor h.injective)
  exact hboth.subset fun id hid => List.mem_append.mpr (mem_ids_insert hid)

theorem append (h : f.Intact s) {page : Layer} (hpage : s.Gives page.ids t)
    (hrole : page.head.role = .page) (hholds : page.holdsLayers = true) :
    Forest.Intact t (f ++ [page]) := by
  have hids : ids (f ++ [page]) = ids f ++ page.ids := by rw [ids_append, ids_singleton]
  refine ⟨h.injective.onward hpage.onward, ?_, ?_, h.pages.append (.singleton hrole hholds)⟩
  · rw [hids]
    exact (h.fresh.onward hpage.onward).append (hpage.freshFor h.injective)
  · rw [hids]
    exact h.nodup.append (hpage.nodup h.injective) (hpage.disjoint h.fresh)

/-- A layer gives way to one of its own id without other new ids. -/
theorem replace (h : f.Intact s) {target updated : Layer} (htarget : target ∈ preorder f)
    (hids : updated.ids.Sublist target.ids) (hrole : updated.head.role = target.head.role)
    (hslot : target.head.role = .page → updated.slot = target.slot) :
    Forest.Intact s (Forest.replace target.id updated f) := by
  have hsub : (ids (Forest.replace target.id updated f)).Sublist (ids f) := by
    refine ids_replace_sublist fun l hl hid => ?_
    rw [eq_of_mem_preorder h.nodup hl htarget hid]
    exact hids
  refine h.shrunk (h.nodup.sublist hsub) hsub.subset fun l hl => ?_
  rcases footing_of_mem_replace hl with ⟨rfl, m, hm, hid⟩ | ⟨m, hm, he⟩
  · obtain ⟨hpage, hholds⟩ := h.pages m hm
    have hsame := eq_of_mem_preorder h.nodup (mem_preorder_of_mem hm) htarget hid
    subst hsame
    refine ⟨hrole.trans hpage, ?_⟩
    rw [Layer.holdsLayers, hslot hpage]
    exact hholds
  · obtain ⟨hpage, hholds⟩ := h.pages m hm
    simp only [Layer.footing, Prod.mk.injEq] at he
    exact ⟨he.1.trans hpage, he.2.2.trans hholds⟩

end Forest.Intact

/-- An operation that is no patch with a list for the children of a layer. -/
def Operation.PatchesNoList : Operation → Prop
  | .updateLayer _ _ patch => ∀ v, Entries.get? patch "children" = some v → v.items? = none
  | _ => True

namespace Store

variable {st : Store} {s t : Supply} {d : Document}

theorem Patches.no_items {op : Operation} {id : String} {props patch : Entries Value}
    (h : st.Patches op id props patch) (hop : op.PatchesNoList) :
    ∀ v, Entries.get? patch "children" = some v → v.items? = none := by
  cases h with
  | updateLayer => exact hop
  | bindProp | unbindProp => simp [Entries.get?]
  | bindChildren | unbindChildren =>
    intro v hv
    cases hv
    rfl

theorem Updated.intact {id : String} {props patch : Entries Value}
    (h : st.Updated s id props patch d t)
    (hpatch : ∀ v, Entries.get? patch "children" = some v → v.items? = none)
    (hdoc : st.document.pages.Intact s) : d.pages.Intact t := by
  obtain ⟨target, updated, hmem, rfl, hupdated, -, rfl⟩ := h.exists_target
  obtain ⟨hids, hslot⟩ := Layer.ids_of_patched hupdated hpatch
  exact (hdoc.replace hmem hids (Layer.role_of_patched hupdated) hslot).onward
    (Layer.onward_patched hupdated)

/-- Every commit keeps the layer ids distinct and the pages pages. -/
theorem Commits.intact {op : Operation} (h : st.Commits s op d t)
    (hop : op.PatchesNoList)
    (hfresh : op.replaces = true → t.FreshFor (Forest.ids d.pages))
    (hdoc : st.document.pages.Intact s) : d.pages.Intact t := by
  have honward := h.onward
  cases h with
  | addLayer _ _ _ hlayer => exact hdoc.insert (gives_ofType hlayer) _ _
  | addPage => exact hdoc.append (.one s) rfl rfl
  | @duplicatePage _ page copy _ hpage hcopy =>
    have hfooting := Layer.footing_copyNamed st.config.copySuffix page s
    rw [hcopy] at hfooting
    simp only [Layer.footing, Prod.mk.injEq] at hfooting
    obtain ⟨hrole, hholds⟩ := hdoc.pages page (List.mem_of_find?_eq_some hpage)
    exact hdoc.append (Layer.gives_copyNamed hcopy) (hfooting.1.trans hrole)
      (hfooting.2.2.trans hholds)
  | duplicateLayer _ _ _ _ hcopy => exact hdoc.insert (Layer.gives_copyNamed hcopy) _ _
  | @removePage id =>
    have hsub : (st.document.pages.filter (·.id ≠ id)).Sublist st.document.pages :=
      List.filter_sublist
    have hids := Forest.ids_sublist hsub
    exact hdoc.shrunk (hdoc.nodup.sublist hids) hids.subset (hdoc.pages.subset hsub.subset)
  | @removeLayer id _ hnone =>
    have hsub := Forest.ids_without_sublist id st.document.pages
    exact hdoc.shrunk (hdoc.nodup.sublist hsub) hsub.subset
      (hdoc.pages.of_footing (Forest.map_footing_without (Document.page?_eq_none_iff.mp hnone)))
  | moveLayer hpage _ hmove =>
    have hperm := Forest.perm_ids_move hdoc.nodup hmove
    exact hdoc.shrunk (hperm.nodup_iff.mpr hdoc.nodup) hperm.subset
      (hdoc.pages.of_footing (Forest.map_footing_move (isPage_eq_false_iff.mp hpage) hmove))
  | patch hpatches h => exact h.intact (hpatches.no_items hop) hdoc
  | replaceDocument hpages _ _ _ h =>
    obtain ⟨he, -, -, -, hnodup, -⟩ := Document.assemble_eq_ok h
    exact ⟨hdoc.injective.onward honward, hfresh rfl, hnodup,
      he ▸ Pages.arePages_of_read? hpages⟩
  | @removeVariable id =>
    have hids := Forest.ids_releasedItems st.registry id st.document.pages
    exact hdoc.shrunk (hids ▸ hdoc.nodup) (hids ▸ List.Subset.refl _)
      (hdoc.pages.of_footing (Forest.map_footing_releasedItems _ _ _))
  | addVariable => exact hdoc.onward (s.onward_skip 1)
  | selectLayer | selectPage | updateVariable => exact hdoc

end Store

namespace Editor

/-- What every commit keeps of documents with distinct ids holds of all documents after a run from
an editor at the start, with new labels and without lists in patches of layers. -/
theorem kept_runAll {A : Store → Supply → Operation → Prop} {Q : Document → Prop} {e : Editor}
    (he : e.Opened) {ops : List Operation} (hfresh : e.FreshRun (fun d => Forest.ids d.pages) ops)
    (hops : e.Along A ops) (hpatch : ∀ st s op, A st s op → op.PatchesNoList)
    (hstart : Q e.document)
    (hkeeps : ∀ {st s op d t}, A st s op → Store.Commits st s op d t →
      st.document.pages.Intact s → d.pages.Intact t → Q st.document → Q d) :
    ∀ d ∈ (e.runAll ops).documents, Q d := by
  obtain ⟨hpages, -, hnodup, -⟩ := he.sound
  have hfirst : e.Holds fun s d => d.pages.Intact s ∧ Q d :=
    he.holds ⟨⟨hfresh.injective, hfresh.first, hnodup, hpages⟩, hstart⟩
  have hend : (e.runAll ops).Holds fun s d => d.pages.Intact s ∧ Q d := by
    refine holds_runAll (fun _ _ _ honward h => ⟨h.1.onward honward, h.2⟩)
      (fun st s op d t hop h heffect => ?_) (hfresh.replaced.inter hops) hfirst
    have hcommit := Store.commits_of_effect heffect
    have hintact : d.pages.Intact t := hcommit.intact (hpatch st s op hop.2)
      (fun hreplaces => hop.1 hreplaces d t heffect) h.1
    exact ⟨hintact, hkeeps hop.2 hcommit h.1 hintact h.2⟩
  exact fun d hd => (hend d hd).2

/-- Over every run from an editor at the start, with new labels and without lists in patches of
layers: in every document that the editor holds, in its store and in its history, all layer ids are
distinct and the slot of every page is a list. -/
theorem nodup_ids_runAll {e : Editor} (he : e.Opened) {ops : List Operation}
    (hfresh : e.FreshRun (fun d => Forest.ids d.pages) ops) (hops : ∀ op ∈ ops, op.PatchesNoList) :
    ∀ d ∈ (e.runAll ops).documents,
      (Forest.ids d.pages).Nodup ∧ ∀ page ∈ d.pages, page.holdsLayers = true := by
  obtain ⟨hpages, -, hnodup, -⟩ := he.sound
  have hstart : e.Holds fun s d => d.pages.Intact s :=
    he.holds ⟨hfresh.injective, hfresh.first, hnodup, hpages⟩
  have hend : (e.runAll ops).Holds fun s d => d.pages.Intact s := by
    refine holds_runAll (fun _ _ _ honward h => h.onward honward) (fun st s op d t hop hd h => ?_)
      (hfresh.replaced.and hops) hstart
    exact (Store.commits_of_effect h).intact hop.2 (fun hreplaces => hop.1 hreplaces d t h) hd
  intro d hd
  obtain ⟨-, -, hnodup, hpages⟩ := hend d hd
  exact ⟨hnodup, fun page hpage => (hpages page hpage).2⟩

/-- A layer of the default document is copied, the copy is renamed, and the name is taken back. -/
theorem nodup_ids_of_copied_box :
    let e := (start [] [] .default none .start).runAll
      [.addLayer "Box" (Supply.groupLabel 0) none, .duplicateLayer (Supply.groupLabel 1),
        .updateLayer (Supply.groupLabel 2) [] [("name", .str "Frame")], .undo]
    (Forest.ids e.document.pages).Nodup ∧ ∀ page ∈ e.document.pages, page.holdsLayers = true := by
  have hfresh : (start [] [] .default none .start).FreshRun (fun d => Forest.ids d.pages)
      [.addLayer "Box" (Supply.groupLabel 0) none, .duplicateLayer (Supply.groupLabel 1),
        .updateLayer (Supply.groupLabel 2) [] [("name", .str "Frame")], .undo] := by
    refine ⟨Supply.start_injective, (Supply.Gives.one .start).freshFor Supply.start_injective, ?_⟩
    simp [Along, Operation.LeavesFresh, Operation.replaces]
  refine nodup_ids_runAll .default hfresh ?_ _ List.mem_cons_self
  simp [Operation.PatchesNoList, Entries.get?, Value.items?]

end Editor

end LayerDoc
