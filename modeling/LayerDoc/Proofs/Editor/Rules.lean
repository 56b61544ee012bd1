import LayerDoc.Proofs.Editor.LayerIds
import LayerDoc.Proofs.Forest.Linked

/-!
# Rules under commits

A rule between layers and their parents is kept by every commit (`Store.Commits.linked`) if the
store upholds it (`Store.Upholds`): it holds of what the store makes anew, of a layer that moves to
where its type may stand, and when the bindings to a variable go. Patches of layers and documents
that are brought in have to keep the rule themselves.
-/

namespace LayerDoc

/-- The pages that an operation brings to start over with. -/
def Operation.given? : Operation → Option Store.Pages
  | .replaceDocument pages _ _ _ => some pages
  | _ => none

namespace Store

/-- A rule that holds of what the store brings about on its own. -/
structure Upholds (st : Store) (R : Forest.Rule) : Prop where
  anonymous : R.Anonymous
  newLayer : ∀ {type target layer warnings} {s t : Supply},
    st.nestingProblem? type target = none →
    Layer.ofType type (Entries.get? st.registry type) s = (layer, warnings, t) →
    Forest.Linked R (some target.head) [layer]
  newPage : ∀ id name, R none ⟨.page, id, st.config.pageType, name,
    Entries.mapValues PropValue.ofValue st.config.defaultPageProps, []⟩
  moved : ∀ {parent : Head} {layer target : Layer}, R (some parent) layer.head →
    st.nestingProblem? layer.type target = none → R (some target.head) layer.head
  released : ∀ variableId q c, R q c →
    R (q.map (Layer.releasedHead st.registry variableId))
      (Layer.releasedHead st.registry variableId c)

variable {st : Store} {s t : Supply} {d : Document} {R : Forest.Rule}

theorem Updated.linked {id : String} {props patch : Entries Value}
    (h : st.Updated s id props patch d t)
    (hpatch : ∀ {target updated t}, target ∈ Forest.preorder st.document.pages → target.id = id →
      target.patched props patch s = some (updated, t) →
      ∀ q, Forest.Linked R q [target] → Forest.Linked R q [updated])
    (hnodup : (Forest.ids st.document.pages).Nodup)
    (hdoc : Forest.Linked R none st.document.pages) : Forest.Linked R none d.pages := by
  obtain ⟨target, updated, hmem, rfl, hupdated, -, rfl⟩ := h.exists_target
  refine hdoc.replace fun l hl hid q hq => ?_
  rw [Forest.eq_of_mem_preorder hnodup hl hmem hid] at hq
  exact hpatch hmem rfl hupdated q (Forest.linked_singleton.mpr ⟨hq, hdoc.below hmem⟩)

/-- The parent that a copied layer is put under is the one that the layer stands under. -/
theorem linked_of_parentOf? {id : String} {page layer parent : Layer}
    (hnodup : (Forest.ids st.document.pages).Nodup)
    (hlayer : st.document.layer? id = some layer) (hpage : st.document.currentPage? = some page)
    (hparent : Forest.parentOf? [page] id = some parent)
    (hdoc : Forest.Linked R none st.document.pages) :
    parent ∈ Forest.preorder st.document.pages ∧ Forest.Linked R (some parent.head) [layer] := by
  obtain ⟨hbelow, child, hchild, hid⟩ := Forest.parentOf?_eq_some hparent
  obtain ⟨hmem, hlayerId⟩ := Document.layer?_eq_some hlayer
  have hpages := Forest.mem_preorder_of_mem (Document.page?_eq_some hpage).1
  rw [Forest.preorder_cons, Forest.preorder_nil, List.append_nil] at hbelow
  have hmemParent := (Forest.preorder_sublist_of_mem hpages).subset hbelow
  have hsame : child = layer := Forest.eq_of_mem_preorder hnodup
    (Forest.mem_preorder_of_mem_children hmemParent hchild) hmem (hid.trans hlayerId.symm)
  refine ⟨hmemParent, Forest.linked_singleton.mpr ⟨?_, hdoc.below hmem⟩⟩
  exact hsame ▸ hdoc.2 parent hmemParent child hchild

/-- Every commit keeps a rule that the store upholds, if patches and the pages that are brought in
do. -/
theorem Commits.linked {op : Operation} (h : st.Commits s op d t) (hR : st.Upholds R)
    (hpatch : ∀ {id props patch target updated t}, st.Patches op id props patch →
      target ∈ Forest.preorder st.document.pages → target.id = id →
      target.patched props patch s = some (updated, t) →
      ∀ q, Forest.Linked R q [target] → Forest.Linked R q [updated])
    (hgiven : ∀ pages forest t, op.given? = some pages → pages.read? s = some (forest, t) →
      Forest.Linked R none forest)
    (hnodup : (Forest.ids st.document.pages).Nodup)
    (hdoc : Forest.Linked R none st.document.pages) : Forest.Linked R none d.pages := by
  cases h with
  | addLayer htarget hholds hnest hlayer =>
    obtain ⟨hmem, hid⟩ := Forest.find?_eq_some htarget
    refine hdoc.insert fun l hl hsame _ => ?_
    rw [Forest.eq_of_mem_preorder hnodup hl hmem (hsame.trans hid.symm)]
    exact hR.newLayer hnest hlayer
  | addPage =>
    refine Forest.linked_append.mpr ⟨hdoc, Forest.linked_singleton.mpr ⟨hR.newPage _ _, ?_⟩⟩
    exact Forest.linked_nil
  | duplicatePage hpage hcopy =>
    have hlinked := Forest.linked_iff_forall_mem.mp hdoc _ (Document.page?_eq_some hpage).1
    have hcopied := hlinked.copyNamed hR.anonymous st.config.copySuffix s
    rw [hcopy] at hcopied
    exact Forest.linked_append.mpr ⟨hdoc, hcopied⟩
  | duplicateLayer _ hlayer hpage hparent hcopy =>
    obtain ⟨hmem, hlinked⟩ := linked_of_parentOf? hnodup hlayer hpage hparent hdoc
    have hcopied := hlinked.copyNamed hR.anonymous st.config.copySuffix s
    rw [hcopy] at hcopied
    refine hdoc.insert fun l hl hsame _ => ?_
    rw [Forest.eq_of_mem_preorder hnodup hl hmem hsame]
    exact hcopied
  | removePage => exact hdoc.subset List.filter_sublist.subset
  | removeLayer => exact hdoc.without _
  | moveLayer hpage hnest hmove =>
    refine hdoc.move hnodup hmove fun layer host hlayer hhost => ?_
    obtain ⟨hmem, hid⟩ := Forest.find?_eq_some hlayer
    -- what is no page stands under a parent already
    rcases Forest.mem_or_exists_parent hmem with htop | ⟨parent, hparent, hchild⟩
    · exact absurd hid (isPage_eq_false_iff.mp hpage layer htop)
    · exact hR.moved (hdoc.2 parent hparent layer hchild) (hnest layer host hlayer hhost)
  | replaceDocument hpages _ _ _ h =>
    obtain ⟨hforest, -⟩ := Document.assemble_eq_ok h
    rw [hforest]
    exact hgiven _ _ _ rfl hpages
  | patch hpatches h => exact h.linked (hpatch hpatches) hnodup hdoc
  | removeVariable => exact hdoc.releasedItems (hR.released _)
  | selectLayer | selectPage | addVariable | updateVariable => exact hdoc

end Store

end LayerDoc
