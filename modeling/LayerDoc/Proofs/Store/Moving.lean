import LayerDoc.Proofs.Forest.Moving
import LayerDoc.Store.Layers

/-!
# Moves in the store

A move that the store refuses leaves the document as it is, and says why. `Store.Immovable` lists
the reasons; there are no others, and without one the move relocates the layer
(`Store.relocates_or_refuses`).
-/

namespace LayerDoc.Store

/-- Why a layer cannot be moved under a parent. -/
inductive Immovable (st : Store) (id parent : String) : Prop
  | page {page : Layer} (hpage : page ∈ st.document.pages) (hid : page.id = id)
  | unknown (hid : id ∉ Forest.ids st.document.pages)
  | parentUnknown (hparent : parent ∉ Forest.ids st.document.pages)
  | parentHoldsNoLayers {target : Layer} (htarget : target ∈ Forest.preorder st.document.pages)
      (hparent : target.id = parent) (hholds : target.holdsLayers = false)
  /-- The parent is the layer itself or lies below it. -/
  | parentInside {layer : Layer} (hlayer : layer ∈ Forest.preorder st.document.pages)
      (hid : layer.id = id) (hparent : parent ∈ layer.ids)
  /-- The type of the layer has a list of parents, and that of the parent is not in it. -/
  | notAllowed {layer target : Layer} {entry : RegistryEntry} {allowed : List String}
      (hlayer : layer ∈ Forest.preorder st.document.pages) (hid : layer.id = id)
      (htarget : target ∈ Forest.preorder st.document.pages) (hparent : target.id = parent)
      (hentry : Entries.get? st.registry layer.type = some entry)
      (hallowed : entry.childOf = some allowed) (hother : target.type ∉ allowed)

variable {st : Store} {id parent : String} {position : Option Int}

theorem nestingProblem?_eq_some {type : String} {target : Layer} {warning : Warning}
    (h : st.nestingProblem? type target = some warning) :
    ∃ entry allowed, Entries.get? st.registry type = some entry ∧ entry.childOf = some allowed ∧
      target.type ∉ allowed := by
  unfold nestingProblem? at h
  split at h
  · next allowed hallowed =>
    obtain ⟨entry, hentry, hchildOf⟩ := Option.bind_eq_some_iff.mp hallowed
    split at h
    · cases h
    · next hother =>
      exact ⟨entry, allowed, hentry, hchildOf, by simpa using hother⟩
  · cases h

/-- What is known of a layer and a parent between which nothing stands in the way of a move. -/
theorem movable_of_not_immovable (h : ¬ st.Immovable id parent) :
    st.isPage id = false ∧ ∃ layer target,
      Forest.find? st.document.pages id = some layer ∧
      Forest.find? st.document.pages parent = some target ∧
      target.holdsLayers = true ∧ parent ∉ layer.ids ∧
      st.nestingProblem? layer.type target = none := by
  have hpage : st.isPage id = false := by
    by_contra hpage
    rw [Bool.not_eq_false, isPage, List.any_eq_true] at hpage
    obtain ⟨page, hmem, hid⟩ := hpage
    exact h (.page hmem (by simpa using hid))
  refine ⟨hpage, ?_⟩
  cases hlayer : Forest.find? st.document.pages id with
  | none => exact absurd (.unknown (Forest.find?_eq_none_iff.mp hlayer)) h
  | some layer =>
    cases htarget : Forest.find? st.document.pages parent with
    | none => exact absurd (.parentUnknown (Forest.find?_eq_none_iff.mp htarget)) h
    | some target =>
      obtain ⟨hmem, hid⟩ := Forest.find?_eq_some hlayer
      obtain ⟨htargetmem, hparent⟩ := Forest.find?_eq_some htarget
      refine ⟨layer, target, rfl, rfl, ?_, ?_, ?_⟩
      · by_contra hholds
        exact h (.parentHoldsNoLayers htargetmem hparent (by simpa using hholds))
      · exact fun hinside => h (.parentInside hmem hid hinside)
      · by_contra hproblem
        obtain ⟨warning, hwarning⟩ := Option.ne_none_iff_exists'.mp hproblem
        obtain ⟨entry, allowed, hentry, hallowed, hother⟩ := nestingProblem?_eq_some hwarning
        exact h (.notAllowed hmem hid htargetmem hparent hentry hallowed hother)

theorem moveLayer_of_not_immovable (h : ¬ st.Immovable id parent) (s : Supply)
    (position : Option Int) :
    ∃ pages, Forest.move? st.document.pages id parent position = some pages ∧
      st.moveLayer s id parent position =
        Edit.commit () { st.document with pages := pages } s [] := by
  obtain ⟨hpage, layer, target, hlayer, htarget, hholds, hout, hnest⟩ := movable_of_not_immovable h
  have hmove : ∃ pages, Forest.move? st.document.pages id parent position = some pages := by
    have hcontains : layer.ids.contains parent = false := by simpa using hout
    simp only [Forest.move?, hlayer, htarget, hholds, hcontains, Bool.not_true, Bool.or_self,
      Bool.false_eq_true, if_false, Option.some.injEq, exists_eq']
  obtain ⟨pages, hpages⟩ := hmove
  refine ⟨pages, hpages, ?_⟩
  simp only [moveLayer, hpage, hlayer, htarget, hnest, hpages, Bool.false_eq_true, if_false]

/-- With distinct ids the layers that are found are the ones that the reasons speak of. -/
theorem not_immovable_of_movable (hids : (Forest.ids st.document.pages).Nodup)
    {layer target : Layer}
    (hpage : st.isPage id = false) (hlayer : Forest.find? st.document.pages id = some layer)
    (htarget : Forest.find? st.document.pages parent = some target)
    (hholds : target.holdsLayers = true) (hout : parent ∉ layer.ids)
    (hnest : st.nestingProblem? layer.type target = none) : ¬ st.Immovable id parent := by
  have hfound : ∀ {l l' : Layer} {id : String}, l ∈ Forest.preorder st.document.pages →
      l.id = id → Forest.find? st.document.pages id = some l' → l' = l := by
    intro l l' id hl hid hl'
    have hself := Forest.find?_of_mem hids hl
    rw [hid] at hself
    exact Option.some.inj (hl'.symm.trans hself)
  intro h
  cases h with
  | page hmem hid =>
    rw [isPage, List.any_eq_false] at hpage
    exact hpage _ hmem (by simpa using hid)
  | unknown hid =>
    rw [Forest.find?_eq_none_iff.mpr hid] at hlayer
    cases hlayer
  | parentUnknown hparent =>
    rw [Forest.find?_eq_none_iff.mpr hparent] at htarget
    cases htarget
  | parentHoldsNoLayers hmem hparent hleaf =>
    rw [hfound hmem hparent htarget, hleaf] at hholds
    cases hholds
  | parentInside hmem hid hinside =>
    rw [hfound hmem hid hlayer] at hout
    exact hout hinside
  | notAllowed hmem hid htargetmem hparent hentry hallowed hother =>
    rw [hfound hmem hid hlayer, hfound htargetmem hparent htarget] at hnest
    simp [nestingProblem?, hentry, hallowed, hother] at hnest

theorem moveLayer_of_immovable (hids : (Forest.ids st.document.pages).Nodup)
    (h : st.Immovable id parent) (s : Supply) (position : Option Int) :
    ∃ warning, st.moveLayer s id parent position = Edit.refuse () s warning := by
  unfold moveLayer
  dsimp only
  by_cases hpage : st.isPage id = true
  · exact ⟨_, if_pos hpage⟩
  · rw [if_neg hpage]
    split
    · exact ⟨_, rfl⟩
    · next hnest =>
      split
      · exact ⟨_, rfl⟩
      · next pages hmove =>
        -- a move that is made finds the layer and the parent, and nothing is wrong with either
        obtain ⟨layer, target, -, hlayer, htarget, hholds, hout, -⟩ :=
          Forest.exists_shifted_of_move hmove
        simp only [hlayer, htarget] at hnest
        exact absurd h
          (not_immovable_of_movable hids (by simpa using hpage) hlayer htarget hholds hout
          hnest)

/-- In a document of distinct ids a move is refused, with a warning and without a commit, exactly if
the layer is a page or unknown, the parent is unknown, has no list of children or lies in the layer,
or the type of the layer does not allow it. Any other move relocates the layer to the slot that is
asked for and changes nothing else. -/
theorem relocates_or_refuses (hids : (Forest.ids st.document.pages).Nodup) (s : Supply)
    (id parent : String) (position : Option Int) :
    (st.Immovable id parent ∧
      ∃ warning, st.moveLayer s id parent position = Edit.refuse () s warning) ∨
    (¬ st.Immovable id parent ∧ ∃ pages,
      st.moveLayer s id parent position =
        Edit.commit () { st.document with pages := pages } s [] ∧
      Forest.Relocates st.document.pages pages id parent position) := by
  by_cases h : st.Immovable id parent
  · exact Or.inl ⟨h, moveLayer_of_immovable hids h s position⟩
  · obtain ⟨pages, hmove, hcommit⟩ := moveLayer_of_not_immovable h s position
    have hroot : ∀ page ∈ st.document.pages, page.id ≠ id :=
      fun page hpage hid => h (.page hpage hid)
    exact Or.inr ⟨h, pages, hcommit, Forest.relocates_of_move hids hroot hmove⟩

/-- The first of three boxes is moved to the third slot, and comes to stand between the others. -/
theorem relocates_first_of_three :
    let box (id : String) (items : Forest) : Layer :=
      .node ⟨.component, id, "Box", none, [], []⟩ (.layers items)
    let pages : Forest := [.node ⟨.page, "p", "Page", none, [], []⟩
      (.layers [box "a" [box "x" []], box "b" [], box "c" []])]
    let st : Store := ⟨[("Box", ⟨[], none, false, none, [], [], some ["Page", "Box"]⟩)], [],
      .default, ⟨pages, "p", none, []⟩⟩
    (Forest.ids pages).Nodup ∧ ∃ moved,
      st.moveLayer .start "a" "p" (some 2) =
        Edit.commit () { st.document with pages := moved } .start [] ∧
      Forest.Relocates pages moved "a" "p" (some 2) ∧
      Forest.ids moved = ["p", "b", "a", "x", "c"] := by
  intro box pages st
  have hids : (Forest.ids st.document.pages).Nodup := by decide
  have hids' : ((st.moveLayer .start "a" "p" (some 2)).committed.map fun d => Forest.ids d.pages) =
      some ["p", "b", "a", "x", "c"] := by decide
  rcases relocates_or_refuses hids .start "a" "p" (some 2) with
    ⟨-, warning, hrefuse⟩ | ⟨-, moved, hcommit, hrelocates⟩
  · rw [hrefuse] at hids'
    cases hids'
  · rw [hcommit] at hids'
    exact ⟨hids, moved, hcommit, hrelocates, Option.some.inj hids'⟩

end LayerDoc.Store
