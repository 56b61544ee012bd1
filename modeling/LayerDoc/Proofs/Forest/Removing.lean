import LayerDoc.Proofs.Forest.Moving

/-!
# What is taken out of a forest

Layers can be taken out of a forest from the top down, where each layer loses children before those
that are left are visited (`Forest.takenOut`). Whatever ids are repeated, this comes to the forest
in which every layer with the id is left out with all that is below it
(`Forest.takenOut_eq_without`), so the id is not found in it any more (`Forest.find?_without`). In a
forest of distinct ids exactly one tree is lost (`Forest.Loses`, `Forest.loses_without`): what is
listed are the other ids in their order, and no other layer changes but the one that had the tree
among its children.
-/

namespace LayerDoc

/-! ## Visits -/

/-- A change of single layers after which there are no more layers below a layer than before. -/
structure Visitor where
  change : Layer → Layer
  count_le : ∀ l, Forest.count (change l).children ≤ Forest.count l.children

theorem Forest.length_preorder_le {f : Forest} {l : Layer} (h : l ∈ f) :
    l.preorder.length ≤ count f :=
  (preorder_sublist_of_mem (mem_preorder_of_mem h)).length_le

theorem Visitor.length_preorder_lt (v : Visitor) {l c : Layer} (h : c ∈ (v.change l).children) :
    c.preorder.length < l.preorder.length := by
  have hchild := (Forest.length_preorder_le h).trans (v.count_le l)
  rw [l.preorder_eq, List.length_cons]
  exact Nat.lt_succ_of_le hchild

/-- Change a layer and then visit the layers that it has as children after the change. -/
def Layer.visit (v : Visitor) (l : Layer) : Layer :=
  match _ : v.change l with
  | .node head (.layers items) => .node head (.layers (items.attach.map fun c => c.1.visit v))
  | .node head slot => .node head slot
termination_by l.preorder.length
decreasing_by
  rename_i hchange
  refine v.length_preorder_lt ?_
  rw [hchange]
  exact c.2

namespace Layer

variable {v : Visitor} {l : Layer}

theorem visit_layers {head : Head} {items : Forest} (h : v.change l = .node head (.layers items)) :
    l.visit v = .node head (.layers (items.map (visit v))) := by
  rw [visit]
  split
  · next h' =>
    rw [h] at h'
    cases h'
    rw [List.attach_map_val]
  · next hleaf h' =>
    rw [h] at h'
    cases h'
    exact absurd rfl (hleaf items)

theorem visit_leaf (h : (v.change l).holdsLayers = false) : l.visit v = v.change l := by
  rw [visit]
  split
  · next h' =>
    rw [h'] at h
    cases h
  · next h' => exact h'.symm

/-- A layer without its children that have an id, if there are such children. -/
def withoutChild (id : String) (l : Layer) : Layer :=
  if l.children.any (·.id == id) then l.withSlot (.layers (l.children.filter (·.id ≠ id))) else l

theorem withoutChild_layers (id : String) (head : Head) (items : Forest) :
    withoutChild id (.node head (.layers items)) =
      .node head (.layers (items.filter (·.id ≠ id))) := by
  rw [withoutChild]
  split
  · rfl
  · next hnone =>
    have hall : ∀ c ∈ items, c.id ≠ id := by simpa using hnone
    have hsame : items.filter (·.id ≠ id) = items := List.filter_eq_self.mpr (by simpa using hall)
    rw [hsame]

theorem withoutChild_of_leaf (id : String) (h : l.holdsLayers = false) : l.withoutChild id = l := by
  rw [withoutChild, children_of_holdsLayers_eq_false h]
  rfl

end Layer

/-- The change that takes the children with an id away from a layer. -/
def Visitor.withoutChild (id : String) : Visitor where
  change := Layer.withoutChild id
  count_le l := by
    obtain ⟨head, slot⟩ := l
    cases hslot : slot.isList with
    | true =>
      cases slot with
      | layers items =>
        have hfewer :=
          (Forest.ids_sublist (List.filter_sublist (p := (·.id ≠ id)) (l := items))).length_le
        rw [Layer.withoutChild_layers]
        simpa [Forest.ids, Forest.count] using hfewer
      | text content | bound variableId => cases hslot
    | false =>
      have hleaf : Layer.holdsLayers (.node head slot) = false := hslot
      rw [Layer.withoutChild_of_leaf id hleaf]

namespace Forest

/-- A forest without the layers that have an id, from the top down: first those at the top go, and
then each layer that is visited loses its children with the id before they are visited. -/
def takenOut (id : String) (f : Forest) : Forest :=
  (f.filter (·.id ≠ id)).map (Layer.visit (.withoutChild id))

theorem takenOut_cons (id : String) (l : Layer) (rest : Forest) :
    takenOut id (l :: rest) =
      if l.id = id then takenOut id rest
      else l.visit (.withoutChild id) :: takenOut id rest := by
  unfold takenOut
  by_cases h : l.id = id
  · rw [if_pos h, List.filter_cons_of_neg (by simpa using h)]
  · rw [if_neg h, List.filter_cons_of_pos (by simpa using h), List.map_cons]

/-- To take out from the top down is to leave out every layer with the id, at any depth, with all
that is below it. -/
theorem takenOut_eq_without (id : String) (f : Forest) : takenOut id f = without id f := by
  induction f using Forest.induction with
  | nil => rfl
  | leaf head slot rest hslot hrest =>
    have hsame : (Visitor.withoutChild id).change (.node head slot) = .node head slot :=
      Layer.withoutChild_of_leaf id hslot
    rw [takenOut_cons, without_leaf _ _ hslot, hrest, Layer.visit_leaf (by rw [hsame]; exact hslot),
      hsame, Layer.id_node]
  | layers head items rest hitems hrest =>
    have hchange := Layer.withoutChild_layers id head items
    have hvisit := Layer.visit_layers (v := Visitor.withoutChild id) hchange
    rw [takenOut_cons, without_layers, hrest, hvisit, Layer.id_node, ← hitems, takenOut]

/-! ## What is lost -/

theorem find?_without (id : String) (f : Forest) : find? (without id f) id = none := by
  refine find?_eq_none_iff.mpr fun hmem => ?_
  obtain ⟨m, hm, hid⟩ := mem_ids_iff.mp hmem
  obtain ⟨l, -, hne, rfl⟩ := mem_preorder_without hm
  exact hne ((sameButChildren_withoutIn id l).id_eq.symm.trans hid)

theorem withoutIn_of_not_mem {id : String} {l : Layer} (h : id ∉ l.ids) : withoutIn id l = l := by
  have hone : without id [l] = [l] := without_of_not_mem (by rwa [ids_singleton])
  have hne : l.id ≠ id := fun he => h (he ▸ l.id_mem_ids)
  rw [without_cons, if_neg hne] at hone
  exact List.head_eq_of_cons_eq hone

/-- A part of a list without repetition, in its order, holds what it has of the list. -/
theorem eq_filter_of_sublist {xs ys : List String} (h : xs.Sublist ys) (hys : ys.Nodup)
    {p : String → Bool} (hp : ∀ y ∈ ys, y ∈ xs ↔ p y = true) : xs = ys.filter p := by
  have hkept : xs.filter p = xs :=
    List.filter_eq_self.mpr fun x hx => (hp x (h.subset hx)).mp hx
  have hsub : xs.Sublist (ys.filter p) := hkept ▸ h.filter p
  refine hsub.eq_of_length_le ((hys.filter p).subperm fun y hy => ?_).length_le
  obtain ⟨hmem, hpy⟩ := List.mem_filter.mp hy
  exact (hp y hmem).mpr hpy

variable {f g : Forest} {layer : Layer}

/-- A forest before and after a layer below its top went with all that is below it. -/
structure Loses (f g : Forest) (layer : Layer) : Prop where
  ids : ids g = (ids f).filter (· ∉ layer.ids)
  sameRoots : g.map Layer.id = f.map Layer.id
  /-- The one layer that had it among its children has the others, in order. -/
  parent : ∃ parent ∈ preorder f, ∃ front back, parent.childIds = front ++ layer.id :: back ∧
    ∃ m, find? g parent.id = some m ∧ parent.SameButChildren m ∧ m.childIds = front ++ back
  /-- Any other layer that is left keeps its attributes and its children in order. If the layer was
  not below it, then all that is below it is as it was. -/
  others : ∀ l ∈ preorder f, l.id ∉ layer.ids → layer.id ∉ l.childIds → ∃ m,
    find? g l.id = some m ∧ l.SameButChildren m ∧ m.childIds = l.childIds ∧
      (layer.id ∉ l.ids → m = l)

theorem not_mem_ids_children (hf : (ids f).Nodup) {l : Layer} (hl : l ∈ preorder f) :
    l.id ∉ ids l.children := by
  have hself : l.ids.Nodup := hf.sublist ((preorder_sublist_of_mem hl).map Layer.id)
  rw [Layer.ids_eq, List.nodup_cons] at hself
  exact hself.1

/-- What is listed when a layer is taken out of a forest of distinct ids. -/
theorem ids_without_of_mem (hf : (ids f).Nodup) (hlayer : layer ∈ preorder f) :
    ids (without layer.id f) = (ids f).filter (· ∉ layer.ids) := by
  have hperm := perm_ids_without hf hlayer
  have hparts := List.nodup_append'.mp (hperm.nodup_iff.mp hf)
  refine eq_filter_of_sublist (ids_without_sublist layer.id f) hf fun id hid => ?_
  rw [decide_eq_true_eq]
  constructor
  · exact fun hleft hgone => hparts.2.2 hgone hleft
  · exact fun hleft => (List.mem_append.mp (hperm.subset hid)).resolve_left hleft

/-- In a forest of distinct ids a layer that is not at its top goes with all that is below it, and
with nothing else. -/
theorem loses_without (hf : (ids f).Nodup) (hlayer : layer ∈ preorder f)
    (hroot : ∀ l ∈ f, l.id ≠ layer.id) : Loses f (without layer.id f) layer := by
  have hg : (ids (without layer.id f)).Nodup := hf.sublist (ids_without_sublist layer.id f)
  -- what is left of a layer outside of the one that goes
  have hfound : ∀ l ∈ preorder f, l.id ∉ layer.ids →
      find? (without layer.id f) l.id = some (withoutIn layer.id l) := by
    intro l hl hout
    have hleft := find?_of_mem hg (withoutIn_mem_preorder hf hlayer hl hout)
    rwa [(sameButChildren_withoutIn layer.id l).id_eq] at hleft
  refine ⟨ids_without_of_mem hf hlayer, ?_, ?_, fun l hl hout hchild => ?_⟩
  · rw [map_id_without]
    exact filter_ne_of_not_mem fun hmem =>
      let ⟨l, hl, hid⟩ := List.mem_map.mp hmem
      hroot l hl hid
  · obtain ⟨parent, hparent, hchild⟩ :=
      (mem_or_exists_parent hlayer).resolve_left fun htop => hroot layer htop rfl
    obtain ⟨front, back, hchildren, hfront, hback⟩ :=
      exists_split_of_mem_childIds hf hparent (List.mem_map_of_mem hchild)
    have hbelow : layer.ids ⊆ ids parent.children := by
      rw [← ids_singleton]
      exact (ids_sublist (List.singleton_sublist.mpr hchild)).subset
    have hout : parent.id ∉ layer.ids :=
      fun hmem => not_mem_ids_children hf hparent (hbelow hmem)
    refine ⟨parent, hparent, front, back, hchildren, _, hfound parent hparent hout,
      sameButChildren_withoutIn layer.id parent, ?_⟩
    rw [childIds_withoutIn, hchildren, filter_ne_split hfront hback]
  · refine ⟨_, hfound l hl hout, sameButChildren_withoutIn layer.id l, ?_, withoutIn_of_not_mem⟩
    rw [childIds_withoutIn, filter_ne_of_not_mem hchild]

end Forest

end LayerDoc
