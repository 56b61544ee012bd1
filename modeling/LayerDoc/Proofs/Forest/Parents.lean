import LayerDoc.Proofs.Forest.Listing
import Mathlib.Data.List.Pairwise

/-!
# Parents in forests of distinct ids

The listed ids are those of the layers at the top and those of the children of all listed layers
(`Forest.perm_ids_children`). So with distinct ids no layer is the child of two others
(`Forest.eq_of_mem_children`), and a search for its parent finds the one that it is a child of
(`Forest.parentOf?_of_mem_children`), also in the one tree that it is in
(`Forest.exists_parentOf?_of_mem`).
-/

namespace LayerDoc

/-- The ids of the child layers, in order. -/
def Layer.childIds (l : Layer) : List String := l.children.map Layer.id

theorem Layer.childIds_layers (head : Head) (items : Forest) :
    childIds (.node head (.layers items)) = items.map Layer.id := rfl

theorem Layer.childIds_leaf (head : Head) {slot : Slot Layer} (h : slot.isList = false) :
    childIds (.node head slot) = [] := by
  have hnone := children_of_holdsLayers_eq_false (l := .node head slot) h
  rw [childIds, hnone, List.map_nil]

namespace Forest

variable {f : Forest}

/-- Every listed layer is at the top or among the children of a listed layer, and counts once. -/
theorem perm_ids_children (f : Forest) :
    (ids f).Perm (f.map Layer.id ++ (preorder f).flatMap Layer.childIds) := by
  refine List.perm_iff_count.mpr fun id => ?_
  induction f using Forest.induction with
  | nil => simp
  | leaf head slot rest hslot hrest =>
    have hrest' := hrest
    simp only [List.count_append] at hrest'
    simp only [ids_cons, Layer.ids_leaf head hslot, preorder_cons, Layer.preorder_leaf head hslot,
      List.map_cons, Layer.id_node, List.flatMap_cons,
      Layer.childIds_leaf head hslot, List.nil_append, List.cons_append, List.count_cons,
      List.count_append]
    omega
  | layers head items rest hitems hrest =>
    simp only [List.count_append] at hitems hrest
    simp only [ids_cons, Layer.ids_layers, preorder_cons, Layer.preorder_layers, List.map_cons,
      Layer.id_node, List.cons_append, List.flatMap_cons, List.flatMap_append,
      Layer.childIds_layers, List.count_cons, List.count_append]
    omega

section

variable (hf : (ids f).Nodup)

include hf

/-- No two layers have a child in common. -/
theorem eq_of_mem_children {l m : Layer} (hl : l ∈ preorder f) (hm : m ∈ preorder f) {id : String}
    (hid : id ∈ l.childIds) (hid' : id ∈ m.childIds) : l = m := by
  have hparts := (perm_ids_children f).nodup_iff.mp hf
  have hpairwise := (List.nodup_flatMap.mp (List.nodup_append'.mp hparts).2.1).2
  by_contra hne
  have hsymm : Std.Symm (Function.onFun List.Disjoint Layer.childIds) :=
    ⟨fun _ _ h _ hx hy => h hy hx⟩
  have hdisjoint := hpairwise.forall hl hm hne
  exact hdisjoint hid hid'

/-- A child of a listed layer is not at the top. -/
theorem not_mem_roots_of_mem_children {l : Layer} (hl : l ∈ preorder f) {id : String}
    (hid : id ∈ l.childIds) : id ∉ f.map Layer.id := by
  have hparts := (perm_ids_children f).nodup_iff.mp hf
  exact fun hroot => (List.nodup_append'.mp hparts).2.2 hroot (List.mem_flatMap.mpr ⟨l, hl, hid⟩)

theorem nodup_childIds {l : Layer} (hl : l ∈ preorder f) : l.childIds.Nodup := by
  have hparts := (perm_ids_children f).nodup_iff.mp hf
  exact (List.nodup_flatMap.mp (List.nodup_append'.mp hparts).2.1).1 l hl

/-- The place of an id among the children of a layer. -/
theorem exists_split_of_mem_childIds {l : Layer} (hl : l ∈ preorder f) {id : String}
    (hid : id ∈ l.childIds) :
    ∃ front back, l.childIds = front ++ id :: back ∧ id ∉ front ∧ id ∉ back := by
  obtain ⟨front, back, hsplit⟩ := List.append_of_mem hid
  have hnodup := nodup_childIds hf hl
  rw [hsplit, List.nodup_middle, List.nodup_cons, List.mem_append, not_or] at hnodup
  exact ⟨front, back, hsplit, hnodup.1⟩

theorem parentOf?_of_mem_children {l : Layer} (hl : l ∈ preorder f) {id : String}
    (hid : id ∈ l.childIds) : parentOf? f id = some l := by
  cases hfind : parentOf? f id with
  | none =>
    obtain ⟨c, hc, he⟩ := List.mem_map.mp hid
    have hnone := List.find?_eq_none.mp hfind l hl
    exact absurd (List.any_eq_true.mpr ⟨c, hc, by simp [he]⟩) hnone
  | some m =>
    obtain ⟨hm, c, hc, he⟩ := parentOf?_eq_some hfind
    rw [eq_of_mem_children hf hm hl (List.mem_map.mpr ⟨c, hc, he⟩) hid]

theorem nodup_ids_of_mem {l : Layer} (hl : l ∈ f) : l.ids.Nodup := by
  have hone := hf.sublist (ids_sublist (List.singleton_sublist.mpr hl))
  rwa [ids_singleton] at hone

/-- A layer below a top layer has a parent, which a search in that tree alone finds. -/
theorem exists_parentOf?_of_mem {root l : Layer} (hroot : root ∈ f)
    (hl : l ∈ preorder root.children) :
    ∃ parent ∈ preorder f, l ∈ parent.children ∧ parentOf? [root] l.id = some parent := by
  obtain ⟨parent, hbelow, hchild⟩ : ∃ parent ∈ root.preorder, l ∈ parent.children := by
    rcases mem_or_exists_parent hl with htop | ⟨parent, hparent, hchild⟩
    · exact ⟨root, root.mem_preorder_self, htop⟩
    · exact ⟨parent, by rw [Layer.preorder_eq]; exact List.mem_cons_of_mem _ hparent, hchild⟩
  have hone : (ids [root]).Nodup := by
    rw [ids_singleton]
    exact nodup_ids_of_mem hf hroot
  exact ⟨parent, (preorder_sublist_of_mem (mem_preorder_of_mem hroot)).subset hbelow, hchild,
    parentOf?_of_mem_children hone (by simpa using hbelow) (List.mem_map_of_mem hchild)⟩

end

end Forest

end LayerDoc
