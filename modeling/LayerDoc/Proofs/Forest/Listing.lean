import LayerDoc.Forest.Basic
import Mathlib.Data.List.Flatten
import Mathlib.Data.List.Nodup
import Mathlib.Data.List.Perm.Basic

/-!
# Listings of forests

The preorder listing is the view through which edits of a forest are described. This file has the
induction principle for forests, the listing and the ids of each kind of forest, and what the
searches find in terms of the listing:

* `Forest.induction`: a forest is empty, or its first layer has a list of layers below it, or it
  has none.
* `Forest.find?_eq_some` and `Forest.find?_eq_none_iff`: a search finds a listed layer, and it
  fails exactly on an id that does not occur.
* `Forest.eq_of_mem_preorder`: in a forest of distinct ids the id determines the layer.
-/

namespace LayerDoc

namespace Forest

/-- Induction over forests. -/
@[elab_as_elim]
theorem induction {P : Forest → Prop} (nil : P [])
    (layers : ∀ head items rest, P items → P rest → P (.node head (.layers items) :: rest))
    (leaf : ∀ head slot rest, slot.isList = false → P rest → P (.node head slot :: rest))
    (f : Forest) : P f := by
  refine Forest.preorder.induct (fun l => ∀ rest, P rest → P (l :: rest)) P ?_ ?_ nil ?_ f
  · intro head items hitems rest hrest
    exact layers head items rest hitems hrest
  · intro head slot hslot rest hrest
    refine leaf head slot rest ?_ hrest
    cases slot with
    | layers items => exact (hslot items rfl).elim
    | text content => rfl
    | bound variableId => rfl
  · intro l rest hl hrest
    exact hl rest hrest

end Forest

/-! ## The listing of each kind of layer -/

namespace Layer

@[simp] theorem preorder_layers (head : Head) (items : Forest) :
    preorder (.node head (.layers items)) =
      .node head (.layers items) :: Forest.preorder items := by
  rw [preorder]

theorem preorder_leaf (head : Head) {slot : Slot Layer} (h : slot.isList = false) :
    preorder (.node head slot) = [.node head slot] := by
  cases slot with
  | layers items => simp [Slot.isList] at h
  | text content => rw [preorder]; simp
  | bound variableId => rw [preorder]; simp

@[simp] theorem children_layers (head : Head) (items : Forest) :
    children (.node head (.layers items)) = items := rfl

@[simp] theorem id_node (head : Head) (slot : Slot Layer) : id (.node head slot) = head.id := rfl

/-- A layer is listed before all that is below it. -/
theorem preorder_eq (l : Layer) : l.preorder = l :: Forest.preorder l.children := by
  obtain ⟨head, slot⟩ := l
  cases slot with
  | layers items => exact preorder_layers head items
  | text content => exact preorder_leaf head rfl
  | bound variableId => exact preorder_leaf head rfl

theorem ids_eq (l : Layer) : l.ids = l.id :: Forest.ids l.children := by
  rw [ids, preorder_eq, List.map_cons, Forest.ids]

@[simp] theorem ids_layers (head : Head) (items : Forest) :
    ids (.node head (.layers items)) = head.id :: Forest.ids items := ids_eq _

theorem ids_leaf (head : Head) {slot : Slot Layer} (h : slot.isList = false) :
    ids (.node head slot) = [head.id] := by
  simp [ids, preorder_leaf head h]

theorem ids_of_holdsLayers_eq_false {l : Layer} (h : l.holdsLayers = false) : l.ids = [l.id] := by
  obtain ⟨head, slot⟩ := l
  exact ids_leaf head h

theorem children_of_holdsLayers_eq_false {l : Layer} (h : l.holdsLayers = false) :
    l.children = [] := by
  obtain ⟨head, slot⟩ := l
  cases slot with
  | layers items => cases h
  | text content => rfl
  | bound variableId => rfl

theorem holdsLayers_of_mem_children {l c : Layer} (h : c ∈ l.children) : l.holdsLayers = true := by
  by_contra hleaf
  rw [children_of_holdsLayers_eq_false (by simpa using hleaf)] at h
  cases h

theorem reference?_of_holdsLayers {l : Layer} (h : l.holdsLayers = true) :
    l.slot.reference? = none := by
  obtain ⟨head, slot⟩ := l
  cases slot with
  | layers items => rfl
  | text content => cases h
  | bound variableId => cases h

/-- A slot that refers to a variable is no list. -/
theorem holdsLayers_of_reference? {l : Layer} {variableId : String}
    (h : l.slot.reference? = some variableId) : l.holdsLayers = false := by
  by_contra hholds
  rw [reference?_of_holdsLayers (by simpa using hholds)] at h
  cases h

/-- The ids of a layer depend on its id and its slot only. -/
theorem ids_eq_of_slot_eq {l m : Layer} (hid : l.id = m.id) (hslot : l.slot = m.slot) :
    l.ids = m.ids := by
  rw [ids_eq, ids_eq, hid, children, children, hslot]

theorem mem_preorder_self (l : Layer) : l ∈ l.preorder := by
  rw [preorder_eq]
  exact List.mem_cons_self

theorem id_mem_ids (l : Layer) : l.id ∈ l.ids := List.mem_map_of_mem l.mem_preorder_self

end Layer

namespace Forest

@[simp] theorem preorder_nil : preorder [] = [] := by rw [preorder]

@[simp] theorem preorder_cons (l : Layer) (rest : Forest) :
    preorder (l :: rest) = l.preorder ++ preorder rest := by rw [preorder]

theorem preorder_append (f g : Forest) : preorder (f ++ g) = preorder f ++ preorder g := by
  induction f with
  | nil => simp
  | cons l rest ih => simp [ih]

@[simp] theorem ids_nil : ids [] = [] := by simp [ids]

@[simp] theorem ids_cons (l : Layer) (rest : Forest) : ids (l :: rest) = l.ids ++ ids rest := by
  simp [ids, Layer.ids]

theorem ids_eq_flatMap (f : Forest) : ids f = f.flatMap Layer.ids := by
  induction f with
  | nil => simp
  | cons l rest ih => simp [ih]

@[simp] theorem ids_append (f g : Forest) : ids (f ++ g) = ids f ++ ids g := by
  simp [ids_eq_flatMap]

theorem ids_sublist {f g : Forest} (h : f.Sublist g) : (ids f).Sublist (ids g) := by
  rw [ids_eq_flatMap, ids_eq_flatMap]
  exact h.flatMap _

theorem ids_singleton (l : Layer) : ids [l] = l.ids := by simp

theorem roots_sublist_ids (f : Forest) : (f.map Layer.id).Sublist (ids f) := by
  induction f with
  | nil => simp
  | cons l rest ih =>
    rw [List.map_cons, ids_cons]
    exact (List.singleton_sublist.mpr l.id_mem_ids).append ih

/-! ## What is listed -/

theorem mem_preorder_of_mem {f : Forest} {l : Layer} (h : l ∈ f) : l ∈ preorder f := by
  induction f with
  | nil => simp at h
  | cons first rest ih =>
    rw [preorder_cons, List.mem_append]
    rcases List.mem_cons.mp h with rfl | h
    · exact Or.inl l.mem_preorder_self
    · exact Or.inr (ih h)

theorem mem_ids_iff {f : Forest} {id : String} : id ∈ ids f ↔ ∃ l ∈ preorder f, l.id = id :=
  List.mem_map

/-- The listing of a listed layer is a part of the listing. -/
theorem preorder_sublist_of_mem {f : Forest} {l : Layer} (h : l ∈ preorder f) :
    l.preorder.Sublist (preorder f) := by
  induction f using Forest.induction with
  | nil => simp at h
  | layers head items rest hitems hrest =>
    simp only [preorder_cons, Layer.preorder_layers, List.cons_append, List.mem_cons,
      List.mem_append] at h
    rw [preorder_cons, Layer.preorder_layers]
    rcases h with rfl | h | h
    · rw [Layer.preorder_layers]
      exact List.sublist_append_left _ _
    · exact ((hitems h).cons _).trans (List.sublist_append_left _ _)
    · exact (hrest h).trans (List.sublist_append_right _ _)
  | leaf head slot rest hslot hrest =>
    simp only [preorder_cons, Layer.preorder_leaf head hslot, List.cons_append, List.nil_append,
      List.mem_cons] at h
    rw [preorder_cons]
    rcases h with rfl | h
    · exact List.sublist_append_left _ _
    · exact (hrest h).trans (List.sublist_append_right _ _)

/-! ## What the searches find -/

theorem find?_eq_some {f : Forest} {id : String} {l : Layer} (h : find? f id = some l) :
    l ∈ preorder f ∧ l.id = id := by
  refine ⟨List.mem_of_find?_eq_some h, ?_⟩
  simpa using List.find?_some h

theorem find?_eq_none_iff {f : Forest} {id : String} : find? f id = none ↔ id ∉ ids f := by
  simp [find?, mem_ids_iff]

theorem mem_preorder_of_mem_children {f : Forest} {l c : Layer} (hl : l ∈ preorder f)
    (hc : c ∈ l.children) : c ∈ preorder f := by
  refine (preorder_sublist_of_mem hl).subset ?_
  rw [Layer.preorder_eq]
  exact List.mem_cons_of_mem _ (mem_preorder_of_mem hc)

/-- A listed layer is at the top, or it is a child of a listed layer. -/
theorem mem_or_exists_parent {f : Forest} {l : Layer} (h : l ∈ preorder f) :
    l ∈ f ∨ ∃ parent ∈ preorder f, l ∈ parent.children := by
  induction f using Forest.induction with
  | nil => simp at h
  | layers head items rest hitems hrest =>
    simp only [preorder_cons, Layer.preorder_layers, List.cons_append, List.mem_cons,
      List.mem_append] at h
    rcases h with rfl | h | h
    · exact Or.inl List.mem_cons_self
    · refine Or.inr ?_
      rcases hitems h with htop | ⟨parent, hparent, hchild⟩
      · exact ⟨.node head (.layers items), by simp, htop⟩
      · exact ⟨parent, by simp [hparent], hchild⟩
    · rcases hrest h with htop | ⟨parent, hparent, hchild⟩
      · exact Or.inl (List.mem_cons_of_mem _ htop)
      · exact Or.inr ⟨parent, by simp [hparent], hchild⟩
  | leaf head slot rest hslot hrest =>
    simp only [preorder_cons, Layer.preorder_leaf head hslot, List.cons_append, List.nil_append,
      List.mem_cons] at h
    rcases h with rfl | h
    · exact Or.inl List.mem_cons_self
    · rcases hrest h with htop | ⟨parent, hparent, hchild⟩
      · exact Or.inl (List.mem_cons_of_mem _ htop)
      · exact Or.inr ⟨parent, by simp [hparent], hchild⟩

theorem parentOf?_eq_some {f : Forest} {id : String} {l : Layer} (h : parentOf? f id = some l) :
    l ∈ preorder f ∧ ∃ c ∈ l.children, c.id = id := by
  refine ⟨List.mem_of_find?_eq_some h, ?_⟩
  simpa using List.find?_some h

/-- In a forest of distinct ids the id determines the layer. -/
theorem eq_of_mem_preorder {f : Forest} (hf : (ids f).Nodup) {l m : Layer}
    (hl : l ∈ preorder f) (hm : m ∈ preorder f) (h : l.id = m.id) : l = m :=
  List.inj_on_of_nodup_map hf hl hm h

/-- In a forest of distinct ids every listed layer is found by its id. -/
theorem find?_of_mem {f : Forest} (hf : (ids f).Nodup) {l : Layer} (hl : l ∈ preorder f) :
    find? f l.id = some l := by
  cases hfind : find? f l.id with
  | none => exact absurd (mem_ids_iff.mpr ⟨l, hl, rfl⟩) (find?_eq_none_iff.mp hfind)
  | some m =>
    obtain ⟨hm, hid⟩ := find?_eq_some hfind
    rw [eq_of_mem_preorder hf hm hl hid]

end Forest

end LayerDoc
