import LayerDoc.Proofs.Forest.Listing
import LayerDoc.Proofs.Supply
import LayerDoc.Store.Variables
import Mathlib.Data.List.Perm.Basic

/-!
# Ids under edits of a forest

What each edit of a forest does to the listed ids, and to the layers at the top of the forest. No
distinctness of ids is assumed unless it is said.

* `Forest.count_ids_insert`: a layer is taken in once for each list with the parent's id.
* `Forest.ids_without_sublist`, `Forest.perm_ids_without`: taking out loses ids only, and with
  distinct ids exactly those of the layer that is found.
* `Forest.ids_replace_sublist`: no id is new if the replacement has none.
* `Layer.ids_copy`: a copy has the next labels of the supply, one for each id of the original.
* `Layer.footing`: what the edits leave as it is at the top of the forest.
-/

namespace LayerDoc

/-- What the place of a layer at the top of a document rests on: how the layer was made, its id,
and whether its slot is a list. -/
def Layer.footing (l : Layer) : Role × String × Bool := (l.head.role, l.id, l.holdsLayers)

theorem map_id_of_map_footing {f g : Forest} (h : f.map Layer.footing = g.map Layer.footing) :
    f.map Layer.id = g.map Layer.id := by
  have hid : Layer.id = (fun place : Role × String × Bool => place.2.1) ∘ Layer.footing := rfl
  rw [hid, ← List.map_map, ← List.map_map, h]

namespace Forest

/-! ## Insertion -/

theorem insert_nil (parent : String) (layer : Layer) (position : Option Int) :
    insert parent layer position [] = [] := rfl

theorem insert_cons (parent : String) (layer : Layer) (position : Option Int) (l : Layer)
    (rest : Forest) :
    insert parent layer position (l :: rest) =
      insertIn parent layer position l :: insert parent layer position rest := rfl

theorem insertIn_layers (parent : String) (layer : Layer) (position : Option Int) (head : Head)
    (items : Forest) :
    insertIn parent layer position (.node head (.layers items)) =
      .node head (.layers
        (if head.id = parent then insertAt (insert parent layer position items) layer position
        else insert parent layer position items)) := rfl

theorem insertIn_leaf (parent : String) (layer : Layer) (position : Option Int) (head : Head)
    {slot : Slot Layer} (h : slot.isList = false) :
    insertIn parent layer position (.node head slot) = .node head slot := by
  cases slot with
  | layers items => cases h
  | text content | bound variableId => rfl

theorem insert_leaf (parent : String) (layer : Layer) (position : Option Int) (head : Head)
    {slot : Slot Layer} (h : slot.isList = false) (rest : Forest) :
    insert parent layer position (.node head slot :: rest) =
      .node head slot :: insert parent layer position rest := by
  rw [insert_cons, insertIn_leaf parent layer position head h]

/-- The number of layers that take in a layer put under `parent`: those with this id whose slot is
a list. -/
def holders (parent : String) (f : Forest) : Nat :=
  (preorder f).countP fun l => l.id = parent && l.holdsLayers

theorem holders_layers (parent : String) (head : Head) (items rest : Forest) :
    holders parent (.node head (.layers items) :: rest) =
      (if head.id = parent then 1 else 0) + holders parent items + holders parent rest := by
  have hholds : Layer.holdsLayers (.node head (.layers items)) = true := rfl
  simp only [holders, preorder_cons, Layer.preorder_layers, List.countP_append, List.countP_cons,
    Layer.id_node, hholds, Bool.and_true]
  by_cases h : head.id = parent
  · simp only [h, decide_true, if_true]
    omega
  · simp [h]

theorem holders_leaf (parent : String) (head : Head) {slot : Slot Layer} (h : slot.isList = false)
    (rest : Forest) : holders parent (.node head slot :: rest) = holders parent rest := by
  have hholds : Layer.holdsLayers (.node head slot) = false := h
  simp [holders, Layer.preorder_leaf head h, hholds]

/-- No more layers take in a layer than have the parent's id. -/
theorem holders_le_count (parent : String) (f : Forest) :
    holders parent f ≤ (ids f).count parent := by
  rw [ids, List.count, List.countP_map]
  refine List.countP_mono_left fun l _ hl => ?_
  simp only [Bool.and_eq_true, decide_eq_true_eq] at hl
  simp [hl.1]

theorem perm_ids_insertAt (items : Forest) (layer : Layer) (position : Option Int) :
    (ids (insertAt items layer position)).Perm (layer.ids ++ ids items) := by
  have hend : (ids (items ++ [layer])).Perm (layer.ids ++ ids items) := by
    rw [ids_append, ids_singleton]
    exact List.perm_append_comm
  cases position with
  | none => exact hend
  | some p =>
    rw [insertAt]
    split
    · exact hend
    · split
      · rw [ids_cons]
      · have hmid := List.perm_append_comm_assoc (ids (items.take p.toNat)) layer.ids
          (ids (items.drop p.toNat))
        rwa [← ids_cons, ← ids_append, ← ids_append, List.take_append_drop] at hmid

/-- How often an id is listed after a layer was put under a parent. -/
theorem count_ids_insert (parent : String) (layer : Layer) (position : Option Int) (f : Forest)
    (id : String) :
    (ids (insert parent layer position f)).count id =
      (ids f).count id + holders parent f * layer.ids.count id := by
  induction f using Forest.induction with
  | nil => simp [insert_nil, holders]
  | leaf head slot rest hslot hrest =>
    rw [insert_leaf parent layer position head hslot, holders_leaf parent head hslot]
    simp only [ids_cons, List.count_append, hrest]
    omega
  | layers head items rest hitems hrest =>
    rw [holders_layers, insert_cons, insertIn_layers]
    by_cases h : head.id = parent
    · have htaken :=
        (perm_ids_insertAt (insert parent layer position items) layer position).count_eq id
      simp only [List.count_append] at htaken
      simp only [h, if_true, ids_cons, Layer.ids_layers, List.count_append, List.count_cons, htaken,
        hitems, hrest, Nat.add_mul, Nat.one_mul]
      omega
    · simp only [h, if_false, ids_cons, Layer.ids_layers, List.count_append, List.count_cons,
        hitems, hrest, Nat.add_mul, Nat.zero_mul]
      omega

theorem mem_ids_insert {parent : String} {layer : Layer} {position : Option Int} {f : Forest}
    {id : String} (h : id ∈ ids (insert parent layer position f)) :
    id ∈ ids f ∨ id ∈ layer.ids := by
  by_contra hnone
  rw [not_or] at hnone
  have hzero := count_ids_insert parent layer position f id
  rw [List.count_eq_zero.mpr hnone.1, List.count_eq_zero.mpr hnone.2] at hzero
  exact List.count_pos_iff.mpr h |>.ne' (by simpa using hzero)

theorem ids_subset_insert (parent : String) (layer : Layer) (position : Option Int) (f : Forest) :
    ids f ⊆ ids (insert parent layer position f) := by
  intro id hid
  rw [← List.count_pos_iff] at hid ⊢
  rw [count_ids_insert]
  omega

theorem holders_pos {parent : String} {f : Forest} {l : Layer} (hl : l ∈ preorder f)
    (hid : l.id = parent) (hholds : l.holdsLayers = true) : 0 < holders parent f :=
  List.countP_pos_iff.mpr ⟨l, hl, by simp [hid, hholds]⟩

/-- The layer is there with all below it if something takes it in. -/
theorem ids_layer_subset_insert {parent : String} {f : Forest} (hholders : 0 < holders parent f)
    (layer : Layer) (position : Option Int) :
    layer.ids ⊆ ids (insert parent layer position f) := by
  intro id hid
  rw [← List.count_pos_iff] at hid ⊢
  rw [count_ids_insert]
  have := Nat.mul_pos hholders hid
  omega

/-- Distinct ids stay distinct if those of the layer are distinct and new. -/
theorem nodup_ids_insert {f : Forest} (hf : (ids f).Nodup) {layer : Layer} (hl : layer.ids.Nodup)
    (hnew : (ids f).Disjoint layer.ids) (parent : String) (position : Option Int) :
    (ids (insert parent layer position f)).Nodup := by
  rw [List.nodup_iff_count_le_one]
  intro id
  rw [count_ids_insert]
  have hf' := List.nodup_iff_count_le_one.mp hf
  by_cases h : id ∈ layer.ids
  · have hold : (ids f).count id = 0 := List.count_eq_zero.mpr fun hmem => hnew hmem h
    have honce : holders parent f ≤ 1 := (holders_le_count parent f).trans (hf' parent)
    have hle := Nat.mul_le_mul honce (List.nodup_iff_count_le_one.mp hl id)
    omega
  · rw [List.count_eq_zero.mpr h, Nat.mul_zero, Nat.add_zero]
    exact hf' id

/-- With distinct ids exactly one parent takes the layer in. -/
theorem perm_ids_insert {f : Forest} (hf : (ids f).Nodup) {parent : Layer}
    (hparent : parent ∈ preorder f) (hholds : parent.holdsLayers = true) (layer : Layer)
    (position : Option Int) :
    (ids (insert parent.id layer position f)).Perm (layer.ids ++ ids f) := by
  have hone : holders parent.id f = 1 := by
    have hpos : 0 < holders parent.id f := holders_pos hparent rfl hholds
    have hle := (holders_le_count parent.id f).trans (List.nodup_iff_count_le_one.mp hf parent.id)
    omega
  refine List.perm_iff_count.mpr fun x => ?_
  rw [count_ids_insert, hone, Nat.one_mul, List.count_append, Nat.add_comm]

theorem footing_insertIn (parent : String) (layer : Layer) (position : Option Int) (l : Layer) :
    (insertIn parent layer position l).footing = l.footing := by
  obtain ⟨head, slot⟩ := l
  cases slot with
  | layers items => rfl
  | text content | bound variableId => rfl

theorem map_footing_insert (parent : String) (layer : Layer) (position : Option Int) (f : Forest) :
    (insert parent layer position f).map Layer.footing = f.map Layer.footing := by
  induction f with
  | nil => rw [insert_nil]
  | cons l rest ih => rw [insert_cons, List.map_cons, List.map_cons, ih, footing_insertIn]

/-! ## Taking out -/

theorem without_nil (id : String) : without id [] = [] := rfl

theorem without_cons (id : String) (l : Layer) (rest : Forest) :
    without id (l :: rest) =
      if l.id = id then without id rest else withoutIn id l :: without id rest := rfl

theorem withoutIn_layers (id : String) (head : Head) (items : Forest) :
    withoutIn id (.node head (.layers items)) = .node head (.layers (without id items)) := rfl

theorem withoutIn_leaf (id : String) (head : Head) {slot : Slot Layer} (h : slot.isList = false) :
    withoutIn id (.node head slot) = .node head slot := by
  cases slot with
  | layers items => cases h
  | text content | bound variableId => rfl

theorem without_leaf (id : String) (head : Head) {slot : Slot Layer} (h : slot.isList = false)
    (rest : Forest) :
    without id (.node head slot :: rest) =
      if head.id = id then without id rest else .node head slot :: without id rest := by
  rw [without_cons, withoutIn_leaf id head h, Layer.id_node]

theorem without_layers (id : String) (head : Head) (items rest : Forest) :
    without id (.node head (.layers items) :: rest) =
      if head.id = id then without id rest
      else .node head (.layers (without id items)) :: without id rest := rfl

/-- Taking out an id that does not occur changes nothing. -/
theorem without_of_not_mem {id : String} {f : Forest} (h : id ∉ ids f) : without id f = f := by
  induction f using Forest.induction with
  | nil => rw [without_nil]
  | leaf head slot rest hslot hrest =>
    rw [ids_cons, Layer.ids_leaf head hslot, List.mem_append, not_or, List.mem_singleton] at h
    rw [without_leaf id head hslot, if_neg (Ne.symm h.1), hrest h.2]
  | layers head items rest hitems hrest =>
    rw [ids_cons, Layer.ids_layers, List.mem_append, not_or, List.mem_cons, not_or] at h
    rw [without_layers, if_neg (Ne.symm h.1.1), hitems h.1.2, hrest h.2]

theorem ids_without_sublist (id : String) (f : Forest) :
    (ids (without id f)).Sublist (ids f) := by
  induction f using Forest.induction with
  | nil => rw [without_nil]
  | leaf head slot rest hslot hrest =>
    rw [without_leaf id head hslot]
    split
    · exact hrest.trans (by rw [ids_cons]; exact List.sublist_append_right _ _)
    · simp only [ids_cons]
      exact (List.Sublist.refl _).append hrest
  | layers head items rest hitems hrest =>
    rw [without_layers]
    split
    · exact hrest.trans (by rw [ids_cons]; exact List.sublist_append_right _ _)
    · simp only [ids_cons, Layer.ids_layers]
      exact (hitems.cons_cons head.id).append hrest

/-- With distinct ids, taking out a layer takes out the ids of the layer and no others. -/
theorem perm_ids_without {f : Forest} (hf : (ids f).Nodup) {l : Layer} (hl : l ∈ preorder f) :
    (ids f).Perm (l.ids ++ ids (without l.id f)) := by
  induction f using Forest.induction with
  | nil => simp at hl
  | leaf head slot rest hslot hrest =>
    rw [ids_cons, Layer.ids_leaf head hslot, List.singleton_append, List.nodup_cons] at hf
    rw [preorder_cons, Layer.preorder_leaf head hslot, List.singleton_append, List.mem_cons] at hl
    rw [without_leaf l.id head hslot, ids_cons]
    rcases hl with rfl | hl
    · rw [if_pos (Layer.id_node head slot).symm, Layer.id_node, without_of_not_mem hf.1]
    · have hne : head.id ≠ l.id := fun he => hf.1 (he ▸ mem_ids_iff.mpr ⟨l, hl, rfl⟩)
      rw [if_neg hne, ids_cons]
      exact ((hrest hf.2 hl).append_left _).trans (List.perm_append_comm_assoc _ _ _)
  | layers head items rest hitems hrest =>
    rw [ids_cons, Layer.ids_layers, List.nodup_append', List.nodup_cons] at hf
    obtain ⟨⟨hhead, hbelow⟩, hright, hdisjoint⟩ := hf
    rw [preorder_cons, Layer.preorder_layers, List.cons_append, List.mem_cons,
      List.mem_append] at hl
    rw [without_layers, ids_cons]
    rcases hl with rfl | hl | hl
    · have hnot : head.id ∉ ids rest := List.disjoint_left.mp hdisjoint List.mem_cons_self
      rw [if_pos (Layer.id_node head _).symm, Layer.id_node, without_of_not_mem hnot]
    · have hid : l.id ∈ ids items := mem_ids_iff.mpr ⟨l, hl, rfl⟩
      have hnot : l.id ∉ ids rest :=
        List.disjoint_left.mp hdisjoint (List.mem_cons_of_mem _ hid)
      have hne : head.id ≠ l.id := fun he => hhead (he ▸ hid)
      rw [if_neg hne, without_of_not_mem hnot, ids_cons, Layer.ids_layers, Layer.ids_layers,
        ← List.append_assoc]
      refine List.Perm.append_right _ ?_
      exact ((hitems hbelow hl).cons head.id).trans List.perm_middle.symm
    · have hid : l.id ∈ ids rest := mem_ids_iff.mpr ⟨l, hl, rfl⟩
      have hnot : l.id ∉ head.id :: ids items := fun hmem => hdisjoint hmem hid
      rw [List.mem_cons, not_or] at hnot
      rw [if_neg (Ne.symm hnot.1), without_of_not_mem hnot.2, ids_cons]
      exact ((hrest hright hl).append_left _).trans (List.perm_append_comm_assoc _ _ _)

theorem footing_withoutIn (id : String) (l : Layer) : (withoutIn id l).footing = l.footing := by
  obtain ⟨head, slot⟩ := l
  cases slot with
  | layers items => rfl
  | text content | bound variableId => rfl

theorem map_footing_without {id : String} {f : Forest} (h : ∀ l ∈ f, l.id ≠ id) :
    (without id f).map Layer.footing = f.map Layer.footing := by
  induction f with
  | nil => rw [without_nil]
  | cons l rest ih =>
    rw [without_cons, if_neg (h l List.mem_cons_self), List.map_cons, List.map_cons,
      ih fun m hm => h m (List.mem_cons_of_mem _ hm), footing_withoutIn]

/-- What is left after a layer was taken out was there before, with less below it. -/
theorem exists_mem_of_mem_without {f : Forest} {id : String} {m : Layer}
    (hm : m ∈ preorder (without id f)) :
    ∃ l ∈ preorder f, l.head = m.head ∧ l.holdsLayers = m.holdsLayers := by
  induction f using Forest.induction with
  | nil => simp [without_nil] at hm
  | leaf head slot rest hslot hrest =>
    rw [without_leaf _ _ hslot] at hm
    split at hm
    · obtain ⟨l, hl, hsame⟩ := hrest hm
      exact ⟨l, by simp [hl], hsame⟩
    · rw [preorder_cons, Layer.preorder_leaf head hslot, List.singleton_append,
        List.mem_cons] at hm
      rcases hm with rfl | hm
      · exact ⟨_, by simp [Layer.mem_preorder_self], rfl, rfl⟩
      · obtain ⟨l, hl, hsame⟩ := hrest hm
        exact ⟨l, by simp [hl], hsame⟩
  | layers head items rest hitems hrest =>
    rw [without_layers] at hm
    split at hm
    · obtain ⟨l, hl, hsame⟩ := hrest hm
      exact ⟨l, by simp [hl], hsame⟩
    · rw [preorder_cons, Layer.preorder_layers, List.cons_append, List.mem_cons,
        List.mem_append] at hm
      rcases hm with rfl | hm | hm
      · exact ⟨.node head (.layers items), by simp, rfl, rfl⟩
      · obtain ⟨l, hl, hsame⟩ := hitems hm
        exact ⟨l, by simp [hl], hsame⟩
      · obtain ⟨l, hl, hsame⟩ := hrest hm
        exact ⟨l, by simp [hl], hsame⟩

/-! ## Moving -/

/-- A move takes the layer out and puts it under the parent, which lies outside of it. -/
theorem move?_eq_some {f g : Forest} {id parent : String} {position : Option Int}
    (h : move? f id parent position = some g) :
    ∃ layer shifted, find? f id = some layer ∧ parent ∉ layer.ids ∧
      g = insert parent layer shifted (without id f) := by
  unfold move? at h
  split at h
  · next layer target hlayer _ =>
    split at h
    · cases h
    · next hfit =>
      simp only [Bool.or_eq_true, List.contains_iff_mem, not_or] at hfit
      exact ⟨layer, _, hlayer, hfit.2, (Option.some.inj h).symm⟩
  · cases h

/-- A layer moves under a parent with a list of layers. -/
theorem target_of_move {f g : Forest} {id parent : String} {position : Option Int}
    (h : move? f id parent position = some g) :
    ∃ target, find? f parent = some target ∧ target.holdsLayers = true := by
  unfold move? at h
  split at h
  · next layer target _ htarget =>
    split at h
    · cases h
    · next hfit =>
      rw [Bool.not_eq_true, Bool.or_eq_false_iff, Bool.not_eq_false'] at hfit
      exact ⟨target, htarget, hfit.1⟩
  · cases h

/-- A move within a forest of distinct ids takes the ids along. -/
theorem perm_ids_move {f g : Forest} (hf : (ids f).Nodup) {id parent : String}
    {position : Option Int} (h : move? f id parent position = some g) :
    (ids g).Perm (ids f) := by
  obtain ⟨target, htarget, hholds⟩ := target_of_move h
  obtain ⟨layer, shifted, hfind, hout, rfl⟩ := move?_eq_some h
  obtain ⟨hlayer, rfl⟩ := find?_eq_some hfind
  obtain ⟨hmem, rfl⟩ := find?_eq_some htarget
  have hperm := perm_ids_without hf hlayer
  -- the parent is still there, with a list of layers, when the layer has been taken out
  have hleft : target.id ∈ ids (without layer.id f) :=
    (List.mem_append.mp (hperm.subset (mem_ids_iff.mpr ⟨target, hmem, rfl⟩))).resolve_left hout
  obtain ⟨m, hm, hid⟩ := mem_ids_iff.mp hleft
  obtain ⟨l, hl, hhead, hsame⟩ := exists_mem_of_mem_without hm
  have htarget : l = target :=
    eq_of_mem_preorder hf hl hmem (by rw [← hid, Layer.id, Layer.id, hhead])
  have hlist : m.holdsLayers = true := by rw [← hsame, htarget, hholds]
  have hwithout := hf.sublist (ids_without_sublist layer.id f)
  rw [← hid]
  exact (perm_ids_insert hwithout hm hlist layer shifted).trans hperm.symm

theorem map_footing_move {f g : Forest} {id parent : String} {position : Option Int}
    (hroot : ∀ l ∈ f, l.id ≠ id) (h : move? f id parent position = some g) :
    g.map Layer.footing = f.map Layer.footing := by
  obtain ⟨layer, shifted, -, -, rfl⟩ := move?_eq_some h
  rw [map_footing_insert, map_footing_without hroot]

/-! ## Replacement -/

theorem replace_nil (id : String) (replacement : Layer) : replace id replacement [] = [] := rfl

theorem replace_cons (id : String) (replacement l : Layer) (rest : Forest) :
    replace id replacement (l :: rest) =
      replaceIn id replacement l :: replace id replacement rest := rfl

theorem replaceIn_layers (id : String) (replacement : Layer) (head : Head) (items : Forest) :
    replaceIn id replacement (.node head (.layers items)) =
      if head.id = id then replacement
      else .node head (.layers (replace id replacement items)) := rfl

theorem replaceIn_leaf (id : String) (replacement : Layer) (head : Head) {slot : Slot Layer}
    (h : slot.isList = false) :
    replaceIn id replacement (.node head slot) =
      if head.id = id then replacement else .node head slot := by
  cases slot with
  | layers items => cases h
  | text content | bound variableId => rfl

theorem replaceIn_self {id : String} {replacement l : Layer} (h : l.id = id) :
    replaceIn id replacement l = replacement := by
  obtain ⟨head, slot⟩ := l
  cases slot with
  | layers items => exact if_pos h
  | text content | bound variableId => exact if_pos h

theorem footing_replaceIn {id : String} {l : Layer} (h : l.id ≠ id) (replacement : Layer) :
    (replaceIn id replacement l).footing = l.footing := by
  obtain ⟨head, slot⟩ := l
  have hne : ¬ head.id = id := h
  cases slot with
  | layers items =>
    rw [replaceIn_layers, if_neg hne]
    rfl
  | text content | bound variableId => rw [replaceIn_leaf id replacement head rfl, if_neg hne]

theorem replace_leaf (id : String) (replacement : Layer) (head : Head) {slot : Slot Layer}
    (h : slot.isList = false) (rest : Forest) :
    replace id replacement (.node head slot :: rest) =
      (if head.id = id then replacement else .node head slot) :: replace id replacement rest := by
  rw [replace_cons, replaceIn_leaf id replacement head h]

theorem replace_layers (id : String) (replacement : Layer) (head : Head) (items rest : Forest) :
    replace id replacement (.node head (.layers items) :: rest) =
      (if head.id = id then replacement else .node head (.layers (replace id replacement items))) ::
        replace id replacement rest := rfl

/-- A replacement without ids of its own brings no new ids. -/
theorem ids_replace_sublist {id : String} {replacement : Layer} {f : Forest}
    (h : ∀ l ∈ preorder f, l.id = id → replacement.ids.Sublist l.ids) :
    (ids (replace id replacement f)).Sublist (ids f) := by
  induction f using Forest.induction with
  | nil => rw [replace_nil]
  | leaf head slot rest hslot hrest =>
    rw [replace_leaf id replacement head hslot, ids_cons, ids_cons]
    refine List.Sublist.append ?_ (hrest fun l hl => h l (by simp [hl]))
    split
    · next he => exact h _ (by simp [Layer.mem_preorder_self]) he
    · exact List.Sublist.refl _
  | layers head items rest hitems hrest =>
    rw [replace_layers, ids_cons, ids_cons]
    refine List.Sublist.append ?_ (hrest fun l hl => h l (by simp [hl]))
    split
    · next he => exact h _ (by simp) he
    · rw [Layer.ids_layers, Layer.ids_layers]
      exact (hitems fun l hl => h l (by simp [hl])).cons_cons head.id

/-- A replacement with the ids of what it replaces changes no ids. -/
theorem ids_replace {id : String} {replacement : Layer} {f : Forest}
    (h : ∀ l ∈ preorder f, l.id = id → replacement.ids = l.ids) :
    ids (replace id replacement f) = ids f := by
  induction f using Forest.induction with
  | nil => rw [replace_nil]
  | leaf head slot rest hslot hrest =>
    rw [replace_leaf id replacement head hslot, ids_cons, ids_cons,
      hrest fun l hl => h l (by simp [hl])]
    split
    · next he => rw [h (.node head slot) (by simp [Layer.mem_preorder_self]) he]
    · rfl
  | layers head items rest hitems hrest =>
    rw [replace_layers, ids_cons, ids_cons, hrest fun l hl => h l (by simp [hl])]
    split
    · next he => rw [h (.node head (.layers items)) (by simp) he]
    · rw [Layer.ids_layers, Layer.ids_layers, hitems fun l hl => h l (by simp [hl])]

/-- At the top a replacement stands where a layer with the id stood; all else there stays. -/
theorem footing_of_mem_replace {id : String} {replacement l : Layer} {f : Forest}
    (h : l ∈ replace id replacement f) :
    (l = replacement ∧ ∃ m ∈ f, m.id = id) ∨ ∃ m ∈ f, l.footing = m.footing := by
  induction f with
  | nil => simp [replace_nil] at h
  | cons first rest ih =>
    rw [replace_cons, List.mem_cons] at h
    rcases h with rfl | h
    · by_cases he : first.id = id
      · exact Or.inl ⟨replaceIn_self he, first, List.mem_cons_self, he⟩
      · exact Or.inr ⟨first, List.mem_cons_self, footing_replaceIn he replacement⟩
    · rcases ih h with ⟨hl, m, hm, he⟩ | ⟨m, hm, he⟩
      · exact Or.inl ⟨hl, m, List.mem_cons_of_mem _ hm, he⟩
      · exact Or.inr ⟨m, List.mem_cons_of_mem _ hm, he⟩

/-- A replacement that keeps the id keeps the ids at the top, also where the id occurs there more
than once. -/
theorem map_id_replace {id : String} {replacement : Layer} (h : replacement.id = id) (f : Forest) :
    (replace id replacement f).map Layer.id = f.map Layer.id := by
  induction f with
  | nil => rw [replace_nil]
  | cons l rest ih =>
    rw [replace_cons, List.map_cons, List.map_cons, ih]
    by_cases he : l.id = id
    · rw [replaceIn_self he, h, he]
    · have hid : (replaceIn id replacement l).id = l.id :=
        congrArg (fun place => place.2.1) (footing_replaceIn he replacement)
      rw [hid]

/-! ## Releasing a variable -/

theorem releasedItems_nil (registry : Registry) (variableId : String) :
    Layer.releasedItems registry variableId [] = [] := rfl

theorem releasedItems_cons (registry : Registry) (variableId : String) (l : Layer)
    (rest : Forest) :
    Layer.releasedItems registry variableId (l :: rest) =
      Layer.released registry variableId l :: Layer.releasedItems registry variableId rest := rfl

theorem releasedItems_layers (registry : Registry) (variableId : String) (head : Head)
    (items rest : Forest) :
    Layer.releasedItems registry variableId (.node head (.layers items) :: rest) =
      .node (Layer.releasedHead registry variableId head)
          (.layers (Layer.releasedItems registry variableId items)) ::
        Layer.releasedItems registry variableId rest := rfl

theorem releasedItems_leaf (registry : Registry) (variableId : String) (head : Head)
    {slot : Slot Layer} (h : slot.isList = false) (rest : Forest) :
    ∃ slot', slot'.isList = false ∧
      Layer.releasedItems registry variableId (.node head slot :: rest) =
        .node (Layer.releasedHead registry variableId head) slot' ::
          Layer.releasedItems registry variableId rest := by
  cases slot with
  | layers items => cases h
  | text content => exact ⟨_, h, rfl⟩
  | bound other =>
    refine ⟨_, ?_, rfl⟩
    split <;> rfl

/-- Releasing a variable leaves all ids in place. -/
theorem ids_releasedItems (registry : Registry) (variableId : String) (f : Forest) :
    ids (Layer.releasedItems registry variableId f) = ids f := by
  induction f using Forest.induction with
  | nil => rw [releasedItems_nil]
  | leaf head slot rest hslot hrest =>
    obtain ⟨slot', hslot', he⟩ := releasedItems_leaf registry variableId head hslot rest
    rw [he, ids_cons, ids_cons, hrest, Layer.ids_leaf _ hslot', Layer.ids_leaf _ hslot]
    rfl
  | layers head items rest hitems hrest =>
    rw [releasedItems_layers, ids_cons, ids_cons, hrest, Layer.ids_layers,
      Layer.ids_layers, hitems]
    rfl

theorem map_footing_releasedItems (registry : Registry) (variableId : String) (f : Forest) :
    (Layer.releasedItems registry variableId f).map Layer.footing = f.map Layer.footing := by
  induction f with
  | nil => rw [releasedItems_nil]
  | cons l rest ih =>
    obtain ⟨head, slot⟩ := l
    cases hslot : slot.isList with
    | true =>
      cases slot with
      | layers items =>
        rw [releasedItems_layers, List.map_cons, List.map_cons, ih]
        rfl
      | text content => simp [Slot.isList] at hslot
      | bound other => simp [Slot.isList] at hslot
    | false =>
      obtain ⟨slot', hslot', he⟩ := releasedItems_leaf registry variableId head hslot rest
      rw [he, List.map_cons, List.map_cons, ih]
      simp [Layer.footing, Layer.holdsLayers, Layer.releasedHead, hslot, hslot']

/-! ## Copies -/

theorem copyItems_nil (s : Supply) : Layer.copyItems [] s = ([], s) := rfl

theorem copyItems_layers (head : Head) (items rest : Forest) (s : Supply) :
    Layer.copyItems (.node head (.layers items) :: rest) s =
      (.node { head with id := s.next.1 } (.layers (Layer.copyItems items (s.skip 1)).1) ::
          (Layer.copyItems rest (Layer.copyItems items (s.skip 1)).2).1,
        (Layer.copyItems rest (Layer.copyItems items (s.skip 1)).2).2) := rfl

theorem copyItems_leaf (head : Head) {slot : Slot Layer} (h : slot.isList = false) (rest : Forest)
    (s : Supply) :
    Layer.copyItems (.node head slot :: rest) s =
      (.node { head with id := s.next.1 } slot :: (Layer.copyItems rest (s.skip 1)).1,
        (Layer.copyItems rest (s.skip 1)).2) := by
  cases slot with
  | layers items => cases h
  | text content | bound variableId => rfl

/-- Copies take the next labels from the supply, one for each id of the originals, and list them
in order. -/
theorem ids_copyItems (f : Forest) (s : Supply) :
    ids (Layer.copyItems f s).1 = s.upcoming (ids f).length ∧
      (Layer.copyItems f s).2 = s.skip (ids f).length := by
  induction f using Forest.induction generalizing s with
  | nil => simp [copyItems_nil]
  | leaf head slot rest hslot hrest =>
    obtain ⟨hids, hsupply⟩ := hrest (s.skip 1)
    rw [copyItems_leaf head hslot, ids_cons, ids_cons, Layer.ids_leaf _ hslot,
      Layer.ids_leaf _ hslot, List.singleton_append, List.length_append, List.length_singleton,
      hids, hsupply, Supply.skip_skip, Nat.add_comm 1, Supply.upcoming_succ]
    exact ⟨rfl, rfl⟩
  | layers head items rest hitems hrest =>
    obtain ⟨hids, hsupply⟩ := hitems (s.skip 1)
    rw [Supply.skip_skip, Nat.add_comm 1] at hsupply
    obtain ⟨hids', hsupply'⟩ := hrest (s.skip ((ids items).length + 1))
    simp only [copyItems_layers, ids_cons, Layer.ids_layers, hids,
      hsupply, hids', hsupply', Supply.skip_skip, List.length_append, List.length_cons,
      Supply.upcoming_add, Supply.upcoming_succ, and_self]

end Forest

namespace Layer

theorem copyItems_singleton (l : Layer) (s : Supply) :
    copyItems [l] s = ([(l.copy s).1], (l.copy s).2) := rfl

theorem ids_copy (l : Layer) (s : Supply) : (l.copy s).1.ids = s.upcoming l.ids.length := by
  have h := (Forest.ids_copyItems [l] s).1
  rwa [copyItems_singleton, Forest.ids_singleton, Forest.ids_singleton] at h

theorem supply_copy (l : Layer) (s : Supply) : (l.copy s).2 = s.skip l.ids.length := by
  have h := (Forest.ids_copyItems [l] s).2
  rwa [copyItems_singleton, Forest.ids_singleton] at h

theorem footing_copy (l : Layer) (s : Supply) :
    (l.copy s).1.footing = (l.head.role, s.next.1, l.holdsLayers) := by
  obtain ⟨head, slot⟩ := l
  cases slot with
  | layers items => rfl
  | text content | bound variableId => rfl

/-- A suffix on the name changes neither the ids nor the footing. -/
theorem ids_footing_withNameSuffix (l : Layer) (suffix : String) :
    (l.withNameSuffix suffix).ids = l.ids ∧ (l.withNameSuffix suffix).footing = l.footing := by
  unfold withNameSuffix
  split
  · split
    · exact ⟨rfl, rfl⟩
    · obtain ⟨head, slot⟩ := l
      exact ⟨ids_eq_of_slot_eq rfl rfl, rfl⟩
  · exact ⟨rfl, rfl⟩

theorem ids_copyNamed (suffix : String) (l : Layer) (s : Supply) :
    (l.copyNamed suffix s).1.ids = s.upcoming l.ids.length := by
  rw [← ids_copy]
  exact ((l.copy s).1.ids_footing_withNameSuffix suffix).1

theorem footing_copyNamed (suffix : String) (l : Layer) (s : Supply) :
    (l.copyNamed suffix s).1.footing = (l.head.role, s.next.1, l.holdsLayers) := by
  rw [← footing_copy]
  exact ((l.copy s).1.ids_footing_withNameSuffix suffix).2

/-- The ids of a named copy are those that were given out for it. -/
theorem gives_copyNamed {suffix : String} {l copy : Layer} {s t : Supply}
    (h : l.copyNamed suffix s = (copy, t)) : s.Gives copy.ids t := by
  have hids := l.ids_copyNamed suffix s
  have hsupply : (l.copyNamed suffix s).2 = s.skip l.ids.length := l.supply_copy s
  rw [h] at hids hsupply
  exact ⟨_, hsupply, hids ▸ List.Subperm.refl _⟩

end Layer

end LayerDoc
