import LayerDoc.Proofs.Forest.Parents
import LayerDoc.Proofs.Forest.Rewriting

/-!
# Where layers are after a move

A move takes a layer out and puts it under its new parent. What each of the two steps makes of a
listed layer is read off the listing (`Forest.mem_preorder_without`,
`Forest.insertIn_mem_preorder`): all but the list of its children stays (`Layer.SameButChildren`).
Together they relocate the layer (`Forest.Relocates`): it goes along with all below it, every other
layer keeps its attributes and the order of its other children, and at the new place those are in
front of it that were in front of the slot it was moved to (`Forest.relocates_of_move`).
-/

namespace LayerDoc

/-- A layer as it is after others have come to its list of children or have left it. -/
structure Layer.SameButChildren (l m : Layer) : Prop where
  head : m.head = l.head
  holdsLayers : m.holdsLayers = l.holdsLayers
  leaf : l.holdsLayers = false → m = l

namespace Layer.SameButChildren

theorem trans {l m n : Layer} (h : l.SameButChildren m) (h' : m.SameButChildren n) :
    l.SameButChildren n := by
  refine ⟨h'.head.trans h.head, h'.holdsLayers.trans h.holdsLayers, fun hleaf => ?_⟩
  have hm := h.leaf hleaf
  rw [h'.leaf (hm ▸ hleaf), hm]

theorem id_eq {l m : Layer} (h : l.SameButChildren m) : m.id = l.id := congrArg Head.id h.head

end Layer.SameButChildren

namespace Forest

/-! ## Places in a list of children -/

/-- How many of the `size` slots of a list are in front of a position; all of them are if there is
no position. -/
def slotsBefore (size : Nat) (position : Option Int) : Nat := position.elim size Int.toNat

theorem insertAt_eq (items : Forest) (layer : Layer) (position : Option Int) :
    insertAt items layer position =
      items.take (slotsBefore items.length position) ++
        layer :: items.drop (slotsBefore items.length position) := by
  have hend : ∀ n, items.length ≤ n → items ++ [layer] = items.take n ++ layer :: items.drop n := by
    intro n hn
    rw [List.take_of_length_le hn, List.drop_of_length_le hn]
  cases position with
  | none => exact hend _ (Nat.le_refl _)
  | some p =>
    rw [insertAt]
    split
    · exact hend _ (show items.length ≤ p.toNat by omega)
    · split
      · next hneg =>
        have hzero : p.toNat = 0 := by omega
        simp [slotsBefore, hzero]
      · rfl

theorem map_id_insertAt (items : Forest) (layer : Layer) (position : Option Int) :
    (insertAt items layer position).map Layer.id =
      (items.map Layer.id).take (slotsBefore items.length position) ++
        layer.id :: (items.map Layer.id).drop (slotsBefore items.length position) := by
  rw [insertAt_eq, List.map_append, List.map_cons, List.map_take, List.map_drop]

/-- A list of ids with `id` put in front of the slot at a position, and taken away from where it
stood. -/
def placed (id : String) (position : Option Int) (ids : List String) : List String :=
  (ids.take (slotsBefore ids.length position)).filter (· ≠ id) ++
    id :: (ids.drop (slotsBefore ids.length position)).filter (· ≠ id)

theorem filter_ne_of_not_mem {id : String} {ids : List String} (h : id ∉ ids) :
    ids.filter (· ≠ id) = ids :=
  List.filter_eq_self.mpr fun x hx => by
    have hne : x ≠ id := fun he => h (he ▸ hx)
    simpa using hne

theorem placed_of_not_mem {id : String} {ids : List String} (h : id ∉ ids)
    (position : Option Int) :
    placed id position ids =
      ids.take (slotsBefore ids.length position) ++
        id :: ids.drop (slotsBefore ids.length position) := by
  rw [placed, filter_ne_of_not_mem fun hmem => h (List.mem_of_mem_take hmem),
    filter_ne_of_not_mem fun hmem => h (List.mem_of_mem_drop hmem)]

/-- A position among the slots that are left when the layer at an index is taken out. -/
def shiftedBy (index : Nat) (position : Option Int) : Option Int :=
  position.map fun p => if (index : Int) < p then p - 1 else p

section

variable {id : String} {front back : List String} (hfront : id ∉ front) (hback : id ∉ back)

include hfront hback

theorem filter_ne_split : (front ++ id :: back).filter (· ≠ id) = front ++ back := by
  rw [List.filter_append, List.filter_cons_of_neg (by simp), filter_ne_of_not_mem hfront,
    filter_ne_of_not_mem hback]

theorem filter_ne_take_of_lt {k : Nat} (hk : front.length < k) :
    ((front ++ id :: back).take k).filter (· ≠ id) = (front ++ back).take (k - 1) := by
  obtain ⟨n, rfl⟩ : ∃ n, k = front.length + (n + 1) := ⟨k - front.length - 1, by omega⟩
  have hpred : front.length + (n + 1) - 1 = front.length + n := by omega
  rw [hpred, List.take_length_add_append, List.take_length_add_append, List.take_succ_cons,
    filter_ne_split hfront fun hmem => hback (List.mem_of_mem_take hmem)]

omit hfront in
theorem filter_ne_drop_of_lt {k : Nat} (hk : front.length < k) :
    ((front ++ id :: back).drop k).filter (· ≠ id) = (front ++ back).drop (k - 1) := by
  obtain ⟨n, rfl⟩ : ∃ n, k = front.length + (n + 1) := ⟨k - front.length - 1, by omega⟩
  have hpred : front.length + (n + 1) - 1 = front.length + n := by omega
  rw [hpred, List.drop_length_add_append, List.drop_length_add_append, List.drop_succ_cons,
    filter_ne_of_not_mem fun hmem => hback (List.mem_of_mem_drop hmem)]

omit hback in
theorem filter_ne_take_of_le {k : Nat} (hk : k ≤ front.length) :
    ((front ++ id :: back).take k).filter (· ≠ id) = (front ++ back).take k := by
  rw [List.take_append_of_le_length hk, List.take_append_of_le_length hk,
    filter_ne_of_not_mem fun hmem => hfront (List.mem_of_mem_take hmem)]

theorem filter_ne_drop_of_le {k : Nat} (hk : k ≤ front.length) :
    ((front ++ id :: back).drop k).filter (· ≠ id) = (front ++ back).drop k := by
  rw [List.drop_append_of_le_length hk, List.drop_append_of_le_length hk,
    filter_ne_split (fun hmem => hfront (List.mem_of_mem_drop hmem)) hback]

/-- Within one list the slot is looked for before the layer is taken out, and is one further to the
left after that if the layer stood in front of it. -/
theorem placed_split (position : Option Int) :
    placed id position (front ++ id :: back) =
      let k := slotsBefore (front ++ back).length (shiftedBy front.length position)
      (front ++ back).take k ++ id :: (front ++ back).drop k := by
  cases position with
  | none =>
    simp only [placed, slotsBefore, shiftedBy, Option.map_none, Option.elim_none, List.take_length,
      List.drop_length, List.filter_nil, filter_ne_split hfront hback]
  | some p =>
    simp only [placed, slotsBefore, shiftedBy, Option.map_some, Option.elim_some]
    by_cases hlt : (front.length : Int) < p
    · -- the layer stood in front of the slot
      have hk : front.length < p.toNat := by omega
      have hpred : (p - 1).toNat = p.toNat - 1 := by omega
      rw [if_pos hlt, hpred, filter_ne_take_of_lt hfront hback hk,
        filter_ne_drop_of_lt hback hk]
    · -- it stood in the slot or after it
      have hk : p.toNat ≤ front.length := by omega
      rw [if_neg hlt, filter_ne_take_of_le hfront hk, filter_ne_drop_of_le hfront hback hk]

end

/-! ## Taking out -/

theorem children_withoutIn (id : String) (l : Layer) :
    (withoutIn id l).children = without id l.children := by
  obtain ⟨head, slot⟩ := l
  cases slot with
  | layers items => rfl
  | text content | bound variableId => rfl

theorem sameButChildren_withoutIn (id : String) (l : Layer) :
    l.SameButChildren (withoutIn id l) := by
  obtain ⟨head, slot⟩ := l
  cases slot with
  | layers items => exact ⟨rfl, rfl, fun hleaf => by cases hleaf⟩
  | text content | bound variableId => exact ⟨rfl, rfl, fun _ => rfl⟩

theorem map_id_without (id : String) (f : Forest) :
    (without id f).map Layer.id = (f.map Layer.id).filter (· ≠ id) := by
  induction f with
  | nil => rw [without_nil, List.map_nil, List.filter_nil]
  | cons l rest ih =>
    rw [without_cons]
    by_cases h : l.id = id
    · rw [if_pos h, ih, List.map_cons, List.filter_cons_of_neg (by simpa using h)]
    · have hid := (sameButChildren_withoutIn id l).id_eq
      rw [if_neg h, List.map_cons, List.map_cons, List.filter_cons_of_pos (by simpa using h), ih,
        hid]

theorem childIds_withoutIn (id : String) (l : Layer) :
    (withoutIn id l).childIds = l.childIds.filter (· ≠ id) := by
  rw [Layer.childIds, children_withoutIn, map_id_without, Layer.childIds]

/-- What is listed after a layer was taken out was listed before, with that layer below it. -/
theorem mem_preorder_without {f : Forest} {id : String} {m : Layer}
    (hm : m ∈ preorder (without id f)) :
    ∃ l ∈ preorder f, l.id ≠ id ∧ m = withoutIn id l := by
  induction f using Forest.induction with
  | nil => simp [without_nil] at hm
  | leaf head slot rest hslot hrest =>
    have hlater : m ∈ preorder (without id rest) →
        ∃ l ∈ preorder (.node head slot :: rest), l.id ≠ id ∧ m = withoutIn id l := by
      intro hm
      obtain ⟨l, hl, hsame⟩ := hrest hm
      exact ⟨l, by simp [hl], hsame⟩
    rw [without_leaf _ _ hslot] at hm
    by_cases hid : head.id = id
    · rw [if_pos hid] at hm
      exact hlater hm
    · rw [if_neg hid, preorder_cons, Layer.preorder_leaf head hslot, List.singleton_append,
        List.mem_cons] at hm
      rcases hm with rfl | hm
      · have hsame := (sameButChildren_withoutIn id (.node head slot)).leaf hslot
        exact ⟨.node head slot, by simp [Layer.mem_preorder_self], hid, hsame.symm⟩
      · exact hlater hm
  | layers head items rest hitems hrest =>
    have hlater : m ∈ preorder (without id rest) →
        ∃ l ∈ preorder (.node head (.layers items) :: rest), l.id ≠ id ∧ m = withoutIn id l := by
      intro hm
      obtain ⟨l, hl, hsame⟩ := hrest hm
      exact ⟨l, by simp [hl], hsame⟩
    rw [without_layers] at hm
    by_cases hid : head.id = id
    · rw [if_pos hid] at hm
      exact hlater hm
    · rw [if_neg hid, preorder_cons, Layer.preorder_layers, List.cons_append, List.mem_cons,
        List.mem_append] at hm
      rcases hm with rfl | hm | hm
      · exact ⟨.node head (.layers items), by simp, hid, (withoutIn_layers id head items).symm⟩
      · obtain ⟨l, hl, hsame⟩ := hitems hm
        exact ⟨l, by simp [hl], hsame⟩
      · exact hlater hm

/-- With distinct ids every layer outside of the one that is taken out is still listed. -/
theorem withoutIn_mem_preorder {f : Forest} (hf : (ids f).Nodup) {moved l : Layer}
    (hmoved : moved ∈ preorder f) (hl : l ∈ preorder f) (hout : l.id ∉ moved.ids) :
    withoutIn moved.id l ∈ preorder (without moved.id f) := by
  have hid : l.id ∈ ids f := mem_ids_iff.mpr ⟨l, hl, rfl⟩
  have hleft : l.id ∈ ids (without moved.id f) :=
    (List.mem_append.mp ((perm_ids_without hf hmoved).subset hid)).resolve_left hout
  obtain ⟨m, hm, he⟩ := mem_ids_iff.mp hleft
  obtain ⟨l', hl', -, hsame⟩ := mem_preorder_without hm
  have hl'id : l'.id = l.id := by rw [← he, hsame, (sameButChildren_withoutIn _ l').id_eq]
  have heq : l' = l := eq_of_mem_preorder hf hl' hl hl'id
  rw [← heq, ← hsame]
  exact hm

/-! ## Putting in -/

section

variable (parent : String) (layer : Layer) (position : Option Int)

theorem sameButChildren_insertIn (l : Layer) :
    l.SameButChildren (insertIn parent layer position l) := by
  obtain ⟨head, slot⟩ := l
  cases slot with
  | layers items => exact ⟨rfl, rfl, fun hleaf => by cases hleaf⟩
  | text content | bound variableId => exact ⟨rfl, rfl, fun _ => rfl⟩

theorem map_id_insert (f : Forest) :
    (insert parent layer position f).map Layer.id = f.map Layer.id := by
  induction f with
  | nil => rw [insert_nil]
  | cons l rest ih =>
    rw [insert_cons, List.map_cons, List.map_cons, ih,
      (sameButChildren_insertIn parent layer position l).id_eq]

/-- The layer comes to the list of children of every layer with the parent's id that has one. -/
theorem childIds_insertIn (l : Layer) :
    (insertIn parent layer position l).childIds =
      if l.id = parent ∧ l.holdsLayers = true then
        l.childIds.take (slotsBefore l.childIds.length position) ++
          layer.id :: l.childIds.drop (slotsBefore l.childIds.length position)
      else l.childIds := by
  obtain ⟨head, slot⟩ := l
  cases slot with
  | layers items =>
    have hbelow := map_id_insert parent layer position items
    have hlength := congrArg List.length hbelow
    rw [List.length_map, List.length_map] at hlength
    rw [insertIn_layers, Layer.childIds_layers, Layer.childIds_layers, List.length_map]
    by_cases h : head.id = parent
    · rw [if_pos h, if_pos ⟨h, rfl⟩, map_id_insertAt, hbelow, hlength]
    · rw [if_neg h, if_neg fun hboth => h hboth.1, hbelow]
  | text content | bound variableId =>
    rw [insertIn_leaf _ _ _ _ rfl, if_neg fun hboth => by cases hboth.2]

theorem mem_preorder_insertAt {items : Forest} {m : Layer} :
    m ∈ preorder (insertAt items layer position) ↔ m ∈ layer.preorder ∨ m ∈ preorder items := by
  have hparts := preorder_append (items.take (slotsBefore items.length position))
    (items.drop (slotsBefore items.length position))
  rw [List.take_append_drop] at hparts
  rw [insertAt_eq, preorder_append, preorder_cons, hparts]
  simp only [List.mem_append]
  exact or_left_comm

variable {parent layer position}

/-- What was listed before a layer was put in is listed after it. -/
theorem insertIn_mem_preorder {f : Forest} {l : Layer} (hl : l ∈ preorder f) :
    insertIn parent layer position l ∈ preorder (insert parent layer position f) := by
  induction f using Forest.induction with
  | nil => simp at hl
  | leaf head slot rest hslot hrest =>
    rw [preorder_cons, Layer.preorder_leaf head hslot, List.singleton_append, List.mem_cons] at hl
    rw [insert_cons, preorder_cons, List.mem_append]
    rcases hl with rfl | hl
    · exact Or.inl (Layer.mem_preorder_self _)
    · exact Or.inr (hrest hl)
  | layers head items rest hitems hrest =>
    rw [preorder_cons, Layer.preorder_layers, List.cons_append, List.mem_cons,
      List.mem_append] at hl
    rw [insert_cons, preorder_cons, List.mem_append]
    rcases hl with rfl | hl | hl
    · exact Or.inl (Layer.mem_preorder_self _)
    · refine Or.inl ?_
      rw [Layer.preorder_eq, insertIn_layers, Layer.children_layers]
      refine List.mem_cons_of_mem _ ?_
      by_cases h : head.id = parent
      · rw [if_pos h]
        exact (mem_preorder_insertAt layer position).mpr (Or.inr (hitems hl))
      · rw [if_neg h]
        exact hitems hl
    · exact Or.inr (hrest hl)

/-- The layer is listed with all below it where something takes it in. -/
theorem mem_preorder_insert_self {f : Forest} {host : Layer} (hhost : host ∈ preorder f)
    (hid : host.id = parent) (hholds : host.holdsLayers = true) :
    layer ∈ preorder (insert parent layer position f) := by
  have hlisted : insertIn parent layer position host ∈ preorder (insert parent layer position f) :=
    insertIn_mem_preorder hhost
  refine mem_preorder_of_mem_children hlisted ?_
  obtain ⟨head, slot⟩ := host
  cases slot with
  | layers items =>
    have hhead : head.id = parent := hid
    rw [insertIn_layers, Layer.children_layers, if_pos hhead, insertAt_eq]
    exact List.mem_append_right _ List.mem_cons_self
  | text content | bound variableId => cases hholds

end

/-! ## Moving -/

/-- A move takes a layer with all below it to another place and leaves all else as it is. -/
structure Relocates (f g : Forest) (id parent : String) (position : Option Int) : Prop where
  sameIds : (ids g).Perm (ids f)
  sameRoots : g.map Layer.id = f.map Layer.id
  /-- The layer that moved is found with all below it unchanged, under its new parent. -/
  subtree : find? g id = find? f id
  underParent : ∃ host, parentOf? g id = some host ∧ host.id = parent
  /-- Any other layer keeps its attributes and its other children in order. Those of the new parent
  have the layer among them, in front of the slot that it was moved to. -/
  others : ∀ moved, find? f id = some moved → ∀ l ∈ preorder f, l.id ∉ moved.ids →
    ∃ m, find? g l.id = some m ∧ l.SameButChildren m ∧
      m.childIds =
        if l.id = parent then placed id position l.childIds else l.childIds.filter (· ≠ id)

variable {f g : Forest} {id parent : String} {position : Option Int}

/-- A move within the list of the parent goes by the slots before it. -/
theorem exists_shifted_of_move (h : move? f id parent position = some g) :
    ∃ layer target shifted, find? f id = some layer ∧ find? f parent = some target ∧
      target.holdsLayers = true ∧ parent ∉ layer.ids ∧
      g = insert parent layer shifted (without id f) ∧
      ∀ current, parentOf? f id = some current →
        (current.id ≠ parent → shifted = position) ∧
        (current.id = parent → ∀ index, indexOf? current.children id = some index →
          shifted = shiftedBy index position) := by
  obtain ⟨target, htarget, hholds⟩ := target_of_move h
  unfold move? at h
  split at h
  · next layer target' hlayer htarget' =>
    split at h
    · cases h
    · next hfit =>
      simp only [Bool.or_eq_true, List.contains_iff_mem, not_or] at hfit
      refine ⟨layer, target, _, hlayer, htarget, hholds, hfit.2, (Option.some.inj h).symm, ?_⟩
      intro current hcurrent
      rw [hcurrent]
      refine ⟨fun hother => ?_, fun hsame index hindex => ?_⟩
      · cases position with
        | none => rfl
        | some p => simp only [hother, if_false]
      · cases position with
        | none => rfl
        | some p =>
          simp only [hsame, if_true, hindex, shiftedBy, Option.map_some]
          split <;> rfl
  · cases h

theorem indexOf?_of_childIds {l : Layer} {front back : List String} (hfront : id ∉ front)
    (h : l.childIds = front ++ id :: back) : indexOf? l.children id = some front.length := by
  have hmap : indexOf? l.children id = l.childIds.findIdx? (· == id) := by
    rw [indexOf?, Layer.childIds, List.findIdx?_map]
    rfl
  have hnone : front.findIdx? (· == id) = none := by
    refine List.findIdx?_eq_none_iff.mpr fun x hx => ?_
    have hne : x ≠ id := fun he => hfront (he ▸ hx)
    simpa using hne
  rw [hmap, h, List.findIdx?_append, hnone, List.findIdx?_cons]
  simp

/-- The slot that a layer is moved to, among the children that its new parent has beside it. -/
theorem placed_childIds (hf : (ids f).Nodup) {current target : Layer}
    (hcurrent : parentOf? f id = some current) (htarget : target ∈ preorder f)
    {shifted : Option Int} (hother : current.id ≠ target.id → shifted = position)
    (hsame : current.id = target.id → ∀ index, indexOf? current.children id = some index →
      shifted = shiftedBy index position) :
    placed id position target.childIds =
      let others := target.childIds.filter (· ≠ id)
      let k := slotsBefore others.length shifted
      others.take k ++ id :: others.drop k := by
  obtain ⟨hmem, child, hchild, hid⟩ := parentOf?_eq_some hcurrent
  have hin : id ∈ current.childIds := List.mem_map.mpr ⟨child, hchild, hid⟩
  by_cases hone : current.id = target.id
  · -- the layer moves within one list
    obtain rfl : current = target := eq_of_mem_preorder hf hmem htarget hone
    obtain ⟨front, back, hsplit, hfront, hback⟩ := exists_split_of_mem_childIds hf hmem hin
    rw [hsame rfl _ (indexOf?_of_childIds hfront hsplit), hsplit, filter_ne_split hfront hback,
      placed_split hfront hback]
  · -- it comes from another list
    have hout : id ∉ target.childIds := fun hin' =>
      hone (congrArg Layer.id (eq_of_mem_children hf hmem htarget hin hin'))
    rw [filter_ne_of_not_mem hout, placed_of_not_mem hout, hother hone]

theorem childIds_insertIn_withoutIn (parent : String) (layer : Layer) (position : Option Int)
    (l : Layer) :
    (insertIn parent layer position (withoutIn layer.id l)).childIds =
      let others := l.childIds.filter (· ≠ layer.id)
      let k := slotsBefore others.length position
      if l.id = parent ∧ l.holdsLayers = true then others.take k ++ layer.id :: others.drop k
      else others := by
  have hleft := sameButChildren_withoutIn layer.id l
  rw [childIds_insertIn, hleft.id_eq, hleft.holdsLayers, childIds_withoutIn]

/-- In a forest of distinct ids a move of a layer that is not at the top relocates it. -/
theorem relocates_of_move (hf : (ids f).Nodup) (hroot : ∀ l ∈ f, l.id ≠ id)
    (h : move? f id parent position = some g) : Relocates f g id parent position := by
  have hperm := perm_ids_move hf h
  have hg : (ids g).Nodup := hperm.nodup_iff.mpr hf
  obtain ⟨moved, target, shifted, hmoved, htarget, hholds, hout, rfl, hshifted⟩ :=
    exists_shifted_of_move h
  obtain ⟨hmem, rfl⟩ := find?_eq_some hmoved
  obtain ⟨htargetmem, rfl⟩ := find?_eq_some htarget
  obtain ⟨current, hcurrentmem, hcurrentchild⟩ :=
    (mem_or_exists_parent hmem).resolve_left fun htop => hroot moved htop rfl
  have hcurrent : parentOf? f moved.id = some current :=
    parentOf?_of_mem_children hf hcurrentmem (List.mem_map_of_mem hcurrentchild)
  obtain ⟨hother, hsame⟩ := hshifted current hcurrent
  -- the layer as it is at the end, by what each step makes of it
  have hafter : ∀ l ∈ preorder f, l.id ∉ moved.ids →
      ∃ m, m ∈ preorder (insert target.id moved shifted (without moved.id f)) ∧
        l.SameButChildren m ∧ m.childIds =
          if l.id = target.id then placed moved.id position l.childIds
          else l.childIds.filter (· ≠ moved.id) := by
    intro l hl hlout
    refine ⟨_, insertIn_mem_preorder (withoutIn_mem_preorder hf hmem hl hlout),
      (sameButChildren_withoutIn moved.id l).trans (sameButChildren_insertIn _ _ _ _), ?_⟩
    rw [childIds_insertIn_withoutIn]
    by_cases hl' : l.id = target.id
    · obtain rfl : l = target := eq_of_mem_preorder hf hl htargetmem hl'
      rw [if_pos rfl, placed_childIds hf hcurrent hl hother hsame]
      exact if_pos ⟨rfl, hholds⟩
    · rw [if_neg hl']
      exact if_neg fun hboth => hl' hboth.1
  obtain ⟨host, hhost, hhostsame, hhostchildren⟩ := hafter target htargetmem hout
  rw [if_pos rfl] at hhostchildren
  refine ⟨hperm, ?_, ?_, ⟨host, ?_, hhostsame.id_eq⟩, ?_⟩
  · rw [map_id_insert, map_id_without, filter_ne_of_not_mem]
    intro htop
    obtain ⟨root, hrootmem, he⟩ := List.mem_map.mp htop
    exact hroot root hrootmem he
  · rw [hmoved]
    refine find?_of_mem hg (mem_preorder_insert_self
      (withoutIn_mem_preorder hf hmem htargetmem hout) ?_ ?_)
    · exact (sameButChildren_withoutIn moved.id target).id_eq
    · exact (sameButChildren_withoutIn moved.id target).holdsLayers.trans hholds
  · refine parentOf?_of_mem_children hg hhost ?_
    rw [hhostchildren]
    exact List.mem_append_right _ List.mem_cons_self
  · intro moved' hmoved' l hl hlout
    have heq : moved' = moved := Option.some.inj (hmoved'.symm.trans hmoved)
    obtain ⟨m, hm, hkept, hchildren⟩ := hafter l hl (heq ▸ hlout)
    have hfound := find?_of_mem hg hm
    rw [hkept.id_eq] at hfound
    exact ⟨m, hfound, hkept, hchildren⟩

end Forest

end LayerDoc
