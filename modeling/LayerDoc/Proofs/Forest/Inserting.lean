import LayerDoc.Proofs.Forest.Removing
import LayerDoc.Proofs.Forest.Visiting

/-!
# What is put into a forest

A layer is put into a forest from the top down: each layer with the parent's id takes it in, and
then its children are visited, the new one among them (`Layer.Visited`). If the parent's id does not
occur in the new layer, the visit comes to an end, and its outcome is the forest in which every such
layer has the new one among the children that it had (`Forest.visitedAll_insert`). A new layer can
be taken out again, which gives back the forest as it was, whatever ids are repeated
(`Forest.without_insert`). In a forest of distinct ids exactly one layer takes it in
(`Forest.TakesIn`, `Forest.takesIn_insert`): to put it there is to replace the parent
(`Forest.insert_eq_replace`), so all other layers stay as they are.
-/

namespace LayerDoc

namespace Layer

theorem slot_of_holdsLayers {l : Layer} (h : l.holdsLayers = true) :
    l.slot = .layers l.children := by
  obtain ⟨head, slot⟩ := l
  cases slot with
  | layers items => rfl
  | text content | bound variableId => cases h

/-- A layer with another one put among its children, if it has the parent's id and a list of
children. -/
def withChild (parent : String) (layer : Layer) (position : Option Int) (l : Layer) : Layer :=
  if l.id = parent ∧ l.holdsLayers = true then
    l.withSlot (.layers (Forest.insertAt l.children layer position))
  else l

theorem withChild_of_leaf {l : Layer} (parent : String) (layer : Layer) (position : Option Int)
    (h : l.holdsLayers = false) : withChild parent layer position l = l := by
  rw [withChild, if_neg fun hboth => by rw [h] at hboth; cases hboth.2]

theorem withChild_layers (parent : String) (layer : Layer) (position : Option Int) (head : Head)
    (items : Forest) :
    withChild parent layer position (.node head (.layers items)) =
      .node head (.layers (if head.id = parent then Forest.insertAt items layer position
        else items)) := by
  rw [withChild]
  by_cases h : head.id = parent
  · rw [if_pos ⟨h, rfl⟩, if_pos h]
    rfl
  · rw [if_neg fun hboth => h hboth.1, if_neg h]

end Layer

namespace Forest

/-! ## Places in a list of children -/

/-- The index of a layer that is put into a list: its position, but none below zero or past the end.
Without a position it comes last. -/
def indexAt (size : Nat) (position : Option Int) : Nat := min (slotsBefore size position) size

theorem insertIdx_eq_append {i : Nat} {items : Forest} (h : i ≤ items.length) (layer : Layer) :
    items.insertIdx i layer = items.take i ++ layer :: items.drop i := by
  induction items generalizing i with
  | nil =>
    cases i with
    | zero => rfl
    | succ i => simp at h
  | cons first rest ih =>
    cases i with
    | zero => rfl
    | succ i => simp [ih (Nat.le_of_succ_le_succ h)]

theorem insertAt_eq_insertIdx (items : Forest) (layer : Layer) (position : Option Int) :
    insertAt items layer position = items.insertIdx (indexAt items.length position) layer := by
  rw [insertAt_eq, indexAt, insertIdx_eq_append (Nat.min_le_right _ _)]
  rcases Nat.le_total (slotsBefore items.length position) items.length with h | h
  · rw [Nat.min_eq_left h]
  · rw [Nat.min_eq_right h, List.take_of_length_le h, List.drop_of_length_le h,
      List.take_length, List.drop_length]

/-! ## Putting in -/

section

variable {parent : String} {f : Forest}

theorem insert_of_no_holder (h : holders parent f = 0) (layer : Layer) (position : Option Int) :
    insert parent layer position f = f := by
  induction f using Forest.induction with
  | nil => rw [insert_nil]
  | leaf head slot rest hslot hrest =>
    rw [holders_leaf parent head hslot] at h
    rw [insert_leaf _ _ _ _ hslot, hrest h]
  | layers head items rest hitems hrest =>
    rw [holders_layers, Nat.add_eq_zero_iff, Nat.add_eq_zero_iff] at h
    have hne : ¬ head.id = parent := fun he => by simp [he] at h
    rw [insert_cons, insertIn_layers, if_neg hne, hitems h.1.2, hrest h.2]

theorem insert_of_not_mem (h : parent ∉ ids f) (layer : Layer) (position : Option Int) :
    insert parent layer position f = f := by
  refine insert_of_no_holder (Nat.eq_zero_of_le_zero ?_) layer position
  exact (holders_le_count parent f).trans_eq (List.count_eq_zero.mpr h)

variable {layer : Layer} {position : Option Int}

/-- Layers without the parent's id are visited and stay as they are. -/
theorem visitedAll_of_not_mem (h : parent ∉ ids f) :
    Layer.VisitedAll (Layer.withChild parent layer position) f f :=
  .of_fixed fun l hl => if_neg fun hboth => h (mem_ids_iff.mpr ⟨l, hl, hboth.1⟩)

/-- To put a layer in from the top down, where the new one is visited as well, is to put it into the
children that each layer with the parent's id has had. -/
theorem visitedAll_insert (h : parent ∉ layer.ids) (f : Forest) :
    Layer.VisitedAll (Layer.withChild parent layer position) f
      (insert parent layer position f) := by
  have hself : Layer.Visited (Layer.withChild parent layer position) layer layer := by
    have hone : Layer.VisitedAll (Layer.withChild parent layer position) [layer] [layer] :=
      visitedAll_of_not_mem (by rwa [ids_singleton])
    cases hone with
    | cons hvisit _ => exact hvisit
  induction f using Forest.induction with
  | nil =>
    rw [insert_nil]
    exact .nil
  | leaf head slot rest hslot hrest =>
    rw [insert_leaf _ _ _ _ hslot]
    exact .cons (.of_leaf (Layer.withChild_of_leaf parent layer position hslot) hslot) hrest
  | layers head items rest hitems hrest =>
    rw [insert_cons, insertIn_layers]
    refine .cons (.layers (Layer.withChild_layers parent layer position head items) ?_) hrest
    by_cases hparent : head.id = parent
    · -- the new layer is visited at its place among the children, and comes out as it is
      rw [if_pos hparent, if_pos hparent, insertAt_eq_insertIdx, insertAt_eq_insertIdx,
        hitems.length_eq]
      exact hitems.insertIdx hself _
    · rw [if_neg hparent, if_neg hparent]
      exact hitems

end

/-! ## Taking out what was put in -/

theorem without_append (id : String) (f g : Forest) :
    without id (f ++ g) = without id f ++ without id g := by
  induction f with
  | nil => rw [without_nil, List.nil_append, List.nil_append]
  | cons l rest ih =>
    rw [List.cons_append, without_cons, without_cons, ih]
    split
    · rfl
    · rfl

/-- A new layer that was put in is taken out again with nothing else. -/
theorem without_insert {parent : String} {layer : Layer} {f : Forest} (h : layer.id ∉ ids f)
    (position : Option Int) : without layer.id (insert parent layer position f) = f := by
  induction f using Forest.induction with
  | nil => rw [insert_nil, without_nil]
  | leaf head slot rest hslot hrest =>
    rw [ids_cons, Layer.ids_leaf head hslot, List.mem_append, not_or, List.mem_singleton] at h
    rw [insert_leaf _ _ _ _ hslot, without_leaf _ _ hslot, if_neg (Ne.symm h.1), hrest h.2]
  | layers head items rest hitems hrest =>
    rw [ids_cons, Layer.ids_layers, List.mem_append, not_or, List.mem_cons, not_or] at h
    rw [insert_cons, insertIn_layers, without_layers, if_neg (Ne.symm h.1.1), hrest h.2]
    by_cases hparent : head.id = parent
    · have hparts := without_append layer.id
        ((insert parent layer position items).take
          (slotsBefore (insert parent layer position items).length position))
        ((insert parent layer position items).drop
          (slotsBefore (insert parent layer position items).length position))
      rw [List.take_append_drop, hitems h.1.2] at hparts
      rw [if_pos hparent, insertAt_eq, without_append, without_cons, if_pos rfl, ← hparts]
    · rw [if_neg hparent, hitems h.1.2]

/-! ## The one layer that takes another in -/

/-- In a forest of distinct ids a layer that comes to the children of another makes a difference to
that one only. -/
theorem insert_eq_replace {f : Forest} (hf : (ids f).Nodup) {parent : Layer} {items : Forest}
    (hparent : parent ∈ preorder f) (hslot : parent.slot = .layers items) (layer : Layer)
    (position : Option Int) :
    insert parent.id layer position f =
      replace parent.id (parent.withSlot (.layers (insertAt items layer position))) f := by
  induction f using Forest.induction with
  | nil => simp at hparent
  | leaf head slot rest hleaf hrest =>
    rw [ids_cons, Layer.ids_leaf head hleaf, List.singleton_append, List.nodup_cons] at hf
    rw [preorder_cons, Layer.preorder_leaf head hleaf, List.singleton_append,
      List.mem_cons] at hparent
    rcases hparent with rfl | hparent
    · have hlist : slot = .layers items := hslot
      rw [hlist] at hleaf
      cases hleaf
    · have hne : head.id ≠ parent.id := fun he => hf.1 (he ▸ mem_ids_iff.mpr ⟨parent, hparent, rfl⟩)
      rw [insert_leaf _ _ _ _ hleaf, replace_leaf _ _ _ hleaf, if_neg hne, hrest hf.2 hparent]
  | layers head below rest hbelow hrest =>
    rw [ids_cons, Layer.ids_layers, List.nodup_append', List.nodup_cons] at hf
    obtain ⟨⟨hhead, hitems⟩, hright, hdisjoint⟩ := hf
    rw [preorder_cons, Layer.preorder_layers, List.cons_append, List.mem_cons,
      List.mem_append] at hparent
    rw [insert_cons, insertIn_layers, replace_layers]
    rcases hparent with rfl | hparent | hparent
    · have hlist : Slot.layers below = .layers items := hslot
      cases hlist
      have hnot : head.id ∉ ids rest := List.disjoint_left.mp hdisjoint List.mem_cons_self
      rw [Layer.id_node, if_pos rfl, if_pos rfl, insert_of_not_mem hhead, insert_of_not_mem hnot,
        replace_of_not_mem hnot]
      rfl
    · have hid : parent.id ∈ ids below := mem_ids_iff.mpr ⟨parent, hparent, rfl⟩
      have hnot : parent.id ∉ ids rest :=
        List.disjoint_left.mp hdisjoint (List.mem_cons_of_mem _ hid)
      have hne : head.id ≠ parent.id := fun he => hhead (he ▸ hid)
      rw [if_neg hne, if_neg hne, insert_of_not_mem hnot, replace_of_not_mem hnot,
        hbelow hitems hparent]
    · have hid : parent.id ∈ ids rest := mem_ids_iff.mpr ⟨parent, hparent, rfl⟩
      have hnot : parent.id ∉ head.id :: ids below := fun hmem => hdisjoint hmem hid
      rw [List.mem_cons, not_or] at hnot
      rw [if_neg (Ne.symm hnot.1), if_neg (Ne.symm hnot.1), insert_of_not_mem hnot.2,
        replace_of_not_mem hnot.2, hrest hright hparent]

/-- A forest before and after one of its layers, the host, took a new one in. -/
structure TakesIn (f g : Forest) (host layer : Layer) (position : Option Int) : Prop where
  found : find? g layer.id = some layer
  /-- The host has the new layer among its children, at the index of the position. -/
  place : find? g host.id = some (host.withSlot
    (.layers (host.children.insertIdx (indexAt host.children.length position) layer)))
  parent : parentOf? g layer.id = find? g host.id
  others : SameOutside f g host.id
  sameIds : (ids g).Perm (layer.ids ++ ids f)

/-- In a forest of distinct ids a layer of new ids is taken in by its parent alone. -/
theorem takesIn_insert {f : Forest} {host layer : Layer} (hids : (ids f ++ layer.ids).Nodup)
    (hhost : host ∈ preorder f) (hholds : host.holdsLayers = true) (position : Option Int) :
    TakesIn f (insert host.id layer position f) host layer position := by
  obtain ⟨hf, hlayer, hdisjoint⟩ := List.nodup_append'.mp hids
  have hg := nodup_ids_insert hf hlayer hdisjoint host.id position
  have hlisted : layer ∈ preorder (insert host.id layer position f) :=
    mem_preorder_insert_self hhost rfl hholds
  have hreplace :=
    insert_eq_replace hf hhost (Layer.slot_of_holdsLayers hholds) layer position
  obtain ⟨hfound, hothers⟩ : find? (insert host.id layer position f) host.id =
        some (host.withSlot (.layers (insertAt host.children layer position))) ∧
      SameOutside f (insert host.id layer position f) host.id := by
    rw [hreplace] at hg ⊢
    refine sameOutside_replace hf hhost rfl (fun l hl => ?_) hg
    exact (mem_preorder_insertAt layer position).mpr (Or.inr hl)
  have hchild : layer.id ∈ Layer.childIds
      (host.withSlot (.layers (insertAt host.children layer position))) := by
    refine List.mem_map_of_mem (f := Layer.id) ?_
    rw [Layer.withSlot, Layer.children_layers, insertAt_eq]
    exact List.mem_append_right _ List.mem_cons_self
  refine ⟨find?_of_mem hg hlisted, ?_, ?_, hothers, perm_ids_insert hf hhost hholds layer position⟩
  · rw [hfound, insertAt_eq_insertIdx]
  · rw [hfound]
    exact parentOf?_of_mem_children hg (find?_eq_some hfound).1 hchild

/-- A layer with an id that a forest does not have is put into it, under a parent that is not inside
of it. The walk from the top down, which goes on into the new layer, ends and gives the forest in
which each layer with the parent's id and a list of children has it among them; to take it out again
gives back the forest. Without such a parent nothing changes. If all ids are distinct, the one
parent has the new layer as it is at the index of the position, and all other layers stay as they
are. -/
theorem inserts_and_takes_back {parent : String} {layer : Layer} {f : Forest}
    (hnew : layer.id ∉ ids f) (hparent : parent ∉ layer.ids) (position : Option Int) :
    (∀ g, Layer.VisitedAll (Layer.withChild parent layer position) f g ↔
        g = insert parent layer position f) ∧
      without layer.id (insert parent layer position f) = f ∧
      takenOut layer.id (insert parent layer position f) = f ∧
      ((∀ l ∈ preorder f, l.id = parent → l.holdsLayers = false) →
        insert parent layer position f = f) ∧
      ((ids f ++ layer.ids).Nodup → ∀ host ∈ preorder f, host.id = parent →
        host.holdsLayers = true →
        TakesIn f (insert parent layer position f) host layer position) := by
  have hback : without layer.id (insert parent layer position f) = f := without_insert hnew position
  refine ⟨fun g => ⟨fun hvisit => hvisit.unique (visitedAll_insert hparent f), ?_⟩, hback, ?_,
    fun hnone => insert_of_no_holder ?_ layer position, ?_⟩
  · rintro rfl
    exact visitedAll_insert hparent f
  · rw [takenOut_eq_without, hback]
  · refine List.countP_eq_zero.mpr fun l hl hboth => ?_
    simp only [Bool.and_eq_true, decide_eq_true_eq] at hboth
    rw [hnone l hl hboth.1] at hboth
    exact Bool.false_ne_true hboth.2
  · rintro hids host hhost rfl hholds
    exact takesIn_insert hids hhost hholds position

/-- A card comes to the end of two boxes, one in the other, that have the same id, and goes out of
both. Put into a box of two texts, with distinct ids, it comes between the two at the second place,
and first at a place below zero. -/
theorem inserts_card_into_boxes :
    let leaf (id : String) : Layer := .node ⟨.component, id, "Text", none, [], []⟩ (.text "Hello")
    let box (id : String) (items : Forest) : Layer :=
      .node ⟨.component, id, "Box", none, [], []⟩ (.layers items)
    let card := box "c" [leaf "d"]
    let nested := box "b" [box "b" [leaf "x"], leaf "b"]
    let flat := box "b" [leaf "x", leaf "y"]
    card.id ∉ ids [nested] ∧ card.id ∉ ids [flat] ∧ "b" ∉ card.ids ∧
      insert "b" card none [nested] = [box "b" [box "b" [leaf "x", card], leaf "b", card]] ∧
      without "c" (insert "b" card none [nested]) = [nested] ∧
      (ids [flat] ++ card.ids).Nodup ∧
      TakesIn [flat] [box "b" [leaf "x", card, leaf "y"]] flat card (some 1) ∧
      TakesIn [flat] [box "b" [card, leaf "x", leaf "y"]] flat card (some (-3)) := by
  intro leaf box card nested flat
  have hnested : card.id ∉ ids [nested] := by decide
  have hflat : card.id ∉ ids [flat] := by decide
  have hcard : "b" ∉ card.ids := by decide
  have hids : (ids [flat] ++ card.ids).Nodup := by decide
  have hhost : flat ∈ preorder [flat] := mem_preorder_of_mem List.mem_cons_self
  obtain ⟨-, hback, -⟩ := inserts_and_takes_back hnested hcard none
  obtain ⟨-, -, -, -, hbetween⟩ := inserts_and_takes_back hflat hcard (some 1)
  obtain ⟨-, -, -, -, hfirst⟩ := inserts_and_takes_back hflat hcard (some (-3))
  exact ⟨hnested, hflat, hcard, rfl, hback, hids, hbetween hids flat hhost rfl rfl,
    hfirst hids flat hhost rfl rfl⟩

end Forest

end LayerDoc
