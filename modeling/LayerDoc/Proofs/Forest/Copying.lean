import LayerDoc.Proofs.Forest.Inserting
import LayerDoc.Proofs.Forest.Mapped

/-!
# Copies in a forest

A copy differs from its original in the ids, and at its root in the name (`Layer.IsCopy`,
`Layer.isCopy_copyNamed`). It is put in at the place after the original, so that it stands beside it
and all layers but the parent are as they were (`Forest.PutBeside`, `Forest.putBeside_insert`).
-/

namespace LayerDoc

/-! ## Copies and originals -/

/-- The name of a copy: that of the original, with the suffix if neither of the two is empty. -/
def copyName (suffix : String) (name : Option String) : Option String :=
  name.map fun name => if name.isEmpty || suffix.isEmpty then name else name ++ suffix

namespace Layer

/-- A layer with every id in it erased. -/
def withoutIds (l : Layer) : Layer := l.mapHeads fun head => { head with id := "" }

/-- A copy of a layer. The two are equal but for the ids, which are distinct among themselves, and
for the name at the root. -/
structure IsCopy (suffix : String) (original copy : Layer) : Prop where
  same : copy.withoutIds =
    withoutIds (.node { original.head with name := copyName suffix original.head.name }
      original.slot)
  nodup : copy.ids.Nodup

theorem withNameSuffix_eq (l : Layer) (suffix : String) :
    l.withNameSuffix suffix =
      .node { l.head with name := copyName suffix l.head.name } l.slot := by
  obtain ⟨⟨role, id, type, name, props, extra⟩, slot⟩ := l
  cases name with
  | none => rfl
  | some name =>
    by_cases hname : name = ""
    · subst hname
      rfl
    · by_cases hsuffix : suffix = ""
      · simp [withNameSuffix, copyName, hname, hsuffix]
      · simp [withNameSuffix, copyName, hname, hsuffix]

theorem withoutIds_named (l : Layer) (name : Option String) :
    withoutIds (.node { l.head with name := name } l.slot) =
      .node { l.withoutIds.head with name := name } l.withoutIds.slot := by
  obtain ⟨head, slot⟩ := l
  cases slot <;> simp [withoutIds, mapHeads]

theorem isCopy_copyNamed {suffix : String} {original copy : Layer} {s t : Supply}
    (hs : s.Injective) (h : original.copyNamed suffix s = (copy, t)) :
    original.IsCopy suffix copy := by
  refine ⟨?_, (gives_copyNamed h).nodup hs⟩
  have hcopy : copy = (original.copy s).1.withNameSuffix suffix := (congrArg Prod.fst h).symm
  have hsame : (original.copy s).1.withoutIds = original.withoutIds :=
    mapHeads_copy (fun _ _ => rfl) original s
  have hname : (original.copy s).1.head.name = original.head.name := by
    have hhead := congrArg (fun l : Layer => l.head.name) hsame
    simpa [withoutIds] using hhead
  rw [hcopy, withNameSuffix_eq, hname, withoutIds_named, withoutIds_named, hsame]

end Layer

namespace Forest

/-! ## A layer beside another -/

/-- A new layer stands right after another one in the children of the same parent. All layers but
this parent are as they were, and there are no others. -/
structure PutBeside (f g : Forest) (layer new : Layer) : Prop where
  beside : ∃ parent ∈ preorder f, ∃ front back,
    parent.slot = .layers (front ++ layer :: back) ∧
    find? g parent.id = some (parent.withSlot (.layers (front ++ layer :: new :: back))) ∧
    SameOutside f g parent.id
  sameIds : (ids g).Perm (new.ids ++ ids f)

theorem insertAt_after (front back : Forest) (layer new : Layer) :
    insertAt (front ++ layer :: back) new (some (front.length + 1 : Int)) =
      front ++ layer :: new :: back := by
  have hslots : slotsBefore (front ++ layer :: back).length (some (front.length + 1 : Int)) =
      (front ++ [layer]).length := by
    rw [slotsBefore, Option.elim_some, List.length_append, List.length_singleton]
    omega
  have hsplit : front ++ layer :: back = (front ++ [layer]) ++ back := by simp
  rw [insertAt_eq, hslots, hsplit, List.take_left, List.drop_left]
  simp

/-- The place of a layer among the children of its parent. -/
theorem exists_split_of_mem_children {f : Forest} (hf : (ids f).Nodup) {parent layer : Layer}
    (hparent : parent ∈ preorder f) (hlayer : layer ∈ parent.children) :
    ∃ front back, parent.slot = .layers (front ++ layer :: back) ∧
      indexOf? parent.children layer.id = some front.length := by
  obtain ⟨front, back, hitems⟩ := List.append_of_mem hlayer
  refine ⟨front, back, ?_, ?_⟩
  · obtain ⟨head, slot⟩ := parent
    cases slot with
    | layers items => exact congrArg Slot.layers hitems
    | text content | bound variableId => cases hlayer
  · have hchildIds : parent.childIds = front.map Layer.id ++ layer.id :: back.map Layer.id := by
      rw [Layer.childIds, hitems, List.map_append, List.map_cons]
    have hfront : layer.id ∉ front.map Layer.id := by
      have hnodup := nodup_childIds hf hparent
      rw [hchildIds, List.nodup_append'] at hnodup
      exact fun hmem => hnodup.2.2 hmem List.mem_cons_self
    rw [indexOf?_of_childIds hfront hchildIds, List.length_map]

/-- In a forest of distinct ids a new layer that is put in at the place after a layer stands beside
it. -/
theorem putBeside_insert {f : Forest} (hf : (ids f).Nodup) {parent layer new : Layer}
    (hparent : parent ∈ preorder f) (hlayer : layer ∈ parent.children) (hnew : new.ids.Nodup)
    (hdisjoint : (ids f).Disjoint new.ids) :
    PutBeside f
      (insert parent.id new ((indexOf? parent.children layer.id).map fun i => (i + 1 : Int)) f)
      layer new := by
  obtain ⟨front, back, hslot, hindex⟩ := exists_split_of_mem_children hf hparent hlayer
  have hids : (ids f ++ new.ids).Nodup := List.nodup_append'.mpr ⟨hf, hnew, hdisjoint⟩
  have hposition : ((indexOf? parent.children layer.id).map fun i => (i + 1 : Int)) =
      some (front.length + 1 : Int) := by
    rw [hindex]
    rfl
  have htaken := takesIn_insert hids hparent (Layer.holdsLayers_of_mem_children hlayer)
    (some (front.length + 1 : Int))
  have hplace := htaken.place
  rw [← insertAt_eq_insertIdx, Layer.children, hslot, Slot.items, insertAt_after] at hplace
  rw [hposition]
  exact ⟨⟨parent, hparent, front, back, hslot, hplace, htaken.others⟩, htaken.sameIds⟩

end Forest

end LayerDoc
