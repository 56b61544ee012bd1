import LayerDoc.Proofs.Forest.Rewriting

/-!
# Layers with other attributes

A change of the attributes of every layer leaves the shape of a forest as it is: the listing of the
changed forest is the changed listing (`Forest.preorder_mapHeads`). A change that is blind to ids
does not tell a copy from its original (`Layer.mapHeads_copy`), and one that is blind to names does
not tell a named copy from it either (`Layer.mapHeads_copyNamed`). The change that is made to
compare layers regardless of who they are takes ids, names and unknown attributes away
(`Layer.anonymous`).
-/

namespace LayerDoc

mutual

/-- A layer with its own attributes and those of all layers below it changed. -/
def Layer.mapHeads (f : Head → Head) : Layer → Layer
  | .node head (.layers items) => .node (f head) (.layers (Forest.mapHeads f items))
  | .node head (.text content) => .node (f head) (.text content)
  | .node head (.bound variableId) => .node (f head) (.bound variableId)

/-- `Layer.mapHeads` on each layer of a list. -/
def Forest.mapHeads (f : Head → Head) : List Layer → List Layer
  | [] => []
  | l :: rest => Layer.mapHeads f l :: Forest.mapHeads f rest

end

variable {f : Head → Head}

namespace Layer

theorem mapHeads_layers (head : Head) (items : Forest) :
    mapHeads f (.node head (.layers items)) =
      .node (f head) (.layers (Forest.mapHeads f items)) := rfl

theorem mapHeads_leaf (head : Head) {slot : Slot Layer} (h : slot.isList = false) :
    mapHeads f (.node head slot) = .node (f head) slot := by
  cases slot with
  | layers items => cases h
  | text content | bound variableId => rfl

@[simp] theorem head_mapHeads (l : Layer) : (l.mapHeads f).head = f l.head := by
  obtain ⟨head, slot⟩ := l
  cases slot with
  | layers items => rfl
  | text content | bound variableId => rfl

@[simp] theorem children_mapHeads (l : Layer) :
    (l.mapHeads f).children = Forest.mapHeads f l.children := by
  obtain ⟨head, slot⟩ := l
  cases slot with
  | layers items => rfl
  | text content | bound variableId => rfl

end Layer

namespace Forest

theorem mapHeads_nil : mapHeads f [] = [] := rfl

theorem mapHeads_cons (l : Layer) (rest : Forest) :
    mapHeads f (l :: rest) = l.mapHeads f :: mapHeads f rest := rfl

theorem preorder_mapHeads (g : Forest) :
    preorder (mapHeads f g) = (preorder g).map (Layer.mapHeads f) := by
  induction g using Forest.induction with
  | nil => rw [mapHeads_nil, preorder_nil, List.map_nil]
  | leaf head slot rest hslot hrest =>
    rw [mapHeads_cons, preorder_cons, preorder_cons, hrest, Layer.mapHeads_leaf head hslot,
      Layer.preorder_leaf _ hslot, Layer.preorder_leaf _ hslot, List.singleton_append,
      List.singleton_append, List.map_cons, Layer.mapHeads_leaf head hslot]
  | layers head items rest hitems hrest =>
    rw [mapHeads_cons, preorder_cons, preorder_cons, hrest, Layer.mapHeads_layers,
      Layer.preorder_layers, Layer.preorder_layers, List.map_append, List.map_cons, hitems,
      Layer.mapHeads_layers]

theorem mapHeads_copyItems (hid : ∀ head id, f { head with id := id } = f head) (g : Forest)
    (s : Supply) : mapHeads f (Layer.copyItems g s).1 = mapHeads f g := by
  induction g using Forest.induction generalizing s with
  | nil => rw [copyItems_nil]
  | leaf head slot rest hslot hrest =>
    rw [copyItems_leaf head hslot, mapHeads_cons, mapHeads_cons, hrest, Layer.mapHeads_leaf _ hslot,
      Layer.mapHeads_leaf _ hslot, hid]
  | layers head items rest hitems hrest =>
    simp only [copyItems_layers, mapHeads_cons, Layer.mapHeads_layers, hitems, hrest, hid]

end Forest

namespace Layer

theorem mapHeads_copy (hid : ∀ head id, f { head with id := id } = f head) (l : Layer)
    (s : Supply) : (l.copy s).1.mapHeads f = l.mapHeads f := by
  have h := Forest.mapHeads_copyItems hid [l] s
  simpa [copyItems_singleton, Forest.mapHeads_cons, Forest.mapHeads_nil] using h

theorem mapHeads_withNameSuffix (hname : ∀ head name, f { head with name := name } = f head)
    (l : Layer) (suffix : String) : (l.withNameSuffix suffix).mapHeads f = l.mapHeads f := by
  unfold withNameSuffix
  split
  · split
    · rfl
    · obtain ⟨head, slot⟩ := l
      cases slot <;> simp only [mapHeads, head_node, slot_node, hname]
  · rfl

theorem mapHeads_copyNamed (hid : ∀ head id, f { head with id := id } = f head)
    (hname : ∀ head name, f { head with name := name } = f head) (suffix : String) (l : Layer)
    (s : Supply) : (l.copyNamed suffix s).1.mapHeads f = l.mapHeads f := by
  rw [copyNamed, mapHeads_withNameSuffix hname, mapHeads_copy hid]

end Layer

/-! ## Anonymous layers -/

/-- The attributes without the id, the name and what the model does not know. -/
def Head.anonymous (h : Head) : Head := { h with id := "", name := none, extra := [] }

namespace Layer

/-- A layer without ids, names and unknown attributes, at any depth. -/
def anonymous (l : Layer) : Layer := l.mapHeads Head.anonymous

theorem anonymous_copy (l : Layer) (s : Supply) : (l.copy s).1.anonymous = l.anonymous :=
  mapHeads_copy (fun _ _ => rfl) l s

theorem anonymous_copyNamed (suffix : String) (l : Layer) (s : Supply) :
    (l.copyNamed suffix s).1.anonymous = l.anonymous :=
  mapHeads_copyNamed (fun _ _ => rfl) (fun _ _ => rfl) suffix l s

end Layer

end LayerDoc
