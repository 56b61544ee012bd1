import LayerDoc.Proofs.Forest.Replacing

/-!
# Visits from the top down

A forest is changed from the top down: each layer is changed, and then the layers that it has as
children after the change are visited, those that are new among them (`Layer.Visited`). A visit has
one outcome at most (`Layer.VisitedAll.unique`), and none if it never comes to an end. To replace a
layer by one that has its id below it has none, and in all other cases the outcome is the forest in
which every such layer has been replaced (`Forest.replace?_eq_some_iff`).
-/

namespace LayerDoc

namespace Layer

mutual

/-- A layer is changed, and then the layers that it has as children after the change are visited. -/
inductive Visited (change : Layer → Layer) : Layer → Layer → Prop
  | leaf {l : Layer} (h : (change l).holdsLayers = false) : Visited change l (change l)
  | layers {l : Layer} {head : Head} {items visited : List Layer}
      (h : change l = .node head (.layers items)) (hitems : VisitedAll change items visited) :
      Visited change l (.node head (.layers visited))

/-- The layers of a list are visited one by one. -/
inductive VisitedAll (change : Layer → Layer) : List Layer → List Layer → Prop
  | nil : VisitedAll change [] []
  | cons {l m : Layer} {rest visited : List Layer} (h : Visited change l m)
      (hrest : VisitedAll change rest visited) : VisitedAll change (l :: rest) (m :: visited)

end

mutual

/-- A visit has no more than one outcome. -/
theorem Visited.unique {change : Layer → Layer} : ∀ {l m n : Layer},
    Visited change l m → Visited change l n → m = n
  | _, _, _, .leaf _, .leaf _ => rfl
  | _, _, _, .leaf hleaf, .layers h _ => by
    rw [h] at hleaf
    cases hleaf
  | _, _, _, .layers h _, .leaf hleaf => by
    rw [h] at hleaf
    cases hleaf
  | _, _, _, .layers h hitems, .layers h' hitems' => by
    rw [h] at h'
    cases h'
    rw [hitems.unique hitems']

theorem VisitedAll.unique {change : Layer → Layer} : ∀ {f g g' : List Layer},
    VisitedAll change f g → VisitedAll change f g' → g = g'
  | _, _, _, .nil, .nil => rfl
  | _, _, _, .cons h hrest, .cons h' hrest' => by rw [h.unique h', hrest.unique hrest']

end

/-- A layer that is changed into one without a list of children is not visited any further. -/
theorem Visited.of_leaf {change : Layer → Layer} {l m : Layer} (h : change l = m)
    (hleaf : m.holdsLayers = false) : Visited change l m := by
  subst h
  exact .leaf hleaf

namespace VisitedAll

variable {change : Layer → Layer} {f g : List Layer}

theorem length_eq (h : VisitedAll change f g) : g.length = f.length := by
  induction f generalizing g with
  | nil =>
    cases h
    rfl
  | cons l rest ih =>
    cases h with
    | cons _ hrest => rw [List.length_cons, List.length_cons, ih hrest]

theorem insertIdx {l m : Layer} (h : VisitedAll change f g) (hl : Visited change l m) (i : Nat) :
    VisitedAll change (f.insertIdx i l) (g.insertIdx i m) := by
  induction f generalizing g i with
  | nil =>
    cases h
    cases i with
    | zero => exact .cons hl .nil
    | succ i => exact .nil
  | cons first rest ih =>
    cases i with
    | zero => exact .cons hl h
    | succ i =>
      cases h with
      | cons hfirst hrest => exact .cons hfirst (ih hrest i)

/-- Layers that the change leaves as they are come out as they are. -/
theorem of_fixed (h : ∀ l ∈ Forest.preorder f, change l = l) : VisitedAll change f f := by
  induction f using Forest.induction with
  | nil => exact .nil
  | leaf head slot rest hslot hrest =>
    rw [Forest.preorder_cons, preorder_leaf head hslot, List.forall_mem_append] at h
    exact .cons (.of_leaf (h.1 _ List.mem_cons_self) hslot) (hrest h.2)
  | layers head items rest hitems hrest =>
    rw [Forest.preorder_cons, preorder_layers, List.forall_mem_append, List.forall_mem_cons] at h
    exact .cons (.layers h.1.1 (hitems h.1.2)) (hrest h.2)

end VisitedAll

/-- A layer, or its replacement if it has the id. -/
def replacedBy (id : String) (replacement l : Layer) : Layer := if l.id = id then replacement else l

section

variable {id : String} {replacement : Layer}

theorem not_mem_ids_of_replacedBy (hbelow : id ∈ Forest.ids replacement.children) {l : Layer}
    (h : id ∉ Forest.ids (replacedBy id replacement l).children) : id ∉ l.ids := by
  by_cases hid : l.id = id
  · rw [replacedBy, if_pos hid] at h
    exact absurd hbelow h
  · rw [replacedBy, if_neg hid] at h
    rw [ids_eq, List.mem_cons, not_or]
    exact ⟨Ne.symm hid, h⟩

mutual

/-- A visit that comes to an end does not meet the id, if the replacement has it below. -/
theorem Visited.not_mem_ids (hbelow : id ∈ Forest.ids replacement.children) : ∀ {l m : Layer},
    Visited (replacedBy id replacement) l m → id ∉ l.ids
  | _, _, .leaf hleaf => by
    refine not_mem_ids_of_replacedBy hbelow ?_
    rw [children_of_holdsLayers_eq_false hleaf, Forest.ids_nil]
    exact List.not_mem_nil
  | _, _, .layers h hitems => by
    refine not_mem_ids_of_replacedBy hbelow ?_
    rw [h]
    exact hitems.not_mem_ids hbelow

theorem VisitedAll.not_mem_ids (hbelow : id ∈ Forest.ids replacement.children) :
    ∀ {f g : List Layer}, VisitedAll (replacedBy id replacement) f g → id ∉ Forest.ids f
  | _, _, .nil => List.not_mem_nil
  | _, _, .cons h hrest => by
    rw [Forest.ids_cons, List.mem_append, not_or]
    exact ⟨h.not_mem_ids hbelow, hrest.not_mem_ids hbelow⟩

end

/-- A replacement without the id below it is made in one visit. -/
theorem visitedAll_replace (hbelow : id ∉ Forest.ids replacement.children) (f : Forest) :
    VisitedAll (replacedBy id replacement) f (Forest.replace id replacement f) := by
  -- below the replacement the visit finds nothing to replace
  have hself : ∀ {l : Layer}, l.id = id → Visited (replacedBy id replacement) l replacement := by
    intro l hid
    have hchange : replacedBy id replacement l = replacement := if_pos hid
    have hitems : VisitedAll (replacedBy id replacement) replacement.children
        replacement.children :=
      .of_fixed fun m hm => if_neg fun he => hbelow (Forest.mem_ids_iff.mpr ⟨m, hm, he⟩)
    obtain ⟨head, slot⟩ := replacement
    cases slot with
    | layers items => exact .layers hchange hitems
    | text content | bound variableId => exact .of_leaf hchange rfl
  induction f using Forest.induction with
  | nil =>
    rw [Forest.replace_nil]
    exact .nil
  | leaf head slot rest hslot hrest =>
    rw [Forest.replace_leaf id replacement head hslot]
    split
    · next hid => exact .cons (hself hid) hrest
    · next hid => exact .cons (.of_leaf (if_neg hid) hslot) hrest
  | layers head items rest hitems hrest =>
    rw [Forest.replace_layers]
    split
    · next hid => exact .cons (hself hid) hrest
    · next hid => exact .cons (.layers (if_neg hid) hitems) hrest

end

end Layer

namespace Forest

variable {id : String} {replacement : Layer} {f g : Forest}

theorem replace?_eq_some_iff_not : replace? id replacement f = some g ↔
    ¬ (id ∈ ids f ∧ id ∈ ids replacement.children) ∧ replace id replacement f = g := by
  rw [replace?]
  split <;> simp_all

theorem replace?_eq_none_iff : replace? id replacement f = none ↔
    id ∈ ids f ∧ id ∈ ids replacement.children := by
  rw [replace?]
  split <;> simp_all

/-- There is a forest with a layer replaced exactly if the visit that replaces it comes to an end,
and it is the outcome of the visit. -/
theorem replace?_eq_some_iff : replace? id replacement f = some g ↔
    Layer.VisitedAll (Layer.replacedBy id replacement) f g := by
  have hends : ¬ (id ∈ ids f ∧ id ∈ ids replacement.children) →
      Layer.VisitedAll (Layer.replacedBy id replacement) f (replace id replacement f) := by
    intro hnot
    by_cases hbelow : id ∈ ids replacement.children
    · have hid : id ∉ ids f := fun hid => hnot ⟨hid, hbelow⟩
      rw [replace_of_not_mem hid]
      exact .of_fixed fun l hl => if_neg fun he => hid (mem_ids_iff.mpr ⟨l, hl, he⟩)
    · exact Layer.visitedAll_replace hbelow f
  rw [replace?_eq_some_iff_not]
  constructor
  · rintro ⟨hnot, rfl⟩
    exact hends hnot
  · intro hvisit
    have hnot : ¬ (id ∈ ids f ∧ id ∈ ids replacement.children) :=
      fun hboth => hvisit.not_mem_ids hboth.2 hboth.1
    exact ⟨hnot, (hends hnot).unique hvisit⟩

end Forest

end LayerDoc
