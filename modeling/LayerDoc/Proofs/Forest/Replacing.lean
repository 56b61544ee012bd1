import LayerDoc.Proofs.Forest.Moving

/-!
# Forests with one layer replaced

A replacement that keeps the id of a layer is made in that layer alone. Of two such replacements
the later one counts (`Forest.replace_replace`). In a forest of distinct ids all other layers are
found again, with their attributes and with the same children in order, and those that do not have
the replaced layer below them are found with all that is below them (`Forest.SameOutside`,
`Forest.sameOutside_replace`), as long as what was below that layer is still there. If it is not,
the same holds of all that was not below it (`Forest.RewrittenAt`,
`Forest.rewrittenAt_replace`). -/

namespace LayerDoc.Forest

variable {id : String} {replacement : Layer}

/-- Replacing an id that does not occur changes nothing. -/
theorem replace_of_not_mem {f : Forest} (h : id ∉ ids f) : replace id replacement f = f := by
  induction f using Forest.induction with
  | nil => rw [replace_nil]
  | leaf head slot rest hslot hrest =>
    rw [ids_cons, Layer.ids_leaf head hslot, List.mem_append, not_or, List.mem_singleton] at h
    rw [replace_leaf id replacement head hslot, if_neg (Ne.symm h.1), hrest h.2]
  | layers head items rest hitems hrest =>
    rw [ids_cons, Layer.ids_layers, List.mem_append, not_or, List.mem_cons, not_or] at h
    rw [replace_layers, if_neg (Ne.symm h.1.1), hitems h.1.2, hrest h.2]

theorem replaceIn_of_not_mem {l : Layer} (h : id ∉ l.ids) : replaceIn id replacement l = l := by
  have hone : replace id replacement [l] = [l] := replace_of_not_mem (by rwa [ids_singleton])
  rw [replace_cons, replace_nil] at hone
  exact List.head_eq_of_cons_eq hone

theorem sameButChildren_replaceIn {l : Layer} (h : l.id ≠ id) :
    l.SameButChildren (replaceIn id replacement l) := by
  obtain ⟨head, slot⟩ := l
  have hne : ¬ head.id = id := h
  cases slot with
  | layers items =>
    rw [replaceIn_layers, if_neg hne]
    exact ⟨rfl, rfl, fun hleaf => by cases hleaf⟩
  | text content | bound variableId =>
    rw [replaceIn_leaf id replacement head rfl, if_neg hne]
    exact ⟨rfl, rfl, fun _ => rfl⟩

theorem childIds_replaceIn {l : Layer} (hid : replacement.id = id) (h : l.id ≠ id) :
    (replaceIn id replacement l).childIds = l.childIds := by
  obtain ⟨head, slot⟩ := l
  have hne : ¬ head.id = id := h
  cases slot with
  | layers items =>
    rw [replaceIn_layers, if_neg hne, Layer.childIds_layers, Layer.childIds_layers,
      map_id_replace hid]
  | text content | bound variableId => rw [replaceIn_leaf id replacement head rfl, if_neg hne]

theorem id_replaceIn (hid : replacement.id = id) (l : Layer) :
    (replaceIn id replacement l).id = l.id := by
  by_cases h : l.id = id
  · rw [replaceIn_self h, hid, h]
  · exact (sameButChildren_replaceIn h).id_eq

theorem replace_eq_map (id : String) (replacement : Layer) (f : Forest) :
    replace id replacement f = f.map (replaceIn id replacement) := by
  induction f with
  | nil => rw [replace_nil, List.map_nil]
  | cons l rest ih => rw [replace_cons, ih, List.map_cons]

/-- Of two replacements the later one counts, if the first kept the id. -/
theorem replace_replace {first : Layer} (hid : first.id = id) (f : Forest) :
    replace id replacement (replace id first f) = replace id replacement f := by
  induction f using Forest.induction with
  | nil => rw [replace_nil]
  | leaf head slot rest hslot hrest =>
    rw [replace_leaf _ _ _ hslot, replace_leaf _ _ _ hslot, ← hrest]
    by_cases h : head.id = id
    · rw [if_pos h, if_pos h, replace_cons, replaceIn_self hid]
    · rw [if_neg h, if_neg h, replace_leaf _ _ _ hslot, if_neg h]
  | layers head items rest hitems hrest =>
    rw [replace_layers, replace_layers, ← hrest]
    by_cases h : head.id = id
    · rw [if_pos h, if_pos h, replace_cons, replaceIn_self hid]
    · rw [if_neg h, if_neg h, replace_layers, if_neg h, hitems]

/-- A listed layer is listed after the replacement as well, unless it was below what is replaced. -/
theorem replaceIn_mem_preorder_or {f : Forest} {l : Layer} (hl : l ∈ preorder f) :
    replaceIn id replacement l ∈ preorder (replace id replacement f) ∨
      ∃ m ∈ preorder f, m.id = id ∧ l ∈ preorder m.children := by
  induction f using Forest.induction with
  | nil => simp at hl
  | leaf head slot rest hslot hrest =>
    rw [preorder_cons, Layer.preorder_leaf head hslot, List.singleton_append, List.mem_cons] at hl
    rw [replace_cons, preorder_cons]
    rcases hl with rfl | hl
    · exact Or.inl (List.mem_append_left _ (Layer.mem_preorder_self _))
    · rcases hrest hl with hlisted | ⟨m, hm, hbelow⟩
      · exact Or.inl (List.mem_append_right _ hlisted)
      · exact Or.inr ⟨m, by simp [hm], hbelow⟩
  | layers head items rest hitems hrest =>
    rw [preorder_cons, Layer.preorder_layers, List.cons_append, List.mem_cons,
      List.mem_append] at hl
    rcases hl with rfl | hl | hl
    · rw [replace_cons, preorder_cons]
      exact Or.inl (List.mem_append_left _ (Layer.mem_preorder_self _))
    · by_cases h : head.id = id
      · exact Or.inr ⟨.node head (.layers items), by simp, h, hl⟩
      · rcases hitems hl with hlisted | ⟨m, hm, hbelow⟩
        · refine Or.inl ?_
          rw [replace_layers, if_neg h, preorder_cons, Layer.preorder_layers]
          exact List.mem_append_left _ (List.mem_cons_of_mem _ hlisted)
        · exact Or.inr ⟨m, by simp [hm], hbelow⟩
    · rcases hrest hl with hlisted | ⟨m, hm, hbelow⟩
      · rw [replace_cons, preorder_cons]
        exact Or.inl (List.mem_append_right _ hlisted)
      · exact Or.inr ⟨m, by simp [hm], hbelow⟩

theorem mem_preorder_replace_self {f : Forest} {target : Layer} (ht : target ∈ preorder f)
    (hid : target.id = id) : replacement ∈ preorder (replace id replacement f) := by
  induction f using Forest.induction with
  | nil => simp at ht
  | leaf head slot rest hslot hrest =>
    rw [preorder_cons, Layer.preorder_leaf head hslot, List.singleton_append, List.mem_cons] at ht
    rw [replace_leaf _ _ _ hslot, preorder_cons]
    rcases ht with rfl | ht
    · have hhead : head.id = id := hid
      rw [if_pos hhead]
      exact List.mem_append_left _ replacement.mem_preorder_self
    · exact List.mem_append_right _ (hrest ht)
  | layers head items rest hitems hrest =>
    rw [preorder_cons, Layer.preorder_layers, List.cons_append, List.mem_cons,
      List.mem_append] at ht
    rw [replace_layers, preorder_cons]
    by_cases h : head.id = id
    · rw [if_pos h]
      exact List.mem_append_left _ replacement.mem_preorder_self
    · rw [if_neg h, Layer.preorder_layers]
      rcases ht with rfl | ht | ht
      · exact absurd hid h
      · exact List.mem_append_left _ (List.mem_cons_of_mem _ (hitems ht))
      · exact List.mem_append_right _ (hrest ht)

/-- A search for a replaced layer finds the replacement, if it kept the id. -/
theorem find?_replace_self (hid : replacement.id = id) (f : Forest) :
    find? (replace id replacement f) id = (find? f id).map fun _ => replacement := by
  have hself : replacement.preorder.find? (·.id == id) = some replacement := by
    rw [Layer.preorder_eq, List.find?_cons_of_pos (by simp [hid])]
  induction f using Forest.induction with
  | nil =>
    rw [replace_nil]
    rfl
  | leaf head slot rest hslot hrest =>
    rw [find?, find?] at hrest
    rw [replace_leaf _ _ _ hslot, find?, find?, preorder_cons, preorder_cons,
      Layer.preorder_leaf head hslot, List.singleton_append]
    by_cases h : head.id = id
    · rw [if_pos h, List.find?_append, hself, List.find?_cons_of_pos (by simp [h])]
      rfl
    · rw [if_neg h, Layer.preorder_leaf head hslot, List.singleton_append,
        List.find?_cons_of_neg (by simp [h]), List.find?_cons_of_neg (by simp [h]), hrest]
  | layers head items rest hitems hrest =>
    rw [find?, find?] at hitems hrest
    rw [replace_layers, find?, find?, preorder_cons, preorder_cons, Layer.preorder_layers,
      List.cons_append]
    by_cases h : head.id = id
    · rw [if_pos h, List.find?_append, hself, List.find?_cons_of_pos (by simp [h])]
      rfl
    · rw [if_neg h, Layer.preorder_layers, List.cons_append, List.find?_cons_of_neg (by simp [h]),
        List.find?_cons_of_neg (by simp [h]), List.find?_append, List.find?_append, hitems, hrest,
        Option.map_or]

/-- In a forest of distinct ids a replacement with the same ids changes none. -/
theorem ids_replace_of_mem {f : Forest} (hf : (ids f).Nodup) {target : Layer}
    (ht : target ∈ preorder f) (hsame : replacement.ids = target.ids) :
    ids (replace target.id replacement f) = ids f := by
  refine ids_replace fun l hl hid => ?_
  rw [hsame, eq_of_mem_preorder hf hl ht hid]

theorem replace_cons_self {l : Layer} {rest : Forest} (h : l.id ∉ ids rest) (replacement : Layer) :
    replace l.id replacement (l :: rest) = replacement :: rest := by
  rw [replace_cons, replace_of_not_mem h, replaceIn_self rfl]

theorem replace_cons_of_not_mem {l : Layer} (h : id ∉ l.ids) (rest : Forest) :
    replace id replacement (l :: rest) = l :: replace id replacement rest := by
  rw [replace_cons, replaceIn_of_not_mem h]

/-- The ids of a forest around those of a layer, which give way to the ids of what replaces it. -/
structure IdsAround (f : Forest) (target : Layer) (front back : List String) : Prop where
  split : ids f = front ++ target.ids ++ back
  replaced : ∀ replacement,
    ids (replace target.id replacement f) = front ++ replacement.ids ++ back

namespace IdsAround

variable {target l : Layer} {rest items : Forest} {front back : List String}

/-- The first layer of a forest is replaced as a whole. -/
theorem head (hdisjoint : l.ids.Disjoint (ids rest)) : IdsAround (l :: rest) l [] (ids rest) := by
  refine ⟨by simp, fun replacement => ?_⟩
  rw [replace_cons_self (fun hmem => hdisjoint l.id_mem_ids hmem), ids_cons, List.nil_append]

theorem cons (h : IdsAround rest target front back) (hnew : target.id ∉ l.ids) :
    IdsAround (l :: rest) target (l.ids ++ front) back := by
  refine ⟨?_, fun replacement => ?_⟩
  · rw [ids_cons, h.split]
    simp
  · rw [replace_cons_of_not_mem hnew, ids_cons, h.replaced]
    simp

theorem below {head : Head} (h : IdsAround items target front back) (hne : head.id ≠ target.id)
    (hnew : target.id ∉ ids rest) :
    IdsAround (.node head (.layers items) :: rest) target (head.id :: front)
      (back ++ ids rest) := by
  refine ⟨?_, fun replacement => ?_⟩
  · rw [ids_cons, Layer.ids_layers, h.split]
    simp
  · rw [replace_layers, if_neg hne, replace_of_not_mem hnew, ids_cons, Layer.ids_layers, h.replaced]
    simp

end IdsAround

/-- In a forest of distinct ids every listed layer has the ids of others around its own. -/
theorem exists_ids_around {f : Forest} (hf : (ids f).Nodup) {target : Layer}
    (ht : target ∈ preorder f) : ∃ front back, IdsAround f target front back := by
  induction f using Forest.induction with
  | nil => simp at ht
  | leaf head slot rest hslot hrest =>
    rw [preorder_cons, Layer.preorder_leaf head hslot, List.singleton_append, List.mem_cons] at ht
    rw [ids_cons] at hf
    obtain ⟨-, hright, hdisjoint⟩ := List.nodup_append'.mp hf
    rcases ht with rfl | ht
    · exact ⟨_, _, .head hdisjoint⟩
    · obtain ⟨front, back, h⟩ := hrest hright ht
      exact ⟨_, _, h.cons fun hmem => hdisjoint hmem (mem_ids_iff.mpr ⟨target, ht, rfl⟩)⟩
  | layers head items rest hitems hrest =>
    rw [preorder_cons, Layer.preorder_layers, List.cons_append, List.mem_cons,
      List.mem_append] at ht
    rw [ids_cons] at hf
    obtain ⟨hleft, hright, hdisjoint⟩ := List.nodup_append'.mp hf
    rcases ht with rfl | ht | ht
    · exact ⟨_, _, .head hdisjoint⟩
    · rw [Layer.ids_layers] at hleft hdisjoint
      rw [List.nodup_cons] at hleft
      have hlisted : target.id ∈ ids items := mem_ids_iff.mpr ⟨target, ht, rfl⟩
      obtain ⟨front, back, h⟩ := hitems hleft.2 ht
      exact ⟨_, _, h.below (fun he => hleft.1 (he ▸ hlisted))
        fun hmem => hdisjoint (List.mem_cons_of_mem _ hlisted) hmem⟩
    · obtain ⟨front, back, h⟩ := hrest hright ht
      exact ⟨_, _, h.cons fun hmem => hdisjoint hmem (mem_ids_iff.mpr ⟨target, ht, rfl⟩)⟩

/-- In a forest of distinct ids an id of before is listed after a replacement that keeps the id of
the layer, unless it was below the layer and is not below the replacement. -/
theorem mem_ids_replace_iff {f : Forest} (hf : (ids f).Nodup) {target : Layer}
    (ht : target ∈ preorder f) (hid : replacement.id = target.id) {other : String}
    (hother : other ∈ ids f) :
    other ∈ ids (replace target.id replacement f) ↔
      (other ∈ ids target.children → other ∈ ids replacement.children) := by
  obtain ⟨front, back, hsplit, hreplaced⟩ := exists_ids_around hf ht
  rw [hreplaced, replacement.ids_eq, hid]
  rw [hsplit, target.ids_eq, List.append_assoc, List.cons_append] at hf hother
  obtain ⟨-, hmiddle, hfront⟩ := List.nodup_append'.mp hf
  rw [List.nodup_cons, List.nodup_append', List.mem_append, not_or] at hmiddle
  simp only [List.mem_append, List.mem_cons] at hother ⊢
  constructor
  · rintro ((hlisted | rfl | hlisted) | hlisted) hbelow
    · exact absurd (List.mem_cons_of_mem _ (List.mem_append_left _ hbelow))
        (List.disjoint_left.mp hfront hlisted)
    · exact absurd hbelow hmiddle.1.1
    · exact hlisted
    · exact absurd hlisted (List.disjoint_left.mp hmiddle.2.2.2 hbelow)
  · intro hback
    rcases hother with hlisted | rfl | hlisted | hlisted
    · exact Or.inl (Or.inl hlisted)
    · exact Or.inl (Or.inr (Or.inl rfl))
    · exact Or.inl (Or.inr (Or.inr (hback hlisted)))
    · exact Or.inr hlisted

/-! ## What a replacement leaves as it is -/

/-- All layers but the one with an id are as they were. -/
structure SameOutside (f g : Forest) (id : String) : Prop where
  sameRoots : g.map Layer.id = f.map Layer.id
  /-- Any other layer keeps its attributes and its children in order. If the one layer is not below
  it, then all that is below it is as it was. -/
  others : ∀ l ∈ preorder f, l.id ≠ id → ∃ m, find? g l.id = some m ∧ l.SameButChildren m ∧
    m.childIds = l.childIds ∧ (id ∉ l.ids → m = l)

/-- A layer that is still listed, with the replacement made in it, is found again. -/
theorem exists_kept_of_replace {f : Forest} {target l : Layer} (hid : replacement.id = target.id)
    (hg : (ids (replace target.id replacement f)).Nodup) (hne : l.id ≠ target.id)
    (hlisted : replaceIn target.id replacement l ∈ preorder (replace target.id replacement f)) :
    ∃ m, find? (replace target.id replacement f) l.id = some m ∧ l.SameButChildren m ∧
      m.childIds = l.childIds ∧ (target.id ∉ l.ids → m = l) := by
  have hsame : l.SameButChildren (replaceIn target.id replacement l) :=
    sameButChildren_replaceIn hne
  exact ⟨_, hsame.id_eq ▸ find?_of_mem hg hlisted, hsame, childIds_replaceIn hid hne,
    replaceIn_of_not_mem⟩

/-- In a forest of distinct ids a replacement that keeps the id, and what is below the layer, is
found in place of the layer, and all other layers are as they were. -/
theorem sameOutside_replace {f : Forest} (hf : (ids f).Nodup) {target : Layer}
    (ht : target ∈ preorder f) (hid : replacement.id = target.id)
    (hbelow : preorder target.children ⊆ preorder replacement.children)
    (hg : (ids (replace target.id replacement f)).Nodup) :
    find? (replace target.id replacement f) target.id = some replacement ∧
      SameOutside f (replace target.id replacement f) target.id := by
  have hself : replacement ∈ preorder (replace target.id replacement f) :=
    mem_preorder_replace_self ht rfl
  refine ⟨hid ▸ find?_of_mem hg hself, map_id_replace hid f, fun l hl hne => ?_⟩
  have hkept : replaceIn target.id replacement l ∈ preorder (replace target.id replacement f) ∨
      ∃ m ∈ preorder f, m.id = target.id ∧ l ∈ preorder m.children := replaceIn_mem_preorder_or hl
  rcases hkept with hlisted | ⟨m, hm, hmid, hinside⟩
  · exact exists_kept_of_replace hid hg hne hlisted
  · -- what was below the layer is below the replacement
    have heq : m = target := eq_of_mem_preorder hf hm ht hmid
    have hlisted : l ∈ preorder (replace target.id replacement f) := by
      refine (preorder_sublist_of_mem hself).subset ?_
      rw [Layer.preorder_eq]
      exact List.mem_cons_of_mem _ (hbelow (heq ▸ hinside))
    exact ⟨l, find?_of_mem hg hlisted, ⟨rfl, rfl, fun _ => rfl⟩, rfl, fun _ => rfl⟩

/-- A forest before and after a layer was written anew, with what is below it. -/
structure RewrittenAt (f g : Forest) (layer updated : Layer) : Prop where
  sameRoots : g.map Layer.id = f.map Layer.id
  /-- The ids that were listed with the layer give way to those of the new one. -/
  ids : ∃ front back, Forest.ids f = front ++ layer.ids ++ back ∧
    Forest.ids g = front ++ updated.ids ++ back
  found : find? g layer.id = some updated
  /-- Any layer that was not below it keeps its attributes and its children in order. If it was not
  above it either, then all that is below it is as it was. -/
  others : ∀ l ∈ preorder f, l.id ∉ layer.ids → ∃ m, find? g l.id = some m ∧ l.SameButChildren m ∧
    m.childIds = l.childIds ∧ (layer.id ∉ l.ids → m = l)

theorem nodup_ids_replace {f : Forest} (hf : (ids f).Nodup) {target : Layer}
    (ht : target ∈ preorder f) (hsub : replacement.ids.Sublist target.ids) :
    (ids (replace target.id replacement f)).Nodup := by
  refine hf.sublist (ids_replace_sublist fun l hl hid => ?_)
  rwa [eq_of_mem_preorder hf hl ht hid]

/-- In a forest of distinct ids a replacement that keeps the id, and brings no others that were not
below the layer, makes a difference to what is below the layer only. -/
theorem rewrittenAt_replace {f : Forest} (hf : (ids f).Nodup) {target : Layer}
    (ht : target ∈ preorder f) (hid : replacement.id = target.id)
    (hsub : replacement.ids.Sublist target.ids) :
    RewrittenAt f (replace target.id replacement f) target replacement := by
  have hg := nodup_ids_replace hf ht hsub
  obtain ⟨front, back, hsplit, hreplaced⟩ := exists_ids_around hf ht
  have hself : replacement ∈ preorder (replace target.id replacement f) :=
    mem_preorder_replace_self ht rfl
  refine ⟨map_id_replace hid f, ⟨front, back, hsplit, hreplaced replacement⟩,
    hid ▸ find?_of_mem hg hself, fun l hl hout => ?_⟩
  have hne : l.id ≠ target.id := fun he => hout (he ▸ target.id_mem_ids)
  have hkept : replaceIn target.id replacement l ∈ preorder (replace target.id replacement f) ∨
      ∃ m ∈ preorder f, m.id = target.id ∧ l ∈ preorder m.children := replaceIn_mem_preorder_or hl
  rcases hkept with hlisted | ⟨m, hm, hmid, hinside⟩
  · exact exists_kept_of_replace hid hg hne hlisted
  · have heq : m = target := eq_of_mem_preorder hf hm ht hmid
    rw [heq] at hinside
    rw [Layer.ids_eq, List.mem_cons, not_or] at hout
    exact absurd (mem_ids_iff.mpr ⟨l, hinside, rfl⟩) hout.2

end LayerDoc.Forest
