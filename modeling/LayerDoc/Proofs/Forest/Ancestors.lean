import LayerDoc.Proofs.Forest.Parents

/-!
# Ancestors in forests of distinct ids

The search for the way down to an id goes into one layer after the other and gives up none too
early: whatever ids are repeated, it fails exactly on an id that does not occur
(`Forest.pathTo_eq_none_iff`), and what it finds leads from the top to a parent of the id
(`Forest.leadsTo_of_pathTo`). With distinct ids no other layer has the id below it, so the way is
the listing of all that have (`Forest.ancestors_eq_filter`), and its last layer is the one that a
search of the listing for the parent finds (`Forest.ancestors_lead_to_parent`).
-/

namespace LayerDoc

/-- Whether an id is that of a layer below, at any depth. -/
def Layer.isAbove (l : Layer) (id : String) : Bool := (Forest.ids l.children).contains id

namespace Layer

theorem isAbove_iff {l : Layer} {id : String} : l.isAbove id = true ↔ id ∈ Forest.ids l.children :=
  List.contains_iff_mem

theorem isAbove_leaf (head : Head) {slot : Slot Layer} (h : slot.isList = false) (id : String) :
    isAbove (.node head slot) id = false := by
  have hnone := children_of_holdsLayers_eq_false (l := .node head slot) h
  rw [isAbove, hnone, Forest.ids_nil]
  rfl

end Layer

namespace Forest

variable {f : Forest} {id : String} {path : List Layer}

/-! ## Ways down -/

/-- The layers of a path lead down to an id: each stands among the children of the one before it,
the first one at the top, and the id is that of a child of the last one. -/
def LeadsTo (id : String) : Forest → List Layer → Prop
  | f, [] => id ∈ f.map Layer.id
  | f, l :: path => l ∈ f ∧ LeadsTo id l.children path

namespace LeadsTo

theorem cons_right {l : Layer} (h : LeadsTo id f path) : LeadsTo id (l :: f) path := by
  cases path with
  | nil => exact List.mem_cons_of_mem _ h
  | cons m path => exact ⟨List.mem_cons_of_mem _ h.1, h.2⟩

theorem head_mem (h : LeadsTo id f path) {l : Layer} (hl : path.head? = some l) : l ∈ f := by
  cases path with
  | nil => cases hl
  | cons m path =>
    cases hl
    exact h.1

theorem isChain (h : LeadsTo id f path) : path.IsChain fun l m => m ∈ l.children := by
  induction path generalizing f with
  | nil => exact .nil
  | cons l path ih =>
    cases path with
    | nil => exact .singleton l
    | cons m path => exact .cons_cons h.2.1 (ih h.2)

theorem mem_childIds_getLast (h : LeadsTo id f path) {l : Layer} (hl : path.getLast? = some l) :
    id ∈ l.childIds := by
  induction path generalizing f with
  | nil => cases hl
  | cons m path ih =>
    cases path with
    | nil =>
      cases hl
      exact h.2
    | cons n path => exact ih h.2 (by rwa [List.getLast?_cons_cons] at hl)

end LeadsTo

/-! ## The search -/

theorem pathTo_nil (id : String) : pathTo id [] = none := rfl

theorem pathTo_cons (id : String) (l : Layer) (rest : Forest) :
    pathTo id (l :: rest) = (pathInLayer id l).or (pathTo id rest) := by
  rw [pathTo]
  cases pathInLayer id l with
  | none => rfl
  | some path => rfl

theorem pathInLayer_layers (id : String) (head : Head) (items : Forest) :
    pathInLayer id (.node head (.layers items)) =
      if head.id = id then some []
      else (pathTo id items).map (.node head (.layers items) :: ·) := rfl

theorem pathInLayer_leaf (id : String) (head : Head) {slot : Slot Layer}
    (h : slot.isList = false) :
    pathInLayer id (.node head slot) = if head.id = id then some [] else none := by
  cases slot with
  | layers items => cases h
  | text content | bound variableId => rfl

theorem pathTo_leaf (head : Head) {slot : Slot Layer} (h : slot.isList = false) (rest : Forest) :
    pathTo id (.node head slot :: rest) = if head.id = id then some [] else pathTo id rest := by
  rw [pathTo_cons, pathInLayer_leaf id head h]
  by_cases hid : head.id = id
  · rw [if_pos hid, if_pos hid, Option.some_or]
  · rw [if_neg hid, if_neg hid, Option.none_or]

theorem pathTo_layers (head : Head) (items rest : Forest) :
    pathTo id (.node head (.layers items) :: rest) =
      if head.id = id then some []
      else ((pathTo id items).map (.node head (.layers items) :: ·)).or (pathTo id rest) := by
  rw [pathTo_cons, pathInLayer_layers]
  by_cases hid : head.id = id
  · rw [if_pos hid, if_pos hid, Option.some_or]
  · rw [if_neg hid, if_neg hid]

theorem pathTo_eq_none_iff : pathTo id f = none ↔ id ∉ ids f := by
  induction f using Forest.induction with
  | nil => simp [pathTo_nil]
  | leaf head slot rest hslot hrest =>
    rw [pathTo_leaf head hslot, ids_cons, Layer.ids_leaf head hslot, List.singleton_append,
      List.mem_cons, not_or, ← hrest]
    by_cases hid : head.id = id
    · simp [hid]
    · simp [hid, Ne.symm hid]
  | layers head items rest hitems hrest =>
    rw [pathTo_layers, ids_cons, Layer.ids_layers, List.cons_append, List.mem_cons, not_or,
      List.mem_append, not_or, ← hitems, ← hrest]
    by_cases hid : head.id = id
    · simp [hid]
    · simp [hid, Ne.symm hid]

/-- What is found leads down to the id, whatever ids are repeated. -/
theorem leadsTo_of_pathTo (h : pathTo id f = some path) : LeadsTo id f path := by
  induction f using Forest.induction generalizing path with
  | nil => cases (pathTo_nil id).symm.trans h
  | leaf head slot rest hslot hrest =>
    rw [pathTo_leaf head hslot] at h
    split at h
    · next hid =>
      cases h
      exact List.mem_cons.mpr (Or.inl hid.symm)
    · exact (hrest h).cons_right
  | layers head items rest hitems hrest =>
    rw [pathTo_layers] at h
    split at h
    · next hid =>
      cases h
      exact List.mem_cons.mpr (Or.inl hid.symm)
    · rcases Option.or_eq_some_iff.mp h with hinside | ⟨-, hbeside⟩
      · obtain ⟨inside, hpath, rfl⟩ := Option.map_eq_some_iff.mp hinside
        exact ⟨List.mem_cons_self, hitems hpath⟩
      · exact (hrest hbeside).cons_right

theorem leadsTo_ancestors (h : id ∈ ids f) : LeadsTo id f (ancestors f id) := by
  cases hpath : pathTo id f with
  | none => exact absurd h (pathTo_eq_none_iff.mp hpath)
  | some path =>
    rw [ancestors, hpath, Option.getD_some]
    exact leadsTo_of_pathTo hpath

theorem ancestors_of_not_mem (h : id ∉ ids f) : ancestors f id = [] := by
  rw [ancestors, pathTo_eq_none_iff.mpr h]
  rfl

/-! ## The layers above an id -/

theorem mem_ids_of_isAbove {l : Layer} (hl : l ∈ preorder f) (h : l.isAbove id = true) :
    id ∈ ids f := by
  obtain ⟨m, hm, rfl⟩ := mem_ids_iff.mp (Layer.isAbove_iff.mp h)
  refine mem_ids_iff.mpr ⟨m, (preorder_sublist_of_mem hl).subset ?_, rfl⟩
  rw [Layer.preorder_eq]
  exact List.mem_cons_of_mem _ hm

theorem filter_isAbove_of_not_mem (h : id ∉ ids f) : (preorder f).filter (·.isAbove id) = [] :=
  List.filter_eq_nil_iff.mpr fun _ hl habove => h (mem_ids_of_isAbove hl habove)

/-- In a forest of distinct ids the way down to an id is made of all layers that have the id below
them, as they are listed. -/
theorem ancestors_eq_filter (hf : (ids f).Nodup) (id : String) :
    ancestors f id = (preorder f).filter (·.isAbove id) := by
  by_cases hid : id ∈ ids f
  · induction f using Forest.induction with
    | nil => simp at hid
    | leaf head slot rest hslot hrest =>
      rw [ids_cons, Layer.ids_leaf head hslot, List.singleton_append] at hf hid
      obtain ⟨hhead, hnodup⟩ := List.nodup_cons.mp hf
      rw [ancestors, pathTo_leaf head hslot, preorder_cons, Layer.preorder_leaf head hslot,
        List.singleton_append, List.filter_cons_of_neg (by simp [Layer.isAbove_leaf head hslot])]
      by_cases hroot : head.id = id
      · rw [if_pos hroot, filter_isAbove_of_not_mem (hroot ▸ hhead)]
        rfl
      · have hbeside := (List.mem_cons.mp hid).resolve_left (Ne.symm hroot)
        rw [if_neg hroot, ← hrest hnodup hbeside, ancestors]
    | layers head items rest hitems hrest =>
      rw [ids_cons, Layer.ids_layers] at hf hid
      obtain ⟨hleft, hright, hdisjoint⟩ := List.nodup_append'.mp hf
      obtain ⟨hhead, hnodup⟩ := List.nodup_cons.mp hleft
      have habove : Layer.isAbove (.node head (.layers items)) id = true ↔ id ∈ ids items :=
        Layer.isAbove_iff
      rw [ancestors, pathTo_layers, preorder_cons, Layer.preorder_layers, List.cons_append,
        List.filter_cons, List.filter_append]
      by_cases hroot : head.id = id
      · have hrest' : id ∉ ids rest := hroot ▸ hdisjoint List.mem_cons_self
        rw [if_pos hroot, if_neg (fun h => hhead (hroot ▸ habove.mp h)),
          filter_isAbove_of_not_mem (hroot ▸ hhead), filter_isAbove_of_not_mem hrest']
        rfl
      · rw [if_neg hroot]
        by_cases hinside : id ∈ ids items
        · have hrest' : id ∉ ids rest := hdisjoint (List.mem_cons_of_mem _ hinside)
          obtain ⟨path, hpath⟩ := Option.ne_none_iff_exists'.mp
            fun hnone => pathTo_eq_none_iff.mp hnone hinside
          rw [if_pos (habove.mpr hinside), filter_isAbove_of_not_mem hrest', List.append_nil,
            ← hitems hnodup hinside, ancestors, hpath]
          rfl
        · have hbeside : id ∈ ids rest := by
            simpa [Ne.symm hroot, hinside] using hid
          rw [if_neg (fun h => hinside (habove.mp h)), filter_isAbove_of_not_mem hinside,
            List.nil_append, ← hrest hright hbeside, pathTo_eq_none_iff.mpr hinside, ancestors]
          rfl
  · rw [ancestors_of_not_mem hid, filter_isAbove_of_not_mem hid]

section

variable (hf : (ids f).Nodup)

include hf

/-- With distinct ids, what is below a layer is all that is in it but for itself. -/
theorem isAbove_iff_of_mem {l : Layer} (hl : l ∈ preorder f) :
    l.isAbove id = true ↔ id ∈ l.ids ∧ id ≠ l.id := by
  have hnodup : l.ids.Nodup := hf.sublist ((preorder_sublist_of_mem hl).map Layer.id)
  rw [Layer.ids_eq, List.nodup_cons] at hnodup
  rw [Layer.isAbove_iff, Layer.ids_eq, List.mem_cons]
  constructor
  · exact fun hbelow => ⟨Or.inr hbelow, fun he => hnodup.1 (he ▸ hbelow)⟩
  · exact fun h => h.1.resolve_left h.2

/-- The last layer above an id is the parent that a search of the listing finds. -/
theorem getLast?_ancestors (id : String) : (ancestors f id).getLast? = parentOf? f id := by
  cases hlast : (ancestors f id).getLast? with
  | some l =>
    have hmem : l ∈ ancestors f id := List.mem_of_getLast? hlast
    rw [ancestors_eq_filter hf, List.mem_filter] at hmem
    have hchild := (leadsTo_ancestors (mem_ids_of_isAbove hmem.1 hmem.2)).mem_childIds_getLast hlast
    exact (parentOf?_of_mem_children hf hmem.1 hchild).symm
  | none =>
    cases hparent : parentOf? f id with
    | none => rfl
    | some l =>
      obtain ⟨hl, c, hc, rfl⟩ := parentOf?_eq_some hparent
      have habove : l.isAbove c.id = true :=
        Layer.isAbove_iff.mpr (mem_ids_iff.mpr ⟨c, mem_preorder_of_mem hc, rfl⟩)
      have hmem : l ∈ ancestors f c.id := by
        rw [ancestors_eq_filter hf]
        exact List.mem_filter.mpr ⟨hl, habove⟩
      rw [List.getLast?_eq_none_iff.mp hlast] at hmem
      cases hmem

/-- There is no parent for the ids at the top and for those that do not occur. -/
theorem parentOf?_eq_none_iff : parentOf? f id = none ↔ id ∈ f.map Layer.id ∨ id ∉ ids f := by
  constructor
  · intro hnone
    by_cases hid : id ∈ ids f
    · have hway := leadsTo_ancestors hid
      rw [← getLast?_ancestors hf, List.getLast?_eq_none_iff] at hnone
      rw [hnone] at hway
      exact Or.inl hway
    · exact Or.inr hid
  · intro h
    by_contra hsome
    obtain ⟨l, hparent⟩ := Option.ne_none_iff_exists'.mp hsome
    obtain ⟨hl, c, hc, rfl⟩ := parentOf?_eq_some hparent
    rcases h with hroot | hout
    · exact not_mem_roots_of_mem_children hf hl (List.mem_map_of_mem hc) hroot
    · exact hout (mem_ids_iff.mpr ⟨c, mem_preorder_of_mem_children hl hc, rfl⟩)

/-- In a forest of distinct ids the layers above an id are those that have it among their ids and
are not it, each once and in the order of the listing. The first of them is at the top, each further
one is a child of the one before it, and the last one is the parent of the id. There are none
exactly if there is no parent, which is so for the ids at the top and for those that do not
occur. -/
theorem ancestors_lead_to_parent (id : String) :
    ancestors f id = (preorder f).filter (fun l => id ∈ l.ids ∧ id ≠ l.id) ∧
      (∀ l, (ancestors f id).head? = some l → l ∈ f) ∧
      (ancestors f id).IsChain (fun l m => m ∈ l.children) ∧
      (ancestors f id).getLast? = parentOf? f id ∧
      (ancestors f id = [] ↔ parentOf? f id = none) ∧
      (parentOf? f id = none ↔ id ∈ f.map Layer.id ∨ id ∉ ids f) := by
  refine ⟨?_, ?_, ?_, getLast?_ancestors hf id, ?_, parentOf?_eq_none_iff hf⟩
  · rw [ancestors_eq_filter hf]
    refine List.filter_congr fun l hl => ?_
    rw [Bool.eq_iff_iff, isAbove_iff_of_mem hf hl, decide_eq_true_eq]
  · intro l hl
    by_cases hid : id ∈ ids f
    · exact (leadsTo_ancestors hid).head_mem hl
    · rw [ancestors_of_not_mem hid] at hl
      cases hl
  · by_cases hid : id ∈ ids f
    · exact (leadsTo_ancestors hid).isChain
    · rw [ancestors_of_not_mem hid]
      exact .nil
  · rw [← getLast?_ancestors hf, List.getLast?_eq_none_iff]

end

/-- A text two levels deep, behind a box with a text of its own, has two layers above it. -/
theorem ancestors_of_nested_text :
    let leaf (id : String) : Layer := .node ⟨.component, id, "Text", none, [], []⟩ (.text "Hello")
    let box (id : String) (items : Forest) : Layer :=
      .node ⟨.component, id, "Box", none, [], []⟩ (.layers items)
    let inner := box "c" [leaf "d", leaf "e"]
    let outer := box "a" [box "b" [leaf "x"], inner]
    let f := [leaf "z", outer]
    (ids f).Nodup ∧ ancestors f "e" = [outer, inner] ∧
      (ancestors f "e").IsChain (fun l m => m ∈ l.children) ∧ parentOf? f "e" = some inner ∧
      (parentOf? f "a" = none ∧ ancestors f "a" = []) ∧
      (parentOf? f "gone" = none ∧ ancestors f "gone" = []) := by
  intro leaf box inner outer f
  have hids : (ids f).Nodup := by decide
  obtain ⟨-, -, hchain, hlast, -, -⟩ := ancestors_lead_to_parent hids "e"
  obtain ⟨-, -, -, -, hroot, htop⟩ := ancestors_lead_to_parent hids "a"
  obtain ⟨-, -, -, -, hgone, hout⟩ := ancestors_lead_to_parent hids "gone"
  have htop' : parentOf? f "a" = none := htop.mpr (Or.inl (by decide))
  have hout' : parentOf? f "gone" = none := hout.mpr (Or.inr (by decide))
  exact ⟨hids, rfl, hchain, hlast.symm, ⟨htop', hroot.mpr htop'⟩, hout', hgone.mpr hout'⟩

end Forest

end LayerDoc
