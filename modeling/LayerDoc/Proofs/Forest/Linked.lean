import LayerDoc.Proofs.Forest.Rewriting

/-!
# Rules between layers and their parents

A rule says which layers may stand under which parents, judged by their own attributes; at the top
of a forest there is no parent. A forest is linked by a rule if it holds at every place
(`Forest.Linked`). An edit keeps this if the rule holds where the edit puts something new: each edit
has one lemma that says what that is.

* `Forest.Linked.insert`, `Forest.Linked.move`: where a layer is taken in.
* `Forest.Linked.without`: nothing is new.
* `Forest.Linked.replace`: where a layer gives way to another.
* `Forest.Linked.releasedItems`, `Forest.Linked.copyNamed`: where attributes change.
* `Forest.linked_ofType`: where a layer is made anew.
-/

namespace LayerDoc.Forest

/-- A rule between the attributes of a parent, if there is one, and those of a child. -/
abbrev Rule := Option Head → Head → Prop

/-- Every layer of a forest stands by a rule under its parent; those at the top stand under the
given one. -/
def Linked (R : Rule) (parent : Option Head) (f : Forest) : Prop :=
  (∀ l ∈ f, R parent l.head) ∧ ∀ l ∈ preorder f, ∀ c ∈ l.children, R (some l.head) c.head

variable {R : Rule} {parent : Option Head} {f g : Forest}

/-! ## By the kinds of forests -/

theorem linked_nil : Linked R parent [] := by simp [Linked]

theorem linked_layers {head : Head} {items rest : Forest} :
    Linked R parent (.node head (.layers items) :: rest) ↔
      R parent head ∧ Linked R (some head) items ∧ Linked R parent rest := by
  simp only [Linked, List.forall_mem_cons, preorder_cons, Layer.preorder_layers, List.cons_append,
    List.forall_mem_append, Layer.children_layers, Layer.head_node]
  constructor
  · rintro ⟨⟨hhead, htop⟩, hitems, hbelow, hrest⟩
    exact ⟨hhead, ⟨hitems, hbelow⟩, htop, hrest⟩
  · rintro ⟨hhead, ⟨hitems, hbelow⟩, htop, hrest⟩
    exact ⟨⟨hhead, htop⟩, hitems, hbelow, hrest⟩

theorem linked_leaf {head : Head} {slot : Slot Layer} (hslot : slot.isList = false)
    {rest : Forest} :
    Linked R parent (.node head slot :: rest) ↔ R parent head ∧ Linked R parent rest := by
  have hnone := Layer.children_of_holdsLayers_eq_false (l := .node head slot) hslot
  simp only [Linked, List.forall_mem_cons, preorder_cons, Layer.preorder_leaf head hslot,
    List.singleton_append, hnone, Layer.head_node, List.not_mem_nil, false_implies, implies_true,
    true_and, and_assoc]

theorem linked_singleton {l : Layer} :
    Linked R parent [l] ↔ R parent l.head ∧ Linked R (some l.head) l.children := by
  obtain ⟨head, slot⟩ := l
  cases hslot : slot.isList with
  | true =>
    cases slot with
    | layers items => simp [linked_layers, linked_nil]
    | text content => cases hslot
    | bound variableId => cases hslot
  | false =>
    have hnone := Layer.children_of_holdsLayers_eq_false (l := .node head slot) hslot
    simp [linked_leaf hslot, linked_nil, hnone]

theorem linked_append : Linked R parent (f ++ g) ↔ Linked R parent f ∧ Linked R parent g := by
  simp only [Linked, preorder_append, List.forall_mem_append]
  exact and_and_and_comm

/-- A forest is linked if each layer at its top is, with all below it. -/
theorem linked_iff_forall_mem : Linked R parent f ↔ ∀ l ∈ f, Linked R parent [l] := by
  induction f with
  | nil => simp [linked_nil]
  | cons l rest ih => rw [← List.singleton_append, linked_append, ih, List.forall_mem_append,
      List.forall_mem_singleton]

namespace Linked

theorem subset (h : Linked R parent f) (hsub : g ⊆ f) : Linked R parent g :=
  linked_iff_forall_mem.mpr fun l hl => linked_iff_forall_mem.mp h l (hsub hl)

/-- What is below a listed layer is linked. -/
theorem below (h : Linked R parent f) {l : Layer} (hl : l ∈ preorder f) :
    Linked R (some l.head) l.children := by
  refine ⟨h.2 l hl, fun m hm => h.2 m ((preorder_sublist_of_mem hl).subset ?_)⟩
  rw [Layer.preorder_eq]
  exact List.mem_cons_of_mem _ hm

/-! ## Edits -/

theorem insertAt {layer : Layer} {position : Option Int} (h : Linked R parent f)
    (hlayer : Linked R parent [layer]) : Linked R parent (insertAt f layer position) := by
  refine (linked_append.mpr ⟨hlayer, h⟩).subset fun l hl => ?_
  -- wherever it goes, there is the layer and what was there before
  have hparts : l = layer ∨ l ∈ f := by
    unfold Forest.insertAt at hl
    split at hl
    · simpa [or_comm] using hl
    · split at hl
      · simpa [or_comm] using hl
      · split at hl
        · simpa using hl
        · rw [List.mem_append, List.mem_cons] at hl
          rcases hl with hl | hl | hl
          · exact Or.inr (List.mem_of_mem_take hl)
          · exact Or.inl hl
          · exact Or.inr (List.mem_of_mem_drop hl)
  simpa using hparts

/-- A layer may be put under every layer that takes it in. -/
theorem insert {id : String} {layer : Layer} {position : Option Int} (h : Linked R parent f)
    (hlayer : ∀ l ∈ preorder f, l.id = id → l.holdsLayers = true →
      Linked R (some l.head) [layer]) :
    Linked R parent (Forest.insert id layer position f) := by
  induction f using Forest.induction generalizing parent with
  | nil =>
    rw [insert_nil]
    exact linked_nil
  | leaf head slot rest hslot hrest =>
    rw [linked_leaf hslot] at h
    rw [insert_leaf _ _ _ _ hslot, linked_leaf hslot]
    exact ⟨h.1, hrest h.2 fun l hl => hlayer l (by simp [hl])⟩
  | layers head items rest hitems hrest =>
    rw [linked_layers] at h
    rw [insert_cons, insertIn_layers, linked_layers]
    have hbelow := hitems h.2.1 fun l hl => hlayer l (by simp [hl])
    refine ⟨h.1, ?_, hrest h.2.2 fun l hl => hlayer l (by simp [hl])⟩
    split
    · next hid =>
      exact hbelow.insertAt (hlayer (.node head (.layers items)) (by simp) hid rfl)
    · exact hbelow

theorem without (h : Linked R parent f) (id : String) :
    Linked R parent (Forest.without id f) := by
  induction f using Forest.induction generalizing parent with
  | nil =>
    rw [without_nil]
    exact linked_nil
  | leaf head slot rest hslot hrest =>
    rw [linked_leaf hslot] at h
    rw [without_leaf _ _ hslot]
    split
    · exact hrest h.2
    · exact (linked_leaf hslot).mpr ⟨h.1, hrest h.2⟩
  | layers head items rest hitems hrest =>
    rw [linked_layers] at h
    rw [without_layers]
    split
    · exact hrest h.2.2
    · exact linked_layers.mpr ⟨h.1, hitems h.2.1, hrest h.2.2⟩

/-- A replacement may stand wherever a layer that it replaces stood. -/
theorem replace {id : String} {replacement : Layer} (h : Linked R parent f)
    (hnew : ∀ l ∈ preorder f, l.id = id → ∀ q, R q l.head → Linked R q [replacement]) :
    Linked R parent (Forest.replace id replacement f) := by
  induction f using Forest.induction generalizing parent with
  | nil =>
    rw [replace_nil]
    exact linked_nil
  | leaf head slot rest hslot hrest =>
    rw [linked_leaf hslot] at h
    have hrest' := hrest h.2 fun l hl => hnew l (by simp [hl])
    rw [replace_leaf _ _ _ hslot]
    split
    · next hid =>
      exact linked_append.mpr ⟨hnew (.node head slot)
        (by simp [Layer.mem_preorder_self]) hid _ h.1, hrest'⟩
    · exact (linked_leaf hslot).mpr ⟨h.1, hrest'⟩
  | layers head items rest hitems hrest =>
    rw [linked_layers] at h
    have hrest' := hrest h.2.2 fun l hl => hnew l (by simp [hl])
    rw [replace_layers]
    split
    · next hid =>
      exact linked_append.mpr ⟨hnew (.node head (.layers items)) (by simp) hid _ h.1, hrest'⟩
    · exact linked_layers.mpr ⟨h.1, hitems h.2.1 fun l hl => hnew l (by simp [hl]), hrest'⟩

/-- A rule that does not see what goes with a variable is kept. -/
theorem releasedItems {registry : Registry} {variableId : String}
    (hR : ∀ q c, R q c → R (q.map (Layer.releasedHead registry variableId))
      (Layer.releasedHead registry variableId c))
    (h : Linked R parent f) :
    Linked R (parent.map (Layer.releasedHead registry variableId))
      (Layer.releasedItems registry variableId f) := by
  induction f using Forest.induction generalizing parent with
  | nil =>
    rw [releasedItems_nil]
    exact linked_nil
  | leaf head slot rest hslot hrest =>
    rw [linked_leaf hslot] at h
    obtain ⟨slot', hslot', he⟩ := releasedItems_leaf registry variableId head hslot rest
    rw [he, linked_leaf hslot']
    exact ⟨hR _ _ h.1, hrest h.2⟩
  | layers head items rest hitems hrest =>
    rw [linked_layers] at h
    rw [releasedItems_layers, linked_layers]
    exact ⟨hR _ _ h.1, hitems h.2.1, hrest h.2.2⟩

end Linked

/-! ## Copies -/

/-- A rule that sees neither ids nor names. -/
structure Rule.Anonymous (R : Rule) : Prop where
  child : ∀ q c id name, R q c → R q { c with id := id, name := name }
  parent : ∀ q c id name, R (some q) c → R (some { q with id := id, name := name }) c

namespace Linked

/-- The parent may get another id and another name. -/
theorem renamed (hR : R.Anonymous) {q : Head} (h : Linked R (some q) f) (id : String)
    (name : Option String) : Linked R (some { q with id := id, name := name }) f :=
  ⟨fun l hl => hR.parent q _ id name (h.1 l hl), h.2⟩

theorem copyItems (hR : R.Anonymous) (h : Linked R parent f) (s : Supply) :
    Linked R parent (Layer.copyItems f s).1 := by
  induction f using Forest.induction generalizing parent s with
  | nil =>
    rw [copyItems_nil]
    exact linked_nil
  | leaf head slot rest hslot hrest =>
    rw [linked_leaf hslot] at h
    rw [copyItems_leaf head hslot, linked_leaf hslot]
    exact ⟨hR.child _ head _ head.name h.1, hrest h.2 _⟩
  | layers head items rest hitems hrest =>
    rw [linked_layers] at h
    rw [copyItems_layers, linked_layers]
    exact ⟨hR.child _ head _ head.name h.1, (hitems h.2.1 _).renamed hR _ head.name, hrest h.2.2 _⟩

theorem copyNamed (hR : R.Anonymous) {l : Layer} (h : Linked R parent [l]) (suffix : String)
    (s : Supply) : Linked R parent [(l.copyNamed suffix s).1] := by
  have hcopy : Linked R parent [(l.copy s).1] := by
    have hone := h.copyItems hR s
    rwa [Layer.copyItems_singleton] at hone
  rw [linked_singleton] at hcopy
  simp only [Layer.copyNamed, Layer.withNameSuffix]
  split
  · split
    · exact linked_singleton.mpr hcopy
    · next name _ _ =>
      refine linked_singleton.mpr ⟨?_, ?_⟩
      · exact hR.child _ (l.copy s).1.head _ (some (name ++ suffix)) hcopy.1
      · exact hcopy.2.renamed hR _ (some (name ++ suffix))
  · exact linked_singleton.mpr hcopy

end Linked

/-- A new layer stands by a rule under its parent, and so does its template under it: what is below
a new layer is a copy of the template or nothing. -/
theorem linked_ofType (hR : R.Anonymous) {type : String} {entry : Option RegistryEntry}
    {layer : Layer} {warnings : List Warning} {s t : Supply}
    (h : Layer.ofType type entry s = (layer, warnings, t))
    (hparent : ∀ id, R parent ⟨.component, id, type, some type,
      (entry.map RegistryEntry.initialProps).getD [], []⟩)
    (htemplate : ∀ e items id, entry = some e → e.template = some (.layers items) →
      Linked R (some ⟨.component, id, type, some type, e.initialProps, []⟩) items) :
    Linked R parent [layer] := by
  cases entry with
  | none =>
    cases h
    exact linked_singleton.mpr ⟨hparent _, linked_nil⟩
  | some e =>
    have hslot : ∀ id, Linked R (some ⟨.component, id, type, some type, e.initialProps, []⟩)
        (e.initialSlot s).1.items := by
      intro id
      unfold RegistryEntry.initialSlot
      split
      · exact linked_nil
      · exact linked_nil
      · next items hitems => exact (htemplate e items id rfl hitems).copyItems hR s
      · exact linked_nil
    cases h
    refine linked_singleton.mpr ⟨hparent _, ?_⟩
    cases hbinding : e.childrenBinding? with
    | none =>
      simp only [Layer.children, Layer.slot_node, Layer.head_node]
      exact hslot _
    | some variableId => exact linked_nil

/-! ## Moves -/

/-- A move keeps a rule if the layer may stand under the parent that was found. -/
theorem Linked.move {id target : String} {position : Option Int} (hf : (ids f).Nodup)
    (h : Linked R parent f) (hmove : move? f id target position = some g)
    (hnest : ∀ layer host, find? f id = some layer → find? f target = some host →
      R (some host.head) layer.head) : Linked R parent g := by
  obtain ⟨layer, shifted, hlayer, -, rfl⟩ := move?_eq_some hmove
  obtain ⟨hmem, -⟩ := find?_eq_some hlayer
  refine (h.without id).insert fun m hm hid _ => ?_
  obtain ⟨host, hhost, hhead, -⟩ := exists_mem_of_mem_without hm
  have hfound : find? f target = some host := by
    rw [← hid, Layer.id, ← hhead]
    exact find?_of_mem hf hhost
  rw [← hhead]
  exact linked_singleton.mpr ⟨hnest layer host hlayer hfound, h.below hmem⟩

end LayerDoc.Forest
