import LayerDoc.Proofs.Forest.Rewriting
import LayerDoc.Document

/-!
# Layers and documents that were read

What is known of layers and documents because they were read from data. Reading moves the supply
onward. A page that was read is made as a page and its slot is a list; a document that was read has
such pages, all of its layer ids are distinct, and its selected page is among its pages
(`Document.assemble_eq_ok`, `Document.read_eq_ok`).
-/

namespace LayerDoc

/-- A list of layers each of which is made as a page and has a list of layers in its slot. -/
def Forest.ArePages (f : Forest) : Prop := ∀ l ∈ f, l.head.role = .page ∧ l.holdsLayers = true

namespace Forest.ArePages

theorem of_footing {f g : Forest} (hg : g.ArePages)
    (h : f.map Layer.footing = g.map Layer.footing) : f.ArePages := by
  intro l hl
  have hmem : l.footing ∈ g.map Layer.footing := h ▸ List.mem_map_of_mem hl
  obtain ⟨m, hm, he⟩ := List.mem_map.mp hmem
  obtain ⟨hrole, hholds⟩ := hg m hm
  simp only [Layer.footing, Prod.mk.injEq] at he
  exact ⟨he.1 ▸ hrole, he.2.2 ▸ hholds⟩

theorem append {f g : Forest} (hf : f.ArePages) (hg : g.ArePages) : Forest.ArePages (f ++ g) := by
  intro l hl
  rcases List.mem_append.mp hl with hl | hl
  · exact hf l hl
  · exact hg l hl

theorem subset {f g : Forest} (hg : g.ArePages) (h : f ⊆ g) : f.ArePages :=
  fun l hl => hg l (h hl)

theorem singleton {l : Layer} (hrole : l.head.role = .page) (hholds : l.holdsLayers = true) :
    Forest.ArePages [l] := by
  intro m hm
  rw [List.mem_singleton.mp hm]
  exact ⟨hrole, hholds⟩

end Forest.ArePages

namespace Layer

/-! ## Reading layers -/

/-- What a layer that was read comes from. -/
theorem read_eq_ok {role : Role} {v : Value} {s t : Supply} {l : Layer}
    (h : read role v s = .ok (l, t)) :
    ∃ es id after type name props slot, v = .object es ∧
      readId (Entries.get? es "id") s = (some id, after) ∧
      readType role (Entries.get? es "type") = some type ∧
      readName (Entries.get? es "name") = some name ∧
      readProps (Entries.get? es "props") = some props ∧
      readSlotIn role es after = some (slot, t) ∧
      l = .node ⟨role, id, type, name, props, unknownEntries es⟩ slot := by
  cases v with
  | object es =>
    rw [read] at h
    cases hid : readId (Entries.get? es "id") s with
    | mk id? after =>
      simp only [hid] at h
      split at h
      · cases h
      · split at h
        · next _ id type name props slot u htype hname hprops hslot =>
          cases h
          exact ⟨es, id, after, type, name, props, slot, rfl, hid, htype, hname, hprops, hslot, rfl⟩
        · cases h
  | _ => simp [read] at h

/-- A list, or a set, is read as a list of layers. -/
theorem readSlot_of_items {v : Value} {items : List Value} (h : v.items? = some items) (role : Role)
    (s : Supply) :
    readSlot role v s = (readItems items s).map fun r => (.layers r.1, r.2) := by
  cases v with
  | list _ =>
    cases h
    rw [readSlot]
  | set _ =>
    cases h
    rw [readSlot]
  | _ => simp [Value.items?] at h

/-- All else gives a slot without layers, and only to a component. -/
theorem readSlot_of_no_items {v : Value} (hv : v.items? = none) {role : Role} {s t : Supply}
    {slot : Slot Layer} (h : readSlot role v s = some (slot, t)) :
    role = .component ∧ slot.isList = false ∧ t = s := by
  rw [readSlot] at h
  · split at h
    · cases h
    · next hrole =>
      have hcomponent : role = .component := by cases role <;> simp_all
      split at h
      · cases h
        exact ⟨hcomponent, rfl, rfl⟩
      · cases h
        exact ⟨hcomponent, rfl, rfl⟩
      · cases h
  · rintro items rfl
    cases hv
  · rintro members rfl
    cases hv

theorem onward_readId {given : Option Value} {s t : Supply} {id : Option String}
    (h : readId given s = (id, t)) : s.Onward t := by
  cases given with
  | none =>
    cases h
    exact s.onward_next
  | some v =>
    cases h
    exact .refl s

mutual

/-- Reading a layer moves the supply onward. -/
theorem onward_read (role : Role) : ∀ (v : Value) {s t : Supply} {l : Layer},
    read role v s = .ok (l, t) → s.Onward t
  | .object es, s, t, l, h => by
    obtain ⟨_, id, after, type, name, props, slot, he, hid, -, -, -, hslot, -⟩ := read_eq_ok h
    cases he
    exact (onward_readId hid).trans (onward_readSlotIn role es hslot)
  | .null, _, _, _, h | .bool _, _, _, _, h | .int _, _, _, _, h | .float _, _, _, _, h
  | .str _, _, _, _, h | .list _, _, _, _, h | .bytes _, _, _, _, h | .moment _, _, _, _, h
  | .set _, _, _, _, h | .mapping _, _, _, _, h | .cycle, _, _, _, h => by simp [read] at h

/-- Reading the attributes of a layer moves the supply onward. -/
theorem onward_readSlotIn (role : Role) : ∀ (es : List (String × Value)) {s t : Supply}
    {slot : Slot Layer}, readSlotIn role es s = some (slot, t) → s.Onward t
  | [], s, t, slot, h => by
    simp only [readSlotIn, Option.some.injEq, Prod.mk.injEq] at h
    exact h.2 ▸ .refl s
  | (k, v) :: rest, s, t, slot, h => by
    rw [readSlotIn] at h
    split at h
    · exact onward_readSlot role v h
    · exact onward_readSlotIn role rest h

/-- Reading a children slot moves the supply onward. -/
theorem onward_readSlot (role : Role) : ∀ (v : Value) {s t : Supply} {slot : Slot Layer},
    readSlot role v s = some (slot, t) → s.Onward t
  | .list items, s, t, slot, h => by
    rw [readSlot_of_items rfl] at h
    obtain ⟨r, hr, he⟩ := Option.map_eq_some_iff.mp h
    cases he
    exact onward_readItems items hr
  | .set members, s, t, slot, h => by
    rw [readSlot_of_items rfl] at h
    obtain ⟨r, hr, he⟩ := Option.map_eq_some_iff.mp h
    cases he
    exact onward_readItems members hr
  | .null, s, _, _, h | .bool _, s, _, _, h | .int _, s, _, _, h | .float _, s, _, _, h
  | .str _, s, _, _, h | .object _, s, _, _, h | .bytes _, s, _, _, h | .moment _, s, _, _, h
  | .mapping _, s, _, _, h | .cycle, s, _, _, h => (readSlot_of_no_items rfl h).2.2 ▸ .refl s

/-- Reading a list of layers moves the supply onward. -/
theorem onward_readItems : ∀ (items : List Value) {s t : Supply} {f : Forest},
    readItems items s = some (f, t) → s.Onward t
  | [], s, t, f, h => by
    simp only [readItems, Option.some.injEq, Prod.mk.injEq] at h
    exact h.2 ▸ .refl s
  | v :: rest, s, t, f, h => by
    rw [readItems] at h
    split at h
    · next l u hl =>
      obtain ⟨r, hr, he⟩ := Option.map_eq_some_iff.mp h
      cases he
      exact (onward_read .component v hl).trans (onward_readItems rest hr)
    · cases h

end

/-- The attributes of a page give it a list of layers. -/
theorem isList_of_readSlotIn_page : ∀ {es : List (String × Value)} {s t : Supply}
    {slot : Slot Layer}, readSlotIn .page es s = some (slot, t) → slot.isList = true
  | [], s, t, slot, h => by
    simp only [readSlotIn, Option.some.injEq, Prod.mk.injEq] at h
    exact h.1 ▸ rfl
  | (k, v) :: rest, s, t, slot, h => by
    rw [readSlotIn] at h
    split at h
    · cases hv : v.items? with
      | none => cases (readSlot_of_no_items hv h).1
      | some items =>
        rw [readSlot_of_items hv] at h
        obtain ⟨r, -, he⟩ := Option.map_eq_some_iff.mp h
        cases he
        rfl
    · exact isList_of_readSlotIn_page h

/-- A page that was read is made as a page and has a list of layers. -/
theorem holdsLayers_of_read_page {v : Value} {s t : Supply} {l : Layer}
    (h : read .page v s = .ok (l, t)) : l.head.role = .page ∧ l.holdsLayers = true := by
  obtain ⟨_, _, _, _, _, _, slot, -, -, -, -, -, hslot, rfl⟩ := read_eq_ok h
  exact ⟨rfl, isList_of_readSlotIn_page hslot⟩

/-! ## Patching layers -/

/-- What a patched layer is: the layer with a new type, name, props and attributes, in whose slot
there is what was there before or what the patch has for it. -/
theorem patched_eq_some {l m : Layer} {props patch : Entries Value} {s t : Supply}
    (h : l.patched props patch s = some (m, t)) :
    ∃ type name,
      m.head = ⟨l.head.role, l.id, type, name,
        Entries.mapValues PropValue.normalized
          (Entries.merge l.props (Entries.mapValues PropValue.ofValue props)),
        Entries.merge l.head.extra (unknownEntries patch)⟩ ∧
      match Entries.get? patch "children" with
      | some v => readSlot l.head.role v s = some (m.slot, t)
      | none => (l.head.role = .component ∨ l.holdsLayers = true) ∧ m.slot = l.slot ∧ t = s := by
  unfold patched at h
  dsimp only at h
  split at h
  · next type name slot u _ _ hslot =>
    split at h
    · cases h
      refine ⟨type, name, rfl, ?_⟩
      cases hpatch : Entries.get? patch "children" with
      | some v =>
        simp only [hpatch] at hslot
        exact hslot
      | none =>
        simp only [hpatch] at hslot
        split at hslot
        · next hfit =>
          cases hslot
          exact ⟨hfit, rfl, rfl⟩
        · cases hslot
    · cases h
  · cases h

theorem id_of_patched {l m : Layer} {props patch : Entries Value} {s t : Supply}
    (h : l.patched props patch s = some (m, t)) : m.id = l.id := by
  obtain ⟨_, _, hhead, -⟩ := patched_eq_some h
  rw [id, hhead]

theorem role_of_patched {l m : Layer} {props patch : Entries Value} {s t : Supply}
    (h : l.patched props patch s = some (m, t)) : m.head.role = l.head.role := by
  obtain ⟨_, _, hhead, -⟩ := patched_eq_some h
  rw [hhead]

theorem onward_patched {l m : Layer} {props patch : Entries Value} {s t : Supply}
    (h : l.patched props patch s = some (m, t)) : s.Onward t := by
  obtain ⟨_, _, -, hslot⟩ := patched_eq_some h
  cases hpatch : Entries.get? patch "children" with
  | some v =>
    rw [hpatch] at hslot
    exact onward_readSlot _ v hslot
  | none =>
    rw [hpatch] at hslot
    exact hslot.2.2 ▸ .refl s

/-- A patch that has no list for the children brings no ids, and a page stays one. -/
theorem ids_of_patched {l m : Layer} {props patch : Entries Value} {s t : Supply}
    (h : l.patched props patch s = some (m, t))
    (hpatch : ∀ v, Entries.get? patch "children" = some v → v.items? = none) :
    m.ids.Sublist l.ids ∧ (l.head.role = .page → m.slot = l.slot) := by
  have hid := id_of_patched h
  obtain ⟨_, _, -, hslot⟩ := patched_eq_some h
  cases hget : Entries.get? patch "children" with
  | some v =>
    rw [hget] at hslot
    obtain ⟨hrole, hleaf, -⟩ := readSlot_of_no_items (hpatch v hget) hslot
    refine ⟨?_, fun hpage => by simp [hpage] at hrole⟩
    obtain ⟨head, slot⟩ := m
    have hleaf' : slot.isList = false := hleaf
    rw [ids_leaf head hleaf', List.singleton_sublist]
    have hmem := l.id_mem_ids
    rwa [← hid] at hmem
  | none =>
    rw [hget] at hslot
    obtain ⟨-, hsame, -⟩ := hslot
    exact ⟨(ids_eq_of_slot_eq hid hsame) ▸ List.Sublist.refl _, fun _ => hsame⟩

/-- The ids stay if the children do, or if there were none and none come. -/
theorem ids_eq_of_patched {l m : Layer} {props patch : Entries Value} {s t : Supply}
    (h : l.patched props patch s = some (m, t))
    (hpatch : ∀ v, Entries.get? patch "children" = some v →
      v.items? = none ∧ l.holdsLayers = false) : m.ids = l.ids := by
  have hid := id_of_patched h
  obtain ⟨_, _, -, hslot⟩ := patched_eq_some h
  cases hget : Entries.get? patch "children" with
  | some v =>
    rw [hget] at hslot
    obtain ⟨hitems, hleaf⟩ := hpatch v hget
    obtain ⟨-, hleaf', -⟩ := readSlot_of_no_items hitems hslot
    rw [ids_of_holdsLayers_eq_false hleaf', ids_of_holdsLayers_eq_false hleaf, hid]
  | none =>
    rw [hget] at hslot
    exact ids_eq_of_slot_eq hid hslot.2.1

/-- A patch that has no list for the children leaves them as they are or takes them all away. -/
theorem children_of_patched {l m : Layer} {props patch : Entries Value} {s t : Supply}
    (h : l.patched props patch s = some (m, t))
    (hpatch : ∀ v, Entries.get? patch "children" = some v → v.items? = none) :
    m.children = l.children ∨ m.children = [] := by
  obtain ⟨_, _, -, hslot⟩ := patched_eq_some h
  cases hget : Entries.get? patch "children" with
  | some v =>
    rw [hget] at hslot
    obtain ⟨-, hleaf, -⟩ := readSlot_of_no_items (hpatch v hget) hslot
    exact Or.inr (children_of_holdsLayers_eq_false hleaf)
  | none =>
    rw [hget] at hslot
    exact Or.inl (congrArg Slot.items hslot.2.1)

theorem type_of_patched {l m : Layer} {props patch : Entries Value} {s t : Supply}
    (h : l.patched props patch s = some (m, t)) (hpatch : Entries.get? patch "type" = none) :
    m.type = l.type := by
  unfold patched at h
  simp only [hpatch, Option.map_none, Option.getD_none] at h
  split at h
  · next type name slot u htype _ _ =>
    split at h
    · cases h
      exact (Option.some.inj htype).symm
    · cases h
  · cases h

/-- The names of all that a patch brings are made of characters. -/
theorem hasNames_of_patched {l m : Layer} {props patch : Entries Value} {s t : Supply}
    (h : l.patched props patch s = some (m, t)) : hasNames patch = true := by
  unfold patched at h
  dsimp only at h
  split at h
  · split at h
    · next hnames => exact hnames
    · cases h
  · cases h

theorem asPage?_eq_some {l m : Layer} (h : l.asPage? = some m) :
    m.head.role = .page ∧ m.holdsLayers = true := by
  unfold asPage? at h
  split at h
  · next hholds =>
    cases h
    exact ⟨rfl, hholds⟩
  · cases h

end Layer

/-! ## Reading variables -/

namespace Variable

theorem onward_read {v : Value} {s t : Supply} {x : Variable} (h : read v s = .ok (x, t)) :
    s.Onward t := by
  simp only [read] at h
  split at h
  · cases h
  · next es _ =>
    cases hid : Entries.get? es "id" with
    | none =>
      simp only [hid] at h
      split at h
      · cases h
        exact s.onward_next
      · cases h
    | some given =>
      simp only [hid] at h
      split at h
      · cases h
        exact .refl s
      · cases h

theorem onward_readAll : ∀ {items : List Value} {s t : Supply} {vars : List Variable},
    readAll items s = some (vars, t) → s.Onward t
  | [], s, t, vars, h => by
    cases h
    exact .refl s
  | v :: rest, s, t, vars, h => by
    rw [readAll] at h
    split at h
    · next x u hx =>
      obtain ⟨r, hr, he⟩ := Option.map_eq_some_iff.mp h
      cases he
      exact (onward_read hx).trans (onward_readAll hr)
    · cases h

end Variable

/-! ## Reading documents -/

theorem firstRepeated_eq_none_iff {ids : List String} {seen : List String} :
    firstRepeated seen ids = none ↔ ids.Nodup ∧ ∀ id ∈ ids, id ∉ seen := by
  induction ids generalizing seen with
  | nil => simp [firstRepeated]
  | cons id rest ih =>
    rw [firstRepeated]
    by_cases h : id ∈ seen
    · simp [h]
    · simp only [List.contains_iff_mem, h, if_false, ih, List.nodup_cons, List.mem_cons, not_or,
        forall_eq_or_imp, not_false_eq_true, true_and]
      constructor
      · rintro ⟨hrest, hseen⟩
        exact ⟨⟨fun hid => (hseen id hid).1 rfl, hrest⟩, fun x hx => (hseen x hx).2⟩
      · rintro ⟨⟨hid, hrest⟩, hseen⟩
        exact ⟨hrest, fun x hx => ⟨fun he => hid (he ▸ hx), hseen x hx⟩⟩

namespace Document

/-- What is known of a document that was put together. -/
theorem assemble_eq_ok {pages : Forest} {page layer : Option String} {vars : List Variable}
    {d : Document} (h : assemble pages page layer vars = .ok d) :
    d.pages = pages ∧ d.vars = vars ∧ d.selectedLayer = layer ∧ d.pages ≠ [] ∧
      (Forest.ids d.pages).Nodup ∧ ∃ p ∈ d.pages, p.id = d.selectedPage := by
  unfold assemble at h
  split at h
  · cases h
  · next first rest =>
    split at h
    · cases h
    · next hids =>
      cases h
      refine ⟨rfl, rfl, rfl, List.cons_ne_nil _ _, (firstRepeated_eq_none_iff.mp hids).1, ?_⟩
      split
      · next id =>
        split
        · next hany =>
          obtain ⟨p, hp, he⟩ := List.any_eq_true.mp hany
          exact ⟨p, hp, by simpa using he⟩
        · exact ⟨first, List.mem_cons_self, rfl⟩
      · exact ⟨first, List.mem_cons_self, rfl⟩

theorem onward_readPages : ∀ {items : List Value} {s t : Supply} {pages : Forest},
    readPages items s = some (pages, t) → s.Onward t
  | [], s, t, pages, h => by
    cases h
    exact .refl s
  | v :: rest, s, t, pages, h => by
    rw [readPages] at h
    split at h
    · next page u hpage =>
      obtain ⟨r, hr, he⟩ := Option.map_eq_some_iff.mp h
      cases he
      exact (Layer.onward_read .page v hpage).trans (onward_readPages hr)
    · cases h

/-- Pages that were read are pages. -/
theorem arePages_of_readPages : ∀ {items : List Value} {s t : Supply} {pages : Forest},
    readPages items s = some (pages, t) → pages.ArePages
  | [], s, t, pages, h => by
    cases h
    simp [Forest.ArePages]
  | v :: rest, s, t, pages, h => by
    rw [readPages] at h
    split at h
    · next page u hpage =>
      obtain ⟨r, hr, he⟩ := Option.map_eq_some_iff.mp h
      cases he
      obtain ⟨hrole, hholds⟩ := Layer.holdsLayers_of_read_page hpage
      exact (Forest.ArePages.singleton hrole hholds).append (arePages_of_readPages hr)
    · cases h

/-- What a document that was read is put together of. -/
theorem parts_of_read {v : Value} {s t : Supply} {d : Document} (h : read v s = .ok (d, t)) :
    ∃ es items pages u page layer vars, v.entries? = some es ∧
      (Entries.get? es "pages").bind Value.items? = some items ∧
      readPages items s = some (pages, u) ∧
      readVariablesField (Entries.get? es "variables") u = some (vars, t) ∧
      assemble pages page layer vars = .ok d := by
  unfold read at h
  split at h
  · cases h
  · next es hes =>
    dsimp only at h
    split at h
    · next pages u page layer vars t' hpages _ _ hvars =>
      rw [hpages] at hvars
      cases hd : assemble pages page layer vars with
      | error fault => simp [hd, Except.map] at h
      | ok d' =>
        simp only [hd, Except.map, Except.ok.injEq, Prod.mk.injEq] at h
        obtain ⟨rfl, rfl⟩ := h
        unfold readPagesField at hpages
        split at hpages
        · next first rest hitems =>
          exact ⟨es, first :: rest, pages, u, page, layer, vars, hes, hitems, hpages, hvars, hd⟩
        · cases hpages
    · cases h

/-- What is known of a document that was read. -/
theorem read_eq_ok {v : Value} {s t : Supply} {d : Document} (h : read v s = .ok (d, t)) :
    d.pages.ArePages ∧ d.pages ≠ [] ∧ (Forest.ids d.pages).Nodup ∧
      ∃ p ∈ d.pages, p.id = d.selectedPage := by
  obtain ⟨es, items, pages, u, page, layer, vars, -, -, hpages, -, hd⟩ := parts_of_read h
  obtain ⟨hp, -, -, hne, hids, hsel⟩ := assemble_eq_ok hd
  exact ⟨hp ▸ arePages_of_readPages hpages, hne, hids, hsel⟩

end Document

end LayerDoc
