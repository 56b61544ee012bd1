import LayerDoc.Proofs.Editor.Pinning
import LayerDoc.Proofs.Store.Copying

/-!
# New layers in the store

The entry of a type describes its new layers: their props by bindings and defaults, their children
by a binding or the template (`Layer.Described`, `Layer.described_ofType`). A layer that is added is
such a layer of new ids, at its place below the parent. The warnings name the required props that it
has not, and to remove it gives back the pages as they were (`Store.adds_described_layer`).
-/

namespace LayerDoc

/-! ## Entries and their new layers -/

namespace Entries

variable {α β : Type} (f : String → α → Option β)

/-- The keys of the entries that come to a value. -/
theorem keys_filterMap (es : Entries α) :
    keys (es.filterMap fun e => (f e.1 e.2).map (e.1, ·)) =
      keys (es.filter fun e => (f e.1 e.2).isSome) := by
  induction es with
  | nil => rfl
  | cons e rest ih =>
    cases hvalue : f e.1 e.2 with
    | none =>
      rw [List.filterMap_cons_none (by rw [hvalue]; rfl),
        List.filter_cons_of_neg (by simp [hvalue]), ih]
    | some v =>
      rw [List.filterMap_cons_some (by rw [hvalue]; rfl),
        List.filter_cons_of_pos (by simp [hvalue]),
        keys, List.map_cons, ← keys, ih]
      rfl

theorem get?_filterMap {es : Entries α} (hkeys : (keys es).Nodup) (key : String) :
    get? (es.filterMap fun e => (f e.1 e.2).map (e.1, ·)) key = (get? es key).bind (f key) := by
  induction es with
  | nil => rfl
  | cons e rest ih =>
    obtain ⟨hnew, hrest⟩ := List.nodup_cons.mp hkeys
    have hbehind := ih hrest
    by_cases hkey : e.1 = key
    · subst hkey
      rw [get?_eq_none_iff.mpr hnew, Option.bind_none] at hbehind
      cases hvalue : f e.1 e.2 with
      | none => simp [get?, hvalue, hbehind]
      | some v => simp [get?, hvalue]
    · cases hvalue : f e.1 e.2 with
      | none => simp [get?, hvalue, hkey, hbehind]
      | some v => simp [get?, hvalue, hkey, hbehind]

end Entries

namespace RegistryEntry

variable {e : RegistryEntry}

/-- What a prop of a new layer holds: a reference to the variable that the last of its bindings
names, or else the default of the prop, if it has one. The children are no prop. -/
def describedProp? (e : RegistryEntry) (name : String) : Option PropValue :=
  if name = childrenProp then none
  else
    match e.lastBinding? name with
    | some b => some (.bound b.variableId)
    | none => ((Entries.get? e.props name).bind PropSpec.initial?).map PropValue.ofValue

/-- What the children of a new layer are, but for the ids: a reference to the variable that the last
binding of the children names, or else the template, which is a text, a reference or a list of
layers; without one there are no layers. -/
def describedSlot (e : RegistryEntry) : Slot Layer :=
  match e.lastBinding? childrenProp with
  | some b => .bound b.variableId
  | none => e.template.getD (.layers [])

/-- The ids of the layers of the template. -/
def templateIds (e : RegistryEntry) : List String :=
  (e.template.toList.flatMap Slot.items).flatMap Layer.ids

theorem defaultProps_eq (e : RegistryEntry) :
    e.defaultProps = e.props.filterMap fun p =>
      (if p.1 = childrenProp then none else p.2.initial?).map (p.1, ·) := by
  refine List.filterMap_congr fun p _ => ?_
  split <;> rfl

theorem get?_defaultProps (hkeys : (Entries.keys e.props).Nodup) (name : String) :
    Entries.get? e.defaultProps name =
      (Entries.get? e.props name).bind fun p =>
        if name = childrenProp then none else p.initial? := by
  rw [defaultProps_eq, Entries.get?_filterMap
    (fun name (p : PropSpec) => if name = childrenProp then none else p.initial?) hkeys]

theorem keys_defaultProps (e : RegistryEntry) :
    Entries.keys e.defaultProps =
      Entries.keys (e.props.filter fun p => p.1 ≠ childrenProp ∧ p.2.initial?.isSome = true) := by
  rw [defaultProps_eq, Entries.keys_filterMap
    (fun name (p : PropSpec) => if name = childrenProp then none else p.initial?)]
  refine congrArg _ (List.filter_congr fun p _ => ?_)
  by_cases hchildren : p.1 = childrenProp <;> simp [hchildren]

theorem mem_keys_initialProps {name : String} :
    name ∈ Entries.keys e.initialProps ↔ name ∈ Entries.keys e.defaultProps ∨
      ∃ b ∈ e.bindings, name ≠ childrenProp ∧ b.prop = name := by
  rw [initialProps, Entries.mem_keys_merge, Entries.keys_mapValues]
  refine or_congr Iff.rfl ?_
  simp only [Entries.keys, List.map_map, List.mem_map, List.mem_filter, decide_eq_true_eq,
    Function.comp_apply, and_assoc]
  refine exists_congr fun b => and_congr_right fun _ => ?_
  exact ⟨fun h => ⟨h.2 ▸ h.1, h.2⟩, fun h => ⟨h.2 ▸ h.1, h.2⟩⟩

theorem get?_initialProps_eq (hkeys : (Entries.keys e.props).Nodup) (name : String) :
    Entries.get? e.initialProps name = e.describedProp? name := by
  by_cases hchildren : name = childrenProp
  · rw [describedProp?, if_pos hchildren, Entries.get?_eq_none_iff, mem_keys_initialProps,
      keys_defaultProps]
    simp [hchildren, Entries.keys]
  · rw [get?_initialProps_of_ne hchildren, describedProp?, if_neg hchildren,
      get?_defaultProps hkeys]
    simp only [if_neg hchildren]
    cases e.lastBinding? name <;> rfl

theorem nodup_keys_initialProps (hkeys : (Entries.keys e.props).Nodup) :
    (Entries.keys e.initialProps).Nodup := by
  refine Entries.nodup_keys_merge ?_ _
  rw [Entries.keys_mapValues, keys_defaultProps]
  exact hkeys.sublist (List.filter_sublist.map _)

/-- A required prop that a new layer has not is one without a default. -/
theorem mem_missingRequired {name : String} {p : PropSpec} (hp : (name, p) ∈ e.props)
    (hrequired : p.required = true) (hchildren : name ≠ childrenProp)
    (habsent : name ∉ Entries.keys e.initialProps) : name ∈ e.missingRequired := by
  have hnone : p.initial? = none := by
    by_contra hsome
    rw [mem_keys_initialProps, keys_defaultProps, not_or] at habsent
    refine habsent.1 (List.mem_map.mpr ⟨(name, p), List.mem_filter.mpr ⟨hp, ?_⟩, rfl⟩)
    simpa [hchildren, Option.isSome_iff_ne_none] using hsome
  exact List.mem_map.mpr
    ⟨(name, p), List.mem_filter.mpr ⟨hp, by simp [hchildren, hrequired, hnone]⟩,
    rfl⟩

end RegistryEntry

/-- The ids of the layers of all templates. -/
def Registry.templateIds (r : Registry) : List String := r.flatMap fun e => e.2.templateIds

namespace Layer

/-- A layer is as the entry of its type describes a new one. Without an entry it has neither props
nor children. -/
structure Described (type : String) (entry : Option RegistryEntry) (layer : Layer) : Prop where
  keys : (Entries.keys layer.props).Nodup
  /-- Each prop holds what is described for it, and there are no other props. -/
  props : ∀ name, Entries.get? layer.props name = entry.bind (·.describedProp? name)
  /-- But for the ids, all else is as described. -/
  same : layer.withoutIds = withoutIds (.node ⟨.component, "", type, some type, layer.props, []⟩
    (entry.elim (.layers []) RegistryEntry.describedSlot))

theorem withoutIds_node (head : Head) (slot : Slot Layer) :
    withoutIds (.node head slot) = withoutIds (.node { head with id := "" } slot) := by
  cases slot <;> rw [withoutIds, withoutIds, mapHeads, mapHeads]

/-- The children that a new layer starts with are those of the template, but for the ids. -/
theorem withoutIds_initialSlot (e : RegistryEntry) (head : Head) (s : Supply) :
    withoutIds (.node head (e.initialSlot s).1) =
      withoutIds (.node head (e.template.getD (.layers []))) := by
  unfold RegistryEntry.initialSlot
  cases e.template with
  | none => rfl
  | some slot =>
    cases slot with
    | layers items =>
      have hsame : Forest.mapHeads (fun head => { head with id := "" }) (copyItems items s).1 =
          Forest.mapHeads (fun head => { head with id := "" }) items :=
        Forest.mapHeads_copyItems (fun _ _ => rfl) items s
      simp only [withoutIds, mapHeads, Option.getD_some, hsame]
    | text content => rfl
    | bound variableId => rfl

theorem described_ofType {type : String} {entry : Option RegistryEntry}
    (hkeys : ∀ e, entry = some e → (Entries.keys e.props).Nodup) (s : Supply) :
    (ofType type entry s).1.Described type entry := by
  cases entry with
  | none => exact ⟨List.nodup_nil, fun _ => rfl, rfl⟩
  | some e =>
    refine ⟨e.nodup_keys_initialProps (hkeys e rfl), e.get?_initialProps_eq (hkeys e rfl), ?_⟩
    have hbinding : e.childrenBinding? = (e.lastBinding? childrenProp).map Binding.variableId := rfl
    rw [ofType, withoutIds_node, Option.elim_some, RegistryEntry.describedSlot, hbinding]
    cases e.lastBinding? childrenProp with
    | some b => rfl
    | none => exact withoutIds_initialSlot e _ s

/-- A required prop that a new layer has not is named in a warning. -/
theorem requiredWithoutDefault_mem_warnings {entry : Option RegistryEntry} {e : RegistryEntry}
    (hentry : entry = some e) {type name : String} {s : Supply} {p : PropSpec}
    (hp : (name, p) ∈ e.props) (hrequired : p.required = true) (hchildren : name ≠ childrenProp)
    (habsent : name ∉ Entries.keys (ofType type entry s).1.props) :
    .requiredWithoutDefault name type ∈ (ofType type entry s).2.1 := by
  subst hentry
  have hprops : (ofType type (some e) s).1.props = e.initialProps := rfl
  have hwarnings : (ofType type (some e) s).2.1 =
      e.missingRequired.map (.requiredWithoutDefault · type) := rfl
  rw [hprops] at habsent
  rw [hwarnings]
  exact List.mem_map_of_mem (RegistryEntry.mem_missingRequired hp hrequired hchildren habsent)

end Layer

/-! ## Adding -/

namespace Store

variable {st : Store} {s t : Supply} {layer target : Layer} {parent type : String}

theorem addLayer_of_target (hfind : Forest.find? st.document.pages parent = some target)
    (hholds : target.holdsLayers = true) (hnest : st.nestingProblem? type target = none)
    {warnings : List Warning}
    (hmade : Layer.ofType type (Entries.get? st.registry type) s = (layer, warnings, t))
    (position : Option Int) :
    ∃ first, st.addLayer s type parent position =
      Edit.commit (some layer.id)
        { st.document with
          pages := Forest.insert parent layer position st.document.pages
          selectedLayer := some layer.id }
        t (first ++ warnings) := by
  unfold addLayer
  simp only [hfind, hholds, Bool.not_true, Bool.false_eq_true, if_false, hnest]
  cases hentry : Entries.get? st.registry type with
  | none =>
    rw [hentry] at hmade
    simp only [hmade]
    exact ⟨_, rfl⟩
  | some e =>
    rw [hentry] at hmade
    simp only [hmade]
    exact ⟨[], rfl⟩

/-- In a document of distinct ids a layer of a type is added below a layer that has a list of
children and may be its parent. The new layer is as the entry of the type describes it, stands at
its place, and is selected. All ids in it are new, those of the templates included, and none of them
comes again when another layer of the type is made later on. The warnings name each required prop,
but for the children, that the new layer has not. To remove the new layer gives back the pages as
they were. -/
theorem adds_described_layer (hids : (Forest.ids st.document.pages).Nodup) (hs : s.Injective)
    (hfresh : s.FreshFor (Forest.ids st.document.pages ++ st.registry.templateIds))
    (hkeys : ∀ e, Entries.get? st.registry type = some e → (Entries.keys e.props).Nodup)
    (hfind : Forest.find? st.document.pages parent = some target)
    (hholds : target.holdsLayers = true) (hnest : st.nestingProblem? type target = none)
    (position : Option Int) :
    let entry := Entries.get? st.registry type
    let layer := (Layer.ofType type entry s).1
    let t := (Layer.ofType type entry s).2.2
    let after : Document :=
      { st.document with
        pages := Forest.insert parent layer position st.document.pages
        selectedLayer := some layer.id }
    (∃ warnings, st.addLayer s type parent position =
        Edit.commit (some layer.id) after t warnings ∧
      ∀ e name p, entry = some e → (name, p) ∈ e.props → p.required = true → name ≠ childrenProp →
        name ∉ Entries.keys layer.props → .requiredWithoutDefault name type ∈ warnings) ∧
    layer.Described type entry ∧
    Forest.TakesIn st.document.pages after.pages target layer position ∧
    (Forest.ids after.pages).Nodup ∧
    (Forest.ids st.document.pages ++ st.registry.templateIds).Disjoint layer.ids ∧
    (∀ u, t.Onward u → layer.ids.Disjoint (Layer.ofType type entry u).1.ids) ∧
    ∀ u, Store.removeLayer { st with document := after } u layer.id =
      Edit.commit () { st.document with selectedLayer := none } u [] := by
  intro entry layer t after
  obtain ⟨htarget, rfl⟩ := Forest.find?_eq_some hfind
  have hgives : s.Gives layer.ids t := gives_ofType rfl
  have hnew : layer.ids.Nodup := hgives.nodup hs
  have hdisjoint := hgives.disjoint hfresh
  have hpages := (List.disjoint_append_left.mp hdisjoint).1
  have hall : (Forest.ids st.document.pages ++ layer.ids).Nodup :=
    List.nodup_append'.mpr ⟨hids, hnew, hpages⟩
  refine ⟨?_, Layer.described_ofType hkeys s, Forest.takesIn_insert hall htarget hholds position,
    Forest.nodup_ids_insert hids hnew hpages target.id position, hdisjoint, fun u hu => ?_,
    fun u => ?_⟩
  · obtain ⟨first, hadd⟩ := addLayer_of_target hfind hholds hnest rfl position
    refine ⟨_, hadd, fun e name p hentry hp hrequired hchildren habsent => ?_⟩
    exact List.mem_append_right _
      (Layer.requiredWithoutDefault_mem_warnings hentry hp hrequired hchildren habsent)
  · exact (gives_ofType rfl).disjoint ((hgives.freshFor hs).onward hu)
  · have hselected : selectionWithout (some layer.id) layer = none := by
      rw [selectionWithout, if_pos (List.contains_iff_mem.mpr layer.id_mem_ids)]
    let before : Store :=
      { st with document := { st.document with selectedLayer := some layer.id } }
    have hremove : Store.removeLayer { st with document := after } u layer.id = Edit.commit ()
        { st.document with selectedLayer := selectionWithout (some layer.id) layer } u [] :=
      @removeLayer_of_insert before target layer position hids htarget hholds hnew hpages u
    rw [hremove, hselected]

/-- A card is put below a page, between the layers that stand there. Its props come from a binding,
the first option of an enumeration, a null and a reference, its children from a template. -/
theorem adds_described_card :
    let leaf (id : String) : Layer := .node ⟨.component, id, "Text", none, [], []⟩ (.text "Hello")
    let box : Layer := .node ⟨.component, "box", "Box", none, [], []⟩ (.layers [leaf "words"])
    let entry : RegistryEntry :=
      { props := [("tone", ⟨"enum", false, none, some [.str "plain", .str "loud"], none⟩),
          ("title", ⟨"string", false, some .null, none, none⟩),
          ("link", ⟨"any", false, some (.object [("__variableRef", .str "w"), ("x", .int 1)]), none,
            none⟩),
          ("label", ⟨"string", true, none, none, none⟩),
          ("size", ⟨"number", true, none, none, none⟩)]
        source := none, isDefaultExport := false, template := some (.layers [box])
        bindings := [⟨"size", "v", false⟩, ⟨"size", "w", false⟩]
        fieldOverrides := [], childOf := some ["Page"] }
    let page : Layer := .node ⟨.page, "p", "Page", none, [], []⟩ (.layers [leaf "a", leaf "b"])
    let st : Store := ⟨[("Card", entry)], [], .default, ⟨[page], "p", none, []⟩⟩
    (Forest.ids st.document.pages).Nodup ∧ Supply.start.Injective ∧
    Supply.start.FreshFor (Forest.ids st.document.pages ++ st.registry.templateIds) ∧
    (Entries.keys entry.props).Nodup ∧ Forest.find? st.document.pages "p" = some page ∧
    page.holdsLayers = true ∧ st.nestingProblem? "Card" page = none ∧
    ∃ card t warnings, Layer.Described "Card" (some entry) card ∧
      (Entries.keys card.props).map (Entries.get? card.props) =
        [some (.plain (.str "plain")), some (.plain .null), some (.bound "w"), some (.bound "w")] ∧
      card.ids = [Supply.groupLabel 2, Supply.groupLabel 0, Supply.groupLabel 1] ∧
      st.addLayer .start "Card" "p" (some 1) = Edit.commit (some card.id)
        { st.document with
          pages := [page.withSlot (.layers [leaf "a", card, leaf "b"])]
          selectedLayer := some card.id } t warnings ∧
      .requiredWithoutDefault "label" "Card" ∈ warnings ∧
      ["p", "a", "b", "box", "words"].Disjoint card.ids := by
  intro leaf box entry page st
  have hids : (Forest.ids st.document.pages).Nodup := by decide
  have hfresh : Supply.start.FreshFor
      (Forest.ids st.document.pages ++ st.registry.templateIds) :=
    Supply.freshFor_of_label_eq rfl (by decide)
  have hkeys : (Entries.keys entry.props).Nodup := by decide
  have hnest : st.nestingProblem? "Card" page = none := by decide
  have hentry : ∀ e, Entries.get? st.registry "Card" = some e → (Entries.keys e.props).Nodup :=
    fun e he => Option.some.inj he ▸ hkeys
  have hfind : Forest.find? st.document.pages "p" = some page := rfl
  obtain ⟨⟨warnings, hadd, hwarned⟩, hdescribed, -, -, hdisjoint, -⟩ :=
    adds_described_layer hids Supply.start_injective hfresh hentry hfind rfl hnest (some 1)
  refine ⟨hids, Supply.start_injective, hfresh, hkeys, rfl, rfl, hnest, _, _, warnings, hdescribed,
    rfl, ?_, hadd, ?_, hdisjoint⟩
  · decide
  · exact hwarned entry "label" ⟨"string", true, none, none, none⟩ rfl (by simp [entry]) rfl
      (by decide) (by decide)

end Store

end LayerDoc
