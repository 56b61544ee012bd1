import LayerDoc.Proofs.Document.RoundTrip
import LayerDoc.Proofs.Editor.Rules

/-!
# JSON data over a run

An editor makes no data on its own but texts and references. So if the registry, the settings and
the first document hold JSON data only, and operations bring JSON data only, then every document of
a run holds JSON data only (`Editor.isJson_runAll`), which is what it takes to be read again as it
was.
-/

namespace LayerDoc

/-- The data that new layers of a type start with is JSON data. -/
structure RegistryEntry.HoldsJson (e : RegistryEntry) : Prop where
  defaults : Value.entriesAreJson e.defaultProps = true
  bindings : ∀ b ∈ e.bindings, Text.Surrogate.occursIn b.prop = false
  template : ∀ items, e.template = some (.layers items) →
    Value.itemsAreJson (Layer.itemValues items) = true

/-- All data that new layers start with is JSON data. -/
def Registry.HoldsJson (r : Registry) : Prop := ∀ e ∈ r, e.2.HoldsJson

/-- An operation that brings JSON data only, under names that are made of characters. -/
def Operation.BringsJson : Operation → Prop
  | .updateLayer _ props patch =>
    Value.entriesAreJson props = true ∧ Value.entriesAreJson patch = true
  | .replaceDocument (.data pages) _ _ vars =>
    Value.itemsAreJson pages = true ∧ Value.itemsAreJson vars = true
  | .replaceDocument (.components layers) _ _ vars =>
    Value.itemsAreJson (Layer.itemValues layers) = true ∧ Value.itemsAreJson vars = true
  | .addVariable _ _ default => default.isJson = true
  | .updateVariable _ patch => Value.entriesAreJson patch = true
  | .bindProp _ prop _ => Text.Surrogate.occursIn prop = false
  | _ => True

/-! ## Props -/

namespace Props

variable {props : Props}

theorem isJson_iff :
    Value.entriesAreJson (Entries.mapValues PropValue.toValue props) = true ↔
      ∀ p ∈ props, Text.Surrogate.occursIn p.1 = false ∧ p.2.toValue.isJson = true := by
  rw [Value.entriesAreJson_iff, Entries.mapValues, List.forall_mem_map]

theorem isJson_merge {patch : Props}
    (h : Value.entriesAreJson (Entries.mapValues PropValue.toValue props) = true)
    (hpatch : Value.entriesAreJson (Entries.mapValues PropValue.toValue patch) = true) :
    Value.entriesAreJson (Entries.mapValues PropValue.toValue (Entries.merge props patch)) = true :=
  isJson_iff.mpr fun p hp =>
    (Entries.mem_merge hp).elim (isJson_iff.mp h p) (isJson_iff.mp hpatch p)

/-- Marker objects that become references were JSON data before and are after. -/
theorem isJson_normalized
    (h : Value.entriesAreJson (Entries.mapValues PropValue.toValue props) = true) :
    Value.entriesAreJson (Entries.mapValues PropValue.toValue
      (Entries.mapValues PropValue.normalized props)) = true := by
  refine isJson_iff.mpr fun p hp => ?_
  obtain ⟨q, hq, rfl⟩ := List.mem_map.mp hp
  obtain ⟨hname, hvalue⟩ := isJson_iff.mp h q hq
  exact ⟨hname, PropValue.isJson_toValue_ofValue hvalue⟩

theorem isJson_released
    (h : Value.entriesAreJson (Entries.mapValues PropValue.toValue props) = true)
    {defaults : Entries Value} (hdefaults : Value.entriesAreJson defaults = true)
    (variableId : String) :
    Value.entriesAreJson
      (Entries.mapValues PropValue.toValue (props.released variableId defaults)) = true := by
  refine isJson_iff.mpr fun p hp => ?_
  obtain ⟨q, hq, he⟩ := List.mem_filterMap.mp hp
  obtain ⟨hname, hvalue⟩ := isJson_iff.mp h q hq
  split at he
  · obtain ⟨v, hv, rfl⟩ := Option.map_eq_some_iff.mp he
    exact ⟨hname, Value.isJson_of_get? hdefaults hv⟩
  · cases he
    exact ⟨hname, hvalue⟩

end Props

namespace RegistryEntry.HoldsJson

variable {e : RegistryEntry}

theorem initialProps (he : e.HoldsJson) :
    Value.entriesAreJson (Entries.mapValues PropValue.toValue e.initialProps) = true := by
  refine Props.isJson_merge (Props.entriesAreJson_mapValues_ofValue he.defaults) ?_
  refine Props.isJson_iff.mpr fun p hp => ?_
  obtain ⟨b, hb, rfl⟩ := List.mem_map.mp hp
  exact ⟨he.bindings b (List.mem_filter.mp hb).1, Value.isJson_ofReference b.variableId⟩

end RegistryEntry.HoldsJson

theorem Registry.HoldsJson.defaultProps {r : Registry} (hr : r.HoldsJson) (type : String) :
    Value.entriesAreJson (r.defaultProps type) = true := by
  unfold Registry.defaultProps
  split
  · next entry hentry => exact (hr _ (Entries.mem_of_get?_eq_some hentry)).defaults
  · rfl

/-! ## Layers -/

namespace Forest

theorem holdingJson_anonymous : Rule.Anonymous holdingJson :=
  ⟨fun _ _ _ _ h => ⟨h.props, h.extra⟩, fun _ _ _ _ h => h⟩

theorem Linked.holdingJson_under {f : Forest} {parent : Option Head}
    (h : Linked holdingJson parent f) (other : Option Head) : Linked holdingJson other f :=
  ⟨h.1, h.2⟩

theorem Linked.holdsJson_of_mem {f : Forest} {parent : Option Head}
    (h : Linked holdingJson parent f) {l : Layer} (hl : l ∈ preorder f) : l.head.HoldsJson := by
  rcases mem_or_exists_parent hl with htop | ⟨above, habove, hchild⟩
  · exact h.1 l htop
  · exact h.2 above habove l hchild

end Forest

namespace Store

variable {st : Store} {s t : Supply} {d : Document}

/-- What the store does on its own brings no data that is not JSON data. -/
theorem upholds_holdingJson (hregistry : st.registry.HoldsJson)
    (hconfig : Value.entriesAreJson st.config.defaultPageProps = true) :
    st.Upholds Forest.holdingJson := by
  have hanonymous := Forest.holdingJson_anonymous
  refine ⟨hanonymous, fun _ hlayer => ?_, fun _ _ => ?_, fun h _ => h, fun variableId q c h => ?_⟩
  · refine Forest.linked_ofType hanonymous hlayer (fun id => ⟨?_, rfl⟩)
      fun entry items id hentry hitems => ?_
    · cases hentry : Entries.get? st.registry _ with
      | none => rfl
      | some entry => exact (hregistry _ (Entries.mem_of_get?_eq_some hentry)).initialProps
    · have htemplate := (hregistry _ (Entries.mem_of_get?_eq_some hentry)).template items hitems
      exact Forest.itemsAreJson_itemValues_iff.mp htemplate
  · exact ⟨Props.entriesAreJson_mapValues_ofValue hconfig, rfl⟩
  · exact ⟨Props.isJson_released h.props (hregistry.defaultProps c.type) variableId, h.extra⟩

/-- What operations write over a layer is JSON data if what they bring is. -/
theorem Patches.isJson {op : Operation} {id : String} {props patch : Entries Value}
    (h : st.Patches op id props patch) (hop : op.BringsJson) (hregistry : st.registry.HoldsJson)
    (hdoc : Forest.Linked Forest.holdingJson none st.document.pages) :
    Value.entriesAreJson props = true ∧ Value.entriesAreJson patch = true := by
  cases h with
  | updateLayer => exact hop
  | @bindProp id prop variableId =>
    have hname : Text.Surrogate.occursIn prop = false := hop
    exact ⟨by simp [Value.entriesAreJson, hname, Value.isJson_ofReference], rfl⟩
  | @unbindProp id prop variableId layer _ hlayer hbound =>
    -- the name of a prop that is there is made of characters
    obtain ⟨held, hheld, -⟩ := Option.bind_eq_some_iff.mp hbound
    have hjson := (hdoc.holdsJson_of_mem (Document.layer?_eq_some hlayer).1).props
    have hname := (Props.isJson_iff.mp hjson _ (Entries.mem_of_get?_eq_some hheld)).1
    have hvalue : ((Entries.get? (st.registry.defaultProps layer.type) prop).getD
        (.str "")).isJson = true := by
      cases hget : Entries.get? (st.registry.defaultProps layer.type) prop with
      | none => rfl
      | some v => exact Value.isJson_of_get? (hregistry.defaultProps layer.type) hget
    exact ⟨by simp [Value.entriesAreJson, hname, hvalue], rfl⟩
  | bindChildren =>
    have hname : Text.Surrogate.occursIn "children" = false := by decide
    exact ⟨rfl, by simp [Value.entriesAreJson, hname, Value.isJson_ofReference]⟩
  | unbindChildren =>
    have hname : Text.Surrogate.occursIn "children" = false := by decide
    exact ⟨rfl, by simp [Value.entriesAreJson, hname, Value.isJson]⟩

/-- A patch of JSON data that brings no layers leaves a layer with JSON data. -/
theorem holdsJson_of_patched {target updated : Layer} {props patch : Entries Value}
    (hupdated : target.patched props patch s = some (updated, t))
    (hchildren : ∀ v, Entries.get? patch "children" = some v → v.items? = none)
    (hprops : Value.entriesAreJson props = true) (hpatch : Value.entriesAreJson patch = true)
    {q : Option Head} (h : Forest.Linked Forest.holdingJson q [target]) :
    Forest.Linked Forest.holdingJson q [updated] := by
  obtain ⟨hhead, hbelow⟩ := Forest.linked_singleton.mp h
  obtain ⟨type, name, hafter, -⟩ := Layer.patched_eq_some hupdated
  refine Forest.linked_singleton.mpr ⟨?_, ?_⟩
  · rw [hafter]
    refine ⟨Props.isJson_normalized (Props.isJson_merge hhead.props ?_), ?_⟩
    · exact Props.entriesAreJson_mapValues_ofValue hprops
    · refine Value.entriesAreJson_iff.mpr fun e he => ?_
      rcases Entries.mem_merge he with he | he
      · exact Value.entriesAreJson_iff.mp hhead.extra e he
      · exact Value.entriesAreJson_iff.mp hpatch e (List.mem_filter.mp he).1
  · rcases Layer.children_of_patched hupdated hchildren with hkept | hgone
    · rw [hkept]
      exact hbelow.holdingJson_under _
    · rw [hgone]
      exact Forest.linked_nil

theorem holdsJson_pagesOfComponents {layers forest : Forest}
    (hlayers : Forest.Linked Forest.holdingJson none layers)
    (h : pagesOfComponents layers = some forest) :
    Forest.Linked Forest.holdingJson none forest := by
  refine Forest.linked_iff_forall_mem.mpr fun page hpage => ?_
  obtain ⟨l, hl, he⟩ := exists_of_mem_pagesOfComponents h page hpage
  obtain ⟨hhead, hbelow⟩ :=
    Forest.linked_singleton.mp (Forest.linked_iff_forall_mem.mp hlayers l hl)
  unfold Layer.asPage? at he
  split at he
  · cases he
    exact Forest.linked_singleton.mpr
      ⟨⟨Props.isJson_normalized hhead.props, hhead.extra⟩, hbelow.holdingJson_under _⟩
  · cases he

theorem Pages.holdsJson_read? {op : Operation} (hop : op.BringsJson) {pages : Pages}
    (hpages : op.given? = some pages) {forest : Forest} (h : pages.read? s = some (forest, t)) :
    Forest.Linked Forest.holdingJson none forest := by
  unfold Operation.given? at hpages
  split at hpages
  · cases hpages
    cases pages with
    | data items =>
      obtain ⟨hitems, -⟩ := hop
      exact Layer.holdsJson_of_readPages hitems h
    | components layers =>
      obtain ⟨hlayers, -⟩ := hop
      obtain ⟨f, hf, he⟩ := Option.map_eq_some_iff.mp h
      cases he
      exact holdsJson_pagesOfComponents (Forest.itemsAreJson_itemValues_iff.mp hlayers) hf
  · cases hpages

theorem Commits.isJson_default {op : Operation} (h : st.Commits s op d t) (hop : op.BringsJson)
    (hdoc : ∀ v ∈ st.document.vars, v.default.isJson = true) :
    ∀ v ∈ d.vars, v.default.isJson = true := by
  cases h with
  | @replaceDocument pages _ _ _ _ _ _ _ _ _ _ _ hvars _ _ h =>
    obtain ⟨-, hsame, -⟩ := Document.assemble_eq_ok h
    rw [hsame]
    cases pages with
    | data | components => exact Variable.isJson_default_of_readAll hop.2 hvars
  | addVariable =>
    intro v hv
    rcases List.mem_append.mp hv with hv | hv
    · exact hdoc v hv
    · rw [List.mem_singleton.mp hv]
      exact hop
  | updateVariable hfound hpatched =>
    intro v hv
    obtain ⟨w, hw, rfl⟩ := List.mem_map.mp hv
    split
    · exact Variable.isJson_default_of_patched (hdoc _ (List.mem_of_find?_eq_some hfound)) hop
        hpatched
    · exact hdoc w hw
  | removeVariable => exact fun v hv => hdoc v (List.mem_filter.mp hv).1
  | patch _ h =>
    obtain ⟨_, _, -, -, -, -, rfl⟩ := h.exists_target
    exact hdoc
  | addLayer | addPage | duplicatePage | duplicateLayer | removePage | removeLayer | moveLayer
  | selectLayer | selectPage => exact hdoc

/-- Every commit of JSON data leaves JSON data only. -/
theorem Commits.isJson {op : Operation} (h : st.Commits s op d t)
    (hregistry : st.registry.HoldsJson)
    (hconfig : Value.entriesAreJson st.config.defaultPageProps = true) (hop : op.PatchesNoList)
    (hbrings : op.BringsJson) (hnodup : (Forest.ids st.document.pages).Nodup)
    (hdoc : st.document.toValue.isJson = true) : d.toValue.isJson = true := by
  obtain ⟨hforest, hdefaults⟩ := Document.isJson_toValue_iff.mp hdoc
  refine Document.isJson_toValue_iff.mpr ⟨?_, h.isJson_default hbrings hdefaults⟩
  refine h.linked (upholds_holdingJson hregistry hconfig) (fun hpatch _ _ hupdated q hq => ?_)
    (fun pages forest t hpages hread => Pages.holdsJson_read? hbrings hpages hread) hnodup hforest
  obtain ⟨hprops, hentries⟩ := hpatch.isJson hbrings hregistry hforest
  exact holdsJson_of_patched hupdated (hpatch.no_items hop) hprops hentries hq

end Store

namespace Editor

/-- Over every run from an editor at the start whose registry, settings and document hold JSON data
only, with new labels, without lists of children in patches, and with operations that bring JSON
data only: every document that the editor holds, in its store and in its history, is written as
JSON data. -/
theorem isJson_runAll {e : Editor} (he : e.Opened) (hregistry : e.store.registry.HoldsJson)
    (hconfig : Value.entriesAreJson e.store.config.defaultPageProps = true)
    (hstart : e.document.toValue.isJson = true) {ops : List Operation}
    (hfresh : e.FreshRun (fun d => Forest.ids d.pages) ops)
    (hops : ∀ op ∈ ops, op.PatchesNoList ∧ op.BringsJson) :
    ∀ d ∈ (e.runAll ops).documents, d.toValue.isJson = true := by
  refine kept_runAll he hfresh ((e.along_store ops).and hops) (fun st s op h => h.2.1) hstart ?_
  rintro st s op d t ⟨hstore, hchildren, hbrings⟩ hcommit hbefore - hdoc
  have hsame : st.registry = e.store.registry ∧ st.config = e.store.config := by
    rw [hstore]
    exact ⟨rfl, rfl⟩
  exact hcommit.isJson (hsame.1 ▸ hregistry) (hsame.2 ▸ hconfig) hchildren hbrings hbefore.nodup
    hdoc

end Editor

end LayerDoc
