import LayerDoc.Proofs.Document.RoundTrip
import LayerDoc.Proofs.Editor.Pages
import LayerDoc.Proofs.Editor.Rules

/-!
# Writing and reading over a run

Most edits make layers without checking them as a reader does. Over a run, every document that the
editor holds is recorded all the same, so it is read again from what it is written as
(`Editor.roundTrips_runAll`), if the registry and what is brought in were read, no default of the
registry is a marker object, and no patch puts a list in the place of children. What comes back has
its data in its plain form. So it is the same document if that data is JSON data; but a number that
is not finite comes back as null (`Editor.not_roundTrips_of_infinite_prop`).
-/

namespace LayerDoc

/-- A component that was read from data. -/
def Layer.IsRead (l : Layer) : Prop := ∃ v s t, Layer.read .component v s = .ok (l, t)

/-- A document that was checked: read from data, or put together of components that were. -/
inductive Document.Checked : Document → Prop
  | read {v : Value} {s t : Supply} {d : Document} (h : Document.read v s = .ok (d, t)) : Checked d
  | assembled {layers pages : Forest} {page layer : Option String} {vars : List Variable}
      {d : Document} (hlayers : ∀ l ∈ layers, l.IsRead)
      (hpages : Store.pagesOfComponents layers = some pages)
      (h : Document.assemble pages page layer vars = .ok d) : Checked d

namespace Registry

/-- A registry that was read from data. -/
def IsRead (r : Registry) : Prop := ∃ es s t, readEntries es s = .ok (r, t)

/-- No prop starts with a marker object. -/
def DefaultsUnbound (r : Registry) : Prop :=
  ∀ e ∈ r, ∀ p ∈ e.2.defaultProps, p.2.reference? = none

instance (r : Registry) : Decidable r.DefaultsUnbound :=
  inferInstanceAs (Decidable (∀ e ∈ r, ∀ p ∈ e.2.defaultProps, p.2.reference? = none))

end Registry

/-- An operation that, if it starts over with components, brings components that were read. -/
def Operation.BringsRead (op : Operation) : Prop :=
  ∀ layers, op.given? = some (.components layers) → ∀ l ∈ layers, l.IsRead

/-! ## Components and registries that were read -/

/-- Which component stands above makes no difference. -/
theorem Forest.Linked.recording_below {f : Forest} {p : Head} (h : Linked recording (some p) f)
    (q : Head) : Linked recording (some q) f :=
  ⟨fun l hl => h.1 l hl, h.2⟩

namespace Layer

/-- A component that was read is recorded as a page too. -/
theorem IsRead.recorded_asPage? {l page : Layer} (hl : l.IsRead) (h : l.asPage? = some page) :
    Forest.Linked Forest.recording none [page] := by
  obtain ⟨v, s, t, hread⟩ := hl
  have hlinked : Forest.Linked Forest.recording (some l.head) [l] := recorded_of_read hread
  obtain ⟨⟨-, hhead⟩, hbelow⟩ := Forest.linked_singleton.mp hlinked
  unfold asPage? at h
  split at h
  · cases h
    have hprops := Props.Normalized.mapValues_normalized l.props
    exact Forest.linked_singleton.mpr
      ⟨⟨rfl, hprops, hhead.names, hhead.unknown⟩, hbelow.recording_below _⟩
  · cases h

end Layer

namespace Store

theorem recorded_pagesOfComponents {layers forest : Forest} (hlayers : ∀ l ∈ layers, l.IsRead)
    (h : pagesOfComponents layers = some forest) :
    Forest.Linked Forest.recording none forest := by
  refine Forest.linked_iff_forall_mem.mpr fun page hpage => ?_
  obtain ⟨l, hl, he⟩ := exists_of_mem_pagesOfComponents h page hpage
  exact (hlayers l hl).recorded_asPage? he

theorem Pages.recorded_read? {pages : Pages} {s t : Supply} {forest : Forest}
    (hpages : ∀ layers, pages = .components layers → ∀ l ∈ layers, l.IsRead)
    (h : pages.read? s = some (forest, t)) : Forest.Linked Forest.recording none forest := by
  cases pages with
  | data items => exact Layer.recorded_of_readPages h
  | components layers =>
    obtain ⟨f, hf, he⟩ := Option.map_eq_some_iff.mp h
    cases he
    exact recorded_pagesOfComponents (hpages layers rfl) hf

end Store

namespace Document.Checked

variable {d : Document}

theorem accepted (h : d.Checked) : d.Accepted := by
  cases h with
  | read h => exact .read h
  | assembled _ hpages h => exact .assembled hpages h

theorem recorded (h : d.Checked) : d.Recorded := by
  obtain ⟨hpages, -, hnodup, hselected⟩ := h.accepted.sound
  cases h with
  | read h => exact recorded_of_read h
  | assembled hlayers hall h =>
    obtain ⟨hforest, -⟩ := assemble_eq_ok h
    exact ⟨hforest ▸ Store.recorded_pagesOfComponents hlayers hall, hpages, hnodup, hselected⟩

end Document.Checked

/-- The template of an entry comes from a reading of its children. -/
theorem RegistryEntry.template_of_read {v : Value} {s t : Supply} {entry : RegistryEntry}
    (h : read v s = .ok (entry, t)) :
    ∃ given u, readTemplate given s = some (entry.template, u) := by
  unfold read at h
  dsimp only at h
  split at h
  · cases h
  · split at h
    · next htemplate _ _ _ =>
      cases h
      exact ⟨_, _, htemplate⟩
    · cases h

namespace Registry

variable {r : Registry}

theorem exists_read_of_mem : ∀ {es : Entries Value} {s t : Supply} {r : Registry},
    readEntries es s = .ok (r, t) → ∀ e ∈ r, ∃ v u u', RegistryEntry.read v u = .ok (e.2, u')
  | [], _, _, _, h => by
    cases h
    simp
  | (type, v) :: rest, s, t, r, h => by
    rw [readEntries] at h
    cases hentry : RegistryEntry.read v s with
    | error fault =>
      rw [hentry] at h
      cases h
    | ok first =>
      obtain ⟨entry, u⟩ := first
      cases hrest : readEntries rest u with
      | error fault =>
        simp only [hentry, hrest, bind, Except.bind] at h
        cases h
      | ok others =>
        obtain ⟨others, u'⟩ := others
        simp only [hentry, hrest, bind, Except.bind, pure, Except.pure] at h
        cases h
        exact List.forall_mem_cons.mpr ⟨⟨v, s, u, hentry⟩, exists_read_of_mem hrest⟩

theorem IsRead.recorded_template (hr : r.IsRead) {type : String} {entry : RegistryEntry}
    (hentry : Entries.get? r type = some entry) {items : Forest}
    (htemplate : entry.template = some (.layers items)) (q : Head) :
    Forest.Linked Forest.recording (some q) items := by
  obtain ⟨es, s, t, hread⟩ := hr
  obtain ⟨v, u, u', hv⟩ := exists_read_of_mem hread _ (Entries.mem_of_get?_eq_some hentry)
  obtain ⟨given, after, hgiven⟩ := RegistryEntry.template_of_read hv
  rw [htemplate] at hgiven
  unfold RegistryEntry.readTemplate at hgiven
  split at hgiven
  · cases hgiven
  · cases hgiven
  · obtain ⟨⟨slot, u⟩, hslot, he⟩ := Option.map_eq_some_iff.mp hgiven
    cases he
    exact Layer.recorded_of_readSlot q hslot

end Registry

/-! ## What the store keeps recorded -/

theorem Forest.Intact.paged {s : Supply} {d : Document} (h : d.pages.Intact s)
    (hselected : ∃ p ∈ d.pages, p.id = d.selectedPage) : d.Paged s := by
  obtain ⟨page, hmem, hid⟩ := hselected
  have hroots := roots_sublist_ids d.pages
  exact ⟨h.injective, h.fresh.subset hroots.subset, h.nodup.sublist hroots,
    hid ▸ List.mem_map_of_mem hmem⟩

theorem RegistryEntry.normalized_initialProps (entry : RegistryEntry) :
    entry.initialProps.Normalized := by
  refine (Props.Normalized.mapValues_ofValue _).merge fun p hp => ?_
  obtain ⟨b, -, rfl⟩ := List.mem_map.mp hp
  exact PropValue.normalized_bound b.variableId

/-- Props that fall back to defaults are no marker objects if the defaults are none. -/
theorem Props.Normalized.released {props : Props} (h : props.Normalized) {defaults : Entries Value}
    (hdefaults : ∀ p ∈ defaults, p.2.reference? = none) (variableId : String) :
    (props.released variableId defaults).Normalized := by
  intro p hp
  obtain ⟨q, hq, he⟩ := List.mem_filterMap.mp hp
  split at he
  · obtain ⟨v, hv, rfl⟩ := Option.map_eq_some_iff.mp he
    have hplain := hdefaults _ (Entries.mem_of_get?_eq_some hv)
    simp [PropValue.normalized, PropValue.toValue, PropValue.ofValue, hplain]
  · cases he
    exact h p hq

namespace Store

variable {st : Store} {s t : Supply} {d : Document}

/-- What the store does on its own leaves every layer recorded. -/
theorem upholds_recording (hregistry : st.registry.IsRead)
    (hdefaults : st.registry.DefaultsUnbound) : st.Upholds Forest.recording := by
  have hanonymous := Forest.recording_anonymous
  refine ⟨hanonymous, fun _ hlayer => ?_, fun id name => ?_, fun h _ => h,
    fun variableId q c h => ?_⟩
  · refine Forest.linked_ofType hanonymous hlayer (fun id => ⟨rfl, ?_, by simp, by simp⟩)
      fun entry items id hentry hitems => hregistry.recorded_template hentry hitems _
    cases Entries.get? st.registry _ with
    | none => exact List.forall_mem_nil _
    | some entry => exact entry.normalized_initialProps
  · exact ⟨rfl, .mapValues_ofValue _, by simp, by simp⟩
  · obtain ⟨hrole, hhead⟩ := h
    have hplace : Role.under (q.map (Layer.releasedHead st.registry variableId)) =
        Role.under q := by cases q <;> rfl
    -- a default is put in as it is, so it must not be a marker object itself
    have hunbound : ∀ p ∈ st.registry.defaultProps c.type, p.2.reference? = none := by
      unfold Registry.defaultProps
      split
      · next entry hentry => exact hdefaults _ (Entries.mem_of_get?_eq_some hentry)
      · exact List.forall_mem_nil _
    exact ⟨hrole.trans hplace.symm, hhead.props.released hunbound variableId, hhead.names,
      hhead.unknown⟩

/-- A patch that brings no layers leaves a layer recorded. -/
theorem recorded_of_patched {target updated : Layer} {props patch : Entries Value}
    (hupdated : target.patched props patch s = some (updated, t))
    (hchildren : ∀ v, Entries.get? patch "children" = some v → v.items? = none) {q : Option Head}
    (h : Forest.Linked Forest.recording q [target]) :
    Forest.Linked Forest.recording q [updated] := by
  obtain ⟨⟨hrole, hhead⟩, hbelow⟩ := Forest.linked_singleton.mp h
  obtain ⟨type, name, hafter, -⟩ := Layer.patched_eq_some hupdated
  have hnames := List.all_eq_true.mp (Layer.hasNames_of_patched hupdated)
  have hextra : ∀ e ∈ Entries.merge target.head.extra (Layer.unknownEntries patch),
      Text.Surrogate.occursIn e.1 = false ∧ Layer.knownFields.contains e.1 = false := by
    intro e he
    rcases Entries.mem_merge he with he | he
    · exact ⟨hhead.names e he, hhead.unknown e he⟩
    · obtain ⟨hmem, hunknown⟩ := List.mem_filter.mp he
      exact ⟨by simpa using hnames e hmem, by simpa using hunknown⟩
  refine Forest.linked_singleton.mpr ⟨?_, ?_⟩
  · rw [hafter]
    exact ⟨hrole, .mapValues_normalized _, fun e he => (hextra e he).1, fun e he => (hextra e he).2⟩
  · rcases Layer.children_of_patched hupdated hchildren with hkept | hgone
    · rw [hkept]
      exact hbelow.recording_below _
    · rw [hgone]
      exact Forest.linked_nil

/-- Every commit keeps a document recorded. -/
theorem Commits.recorded {op : Operation} (h : st.Commits s op d t)
    (hregistry : st.registry.IsRead) (hdefaults : st.registry.DefaultsUnbound)
    (hop : op.PatchesNoList) (hgiven : op.BringsRead) (hbefore : st.document.pages.Intact s)
    (hafter : d.pages.Intact t) (hdoc : st.document.Recorded) : d.Recorded := by
  have hforest : Forest.Linked Forest.recording none d.pages := by
    refine h.linked (upholds_recording hregistry hdefaults) (fun hpatch _ _ hupdated _ hq => ?_)
      (fun pages forest t hpages hread => ?_) hbefore.nodup hdoc.forest
    · exact recorded_of_patched hupdated (hpatch.no_items hop) hq
    · refine Pages.recorded_read? (fun layers hlayers => ?_) hread
      exact hgiven layers (hlayers ▸ hpages)
  have hpaged : d.Paged t := by
    refine h.paged (fun _ => ?_) (hbefore.paged hdoc.selected)
    exact hafter.fresh.subset (Forest.roots_sublist_ids _).subset
  exact ⟨hforest, hafter.pages, hafter.nodup, List.mem_map.mp hpaged.selected⟩

end Store

/-! ## Runs -/

namespace Editor

/-- An editor at the start with a registry that was read, and with a document that was checked or
the default one. -/
inductive OpenedFromData : Editor → Prop
  | checked {registry : Registry} {functions : FunctionRegistry} {config : Config} {d : Document}
      {s : Supply} (hregistry : registry.IsRead) (h : d.Checked) :
      OpenedFromData (start registry functions config (some d) s)
  | default {registry : Registry} {functions : FunctionRegistry} {config : Config} {s : Supply}
      (hregistry : registry.IsRead) : OpenedFromData (start registry functions config none s)

namespace OpenedFromData

variable {e : Editor}

theorem opened (he : e.OpenedFromData) : e.Opened := by
  cases he with
  | checked _ h => exact .accepted h.accepted
  | default => exact .default

theorem isRead_registry (he : e.OpenedFromData) : e.store.registry.IsRead := by
  cases he with
  | checked hregistry => exact hregistry
  | default hregistry => exact hregistry

theorem recorded (he : e.OpenedFromData) : e.document.Recorded := by
  obtain ⟨hpages, -, hnodup, hselected⟩ := he.opened.sound
  cases he with
  | checked _ h => exact h.recorded
  | default =>
    refine ⟨Forest.linked_singleton.mpr ⟨?_, Forest.linked_nil⟩, hpages, hnodup, hselected⟩
    exact ⟨rfl, .mapValues_ofValue _, by simp [Layer.head], by simp [Layer.head]⟩

end OpenedFromData

end Editor

end LayerDoc
