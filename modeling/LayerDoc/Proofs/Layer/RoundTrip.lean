import LayerDoc.Layer.Data
import LayerDoc.Proofs.Forest.Linked
import LayerDoc.Proofs.Reading
import LayerDoc.Proofs.Value.Json

/-!
# Layers that are written and read again

A layer is recorded if none of its props is a marker object that stands for itself, its further
attributes have names of characters that the model does not know, and it is a page at the top of a
document and a component below. This is a rule between layers and their parents
(`Forest.recording`).

* `Forest.readItems_plainItems`: recorded layers are read again from the plain form of what they are
  written as, with all of their data in its plain form (`Layer.plained`).
* `Forest.plainedItems_eq_self`: these are the same layers if all of their data is JSON data.
* `Layer.linked_of_read`: what holds of the attributes of every layer that is read is a rule that a
  layer that was read stands by, with all below it.
-/

namespace LayerDoc

/-- None of the props is a marker object that stands for itself. -/
def Props.Normalized (props : Props) : Prop := ∀ p ∈ props, p.2.normalized = p.2

/-- Attributes of a layer that a reader of layers can have brought about. -/
structure Head.Recorded (h : Head) : Prop where
  props : h.props.Normalized
  names : ∀ e ∈ h.extra, Text.Surrogate.occursIn e.1 = false
  unknown : ∀ e ∈ h.extra, Layer.knownFields.contains e.1 = false

/-- The data that a layer holds beside its children is JSON data. -/
structure Head.HoldsJson (h : Head) : Prop where
  props : Value.entriesAreJson (Entries.mapValues PropValue.toValue h.props) = true
  extra : Value.entriesAreJson h.extra = true

/-- How a layer is made that stands at the top of a document, or under a parent. -/
def Role.under : Option Head → Role
  | none => .page
  | some _ => .component

namespace Forest

/-- Every layer is recorded and made for its place. -/
def recording : Rule := fun parent child => child.role = Role.under parent ∧ child.Recorded

/-- All data of every layer is JSON data. -/
def holdingJson : Rule := fun _ child => child.HoldsJson

end Forest

/-! ## The plain form of layers -/

/-- The props with all data in its plain form, which may turn out to be a marker object. -/
def Props.plained (props : Props) : Props :=
  props.map fun p => (Key.replaced p.1, PropValue.ofValue p.2.toValue.plain)

/-- The attributes with all data in its plain form. -/
def Head.plained (h : Head) : Head :=
  { h with props := h.props.plained, extra := Value.plainEntries h.extra }

namespace Layer

mutual

/-- A layer with all data in its plain form, at any depth. -/
def plained : Layer → Layer
  | .node head (.layers items) => .node head.plained (.layers (plainedItems items))
  | .node head (.text content) => .node head.plained (.text content)
  | .node head (.bound variableId) => .node head.plained (.bound variableId)

/-- `plained` on each layer of a list. -/
def plainedItems : List Layer → List Layer
  | [] => []
  | l :: rest => l.plained :: plainedItems rest

end

theorem plainedItems_leaf (head : Head) {slot : Slot Layer} (h : slot.isList = false)
    (rest : Forest) :
    plainedItems (.node head slot :: rest) = .node head.plained slot :: plainedItems rest := by
  cases slot with
  | layers items => cases h
  | text content => rw [plainedItems, plained]
  | bound variableId => rw [plainedItems, plained]

/-- The plain form changes nothing at the top of a forest but props and further attributes. -/
theorem map_footing_plainedItems (f : Forest) :
    (plainedItems f).map footing = f.map footing := by
  induction f using Forest.induction with
  | nil => rw [plainedItems]
  | leaf head slot rest hslot hrest =>
    rw [plainedItems_leaf head hslot, List.map_cons, List.map_cons, hrest]
    rfl
  | layers head items rest _ hrest =>
    rw [plainedItems, plained, List.map_cons, List.map_cons, hrest]
    rfl

end Layer

theorem Forest.ids_plainedItems (f : Forest) : ids (Layer.plainedItems f) = ids f := by
  induction f using Forest.induction with
  | nil => rw [Layer.plainedItems]
  | leaf head slot rest hslot hrest =>
    rw [Layer.plainedItems_leaf head hslot, ids_cons, ids_cons, hrest,
      Layer.ids_leaf head.plained hslot, Layer.ids_leaf head hslot]
    rfl
  | layers head items rest hitems hrest =>
    rw [Layer.plainedItems, Layer.plained, ids_cons, ids_cons, hrest, Layer.ids_layers,
      Layer.ids_layers, hitems]
    rfl

/-! ## Props and further attributes -/

namespace PropValue

variable {v : Value}

theorem normalized_ofValue (v : Value) : (ofValue v).normalized = ofValue v := by
  cases hv : v.reference? with
  | some variableId => simp [ofValue, hv]
  | none => simp [normalized, toValue, ofValue, hv]

theorem isJson_toValue_ofValue (h : v.isJson = true) : (ofValue v).toValue.isJson = true := by
  unfold ofValue
  split
  · exact Value.isJson_ofReference _
  · exact h

end PropValue

theorem Props.entriesAreJson_mapValues_ofValue {es : Entries Value}
    (h : Value.entriesAreJson es = true) :
    Value.entriesAreJson
      (Entries.mapValues PropValue.toValue (Entries.mapValues PropValue.ofValue es)) = true := by
  refine Value.entriesAreJson_iff.mpr fun p hp => ?_
  rw [Entries.mapValues, Entries.mapValues, List.map_map] at hp
  obtain ⟨e, he, rfl⟩ := List.mem_map.mp hp
  obtain ⟨hname, hvalue⟩ := Value.entriesAreJson_iff.mp h e he
  exact ⟨hname, PropValue.isJson_toValue_ofValue hvalue⟩

namespace Props.Normalized

variable {props : Props}

theorem mapValues_ofValue (es : Entries Value) :
    Props.Normalized (Entries.mapValues PropValue.ofValue es) := by
  intro p hp
  obtain ⟨e, -, rfl⟩ := List.mem_map.mp hp
  exact PropValue.normalized_ofValue e.2

theorem mapValues_normalized (props : Props) :
    Props.Normalized (Entries.mapValues PropValue.normalized props) := by
  intro p hp
  obtain ⟨q, -, rfl⟩ := List.mem_map.mp hp
  exact PropValue.normalized_ofValue q.2.toValue

theorem merge {patch : Props} (h : props.Normalized) (hpatch : patch.Normalized) :
    Props.Normalized (Entries.merge props patch) := fun p hp =>
  (Entries.mem_merge hp).elim (h p) (hpatch p)

theorem plained_eq_self (h : props.Normalized)
    (hjson : Value.entriesAreJson (Entries.mapValues PropValue.toValue props) = true) :
    props.plained = props := by
  have hsame : ∀ p ∈ props, (Key.replaced p.1, PropValue.ofValue p.2.toValue.plain) = p := by
    intro p hp
    obtain ⟨hname, hvalue⟩ := Value.entriesAreJson_iff.mp hjson (p.1, p.2.toValue)
      (List.mem_map_of_mem hp)
    rw [Key.replaced_eq_self hname, Value.plain_of_isJson hvalue]
    exact Prod.ext rfl (h p hp)
  rw [plained, List.map_congr_left hsame, List.map_id']

end Props.Normalized

namespace Head

variable {h : Head}

theorem Recorded.renamed (hh : h.Recorded) (id type : String) (name : Option String) :
    { h with id := id, type := type, name := name }.Recorded := ⟨hh.props, hh.names, hh.unknown⟩

/-- Names of characters stay as they are in the plain form. -/
theorem Recorded.mem_plainEntries (hh : h.Recorded) {e : String × Value}
    (he : e ∈ Value.plainEntries h.extra) :
    Text.Surrogate.occursIn e.1 = false ∧ Layer.knownFields.contains e.1 = false := by
  rw [Value.plainEntries_eq_map] at he
  obtain ⟨written, hwritten, rfl⟩ := List.mem_map.mp he
  have hname := hh.names written hwritten
  simp only [Key.replaced_eq_self hname]
  exact ⟨hname, hh.unknown written hwritten⟩

theorem Recorded.plained_eq_self (hh : h.Recorded) (hjson : h.HoldsJson) : h.plained = h := by
  rw [plained, hh.props.plained_eq_self hjson.props, Value.plainEntries_of_isJson hjson.extra]

end Head

theorem Forest.recording_anonymous : Rule.Anonymous recording :=
  ⟨fun _ c id name h => ⟨h.1, h.2.renamed id c.type name⟩, fun _ _ _ _ h => h⟩

namespace Layer

/-! ## Writing -/

theorem occursIn_of_known {name : String} (h : knownFields.contains name = true) :
    Text.Surrogate.occursIn name = false := by
  have hall : ∀ name ∈ knownFields, Text.Surrogate.occursIn name = false := by decide
  exact hall name (List.contains_iff_mem.mp h)

/-- A layer is written as JSON data if its own data and its slot are JSON data. -/
theorem isJson_toValue_iff {head : Head} {slot : Slot Layer} :
    (toValue (.node head slot)).isJson = true ↔
      head.HoldsJson ∧ (slotValue slot).isJson = true := by
  rw [toValue, Value.isJson, Value.entriesAreJson_iff, List.forall_mem_append,
    ← @Value.entriesAreJson_iff head.extra]
  simp only [List.forall_mem_cons, List.not_mem_nil, false_implies, implies_true, and_true]
  constructor
  · rintro ⟨⟨-, -, -, ⟨-, hprops⟩, -, hslot⟩, hextra⟩
    rw [Value.isJson] at hprops
    exact ⟨⟨hprops, hextra⟩, hslot⟩
  · rintro ⟨⟨hprops, hextra⟩, hslot⟩
    refine ⟨⟨⟨occursIn_of_known rfl, rfl⟩, ⟨occursIn_of_known rfl, rfl⟩,
      ⟨occursIn_of_known rfl, ?_⟩, ⟨occursIn_of_known rfl, ?_⟩, occursIn_of_known rfl, hslot⟩,
      hextra⟩
    · cases head.name <;> rfl
    · rwa [Value.isJson]

/-- The plain form of what a layer is written as. -/
theorem plain_toValue (head : Head) (slot : Slot Layer) :
    (toValue (.node head slot)).plain =
      .object ([("id", .str head.id), ("type", .str head.type),
        ("name", match head.name with | some name => .str name | none => .null),
        ("props", .object (Value.plainEntries (Entries.mapValues PropValue.toValue head.props))),
        ("children", (slotValue slot).plain)] ++ Value.plainEntries head.extra) := by
  have hkey : ∀ name ∈ knownFields, Key.replaced name = name := fun name hname =>
    Key.replaced_eq_self (occursIn_of_known (List.contains_iff_mem.mpr hname))
  simp only [knownFields, List.forall_mem_cons, List.not_mem_nil, false_implies, implies_true,
    and_true] at hkey
  cases hname : head.name <;>
    simp [toValue, Value.plain, Value.plainEntries, Value.plainEntries_eq_map, hname, hkey]

/-- What the model does not know is found again behind what it knows. -/
theorem unknownEntries_append {known extra : Entries Value}
    (hknown : ∀ e ∈ known, knownFields.contains e.1 = true)
    (hextra : ∀ e ∈ extra, knownFields.contains e.1 = false) :
    unknownEntries (known ++ extra) = extra := by
  have hnone : known.filter (fun e => !knownFields.contains e.1) = [] :=
    List.filter_eq_nil_iff.mpr fun e he => by simp only [hknown e he]; decide
  have hall : extra.filter (fun e => !knownFields.contains e.1) = extra :=
    List.filter_eq_self.mpr fun e he => by simp only [hextra e he]; decide
  rw [unknownEntries, List.filter_append, hnone, hall, List.nil_append]

/-- A layer is read again from its plain form if its slot is. -/
theorem read_plain_of_slot {head : Head} {slot after : Slot Layer} {s : Supply}
    (hhead : head.Recorded)
    (hslot : readSlot head.role (slotValue slot).plain s = some (after, s)) :
    read head.role (toValue (.node head slot)).plain s = .ok (.node head.plained after, s) := by
  rw [plain_toValue]
  generalize hentries : [("id", Value.str head.id), ("type", .str head.type),
    ("name", match head.name with | some name => .str name | none => .null),
    ("props", .object (Value.plainEntries (Entries.mapValues PropValue.toValue head.props))),
    ("children", (slotValue slot).plain)] ++ Value.plainEntries head.extra = es
  have hid : readId (Entries.get? es "id") s = (some head.id, s) := by
    simp [← hentries, Entries.get?, readId, Value.text?]
  have htype : readType head.role (Entries.get? es "type") = some head.type := by
    simp [← hentries, Entries.get?, readType, Value.text?]
  have hname : readName (Entries.get? es "name") = some head.name := by
    simp only [← hentries]
    cases head.name <;> rfl
  have hprops : readProps (Entries.get? es "props") = some head.props.plained := by
    simp [← hentries, Entries.get?, readProps, Value.textEntries?, Props.plained,
      Value.plainEntries_eq_map, Entries.mapValues, Function.comp_def]
  have hchildren : readSlotIn head.role es s = some (after, s) := by
    simp [← hentries, readSlotIn, hslot]
  have hnames : hasNames es = true := by
    have hextra : (Value.plainEntries head.extra).all
        (fun e => !Text.Surrogate.occursIn e.1) = true :=
      List.all_eq_true.mpr fun e he => by rw [(hhead.mem_plainEntries he).1, Bool.not_false]
    rw [← hentries, hasNames, List.all_append, hextra, Bool.and_true]
    simp [occursIn_of_known, knownFields]
  have hunknown : unknownEntries es = Value.plainEntries head.extra :=
    hentries ▸ unknownEntries_append (by simp [knownFields])
      fun e he => (hhead.mem_plainEntries he).2
  rw [read]
  simp only [hid, htype, hname, hprops, hchildren, hnames, hunknown]
  rfl

/-! ## Slots that are no lists -/

theorem isJson_slotValue_leaf {slot : Slot Layer} (h : slot.isList = false) :
    (slotValue slot).isJson = true := by
  cases slot with
  | layers items => cases h
  | text content =>
    rw [slotValue]
    rfl
  | bound variableId =>
    rw [slotValue]
    exact Value.isJson_ofReference variableId

theorem readSlot_plain_leaf {slot : Slot Layer} (h : slot.isList = false) (s : Supply) :
    readSlot .component (slotValue slot).plain s = some (slot, s) := by
  rw [Value.plain_of_isJson (isJson_slotValue_leaf h)]
  cases slot with
  | layers items => cases h
  | text content => simp [slotValue, readSlot, Value.text?]
  | bound variableId =>
    simp [slotValue, readSlot, Value.ofReference, Value.text?, Value.entries?, readReference,
      Value.field, Entries.get?]

end Layer

namespace Forest

/-! ## Forests are written and read again -/

variable {parent : Option Head} {f : Forest}

/-- Layers are written as JSON data if all that they hold is JSON data. -/
theorem itemsAreJson_itemValues_iff :
    Value.itemsAreJson (Layer.itemValues f) = true ↔ Linked holdingJson parent f := by
  induction f using Forest.induction generalizing parent with
  | nil =>
    rw [Layer.itemValues]
    exact ⟨fun _ => linked_nil, fun _ => rfl⟩
  | leaf head slot rest hslot hrest =>
    have hleaf := Layer.isJson_slotValue_leaf hslot
    rw [Layer.itemValues, Value.itemsAreJson, Bool.and_eq_true, Layer.isJson_toValue_iff, hrest,
      linked_leaf hslot]
    exact ⟨fun h => ⟨h.1.1, h.2⟩, fun h => ⟨⟨h.1, hleaf⟩, h.2⟩⟩
  | layers head items rest hitems hrest =>
    rw [Layer.itemValues, Value.itemsAreJson, Bool.and_eq_true, Layer.isJson_toValue_iff, hrest,
      Layer.slotValue, Value.isJson, hitems, linked_layers, and_assoc]
    rfl

theorem plainedItems_eq_self (h : Linked recording parent f) (hjson : Linked holdingJson parent f) :
    Layer.plainedItems f = f := by
  induction f using Forest.induction generalizing parent with
  | nil => rw [Layer.plainedItems]
  | leaf head slot rest hslot hrest =>
    rw [linked_leaf hslot] at h hjson
    rw [Layer.plainedItems_leaf head hslot, h.1.2.plained_eq_self hjson.1, hrest h.2 hjson.2]
  | layers head items rest hitems hrest =>
    rw [linked_layers] at h hjson
    rw [Layer.plainedItems, Layer.plained, h.1.2.plained_eq_self hjson.1, hitems h.2.1 hjson.2.1,
      hrest h.2.2 hjson.2.2]

/-- A recorded layer is read again from its plain form if all layers below it are. -/
theorem read_plain_layers {head : Head} {items : Forest} {s : Supply} (hhead : head.Recorded)
    (hitems : Layer.readItems (Value.plainItems (Layer.itemValues items)) s =
      some (Layer.plainedItems items, s)) :
    Layer.read head.role (Layer.toValue (.node head (.layers items))).plain s =
      .ok (Layer.plained (.node head (.layers items)), s) := by
  rw [Layer.plained]
  refine Layer.read_plain_of_slot hhead ?_
  rw [Layer.slotValue, Value.plain, Layer.readSlot_of_items rfl, hitems]
  rfl

/-- Recorded components are read again from their plain form, and no labels are used up. -/
theorem readItems_plainItems {q : Head} (h : Linked recording (some q) f) (s : Supply) :
    Layer.readItems (Value.plainItems (Layer.itemValues f)) s = some (Layer.plainedItems f, s) := by
  induction f using Forest.induction generalizing q with
  | nil => rw [Layer.itemValues, Value.plainItems, Layer.readItems, Layer.plainedItems]
  | leaf head slot rest hslot hrest =>
    rw [linked_leaf hslot] at h
    -- under a parent a layer is made as what it is read as
    have hrole : head.role = .component := h.1.1
    have hread := Layer.read_plain_of_slot h.1.2 (hrole ▸ Layer.readSlot_plain_leaf hslot s)
    rw [hrole] at hread
    rw [Layer.itemValues, Value.plainItems, Layer.readItems, hread,
      Layer.plainedItems_leaf head hslot]
    simp only [hrest h.2, Option.map_some]
  | layers head items rest hitems hrest =>
    rw [linked_layers] at h
    have hrole : head.role = .component := h.1.1
    have hread := read_plain_layers h.1.2 (hitems h.2.1)
    rw [hrole] at hread
    rw [Layer.itemValues, Value.plainItems, Layer.readItems, hread, Layer.plainedItems]
    simp only [hrest h.2.2, Option.map_some]

theorem readPages_plainItems (h : Linked recording none f) (hpages : f.ArePages) (s : Supply) :
    Document.readPages (Value.plainItems (Layer.itemValues f)) s =
      some (Layer.plainedItems f, s) := by
  induction f with
  | nil => rw [Layer.itemValues, Value.plainItems, Document.readPages, Layer.plainedItems]
  | cons page rest ih =>
    rw [← List.singleton_append, linked_append] at h
    obtain ⟨hpage, hrest⟩ := h
    obtain ⟨hrole, hholds⟩ := hpages page List.mem_cons_self
    have hothers := ih hrest fun l hl => hpages l (List.mem_cons_of_mem _ hl)
    obtain ⟨head, slot⟩ := page
    cases slot with
    | layers items =>
      rw [linked_layers] at hpage
      have hread := read_plain_layers hpage.1.2 (readItems_plainItems hpage.2.1 s)
      have hrole' : head.role = .page := hrole
      rw [hrole'] at hread
      rw [Layer.itemValues, Value.plainItems, Document.readPages, hread, Layer.plainedItems]
      simp only [hothers, Option.map_some]
    | text content => cases hholds
    | bound variableId => cases hholds

end Forest

/-! ## What was read -/

namespace Layer

theorem hasNames_of_read {role : Role} {es : Entries Value} {s t : Supply} {l : Layer}
    (h : read role (.object es) s = .ok (l, t)) : hasNames es = true := by
  rw [read] at h
  dsimp only at h
  split at h
  · cases h
  · next hnames => simpa using hnames

/-- A property that goes down to the parts of data, and a rule that holds of all attributes that are
read from an object with the property. -/
structure Grants (P : Value → Prop) (R : Forest.Rule) : Prop where
  inherited : Value.Inherited P
  entries : ∀ {parent es id type name props}, P (.object es) → hasNames es = true →
    readProps (Entries.get? es "props") = some props →
    R parent ⟨Role.under parent, id, type, name, props, unknownEntries es⟩

section

variable {P : Value → Prop} {R : Forest.Rule}

-- by recursion on the data, as the readers go: the property goes down to the parts of the data, and
-- the rule is shown of the attributes that are read at each place
mutual

/-- A layer that was read stands by a rule that holds of all attributes that are read, and so does
all that is below it, if the data has a property that goes over to its parts. -/
theorem linked_of_read (hR : Grants P R) {parent : Option Head} :
    ∀ {v : Value} {s t : Supply} {l : Layer}, P v →
    read (Role.under parent) v s = .ok (l, t) → Forest.Linked R parent [l]
  | .object es, s, t, l, hv, h => by
    have hnames := hasNames_of_read h
    obtain ⟨_, id, after, type, name, props, slot, he, -, -, -, hprops, hslot, rfl⟩ := read_eq_ok h
    cases he
    exact Forest.linked_singleton.mpr ⟨hR.entries hv hnames hprops,
      linked_of_readSlotIn hR (fun e he => hR.inherited.entries hv he) hslot⟩
  | .null, _, _, _, _, h | .bool _, _, _, _, _, h | .int _, _, _, _, _, h
  | .float _, _, _, _, _, h | .str _, _, _, _, _, h | .list _, _, _, _, _, h
  | .bytes _, _, _, _, _, h | .moment _, _, _, _, _, h | .set _, _, _, _, _, h
  | .mapping _, _, _, _, _, h | .cycle, _, _, _, _, h => by simp [read] at h

theorem linked_of_readSlotIn (hR : Grants P R) {role : Role} {q : Head} :
    ∀ {es : List (String × Value)} {s t : Supply} {slot : Slot Layer}, (∀ e ∈ es, P e.2) →
    readSlotIn role es s = some (slot, t) → Forest.Linked R (some q) slot.items
  | [], s, t, slot, _, h => by
    simp only [readSlotIn, Option.some.injEq, Prod.mk.injEq] at h
    rw [← h.1]
    exact Forest.linked_nil
  | (k, v) :: rest, s, t, slot, hes, h => by
    rw [List.forall_mem_cons] at hes
    rw [readSlotIn] at h
    split at h
    · exact linked_of_readSlot hR hes.1 h
    · exact linked_of_readSlotIn hR hes.2 h

theorem linked_of_readSlot (hR : Grants P R) {role : Role} {q : Head} :
    ∀ {v : Value} {s t : Supply} {slot : Slot Layer}, P v →
    readSlot role v s = some (slot, t) → Forest.Linked R (some q) slot.items
  | .list items, s, t, slot, hv, h => by
    rw [readSlot_of_items rfl] at h
    obtain ⟨r, hr, he⟩ := Option.map_eq_some_iff.mp h
    cases he
    exact linked_of_readItems hR (fun w hw => hR.inherited.items hv rfl hw) hr
  | .set members, s, t, slot, hv, h => by
    rw [readSlot_of_items rfl] at h
    obtain ⟨r, hr, he⟩ := Option.map_eq_some_iff.mp h
    cases he
    exact linked_of_readItems hR (fun w hw => hR.inherited.items hv rfl hw) hr
  | .null, s, _, slot, _, h | .bool _, s, _, slot, _, h | .int _, s, _, slot, _, h
  | .float _, s, _, slot, _, h | .str _, s, _, slot, _, h | .object _, s, _, slot, _, h
  | .bytes _, s, _, slot, _, h | .moment _, s, _, slot, _, h | .mapping _, s, _, slot, _, h
  | .cycle, s, _, slot, _, h => by
    obtain ⟨-, hleaf, -⟩ := readSlot_of_no_items rfl h
    have hnone : slot.items = [] :=
      children_of_holdsLayers_eq_false (l := .node q slot) hleaf
    rw [hnone]
    exact Forest.linked_nil

theorem linked_of_readItems (hR : Grants P R) {q : Head} :
    ∀ {items : List Value} {s t : Supply} {f : Forest}, (∀ v ∈ items, P v) →
    readItems items s = some (f, t) → Forest.Linked R (some q) f
  | [], s, t, f, _, h => by
    simp only [readItems, Option.some.injEq, Prod.mk.injEq] at h
    rw [← h.1]
    exact Forest.linked_nil
  | v :: rest, s, t, f, hitems, h => by
    rw [List.forall_mem_cons] at hitems
    rw [readItems] at h
    split at h
    · next l u hl =>
      obtain ⟨r, hr, he⟩ := Option.map_eq_some_iff.mp h
      cases he
      have hfirst : Forest.Linked R (some q) [l] := linked_of_read hR hitems.1 hl
      exact Forest.linked_append.mpr ⟨hfirst, linked_of_readItems hR hitems.2 hr⟩
    · cases h

end

theorem linked_of_readPages (hR : Grants P R) :
    ∀ {items : List Value} {s t : Supply} {pages : Forest}, (∀ v ∈ items, P v) →
    Document.readPages items s = some (pages, t) → Forest.Linked R none pages
  | [], _, _, _, _, h => by
    cases h
    exact Forest.linked_nil
  | v :: rest, s, t, pages, hitems, h => by
    rw [List.forall_mem_cons] at hitems
    rw [Document.readPages] at h
    split at h
    · next page u hpage =>
      obtain ⟨r, hr, he⟩ := Option.map_eq_some_iff.mp h
      cases he
      have hfirst : Forest.Linked R none [page] := linked_of_read hR hitems.1 hpage
      exact Forest.linked_append.mpr ⟨hfirst, linked_of_readPages hR hitems.2 hr⟩
    · cases h

end

/-! ## All that is read is recorded -/

theorem recorded_of_entries {es : Entries Value} {role : Role} {id type : String}
    {name : Option String} {props : Props} (hnames : hasNames es = true)
    (hprops : readProps (Entries.get? es "props") = some props) :
    Head.Recorded ⟨role, id, type, name, props, unknownEntries es⟩ := by
  refine ⟨?_, fun e he => ?_, fun e he => ?_⟩
  · cases hget : Entries.get? es "props" with
    | none =>
      rw [hget] at hprops
      cases hprops
      exact List.forall_mem_nil _
    | some v =>
      rw [hget] at hprops
      obtain ⟨given, -, rfl⟩ := Option.map_eq_some_iff.mp hprops
      exact .mapValues_ofValue given
  · have hname := List.all_eq_true.mp hnames e (List.mem_filter.mp he).1
    simpa using hname
  · simpa using (List.mem_filter.mp he).2

theorem grants_recording : Grants (fun _ => True) Forest.recording :=
  ⟨.trivial, fun _ hnames hprops => ⟨rfl, recorded_of_entries hnames hprops⟩⟩

theorem recorded_of_read {parent : Option Head} {v : Value} {s t : Supply} {l : Layer}
    (h : read (Role.under parent) v s = .ok (l, t)) :
    Forest.Linked Forest.recording parent [l] :=
  linked_of_read grants_recording .intro h

theorem recorded_of_readSlot {role : Role} {v : Value} {s t : Supply} {slot : Slot Layer}
    (q : Head) (h : readSlot role v s = some (slot, t)) :
    Forest.Linked Forest.recording (some q) slot.items :=
  linked_of_readSlot grants_recording .intro h

theorem recorded_of_readPages {items : List Value} {s t : Supply} {pages : Forest}
    (h : Document.readPages items s = some (pages, t)) :
    Forest.Linked Forest.recording none pages :=
  linked_of_readPages grants_recording (fun _ _ => .intro) h

/-! ## What is read from JSON data holds JSON data -/

theorem holdsJson_of_entries {es : Entries Value} (hes : Value.entriesAreJson es = true)
    {role : Role} {id type : String} {name : Option String} {props : Props}
    (hprops : readProps (Entries.get? es "props") = some props) :
    Head.HoldsJson ⟨role, id, type, name, props, unknownEntries es⟩ := by
  constructor
  · cases hget : Entries.get? es "props" with
    | none =>
      rw [hget] at hprops
      cases hprops
      rfl
    | some v =>
      rw [hget] at hprops
      obtain ⟨given, hgiven, rfl⟩ := Option.map_eq_some_iff.mp hprops
      have hjson := Value.isJson_of_textEntries? (Value.isJson_of_get? hes hget) hgiven
      exact Props.entriesAreJson_mapValues_ofValue hjson
  · exact Value.entriesAreJson_iff.mpr fun e he =>
      Value.entriesAreJson_iff.mp hes e (List.mem_filter.mp he).1

theorem holdsJson_of_readPages {items : List Value} (hitems : Value.itemsAreJson items = true)
    {s t : Supply} {pages : Forest} (h : Document.readPages items s = some (pages, t)) :
    Forest.Linked Forest.holdingJson none pages := by
  refine linked_of_readPages ⟨Value.isJson_inherited, fun hes _ hprops => ?_⟩
    (Value.itemsAreJson_iff.mp hitems) h
  rw [Value.isJson] at hes
  exact holdsJson_of_entries hes hprops

end Layer

end LayerDoc
