import LayerDoc.Proofs.Layer.RoundTrip

/-!
# Documents that are written and read again

A document is recorded if its pages are, all of its layer ids are distinct, and its selected page is
among its pages. Such a document is read again from the plain form of what it is written as, with
all of its data in its plain form (`Document.Recorded.read_plain`). If it holds JSON data only, this
is the document itself (`Document.Recorded.roundTrips`). A document that was read is recorded, and
one that was read from JSON data holds JSON data (`Document.roundTrips_of_read`).
-/

namespace LayerDoc

/-! ## Variables -/

namespace Variable

/-- A variable with its default in its plain form. -/
def plained (v : Variable) : Variable := { v with default := v.default.plain }

theorem isJson_toValue_iff {v : Variable} : v.toValue.isJson = true ↔ v.default.isJson = true := by
  have hknown : ∀ name ∈ ["id", "name", "type", "defaultValue"],
      Text.Surrogate.occursIn name = false := by decide
  simp only [List.forall_mem_cons, List.not_mem_nil, false_implies, implies_true,
    and_true] at hknown
  simp [toValue, Value.isJson, Value.entriesAreJson, hknown]

theorem plain_toValue (v : Variable) : v.toValue.plain = v.plained.toValue := by
  have hknown : ∀ name ∈ ["id", "name", "type", "defaultValue"], Key.replaced name = name :=
    fun name hname => Key.replaced_eq_self (by revert name; decide)
  simp only [List.forall_mem_cons, List.not_mem_nil, false_implies, implies_true,
    and_true] at hknown
  simp [toValue, plained, Value.plain, Value.plainEntries, hknown]

theorem read_toValue (v : Variable) (s : Supply) : read v.toValue s = .ok (v, s) := by
  simp [read, toValue, Value.entries?, Entries.get?, Value.text?, VariableType.ofValue?_word,
    Value.field]

theorem readAll_map_toValue (vars : List Variable) (s : Supply) :
    readAll (vars.map toValue) s = some (vars, s) := by
  induction vars with
  | nil => rfl
  | cons v rest ih =>
    rw [List.map_cons, readAll, read_toValue]
    simp only [ih, Option.map_some]

theorem default_of_read {value : Value} {s t : Supply} {v : Variable}
    (h : read value s = .ok (v, t)) :
    ∃ es, value.entries? = some es ∧
      v.default = (Value.field es "defaultValue" "default_value").2.getD .null := by
  simp only [read] at h
  split at h
  · cases h
  · next es hes =>
    refine ⟨es, hes, ?_⟩
    split at h
    · cases h
      rfl
    · cases h

theorem isJson_default_of_read {value : Value} (hvalue : value.isJson = true) {s t : Supply}
    {v : Variable} (h : read value s = .ok (v, t)) : v.default.isJson = true := by
  obtain ⟨es, hes, hdefault⟩ := default_of_read h
  have hentries := Value.isJson_of_entries? hvalue hes
  rw [hdefault]
  cases hfield : (Value.field es "defaultValue" "default_value").2 with
  | none => rfl
  | some given => exact Value.isJson_of_field hentries hfield

theorem isJson_default_of_readAll : ∀ {items : List Value} {s t : Supply} {vars : List Variable},
    Value.itemsAreJson items = true → readAll items s = some (vars, t) →
    ∀ v ∈ vars, v.default.isJson = true
  | [], _, _, _, _, h => by
    cases h
    simp
  | value :: rest, s, t, vars, hitems, h => by
    rw [Value.itemsAreJson, Bool.and_eq_true] at hitems
    rw [readAll] at h
    split at h
    · next x u hx =>
      obtain ⟨r, hr, he⟩ := Option.map_eq_some_iff.mp h
      cases he
      exact List.forall_mem_cons.mpr
        ⟨isJson_default_of_read hitems.1 hx, isJson_default_of_readAll hitems.2 hr⟩
    · cases h

theorem isJson_default_of_patched {v w : Variable} {patch : Entries Value}
    (hv : v.default.isJson = true) (hpatch : Value.entriesAreJson patch = true)
    (h : v.patched patch = some w) : w.default.isJson = true := by
  -- each write of the patch puts JSON data in the place of JSON data
  have hwritten : ∀ (es : Entries Value) (value : Value), Value.entriesAreJson es = true →
      value.isJson = true →
      (es.foldl (fun value e => if e.1 = "defaultValue" ∨ e.1 = "default_value" then e.2 else value)
        value).isJson = true := by
    intro es
    induction es with
    | nil => exact fun _ _ hvalue => hvalue
    | cons e rest ih =>
      intro value hes hvalue
      rw [Value.entriesAreJson, Bool.and_eq_true, Bool.and_eq_true] at hes
      rw [List.foldl_cons]
      split
      · exact ih _ hes.2 hes.1.2
      · exact ih _ hes.2 hvalue
  unfold patched at h
  dsimp only at h
  split at h
  · cases h
    exact hwritten patch v.default hpatch hv
  · cases h

end Variable

/-! ## Documents -/

namespace Document

/-- A document with all of its data in its plain form. -/
def plained (d : Document) : Document :=
  { d with pages := Layer.plainedItems d.pages, vars := d.vars.map Variable.plained }

/-- The plain form of what a document is written as gives the document itself back, whatever labels
there are to come. -/
def RoundTrips (d : Document) : Prop :=
  ∃ v, d.toValue.plain? = .ok v ∧ ∀ s, read v s = .ok (d, s)

/-- A document that a reader of documents can have brought about. -/
structure Recorded (d : Document) : Prop where
  forest : Forest.Linked Forest.recording none d.pages
  pages : d.pages.ArePages
  nodup : (Forest.ids d.pages).Nodup
  selected : ∃ p ∈ d.pages, p.id = d.selectedPage

/-- A document is written as JSON data if all data of its layers and variables is JSON data. -/
theorem isJson_toValue_iff {d : Document} : d.toValue.isJson = true ↔
    Forest.Linked Forest.holdingJson none d.pages ∧ ∀ v ∈ d.vars, v.default.isJson = true := by
  have hknown : ∀ name ∈ ["pages", "selectedPageId", "selectedLayerId", "variables"],
      Text.Surrogate.occursIn name = false := by decide
  simp only [List.forall_mem_cons, List.not_mem_nil, false_implies, implies_true,
    and_true] at hknown
  have hvars : Value.itemsAreJson (d.vars.map Variable.toValue) = true ↔
      ∀ v ∈ d.vars, v.default.isJson = true := by
    simp only [Value.itemsAreJson_iff, List.forall_mem_map, Variable.isJson_toValue_iff]
  rw [← hvars, ← Forest.itemsAreJson_itemValues_iff, toValue]
  cases d.selectedLayer <;> simp [Value.isJson, Value.entriesAreJson, hknown]

theorem plain_toValue (d : Document) : d.toValue.plain =
    .object [("pages", .list (Value.plainItems (Layer.itemValues d.pages))),
      ("selectedPageId", .str d.selectedPage),
      ("selectedLayerId", match d.selectedLayer with | some id => .str id | none => .null),
      ("variables", .list ((d.vars.map Variable.plained).map Variable.toValue))] := by
  have hknown : ∀ name ∈ ["pages", "selectedPageId", "selectedLayerId", "variables"],
      Key.replaced name = name := fun name hname => Key.replaced_eq_self (by revert name; decide)
  simp only [List.forall_mem_cons, List.not_mem_nil, false_implies, implies_true,
    and_true] at hknown
  cases hlayer : d.selectedLayer <;>
    simp [toValue, Value.plain, Value.plainEntries, Value.plainItems_eq_map, hknown, hlayer,
      Variable.plain_toValue]

/-- Pages of distinct ids are put together with the selection as it is. -/
theorem assemble_eq_self {d : Document} (hnodup : (Forest.ids d.pages).Nodup)
    (hselected : ∃ p ∈ d.pages, p.id = d.selectedPage) :
    assemble d.pages (some d.selectedPage) d.selectedLayer d.vars = .ok d := by
  obtain ⟨p, hp, hid⟩ := hselected
  unfold assemble
  split
  · next hnil =>
    rw [hnil] at hp
    cases hp
  · next first rest hpages =>
    have hrepeated : firstRepeated [] (Forest.ids d.pages) = none :=
      firstRepeated_eq_none_iff.mpr ⟨hnodup, by simp⟩
    have hany : d.pages.any (·.id == d.selectedPage) = true :=
      List.any_eq_true.mpr ⟨p, hp, by simp [hid]⟩
    simp only [hrepeated, hany, if_true]

namespace Recorded

variable {d : Document}

theorem assemble_plained (h : d.Recorded) :
    assemble d.plained.pages (some d.selectedPage) d.selectedLayer d.plained.vars =
      .ok d.plained := by
  have hnodup : (Forest.ids d.plained.pages).Nodup := by
    rw [plained, Forest.ids_plainedItems]
    exact h.nodup
  refine assemble_eq_self (d := d.plained) hnodup ?_
  -- the selected page is still there, since the plain form leaves ids as they are
  obtain ⟨p, hp, hid⟩ := h.selected
  have hfooting : p.footing ∈ d.plained.pages.map Layer.footing := by
    rw [plained, Layer.map_footing_plainedItems]
    exact List.mem_map_of_mem hp
  obtain ⟨q, hq, he⟩ := List.mem_map.mp hfooting
  simp only [Layer.footing, Prod.mk.injEq] at he
  exact ⟨q, hq, he.2.1.trans hid⟩

/-- A recorded document is read again with its data in its plain form, and no labels are used
up. -/
theorem read_plain (h : d.Recorded) (s : Supply) :
    read d.toValue.plain s = .ok (d.plained, s) := by
  have hpages : readPagesField (some (.list (Value.plainItems (Layer.itemValues d.pages)))) s =
      some (d.plained.pages, s) := by
    have hread := Forest.readPages_plainItems h.forest h.pages s
    obtain ⟨p, hp, -⟩ := h.selected
    cases hcons : d.pages with
    | nil =>
      rw [hcons] at hp
      cases hp
    | cons first rest =>
      rw [hcons, Layer.itemValues, Value.plainItems] at hread
      rw [plained, hcons, Layer.itemValues, Value.plainItems]
      exact hread
  have hvars : readVariablesField
      (some (.list ((d.vars.map Variable.plained).map Variable.toValue))) s =
      some (d.plained.vars, s) := Variable.readAll_map_toValue _ s
  have hself := h.assemble_plained
  rw [plain_toValue]
  cases hlayer : d.selectedLayer <;> rw [hlayer] at hself <;>
    simp [-List.map_map, read, Value.entries?, Value.field, Entries.get?, hpages, hvars, hself,
      Value.textOrNull?, Value.text?, Except.map]

/-- A document that holds JSON data only is in its plain form. -/
theorem plained_eq_self (h : d.Recorded) (hjson : d.toValue.isJson = true) : d.plained = d := by
  obtain ⟨hforest, hdefaults⟩ := isJson_toValue_iff.mp hjson
  have hvars : ∀ v ∈ d.vars, v.plained = v := by
    intro v hv
    rw [Variable.plained, Value.plain_of_isJson (hdefaults v hv)]
  rw [plained, Forest.plainedItems_eq_self h.forest hforest, List.map_congr_left hvars,
    List.map_id']

theorem roundTrips (h : d.Recorded) (hjson : d.toValue.isJson = true) : d.RoundTrips := by
  refine ⟨d.toValue, Value.plain?_of_isJson hjson, fun s => ?_⟩
  have hread := h.read_plain s
  rwa [Value.plain_of_isJson hjson, h.plained_eq_self hjson] at hread

/-- Only documents in their plain form are given back as they were. -/
theorem plained_of_roundTrips (h : d.Recorded) (hround : d.RoundTrips) : d.plained = d := by
  obtain ⟨v, hv, hread⟩ := hround
  have hplain : v = d.toValue.plain := Value.eq_plain_of_plain? hv
  have hsame := (h.read_plain Supply.start).symm.trans (hplain ▸ hread Supply.start)
  simpa using hsame

end Recorded

theorem recorded_of_read {v : Value} {s t : Supply} {d : Document} (h : read v s = .ok (d, t)) :
    d.Recorded := by
  obtain ⟨hpages, -, hnodup, hselected⟩ := read_eq_ok h
  obtain ⟨es, items, pages, u, page, layer, vars, -, -, hread, -, hd⟩ := parts_of_read h
  obtain ⟨hforest, -⟩ := assemble_eq_ok hd
  exact ⟨hforest ▸ Layer.recorded_of_readPages hread, hpages, hnodup, hselected⟩

theorem isJson_toValue_of_read {v : Value} (hv : v.isJson = true) {s t : Supply} {d : Document}
    (h : read v s = .ok (d, t)) : d.toValue.isJson = true := by
  obtain ⟨es, items, pages, u, page, layer, vars, hes, hitems, hread, hvars, hd⟩ := parts_of_read h
  obtain ⟨hforest, hvariables, -⟩ := assemble_eq_ok hd
  have hentries := Value.isJson_of_entries? hv hes
  refine isJson_toValue_iff.mpr ⟨?_, ?_⟩
  · rw [hforest]
    obtain ⟨list, hlist, hitems⟩ := Option.bind_eq_some_iff.mp hitems
    exact Layer.holdsJson_of_readPages
      (Value.isJson_of_items? (Value.isJson_of_get? hentries hlist) hitems) hread
  · rw [hvariables]
    cases hget : Entries.get? es "variables" with
    | none =>
      rw [hget] at hvars
      cases hvars
      simp
    | some list =>
      rw [hget] at hvars
      obtain ⟨values, hvalues, hall⟩ := Option.bind_eq_some_iff.mp hvars
      exact Variable.isJson_default_of_readAll
        (Value.isJson_of_items? (Value.isJson_of_get? hentries hget) hvalues) hall

/-- What was read from JSON data is read again as it was. -/
theorem roundTrips_of_read {v : Value} (hv : v.isJson = true) {s t : Supply} {d : Document}
    (h : read v s = .ok (d, t)) : d.RoundTrips :=
  (recorded_of_read h).roundTrips (isJson_toValue_of_read hv h)

end Document

end LayerDoc
