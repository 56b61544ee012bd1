import LayerDoc.Files
import LayerDoc.Proofs.Document.RoundTrip
import LayerDoc.Proofs.Yaml.Values

/-!
# Documents that are saved and loaded

A document is saved as JSON, and what was saved is read as YAML. The two agree on portable data: if
the plain form of what a document is written as is portable, the file is read again as the document
with all data in its plain form (`Document.load_fileText`). Beyond that they do not: a large number
is read as text, and a character of two units as two characters
(`Document.not_load_fileText_of_number`).
-/

namespace LayerDoc

/-! ## What is written for a document in its plain form -/

namespace Forest

/-- Beside the marker of a reference a prop has no other data in its plain form. -/
def keepingData : Rule := fun _ h =>
  ∀ p ∈ h.props, (PropValue.ofValue p.2.toValue.plain).toValue = p.2.toValue.plain

end Forest

namespace Layer

/-- A layer in its plain form is written as the plain form of what the layer is written as, if it is
so for its slot and no prop loses data beside a marker. -/
theorem toValue_plained_iff {parent : Option Head} {head : Head} {slot after : Slot Layer} :
    toValue (.node head.plained after) = (toValue (.node head slot)).plain ↔
      Forest.keepingData parent head ∧ slotValue after = (slotValue slot).plain := by
  have hprops : Entries.mapValues PropValue.toValue head.props.plained =
      Value.plainEntries (Entries.mapValues PropValue.toValue head.props) ↔
        Forest.keepingData parent head := by
    rw [Value.plainEntries_eq_map, Entries.mapValues, Entries.mapValues, Props.plained,
      List.map_map, List.map_map, List.map_inj_left]
    simp [Forest.keepingData]
  rw [plain_toValue, toValue, ← hprops]
  cases hname : head.name <;> simp [Head.plained, hname]

/-- What a layer holds in its plain form is JSON data if the layer's plain form is JSON data. -/
theorem holdsJson_plained {head : Head} {slot : Slot Layer}
    (h : (toValue (.node head slot)).plain.isJson = true) :
    head.plained.HoldsJson ∧ (slotValue slot).plain.isJson = true := by
  rw [plain_toValue, Value.isJson, Value.entriesAreJson_iff, List.forall_mem_append,
    ← @Value.entriesAreJson_iff (Value.plainEntries head.extra)] at h
  simp only [List.forall_mem_cons, List.not_mem_nil, false_implies, implies_true, and_true] at h
  obtain ⟨⟨-, -, -, ⟨-, hprops⟩, -, hslot⟩, hextra⟩ := h
  refine ⟨⟨?_, hextra⟩, hslot⟩
  rw [Value.isJson, Value.entriesAreJson_iff] at hprops
  rw [Value.entriesAreJson_iff]
  intro e he
  obtain ⟨q, hq, rfl⟩ := List.mem_map.mp he
  obtain ⟨p, hp, rfl⟩ := List.mem_map.mp hq
  have hwritten : (Key.replaced p.1, p.2.toValue.plain) ∈
      Value.plainEntries (Entries.mapValues PropValue.toValue head.props) := by
    rw [Value.plainEntries_eq_map, Entries.mapValues, List.map_map]
    exact List.mem_map_of_mem hp
  obtain ⟨hname, hvalue⟩ := hprops _ hwritten
  exact ⟨hname, PropValue.isJson_toValue_ofValue hvalue⟩

end Layer

namespace Forest

variable {parent : Option Head} {f : Forest}

theorem itemValues_plainedItems_iff :
    Layer.itemValues (Layer.plainedItems f) = Value.plainItems (Layer.itemValues f) ↔
      Linked keepingData parent f := by
  induction f using Forest.induction generalizing parent with
  | nil => simp [Layer.plainedItems, Layer.itemValues, Value.plainItems, linked_nil]
  | leaf head slot rest hslot hrest =>
    have hleaf := Value.plain_of_isJson (Layer.isJson_slotValue_leaf hslot)
    rw [Layer.plainedItems_leaf head hslot, Layer.itemValues, Layer.itemValues, Value.plainItems,
      List.cons.injEq, @Layer.toValue_plained_iff parent, @hrest parent, linked_leaf hslot, hleaf,
      and_iff_left rfl]
  | layers head items rest hitems hrest =>
    rw [Layer.plainedItems, Layer.plained, Layer.itemValues, Layer.itemValues, Value.plainItems,
      List.cons.injEq, @Layer.toValue_plained_iff parent, @hrest parent, linked_layers,
        Layer.slotValue,
      Layer.slotValue, Value.plain, Value.list.injEq, hitems, and_assoc]

theorem holdingJson_plainedItems
    (h : Value.itemsAreJson (Value.plainItems (Layer.itemValues f)) = true) :
    Linked holdingJson parent (Layer.plainedItems f) := by
  induction f using Forest.induction generalizing parent with
  | nil => exact linked_nil
  | leaf head slot rest hslot hrest =>
    rw [Layer.itemValues, Value.plainItems, Value.itemsAreJson, Bool.and_eq_true] at h
    rw [Layer.plainedItems_leaf head hslot, linked_leaf hslot]
    exact ⟨(Layer.holdsJson_plained h.1).1, hrest h.2⟩
  | layers head items rest hitems hrest =>
    rw [Layer.itemValues, Value.plainItems, Value.itemsAreJson, Bool.and_eq_true] at h
    obtain ⟨hhead, hslot⟩ := Layer.holdsJson_plained h.1
    rw [Layer.slotValue, Value.plain, Value.isJson] at hslot
    rw [Layer.plainedItems, Layer.plained, linked_layers]
    exact ⟨hhead, hitems hslot, hrest h.2⟩

end Forest

namespace Document

theorem isJson_toValue_plained {d : Document} (h : d.toValue.plain.isJson = true) :
    d.plained.toValue.isJson = true := by
  rw [plain_toValue, Value.isJson, Value.entriesAreJson_iff] at h
  simp only [List.forall_mem_cons, List.not_mem_nil, false_implies, implies_true, and_true] at h
  obtain ⟨⟨-, hpages⟩, -, -, -, hvars⟩ := h
  rw [Value.isJson, Value.itemsAreJson_iff, List.forall_mem_map] at hvars
  refine isJson_toValue_iff.mpr ⟨Forest.holdingJson_plainedItems hpages, fun v hv => ?_⟩
  exact Variable.isJson_toValue_iff.mp (hvars v hv)

theorem toValue_plained_iff {d : Document} :
    d.plained.toValue = d.toValue.plain ↔ Forest.Linked Forest.keepingData none d.pages := by
  rw [plain_toValue, ← Forest.itemValues_plainedItems_iff, toValue]
  cases hlayer : d.selectedLayer <;> simp [plained, hlayer]

end Document

/-! ## Loading what was saved -/

/-- A file in which an object of portable data is written has that object, unless it is empty. -/
theorem FileContent.value_text_indented {e : String × Value} {es : List (String × Value)}
    (h : (Value.object (e :: es)).isPortable = true) (absent malformed : FileError) :
    (text (Json.indented 0 (.object (e :: es)))).value absent malformed =
      .ok (.object (e :: es)) := by
  rw [value, Yaml.parse_indented h]
  rfl

namespace Document

variable {d : Document} {path : String}

/-- Whether a document that is saved under a path is loaded as one with the same plain form. -/
def LoadsBack (d : Document) (path : String) : Prop :=
  ∀ s, ∃ loaded t w, load path (.text (d.fileText path)) s = .ok (loaded, t) ∧
    d.toValue.plain? = .ok w ∧ loaded.toValue.plain? = .ok w

theorem load_plained (h : d.Recorded) (hpath : isJsonPath path = true)
    (hportable : d.toValue.plain.isPortable = true) (s : Supply) :
    load path (.text (d.fileText path)) s = .ok (d.plained, s) := by
  have hread := h.read_plain s
  rw [load, fileText, if_pos hpath]
  rw [plain_toValue] at hportable hread ⊢
  rw [FileContent.value_text_indented hportable]
  simp only [bind, Except.bind, hread]
  rfl

/-- What is loaded back has one line of JSON with what was saved. -/
theorem LoadsBack.line_eq (h : d.LoadsBack path) (s : Supply) :
    (load path (.text (d.fileText path)) s).toOption.map
        (fun loaded => Json.line .code loaded.1.toValue.plain) =
      some (Json.line .code d.toValue.plain) := by
  obtain ⟨loaded, t, w, hload, hw, hw'⟩ := h s
  have hplain : loaded.toValue.plain = d.toValue.plain :=
    (Value.eq_plain_of_plain? hw').symm.trans (Value.eq_plain_of_plain? hw)
  rw [hload]
  exact congrArg (fun v => some (Json.line .code v)) hplain

/-- A document is saved as JSON whose data is portable in its plain form. It is loaded again, with
all data in its plain form and no labels used up. The plain form is as it was, unless a prop has
other data beside the marker of a reference there; and if the document holds JSON data only, the one
that is loaded is the document itself. -/
theorem load_fileText (h : d.Recorded) (hpath : isJsonPath path = true) {w : Value}
    (hw : d.toValue.plain? = .ok w) (hportable : w.isPortable = true) :
    (∀ s, load path (.text (d.fileText path)) s = .ok (d.plained, s)) ∧
      (d.LoadsBack path ↔ Forest.Linked Forest.keepingData none d.pages) ∧
      (d.toValue.isJson = true → d.plained = d) := by
  obtain rfl := Value.eq_plain_of_plain? hw
  have hload := load_plained h hpath hportable
  have hjson := isJson_toValue_plained (Value.isJson_of_isPortable _ hportable)
  have hplained : d.plained.toValue.plain? = .ok d.plained.toValue := Value.plain?_of_isJson hjson
  refine ⟨hload, ?_, h.plained_eq_self⟩
  rw [← toValue_plained_iff]
  constructor
  · intro hback
    obtain ⟨loaded, t, w, hloaded, hw', hplain⟩ := hback .start
    rw [hload] at hloaded
    cases hloaded
    rw [hplained, ← hw', hw] at hplain
    exact Except.ok.inj hplain
  · intro hsame s
    exact ⟨d.plained, s, _, hload s, hw, hsame ▸ hplained⟩

/-- A page with numbers, a date and text that needs escapes. -/
theorem load_fileText_of_dated_page :
    let path := "site/home.json"
    let line : Layer := .node ⟨.component, "line", "Text", none, [], []⟩ (.text "1e+16")
    let home : Layer := .node ⟨.page, "home", pageType, none,
      [("ratio", .plain (.float (Double.ofDecimal false 15 15))), ("count", .plain (.int (-3))),
        ("since", .plain (.moment ⟨2024, 2, 29, none, none⟩)),
        ("é: #", .plain (.str "\"a\\b\"\n- \u2028"))], []⟩ (.layers [line])
    let d : Document := ⟨[home], "home", none, []⟩
    (d.Recorded ∧ isJsonPath path = true ∧ d.toValue.plain? = .ok d.toValue.plain ∧
        d.toValue.plain.isPortable = true) ∧
      (∀ s, load path (.text (d.fileText path)) s = .ok (d.plained, s)) ∧ d.LoadsBack path := by
  intro path line home d
  have hline : line.head.Recorded :=
    ⟨List.forall_mem_nil _, List.forall_mem_nil _, List.forall_mem_nil _⟩
  have hhome : home.head.Recorded := by
    refine ⟨?_, List.forall_mem_nil _, List.forall_mem_nil _⟩
    simp only [Props.Normalized, home, Layer.head, List.forall_mem_cons]
    exact ⟨rfl, rfl, rfl, rfl, List.forall_mem_nil _⟩
  have hforest {R : Forest.Rule} (hpage : R none home.head) (htext : R (some home.head) line.head) :
      Forest.Linked R none d.pages :=
    Forest.linked_layers.mpr ⟨hpage, Forest.linked_singleton.mpr ⟨htext, Forest.linked_nil⟩,
      Forest.linked_nil⟩
  have hrecorded : d.Recorded := by
    exact ⟨hforest ⟨rfl, hhome⟩ ⟨rfl, hline⟩, .singleton rfl rfl, by decide +kernel, home,
      List.mem_singleton_self home, rfl⟩
  have hpath : isJsonPath path = true := by decide +kernel
  have hplain : d.toValue.plain? = .ok d.toValue.plain := rfl
  have hportable : d.toValue.plain.isPortable = true := by decide +kernel
  obtain ⟨hload, hback, -⟩ := load_fileText hrecorded hpath hplain hportable
  refine ⟨⟨hrecorded, hpath, hplain, hportable⟩, hload, hback.mpr (hforest ?_ ?_)⟩
  · simp only [Forest.keepingData, home, Layer.head, List.forall_mem_cons]
    exact ⟨rfl, rfl, rfl, rfl, List.forall_mem_nil _⟩
  · exact List.forall_mem_nil _

/-- A large number is written without a point and read as text, and a character of two units is read
as two characters. -/
theorem not_loadsBack_of_number_or_pair :
    let data (v : Value) : Value :=
      .object [("pages", .list [.object [("id", .str "p"), ("props", .object [("x", v)])]])]
    (∃ d t, Document.read (data (.float (Double.ofDecimal false 1 16))) .start = .ok (d, t) ∧
      d.toValue.isJson = true ∧ ¬ d.LoadsBack "doc.json") ∧
    ∃ d t, Document.read (data (.str "🙂")) .start = .ok (d, t) ∧
      d.toValue.isJson = true ∧ ¬ d.LoadsBack "doc.json" := by
  intro data
  refine ⟨⟨_, _, rfl, rfl, fun hback => ?_⟩, ⟨_, _, rfl, rfl, fun hback => ?_⟩⟩
  all_goals
    have hline := hback.line_eq .start
    revert hline
    decide +kernel

end Document

end LayerDoc
