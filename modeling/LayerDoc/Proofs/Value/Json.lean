import LayerDoc.Proofs.Entries
import LayerDoc.Fault

/-!
# JSON data

What JSON can write: null, truth values, whole numbers, finite numbers, texts, lists, and objects
whose keys are made of characters. JSON data is its own plain form (`Value.plain?_of_isJson`).
-/

namespace LayerDoc

/-- What is made of characters stays as it is. -/
theorem Key.replaced_eq_self {k : String} (h : Text.Surrogate.occursIn k = false) :
    replaced k = k := by
  simp [replaced, h]

namespace Value

mutual

/-- Whether a value is one that JSON can write. A key with a unit that is no character cannot be
written. -/
def isJson : Value → Bool
  | .null => true
  | .bool _ => true
  | .int _ => true
  | .float d => d.isFinite
  | .str _ => true
  | .list items => itemsAreJson items
  | .object es => entriesAreJson es
  | _ => false

/-- `isJson` of all items. -/
def itemsAreJson : List Value → Bool
  | [] => true
  | v :: rest => v.isJson && itemsAreJson rest

/-- `isJson` of all entries, with their keys. -/
def entriesAreJson : List (String × Value) → Bool
  | [] => true
  | (k, v) :: rest => !Text.Surrogate.occursIn k && v.isJson && entriesAreJson rest

end

/-! ## Items and entries -/

theorem itemsAreJson_iff {items : List Value} :
    itemsAreJson items = true ↔ ∀ v ∈ items, v.isJson = true := by
  induction items with
  | nil => simp [itemsAreJson]
  | cons v rest ih => rw [itemsAreJson, Bool.and_eq_true, ih, List.forall_mem_cons]

theorem entriesAreJson_iff {es : Entries Value} :
    entriesAreJson es = true ↔
      ∀ e ∈ es, Text.Surrogate.occursIn e.1 = false ∧ e.2.isJson = true := by
  induction es with
  | nil => simp [entriesAreJson]
  | cons e rest ih =>
    rw [entriesAreJson, Bool.and_eq_true, Bool.and_eq_true, ih, List.forall_mem_cons,
      Bool.not_eq_true']

theorem isJson_of_get? {es : Entries Value} (hes : entriesAreJson es = true) {key : String}
    {v : Value} (h : Entries.get? es key = some v) : v.isJson = true :=
  (entriesAreJson_iff.mp hes _ (Entries.mem_of_get?_eq_some h)).2

theorem isJson_of_field {es : Entries Value} (hes : entriesAreJson es = true) {name other : String}
    {v : Value} (h : (field es name other).2 = some v) : v.isJson = true := by
  unfold field at h
  split at h
  · next w hname =>
    cases h
    exact isJson_of_get? hes hname
  · next w _ hother =>
    cases h
    exact isJson_of_get? hes hother
  · cases h

theorem isJson_of_items? {v : Value} (hv : v.isJson = true) {items : List Value}
    (h : v.items? = some items) : itemsAreJson items = true := by
  cases v with
  | list _ =>
    cases h
    exact hv
  | set _ => cases hv
  | _ => cases h

theorem isJson_of_entries? {v : Value} (hv : v.isJson = true) {es : Entries Value}
    (h : v.entries? = some es) : entriesAreJson es = true := by
  cases v with
  | object _ =>
    cases h
    exact hv
  | mapping _ => cases hv
  | _ => cases h

theorem isJson_of_textEntries? {v : Value} (hv : v.isJson = true) {es : Entries Value}
    (h : v.textEntries? = some es) : entriesAreJson es = true := by
  cases v with
  | object _ =>
    cases h
    exact hv
  | mapping _ => cases hv
  | _ => cases h

/-- A property of data that all of its items and entries have too. -/
structure Inherited (P : Value → Prop) : Prop where
  items : ∀ {v items w}, P v → v.items? = some items → w ∈ items → P w
  entries : ∀ {es e}, P (.object es) → e ∈ es → P e.2

theorem Inherited.trivial : Inherited fun _ => True := ⟨fun _ _ _ => .intro, fun _ _ => .intro⟩

theorem isJson_inherited : Inherited fun v => v.isJson = true := by
  refine ⟨fun hv hitems hw => itemsAreJson_iff.mp (isJson_of_items? hv hitems) _ hw,
    fun {es _} hv he => ?_⟩
  have hes : entriesAreJson es = true := hv
  exact (entriesAreJson_iff.mp hes _ he).2

theorem isJson_ofReference (variableId : String) : (ofReference variableId).isJson = true := by
  have hkey : Text.Surrogate.occursIn referenceKey = false := by decide
  simp [ofReference, isJson, entriesAreJson, hkey]

/-! ## The plain form -/

theorem plainEntries_eq_map (es : Entries Value) :
    plainEntries es = es.map fun e => (Key.replaced e.1, e.2.plain) := by
  induction es with
  | nil => rfl
  | cons e rest ih => rw [plainEntries, List.map_cons, ih]

mutual

theorem plain_of_isJson : ∀ {v : Value}, v.isJson = true → v.plain = v
  | .null, _ | .bool _, _ | .int _, _ | .str _, _ => by simp [plain]
  | .float d, h => by
    rw [isJson] at h
    rw [plain, if_pos h]
  | .list items, h => by
    rw [isJson] at h
    rw [plain, plainItems_of_isJson h]
  | .object es, h => by
    rw [isJson] at h
    rw [plain, plainEntries_of_isJson h]
  | .bytes _, h | .moment _, h | .set _, h | .mapping _, h | .cycle, h => by simp [isJson] at h

theorem plainItems_of_isJson : ∀ {items : List Value}, itemsAreJson items = true →
    plainItems items = items
  | [], _ => by rw [plainItems]
  | v :: rest, h => by
    rw [itemsAreJson, Bool.and_eq_true] at h
    rw [plainItems, plain_of_isJson h.1, plainItems_of_isJson h.2]

theorem plainEntries_of_isJson : ∀ {es : List (String × Value)}, entriesAreJson es = true →
    plainEntries es = es
  | [], _ => by rw [plainEntries]
  | (k, v) :: rest, h => by
    rw [entriesAreJson, Bool.and_eq_true, Bool.and_eq_true, Bool.not_eq_true'] at h
    obtain ⟨⟨hkey, hv⟩, hrest⟩ := h
    rw [plainEntries, Key.replaced_eq_self hkey, plain_of_isJson hv, plainEntries_of_isJson hrest]

end

mutual

theorem plainFault?_of_isJson : ∀ {v : Value}, v.isJson = true → v.plainFault? = none
  | .null, _ | .bool _, _ | .int _, _ | .str _, _ | .float _, _ => by simp [plainFault?]
  | .list items, h => by
    rw [isJson] at h
    rw [plainFault?, itemsFault?_of_isJson h]
  | .object es, h => by
    rw [isJson] at h
    rw [plainFault?, entriesFault?_of_isJson h]
  | .bytes _, h | .moment _, h | .set _, h | .mapping _, h | .cycle, h => by simp [isJson] at h

theorem itemsFault?_of_isJson : ∀ {items : List Value}, itemsAreJson items = true →
    itemsFault? items = none
  | [], _ => by rw [itemsFault?]
  | v :: rest, h => by
    rw [itemsAreJson, Bool.and_eq_true] at h
    rw [itemsFault?, plainFault?_of_isJson h.1, itemsFault?_of_isJson h.2]
    rfl

theorem entriesFault?_of_isJson : ∀ {es : List (String × Value)}, entriesAreJson es = true →
    entriesFault? es = none
  | [], _ => by rw [entriesFault?]
  | (k, v) :: rest, h => by
    rw [entriesAreJson, Bool.and_eq_true, Bool.and_eq_true] at h
    rw [entriesFault?, plainFault?_of_isJson h.1.2, entriesFault?_of_isJson h.2]
    rfl

end

theorem eq_plain_of_plain? {v w : Value} (h : v.plain? = .ok w) : w = v.plain := by
  unfold plain? at h
  split at h
  · cases h
  · cases h
    rfl

/-- JSON data is its own plain form. -/
theorem plain?_of_isJson {v : Value} (h : v.isJson = true) : v.plain? = .ok v := by
  rw [plain?, plainFault?_of_isJson h, plain_of_isJson h]

end Value

end LayerDoc
