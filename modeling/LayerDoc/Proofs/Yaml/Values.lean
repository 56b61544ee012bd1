import LayerDoc.Proofs.Yaml.Nodes

/-!
# Values of what is written as JSON

The node of portable data has no fault (`Value.check_node`) and the data for its value
(`Value.build_node`). So a reader of YAML takes an object for itself where it is written as JSON
(`Yaml.parse_indented`).
-/

namespace LayerDoc

open Yaml Yaml.Node

namespace Value

/-! ## Scalars -/

/-- The data that is read from a sequence or a mapping. -/
inductive IsCollection : Value → Prop where
  | list (items : List Value) : IsCollection (.list items)
  | object (es : List (String × Value)) : IsCollection (.object es)

/-- A value that is no collection is read from a scalar. -/
theorem isCollection_or_scalar {v : Value} (h : v.isPortable = true) :
    v.IsCollection ∨
      ∃ kind text, v.node = .scalar (.scalar kind) text ∧ kind.value text = .ok v := by
  have hplain (hv : v.isPlainScalar = true)
      (hnode : v.node = .scalar (Tag.ofText v.plainText) v.plainText.toList) :
      ∃ kind text, v.node = .scalar (.scalar kind) text ∧ kind.value text = .ok v := by
    obtain ⟨kind, htag, hvalue⟩ := exists_kind_of_isPlainScalar hv h
    exact ⟨kind, v.plainText.toList, by rw [hnode, htag], hvalue⟩
  cases v with
  | null | bool | int | float => exact Or.inr (hplain rfl rfl)
  | str s => exact Or.inr ⟨.text, s.toList, rfl, by rw [Kind.value, String.ofList_toList]⟩
  | list items => exact Or.inl (.list items)
  | object es => exact Or.inl (.object es)
  | bytes | moment | set | mapping | cycle => cases h

theorem scalarValue_key (k : String) :
    scalarValue (.scalar (.scalar .text) k.toList) = .ok (.str k) := by
  show Except.ok (Value.str (String.ofList k.toList)) = .ok (.str k)
  rw [String.ofList_toList]

/-! ## Faults -/

/-- Whether all collections that are still to be looked at are those of portable data. -/
def IsPortableLevel (l : Level) : Prop :=
  ∀ n ∈ l.collections, ∃ v : Value, v.isPortable = true ∧ v.IsCollection ∧ n = v.node

theorem exists_meet_node {v : Value} (h : v.isPortable = true) {l : Level}
    (hl : IsPortableLevel l) :
    ∃ l', l.meet v.node = .ok l' ∧ IsPortableLevel l' := by
  rcases isCollection_or_scalar h with hv | ⟨kind, text, hnode, hvalue⟩
  · have hmeet : l.meet v.node = .ok { l with collections := v.node :: l.collections } := by
      cases hv <;> rfl
    refine ⟨_, hmeet, fun n hn => ?_⟩
    rcases List.mem_cons.mp hn with rfl | hn
    · exact ⟨v, h, hv, rfl⟩
    · exact hl n hn
  · have hscalar : scalarValue (.scalar (.scalar kind) text) = .ok v := by
      simpa [scalarValue, Node.tag, scalarText?] using hvalue
    refine ⟨l, ?_, hl⟩
    rw [hnode]
    show (scalarValue (.scalar (.scalar kind) text)).map (fun _ => l) = .ok l
    rw [hscalar]
    rfl

theorem exists_foldlM_eq_ok {α β ε : Type} {P : β → Prop} {f : β → α → Except ε β} {xs : List α}
    (h : ∀ x ∈ xs, ∀ b, P b → ∃ b', f b x = .ok b' ∧ P b') {b : β} (hb : P b) :
    ∃ b', xs.foldlM f b = .ok b' ∧ P b' := by
  induction xs generalizing b with
  | nil => exact ⟨b, rfl, hb⟩
  | cons x xs ih =>
    obtain ⟨b', hx, hb'⟩ := h x List.mem_cons_self b hb
    obtain ⟨b'', hxs, hb''⟩ := ih (fun y hy => h y (List.mem_cons_of_mem x hy)) hb'
    refine ⟨b'', ?_, hb''⟩
    rw [List.foldlM_cons, hx]
    exact hxs

theorem itemNodes_eq_map (items : List Value) : itemNodes items = items.map node := by
  induction items with
  | nil => rfl
  | cons v items ih => rw [itemNodes, ih, List.map_cons]

theorem entryNodes_eq_map (es : List (String × Value)) :
    entryNodes es = es.map fun e => (.scalar (.scalar .text) e.1.toList, e.2.node) := by
  induction es with
  | nil => rfl
  | cons e es ih => rw [entryNodes, ih, List.map_cons]

theorem isPortable_of_mem_items {items : List Value} (h : itemsArePortable items = true) :
    ∀ v ∈ items, v.isPortable = true := by
  induction items with
  | nil => exact List.forall_mem_nil _
  | cons v items ih =>
    rw [itemsArePortable, Bool.and_eq_true] at h
    exact List.forall_mem_cons.mpr ⟨h.1, ih h.2⟩

theorem isPortable_of_mem_entries {es : List (String × Value)} (h : entriesArePortable es = true) :
    ∀ e ∈ es, e.2.isPortable = true := by
  induction es with
  | nil => exact List.forall_mem_nil _
  | cons e es ih =>
    rw [entriesArePortable, Bool.and_eq_true, Bool.and_eq_true] at h
    exact List.forall_mem_cons.mpr ⟨h.1.2, ih h.2⟩

theorem entriesArePortable_of_isPortable {es : List (String × Value)}
    (h : (Value.object es).isPortable = true) : entriesArePortable es = true := by
  rw [isPortable, Bool.and_eq_true] at h
  exact h.2

/-- No entry is merged in, since all keys are text. -/
theorem flatEntries_entryNodes (es : List (String × Value)) :
    flatEntries (entryNodes es) = .ok ([], entryNodes es) := by
  induction es with
  | nil => rfl
  | cons e es ih =>
    rw [entryNodes, flatEntries, ih]
    rfl

theorem exists_meetEntry_node {e : String × Value} (h : e.2.isPortable = true) {l : Level}
    (hl : IsPortableLevel l) :
    ∃ l', l.meetEntry (.scalar (.scalar .text) e.1.toList, e.2.node) = .ok l' ∧
      IsPortableLevel l' := by
  obtain ⟨l', hmeet, hl'⟩ := exists_meet_node h hl
  refine ⟨l', ?_, hl'⟩
  rw [Level.meetEntry, scalarValue_key]
  exact hmeet

theorem exists_meetParts_node {v : Value} (h : v.isPortable = true) (hv : v.IsCollection)
    {l : Level} (hl : IsPortableLevel l) :
    ∃ l', l.meetParts v.node = .ok l' ∧ IsPortableLevel l' := by
  cases hv with
  | list items =>
    have hitems : ∀ n ∈ itemNodes items, ∀ l, IsPortableLevel l →
        ∃ l', l.meet n = .ok l' ∧ IsPortableLevel l' := by
      intro n hn l hl
      rw [itemNodes_eq_map] at hn
      obtain ⟨v, hv, rfl⟩ := List.mem_map.mp hn
      exact exists_meet_node (isPortable_of_mem_items h v hv) hl
    exact exists_foldlM_eq_ok hitems hl
  | object es =>
    have hentries : ∀ entry ∈ entryNodes es, ∀ l, IsPortableLevel l →
        ∃ l', l.meetEntry entry = .ok l' ∧ IsPortableLevel l' := by
      intro entry hentry l hl
      rw [entryNodes_eq_map] at hentry
      obtain ⟨e, he, rfl⟩ := List.mem_map.mp hentry
      have hes := isPortable_of_mem_entries (entriesArePortable_of_isPortable h)
      exact exists_meetEntry_node (hes e he) hl
    obtain ⟨l', hfold, hl'⟩ := exists_foldlM_eq_ok hentries hl
    refine ⟨l', ?_, hl'⟩
    rw [node, Level.meetParts, if_pos (Or.inl rfl), flatEntries_entryNodes]
    exact hfold

theorem check_of_isPortableLevel (fuel : Nat) {l : Level} (hl : IsPortableLevel l) :
    Level.check fuel l = .ok () := by
  induction fuel generalizing l with
  | zero => rfl
  | succ fuel ih =>
    have hparts : ∀ n ∈ l.collections.reverse, ∀ l, IsPortableLevel l →
        ∃ l', l.meetParts n = .ok l' ∧ IsPortableLevel l' := by
      intro n hn l' hl'
      obtain ⟨v, hv, hcollection, rfl⟩ := hl n (List.mem_reverse.mp hn)
      exact exists_meetParts_node hv hcollection hl'
    have hempty : IsPortableLevel ⟨[], l.met⟩ := List.forall_mem_nil _
    obtain ⟨l', hfold, hl'⟩ := exists_foldlM_eq_ok hparts hempty
    rw [Level.check]
    split
    · rfl
    · rw [hfold]
      exact ih hl'

/-- All parts of the node of portable data stand for something. -/
theorem check_node {v : Value} (h : v.isPortable = true) (fuel : Nat) :
    Node.check fuel v.node = .ok () := by
  have hempty : IsPortableLevel ⟨[], []⟩ := List.forall_mem_nil _
  obtain ⟨l, hmeet, hl⟩ := exists_meet_node h hempty
  rw [Node.check, hmeet]
  exact check_of_isPortableLevel fuel hl

/-! ## Values -/

theorem put_of_forall_ne {es : List (String × Value)} {k : String} {v : Value}
    (h : ∀ e ∈ es, e.1 ≠ k) :
    Key.put (es.map fun e => (Key.str e.1, e.2)) (.str k) v =
      (es ++ [(k, v)]).map fun e => (.str e.1, e.2) := by
  induction es with
  | nil => rfl
  | cons e es ih =>
    obtain ⟨hne, hes⟩ := List.forall_mem_cons.mp h
    have hsame : (Key.str e.1).same (.str k) = false := by
      simpa [Key.same, Key.whole?] using hne
    rw [List.map_cons, Key.put, hsame, if_neg Bool.false_ne_true, ih hes]
    rfl

theorem foldl_put_of_nodup {es before : List (String × Value)}
    (h : ((before ++ es).map Prod.fst).Nodup) :
    (es.map fun e => (Key.str e.1, e.2)).foldl (fun acc e => Key.put acc e.1 e.2)
        (before.map fun e => (Key.str e.1, e.2)) =
      (before ++ es).map fun e => (Key.str e.1, e.2) := by
  induction es generalizing before with
  | nil => simp
  | cons e es ih =>
    have hfresh : ∀ d ∈ before, d.1 ≠ e.1 := by
      intro d hd heq
      rw [List.map_append, List.nodup_append] at h
      exact h.2.2 d.1 (List.mem_map_of_mem hd) e.1 (by simp) heq
    rw [List.append_cons] at h ⊢
    rw [List.map_cons, List.foldl_cons, put_of_forall_ne hfresh]
    exact ih h

theorem mapM_str? (es : List (String × Value)) :
    ((es.map fun e => (Key.str e.1, e.2)).mapM fun e => e.1.str?.map (·, e.2)) = some es := by
  induction es with
  | nil => rfl
  | cons e es ih =>
    rw [List.map_cons, List.mapM_cons, ih]
    rfl

/-- Entries with distinct keys that are text make an object. -/
theorem mappingValue_of_nodup {es : List (String × Value)} (h : (es.map Prod.fst).Nodup) :
    mappingValue (es.map fun e => (.str e.1, e.2)) = .object es := by
  have hfold := @foldl_put_of_nodup es [] h
  rw [List.map_nil, List.nil_append] at hfold
  rw [mappingValue]
  simp only [hfold, mapM_str?]

theorem build_node_of_not_isCollection {v : Value} (hv : ¬ v.IsCollection) (h : v.isPortable = true)
    (met : List (Nat × Value)) : v.node.build met = (v, met) := by
  obtain ⟨kind, text, hnode, hvalue⟩ := (isCollection_or_scalar h).resolve_left hv
  have hscalar : scalarValue (.scalar (.scalar kind) text) = .ok v := hvalue
  rw [hnode, build, hscalar]
  rfl

mutual

/-- The node of portable data has the data for its value. -/
theorem build_node (v : Value) (h : v.isPortable = true) (met : List (Nat × Value)) :
    v.node.build met = (v, met) := by
  cases v with
  | list items =>
    have hstep : (Value.list items).node.build met =
        (do return .list (← buildItems (itemNodes items)) : Build Value) met := by
      rw [node, build]
      · rfl
      · exact nofun
    rw [hstep]
    simp only [bind, StateT.bind, buildItems_itemNodes items h met]
    rfl
  | object es =>
    have hparts := h
    rw [isPortable, Bool.and_eq_true, decide_eq_true_eq] at hparts
    have hstep : (Value.object es).node.build met = (do
        let (merged, own) ← buildEntries (entryNodes es)
        return mappingValue (merged ++ own) : Build Value) met := by
      rw [node, build]
      rfl
    rw [hstep]
    simp only [bind, StateT.bind, buildEntries_entryNodes es hparts.2 met, List.nil_append,
      mappingValue_of_nodup hparts.1]
    rfl
  | _ => exact build_node_of_not_isCollection (by rintro ⟨⟩) h met

theorem buildItems_itemNodes : ∀ (items : List Value), itemsArePortable items = true →
    ∀ met, buildItems (itemNodes items) met = (items, met)
  | [] => by
    intro h met
    rfl
  | v :: items => by
    intro h met
    rw [itemsArePortable, Bool.and_eq_true] at h
    rw [itemNodes, buildItems]
    simp only [bind, StateT.bind, build_node v h.1 met, buildItems_itemNodes items h.2 met]
    rfl

theorem buildEntries_entryNodes : ∀ (es : List (String × Value)), entriesArePortable es = true →
    ∀ met, buildEntries (entryNodes es) met = (([], es.map fun e => (.str e.1, e.2)), met)
  | [] => by
    intro h met
    rfl
  | (k, v) :: es => by
    intro h met
    rw [entriesArePortable, Bool.and_eq_true, Bool.and_eq_true] at h
    have hstep : buildEntries (entryNodes ((k, v) :: es)) met = (do
        let value ← v.node.build
        let (merged, own) ← buildEntries (entryNodes es)
        return (merged, (.str (String.ofList k.toList), value) :: own) :
          Build (List (Key × Value) × List (Key × Value))) met := by
      rw [entryNodes, buildEntries]
      rfl
    rw [hstep]
    simp only [bind, StateT.bind, build_node v h.1.2 met, buildEntries_entryNodes es h.2 met,
      String.ofList_toList]
    rfl

end

end Value

/-- A reader of YAML takes an object of portable data for itself where it is written as JSON. -/
theorem Yaml.parse_indented {es : List (String × Value)} (h : (Value.object es).isPortable = true) :
    Yaml.parse (Json.indented 0 (.object es)) = .ok (.object es) := by
  have hvalue : (Value.object es).node.value = .object es :=
    congrArg Prod.fst (Value.build_node (.object es) h [])
  rw [parse, tokensOf_indented h]
  simp only [bind, Except.bind, Yaml.ofTokens_object, Value.check_node h, hvalue]
  rfl

end LayerDoc
