import LayerDoc.Proofs.Editor.Rules

/-!
# Allowed parents over a run

A registry says of some types which types of parents they may stand under. Only the addition and the
move of a layer look at this. Over a run, every layer of every document that the editor holds stands
under an allowed parent (`Editor.nested_runAll`), if the templates of the registry and the documents
that are brought in are nested so, and no patch changes a type or puts a list in the place of
children. The rule is one between layers and their parents (`Registry.nesting`), so what is left to
show is that the store upholds it: that new layers and moved ones are put under parents that allow
them, and that nothing else that a commit does touches types.
-/

namespace LayerDoc

namespace Registry

/-- A type may stand under a type, unless its entry lists other parents only. -/
def Allows (r : Registry) (type parent : String) : Prop :=
  ∀ allowed ∈ (Entries.get? r type).bind RegistryEntry.childOf, parent ∈ allowed

instance (r : Registry) (type parent : String) : Decidable (r.Allows type parent) :=
  inferInstanceAs (Decidable (∀ allowed ∈ (Entries.get? r type).bind RegistryEntry.childOf,
    parent ∈ allowed))

/-- Every layer stands under a parent that allows it; at the top there is none to ask. -/
def nesting (r : Registry) : Forest.Rule
  | some parent, child => r.Allows child.type parent.type
  | none, _ => True

end Registry

/-- Every layer below the top of a forest stands under an allowed parent. -/
def Forest.Nested (r : Registry) (f : Forest) : Prop :=
  ∀ l ∈ preorder f, ∀ c ∈ l.children, r.Allows c.type l.type

instance (r : Registry) (f : Forest) : Decidable (f.Nested r) :=
  inferInstanceAs (Decidable (∀ l ∈ Forest.preorder f, ∀ c ∈ l.children, r.Allows c.type l.type))

/-- Every template is nested, its top under the type of its entry. -/
def Registry.TemplatesNested (r : Registry) : Prop :=
  ∀ type entry items, Entries.get? r type = some entry → entry.template = some (.layers items) →
    (∀ l ∈ items, r.Allows l.type type) ∧ Forest.Nested r items

namespace Forest

variable {r : Registry} {f : Forest}

theorem nested_iff_linked : f.Nested r ↔ Linked r.nesting none f :=
  ⟨fun h => ⟨fun _ _ => trivial, h⟩, fun h => h.2⟩

/-- The rule sees types only. -/
theorem nesting_anonymous (r : Registry) : Rule.Anonymous r.nesting := by
  refine ⟨fun q c id name h => ?_, fun q c id name h => h⟩
  cases q with
  | none => trivial
  | some parent => exact h

end Forest

namespace Operation

/-- An operation that does not patch the type of a layer. -/
def KeepsTypes : Operation → Prop
  | .updateLayer _ _ patch => Entries.get? patch "type" = none
  | _ => True

/-- An operation that, if it starts over with other pages, brings pages that are nested as the
registry says. -/
def BringsNested (r : Registry) (s : Supply) (op : Operation) : Prop :=
  ∀ pages forest t, op.given? = some pages → pages.read? s = some (forest, t) → forest.Nested r

end Operation

namespace Store

variable {st : Store} {s t : Supply} {d : Document}

theorem nestingProblem?_eq_none_iff {type : String} {parent : Layer} :
    st.nestingProblem? type parent = none ↔ st.registry.Allows type parent.type := by
  unfold nestingProblem? Registry.Allows
  cases (Entries.get? st.registry type).bind RegistryEntry.childOf with
  | none => simp
  | some allowed => simp

/-- What the store does on its own leaves every layer under a parent that allows it. -/
theorem upholds_nesting (htemplates : st.registry.TemplatesNested) :
    st.Upholds st.registry.nesting := by
  have hanonymous := Forest.nesting_anonymous st.registry
  refine ⟨hanonymous, fun hnest hlayer => ?_, fun _ _ => trivial, fun _ hnest => ?_,
    fun _ q c hq => ?_⟩
  · refine Forest.linked_ofType hanonymous hlayer
      (fun _ => nestingProblem?_eq_none_iff.mp hnest) fun entry items id hentry hitems => ?_
    exact htemplates _ entry items hentry hitems
  · exact nestingProblem?_eq_none_iff.mp hnest
  · cases q with
    | none => trivial
    | some parent => exact hq

/-- A patch that changes no type and brings no layers leaves all layers under allowed parents. -/
theorem nested_of_patched {r : Registry} {target updated : Layer} {props patch : Entries Value}
    (hupdated : target.patched props patch s = some (updated, t))
    (hchildren : ∀ v, Entries.get? patch "children" = some v → v.items? = none)
    (htype : Entries.get? patch "type" = none) {q : Option Head}
    (h : Forest.Linked r.nesting q [target]) : Forest.Linked r.nesting q [updated] := by
  have hsame : updated.head.type = target.head.type := Layer.type_of_patched hupdated htype
  obtain ⟨hq, hbelow⟩ := Forest.linked_singleton.mp h
  refine Forest.linked_singleton.mpr ⟨?_, ?_⟩
  · cases q with
    | none => trivial
    | some parent =>
      show r.Allows updated.head.type parent.type
      rw [hsame]
      exact hq
  · rcases Layer.children_of_patched hupdated hchildren with hkept | hgone
    · rw [hkept]
      refine ⟨fun c hc => ?_, hbelow.2⟩
      show r.Allows c.head.type updated.head.type
      rw [hsame]
      exact hbelow.1 c hc
    · rw [hgone]
      exact Forest.linked_nil

theorem Patches.no_type {op : Operation} {id : String} {props patch : Entries Value}
    (h : st.Patches op id props patch) (hop : op.KeepsTypes) :
      Entries.get? patch "type" = none := by
  cases h with
  | updateLayer => exact hop
  | bindProp | unbindProp | bindChildren | unbindChildren => rfl

end Store

namespace Editor

/-- Over every run from an editor at the start whose templates and document are nested as its
registry says, with new labels, without patches of types or with lists of children, and with
documents that are nested: in every document that the editor holds, in its store and in its history,
every layer below a page stands under a parent that its type allows. -/
theorem nested_runAll {e : Editor} (he : e.Opened)
    (htemplates : e.store.registry.TemplatesNested)
    (hstart : e.document.pages.Nested e.store.registry) {ops : List Operation}
    (hfresh : e.FreshRun (fun d => Forest.ids d.pages) ops)
    (hops : e.Along (fun _ s op => op.PatchesNoList ∧ op.KeepsTypes ∧
      op.BringsNested e.store.registry s) ops) :
    ∀ d ∈ (e.runAll ops).documents, d.pages.Nested e.store.registry := by
  refine kept_runAll he hfresh (hops.inter (e.along_store ops)) (fun st s op h => h.1.1) hstart ?_
  rintro st s op d t ⟨⟨hchildren, htypes, hbrings⟩, hstore⟩ hcommit hdoc - hq
  have hregistry : st.registry = e.store.registry := by rw [hstore]
  rw [← hregistry] at htemplates hbrings hq ⊢
  rw [Forest.nested_iff_linked] at hq ⊢
  refine hcommit.linked (Store.upholds_nesting htemplates) (fun hpatch _ _ hupdated q h => ?_)
    (fun pages forest t hpages hread => ?_) hdoc.nodup hq
  · exact Store.nested_of_patched hupdated (hpatch.no_items hchildren) (hpatch.no_type htypes) h
  · exact Forest.nested_iff_linked.mp (hbrings pages forest t hpages hread)

/-- Items may stand in lists only. A list with an item is added, its item is moved to a second list,
and the first list is copied. -/
theorem nested_of_moved_item :
    let item : Layer := .node ⟨.component, "", "Item", none, [], []⟩ (.text "one")
    let registry : Registry :=
      [("List", ⟨[], none, false, some (.layers [item]), [], [], none⟩),
        ("Item", ⟨[], none, false, none, [], [], some ["List"]⟩)]
    let ops : List Operation :=
      [.addLayer "List" (Supply.groupLabel 0) none, .addLayer "List" (Supply.groupLabel 0) none,
        .moveLayer (Supply.groupLabel 1) (Supply.groupLabel 4) (some 0),
        .duplicateLayer (Supply.groupLabel 4)]
    let e := (start registry [] .default none .start).runAll ops
    ∀ d ∈ e.documents, d.pages.Nested registry := by
  intro item registry ops
  have hfirst : (start registry [] .default none .start).supply.FreshFor
      (Forest.ids (start registry [] .default none .start).document.pages) :=
    (Supply.Gives.one .start).freshFor Supply.start_injective
  have hfresh : (start registry [] .default none .start).FreshRun
      (fun d => Forest.ids d.pages) ops := by
    refine ⟨Supply.start_injective, hfirst, ?_⟩
    simp [ops, Along, Operation.LeavesFresh, Operation.replaces]
  have htemplates : registry.TemplatesNested := by
    intro type entry items hentry htemplate
    simp only [registry, Entries.get?] at hentry
    split at hentry
    · next hlist =>
      cases hlist
      cases hentry
      cases htemplate
      decide
    · split at hentry
      · cases hentry
        cases htemplate
      · cases hentry
  have hstart : (start registry [] .default none .start).document.pages.Nested registry := by
    decide
  refine nested_runAll .default htemplates hstart hfresh ?_
  simp [ops, Along, Operation.PatchesNoList, Operation.KeepsTypes, Operation.BringsNested,
    Operation.given?]

end Editor

end LayerDoc
