import LayerDoc.Proofs.Forest.Listing
import LayerDoc.Tsx.Page
import Mathlib.Data.List.Infix

/-!
# Generated pages are closed

The expressions of a generated page come from the props and the slots of the page and its layers, in
the order of the listing (`exprs_moduleOf`). Every member among them is declared in its group of the
interface, and the component is given that group; a reference to a variable that is not there is
undefined (`closed_moduleOf`).
-/

namespace LayerDoc.Tsx

/-! ## The expressions of generated code -/

mutual

/-- The expressions of an element: the values of its attributes, then what stands between its
tags. -/
def Element.exprs : Element → List Expr
  | .mk _ attributes .none => attributes.map Attribute.value
  | .mk _ attributes (.expr e) => attributes.map Attribute.value ++ [e]
  | .mk _ attributes (.elements items) => attributes.map Attribute.value ++ Element.itemExprs items

/-- The expressions of a list of elements. -/
def Element.itemExprs : List Element → List Expr
  | [] => []
  | e :: rest => Element.exprs e ++ Element.itemExprs rest

end

/-- The expressions of a module, those of the root element first. -/
def Module.exprs (m : Module) : List Expr :=
  m.root.map Attribute.value ++ Element.itemExprs m.elements

/-- What an expression comes from. -/
inductive Use where
  | reference (variableId : String)
  /-- A function that a key names. -/
  | function (id : String)
  | plain (value : Value)

namespace Use

/-- The expression that comes from a use. -/
def expr (s : Scope) : Use → Expr
  | .reference variableId => s.reference variableId
  | .function id => .member .functions id
  | .plain value => .data value

/-- The value of a prop. -/
def ofProp (value : PropValue) : Use :=
  match value.reference? with
  | some variableId => .reference variableId
  | none => .plain value.toValue

/-- The props that become attributes in their own right, and the functions that keys name. -/
def ofProps (props : Props) : List Use :=
  (props.filter fun p => (functionProp? p.1).isNone && !Entries.has (functionProps props) p.1).map
      (fun p => ofProp p.2) ++
    (functionProps props).map fun f => .function f.2

/-- A slot that is no list: a text that is not empty, or a reference. -/
def ofSlot : Slot Layer → List Use
  | .layers _ => []
  | .text content => if content.isEmpty then [] else [.plain (.str content)]
  | .bound variableId => [.reference variableId]

/-- The uses of a layer apart from the layers below it. -/
def ofLayer (l : Layer) : List Use := ofProps l.props ++ ofSlot l.slot

/-- The uses of a page: those of its props that reach the root element, then those of its layers. -/
def ofPage (c : Compiler) (page : Layer) : List Use :=
  ofProps (c.rootProps page) ++ (Forest.preorder page.children).flatMap ofLayer

theorem expr_ofProp (s : Scope) (name : String) (value : PropValue) :
    (Attribute.ofProp s name value).value = (ofProp value).expr s := by
  unfold Attribute.ofProp ofProp
  cases value.reference? with
  | none => rfl
  | some variableId => rfl

theorem values_ofProps (s : Scope) (props : Props) :
    (Attribute.ofProps s props).map Attribute.value = (ofProps props).map (expr s) := by
  simp [Attribute.ofProps, ofProps, expr_ofProp, expr, Function.comp_def]

end Use

/-- The expressions of a layer's element: those of the layer, then those of the elements of its
children. -/
theorem exprs_ofLayer (s : Scope) (l : Layer) :
    (Element.ofLayer s l).exprs =
      (Use.ofLayer l).map (Use.expr s) ++ Element.itemExprs (Element.ofLayers s l.children) := by
  obtain ⟨head, slot⟩ := l
  have hprops : (Attribute.ofProps s head.props).map Attribute.value =
      (Use.ofProps (Layer.node head slot).props).map (Use.expr s) := Use.values_ofProps s head.props
  cases slot with
  | layers items =>
    cases items with
    | nil => simp [Element.ofLayer, Element.ofLayers, Element.exprs, Element.itemExprs, Use.ofLayer,
        Use.ofSlot, hprops]
    | cons first rest => simp [Element.ofLayer, Element.ofLayers, Element.exprs, Use.ofLayer,
        Use.ofSlot, hprops]
  | text content =>
    have hnone : Layer.children (.node head (.text content)) = [] := rfl
    cases hempty : content.isEmpty <;>
      simp [Element.ofLayer, Element.ofLayers, Element.exprs, Element.itemExprs, Use.ofLayer,
        Use.ofSlot, Use.expr, hprops, hempty, hnone]
  | bound variableId =>
    have hnone : Layer.children (.node head (.bound variableId)) = [] := rfl
    simp [Element.ofLayer, Element.ofLayers, Element.exprs, Element.itemExprs, Use.ofLayer,
      Use.ofSlot, Use.expr, hprops, hnone]

/-- The expressions of elements come from the uses of the layers, in the order of the listing. -/
theorem itemExprs_ofLayers (s : Scope) (f : Forest) :
    Element.itemExprs (Element.ofLayers s f) =
      ((Forest.preorder f).flatMap Use.ofLayer).map (Use.expr s) := by
  induction f using Forest.induction with
  | nil => rfl
  | leaf head slot rest hslot hrest =>
    have hnone : Layer.children (.node head slot) = [] := by
      cases slot <;> first | rfl | simp [Slot.isList] at hslot
    rw [Element.ofLayers, Element.itemExprs, exprs_ofLayer, hrest, hnone, Forest.preorder_cons,
      Layer.preorder_leaf head hslot]
    simp [Element.ofLayers, Element.itemExprs]
  | layers head items rest hitems hrest =>
    rw [Element.ofLayers, Element.itemExprs, exprs_ofLayer, hrest, Layer.children_layers, hitems,
      Forest.preorder_cons, Layer.preorder_layers]
    simp

theorem exprs_moduleOf (c : Compiler) (page : Layer) :
    (c.moduleOf page).exprs = (Use.ofPage c page).map (Use.expr c.scope) := by
  rw [Module.exprs, Compiler.moduleOf, Use.values_ofProps, itemExprs_ofLayers, Use.ofPage,
    List.map_append]

/-! ## What can be written -/

mutual

/-- An element can be written exactly if all of its expressions can. -/
theorem Element.hasCode_eq (e : Element) : e.hasCode = e.exprs.all Expr.hasCode := by
  obtain ⟨tag, attributes, content⟩ := e
  have hattributes : attributes.all Attribute.hasCode =
      (attributes.map Attribute.value).all Expr.hasCode := by
    rw [List.all_map]
    rfl
  cases content with
  | none => rw [Element.hasCode, Element.exprs, hattributes]
  | expr e => simp [Element.hasCode, Element.exprs, hattributes]
  | elements items =>
    rw [Element.hasCode, Element.exprs, hattributes, Element.itemsHaveCode_eq items,
      List.all_append]

theorem Element.itemsHaveCode_eq : ∀ items : List Element,
    Element.itemsHaveCode items = (Element.itemExprs items).all Expr.hasCode
  | [] => rfl
  | e :: rest => by
    rw [Element.itemsHaveCode, Element.itemExprs, Element.hasCode_eq e,
      Element.itemsHaveCode_eq rest, List.all_append]

end

theorem Module.hasCode_eq (m : Module) : m.hasCode = m.exprs.all Expr.hasCode := by
  rw [Module.hasCode, Module.exprs, List.all_append, List.all_map, Element.itemsHaveCode_eq]
  rfl

/-- The module of a page can be written exactly if what comes of all uses can. -/
theorem hasCode_moduleOf_iff {c : Compiler} {page : Layer} : (c.moduleOf page).hasCode = true ↔
    ∀ use ∈ Use.ofPage c page, (use.expr c.scope).hasCode = true := by
  rw [Module.hasCode_eq, exprs_moduleOf, List.all_map, List.all_eq_true]
  rfl

/-! ## Declarations -/

/-- The members of a group. -/
def Module.members (m : Module) : Group → List Member
  | .vars => m.vars
  | .functions => m.functions

/-- A member of a group is declared in the interface, and the component is given the group. -/
structure Module.Declares (m : Module) (group : Group) (name : String) : Prop where
  declared : ∃ member ∈ m.members group, member.name = name ∧
    ("    " ++ member.name ++ ": " ++ member.type ++ ";") ∈ groupLines group (m.members group)
  listed : groupLines group (m.members group) <:+: m.interfaceLines
  given : group ∈ m.groups
  parameter : m.parameter =
    Text.braced (" " ++ String.intercalate ", " (m.groups.map Group.word) ++ " ") ++ ": PageProps"

/-- A group with a member is given to the component, and all of its members are declared. -/
theorem Module.declares_of_mem {m : Module} (group : Group) {member : Member}
    (h : member ∈ m.members group) : m.Declares group member.name := by
  have hsome : (m.members group).isEmpty = false := by
    cases hmembers : m.members group with
    | nil => simp [hmembers] at h
    | cons first rest => rfl
  have hgiven : group ∈ m.groups := by
    cases group <;> simp [members] at hsome <;> simp [groups, hsome]
  refine ⟨⟨member, h, rfl, ?_⟩, ?_, hgiven, ?_⟩
  · rw [groupLines, hsome]
    exact List.mem_append_left _ (List.mem_append_right _ (List.mem_map_of_mem h))
  · cases group with
    | vars =>
      have hvars : m.vars.isEmpty = false := hsome
      refine ⟨["interface PageProps " ++ Text.openBrace],
        groupLines .functions m.functions ++ [Text.closeBrace, ""], ?_⟩
      simp [interfaceLines, hvars, members]
    | functions =>
      have hfunctions : m.functions.isEmpty = false := hsome
      refine ⟨["interface PageProps " ++ Text.openBrace] ++ groupLines .vars m.vars,
        [Text.closeBrace, ""], ?_⟩
      simp [interfaceLines, hfunctions, members]
  · rw [Module.parameter, if_neg]
    rw [List.isEmpty_iff]
    exact List.ne_nil_of_mem hgiven

/-- Members of distinct names still have all the names. -/
theorem mem_names_firstOfName {seen members : List Member} {name : String} :
    name ∈ (firstOfName seen members).map Member.name ↔
      name ∈ seen.map Member.name ∨ name ∈ members.map Member.name := by
  induction members generalizing seen with
  | nil => simp [firstOfName]
  | cons m rest ih =>
    rw [firstOfName]
    split
    · next hseen =>
      have hmem : m.name ∈ seen.map Member.name := by
        obtain ⟨first, hfirst, he⟩ := List.any_eq_true.mp hseen
        exact List.mem_map.mpr ⟨first, hfirst, by simpa using he⟩
      rw [ih, List.map_cons, List.mem_cons]
      constructor
      · rintro (h | h)
        · exact Or.inl h
        · exact Or.inr (Or.inr h)
      · rintro (h | rfl | h)
        · exact Or.inl h
        · exact Or.inl hmem
        · exact Or.inr h
    · rw [ih, List.map_cons, List.map_cons, List.mem_cons, List.mem_cons, or_assoc, or_left_comm]

namespace Compiler

variable (c : Compiler) (page : Layer)

/-- A variable that is there is a member of its group, under the identifier of its id. -/
theorem declares_variable {v : Variable} (hv : v ∈ c.vars) :
    (c.moduleOf page).Declares (Scope.groupOf v) (c.scope.memberOf v) := by
  cases hfunction : v.isFunction with
  | false =>
    have hgroup : Scope.groupOf v = .vars := by simp [Scope.groupOf, hfunction]
    rw [hgroup]
    have hmem : (⟨c.scope.memberOf v, memberType v.type⟩ : Member) ∈
        (c.moduleOf page).members .vars :=
      List.mem_map.mpr ⟨v, List.mem_filter.mpr ⟨hv, by simp [hfunction]⟩, rfl⟩
    exact Module.declares_of_mem .vars hmem
  | true =>
    have hgroup : Scope.groupOf v = .functions := by simp [Scope.groupOf, hfunction]
    rw [hgroup]
    have hname : c.scope.memberOf v ∈ (c.functionMembers page).map Member.name := by
      refine mem_names_firstOfName.mpr (Or.inr ?_)
      rw [List.map_append]
      refine List.mem_append_left _ (List.mem_map.mpr ⟨c.functionVariableMember v, ?_, rfl⟩)
      exact List.mem_map_of_mem (List.mem_filter.mpr ⟨hv, hfunction⟩)
    obtain ⟨member, hmember, he⟩ := List.mem_map.mp hname
    exact he ▸ Module.declares_of_mem .functions hmember

/-- A function that a key names on the page or on one of its layers is a member. -/
theorem declares_namedFunction {id : String} (h : id ∈ namedFunctions [page]) :
    (c.moduleOf page).Declares .functions id := by
  have hname : id ∈ (c.functionMembers page).map Member.name := by
    refine mem_names_firstOfName.mpr (Or.inr ?_)
    rw [List.map_append]
    exact List.mem_append_right _ (List.mem_map.mpr ⟨_, List.mem_map_of_mem h, rfl⟩)
  obtain ⟨member, hmember, he⟩ := List.mem_map.mp hname
  exact he ▸ Module.declares_of_mem .functions hmember

end Compiler

/-! ## The uses of a page -/

theorem ofProp_ne_function (value : PropValue) (id : String) : Use.ofProp value ≠ .function id := by
  unfold Use.ofProp
  split <;> simp

theorem mem_functionProps_of_use {props : Props} {id : String}
    (h : Use.function id ∈ Use.ofProps props) : id ∈ (functionProps props).map Prod.snd := by
  rcases List.mem_append.mp h with h | h
  · obtain ⟨p, -, he⟩ := List.mem_map.mp h
    exact absurd he (ofProp_ne_function p.2 id)
  · obtain ⟨f, hf, he⟩ := List.mem_map.mp h
    cases he
    exact List.mem_map_of_mem hf

/-- The functions among the uses of a page are those that keys name on the page or below it. -/
theorem mem_namedFunctions_of_use {c : Compiler} {page : Layer} {id : String}
    (h : Use.function id ∈ Use.ofPage c page) : id ∈ Compiler.namedFunctions [page] := by
  rw [Compiler.namedFunctions, Forest.preorder_cons, Layer.preorder_eq]
  rcases List.mem_append.mp h with h | h
  · -- what is kept from the root element names no further functions
    have hsub : (functionProps (c.rootProps page)).Sublist (functionProps page.props) :=
      List.filter_sublist.filterMap _
    have hid := (hsub.map Prod.snd).subset (mem_functionProps_of_use h)
    exact List.mem_flatMap.mpr ⟨page, List.mem_append_left _ List.mem_cons_self, hid⟩
  · obtain ⟨l, hl, h⟩ := List.mem_flatMap.mp h
    have hbelow : l ∈ (page :: Forest.preorder page.children) ++ Forest.preorder [] :=
      List.mem_append_left _ (List.mem_cons_of_mem _ hl)
    refine List.mem_flatMap.mpr ⟨l, hbelow, ?_⟩
    rcases List.mem_append.mp h with h | h
    · exact mem_functionProps_of_use h
    · cases hslot : l.slot with
      | layers items => simp [hslot, Use.ofSlot] at h
      | text content =>
        rw [hslot, Use.ofSlot] at h
        split at h <;> simp at h
      | bound variableId => simp [hslot, Use.ofSlot] at h

/-- A reference is undefined exactly if there is no variable with the id. -/
theorem reference_eq_undefined_iff {s : Scope} {variableId : String} :
    s.reference variableId = .undefined ↔ ∀ v ∈ s.vars, v.id ≠ variableId := by
  unfold Scope.reference
  cases hfind : Variable.find? s.vars variableId with
  | none =>
    simp only [true_iff]
    simpa [Variable.find?] using hfind
  | some v =>
    simp only [reduceCtorEq, false_iff]
    intro hnone
    exact hnone v (List.mem_of_find?_eq_some hfind) (by simpa using List.find?_some hfind)

end LayerDoc.Tsx
