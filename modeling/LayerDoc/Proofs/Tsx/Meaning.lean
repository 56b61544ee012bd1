import LayerDoc.Proofs.Identifier
import LayerDoc.Proofs.Resolution
import LayerDoc.Tsx.Element

/-!
# What attributes mean

Generated code runs in an environment that gives its members values: an identifier stands for the
variable that has it, whose default is its value, and a member of the functions is a registered
function. The attributes of a layer mean in this environment what its props are resolved to
(`meaning_ofProps`). No order is kept: resolved props begin with the named functions, attributes end
with them.
-/

namespace LayerDoc.Tsx

/-- The variable that an identifier stands for: the first one with the id that has it. -/
def Scope.variableOf? (s : Scope) (identifier : String) : Option Variable :=
  (s.identifiers.find? fun e => e.2 == identifier).bind fun e => Variable.find? s.vars e.1

/-- What generated code runs with. -/
structure Environment where
  vars : List Variable
  functions : FunctionRegistry

namespace Environment

/-- The scope that the identifiers of the variables are of. -/
def scope (e : Environment) : Scope := .ofVariables e.vars

/-- The registered function with an id, or null. -/
def registered (e : Environment) (id : String) : Term :=
  match Entries.get? e.functions id with
  | some definition => .function definition
  | none => .leaf .null

/-- The function that the default of a function variable names. -/
def named (e : Environment) : Value → Term
  | .str id => e.registered id
  | _ => .leaf .null

/-- The value of a member. Among the variables it is the default of the variable that the name
stands for. Among the functions it is the one that a function variable names, or else the one that
is registered under the name. -/
def member (e : Environment) : Group → String → Term
  | .vars, name =>
    match e.scope.variableOf? name with
    | some v => Term.ofValue v.default
    | none => .leaf .null
  | .functions, name =>
    match e.scope.variableOf? name with
    | some v => if v.isFunction then e.named v.default else e.registered name
    | none => e.registered name

end Environment

/-- The value of an expression. What is undefined is null, and data stands for itself. -/
def Expr.meaning (e : Environment) : Expr → Term
  | .undefined => .leaf .null
  | .member group name => e.member group name
  | .data value => Term.ofValue value

/-- The values of attributes by their names. -/
def Attribute.meanings (e : Environment) (attributes : List Attribute) : Entries Term :=
  attributes.map fun a => (a.name, a.value.meaning e)

/-! ## Identifiers stand for variables -/

namespace Scope

variable {vars : List Variable} {v : Variable}

theorem get?_identifiers (hv : v ∈ vars) :
    Entries.get? (ofVariables vars).identifiers v.id = some ((ofVariables vars).memberOf v) := by
  obtain ⟨identifier, hidentifier⟩ := Identifier.exists_mem_ofVariables hv
  have hsame : Entries.get? (ofVariables vars).identifiers v.id = some identifier := hidentifier
  rw [memberOf, hsame, Option.getD_some]

/-- The identifier of an id stands for the first variable with the id. -/
theorem variableOf?_memberOf (hfind : Variable.find? vars v.id = some v) :
    (ofVariables vars).variableOf? ((ofVariables vars).memberOf v) = some v := by
  have hmem := Entries.mem_of_get?_eq_some (get?_identifiers (List.mem_of_find?_eq_some hfind))
  unfold variableOf?
  cases hfound : (ofVariables vars).identifiers.find? fun e =>
      e.2 == (ofVariables vars).memberOf v with
  | none =>
    have hnone := List.find?_eq_none.mp hfound _ hmem
    simp at hnone
  | some e =>
    have hidentifier : e.2 = (ofVariables vars).memberOf v := by
      have := List.find?_some hfound
      simpa using this
    have hsame : e = (v.id, (ofVariables vars).memberOf v) := List.inj_on_of_nodup_map
      (Identifier.nodup_values_ofVariables vars) (List.mem_of_find?_eq_some hfound) hmem hidentifier
    rw [Option.bind_some, hsame]
    exact hfind

/-- A variable that an identifier stands for has this identifier. -/
theorem memberOf_of_variableOf? {name : String}
    (h : (ofVariables vars).variableOf? name = some v) :
    v ∈ vars ∧ (ofVariables vars).memberOf v = name := by
  unfold variableOf? at h
  obtain ⟨e, he, hfind⟩ := Option.bind_eq_some_iff.mp h
  have hname : e.2 = name := by
    have := List.find?_some he
    simpa using this
  have hid : v.id = e.1 := by
    have := List.find?_some hfind
    simpa using this
  have hget := Entries.get?_of_mem (Identifier.nodup_keys_ofVariables vars)
    (List.mem_of_find?_eq_some he)
  have hsame : Entries.get? (ofVariables vars).identifiers v.id = some name := by
    rw [hid, ← hname]
    exact hget
  refine ⟨List.mem_of_find?_eq_some hfind, ?_⟩
  rw [memberOf, hsame, Option.getD_some]

end Scope

/-! ## Names of attributes -/

/-- The keys that name functions are among the keys of the props. -/
theorem functionProps_sublist (props : Props) :
    ((functionProps props).map fun f => functionPrefix ++ f.1).Sublist (Entries.keys props) := by
  induction props with
  | nil => exact List.Sublist.refl _
  | cons p rest ih =>
    have hkeys : Entries.keys (p :: rest) = p.1 :: Entries.keys rest := rfl
    rw [functionProps, List.filterMap_cons, ← functionProps, hkeys]
    split
    · exact ih.cons _
    · next f hf =>
      split at hf
      · next id _ =>
        obtain ⟨prop, hprop, rfl⟩ := Option.map_eq_some_iff.mp hf
        rw [List.map_cons, functionProp?_eq_some_iff.mp hprop]
        exact ih.cons_cons _
      · cases hf

theorem nodup_keys_functionProps {props : Props} (hkeys : (Entries.keys props).Nodup) :
    (Entries.keys (functionProps props)).Nodup := by
  have hnodup := hkeys.sublist (functionProps_sublist props)
  refine List.Nodup.of_map (functionPrefix ++ ·) ?_
  rwa [Entries.keys, List.map_map]

theorem name_ofProp (s : Scope) (name : String) (p : PropValue) :
    (Attribute.ofProp s name p).name = name := by
  unfold Attribute.ofProp
  split <;> rfl

/-- The props that are attributes by themselves: their keys name no functions, and no function is
named for them. -/
def unnamedProps (props : Props) : Props :=
  props.filter fun p => (functionProp? p.1).isNone && !Entries.has (functionProps props) p.1

/-- No function is named for two props, nor for one that is an attribute by itself. -/
theorem nodup_unnamed_named {props : Props} (hkeys : (Entries.keys props).Nodup) :
    (Entries.keys (unnamedProps props) ++ Entries.keys (functionProps props)).Nodup := by
  refine List.Nodup.append (hkeys.sublist (List.filter_sublist.map _))
    (nodup_keys_functionProps hkeys) fun key hkept hnamed => ?_
  obtain ⟨p, hp, rfl⟩ := List.mem_map.mp hkept
  have hfree := (List.mem_filter.mp hp).2
  have htaken : Entries.has (functionProps props) p.1 = true := Entries.has_iff.mpr hnamed
  simp [htaken] at hfree

theorem names_ofProps (s : Scope) (props : Props) :
    (Attribute.ofProps s props).map Attribute.name =
      Entries.keys (unnamedProps props) ++ Entries.keys (functionProps props) := by
  simp [Entries.keys, unnamedProps, Attribute.ofProps, name_ofProp, Function.comp_def]

/-- Attributes of props with distinct keys have distinct names. -/
theorem nodup_names_ofProps (s : Scope) {props : Props} (hkeys : (Entries.keys props).Nodup) :
    ((Attribute.ofProps s props).map Attribute.name).Nodup :=
  names_ofProps s props ▸ nodup_unnamed_named hkeys

theorem nodup_keys_meanings (e : Environment) (s : Scope) {props : Props}
    (hkeys : (Entries.keys props).Nodup) :
    (Entries.keys (Attribute.meanings e (Attribute.ofProps s props))).Nodup := by
  rw [Entries.keys, Attribute.meanings, List.map_map]
  exact nodup_names_ofProps s hkeys

/-! ## Attributes mean what props are resolved to -/

section

variable {e : Environment}

/-- The resolver of props for which nothing is known at run time. -/
abbrev Environment.resolver (e : Environment) : Resolver := ⟨e.vars, [], some e.functions⟩

theorem function_resolver (e : Environment) (id : String) :
    (e.resolver.function id).1 = e.registered id := by
  unfold Resolver.function Environment.registered
  dsimp only
  cases Entries.get? e.functions id <;> rfl

/-- A reference means what it is resolved to. -/
theorem meaning_reference
    (hdefaults : ∀ v ∈ e.vars, v.isFunction = true → ∃ id, v.default = .str id)
    (variableId : String) :
    (e.scope.reference variableId).meaning e = (e.resolver.target variableId).1 := by
  have hvars : e.scope.vars = e.vars := rfl
  rw [Scope.reference, Resolver.target, hvars]
  cases hfind : Variable.find? e.vars variableId with
  | none => rfl
  | some v =>
    have hid : v.id = variableId := by
      have := List.find?_some hfind
      simpa using this
    have hvariable : e.scope.variableOf? (e.scope.memberOf v) = some v :=
      Scope.variableOf?_memberOf (hid.symm ▸ hfind)
    cases hfunction : v.isFunction with
    | false =>
      simp only [Expr.meaning, Scope.groupOf, hfunction, Bool.false_eq_true, if_false,
        Environment.member, hvariable]
      rfl
    | true =>
      obtain ⟨id, hdefault⟩ := hdefaults v (List.mem_of_find?_eq_some hfind) hfunction
      simp only [Expr.meaning, Scope.groupOf, hfunction, if_true, Environment.member, hvariable,
        hdefault, Environment.named]
      exact (function_resolver e id).symm

/-- A named function is the registered one, unless its name is the identifier of a function
variable. -/
theorem meaning_named {id : String}
    (hapart : ∀ v ∈ e.vars, v.isFunction = true → e.scope.memberOf v ≠ id) :
    (Expr.member .functions id).meaning e = (e.resolver.function id).1 := by
  rw [function_resolver, Expr.meaning, Environment.member]
  cases hvariable : e.scope.variableOf? id with
  | none => rfl
  | some v =>
    obtain ⟨hmem, hmember⟩ := Scope.memberOf_of_variableOf? hvariable
    have hfunction : v.isFunction = false := by
      by_contra htrue
      exact hapart v hmem (by simpa using htrue) hmember
    simp [hfunction]

/-- A prop means what it is resolved to. -/
theorem meaning_ofProp
    (hdefaults : ∀ v ∈ e.vars, v.isFunction = true → ∃ id, v.default = .str id)
    (name : String) {p : PropValue} (hp : p.inert = true) :
    (Attribute.ofProp e.scope name p).value.meaning e =
      (e.resolver.resolve (Term.ofProp p)).1 := by
  unfold Attribute.ofProp
  cases href : p.reference? with
  | some variableId =>
    rw [Resolver.resolve_of_reference? _ (Term.reference?_ofProp p ▸ href)]
    exact meaning_reference hdefaults variableId
  | none =>
    cases p with
    | bound other => cases href
    | plain v =>
      have hinert : v.inert = true := by
        rw [PropValue.inert, href, Option.isSome_none, Bool.false_or] at hp
        exact hp
      rw [Term.ofProp, Resolver.resolve_ofValue _ hinert]
      rfl

/-- The functions that keys name are the same for attributes and for terms. -/
theorem functionProps_mapValues (props : Props) :
    Term.functionProps (Entries.mapValues Term.ofProp props) = functionProps props := by
  rw [Term.functionProps, functionProps, Entries.mapValues, List.filterMap_map]
  refine List.filterMap_congr fun p _ => ?_
  obtain ⟨key, value⟩ := p
  cases value with
  | bound variableId => cases hkey : functionProp? key <;> simp [hkey, Term.ofProp, Term.text?]
  | plain v =>
    simp only [Function.comp_apply, Term.ofProp, Term.text?_ofValue]
    cases v <;> cases functionProp? key <;> rfl

/-- With a registry, props are resolved to the named functions and then to what the others stand
for. -/
theorem resolved_eq {r : Resolver} (hr : r.functions.isSome = true) (props : Props) :
    (r.props (Entries.mapValues Term.ofProp props)).1 =
      (functionProps props).map (fun f => (f.1, (r.function f.2).1)) ++
        (unnamedProps props).map fun p => (p.1, (r.resolve (Term.ofProp p.2)).1) := by
  rw [Resolver.props_fst hr, functionProps_mapValues, Entries.mapValues, List.filter_map,
    List.map_map, unnamedProps]
  rfl

/-- Entry by entry, attributes mean what props are resolved to. The named functions come last among
the attributes and first among what is resolved. -/
theorem perm_meanings {props : Props} (hinert : ∀ p ∈ props, p.2.inert = true)
    (hdefaults : ∀ v ∈ e.vars, v.isFunction = true → ∃ id, v.default = .str id)
    (hapart : ∀ f ∈ functionProps props, ∀ v ∈ e.vars, v.isFunction = true →
      e.scope.memberOf v ≠ f.2) :
    (Attribute.meanings e (Attribute.ofProps e.scope props)).Perm
      (e.resolver.props (Entries.mapValues Term.ofProp props)).1 := by
  have hkept : ∀ p ∈ props,
      ((Attribute.ofProp e.scope p.1 p.2).name,
        (Attribute.ofProp e.scope p.1 p.2).value.meaning e) =
        (p.1, (e.resolver.resolve (Term.ofProp p.2)).1) := by
    intro p hp
    rw [name_ofProp, meaning_ofProp hdefaults p.1 (hinert p hp)]
  have hnamed : ∀ f ∈ functionProps props,
      (f.1, (Expr.member .functions f.2).meaning e) = (f.1, (e.resolver.function f.2).1) := by
    intro f hf
    rw [meaning_named (hapart f hf)]
  rw [resolved_eq rfl, Attribute.meanings, Attribute.ofProps, List.map_append, List.map_map,
    List.map_map]
  refine List.perm_append_comm.trans (List.Perm.of_eq ?_)
  congr 1
  · exact List.map_congr_left hnamed
  · exact List.map_congr_left fun p hp => hkept p (List.mem_filter.mp hp).1

end

/-! ## When there are attributes, and when there are resolved props -/

theorem hasCode_ofProp (s : Scope) (name : String) (p : PropValue) :
    (Attribute.ofProp s name p).hasCode = true ↔
      (p.reference? = none → p.toValue.hasCode = true) := by
  unfold Attribute.ofProp Attribute.hasCode
  cases p.reference? with
  | some variableId =>
    simp only [Scope.reference]
    split <;> simp [Expr.hasCode]
  | none => simp [Expr.hasCode]

/-- There is a text of attributes exactly if the data among the props that are attributes by
themselves can be written. -/
theorem attributesCode?_isSome_iff (s : Scope) (props : Props) :
    (attributesCode? (Attribute.ofProps s props)).isSome = true ↔
      ∀ p ∈ unnamedProps props, p.2.reference? = none → p.2.toValue.hasCode = true := by
  have hnamed : ∀ f : String × String, (⟨f.1, .member .functions f.2⟩ : Attribute).hasCode = true :=
    fun f => rfl
  have hall : (attributesCode? (Attribute.ofProps s props)).isSome =
      (Attribute.ofProps s props).all Attribute.hasCode := by
    rw [attributesCode?]
    split <;> simp_all
  rw [hall, Attribute.ofProps]
  simp only [List.all_append, List.all_map, Bool.and_eq_true, List.all_eq_true,
    Function.comp_apply, hnamed, implies_true, and_true, hasCode_ofProp]
  rfl

/-- What is followed has something that it stands for, if function variables name functions. -/
theorem hasTarget_of_defaults {r : Resolver}
    (h : ∀ v ∈ r.vars, v.isFunction = true → ∃ id, v.default = .str id) (variableId : String) :
    r.hasTarget variableId = true := by
  unfold Resolver.hasTarget
  split
  · rfl
  · next v hfind =>
    cases hfunction : v.isFunction with
    | false => rfl
    | true =>
      obtain ⟨id, hdefault⟩ := h v (List.mem_of_find?_eq_some hfind) hfunction
      rw [hdefault]
      rfl

/-- The attributes of a layer mean what its props are resolved to. The props are data without
references or named functions below their top, function variables name functions, and no named
function has the name of a function variable's identifier. There is a text of the attributes exactly
if the data that has to be written can be, and the props are resolved exactly if the data that is
reached has no keys but texts and does not hold itself. Then the two are the same as maps from names
to values, in the environment in which an identifier has the default of its variable and a function
is looked up in the registry. -/
theorem meaning_ofProps {vars : List Variable} {functions : FunctionRegistry} {props : Props}
    (hkeys : (Entries.keys props).Nodup) (hinert : ∀ p ∈ props, p.2.inert = true)
    (hdefaults : ∀ v ∈ vars, v.isFunction = true → ∃ id, v.default = .str id)
    (hapart : ∀ f ∈ functionProps props, ∀ v ∈ vars, v.isFunction = true →
      (Scope.ofVariables vars).memberOf v ≠ f.2) :
    let attributes := Attribute.ofProps (Scope.ofVariables vars) props
    let r : Resolver := ⟨vars, [], some functions⟩
    let es := Entries.mapValues Term.ofProp props
    ((attributesCode? attributes).isSome = true ↔
      ∀ p ∈ unnamedProps props, p.2.reference? = none → p.2.toValue.hasCode = true) ∧
    ((r.props? es).isSome = true ↔
      ∀ v ∈ Term.entriesLeaves true (Term.functionProps es) es, v.isLeaf = true) ∧
    ∀ resolved warnings, r.props? es = some (resolved, warnings) →
      let evaluated := Attribute.meanings ⟨vars, functions⟩ attributes
      (Entries.keys evaluated).Nodup ∧ (Entries.keys resolved).Nodup ∧
        ∀ name, Entries.get? evaluated name = Entries.get? resolved name := by
  intro attributes r es
  refine ⟨attributesCode?_isSome_iff _ props, ?_, fun resolved warnings hresolved => ?_⟩
  · rw [r.props?_isSome_iff]
    exact and_iff_left fun id _ => hasTarget_of_defaults hdefaults id
  · intro evaluated
    have hfirst : (r.props es).1 = resolved :=
      congrArg Prod.fst (r.props?_eq_some_iff.mp hresolved).2
    have hnodup : (Entries.keys evaluated).Nodup := nodup_keys_meanings _ _ hkeys
    have hperm : evaluated.Perm resolved :=
      hfirst ▸ perm_meanings (e := ⟨vars, functions⟩) hinert hdefaults hapart
    exact ⟨hnodup, (hperm.map Prod.fst).nodup_iff.mp hnodup, Entries.get?_eq_of_perm hnodup hperm⟩

/-- A title is bound to a text, a handler to a function variable and another one to a variable that
is not there; a key names the function of a prop that has a value of its own, and a style is an
object. -/
theorem meaning_of_bound_card :
    let vars : List Variable :=
      [⟨"a", "title", .string, .str "Home"⟩, ⟨"b", "on save", .function, .str "save"⟩]
    let functions : FunctionRegistry :=
      [("save", ⟨none, none, none⟩), ("hover", ⟨none, some "()", none⟩)]
    let props : Props :=
      [("title", .bound "a"), ("onHover", .plain (.int 1)), ("onClick", .bound "b"),
        ("__function_onHover", .plain (.str "hover")), ("onDrop", .bound "c"),
        ("style", .plain (.object [("gap", .int 2), ("align", .null)]))]
    let attributes := Attribute.ofProps (Scope.ofVariables vars) props
    let evaluated := Attribute.meanings ⟨vars, functions⟩ attributes
    (attributesCode? attributes).isSome = true ∧ ∃ resolved warnings,
      (Resolver.mk vars [] (some functions)).props? (Entries.mapValues Term.ofProp props) =
        some (resolved, warnings) ∧
      (Entries.keys evaluated).Nodup ∧ (Entries.keys resolved).Nodup ∧
        ∀ name, Entries.get? evaluated name = Entries.get? resolved name := by
  intro vars functions props attributes evaluated
  have hdefaults : ∀ v ∈ vars, v.isFunction = true → ∃ id, v.default = .str id := by
    intro v hv hfunction
    simp only [vars, List.mem_cons, List.not_mem_nil, or_false] at hv
    rcases hv with rfl | rfl
    · cases hfunction
    · exact ⟨"save", rfl⟩
  obtain ⟨hwritten, hresolves, hsame⟩ := @meaning_ofProps vars functions props
    (by decide) (by decide +kernel) hdefaults (by decide +kernel)
  obtain ⟨⟨resolved, warnings⟩, hresolved⟩ :=
    Option.isSome_iff_exists.mp (hresolves.mpr (by decide +kernel))
  exact ⟨hwritten.mpr (by decide +kernel), resolved, warnings, hresolved,
    hsame resolved warnings hresolved⟩

theorem unwritten_of_long_number (s : Scope) {n : Int} (h : isWritable n = false) :
    let props : Props := [("x", .plain (.int n))]
    let resolved : Entries Term := [("x", .leaf (.int n))]
    (∀ p ∈ props, p.2.inert = true) ∧
      (Resolver.mk [] [] (some [])).props? (Entries.mapValues Term.ofProp props) =
        some (resolved, []) ∧
      attributesCode? (Attribute.ofProps s props) = none := by
  intro props resolved
  have hname : functionProp? "x" = none := by decide
  have hes : Entries.mapValues Term.ofProp props = resolved := rfl
  have hinert : Term.entriesInert resolved = true :=
    Term.entriesInert_iff.mpr (List.forall_mem_singleton.mpr ⟨hname, rfl⟩)
  refine ⟨List.forall_mem_singleton.mpr rfl, ?_,
    Option.not_isSome_iff_eq_none.mp fun hwritten => ?_⟩
  · rw [hes, Resolver.props?_eq_some_iff, Term.functionProps_of_inert hinert]
    exact ⟨by simp [resolved, Resolver.canResolveOthers, Resolver.canResolve, Value.reference?,
      Value.isLeaf], Resolver.props_of_inert _ hinert⟩
  · have hunnamed : unnamedProps props = props := by
      simp [unnamedProps, functionProps, props, hname, Entries.has]
    have hall := (attributesCode?_isSome_iff s props).mp hwritten
    rw [hunnamed] at hall
    have hcode : (Value.int n).hasCode = true :=
      hall ("x", .plain (.int n)) List.mem_cons_self rfl
    rw [Value.hasCode, h] at hcode
    cases hcode

/-- A whole number of 4301 digits is resolved to itself, but there are no attributes of which one
could mean it, since it cannot be written. -/
theorem no_meaning_of_long_number :
    let n : Int := Int.ofNat (Nat.pow 10 4300)
    let props : Props := [("x", .plain (.int n))]
    let resolved : Entries Term := [("x", .leaf (.int n))]
    (∀ p ∈ props, p.2.inert = true) ∧
      (Resolver.mk [] [] (some [])).props? (Entries.mapValues Term.ofProp props) =
        some (resolved, []) ∧
      attributesCode? (Attribute.ofProps (Scope.ofVariables []) props) = none := by
  intro n
  exact unwritten_of_long_number _ isWritable_pow

end LayerDoc.Tsx
