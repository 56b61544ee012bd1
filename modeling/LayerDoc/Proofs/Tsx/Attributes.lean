import LayerDoc.Proofs.Tsx.Meaning

/-!
# The names of attributes

Attributes have the names that resolved props have as keys, each once: those of the props whose keys
name no functions, and those of the props that a function is named for. A prop whose function is
named gives way to it in both, and a key of a function with something else than text is left out of
both (`emits_resolved_keys`). Only the order differs, since the named functions come last among the
attributes and first among what is resolved.
-/

namespace LayerDoc.Tsx

/-! ## Named functions -/

theorem mem_functionProps {props : Props} {name id : String} :
    (name, id) ∈ functionProps props ↔ (functionPrefix ++ name, .plain (.str id)) ∈ props := by
  rw [functionProps, List.mem_filterMap]
  constructor
  · rintro ⟨⟨key, value⟩, hp, hnamed⟩
    split at hnamed
    · next text hvalue =>
      obtain ⟨prop, hprop, hpair⟩ := Option.map_eq_some_iff.mp hnamed
      cases hpair
      rw [← functionProp?_eq_some_iff.mp hprop, ← hvalue]
      exact hp
    · cases hnamed
  · intro hp
    refine ⟨_, hp, ?_⟩
    simp [functionProp?_eq_some_iff.mpr rfl]

theorem mem_keys_functionProps {props : Props} {name : String} :
    name ∈ Entries.keys (functionProps props) ↔
      ∃ id, (functionPrefix ++ name, PropValue.plain (.str id)) ∈ props := by
  rw [Entries.keys, List.mem_map]
  constructor
  · rintro ⟨⟨_, id⟩, hmem, rfl⟩
    exact ⟨id, mem_functionProps.mp hmem⟩
  · rintro ⟨id, hmem⟩
    exact ⟨(name, id), mem_functionProps.mpr hmem, rfl⟩

theorem mem_keys_unnamedProps {props : Props} {name : String} :
    name ∈ Entries.keys (unnamedProps props) ↔
      name ∈ Entries.keys props ∧ functionProp? name = none ∧
        name ∉ Entries.keys (functionProps props) := by
  have hnamed : Entries.has (functionProps props) name = true ↔
      name ∈ Entries.keys (functionProps props) := Entries.has_iff
  rw [← hnamed, Entries.keys, Entries.keys, unnamedProps, List.mem_map, List.mem_map]
  constructor
  · rintro ⟨p, hp, rfl⟩
    obtain ⟨hmem, hfree⟩ := List.mem_filter.mp hp
    rw [Bool.and_eq_true, Option.isNone_iff_eq_none, Bool.not_eq_true'] at hfree
    exact ⟨⟨p, hmem, rfl⟩, hfree.1, by simp [hfree.2]⟩
  · rintro ⟨⟨p, hmem, rfl⟩, hkey, hfree⟩
    exact ⟨p, List.mem_filter.mpr ⟨hmem, by simp [hkey, hfree]⟩, rfl⟩

/-- The names of the attributes are the keys that name no functions, and the props that functions
are named for. -/
theorem mem_names_ofProps (s : Scope) {props : Props} {name : String} :
    name ∈ (Attribute.ofProps s props).map Attribute.name ↔
      (name ∈ Entries.keys props ∧ functionProp? name = none) ∨
        ∃ id, (functionPrefix ++ name, PropValue.plain (.str id)) ∈ props := by
  rw [names_ofProps, List.mem_append, mem_keys_unnamedProps, ← mem_keys_functionProps]
  by_cases hnamed : name ∈ Entries.keys (functionProps props)
  · simp [hnamed]
  · simp [hnamed]

/-! ## Resolved props -/

section

variable {r : Resolver}

theorem keys_resolved (hr : r.functions.isSome = true) (props : Props) :
    Entries.keys (r.props (Entries.mapValues Term.ofProp props)).1 =
      Entries.keys (functionProps props) ++ Entries.keys (unnamedProps props) := by
  rw [resolved_eq hr]
  simp [Entries.keys, Function.comp_def]

/-- A prop whose function is named is resolved to this function. -/
theorem get?_resolved_of_named (hr : r.functions.isSome = true) {props : Props} {name id : String}
    (hkeys : (Entries.keys props).Nodup) (hnamed : (name, id) ∈ functionProps props) :
    Entries.get? (r.props (Entries.mapValues Term.ofProp props)).1 name =
      some (r.function id).1 := by
  refine Entries.get?_of_mem ?_ ?_
  · rw [keys_resolved hr]
    exact List.perm_append_comm.nodup_iff.mp (nodup_unnamed_named hkeys)
  · rw [resolved_eq hr]
    exact List.mem_append_left _ (List.mem_map.mpr ⟨_, hnamed, rfl⟩)

end

/-! ## Keys of functions without text -/

section

variable {key : String} {value : PropValue}

theorem functionProps_without_textless (hvalue : ∀ id, value ≠ .plain (.str id))
    (front back : Props) :
    functionProps (front ++ (key, value) :: back) = functionProps (front ++ back) := by
  rw [functionProps, functionProps, List.filterMap_append, List.filterMap_append,
    List.filterMap_cons_none]
  split
  · next id htext => exact absurd htext (hvalue id)
  · rfl

variable (hkey : (functionProp? key).isSome = true) (hvalue : ∀ id, value ≠ .plain (.str id))
  (front back : Props)

include hkey hvalue

theorem unnamedProps_without_textless :
    unnamedProps (front ++ (key, value) :: back) = unnamedProps (front ++ back) := by
  have hout : ((functionProp? key).isNone && !Entries.has (functionProps (front ++ back)) key) =
      false := by
    rw [Option.isNone_eq_false_iff.mpr hkey, Bool.false_and]
  rw [unnamedProps, unnamedProps, functionProps_without_textless hvalue, List.filter_append,
    List.filter_append, List.filter_cons_of_neg (by simp [hout])]

/-- A key of a function whose value is no text makes no difference to the attributes. -/
theorem ofProps_without_textless (s : Scope) :
    Attribute.ofProps s (front ++ (key, value) :: back) = Attribute.ofProps s (front ++ back) := by
  have hnamed : functionProps (front ++ (key, value) :: back) = functionProps (front ++ back) :=
    functionProps_without_textless hvalue front back
  have hothers := unnamedProps_without_textless hkey hvalue front back
  rw [unnamedProps, unnamedProps] at hothers
  rw [Attribute.ofProps, Attribute.ofProps, hothers, hnamed]

/-- A key of a function whose value is no text makes no difference to what props are resolved to,
nor to whether they are. -/
theorem props?_without_textless (r : Resolver) :
    r.props? (Entries.mapValues Term.ofProp (front ++ (key, value) :: back)) =
      r.props? (Entries.mapValues Term.ofProp (front ++ back)) := by
  have hterms : Entries.mapValues Term.ofProp (front ++ (key, value) :: back) =
      Entries.mapValues Term.ofProp front ++
        (key, Term.ofProp value) :: Entries.mapValues Term.ofProp back := List.map_append
  have hothers : Entries.mapValues Term.ofProp (front ++ back) =
      Entries.mapValues Term.ofProp front ++ Entries.mapValues Term.ofProp back := List.map_append
  have hpassed : ∀ named, passedOver r.functions.isSome named key = true := by
    intro named
    rw [passedOver, hkey, Bool.true_or]
  have hnamed : Term.functionProps (Entries.mapValues Term.ofProp (front ++ (key, value) :: back)) =
      Term.functionProps (Entries.mapValues Term.ofProp (front ++ back)) := by
    rw [functionProps_mapValues, functionProps_mapValues, functionProps_without_textless hvalue]
  rw [Resolver.props?, Resolver.props?, Resolver.props, Resolver.props, hnamed, hterms, hothers,
    r.resolveOthers_without_passed (hpassed _), r.canResolveOthers_without_passed (hpassed _)]

end

/-- A prop whose function is named has one attribute, and that is the function. -/
theorem eq_of_mem_ofProps (s : Scope) {props : Props} (hkeys : (Entries.keys props).Nodup)
    {name id : String} (hnamed : (name, id) ∈ functionProps props) :
    (⟨name, .member .functions id⟩ : Attribute) ∈ Attribute.ofProps s props ∧
      ∀ a ∈ Attribute.ofProps s props, a.name = name → a = ⟨name, .member .functions id⟩ := by
  have hmem : (⟨name, .member .functions id⟩ : Attribute) ∈ Attribute.ofProps s props :=
    List.mem_append_right _ (List.mem_map.mpr ⟨_, hnamed, rfl⟩)
  exact ⟨hmem, fun a ha hname =>
    List.inj_on_of_nodup_map (nodup_names_ofProps s hkeys) ha hmem hname⟩

/-- Props of distinct keys become attributes of distinct names: the keys that name no functions, and
the props that functions are named for by texts. The attributes come in the order of the props, and
after them the named functions in theirs. There is a text of them exactly if the data that has to be
written can be. With a registry, the keys of the resolved props are the names of the attributes; and
props are resolved exactly if the plain data that is reached is not looked into, and what is
followed has something that it stands for. A prop whose function is named has the function and
nothing else, as an attribute and when it is resolved, and a key of a function with something else
than text makes no difference to either. -/
theorem emits_resolved_keys (vars : List Variable) (values : Entries Value)
    (functions : FunctionRegistry) {props : Props} (hkeys : (Entries.keys props).Nodup) :
    let s := Scope.ofVariables vars
    let r : Resolver := ⟨vars, values, some functions⟩
    let attributes := Attribute.ofProps s props
    let names := attributes.map Attribute.name
    let es := Entries.mapValues Term.ofProp props
    ((attributesCode? attributes).isSome = true ↔
      ∀ p ∈ unnamedProps props, p.2.reference? = none → p.2.toValue.hasCode = true) ∧
    ((r.props? es).isSome = true ↔
      (∀ v ∈ Term.entriesLeaves true (Term.functionProps es) es, v.isLeaf = true) ∧
        ∀ id ∈ Term.entriesFollowed true (Term.functionProps es) es, r.hasTarget id = true) ∧
    names.Nodup ∧
    (∀ name, name ∈ names ↔ (name ∈ Entries.keys props ∧ functionProp? name = none) ∨
      ∃ id, (functionPrefix ++ name, PropValue.plain (.str id)) ∈ props) ∧
    (∃ kept named, names = kept ++ named ∧ kept.Sublist (Entries.keys props) ∧
      (named.map (functionPrefix ++ ·)).Sublist (Entries.keys props) ∧
      ∀ name, name ∈ named ↔ ∃ id, (functionPrefix ++ name, PropValue.plain (.str id)) ∈ props) ∧
    (∀ resolved warnings, r.props? es = some (resolved, warnings) →
      names.Perm (Entries.keys resolved)) ∧
    (∀ name id, (functionPrefix ++ name, PropValue.plain (.str id)) ∈ props →
      ((⟨name, .member .functions id⟩ : Attribute) ∈ attributes ∧
        ∀ a ∈ attributes, a.name = name → a = ⟨name, .member .functions id⟩) ∧
      ∀ resolved warnings, r.props? es = some (resolved, warnings) →
        Entries.get? resolved name = some (r.function id).1) ∧
    ∀ front key value back, props = front ++ (key, value) :: back →
      (functionProp? key).isSome = true → (∀ id, value ≠ .plain (.str id)) →
      attributes = Attribute.ofProps s (front ++ back) ∧
        r.props? es = r.props? (Entries.mapValues Term.ofProp (front ++ back)) := by
  intro s r attributes names es
  have hsplit : names = Entries.keys (unnamedProps props) ++ Entries.keys (functionProps props) :=
    names_ofProps s props
  have hfirst : ∀ {resolved warnings}, r.props? es = some (resolved, warnings) →
      (r.props es).1 = resolved :=
    fun hresolved => congrArg Prod.fst (r.props?_eq_some_iff.mp hresolved).2
  refine ⟨attributesCode?_isSome_iff s props, r.props?_isSome_iff, nodup_names_ofProps s hkeys,
    fun name => mem_names_ofProps s,
    ⟨_, _, hsplit, List.filter_sublist.map _, ?_, fun name => mem_keys_functionProps⟩,
    fun resolved warnings hresolved => ?_, fun name id hmetadata => ?_, ?_⟩
  · rw [Entries.keys, List.map_map]
    exact functionProps_sublist props
  · rw [hsplit, ← hfirst hresolved, keys_resolved rfl]
    exact List.perm_append_comm
  · have hnamed := mem_functionProps.mpr hmetadata
    refine ⟨eq_of_mem_ofProps s hkeys hnamed, fun resolved warnings hresolved => ?_⟩
    rw [← hfirst hresolved]
    exact get?_resolved_of_named rfl hkeys hnamed
  · rintro front key value back rfl hkey hvalue
    exact ⟨ofProps_without_textless hkey hvalue front back s,
      props?_without_textless hkey hvalue front back r⟩

/-- A literal gives way to the function that is named for it. Functions are also named for a prop
with an empty name and for one whose name is the key of a function, and a number names none. -/
theorem emits_keys_of_card :
    let vars : List Variable := [⟨"v", "title", .string, .str "Home"⟩]
    let functions : FunctionRegistry := [("save", ⟨none, none, none⟩)]
    let props : Props :=
      [("onSave", .plain (.int 1)), ("__function_", .plain (.str "save")),
        ("__function_onSave", .plain (.str "save")), ("title", .bound "v"),
        ("__function_onDrop", .plain (.int 2)), ("__function___function_x", .plain (.str "gone"))]
    let attributes := Attribute.ofProps (Scope.ofVariables vars) props
    let names := attributes.map Attribute.name
    (Entries.keys props).Nodup ∧ names = ["title", "", "onSave", "__function_x"] ∧
      (attributesCode? attributes).isSome = true ∧ ∃ resolved warnings,
        (Resolver.mk vars [] (some functions)).props? (Entries.mapValues Term.ofProp props) =
          some (resolved, warnings) ∧
        names.Perm (Entries.keys resolved) ∧
        Entries.get? resolved "onSave" = some (.function ⟨none, none, none⟩) := by
  intro vars functions props attributes names
  have hkeys : (Entries.keys props).Nodup := by decide
  obtain ⟨hwritten, hresolves, -, -, -, hperm, hnamed, -⟩ :=
    emits_resolved_keys vars [] functions hkeys
  obtain ⟨-, hsave⟩ := hnamed "onSave" "save" (by simp [props, functionPrefix])
  obtain ⟨⟨resolved, warnings⟩, hresolved⟩ :=
    Option.isSome_iff_exists.mp (hresolves.mpr (by decide +kernel))
  exact ⟨hkeys, by decide +kernel, hwritten.mpr (by decide +kernel), resolved, warnings, hresolved,
    hperm resolved warnings hresolved, hsave resolved warnings hresolved⟩

/-- A whole number of 4301 digits is resolved under its key, but no attributes are written. -/
theorem no_attribute_of_long_number :
    let n : Int := Int.ofNat (Nat.pow 10 4300)
    let props : Props := [("x", .plain (.int n))]
    let resolved : Entries Term := [("x", .leaf (.int n))]
    (Entries.keys props).Nodup ∧
      (Resolver.mk [] [] (some [])).props? (Entries.mapValues Term.ofProp props) =
        some (resolved, []) ∧
      attributesCode? (Attribute.ofProps (Scope.ofVariables []) props) = none := by
  intro n props resolved
  exact ⟨List.nodup_singleton _, (unwritten_of_long_number _ isWritable_pow).2⟩

end LayerDoc.Tsx
