import LayerDoc.Proofs.Tsx.Closed
import LayerDoc.Proofs.Tsx.Meaning

/-!
# The interface of a generated page

The members that a page declares, and what its expressions make of them. A member of the functions
is declared with the type of the first function variable with this identifier, or else of the
registered function with this id (`Compiler.mem_functionMembers_iff`). The interface is unambiguous
(`Compiler.Unambiguous`) if no two variables that are no functions share an id and no key names a
function by the identifier of a function variable that stands for another one
(`Compiler.unambiguous_moduleOf`); both conditions are needed
(`Compiler.ambiguous_on_clashes`).
-/

namespace LayerDoc.Tsx

/-! ## Members of distinct names -/

theorem nodup_names_firstOfName {seen members : List Member}
    (h : (seen.map Member.name).Nodup) :
    ((firstOfName seen members).map Member.name).Nodup := by
  induction members generalizing seen with
  | nil => simpa [firstOfName, List.map_reverse] using h
  | cons m rest ih =>
    rw [firstOfName]
    split
    · exact ih h
    · next hnew =>
      refine ih (List.nodup_cons.mpr ⟨?_, h⟩)
      simpa using hnew

/-- The member that is found under a name is the first one. -/
theorem find?_firstOfName (seen members : List Member) (name : String) :
    (firstOfName seen members).find? (·.name == name) =
      (seen.reverse ++ members).find? (·.name == name) := by
  induction members generalizing seen with
  | nil => rw [firstOfName, List.append_nil]
  | cons m rest ih =>
    rw [firstOfName]
    split
    · next hseen =>
      obtain ⟨first, hfirst, hsame⟩ := List.any_eq_true.mp hseen
      rw [ih, List.find?_append, List.find?_append, List.find?_cons]
      by_cases hname : m.name = name
      · -- the name was seen before, so what comes after does not matter
        have hfound : (seen.reverse.find? (·.name == name)).isSome = true := by
          refine List.find?_isSome.mpr ⟨first, List.mem_reverse.mpr hfirst, ?_⟩
          rw [← hname]
          exact hsame
        rw [Option.or_of_isSome hfound, Option.or_of_isSome hfound]
      · rw [beq_eq_false_iff_ne.mpr hname]
    · rw [ih, List.reverse_cons, List.append_assoc, List.singleton_append]

theorem mem_iff_find?_name {members : List Member} (h : (members.map Member.name).Nodup)
    {m : Member} : m ∈ members ↔ members.find? (·.name == m.name) = some m := by
  refine ⟨fun hm => ?_, List.mem_of_find?_eq_some⟩
  have hsome : (members.find? (·.name == m.name)).isSome = true :=
    List.find?_isSome.mpr ⟨m, hm, beq_self_eq_true m.name⟩
  obtain ⟨found, hfound⟩ := Option.isSome_iff_exists.mp hsome
  have hname : found.name = m.name := by simpa using List.find?_some hfound
  rw [hfound, List.inj_on_of_nodup_map h (List.mem_of_find?_eq_some hfound) hm hname]

/-! ## Identifiers of variables -/

namespace Scope

theorem groupOf_eq_functions_iff {v : Variable} :
    groupOf v = .functions ↔ v.isFunction = true := by
  cases h : v.isFunction <;> simp [groupOf, h]

theorem groupOf_eq_vars_iff {v : Variable} : groupOf v = .vars ↔ v.isFunction = false := by
  cases h : v.isFunction <;> simp [groupOf, h]

/-- A reference becomes the member of the first variable with its id. -/
theorem reference_eq_member_iff {s : Scope} {variableId name : String} {group : Group} :
    s.reference variableId = .member group name ↔
      ∃ v, Variable.find? s.vars variableId = some v ∧ groupOf v = group ∧ s.memberOf v = name := by
  rw [reference]
  cases Variable.find? s.vars variableId with
  | none => simp
  | some v => simp

theorem memberOf_eq_iff {vars : List Variable} {v w : Variable} (hv : v ∈ vars) (hw : w ∈ vars) :
    (ofVariables vars).memberOf v = (ofVariables vars).memberOf w ↔ v.id = w.id := by
  refine ⟨fun h => ?_, fun h => by rw [memberOf, memberOf, h]⟩
  have hv' := Entries.mem_of_get?_eq_some (get?_identifiers hv)
  have hw' := Entries.mem_of_get?_eq_some (get?_identifiers hw)
  have hsame := List.inj_on_of_nodup_map (Identifier.nodup_values_ofVariables vars) hv' hw' h
  exact congrArg Prod.fst hsame

end Scope

namespace Compiler

variable (c : Compiler) (page : Layer)

/-- The function variable that a member of the functions stands for: the first one with this
identifier. -/
def functionVariable? (name : String) : Option Variable :=
  c.vars.find? fun v => v.isFunction && c.scope.memberOf v == name

/-- The function variable that a reference finds is the one that its member stands for. -/
theorem functionVariable?_memberOf {v : Variable} (hfind : Variable.find? c.vars v.id = some v)
    (hfunction : v.isFunction = true) : c.functionVariable? (c.scope.memberOf v) = some v := by
  have hv := List.mem_of_find?_eq_some hfind
  have hsame : ∀ w ∈ c.vars, (w.isFunction && c.scope.memberOf w == c.scope.memberOf v) = true →
      (w.id == v.id) = true := by
    intro w hw hmember
    rw [Bool.and_eq_true, beq_iff_eq] at hmember
    exact beq_iff_eq.mpr ((Scope.memberOf_eq_iff hw hv).mp hmember.2)
  obtain ⟨hid, before, after, hvars, hbefore⟩ := List.find?_eq_some_iff_append.mp hfind
  refine List.find?_eq_some_iff_append.mpr ⟨by simp [hfunction], before, after, hvars, ?_⟩
  intro w hw
  have hw' : w ∈ c.vars := by
    rw [hvars]
    exact List.mem_append_left _ hw
  cases hmember : w.isFunction && c.scope.memberOf w == c.scope.memberOf v with
  | false => rfl
  | true => simpa [hsame w hw' hmember] using hbefore w hw

/-! ## What is declared -/

theorem nodup_names_functionMembers : ((c.functionMembers page).map Member.name).Nodup :=
  nodup_names_firstOfName List.nodup_nil

/-- The function that a member of the functions stands for, if it is known which. -/
def functionId? (name : String) : Option String :=
  match c.functionVariable? name with
  | some v => v.default.str?
  | none => some name

theorem find?_functionMembers (name : String) :
    (c.functionMembers page).find? (·.name == name) =
      ((c.functionVariable? name).map c.functionVariableMember).or
        (((namedFunctions [page]).find? (· == name)).map fun id =>
          ⟨id, FunctionDef.codeOf (Entries.get? c.functions id)⟩) := by
  rw [functionMembers, find?_firstOfName, List.reverse_nil, List.nil_append, List.find?_append,
    List.find?_map, List.find?_filter, List.find?_map]
  congr 2
  refine congrArg (c.vars.find? ·) (funext fun v => Bool.eq_iff_iff.mpr ?_)
  simp [functionVariableMember]

/-- What is declared under a name in the group of functions: it is the identifier of a function
variable or the id of a function that a key names, and the type is that of the function that the
member stands for. -/
theorem mem_functionMembers_iff {m : Member} :
    m ∈ c.functionMembers page ↔
      ((c.functionVariable? m.name).isSome = true ∨ m.name ∈ namedFunctions [page]) ∧
        m.type = FunctionDef.codeOf ((c.functionId? m.name).bind (Entries.get? c.functions ·)) := by
  obtain ⟨name, type⟩ := m
  rw [mem_iff_find?_name (c.nodup_names_functionMembers page), find?_functionMembers, functionId?]
  cases hvariable : c.functionVariable? name with
  | some v =>
    have hname : c.scope.memberOf v = name := by
      have := List.find?_some hvariable
      simp only [Bool.and_eq_true, beq_iff_eq] at this
      exact this.2
    simp [functionVariableMember, hname, eq_comm]
  | none =>
    cases hnamed : (namedFunctions [page]).find? (· == name) with
    | none =>
      have hnot : name ∉ namedFunctions [page] := fun hmem =>
        List.find?_eq_none.mp hnamed name hmem (beq_self_eq_true name)
      simp [hnot]
    | some id =>
      have hid : id = name := by simpa using List.find?_some hnamed
      have hmem : name ∈ namedFunctions [page] := hid ▸ List.mem_of_find?_eq_some hnamed
      simp [hid, hmem, eq_comm]

theorem nodup_names_variableMembers_iff :
    (c.variableMembers.map Member.name).Nodup ↔
      ((c.vars.filter fun v => !v.isFunction).map Variable.id).Nodup := by
  rw [variableMembers, List.map_map, List.nodup_iff_pairwise_ne, List.nodup_iff_pairwise_ne,
    List.pairwise_map, List.pairwise_map]
  refine List.Pairwise.iff_of_mem fun {v w} hv hw => not_congr ?_
  exact Scope.memberOf_eq_iff (List.mem_filter.mp hv).1 (List.mem_filter.mp hw).1

end Compiler

/-! ## Unambiguous interfaces -/

/-- The function that a use points at, if it points at one: the one that a key names, or the one
that the default of a function variable names, which may name none. -/
def Use.function? (vars : List Variable) : Use → Option (Option String)
  | .function id => some (some id)
  | .reference variableId =>
    match Variable.find? vars variableId with
    | some v => if v.isFunction then some v.default.str? else none
    | none => none
  | .plain _ => none

/-- The interface of a page says one thing of each member, and the right one. -/
structure Compiler.Unambiguous (c : Compiler) (page : Layer) : Prop where
  /-- No name is declared twice in a group. -/
  distinct : ∀ group, (((c.moduleOf page).members group).map Member.name).Nodup
  /-- A reference that becomes a member of the variables is to a variable of the declared type. -/
  typed : ∀ variableId name, c.scope.reference variableId = .member .vars name →
    ∃ v, Variable.find? c.vars variableId = some v ∧
      ⟨name, memberType v.type⟩ ∈ (c.moduleOf page).members .vars
  /-- A use that becomes a member of the functions points at a function of the declared type. -/
  signed : ∀ use ∈ Use.ofPage c page, ∀ name, use.expr c.scope = .member .functions name →
    ∃ id, use.function? c.vars = some id ∧
      ⟨name, FunctionDef.codeOf (id.bind (Entries.get? c.functions ·))⟩ ∈
        (c.moduleOf page).members .functions
  /-- Uses that become one member of the functions point at one function. -/
  apart : ∀ use ∈ Use.ofPage c page, ∀ other ∈ Use.ofPage c page, ∀ name,
    use.expr c.scope = .member .functions name → other.expr c.scope = .member .functions name →
      use.function? c.vars = other.function? c.vars

namespace Compiler

variable {c : Compiler} {page : Layer}

/-- Every function that a key names is one that its name stands for: no function variable has its id
for an identifier, unless its default is this id as well. -/
def NamesApart (c : Compiler) (page : Layer) : Prop :=
  ∀ id, Use.function id ∈ Use.ofPage c page → c.functionId? id = some id

/-- A reference that becomes a member of the functions is to the function variable that the member
stands for. -/
theorem functionVariable?_of_reference {variableId name : String}
    (h : c.scope.reference variableId = .member .functions name) :
    ∃ v, Variable.find? c.vars variableId = some v ∧ v.isFunction = true ∧
      c.functionVariable? name = some v := by
  obtain ⟨v, hfind, hgroup, rfl⟩ := Scope.reference_eq_member_iff.mp h
  have hfunction : v.isFunction = true := Scope.groupOf_eq_functions_iff.mp hgroup
  have hid : v.id = variableId := by simpa using List.find?_some hfind
  exact ⟨v, hfind, hfunction, c.functionVariable?_memberOf (hid.symm ▸ hfind) hfunction⟩

/-- A use that becomes a member of the functions is declared, with the type of the function that the
member stands for. -/
theorem declared_of_use {use : Use} (huse : use ∈ Use.ofPage c page) {name : String}
    (hexpr : use.expr c.scope = .member .functions name) :
    ⟨name, FunctionDef.codeOf ((c.functionId? name).bind (Entries.get? c.functions ·))⟩ ∈
      (c.moduleOf page).members .functions := by
  refine (c.mem_functionMembers_iff page).mpr ⟨?_, rfl⟩
  cases use with
  | plain value => cases hexpr
  | function id =>
    cases hexpr
    exact Or.inr (mem_namedFunctions_of_use huse)
  | reference variableId =>
    obtain ⟨v, -, -, hvariable⟩ := functionVariable?_of_reference hexpr
    exact Or.inl (by rw [hvariable]; rfl)

theorem function?_eq_functionId? (hnames : c.NamesApart page) {use : Use}
    (huse : use ∈ Use.ofPage c page) {name : String}
    (hexpr : use.expr c.scope = .member .functions name) :
    use.function? c.vars = some (c.functionId? name) := by
  cases use with
  | plain value => cases hexpr
  | function id =>
    cases hexpr
    exact congrArg some (hnames _ huse).symm
  | reference variableId =>
    obtain ⟨v, hfind, hfunction, hvariable⟩ := functionVariable?_of_reference hexpr
    simp [Use.function?, hfind, hfunction, functionId?, hvariable]

theorem unambiguous_moduleOf
    (hids : ((c.vars.filter fun v => !v.isFunction).map Variable.id).Nodup)
    (hnames : c.NamesApart page) : c.Unambiguous page := by
  refine ⟨fun group => ?_, fun variableId name hexpr => ?_, fun use huse name hexpr => ?_,
    fun use huse other hother name hexpr hexpr' => ?_⟩
  · cases group with
    | vars => exact c.nodup_names_variableMembers_iff.mpr hids
    | functions => exact c.nodup_names_functionMembers page
  · obtain ⟨v, hfind, hgroup, rfl⟩ := Scope.reference_eq_member_iff.mp hexpr
    have hfunction : v.isFunction = false := Scope.groupOf_eq_vars_iff.mp hgroup
    refine ⟨v, hfind, List.mem_map.mpr ⟨v, List.mem_filter.mpr ⟨?_, by simp [hfunction]⟩, rfl⟩⟩
    exact List.mem_of_find?_eq_some hfind
  · exact ⟨_, function?_eq_functionId? hnames huse hexpr, declared_of_use huse hexpr⟩
  · rw [function?_eq_functionId? hnames huse hexpr, function?_eq_functionId? hnames hother hexpr']

/-- The interface of a page. In the group of functions no name is declared twice, and every member
that is emitted is declared with the type of the function that its name stands for: that of the
first function variable with this identifier, or else the one with this id. In the group of
variables no name is declared twice exactly if no two variables of the group share an id. If they do
not, and no key names a function whose id is the identifier of a function variable that stands for
another one, the interface is unambiguous. -/
theorem interface_moduleOf (c : Compiler) (page : Layer) :
    ((c.moduleOf page).functions.map Member.name).Nodup ∧
    (∀ use ∈ Use.ofPage c page, ∀ name, use.expr c.scope = .member .functions name →
      ⟨name, FunctionDef.codeOf ((c.functionId? name).bind (Entries.get? c.functions ·))⟩ ∈
        (c.moduleOf page).functions) ∧
    (((c.moduleOf page).vars.map Member.name).Nodup ↔
      ((c.vars.filter fun v => !v.isFunction).map Variable.id).Nodup) ∧
    (((c.vars.filter fun v => !v.isFunction).map Variable.id).Nodup → c.NamesApart page →
      c.Unambiguous page) :=
  ⟨c.nodup_names_functionMembers page, fun _ huse _ hexpr => declared_of_use huse hexpr,
    c.nodup_names_variableMembers_iff, unambiguous_moduleOf⟩

/-- A text variable and a function variable share an id, two variables share a name, and keys name a
function that a variable stands for too and one that nothing is known of. -/
theorem unambiguous_of_shared_names :
    let c : Compiler := ⟨[], [⟨"a", "title", .string, .str "Home"⟩,
      ⟨"a", "save", .function, .str "save"⟩, ⟨"b", "save", .number, .int 1⟩,
      ⟨"d", "load", .function, .str "load"⟩],
      [("save", ⟨none, some "(data: number) => void", none⟩), ("load", ⟨none, none, none⟩)], []⟩
    let page : Layer := .node ⟨.page, "p", pageType, none, [("title", .bound "a"),
      ("onClick", .bound "d"), ("__function_onLoad", .plain (.str "load")),
      ("__function_onDrop", .plain (.str "drop"))], []⟩ (.layers [])
    ((c.vars.filter fun v => !v.isFunction).map Variable.id).Nodup ∧ c.NamesApart page ∧
      c.Unambiguous page := by
  intro c page
  have hids : ((c.vars.filter fun v => !v.isFunction).map Variable.id).Nodup := by decide
  have hnames : c.NamesApart page := by
    intro id hid
    have hnamed : id ∈ ["load", "drop"] := mem_namedFunctions_of_use hid
    simp only [List.mem_cons, List.not_mem_nil, or_false] at hnamed
    rcases hnamed with rfl | rfl <;> decide +kernel
  exact ⟨hids, hnames, (interface_moduleOf c page).2.2.2 hids hnames⟩

/-- Both conditions are needed. Of two variables with one id both are declared, under one name and
with different types. A function variable that stands for one function has the id of another one,
which a key names, for its identifier: both become one member, which is declared as the first. The
data is accepted as that of a document. -/
theorem ambiguous_on_clashes :
    let shared : List Variable := [⟨"v", "first", .string, .null⟩, ⟨"v", "second", .number, .null⟩]
    let empty : Layer := .node ⟨.page, "p", pageType, none, [], []⟩ (.layers [])
    let first : Compiler := ⟨[], shared, [], []⟩
    let vars : List Variable := [⟨"v", "save", .function, .str "open"⟩]
    let page : Layer := .node ⟨.page, "p", pageType, none, [("onClick", .bound "v"),
      ("__function_onDrop", .plain (.str "save"))], []⟩ (.layers [])
    let second : Compiler := ⟨[], vars, [("open", ⟨none, some "(url: string) => void", none⟩),
      ("save", ⟨none, some "(data: number) => void", none⟩)], []⟩
    (Document.assemble [empty] none none shared = .ok ⟨[empty], "p", none, shared⟩ ∧
      (first.moduleOf empty).vars = [⟨"second", "string"⟩, ⟨"second", "number"⟩] ∧
      ¬ first.Unambiguous empty) ∧
    Document.assemble [page] none none vars = .ok ⟨[page], "p", none, vars⟩ ∧
      (second.moduleOf page).functions = [⟨"save", "(url: string) => void"⟩] ∧
      ((second.moduleOf page).root.map fun a => (a.name, a.code)) =
        [("onClick", "onClick=" ++ Text.braced "functions.save"),
          ("onDrop", "onDrop=" ++ Text.braced "functions.save")] ∧
      ¬ second.Unambiguous page := by
  intro shared empty first vars page second
  have hvars : (first.moduleOf empty).vars = [⟨"second", "string"⟩, ⟨"second", "number"⟩] := by
    decide +kernel
  refine ⟨⟨rfl, hvars, fun h => ?_⟩, rfl, by decide +kernel, by decide +kernel, fun h => ?_⟩
  · have hdistinct := h.distinct .vars
    rw [Module.members, hvars] at hdistinct
    exact absurd hdistinct (by decide)
  · have huses : Use.ofPage second page = [.reference "v", .function "save"] := rfl
    have hreference : second.scope.reference "v" = .member .functions "save" :=
      Scope.reference_eq_member_iff.mpr ⟨_, rfl, rfl, by decide +kernel⟩
    have hsame := h.apart (.reference "v") (by simp [huses]) (.function "save") (by simp [huses])
      "save" hreference rfl
    exact absurd hsame (by decide)

end Compiler

end LayerDoc.Tsx
