import LayerDoc.Editor
import LayerDoc.Proofs.Identifier
import LayerDoc.Proofs.Supply

/-!
# Names of variables in generated code

Each variable is given an identifier in its turn, by its own name and by what was given to those
before it (`Identifier.distinct_and_kept`). So variables that come later rename nothing: what is
declared for those before them and what refers to them stays as it is (`Compiler.KeepsNames`).
-/

namespace LayerDoc

namespace Tsx

/-- What one compiler declares for its variables, and what refers to them, is the same with another
one, which may know more variables. -/
structure Compiler.KeepsNames (c d : Compiler) : Prop where
  members : ∀ v ∈ c.vars, d.scope.memberOf v = c.scope.memberOf v
  references : ∀ id ∈ c.vars.map Variable.id, d.scope.reference id = c.scope.reference id
  declared : ∃ added, d.variableMembers = c.variableMembers ++ added

namespace Compiler.KeepsNames

/-- More variables with new ids rename nothing. -/
theorem of_appended {c d : Compiler} {more : List Variable} (hvars : d.vars = c.vars ++ more)
    (hnew : ∀ w ∈ more, w.id ∉ c.vars.map Variable.id) : c.KeepsNames d := by
  have hmembers : ∀ v ∈ c.vars, d.scope.memberOf v = c.scope.memberOf v := by
    intro v hv
    have hget := Identifier.get?_ofVariables_append hnew (List.mem_map_of_mem hv)
    rw [scope, scope, Scope.memberOf, Scope.memberOf, Scope.ofVariables, Scope.ofVariables, hvars,
      hget]
  refine ⟨hmembers, fun id hid => ?_, ?_⟩
  · obtain ⟨v, hv, rfl⟩ := List.mem_map.mp hid
    have hfound : (Variable.find? c.vars v.id).isSome = true :=
      List.find?_isSome.mpr ⟨v, hv, beq_self_eq_true v.id⟩
    obtain ⟨first, hfirst⟩ := Option.isSome_iff_exists.mp hfound
    have hfirst' : Variable.find? d.vars v.id = some first := by
      rw [Variable.find?, hvars, List.find?_append, ← Variable.find?, hfirst, Option.some_or]
    rw [Scope.reference, Scope.reference, scope, scope, Scope.ofVariables, Scope.ofVariables]
    simp only [hfirst, hfirst']
    exact congrArg (Expr.member _) (hmembers first (List.mem_of_find?_eq_some hfirst))
  · refine ⟨((more.filter fun v => !v.isFunction).map fun v =>
      ⟨d.scope.memberOf v, memberType v.type⟩), ?_⟩
    rw [variableMembers, variableMembers, hvars, List.filter_append, List.map_append]
    refine congrArg (· ++ _) (List.map_congr_left fun v hv => ?_)
    rw [hmembers v (List.mem_filter.mp hv).1]

end Compiler.KeepsNames

end Tsx

/-- A variable that is added to a document gets a new id, or the document stays as it is. -/
theorem Editor.vars_run_addVariable (e : Editor) (name type default : Value) :
    ∃ added : List Variable, (∀ w ∈ added, w.id = e.supply.next.1) ∧
      (e.run (.addVariable name type default)).editor.document.vars = e.document.vars ++ added := by
  simp only [run, Store.addVariable]
  split
  · next text kind _ _ => exact ⟨[⟨_, text, kind, default⟩], by simp, rfl⟩
  · exact ⟨[], by simp, (List.append_nil _).symm⟩

namespace Identifier

/-- The identifiers of variables, whatever their names and also if ids occur more than once:

* every id has an identifier, which is one by its form;
* different ids have different identifiers;
* in its turn each variable is given the base that its name gives, if no variable before it was
  given this, or else the base with the least number that was not given out; such a number is always
  there. Of variables that share an id the last counts;
* variables with new ids that come after others are given theirs behind them and rename nothing in
  generated code, and nor does a variable that is added in an editor. -/
theorem distinct_and_kept (vars : List Variable) :
    (∀ v ∈ vars, ∃ identifier, Entries.get? (ofVariables vars) v.id = some identifier ∧
      isValid identifier.toList = true) ∧
    (∀ v ∈ vars, ∀ w ∈ vars, v.id ≠ w.id →
      Entries.get? (ofVariables vars) v.id ≠ Entries.get? (ofVariables vars) w.id) ∧
    (∀ before v after, vars = before ++ v :: after → ∃ identifier rest,
      Takes (ofName v.name) (issued before) identifier ∧
      issued vars = issued before ++ identifier :: rest ∧
      (v.id ∉ after.map Variable.id →
        Entries.get? (ofVariables vars) v.id = some identifier)) ∧
    (∀ more : List Variable, (∀ w ∈ more, w.id ∉ vars.map Variable.id) →
      (∃ added, ofVariables (vars ++ more) = ofVariables vars ++ added) ∧
      ∀ c d : Tsx.Compiler, c.vars = vars → d.vars = vars ++ more → c.KeepsNames d) ∧
    ∀ e : Editor, e.document.vars = vars → e.supply.FreshFor (vars.map Variable.id) →
      ∀ name type default,
        e.compiler.KeepsNames (e.run (.addVariable name type default)).editor.compiler := by
  refine ⟨fun v hv => ?_, fun v hv w hw hne hsame => ?_, ?_, fun more hnew => ⟨?_, ?_⟩, ?_⟩
  · obtain ⟨identifier, hget⟩ := exists_mem_ofVariables hv
    exact ⟨identifier, hget, isValid_of_get?_ofVariables hget⟩
  · obtain ⟨identifier, hget⟩ := exists_mem_ofVariables hv
    exact hne (eq_of_get?_ofVariables hget (hsame ▸ hget))
  · rintro before v after rfl
    obtain ⟨identifier, rest, htakes, hsplit, hkeys⟩ := exists_takes before v after
    refine ⟨identifier, rest.map Prod.snd, htakes, ?_, get?_ofVariables_of_last hsplit hkeys⟩
    rw [issued, hsplit, List.map_append, List.map_cons, issued]
  · exact ofVariables_append hnew
  · rintro c d rfl hvars
    exact .of_appended hvars hnew
  · rintro e rfl hfresh name type default
    obtain ⟨added, hids, hvars⟩ := e.vars_run_addVariable name type default
    refine .of_appended hvars fun w hw => ?_
    rw [hids w hw]
    exact hfresh _ (Nat.le_refl _)

/-- Four variables share a base or collide with a numbered one, and a fifth has the name of such a
one: the third takes the number two, since one is taken, and the fifth takes a number behind that of
its own name. -/
theorem kept_of_five_counts :
    let var (id name : String) : Variable := ⟨id, name, .string, .null⟩
    let before := [var "a" "count", var "b" "count1"]
    let vars := before ++ var "c" " count " :: [var "d" "Count!"]
    let more := [var "e" "count1"]
    let page : Layer := .node ⟨.page, "p", pageType, none, [("title", .bound "c")], []⟩ (.layers [])
    let e := Editor.start [] [] .default (some ⟨[page], "p", none, vars⟩) .start
    ((var "c" " count " ∈ vars ∧ ∃ identifier,
        Entries.get? (ofVariables vars) "c" = some identifier ∧
        isValid identifier.toList = true) ∧
      (var "b" "count1" ∈ vars ∧ "c" ≠ "b" ∧
        Entries.get? (ofVariables vars) "c" ≠ Entries.get? (ofVariables vars) "b") ∧
      ("c" ∉ [var "d" "Count!"].map Variable.id ∧ ∃ identifier,
        Takes (ofName " count ") (issued before) identifier ∧
        Entries.get? (ofVariables vars) "c" = some identifier)) ∧
    ((∀ w ∈ more, w.id ∉ vars.map Variable.id) ∧
      (∃ added, ofVariables (vars ++ more) = ofVariables vars ++ added) ∧
      Tsx.Compiler.KeepsNames ⟨[], vars, [], []⟩ ⟨[], vars ++ more, [], []⟩) ∧
    (e.supply.FreshFor (vars.map Variable.id) ∧ e.compiler.KeepsNames
      (e.run (.addVariable (.str "count1") (.str "string") .null)).editor.compiler) ∧
    ofVariables (vars ++ more) =
      [("a", "count"), ("b", "count1"), ("c", "count2"), ("d", "count3"), ("e", "count11")] := by
  intro var before vars more page e
  obtain ⟨hform, hapart, hturn, happend, hedit⟩ := distinct_and_kept vars
  have hc : var "c" " count " ∈ vars := by simp [vars]
  have hb : var "b" "count1" ∈ vars := by simp [vars, before]
  have hne : "c" ≠ "b" := by decide
  have hlast : "c" ∉ [var "d" "Count!"].map Variable.id := by decide
  have hnew : ∀ w ∈ more, w.id ∉ vars.map Variable.id := by decide
  have hfresh : e.supply.FreshFor (vars.map Variable.id) :=
    Supply.freshFor_of_label_eq rfl (by decide)
  obtain ⟨identifier, -, htakes, -, hget⟩ := hturn before (var "c" " count ") _ rfl
  exact ⟨⟨⟨hc, hform _ hc⟩, ⟨hb, hne, hapart _ hc _ hb hne⟩,
      hlast, identifier, htakes, hget hlast⟩,
    ⟨hnew, (happend more hnew).1, (happend more hnew).2 _ _ rfl rfl⟩,
    ⟨hfresh, hedit e rfl hfresh _ _ _⟩, by decide +kernel⟩

end Identifier

end LayerDoc
