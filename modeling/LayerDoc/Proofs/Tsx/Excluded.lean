import LayerDoc.Proofs.Forest.Listing
import LayerDoc.Proofs.Tsx.Meaning
import LayerDoc.Tsx.Page

/-!
# Props that are kept from the root element

A compiler keeps some props of a page from the root element. An attribute with the name of such a
prop can only come from another key, which names a function for it
(`Compiler.exists_key_of_excluded`). What stands under the keys that are kept back leaves no trace
in the text of the page (`Compiler.moduleOf_eq_of_unnamed`), but for the functions that such keys
name, which are declared all the same (`Compiler.parts_eq_of_agree`).
-/

namespace LayerDoc

/-- Two lists of props are one list once all entries with hidden keys are taken away. -/
def Props.Agree (hidden : String → Bool) (props others : Props) : Prop :=
  props.filter (fun p => !hidden p.1) = others.filter fun p => !hidden p.1

theorem Props.Agree.mono {hidden more : String → Bool} {props others : Props}
    (h : props.Agree hidden others) (hmore : ∀ key, hidden key = true → more key = true) :
    props.Agree more others := by
  have hfilter : ∀ es : Props, es.filter (fun p => !more p.1) =
      (es.filter fun p => !hidden p.1).filter fun p => !more p.1 := by
    intro es
    rw [List.filter_filter]
    refine List.filter_congr fun p _ => ?_
    cases hhidden : hidden p.1 with
    | false => simp
    | true => simp [hmore p.1 hhidden]
  rw [Agree, hfilter props, hfilter others, h]

namespace Tsx

theorem functionProps_of_agree {hidden : String → Bool} {props others : Props}
    (h : props.Agree hidden others)
    (hhidden : ∀ key, hidden key = true → functionProp? key = none) :
    functionProps props = functionProps others := by
  have hfilter : ∀ es : Props,
      functionProps es = functionProps (es.filter fun p => !hidden p.1) := by
    intro es
    rw [functionProps, functionProps, List.filterMap_filter]
    refine List.filterMap_congr fun p _ => ?_
    cases hkey : hidden p.1 with
    | false => rfl
    | true =>
      rw [hhidden p.1 hkey]
      split <;> rfl
  rw [hfilter props, hfilter others, h]

namespace Compiler

variable (c : Compiler) {p q : Layer}

theorem namedFunctions_page (page : Layer) :
    namedFunctions [page] =
      (functionProps page.props).map Prod.snd ++ namedFunctions page.children := by
  rw [namedFunctions, Forest.preorder_cons, Layer.preorder_eq, Forest.preorder_nil, List.append_nil,
    List.flatMap_cons, namedFunctions]

/-- An attribute of the root element that has the name of a prop that is kept from it is a function
that another key of the page names. -/
theorem exists_key_of_excluded {page : Layer} {a : Attribute} (ha : a ∈ (c.moduleOf page).root)
    (hname : a.name ∈ c.excluded) :
    ∃ id, a.value = .member .functions id ∧
      (functionPrefix ++ a.name, .plain (.str id)) ∈ page.props ∧
      functionPrefix ++ a.name ∉ c.excluded := by
  rcases List.mem_append.mp ha with ha | ha
  · -- what is not named by a key has the name of its prop
    obtain ⟨prop, hprop, rfl⟩ := List.mem_map.mp ha
    have hkept := (List.mem_filter.mp (List.mem_filter.mp hprop).1).2
    rw [name_ofProp] at hname
    simp [hname] at hkept
  · obtain ⟨f, hf, rfl⟩ := List.mem_map.mp ha
    obtain ⟨⟨key, value⟩, hprop, hvalue⟩ := List.mem_filterMap.mp hf
    obtain ⟨hpage, hkept⟩ := List.mem_filter.mp hprop
    split at hvalue
    · next id hid =>
      obtain ⟨name, hkey, rfl⟩ := Option.map_eq_some_iff.mp hvalue
      cases hid
      obtain rfl := functionProp?_eq_some_iff.mp hkey
      exact ⟨id, rfl, hpage, by simpa using hkept⟩
    · cases hvalue

variable {c}

/-- Pages that agree but for what is kept from the root element have the same parts, apart from the
group of functions. -/
theorem parts_eq_of_agree (hchildren : p.children = q.children)
    (h : p.props.Agree c.excluded.contains q.props) :
    c.moduleOf p = { c.moduleOf q with functions := c.functionMembers p } := by
  have hroot : c.rootProps p = c.rootProps q := h
  rw [moduleOf, moduleOf, hchildren, hroot]

/-- Pages that agree but for what is kept from the root element, and on which keys name the same
functions, have the same parts. -/
theorem moduleOf_eq_of_agree (hchildren : p.children = q.children)
    (h : p.props.Agree c.excluded.contains q.props)
    (hnamed : (functionProps p.props).map Prod.snd = (functionProps q.props).map Prod.snd) :
    c.moduleOf p = c.moduleOf q := by
  have hfunctions : c.functionMembers p = (c.moduleOf q).functions := by
    rw [functionMembers, namedFunctions_page, hnamed, hchildren, moduleOf, functionMembers,
      namedFunctions_page q]
  rw [parts_eq_of_agree hchildren h, hfunctions]

/-- What is kept from the root element and names no function leaves no trace. -/
theorem moduleOf_eq_of_unnamed (hchildren : p.children = q.children)
    (h : p.props.Agree (fun key => c.excluded.contains key && (functionProp? key).isNone) q.props) :
    c.moduleOf p = c.moduleOf q := by
  refine moduleOf_eq_of_agree hchildren
    (h.mono fun key hkey => (Bool.and_eq_true_iff.mp hkey).1) ?_
  rw [functionProps_of_agree h fun key hkey => by simpa using (Bool.and_eq_true_iff.mp hkey).2]

/-- What is kept from the root element does not reach generated code. An attribute of the root
element with the name of a prop that is kept from it comes from a key that is not kept back and that
names a function for the prop. Two pages with the same children whose props agree but for what is
kept back have the same parts, apart from the functions that are declared; they have one text if
keys name the same functions on them, and so if no key that is kept back names a function. -/
theorem excluded_unseen (c : Compiler) :
    (∀ page, ∀ a ∈ (c.moduleOf page).root, a.name ∈ c.excluded →
      ∃ id, a.value = .member .functions id ∧
        (functionPrefix ++ a.name, .plain (.str id)) ∈ page.props ∧
        functionPrefix ++ a.name ∉ c.excluded) ∧
    ∀ p q : Layer, p.children = q.children →
      (p.props.Agree c.excluded.contains q.props →
        c.moduleOf p = { c.moduleOf q with functions := (c.moduleOf p).functions } ∧
        ((functionProps p.props).map Prod.snd = (functionProps q.props).map Prod.snd →
          c.code? p = c.code? q)) ∧
      (p.props.Agree (fun key => c.excluded.contains key && (functionProp? key).isNone) q.props →
        c.code? p = c.code? q) := by
  refine ⟨fun page a => c.exists_key_of_excluded, fun p q hchildren => ⟨fun h => ?_, fun h => ?_⟩⟩
  · refine ⟨parts_eq_of_agree hchildren h, fun hnamed => ?_⟩
    rw [code?, code?, moduleOf_eq_of_agree hchildren h hnamed]
  · rw [code?, code?, moduleOf_eq_of_unnamed hchildren h]

/-- The mode of a page is kept from the root element, also where it is a reference, and so is a key
that names the function of a click; a key that names a function for the mode is not. -/
theorem excluded_unseen_of_themed_pages :
    let c : Compiler := ⟨[], [⟨"v", "dark", .string, .str "dark"⟩], [],
      ["mode", "__function_onClick"]⟩
    let page (mode : PropValue) (handler : String) : Layer := .node ⟨.page, "p", pageType, none,
      [("mode", mode), ("title", .plain (.str "Home")),
        ("__function_onClick", .plain (.str handler)), ("__function_mode", .plain (.str "h"))], []⟩
      (.layers [.node ⟨.component, "a", "Box", none, [("mode", .bound "v")], []⟩ (.text "x")])
    (∃ id, Expr.member .functions "h" = .member .functions id ∧
      (functionPrefix ++ "mode", .plain (.str id)) ∈ (page (.bound "v") "f").props ∧
      functionPrefix ++ "mode" ∉ c.excluded) ∧
    c.code? (page (.plain (.str "light")) "f") = c.code? (page (.bound "v") "f") ∧
    c.code? (page (.plain .null) "f") = c.code? (page (.bound "v") "f") ∧
    c.moduleOf (page (.bound "v") "f") =
      { c.moduleOf (page (.bound "v") "g") with
        functions := [⟨"f", FunctionDef.codeOf none⟩, ⟨"h", FunctionDef.codeOf none⟩] } := by
  intro c page
  obtain ⟨hroot, hpages⟩ := excluded_unseen c
  have hmode : (⟨"mode", .member .functions "h"⟩ : Attribute) ∈
      (c.moduleOf (page (.bound "v") "f")).root := List.mem_cons_of_mem _ List.mem_cons_self
  have hlight : (page (.plain (.str "light")) "f").props.Agree
      (fun key => c.excluded.contains key && (functionProp? key).isNone)
      (page (.bound "v") "f").props := rfl
  have hnull : (page (.plain .null) "f").props.Agree c.excluded.contains
      (page (.bound "v") "f").props := rfl
  have hclick : (page (.bound "v") "f").props.Agree c.excluded.contains
      (page (.bound "v") "g").props := rfl
  exact ⟨hroot _ _ hmode (by decide), (hpages _ _ rfl).2 hlight, ((hpages _ _ rfl).1 hnull).2 rfl,
    ((hpages _ _ rfl).1 hclick).1⟩

/-- What is kept from the root element may still be seen: a key that names a function has it
declared, although the key is kept back, and the prop that it names the function of becomes an
attribute, although the prop is kept back. -/
theorem excluded_seen :
    let c : Compiler := ⟨[], [], [], ["mode", "__function_onClick"]⟩
    let page (key : String) (value : Value) : Layer :=
      .node ⟨.page, "p", pageType, none, [(key, .plain value)], []⟩ (.layers [])
    let named := page "__function_onClick" (.str "f")
    let unnamed := page "__function_onClick" (.int 1)
    (named.children = unnamed.children ∧ named.props.Agree c.excluded.contains unnamed.props ∧
      c.code? named ≠ c.code? unnamed) ∧
    (c.moduleOf (page "__function_mode" (.str "f"))).root.map Attribute.name = ["mode"] := by
  intro c page named unnamed
  exact ⟨⟨rfl, rfl, by decide +kernel⟩, rfl⟩

end Compiler

end Tsx

end LayerDoc
