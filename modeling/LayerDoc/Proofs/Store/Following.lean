import LayerDoc.Editor
import LayerDoc.Proofs.Resolution
import LayerDoc.Proofs.Store.Releasing

/-!
# References inside of props

When props are resolved, references are followed wherever they stand: in a prop, or in an object at
any depth below one (`Props.followed`). What props are resolved to depends on nothing but what these
references stand for (`Resolver.props?_congr`). The removal of a variable looks at the props alone:
it frees the layers from the references that are props, and a reference that stands inside of an
object is followed afterwards exactly if it was there before (`Store.follows_inside_references`),
although its variable is gone (`Store.leaves_reference_inside`).
-/

namespace LayerDoc

/-! ## References that are followed -/

/-- The variables of the references that are followed when data is resolved: that of the data
itself, or else those inside of it. -/
def Value.followed (registered : Bool) (v : Value) : List String :=
  (Term.ofValue v).followed registered

/-- Whether a prop is passed over when props are resolved. -/
def Props.passesOver (registered : Bool) (props : Props) (key : String) : Bool :=
  passedOver registered (Term.functionProps (Entries.mapValues Term.ofProp props)) key

/-- The variables of the references that are followed when props are resolved. -/
def Props.followed (registered : Bool) (props : Props) : List String :=
  let es := Entries.mapValues Term.ofProp props
  Term.entriesFollowed registered (Term.functionProps es) es

theorem Term.mem_entriesFollowed {registered : Bool} {named : Entries String}
    {es : List (String × Term)} {id : String} :
    id ∈ entriesFollowed registered named es ↔
      ∃ e ∈ es, passedOver registered named e.1 = false ∧ id ∈ e.2.followed registered := by
  induction es with
  | nil => simp [entriesFollowed]
  | cons e rest ih =>
    obtain ⟨key, t⟩ := e
    rw [entriesFollowed, List.mem_append, ih]
    cases hpassed : passedOver registered named key with
    | true => simp [hpassed]
    | false => simp [hpassed]

theorem Value.followed_of_reference? {v : Value} {variableId : String}
    (h : v.reference? = some variableId) (registered : Bool) :
    v.followed registered = [variableId] :=
  Term.followed_of_reference? ((Term.reference?_ofValue v).trans h) registered

/-- A prop is followed as the data that stands for it. -/
theorem PropValue.followed_ofProp (p : PropValue) (registered : Bool) :
    (Term.ofProp p).followed registered = p.toValue.followed registered := by
  cases p with
  | bound variableId =>
    rw [Term.ofProp, Term.followed, toValue,
      Value.followed_of_reference? (Value.reference?_ofReference variableId)]
  | plain v => rfl

theorem Props.mem_followed {registered : Bool} {props : Props} {id : String} :
    id ∈ props.followed registered ↔
      ∃ p ∈ props, props.passesOver registered p.1 = false ∧
        id ∈ p.2.toValue.followed registered := by
  rw [followed, Term.mem_entriesFollowed]
  constructor
  · rintro ⟨e, he, hkey, hid⟩
    obtain ⟨p, hp, rfl⟩ := List.mem_map.mp he
    exact ⟨p, hp, hkey, p.2.followed_ofProp registered ▸ hid⟩
  · rintro ⟨p, hp, hkey, hid⟩
    exact ⟨_, List.mem_map_of_mem hp, hkey, (p.2.followed_ofProp registered).symm ▸ hid⟩

/-! ## What resolving depends on -/

namespace Resolver

/-- What a reference stands for, if there is something. -/
def target? (r : Resolver) (variableId : String) : Option (Term × List Warning) :=
  if r.hasTarget variableId then some (r.target variableId) else none

theorem hasTarget_eq_isSome (r : Resolver) (variableId : String) :
    r.hasTarget variableId = (r.target? variableId).isSome := by
  rw [target?]
  cases r.hasTarget variableId <;> rfl

variable {r r' : Resolver}

theorem target_congr {variableId : String} (h : r.target? variableId = r'.target? variableId)
    (htarget : r.hasTarget variableId = true) : r.target variableId = r'.target variableId := by
  have htarget' : r'.hasTarget variableId = true := by
    rw [hasTarget_eq_isSome, ← h, ← hasTarget_eq_isSome, htarget]
  rw [target?, target?, if_pos htarget, if_pos htarget'] at h
  exact Option.some.inj h

theorem namedFunctions_congr (hfunctions : r.functions = r'.functions) (named : Entries String) :
    r.namedFunctions named = r'.namedFunctions named := by
  have hfunction : r.function = r'.function := by
    funext id
    rw [function, function, hfunctions]
  rw [namedFunctions, namedFunctions, hfunctions, hfunction]

mutual

/-- What a term is resolved to depends on what the references that are followed stand for. -/
theorem resolve_congr (hfunctions : r.functions = r'.functions) : ∀ {t : Term},
    (∀ id ∈ t.followed r.functions.isSome, r.target id = r'.target id) → r.resolve t = r'.resolve t
  | .reference variableId, h => by
    rw [resolve, resolve]
    exact h variableId (by rw [Term.followed]; exact List.mem_cons_self)
  | .leaf v, h => by
    rw [Term.followed] at h
    rw [resolve, resolve]
    cases hreference : v.reference? with
    | some variableId => exact h variableId (by rw [hreference]; exact List.mem_cons_self)
    | none => rfl
  | .function _, _ => by rw [resolve, resolve]
  | .object es, h => by
    rw [Term.followed] at h
    rw [resolve, resolve]
    cases hmarker : (Entries.get? es referenceKey).bind Term.text? with
    | some variableId =>
      rw [hmarker] at h
      exact h variableId List.mem_cons_self
    | none =>
      rw [hmarker] at h
      simp only [resolveOthers_congr hfunctions h, namedFunctions_congr hfunctions]

/-- What entries are resolved to depends on what the references that are followed stand for. -/
theorem resolveOthers_congr (hfunctions : r.functions = r'.functions) {named : Entries String} :
    ∀ {es : List (String × Term)},
    (∀ id ∈ Term.entriesFollowed r.functions.isSome named es, r.target id = r'.target id) →
    r.resolveOthers named es = r'.resolveOthers named es
  | [], _ => by rw [resolveOthers, resolveOthers]
  | (key, t) :: rest, h => by
    rw [Term.entriesFollowed, List.forall_mem_append] at h
    rw [resolveOthers, resolveOthers, ← hfunctions, resolveOthers_congr hfunctions h.2]
    cases hpassed : passedOver r.functions.isSome named key with
    | true => rfl
    | false =>
      rw [hpassed, if_neg Bool.false_ne_true] at h
      rw [resolve_congr hfunctions h.1]

end

/-- What props are resolved to, if they can be, depends on what the references that are followed
stand for. -/
theorem props?_congr (hfunctions : r.functions = r'.functions) {props : Props}
    (h : ∀ id ∈ props.followed r.functions.isSome, r.target? id = r'.target? id) :
    r.props? (Entries.mapValues Term.ofProp props) =
      r'.props? (Entries.mapValues Term.ofProp props) := by
  have hsome : ∀ id ∈ props.followed r.functions.isSome, r.hasTarget id = r'.hasTarget id := by
    intro id hid
    rw [hasTarget_eq_isSome, hasTarget_eq_isSome, h id hid]
  have hcan : r.canResolveOthers (Term.functionProps (Entries.mapValues Term.ofProp props))
        (Entries.mapValues Term.ofProp props) =
      r'.canResolveOthers (Term.functionProps (Entries.mapValues Term.ofProp props))
        (Entries.mapValues Term.ofProp props) := by
    rw [Bool.eq_iff_iff, canResolveOthers_iff, canResolveOthers_iff, ← hfunctions]
    exact and_congr_right fun _ => forall₂_congr fun id hid => by rw [hsome id hid]
  rw [props?, props?, ← hcan]
  split
  · next hresolves =>
    have htargets := (r.canResolveOthers_iff.mp hresolves).2
    have hothers := resolveOthers_congr hfunctions fun id hid =>
      target_congr (h id hid) (htargets id hid)
    simp only [Resolver.props, hothers, namedFunctions_congr hfunctions]
  · rfl

end Resolver

/-! ## References after a variable has gone -/

theorem PropValue.followed_of_reference? {p : PropValue} {variableId : String}
    (h : p.reference? = some variableId) (registered : Bool) :
    p.toValue.followed registered = [variableId] := by
  refine Value.followed_of_reference? ?_ registered
  cases p with
  | bound other => exact (Value.reference?_ofReference other).trans h
  | plain v => exact h

/-- If no default has a reference to the variable, the references to it that are followed are those
that stood inside of a prop before. -/
theorem Props.Freed.mem_followed {variableId : String} {defaults : Entries Value}
    {before after : Props} (h : Freed variableId defaults before after) {registered : Bool}
    (hdefaults : ∀ e ∈ defaults, variableId ∉ e.2.followed registered) :
    variableId ∈ after.followed registered ↔
      ∃ p ∈ before, p.2.reference? = none ∧ after.passesOver registered p.1 = false ∧
        variableId ∈ p.2.toValue.followed registered := by
  rw [Props.mem_followed]
  constructor
  · rintro ⟨q, hq, hkey, hid⟩
    obtain ⟨p, hp, hfrom⟩ := exists_of_mem_right h.places hq
    rw [hfrom.key] at hkey
    by_cases hbound : p.2.reference? = some variableId
    · obtain ⟨v, hv, hvalue⟩ := hfrom.bound hbound
      rw [hvalue] at hid
      exact absurd hid (hdefaults _ (Entries.mem_of_get?_eq_some hv))
    · rw [hfrom.free hbound] at hid
      refine ⟨p, (List.mem_filter.mp hp).1, ?_, hkey, hid⟩
      cases hreference : p.2.reference? with
      | none => rfl
      | some other =>
        rw [PropValue.followed_of_reference? hreference, List.mem_singleton] at hid
        exact absurd (hid ▸ hreference) hbound
  · rintro ⟨p, hp, hnone, hkey, hid⟩
    have hfree : p.2.reference? ≠ some variableId := by rw [hnone]; exact nofun
    have hstays : p ∈ before.filter (Stays variableId defaults) :=
      List.mem_filter.mpr ⟨hp, decide_eq_true (Or.inl hfree)⟩
    obtain ⟨q, hq, hfrom⟩ := exists_of_mem_right h.places.flip hstays
    exact ⟨q, hq, hfrom.key ▸ hkey, (hfrom.free hfree) ▸ hid⟩

namespace Store

variable {st : Store} {variableId : String}

/-- When a variable is removed, and no default of the registry has a reference to it, a reference to
it is followed in the props of a layer exactly if it stood inside of one of them before, at any
depth. So if there was no such reference, none is followed any more in any layer of any page, and
what the props are resolved to does not depend on what the variable stands for. -/
theorem follows_inside_references (h : variableId ∈ st.document.vars.map Variable.id) (s : Supply)
    (registered : Bool)
    (hdefaults : ∀ type, ∀ e ∈ st.registry.defaultProps type,
      variableId ∉ e.2.followed registered) :
    ∃ after, st.removeVariable s variableId = Edit.commit () after s [] ∧
      List.Forall₂ (fun l m => variableId ∈ m.props.followed registered ↔
          ∃ p ∈ l.props, p.2.reference? = none ∧ m.props.passesOver registered p.1 = false ∧
            variableId ∈ p.2.toValue.followed registered)
        (Forest.preorder st.document.pages) (Forest.preorder after.pages) ∧
      ((∀ l ∈ Forest.preorder st.document.pages, ∀ p ∈ l.props, p.2.reference? = none →
          variableId ∉ p.2.toValue.followed registered) →
        ∀ m ∈ Forest.preorder after.pages, variableId ∉ m.props.followed registered ∧
          ∀ r r' : Resolver, r.functions = r'.functions → r.functions.isSome = registered →
            (∀ id ≠ variableId, r.target? id = r'.target? id) →
            r.props? (Entries.mapValues Term.ofProp m.props) =
              r'.props? (Entries.mapValues Term.ofProp m.props)) := by
  have hfollowed := (Forest.forall₂_freed st.registry variableId st.document.pages).imp
    fun l m hfreed => hfreed.props.mem_followed (hdefaults l.type)
  refine ⟨_, removeVariable_of_mem h s, hfollowed, fun hnone m hm => ?_⟩
  have hfree : variableId ∉ m.props.followed registered := by
    intro hmem
    obtain ⟨l, hl, hiff⟩ := exists_of_mem_right hfollowed hm
    obtain ⟨p, hp, hplain, -, hinside⟩ := hiff.mp hmem
    exact hnone l hl p hp hplain hinside
  refine ⟨hfree, fun r r' hfunctions hregistered htargets => ?_⟩
  refine Resolver.props?_congr hfunctions fun id hid => htargets id fun he => hfree ?_
  rw [← hregistered, ← he]
  exact hid

/-- A title falls back to its default. The reference inside of the style, which is to another
variable, is followed before and after. -/
theorem follows_label_in_style :
    let style : Value := .object [("label", Value.ofReference "w")]
    let card : Layer := .node ⟨.component, "a", "Card", none,
      [("title", .bound "v"), ("style", .plain style)], []⟩ (.layers [])
    let entry : RegistryEntry :=
      ⟨[("title", ⟨"string", false, some (.str "Untitled"), none, none⟩)], none, false, none, [],
        [], none⟩
    let st : Store := ⟨[("Card", entry)], [], .default,
      ⟨[.node ⟨.page, "p", "Page", none, [], []⟩ (.layers [card])], "p", none,
        [⟨"v", "title", .string, .null⟩, ⟨"w", "label", .string, .str "Hello"⟩]⟩⟩
    "v" ∈ st.document.vars.map Variable.id ∧
      (∀ type, ∀ e ∈ st.registry.defaultProps type, "v" ∉ e.2.followed true) ∧
      card.props.followed true = ["v", "w"] ∧
      ∃ after, st.removeVariable .start "v" = Edit.commit () after .start [] ∧
        (∀ m ∈ Forest.preorder after.pages, "v" ∉ m.props.followed true) ∧
        (Forest.preorder after.pages).map (·.props.followed true) = [[], ["w"]] := by
  intro style card entry st
  have hv : "v" ∈ st.document.vars.map Variable.id := by decide
  have hdefaults : ∀ type, ∀ e ∈ st.registry.defaultProps type, "v" ∉ e.2.followed true := by
    intro type e he
    by_cases htype : "Card" = type
    · subst htype
      have hentry : st.registry.defaultProps "Card" = [("title", .str "Untitled")] := by rfl
      rw [hentry, List.mem_singleton] at he
      subst he
      exact List.not_mem_nil
    · have hnone : st.registry.defaultProps type = [] := by
        simp only [st, Registry.defaultProps, Entries.get?, if_neg htype]
      rw [hnone] at he
      cases he
  obtain ⟨after, hcommit, -, hgone⟩ := follows_inside_references hv .start true hdefaults
  have hplain : ∀ l ∈ Forest.preorder st.document.pages, ∀ p ∈ l.props, p.2.reference? = none →
      "v" ∉ p.2.toValue.followed true := by decide
  have hafter : (st.removeVariable .start "v").committed.map
      (fun d => (Forest.preorder d.pages).map (·.props.followed true)) = some [[], ["w"]] := by
    decide
  rw [hcommit] at hafter
  exact ⟨hv, hdefaults, by decide, after, hcommit, fun m hm => (hgone hplain m hm).1,
    Option.some.inj hafter⟩

/-- A variable is removed that a reference inside of the style refers to. The reference is still
there and followed, and the label, which was a text, is resolved to nothing. -/
theorem leaves_reference_inside :
    let style : Value := .object [("label", Value.ofReference "v")]
    let page : Layer :=
      .node ⟨.page, "p", pageType, none, [("style", .plain style)], []⟩ (.layers [])
    let v : Variable := ⟨"v", "label", .string, .str "Hello"⟩
    let e := Editor.start [] [] .default (some ⟨[page], "p", none, [v]⟩) .start
    let after := (e.run (.removeVariable "v")).editor.document
    let resolved (vars : List Variable) (l : Layer) : Option (Entries Term × List Warning) :=
      (Resolver.mk vars [] none).props? (Entries.mapValues Term.ofProp l.props)
    let label (content : Value) : Option (Entries Term × List Warning) :=
      some ([("style", .object [("label", .leaf content)])], [])
    after.vars = [] ∧ after.pages = [page] ∧
      (∀ registered, "v" ∈ page.props.followed registered) ∧
      resolved e.document.vars page = label (.str "Hello") ∧
      resolved after.vars page = label .null := by
  intro style page v e after resolved label
  have hbefore : resolved [v] page = label (.str "Hello") := by
    simp only [resolved, page, style, label, v]
    rfl
  have hafter : resolved [] page = label .null := by
    simp only [resolved, page, style, label]
    rfl
  have hvars : e.document.vars = [v] := rfl
  have hgone : after.vars = [] := by rfl
  refine ⟨hgone, rfl, by decide, ?_, ?_⟩
  · rw [hvars, hbefore]
  · rw [hgone, hafter]

end Store

end LayerDoc
