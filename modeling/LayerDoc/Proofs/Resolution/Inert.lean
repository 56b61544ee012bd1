import LayerDoc.Proofs.Resolution

/-!
# What props are resolved to

If the values of variables are inert, then so is what props are resolved to, with one exception: an
object that has, under the key of the marker, a reference that stands for text
(`Resolver.makesReference`) is resolved to a marker object. The objects that this can happen to are
those that are resolved entry by entry (`Term.objects`). If it happens to none of them, there is
nothing left to resolve, and to resolve the outcome again changes nothing, as far as it can be done
(`Resolver.leaves_nothing_to_resolve`); if it happens to one, the outcome has a reference in it that
was not there before (`Resolver.resolves_to_reference`).
-/

namespace LayerDoc

namespace Term

mutual

/-- The objects in a term that are resolved entry by entry, with or without a registry of functions:
those that are no references, where no entry above them is passed over. -/
def objects (registered : Bool) : Term → List (Entries Term)
  | .object es =>
    match (Entries.get? es referenceKey).bind text? with
    | some _ => []
    | none => es :: entriesObjects registered (functionProps es) es
  | .reference _ | .leaf _ | .function _ => []

/-- The objects in entries that are resolved entry by entry. -/
def entriesObjects (registered : Bool) (named : Entries String) :
    List (String × Term) → List (Entries Term)
  | [] => []
  | (key, t) :: rest =>
    (if passedOver registered named key then [] else t.objects registered) ++
      entriesObjects registered named rest

end

/-- No key names the function of a prop whose name is such a key itself. -/
def NamesPlainly (es : Entries Term) : Prop := ∀ e ∈ functionProps es, functionProp? e.1 = none

instance : DecidablePred NamesPlainly := fun es =>
  inferInstanceAs (Decidable (∀ e ∈ functionProps es, functionProp? e.1 = none))

theorem entriesInert_append {es fs : Entries Term} :
    entriesInert (es ++ fs) = true ↔ entriesInert es = true ∧ entriesInert fs = true := by
  rw [entriesInert_iff, entriesInert_iff, entriesInert_iff, List.forall_mem_append]

end Term

namespace Resolver

/-- Whether an object is resolved to a marker object: under the key of the marker it has a reference
that stands for text. -/
def makesReference (r : Resolver) (es : Entries Term) : Bool :=
  !passedOver r.functions.isSome (Term.functionProps es) referenceKey &&
    (((Entries.get? es referenceKey).bind Term.reference?).bind
      fun variableId => (r.target variableId).1.text?).isSome

variable {r : Resolver}

/-! ## What stands under a key -/

theorem text?_function (r : Resolver) (id : String) : (r.function id).1.text? = none := by
  unfold function
  split
  · rfl
  · split
    · rfl
    · rfl

/-- A term that is no text is resolved to one only if it is a reference that stands for one. -/
theorem text?_resolve {t : Term} (h : t.text? = none) :
    (r.resolve t).1.text? = t.reference?.bind fun variableId => (r.target variableId).1.text? := by
  cases hreference : t.reference? with
  | some variableId => rw [resolve_of_reference? r hreference, Option.bind_some]
  | none =>
    cases t with
    | reference variableId => cases hreference
    | leaf v =>
      have hmarker : v.reference? = none := hreference
      rwa [resolve, hmarker]
    | function definition => rw [resolve]; rfl
    | object es =>
      have hmarker : (Entries.get? es referenceKey).bind Term.text? = none := hreference
      rw [resolve, hmarker]
      rfl

theorem get?_namedFunctions (r : Resolver) (named : Entries String) (key : String) :
    Entries.get? (r.namedFunctions named).1 key =
      if r.functions.isSome then (Entries.get? named key).map fun id => (r.function id).1
      else none := by
  have hnamed := Entries.get?_mapValues (fun id => (r.function id).1) named key
  rw [namedFunctions]
  cases r.functions with
  | none => rfl
  | some functions => exact hnamed

theorem resolveOthers_cons (r : Resolver) (named : Entries String) (key : String) (t : Term)
    (rest : Entries Term) :
    (r.resolveOthers named ((key, t) :: rest)).1 =
      if passedOver r.functions.isSome named key then (r.resolveOthers named rest).1
      else (key, (r.resolve t).1) :: (r.resolveOthers named rest).1 := by
  rw [resolveOthers, passedOver]
  cases (functionProp? key).isSome with
  | true => rfl
  | false =>
    cases Entries.has named key && r.functions.isSome with
    | true => rfl
    | false => rfl

theorem get?_resolveOthers (r : Resolver) (named : Entries String) (es : Entries Term)
    (key : String) :
    Entries.get? (r.resolveOthers named es).1 key =
      if passedOver r.functions.isSome named key then none
      else (Entries.get? es key).map fun t => (r.resolve t).1 := by
  induction es with
  | nil => simp [resolveOthers]
  | cons e rest ih =>
    obtain ⟨other, t⟩ := e
    rw [resolveOthers_cons, Entries.get?]
    by_cases h : other = key
    · subst h
      cases hpassed : passedOver r.functions.isSome named other with
      | true => rw [if_pos rfl, if_pos rfl, ih, hpassed, if_pos rfl]
      | false =>
        rw [if_neg Bool.false_ne_true, if_neg Bool.false_ne_true, Entries.get?, if_pos rfl,
          if_pos rfl]
        rfl
    · rw [if_neg h, ← ih]
      split
      · rfl
      · rw [Entries.get?, if_neg h]

/-- What was no marker object before is one afterwards exactly if it makes a reference. -/
theorem marker_resolved {es : Entries Term}
    (h : (Entries.get? es referenceKey).bind Term.text? = none) :
    ((Entries.get? ((r.namedFunctions (Term.functionProps es)).1 ++
        (r.resolveOthers (Term.functionProps es) es).1) referenceKey).bind Term.text?).isNone =
      !r.makesReference es := by
  have hkey : functionProp? referenceKey = none := by decide
  rw [makesReference, Entries.get?_append, get?_namedFunctions, get?_resolveOthers]
  cases hpassed : passedOver r.functions.isSome (Term.functionProps es) referenceKey with
  | true =>
    -- a function is named for the key of the marker, and a function is no text
    rw [passedOver, hkey, Option.isSome_none, Bool.false_or, Bool.and_eq_true] at hpassed
    obtain ⟨id, hid⟩ := Option.isSome_iff_exists.mp hpassed.1
    rw [if_pos hpassed.2, hid, Option.map_some, Option.some_or, Option.bind_some, text?_function]
    rfl
  | false =>
    have hnone : (if r.functions.isSome then
        (Entries.get? (Term.functionProps es) referenceKey).map fun id => (r.function id).1
        else none) = none := by
      rw [passedOver, hkey, Option.isSome_none, Bool.false_or] at hpassed
      split
      · next hregistered =>
        rw [hregistered, Bool.and_true] at hpassed
        rw [Option.isNone_iff_eq_none.mp (Option.isSome_eq_false_iff.mp hpassed), Option.map_none]
      · rfl
    rw [hnone, Option.none_or, if_neg Bool.false_ne_true]
    cases hget : Entries.get? es referenceKey with
    | none => rfl
    | some t =>
      rw [hget] at h
      rw [Option.map_some, Option.bind_some, Option.bind_some, text?_resolve h]
      simp

/-! ## What is left to resolve -/

theorem inert_function (r : Resolver) (id : String) : (r.function id).1.inert = true := by
  unfold function
  split
  · rfl
  · split
    · rfl
    · rfl

/-- A reference stands for inert data or for a function, if the values of variables are inert. -/
theorem inert_target (hdefaults : ∀ v ∈ r.vars, v.default.inert = true)
    (hvalues : ∀ e ∈ r.values, e.2.inert = true) (variableId : String) :
    (r.target variableId).1.inert = true := by
  unfold target
  split
  · rfl
  · next v hfound =>
    have hdefault := hdefaults v (List.mem_of_find?_eq_some hfound)
    split
    · exact r.inert_function _
    · refine Term.inert_ofValue ?_
      unfold valueOf
      split
      · exact hdefault
      · next hvalue => exact hvalues _ (Entries.mem_of_get?_eq_some hvalue)
      · exact hdefault

/-- The functions that keys name are inert, under names that are no such keys. -/
theorem entriesInert_namedFunctions (r : Resolver) {named : Entries String}
    (h : ∀ e ∈ named, functionProp? e.1 = none) :
    Term.entriesInert (r.namedFunctions named).1 = true := by
  rw [namedFunctions]
  cases r.functions with
  | none => rw [Term.entriesInert]
  | some functions =>
    refine Term.entriesInert_iff.mpr fun e he => ?_
    obtain ⟨name, hname, rfl⟩ := List.mem_map.mp he
    exact ⟨h name hname, r.inert_function name.2⟩

mutual

/-- If references stand for what is inert, then so is what a term is resolved to, unless one of its
objects makes a reference. -/
theorem inert_resolve_iff (htarget : ∀ variableId, (r.target variableId).1.inert = true) :
    ∀ {t : Term}, r.canResolve t = true →
    (∀ o ∈ t.objects r.functions.isSome, Term.NamesPlainly o) →
    ((r.resolve t).1.inert = true ↔
      ∀ o ∈ t.objects r.functions.isSome, r.makesReference o = false)
  | .reference variableId, _, _ => by simp [resolve, htarget, Term.objects]
  | .leaf v, hresolves, _ => by
    rw [canResolve] at hresolves
    rw [resolve, Term.objects]
    cases hreference : v.reference? with
    | some variableId => simp [htarget]
    | none =>
      rw [hreference] at hresolves
      simp [Term.inert, Value.inert_of_isLeaf hresolves]
  | .function definition, _, _ => by simp [resolve, Term.inert, Term.objects]
  | .object es, hresolves, hnames => by
    rw [canResolve] at hresolves
    rw [Term.objects] at hnames ⊢
    rw [resolve]
    cases hmarker : (Entries.get? es referenceKey).bind Term.text? with
    | some variableId => simp [htarget]
    | none =>
      rw [hmarker] at hresolves
      rw [hmarker, List.forall_mem_cons] at hnames
      have hfunctions := r.entriesInert_namedFunctions hnames.1
      have hothers := entriesInert_resolveOthers_iff htarget hresolves hnames.2
      -- the marker is what the object itself makes, the entries are those of the objects below it
      simp only [Term.inert, Bool.and_eq_true, marker_resolved hmarker, Term.entriesInert_append,
        hfunctions, hothers, true_and, Bool.not_eq_true', List.forall_mem_cons]

/-- The entries that are kept are resolved to inert ones, unless an object in one of them makes a
reference. -/
theorem entriesInert_resolveOthers_iff
    (htarget : ∀ variableId, (r.target variableId).1.inert = true) {named : Entries String} :
    ∀ {es : List (String × Term)}, r.canResolveOthers named es = true →
    (∀ o ∈ Term.entriesObjects r.functions.isSome named es, Term.NamesPlainly o) →
    (Term.entriesInert (r.resolveOthers named es).1 = true ↔
      ∀ o ∈ Term.entriesObjects r.functions.isSome named es, r.makesReference o = false)
  | [], _, _ => by simp [resolveOthers, Term.entriesInert, Term.entriesObjects]
  | (key, t) :: rest, hresolves, hnames => by
    rw [canResolveOthers, Bool.and_eq_true] at hresolves
    rw [Term.entriesObjects, List.forall_mem_append] at hnames ⊢
    have hothers := entriesInert_resolveOthers_iff htarget hresolves.2 hnames.2
    rw [resolveOthers_cons]
    cases hpassed : passedOver r.functions.isSome named key with
    | true => simpa using hothers
    | false =>
      rw [hpassed, if_neg Bool.false_ne_true] at hnames
      rw [hpassed, Bool.false_or] at hresolves
      have hterm := inert_resolve_iff htarget hresolves.1 hnames.1
      have hkey : (functionProp? key).isNone = true := by
        rw [passedOver, Bool.or_eq_false_iff] at hpassed
        exact Option.isSome_eq_false_iff.mp hpassed.1
      rw [if_neg Bool.false_ne_true, if_neg Bool.false_ne_true, Term.entriesInert, hkey,
        Bool.true_and, Bool.and_eq_true, hterm, hothers]

end

/-- What is inert is resolved again to itself, without a word, exactly if the plain data in it is
not looked into. -/
theorem props?_of_inert_iff {es : Entries Term} (h : Term.entriesInert es = true) :
    r.props? es = some (es, []) ↔
      ∀ v ∈ Term.entriesLeaves r.functions.isSome (Term.functionProps es) es, v.isLeaf = true := by
  rw [props?_eq_some_iff, and_iff_left (r.props_of_inert h), canResolveOthers_iff,
    Term.functionProps_of_inert h, Term.entriesFollowed_of_inert h]
  simp

/-- Props in which no key names the function of a prop whose name is such a key are resolved with
variables whose values are inert. That works exactly if the plain data that is reached is not looked
into, and what is followed has something that it stands for. Then what comes of it is inert, at any
depth, exactly if no object that is resolved entry by entry makes a reference. If so, to resolve it
again changes nothing, and there is nothing to say about it; only an object with keys that are not
text, or one that holds itself, could not be resolved again. -/
theorem leaves_nothing_to_resolve {es : Entries Term}
    (hdefaults : ∀ v ∈ r.vars, v.default.inert = true)
    (hvalues : ∀ e ∈ r.values, e.2.inert = true) (hnames : Term.NamesPlainly es)
    (hbelow : ∀ o ∈ Term.entriesObjects r.functions.isSome (Term.functionProps es) es,
      Term.NamesPlainly o) :
    ((r.props? es).isSome = true ↔
      (∀ v ∈ Term.entriesLeaves r.functions.isSome (Term.functionProps es) es, v.isLeaf = true) ∧
        ∀ id ∈ Term.entriesFollowed r.functions.isSome (Term.functionProps es) es,
          r.hasTarget id = true) ∧
    ∀ resolved warnings, r.props? es = some (resolved, warnings) →
      (Term.entriesInert resolved = true ↔
        ∀ o ∈ Term.entriesObjects r.functions.isSome (Term.functionProps es) es,
          r.makesReference o = false) ∧
      ((∀ o ∈ Term.entriesObjects r.functions.isSome (Term.functionProps es) es,
          r.makesReference o = false) →
        (r.props? resolved = some (resolved, []) ↔
          ∀ v ∈ Term.entriesLeaves r.functions.isSome (Term.functionProps resolved) resolved,
            v.isLeaf = true)) := by
  refine ⟨r.props?_isSome_iff, fun resolved warnings hresolved => ?_⟩
  obtain ⟨hresolves, hprops⟩ := r.props?_eq_some_iff.mp hresolved
  have hothers := entriesInert_resolveOthers_iff (inert_target hdefaults hvalues) hresolves hbelow
  have hinert : Term.entriesInert resolved = true ↔
      ∀ o ∈ Term.entriesObjects r.functions.isSome (Term.functionProps es) es,
        r.makesReference o = false := by
    have hsplit : (r.namedFunctions (Term.functionProps es)).1 ++
        (r.resolveOthers (Term.functionProps es) es).1 = resolved := congrArg Prod.fst hprops
    rw [← hothers, ← hsplit, Term.entriesInert_append]
    exact and_iff_right (r.entriesInert_namedFunctions hnames)
  exact ⟨hinert, fun hnone => props?_of_inert_iff (hinert.mpr hnone)⟩

/-- A handler is named by a key and has a value of its own, a title refers to a text, and a style
has an object under the key of the marker and in it a reference to a variable that is not there. -/
theorem leaves_nothing_of_card :
    let save : FunctionDef := ⟨none, some "()", none⟩
    let r : Resolver := ⟨[⟨"v", "title", .string, .str "Home"⟩], [("v", .str "News")],
      some [("save", save)]⟩
    let es : Entries Term :=
      [("title", .reference "v"), ("onSave", .leaf (.int 1)),
        ("__function_onSave", .leaf (.str "save")),
        ("style", .object [(referenceKey, .object [("gone", .reference "w")])])]
    let resolved : Entries Term :=
      [("onSave", .function save), ("title", .leaf (.str "News")),
        ("style", .object [(referenceKey, .object [("gone", .leaf .null)])])]
    ((∀ v ∈ r.vars, v.default.inert = true) ∧ (∀ e ∈ r.values, e.2.inert = true) ∧
      Term.NamesPlainly es ∧ ∀ o ∈ Term.entriesObjects true (Term.functionProps es) es,
        Term.NamesPlainly o ∧ r.makesReference o = false) ∧
    r.props? es = some (resolved, []) ∧ Term.entriesInert resolved = true ∧
      r.props? resolved = some (resolved, []) := by
  intro save r es resolved
  have hdefaults : ∀ v ∈ r.vars, v.default.inert = true := by decide
  have hvalues : ∀ e ∈ r.values, e.2.inert = true := by decide
  have hnames : Term.NamesPlainly es := by decide
  have hbelow : ∀ o ∈ Term.entriesObjects true (Term.functionProps es) es,
      Term.NamesPlainly o ∧ r.makesReference o = false := by decide
  have hresolved : r.props? es = some (resolved, []) := by rfl
  obtain ⟨-, hleaves⟩ := leaves_nothing_to_resolve hdefaults hvalues hnames
    fun o ho => (hbelow o ho).1
  obtain ⟨hinert, hagain⟩ := hleaves resolved [] hresolved
  have hnone := fun o ho => (hbelow o ho).2
  exact ⟨⟨hdefaults, hvalues, hnames, hbelow⟩, hresolved, hinert.mpr hnone,
    (hagain hnone).mpr (by decide)⟩

/-- A link has, under the key of the marker, a reference to a variable whose value is a text. It is
resolved to a marker object, which is a reference to another variable and stands for nothing when it
is resolved again. -/
theorem resolves_to_reference :
    let r : Resolver := ⟨[⟨"v", "target", .string, .str "w"⟩], [], none⟩
    let props : Props := [("link", .plain (.object [(referenceKey, Value.ofReference "v")]))]
    let link : Term := .object [(referenceKey, .leaf (.str "w"))]
    ((∀ v ∈ r.vars, v.default.inert = true) ∧ r.values = [] ∧
      Term.functionProps (Entries.mapValues Term.ofProp props) = []) ∧
    r.props? (Entries.mapValues Term.ofProp props) = some ([("link", link)], []) ∧
      link.reference? = some "w" ∧ r.props? [("link", link)] = some ([("link", .leaf .null)], []) ∧
      r.props? [("link", link)] ≠ some ([("link", link)], []) := by
  intro r props link
  have hagain : r.props? [("link", .object [(referenceKey, .leaf (.str "w"))])] =
      some ([("link", .leaf .null)], []) := by rfl
  refine ⟨⟨by decide, rfl, by rfl⟩, by rfl, by rfl, hagain, fun hsame => ?_⟩
  simpa [link] using hagain.symm.trans hsame

end Resolver

end LayerDoc
