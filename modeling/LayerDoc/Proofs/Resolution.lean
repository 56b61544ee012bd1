import LayerDoc.Proofs.Entries
import LayerDoc.Resolution

/-!
# When props are resolved, and what stays as it is

Props are resolved exactly if the plain data that is reached has no keys but texts and does not hold
itself, and every reference that is followed has something that it stands for
(`Resolver.props?_isSome_iff`). What has no reference in it and no key that names a function is
inert: it is resolved to itself, and there is nothing to say about it (`Resolver.resolve_of_inert`).
With a registry, resolved props are the named functions and then all other entries that are not
named so, each resolved by itself (`Resolver.props_fst`).
-/

namespace LayerDoc

theorem functionProp?_eq_some_iff {key prop : String} :
    functionProp? key = some prop ↔ key = functionPrefix ++ prop := by
  rw [functionProp?, Option.map_eq_some_iff]
  constructor
  · rintro ⟨cs, hcs, rfl⟩
    rw [List.isPrefixOf?_eq_some_iff_append_eq] at hcs
    refine String.toList_injective ?_
    rw [String.toList_append, String.toList_ofList, hcs]
  · rintro rfl
    refine ⟨prop.toList, ?_, String.ofList_toList⟩
    rw [List.isPrefixOf?_eq_some_iff_append_eq, String.toList_append]

namespace Value

mutual

/-- Data in which no object, at any depth, is a reference or has a key that names a function. Lists
are not looked into. -/
def inert : Value → Bool
  | .object es => ((Entries.get? es referenceKey).bind str?).isNone && entriesInert es
  | .mapping es => ((Key.find? es (.str referenceKey)).bind str?).isNone && mappingInert es
  | _ => true

/-- `inert` of all entries, whose keys name no functions. -/
def entriesInert : List (String × Value) → Bool
  | [] => true
  | (k, v) :: rest => (functionProp? k).isNone && v.inert && entriesInert rest

/-- `inert` of all entries, whose keys name no functions if they are texts. -/
def mappingInert : List (Key × Value) → Bool
  | [] => true
  | (k, v) :: rest => (k.str?.bind functionProp?).isNone && v.inert && mappingInert rest

end

theorem reference?_of_inert {v : Value} (h : v.inert = true) : v.reference? = none := by
  cases v with
  | object es =>
    rw [inert, Bool.and_eq_true, Option.isNone_iff_eq_none] at h
    exact h.1
  | mapping es =>
    rw [inert, Bool.and_eq_true, Option.isNone_iff_eq_none] at h
    exact h.1
  | _ => rfl

theorem inert_of_isLeaf {v : Value} (h : v.isLeaf = true) : v.inert = true := by
  cases v <;> simp_all [isLeaf, inert]

end Value

/-- A prop that is a reference, or inert data. -/
def PropValue.inert (p : PropValue) : Bool := p.reference?.isSome || p.toValue.inert

namespace Term

theorem text?_ofValue (v : Value) : (ofValue v).text? = v.str? := by
  cases v with
  | object es => rw [ofValue]; rfl
  | str s => simp [ofValue, text?, Value.str?]
  | _ => simp [ofValue, text?, Value.str?]

theorem get?_ofEntries (es : List (String × Value)) (key : String) :
    Entries.get? (ofEntries es) key = (Entries.get? es key).map ofValue := by
  induction es with
  | nil => rw [ofEntries]; rfl
  | cons e rest ih =>
    rw [ofEntries, Entries.get?, Entries.get?, ih]
    split <;> rfl

/-- A marker object stays one as a term. -/
theorem marker_ofEntries (es : List (String × Value)) :
    (Entries.get? (ofEntries es) referenceKey).bind text? =
      (Entries.get? es referenceKey).bind Value.str? := by
  rw [get?_ofEntries]
  cases Entries.get? es referenceKey with
  | none => rfl
  | some v => exact text?_ofValue v

theorem reference?_ofValue (v : Value) : (ofValue v).reference? = v.reference? := by
  cases v with
  | object es =>
    rw [ofValue, reference?, marker_ofEntries]
    rfl
  | _ => rfl

theorem reference?_ofProp (p : PropValue) : (ofProp p).reference? = p.reference? := by
  cases p with
  | bound variableId => rfl
  | plain v => exact reference?_ofValue v

mutual

/-- A term in which, at any depth of its objects, there is no reference and no key that names a
function. -/
def inert : Term → Bool
  | .reference _ => false
  | .leaf v => v.inert
  | .function _ => true
  | .object es => ((Entries.get? es referenceKey).bind text?).isNone && entriesInert es

/-- `inert` of all entries, whose keys name no functions. -/
def entriesInert : List (String × Term) → Bool
  | [] => true
  | (k, t) :: rest => (functionProp? k).isNone && t.inert && entriesInert rest

end

theorem entriesInert_iff {es : List (String × Term)} :
    entriesInert es = true ↔ ∀ e ∈ es, functionProp? e.1 = none ∧ e.2.inert = true := by
  induction es with
  | nil => simp [entriesInert]
  | cons e rest ih => simp [entriesInert, ih, and_assoc]

mutual

/-- Inert data is inert as a term. -/
theorem inert_ofValue : ∀ {v : Value}, v.inert = true → (ofValue v).inert = true
  | .object es, h => by
    rw [Value.inert, Bool.and_eq_true] at h
    rw [ofValue, inert, marker_ofEntries, h.1, entriesInert_ofEntries h.2]
    rfl
  | .null, h | .bool _, h | .int _, h | .float _, h | .str _, h | .list _, h | .bytes _, h
  | .moment _, h | .set _, h | .mapping _, h | .cycle, h => by
    rw [ofValue, inert]
    · exact h
    · exact nofun

/-- The entries of an inert object are inert as terms. -/
theorem entriesInert_ofEntries : ∀ {es : List (String × Value)},
    Value.entriesInert es = true → entriesInert (ofEntries es) = true
  | [], _ => by rw [ofEntries, entriesInert]
  | (k, v) :: rest, h => by
    simp only [Value.entriesInert, Bool.and_eq_true] at h
    rw [ofEntries, entriesInert, h.1.1, inert_ofValue h.1.2, entriesInert_ofEntries h.2]
    rfl

end

mutual

/-- The variables of the references that are followed when a term is resolved, with or without a
registry of functions: that of the term itself, or else those inside of it. Lists are not looked
into. -/
def followed (registered : Bool) : Term → List String
  | .reference variableId => [variableId]
  | .leaf v => v.reference?.toList
  | .function _ => []
  | .object es =>
    match (Entries.get? es referenceKey).bind text? with
    | some variableId => [variableId]
    | none => entriesFollowed registered (functionProps es) es

/-- The variables of the references that are followed in entries. -/
def entriesFollowed (registered : Bool) (named : Entries String) :
    List (String × Term) → List String
  | [] => []
  | (key, t) :: rest =>
    (if passedOver registered named key then [] else t.followed registered) ++
      entriesFollowed registered named rest

end

mutual

/-- The plain data that is reached when a term is resolved, and is no reference. -/
def leaves (registered : Bool) : Term → List Value
  | .reference _ => []
  | .leaf v => if v.reference?.isSome then [] else [v]
  | .function _ => []
  | .object es =>
    match (Entries.get? es referenceKey).bind text? with
    | some _ => []
    | none => entriesLeaves registered (functionProps es) es

/-- The plain data that is reached in entries. -/
def entriesLeaves (registered : Bool) (named : Entries String) : List (String × Term) → List Value
  | [] => []
  | (key, t) :: rest =>
    (if passedOver registered named key then [] else t.leaves registered) ++
      entriesLeaves registered named rest

end

theorem followed_of_reference? {t : Term} {variableId : String}
    (h : t.reference? = some variableId) (registered : Bool) :
    t.followed registered = [variableId] := by
  cases t with
  | reference other =>
    cases h
    rw [followed]
  | leaf v =>
    have hmarker : v.reference? = some variableId := h
    rw [followed, hmarker]
    rfl
  | function definition => cases h
  | object es =>
    have hmarker : (Entries.get? es referenceKey).bind text? = some variableId := h
    rw [followed, hmarker]

theorem functionProps_of_inert {es : Entries Term} (h : entriesInert es = true) :
    functionProps es = [] := by
  rw [entriesInert_iff] at h
  refine List.filterMap_eq_nil_iff.mpr fun e he => ?_
  rw [(h e he).1, Option.bind_none]

mutual

/-- Nothing is followed in what is inert. -/
theorem followed_of_inert {registered : Bool} : ∀ {t : Term}, t.inert = true →
    t.followed registered = []
  | .reference _, h => by simp [inert] at h
  | .leaf v, h => by
    have hinert : v.inert = true := h
    rw [followed, Value.reference?_of_inert hinert]
    rfl
  | .function _, _ => by rw [followed]
  | .object es, h => by
    rw [inert, Bool.and_eq_true, Option.isNone_iff_eq_none] at h
    rw [followed, h.1, functionProps_of_inert h.2]
    exact entriesFollowed_of_inert h.2

theorem entriesFollowed_of_inert {registered : Bool} {named : Entries String} :
    ∀ {es : List (String × Term)}, entriesInert es = true →
    entriesFollowed registered named es = []
  | [], _ => by rw [entriesFollowed]
  | (_, t) :: rest, h => by
    simp only [entriesInert, Bool.and_eq_true] at h
    rw [entriesFollowed, followed_of_inert h.1.2, entriesFollowed_of_inert h.2, ite_self,
      List.append_nil]

end

end Term

namespace Resolver

variable (r : Resolver)

theorem resolve_of_reference? {t : Term} {variableId : String}
    (h : t.reference? = some variableId) : r.resolve t = r.target variableId := by
  cases t with
  | reference other =>
    cases h
    rw [resolve]
  | leaf v =>
    have hmarker : v.reference? = some variableId := h
    rw [resolve, hmarker]
  | function definition => cases h
  | object es =>
    have hmarker : (Entries.get? es referenceKey).bind Term.text? = some variableId := h
    rw [resolve, hmarker]

mutual

/-- A term is resolved exactly if the plain data that is reached is not looked into, and what is
followed has something that it stands for. -/
theorem canResolve_iff : ∀ {t : Term}, r.canResolve t = true ↔
    (∀ v ∈ t.leaves r.functions.isSome, v.isLeaf = true) ∧
      ∀ id ∈ t.followed r.functions.isSome, r.hasTarget id = true
  | .reference variableId => by simp [canResolve, Term.leaves, Term.followed]
  | .leaf v => by
    rw [canResolve, Term.leaves, Term.followed]
    cases v.reference? <;> simp
  | .function definition => by simp [canResolve, Term.leaves, Term.followed]
  | .object es => by
    rw [canResolve, Term.leaves, Term.followed]
    cases (Entries.get? es referenceKey).bind Term.text? with
    | some variableId => simp
    | none => exact canResolveOthers_iff

/-- `canResolve_iff` for the entries that are not passed over. -/
theorem canResolveOthers_iff {named : Entries String} : ∀ {es : List (String × Term)},
    r.canResolveOthers named es = true ↔
      (∀ v ∈ Term.entriesLeaves r.functions.isSome named es, v.isLeaf = true) ∧
        ∀ id ∈ Term.entriesFollowed r.functions.isSome named es, r.hasTarget id = true
  | [] => by simp [canResolveOthers, Term.entriesLeaves, Term.entriesFollowed]
  | (key, t) :: rest => by
    rw [canResolveOthers, Bool.and_eq_true, canResolveOthers_iff, Term.entriesLeaves,
      Term.entriesFollowed, List.forall_mem_append, List.forall_mem_append]
    cases passedOver r.functions.isSome named key with
    | true => simp
    | false =>
      rw [Bool.false_or, canResolve_iff, if_neg Bool.false_ne_true, if_neg Bool.false_ne_true]
      exact and_and_and_comm

end

/-- Props are resolved exactly if the plain data that is reached is not looked into, and what is
followed has something that it stands for. -/
theorem props?_isSome_iff {es : Entries Term} : (r.props? es).isSome = true ↔
    (∀ v ∈ Term.entriesLeaves r.functions.isSome (Term.functionProps es) es, v.isLeaf = true) ∧
      ∀ id ∈ Term.entriesFollowed r.functions.isSome (Term.functionProps es) es,
        r.hasTarget id = true := by
  rw [← canResolveOthers_iff, props?]
  split <;> simp_all

theorem props?_eq_some_iff {es : Entries Term} {out : Entries Term × List Warning} :
    r.props? es = some out ↔
      r.canResolveOthers (Term.functionProps es) es = true ∧ r.props es = out := by
  rw [props?]
  split <;> simp_all

theorem namedFunctions_nil : r.namedFunctions [] = ([], []) := by
  unfold namedFunctions
  split <;> rfl

mutual

/-- What is inert is resolved to itself, and there is nothing to say about it. -/
theorem resolve_of_inert : ∀ {t : Term}, t.inert = true → r.resolve t = (t, [])
  | .reference variableId, h => by simp [Term.inert] at h
  | .leaf v, h => by
    have hinert : v.inert = true := h
    rw [resolve, Value.reference?_of_inert hinert]
  | .function definition, _ => by rw [resolve]
  | .object es, h => by
    rw [Term.inert, Bool.and_eq_true, Option.isNone_iff_eq_none] at h
    have hentries := resolveOthers_of_inert h.2
    rw [resolve, h.1]
    simp only [Term.functionProps_of_inert h.2, namedFunctions_nil, hentries, List.nil_append]

/-- The entries of an inert object are resolved to themselves. -/
theorem resolveOthers_of_inert : ∀ {es : List (String × Term)}, Term.entriesInert es = true →
    r.resolveOthers [] es = (es, [])
  | [], _ => by rw [resolveOthers]
  | (key, t) :: rest, h => by
    simp only [Term.entriesInert, Bool.and_eq_true, Option.isNone_iff_eq_none] at h
    have hterm := resolve_of_inert h.1.2
    have hothers := resolveOthers_of_inert h.2
    have hnone : Entries.has ([] : Entries String) key = false := rfl
    rw [resolveOthers]
    simp [passedOver, h.1.1, hnone, hterm, hothers]

end

theorem props_of_inert {es : Entries Term} (h : Term.entriesInert es = true) :
    r.props es = (es, []) := by
  simp only [props, Term.functionProps_of_inert h, namedFunctions_nil, r.resolveOthers_of_inert h,
    List.nil_append]

theorem resolve_ofValue {v : Value} (h : v.inert = true) :
    r.resolve (Term.ofValue v) = (Term.ofValue v, []) :=
  r.resolve_of_inert (Term.inert_ofValue h)

/-- An entry that is passed over makes no difference to what the others are resolved to. -/
theorem resolveOthers_without_passed {named : Entries String} {key : String}
    (hpassed : passedOver r.functions.isSome named key = true) (front : Entries Term) (t : Term)
    (back : Entries Term) :
    r.resolveOthers named (front ++ (key, t) :: back) = r.resolveOthers named (front ++ back) := by
  induction front with
  | nil => rw [List.nil_append, List.nil_append, resolveOthers, if_pos hpassed]
  | cons e front ih => rw [List.cons_append, List.cons_append, resolveOthers, resolveOthers, ih]

/-- An entry that is passed over makes no difference to whether the others can be resolved. -/
theorem canResolveOthers_without_passed {named : Entries String} {key : String}
    (hpassed : passedOver r.functions.isSome named key = true) (front : Entries Term) (t : Term)
    (back : Entries Term) :
    r.canResolveOthers named (front ++ (key, t) :: back) =
      r.canResolveOthers named (front ++ back) := by
  induction front with
  | nil => rw [List.nil_append, List.nil_append, canResolveOthers, hpassed, Bool.true_or,
      Bool.true_and]
  | cons e front ih =>
    rw [List.cons_append, List.cons_append, canResolveOthers, canResolveOthers, ih]

/-- The entries that are kept beside the named functions, each resolved by itself. -/
theorem resolveOthers_fst {r : Resolver} (hr : r.functions.isSome = true) (named : Entries String)
    (es : List (String × Term)) :
    (r.resolveOthers named es).1 =
      (es.filter fun e => (functionProp? e.1).isNone && !Entries.has named e.1).map
        fun e => (e.1, (r.resolve e.2).1) := by
  induction es with
  | nil => rw [resolveOthers]; rfl
  | cons e rest ih =>
    obtain ⟨key, term⟩ := e
    rw [resolveOthers, List.filter_cons]
    cases hprop : functionProp? key with
    | some prop => simp [passedOver, hprop, ih]
    | none =>
      cases hnamed : Entries.has named key with
      | true => simp [passedOver, hprop, hnamed, hr, ih]
      | false => simp [passedOver, hprop, hnamed, ih]

/-- With a registry, the named functions come first and all else that is not named so follows. -/
theorem props_fst {r : Resolver} (hr : r.functions.isSome = true) (es : Entries Term) :
    (r.props es).1 =
      (Term.functionProps es).map (fun e => (e.1, (r.function e.2).1)) ++
        (es.filter fun e => (functionProp? e.1).isNone &&
          !Entries.has (Term.functionProps es) e.1).map fun e => (e.1, (r.resolve e.2).1) := by
  obtain ⟨functions, hfunctions⟩ := Option.isSome_iff_exists.mp hr
  rw [props]
  simp only [resolveOthers_fst hr, namedFunctions, hfunctions]

end Resolver

end LayerDoc
