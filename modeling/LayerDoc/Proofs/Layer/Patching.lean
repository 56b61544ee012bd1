import LayerDoc.Proofs.Entries
import LayerDoc.Proofs.Layer.RoundTrip

/-!
# Patched layers

A patch that leaves the children alone changes what it mentions (`Layer.Patched`,
`Layer.patched_of_patched`). Two such patches, one after the other, are one patch: that of the
second entries written over the first (`Layer.patched_patched`).
-/

namespace LayerDoc

/-- A value that is no marker object is the same when it is normalized. -/
theorem PropValue.normalized_eq_self {p : PropValue} (h : ∀ v, p = .plain v → v.reference? = none) :
    p.normalized = p := by
  cases p with
  | bound variableId => exact normalized_bound variableId
  | plain v => simp [normalized, toValue, ofValue, h v rfl]

namespace Props

theorem Normalized.mapValues_eq_self {props : Props} (h : props.Normalized) :
    Entries.mapValues PropValue.normalized props = props := by
  have hsame : ∀ p ∈ props, (p.1, p.2.normalized) = p := fun p hp => Prod.ext rfl (h p hp)
  rw [Entries.mapValues, List.map_congr_left hsame, List.map_id']

theorem mapValues_normalized_merge (props : Props) (patch : Entries Value) :
    Entries.mapValues PropValue.normalized
        (Entries.merge props (Entries.mapValues PropValue.ofValue patch)) =
      Entries.merge (Entries.mapValues PropValue.normalized props)
        (Entries.mapValues PropValue.ofValue patch) := by
  rw [Entries.mapValues_merge, (Normalized.mapValues_ofValue patch).mapValues_eq_self]

end Props

namespace Layer

variable {l m n : Layer} {props patch props' patch' : Entries Value} {s t : Supply}

/-- What a layer becomes by a patch without children, and when there is such a layer. -/
theorem patched_eq_some_iff (hchildren : Entries.get? patch "children" = none) :
    l.patched props patch s = some (m, t) ↔
      t = s ∧ (l.head.role = .component ∨ l.holdsLayers = true) ∧ hasNames patch = true ∧
      ((Entries.get? patch "type").map Value.text?).getD (some l.type) = some m.type ∧
      ((Entries.get? patch "name").map Value.textOrNull?).getD (some l.head.name) =
        some m.head.name ∧
      m = .node ⟨l.head.role, l.id, m.type, m.head.name,
        Entries.merge (Entries.mapValues PropValue.normalized l.props)
          (Entries.mapValues PropValue.ofValue props),
        Entries.merge l.head.extra (unknownEntries patch)⟩ l.slot := by
  rw [patched, hchildren, ← Props.mapValues_normalized_merge]
  dsimp only
  generalize ((Entries.get? patch "type").map Value.text?).getD (some l.type) = type?
  generalize ((Entries.get? patch "name").map Value.textOrNull?).getD (some l.head.name) = name?
  by_cases hfit : l.head.role = .component ∨ l.holdsLayers = true
  · rw [if_pos hfit]
    cases type? with
    | none => simp
    | some type =>
      cases name? with
      | none => simp
      | some name =>
        by_cases hnames : hasNames patch = true
        · simp only [hnames, if_true, Option.some.injEq, Prod.mk.injEq, hfit, true_and]
          constructor
          · rintro ⟨rfl, rfl⟩
            exact ⟨rfl, rfl, rfl, rfl⟩
          · rintro ⟨rfl, rfl, rfl, hm⟩
            exact ⟨hm.symm, rfl⟩
        · simp [hnames]
  · rw [if_neg hfit]
    cases type? <;> cases name? <;> simp [hfit]

/-- What is read of an attribute after two patches is what the one patch says. -/
theorem getD_merge {α : Type} {read : Value → Option α} {key : String} {a b c : α}
    (hkeys : (Entries.keys patch').Nodup)
    (h : ((Entries.get? patch key).map read).getD (some a) = some b)
    (h' : ((Entries.get? patch' key).map read).getD (some b) = some c) :
    ((Entries.get? (Entries.merge patch patch') key).map read).getD (some a) = some c := by
  rw [Entries.get?_merge hkeys]
  cases hget : Entries.get? patch' key with
  | some v =>
    rw [hget] at h'
    exact h'
  | none =>
    rw [hget] at h'
    cases h'
    exact h

theorem hasNames_merge (h : hasNames patch = true) (h' : hasNames patch' = true) :
    hasNames (Entries.merge patch patch') = true := by
  rw [hasNames, List.all_eq_true] at h h' ⊢
  exact fun e he => (Entries.mem_merge he).elim (h e) (h' e)

/-- Two patches without children, one after the other, are the patch of the second written over the
first. -/
theorem patched_patched (hprops : (Entries.keys props).Nodup) (hpatch : (Entries.keys patch).Nodup)
    (hpatch' : (Entries.keys patch').Nodup) (hchildren : Entries.get? patch "children" = none)
    (hchildren' : Entries.get? patch' "children" = none) {s' t' : Supply}
    (h : l.patched props patch s = some (m, t)) (h' : m.patched props' patch' s' = some (n, t'))
    (u : Supply) :
    l.patched (Entries.merge props props') (Entries.merge patch patch') u = some (n, u) := by
  have hmerged : Entries.get? (Entries.merge patch patch') "children" = none := by
    rw [Entries.get?_merge hpatch', hchildren', hchildren]
    rfl
  obtain ⟨-, hfit, hnames, htype, hname, hm⟩ := (patched_eq_some_iff hchildren).mp h
  obtain ⟨-, -, hnames', htype', hname', hn⟩ := (patched_eq_some_iff hchildren').mp h'
  refine (patched_eq_some_iff hmerged).mpr ⟨rfl, hfit, hasNames_merge hnames hnames',
    getD_merge hpatch' htype htype', getD_merge hpatch' hname hname', ?_⟩
  have hwritten : (Entries.keys (Entries.mapValues PropValue.ofValue props)).Nodup := by
    rwa [Entries.keys_mapValues]
  have hunknown : (Entries.keys (unknownEntries patch)).Nodup :=
    hpatch.sublist (List.filter_sublist.map Prod.fst)
  have hentries : unknownEntries (Entries.merge patch patch') =
      Entries.merge (unknownEntries patch) (unknownEntries patch') :=
    Entries.filter_merge (fun key => !knownFields.contains key) patch patch'
  have hmprops : Entries.mapValues PropValue.normalized m.props =
      Entries.merge (Entries.mapValues PropValue.normalized l.props)
        (Entries.mapValues PropValue.ofValue props) := by
    rw [hm]
    exact Props.Normalized.mapValues_eq_self
      ((Props.Normalized.mapValues_normalized l.props).merge (.mapValues_ofValue props))
  rw [hn, hmprops, hentries, Entries.mapValues_merge, Entries.merge_merge hwritten,
    Entries.merge_merge hunknown, hm]
  rfl

/-! ## What a patch changes -/

/-- A layer that was patched without its children. It keeps its id, how it was made, what stands in
its slot, and all that is not mentioned; but a prop that is a marker object becomes the reference
that it stands for. -/
structure Patched (props patch : Entries Value) (l m : Layer) : Prop where
  sameId : m.id = l.id
  sameRole : m.head.role = l.head.role
  sameSlot : m.slot = l.slot
  sameType : Entries.get? patch "type" = none → m.type = l.type
  sameName : Entries.get? patch "name" = none → m.head.name = l.head.name
  sameExtra : ∀ key ∉ Entries.keys patch,
    Entries.get? m.head.extra key = Entries.get? l.head.extra key
  otherProps : ∀ key ∉ Entries.keys props,
    Entries.get? m.props key = (Entries.get? l.props key).map PropValue.normalized
  sameProps : ∀ key ∉ Entries.keys props, ∀ p, Entries.get? l.props key = some p →
    (∀ v, p = .plain v → v.reference? = none) → Entries.get? m.props key = some p
  writtenProps : ∀ key ∈ Entries.keys props,
    Entries.get? m.props key = (Entries.get? props key).map PropValue.ofValue

theorem patched_of_patched (hprops : (Entries.keys props).Nodup)
    (hchildren : Entries.get? patch "children" = none)
    (h : l.patched props patch s = some (m, t)) : l.Patched props patch m := by
  obtain ⟨-, -, -, htype, hname, hm⟩ := (patched_eq_some_iff hchildren).mp h
  have hwritten : (Entries.keys (Entries.mapValues PropValue.ofValue props)).Nodup := by
    rwa [Entries.keys_mapValues]
  have hmprops : m.props = Entries.merge (Entries.mapValues PropValue.normalized l.props)
      (Entries.mapValues PropValue.ofValue props) := by rw [hm]; rfl
  have hmextra : m.head.extra = Entries.merge l.head.extra (unknownEntries patch) := by rw [hm]; rfl
  have hother : ∀ key ∉ Entries.keys props,
      Entries.get? m.props key = (Entries.get? l.props key).map PropValue.normalized := by
    intro key hkey
    rw [hmprops, Entries.get?_merge_of_not_mem (by rwa [Entries.keys_mapValues]),
      Entries.get?_mapValues]
  refine ⟨id_of_patched h, role_of_patched h, by rw [hm]; rfl, type_of_patched h, fun hnone => ?_,
    fun key hkey => ?_, hother, fun key hkey p hget hplain => ?_, fun key hkey => ?_⟩
  · rw [hnone] at hname
    exact (Option.some.inj hname).symm
  · have hunknown : key ∉ Entries.keys (unknownEntries patch) :=
      fun hmem => hkey ((List.filter_sublist.map Prod.fst).subset hmem)
    rw [hmextra, Entries.get?_merge_of_not_mem hunknown]
  · rw [hother key hkey, hget, Option.map_some, PropValue.normalized_eq_self hplain]
  · obtain ⟨v, hv⟩ := Option.isSome_iff_exists.mp (Entries.has_iff.mpr hkey)
    rw [hmprops, Entries.get?_merge hwritten, Entries.get?_mapValues, hv]
    rfl

end Layer

end LayerDoc
