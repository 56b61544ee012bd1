import LayerDoc.Proofs.Entries
import LayerDoc.Proofs.Forest.Parents
import LayerDoc.Proofs.Forest.Rewriting
import Mathlib.Data.List.Forall2

/-!
# What goes with a variable

When a variable is removed, the bindings to it go, wherever they are, and nothing else does. A prop
that was bound to it falls back to its default in its place, or goes if it has none
(`Props.Freed`); bound children fall back to a text (`Layer.Freed`). The layers of the new pages,
from the top down, are those of the old ones freed in this way (`Store.frees_removed_variable`).
-/

namespace LayerDoc

/-! ## Props -/

/-- A prop that is still there when the variable has gone: it is not bound to it, or it has a
default. -/
def Props.Stays (variableId : String) (defaults : Entries Value) (p : String × PropValue) : Prop :=
  p.2.reference? ≠ some variableId ∨ (Entries.get? defaults p.1).isSome = true

instance (variableId : String) (defaults : Entries Value) (p : String × PropValue) :
    Decidable (Props.Stays variableId defaults p) :=
  inferInstanceAs (Decidable (_ ∨ _))

/-- A prop before and after the variable has gone. -/
structure Props.FallsBack (variableId : String) (defaults : Entries Value)
    (p q : String × PropValue) : Prop where
  key : q.1 = p.1
  free : p.2.reference? ≠ some variableId → q.2 = p.2
  bound : p.2.reference? = some variableId →
    ∃ v, Entries.get? defaults p.1 = some v ∧ q.2 = .plain v

/-- The props of a layer before and after a variable has gone. -/
structure Props.Freed (variableId : String) (defaults : Entries Value) (before after : Props) :
    Prop where
  /-- What stays keeps its place. -/
  places : List.Forall₂ (FallsBack variableId defaults)
    (before.filter (Stays variableId defaults)) after
  /-- The value under each key, which is there once at most. -/
  values : (Entries.keys before).Nodup → ∀ key, Entries.get? after key =
    (Entries.get? before key).bind fun p =>
      if p.reference? = some variableId then (Entries.get? defaults key).map .plain else some p

/-- What comes second in one of the pairs has what comes first in it. -/
theorem exists_of_mem_right {α β : Type} {R : α → β → Prop} {as : List α} {bs : List β}
    (h : List.Forall₂ R as bs) {b : β} (hb : b ∈ bs) : ∃ a ∈ as, R a b := by
  induction h with
  | nil => cases hb
  | cons hab _ ih =>
    rcases List.mem_cons.mp hb with rfl | hb
    · exact ⟨_, List.mem_cons_self, hab⟩
    · obtain ⟨a, ha, hR⟩ := ih hb
      exact ⟨a, List.mem_cons_of_mem _ ha, hR⟩

namespace Props

variable {variableId : String} {defaults : Entries Value}

theorem released_cons_free {p : String × PropValue} (h : p.2.reference? ≠ some variableId)
    (rest : Props) :
    released variableId defaults (p :: rest) = p :: released variableId defaults rest := by
  rw [released, List.filterMap_cons_some (by simp only [h, if_false]; rfl), released]

theorem released_cons_default {p : String × PropValue} {v : Value}
    (h : p.2.reference? = some variableId) (hdefault : Entries.get? defaults p.1 = some v)
    (rest : Props) :
    released variableId defaults (p :: rest) =
      (p.1, .plain v) :: released variableId defaults rest := by
  rw [released, List.filterMap_cons_some (by simp only [h, if_true, hdefault]; rfl),
    released]

theorem released_cons_gone {p : String × PropValue} (h : p.2.reference? = some variableId)
    (hdefault : Entries.get? defaults p.1 = none) (rest : Props) :
    released variableId defaults (p :: rest) = released variableId defaults rest := by
  rw [released, List.filterMap_cons_none (by simp only [h, if_true, hdefault]; rfl), released]

theorem forall₂_released (props : Props) :
    List.Forall₂ (FallsBack variableId defaults) (props.filter (Stays variableId defaults))
      (props.released variableId defaults) := by
  induction props with
  | nil => exact .nil
  | cons p rest ih =>
    by_cases hbound : p.2.reference? = some variableId
    · cases hdefault : Entries.get? defaults p.1 with
      | none =>
        have hgoes : ¬ Stays variableId defaults p := by simp [Stays, hbound, hdefault]
        rw [List.filter_cons_of_neg (by simpa using hgoes), released_cons_gone hbound hdefault]
        exact ih
      | some v =>
        have hstays : Stays variableId defaults p := Or.inr (by rw [hdefault]; rfl)
        rw [List.filter_cons_of_pos (by simpa using hstays), released_cons_default hbound hdefault]
        exact .cons ⟨rfl, fun hfree => absurd hbound hfree, fun _ => ⟨v, hdefault, rfl⟩⟩ ih
    · have hstays : Stays variableId defaults p := Or.inl hbound
      rw [List.filter_cons_of_pos (by simpa using hstays), released_cons_free hbound]
      exact .cons ⟨rfl, fun _ => rfl, fun h => absurd h hbound⟩ ih

theorem keys_released_subset (props : Props) :
    Entries.keys (props.released variableId defaults) ⊆ Entries.keys props := by
  intro key hkey
  obtain ⟨q, hq, rfl⟩ := List.mem_map.mp hkey
  obtain ⟨p, hp, hfrom⟩ := List.mem_filterMap.mp hq
  have hsame : q.1 = p.1 := by
    split at hfrom
    · obtain ⟨v, -, rfl⟩ := Option.map_eq_some_iff.mp hfrom
      rfl
    · rw [Option.some.inj hfrom]
  rw [hsame]
  exact List.mem_map_of_mem hp

theorem get?_released {props : Props} (hkeys : (Entries.keys props).Nodup) (key : String) :
    Entries.get? (props.released variableId defaults) key =
      (Entries.get? props key).bind fun p =>
        if p.reference? = some variableId then (Entries.get? defaults key).map .plain
        else some p := by
  induction props with
  | nil => rfl
  | cons p rest ih =>
    obtain ⟨hnew, hrest⟩ := List.nodup_cons.mp hkeys
    by_cases hkey : p.1 = key
    · -- the key does not come again, so what is found is what became of this prop
      subst hkey
      have hgone : Entries.get? (released variableId defaults rest) p.1 = none :=
        Entries.get?_eq_none_iff.mpr fun h => hnew (keys_released_subset rest h)
      have hhere : ∀ q, Entries.get? ((p.1, q) :: released variableId defaults rest) p.1 = some q :=
        fun q => if_pos rfl
      rw [Entries.get?, if_pos rfl, Option.bind_some]
      by_cases hbound : p.2.reference? = some variableId
      · cases hdefault : Entries.get? defaults p.1 with
        | none => rw [released_cons_gone hbound hdefault, hgone, if_pos hbound, Option.map_none]
        | some v =>
          rw [released_cons_default hbound hdefault, hhere, if_pos hbound, Option.map_some]
      · rw [released_cons_free hbound, if_neg hbound]
        exact hhere p.2
    · have hlater : Entries.get? (released variableId defaults (p :: rest)) key =
          Entries.get? (released variableId defaults rest) key := by
        by_cases hbound : p.2.reference? = some variableId
        · cases hdefault : Entries.get? defaults p.1 with
          | none => rw [released_cons_gone hbound hdefault]
          | some v => rw [released_cons_default hbound hdefault, Entries.get?, if_neg hkey]
        · rw [released_cons_free hbound, Entries.get?, if_neg hkey]
      rw [hlater, ih hrest, Entries.get?, if_neg hkey]

theorem freed_released (props : Props) :
    Freed variableId defaults props (props.released variableId defaults) :=
  ⟨forall₂_released props, get?_released⟩

/-- If no default is a reference to the variable, no prop is one when the variable has gone. -/
theorem Freed.reference?_ne {before after : Props} (h : Freed variableId defaults before after)
    (hdefaults : ∀ e ∈ defaults, e.2.reference? ≠ some variableId) {q : String × PropValue}
    (hq : q ∈ after) : q.2.reference? ≠ some variableId := by
  obtain ⟨p, -, hp⟩ := exists_of_mem_right h.places hq
  by_cases hbound : p.2.reference? = some variableId
  · obtain ⟨v, hv, hvalue⟩ := hp.bound hbound
    rw [hvalue]
    exact hdefaults _ (Entries.mem_of_get?_eq_some hv)
  · rw [hp.free hbound]
    exact hbound

end Props

/-! ## Layers -/

/-- A children slot before and after the variable has gone. -/
inductive Slot.Freed (variableId text : String) : Slot Layer → Slot Layer → Prop
  /-- A list keeps its length; what became of the layers in it is said of each on its own. -/
  | layers {items items' : Forest} (hids : items'.map Layer.id = items.map Layer.id) :
    Freed variableId text (.layers items) (.layers items')
  | text (content : String) : Freed variableId text (.text content) (.text content)
  | bound {other : String} (hother : other ≠ variableId) :
    Freed variableId text (.bound other) (.bound other)
  | fallsBack : Freed variableId text (.bound variableId) (.text text)

theorem Slot.Freed.reference?_ne {variableId text : String} {before after : Slot Layer}
    (h : Slot.Freed variableId text before after) : after.reference? ≠ some variableId := by
  cases h with
  | layers hids => exact nofun
  | text content => exact nofun
  | bound hother => exact fun he => hother (Option.some.inj he)
  | fallsBack => exact nofun

namespace Layer

/-- A layer before and after a variable has gone: its props and its children are freed, and the rest
of it stays. -/
structure Freed (registry : Registry) (variableId : String) (before after : Layer) : Prop where
  head : after.head = { before.head with props := after.props }
  props : Props.Freed variableId (registry.defaultProps before.type) before.props after.props
  slot : Slot.Freed variableId (registry.defaultText before.type) before.slot after.slot

variable (registry : Registry) (variableId : String)

theorem map_id_releasedItems (items : Forest) :
    (releasedItems registry variableId items).map id = items.map id :=
  map_id_of_map_footing (Forest.map_footing_releasedItems registry variableId items)

theorem released_layers (head : Head) (items : Forest) :
    released registry variableId (.node head (.layers items)) =
      .node (releasedHead registry variableId head)
        (.layers (releasedItems registry variableId items)) := rfl

theorem freed_released (l : Layer) :
    Freed registry variableId l (released registry variableId l) := by
  obtain ⟨head, slot⟩ := l
  have hprops : Props.Freed variableId (registry.defaultProps head.type) head.props
      (releasedHead registry variableId head).props := Props.freed_released head.props
  cases slot with
  | layers items => exact ⟨rfl, hprops, .layers (map_id_releasedItems registry variableId items)⟩
  | text content => exact ⟨rfl, hprops, .text content⟩
  | bound other =>
    rw [released]
    refine ⟨rfl, hprops, ?_⟩
    by_cases hother : other = variableId
    · subst hother
      rw [if_pos rfl]
      exact .fallsBack
    · rw [if_neg hother]
      exact .bound hother

end Layer

namespace Forest

/-- What is listed of the new forest is what became of the layers that were listed, one by one. -/
theorem preorder_releasedItems (registry : Registry) (variableId : String) (f : Forest) :
    preorder (Layer.releasedItems registry variableId f) =
      (preorder f).map (Layer.released registry variableId) := by
  induction f using Forest.induction with
  | nil => rw [releasedItems_nil, preorder_nil, List.map_nil]
  | leaf head slot rest hslot hrest =>
    obtain ⟨slot', hslot', he⟩ := releasedItems_leaf registry variableId head hslot rest
    rw [releasedItems_cons] at he
    have hlayer := (List.cons.inj he).1
    rw [releasedItems_cons, preorder_cons, preorder_cons, hrest, List.map_append, hlayer,
      Layer.preorder_leaf head hslot, Layer.preorder_leaf _ hslot', List.map_singleton, hlayer]
  | layers head items rest hitems hrest =>
    rw [releasedItems_layers, preorder_cons, preorder_cons, hrest, List.map_append,
      Layer.preorder_layers, Layer.preorder_layers, hitems, List.map_cons, Layer.released_layers]

theorem forall₂_freed (registry : Registry) (variableId : String) (f : Forest) :
    List.Forall₂ (Layer.Freed registry variableId) (preorder f)
      (preorder (Layer.releasedItems registry variableId f)) := by
  rw [preorder_releasedItems, List.forall₂_map_right_iff, List.forall₂_same]
  exact fun l _ => Layer.freed_released registry variableId l

end Forest

/-- A document before and after a variable has gone. -/
structure Document.Freed (registry : Registry) (variableId : String) (before after : Document) :
    Prop where
  pages : after.pages.map Layer.id = before.pages.map Layer.id
  /-- Layer by layer, from the top of the first page down to the end of the last one. -/
  layers : List.Forall₂ (Layer.Freed registry variableId) (Forest.preorder before.pages)
    (Forest.preorder after.pages)
  selectedPage : after.selectedPage = before.selectedPage
  selectedLayer : after.selectedLayer = before.selectedLayer
  vars : after.vars = before.vars.filter (·.id ≠ variableId)

/-- No prop and no children slot of a document refers to a variable. -/
def Document.FreeOf (variableId : String) (d : Document) : Prop :=
  ∀ l ∈ Forest.preorder d.pages,
    (∀ p ∈ l.props, p.2.reference? ≠ some variableId) ∧ l.slot.reference? ≠ some variableId

namespace Document.Freed

variable {registry : Registry} {variableId : String} {before after : Document}

theorem forall_id_ne (h : before.Freed registry variableId after) :
    ∀ v ∈ after.vars, v.id ≠ variableId := by
  intro v hv
  rw [h.vars, List.mem_filter] at hv
  exact of_decide_eq_true hv.2

/-- A default may be a reference to the variable; otherwise nothing refers to it any more. -/
theorem freeOf (h : before.Freed registry variableId after)
    (hdefaults : ∀ type, ∀ e ∈ registry.defaultProps type, e.2.reference? ≠ some variableId) :
    after.FreeOf variableId := by
  intro m hm
  obtain ⟨l, -, hl⟩ := exists_of_mem_right h.layers hm
  exact ⟨fun q hq => hl.props.reference?_ne (hdefaults l.type) hq, hl.slot.reference?_ne⟩

end Document.Freed

namespace Store

variable {st : Store} {variableId : String}

theorem removeVariable_of_mem (h : variableId ∈ st.document.vars.map Variable.id) (s : Supply) :
    st.removeVariable s variableId =
      Edit.commit ()
        { st.document with
          pages := Layer.releasedItems st.registry variableId st.document.pages
          vars := st.document.vars.filter (·.id ≠ variableId) }
        s [] := by
  obtain ⟨v, hv, hid⟩ := List.mem_map.mp h
  have hfound : (Variable.find? st.document.vars variableId).isSome = true :=
    List.find?_isSome.mpr ⟨v, hv, by simpa using hid⟩
  obtain ⟨found, hfound⟩ := Option.isSome_iff_exists.mp hfound
  simp only [removeVariable, hfound]

/-- The removal of a variable that is there frees every layer of every page from it, leaves all else
as it is, and takes every variable of that id away. Nothing refers to the variable any more, unless
a default does. -/
theorem frees_removed_variable (h : variableId ∈ st.document.vars.map Variable.id) (s : Supply) :
    ∃ after, st.removeVariable s variableId = Edit.commit () after s [] ∧
      st.document.Freed st.registry variableId after ∧ (∀ v ∈ after.vars, v.id ≠ variableId) ∧
      ((∀ type, ∀ e ∈ st.registry.defaultProps type, e.2.reference? ≠ some variableId) →
        after.FreeOf variableId) := by
  have hfreed : st.document.Freed st.registry variableId
      { st.document with
        pages := Layer.releasedItems st.registry variableId st.document.pages
        vars := st.document.vars.filter (·.id ≠ variableId) } :=
    ⟨Layer.map_id_releasedItems st.registry variableId st.document.pages,
      Forest.forall₂_freed st.registry variableId st.document.pages, rfl, rfl, rfl⟩
  exact ⟨_, removeVariable_of_mem h s, hfreed, hfreed.forall_id_ne, hfreed.freeOf⟩

/-- A title falls back to its default, a colour without one goes, and bound children become the
default text, also on the page that is not selected. -/
theorem frees_title_color_and_text :
    let text (id : String) (props : Props) (slot : Slot Layer) : Layer :=
      .node ⟨.component, id, "Text", none, props, []⟩ slot
    let page (id : String) (props : Props) (items : Forest) : Layer :=
      .node ⟨.page, id, "Page", none, props, []⟩ (.layers items)
    let entry : RegistryEntry :=
      ⟨[("title", ⟨"string", false, some (.str "Untitled"), none, none⟩)], none, false,
        some (.text "Hello"), [], [], none⟩
    let st : Store := ⟨[("Text", entry)], [], .default,
      ⟨[page "p" [] [text "a"
            [("color", .bound "v"), ("title", .bound "v"), ("size", .bound "w")] (.bound "v")],
          page "q" [("color", .bound "v")] [text "b" [] (.bound "w")]],
        "p", some "a", [⟨"v", "label", .string, .null⟩, ⟨"w", "other", .string, .null⟩]⟩⟩
    "v" ∈ st.document.vars.map Variable.id ∧
      ∃ after, st.removeVariable .start "v" = Edit.commit () after .start [] ∧
        st.document.Freed st.registry "v" after ∧ (∀ v ∈ after.vars, v.id ≠ "v") ∧
        after.FreeOf "v" ∧
        after.pages = [page "p" [] [text "a"
            [("title", .plain (.str "Untitled")), ("size", .bound "w")] (.text "Hello")],
          page "q" [] [text "b" [] (.bound "w")]] := by
  intro text page entry st
  have hv : "v" ∈ st.document.vars.map Variable.id := by decide
  obtain ⟨after, hcommit, hfreed, hgone, hfree⟩ := frees_removed_variable hv .start
  have hdefaults : ∀ type, ∀ e ∈ st.registry.defaultProps type, e.2.reference? ≠ some "v" := by
    intro type e he
    by_cases htype : "Text" = type
    · subst htype
      have hentry : st.registry.defaultProps "Text" = [("title", .str "Untitled")] := by rfl
      rw [hentry, List.mem_singleton] at he
      subst he
      exact nofun
    · have hnone : st.registry.defaultProps type = [] := by
        simp only [st, Registry.defaultProps, Entries.get?, if_neg htype]
      rw [hnone] at he
      cases he
  refine ⟨hv, after, hcommit, hfreed, hgone, hfree hdefaults, ?_⟩
  have hpages : (st.removeVariable .start "v").committed.map Document.pages = some _ := rfl
  rw [hcommit] at hpages
  exact (Option.some.inj hpages).trans rfl

end Store

end LayerDoc
