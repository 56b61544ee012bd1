import LayerDoc.Proofs.Tsx.Outline

/-!
# Imports and tags

The imports of a page and the elements of its body are made by two walks through its layers. Both
meet the layers in the same order: the tags on the lines of the body are the types of the layers as
they are listed (`Compiler.tags_eq`). Of the tags each type counts where it first occurs
(`pairwise_idxOf_distinct`), and the statements are those of the types with a source
(`Compiler.imports_of_tags`).
-/

namespace LayerDoc.Tsx

/-! ## Names without repetition -/

theorem distinct_nil : distinct [] = [] := rfl

theorem distinct_concat (names : List String) (name : String) :
    distinct (names ++ [name]) =
      if name ∈ distinct names then distinct names else distinct names ++ [name] := by
  unfold distinct
  rw [List.foldl_append, List.foldl_cons, List.foldl_nil]
  by_cases hseen : name ∈ names.foldl (fun seen n => if seen.contains n then seen else n :: seen) []
  · rw [if_pos (List.contains_iff_mem.mpr hseen), if_pos (List.mem_reverse.mpr hseen)]
  · rw [if_neg (fun h => hseen (List.contains_iff_mem.mp h)),
      if_neg (fun h => hseen (List.mem_reverse.mp h)), List.reverse_cons]

theorem mem_distinct {names : List String} {name : String} :
    name ∈ distinct names ↔ name ∈ names := by
  induction names using List.reverseRecOn with
  | nil => rw [distinct_nil]
  | append_singleton names last ih =>
    rw [distinct_concat, List.mem_append, List.mem_singleton]
    split
    · next hseen =>
      rw [ih]
      exact ⟨Or.inl, fun h => h.elim id fun he => he ▸ ih.mp (he ▸ hseen)⟩
    · rw [List.mem_append, List.mem_singleton, ih]

/-- The names come in the order in which they first occur. -/
theorem pairwise_idxOf_distinct (names : List String) :
    (distinct names).Pairwise fun a b => names.idxOf a < names.idxOf b := by
  induction names using List.reverseRecOn with
  | nil => exact .nil
  | append_singleton names last ih =>
    have hbefore : (distinct names).Pairwise fun a b =>
        (names ++ [last]).idxOf a < (names ++ [last]).idxOf b := by
      refine ih.imp_of_mem fun {a b} ha hb hlt => ?_
      rwa [List.idxOf_append_of_mem (mem_distinct.mp ha),
        List.idxOf_append_of_mem (mem_distinct.mp hb)]
    rw [distinct_concat]
    split
    · exact hbefore
    · next hnew =>
      refine List.pairwise_append.mpr ⟨hbefore, List.pairwise_singleton _ _, fun a ha b hb => ?_⟩
      rw [List.mem_singleton] at hb
      subst hb
      rw [mem_distinct] at ha hnew
      have hlt := List.idxOf_lt_length_of_mem ha
      rw [List.idxOf_append_of_mem ha, List.idxOf_append_of_notMem hnew]
      omega

/-! ## Tags -/

/-- The tag of the element that a line of this kind begins, if it begins one. -/
def Mark.tag? : Mark → Option String
  | .opening tag _ => some tag
  | .whole tag _ => some tag
  | _ => none

/-- The tags on lines, from the top to the bottom. -/
def tagsOf (lines : List Line) : List String := lines.filterMap (·.mark.tag?)

theorem tagsOf_append (front back : List Line) :
    tagsOf (front ++ back) = tagsOf front ++ tagsOf back :=
  List.filterMap_append

/-- The tags on the lines of layers are the types of the layers as they are listed. -/
theorem tagsOf_itemLines (s : Scope) (f : Forest) (depth : Nat) :
    tagsOf (Outline.itemLines depth (Outline.ofLayers s f)) =
      (Forest.preorder f).map Layer.type := by
  induction f using Forest.induction generalizing depth with
  | nil => rfl
  | leaf head slot rest hslot hrest =>
    rw [Outline.ofLayers_cons, Outline.itemLines_cons, tagsOf_append, hrest, Forest.preorder_cons,
      Layer.preorder_leaf head hslot, List.map_append]
    congr 1
    cases slot with
    | layers items => cases hslot
    | text content =>
      rw [Outline.ofLayer]
      split <;> rfl
    | bound variableId =>
      rw [Outline.ofLayer]
      rfl
  | layers head items rest hitems hrest =>
    rw [Outline.ofLayers_cons, Outline.ofLayer_layers, Outline.itemLines_ofOutlines, tagsOf_append,
      hrest, Forest.preorder_cons, Layer.preorder_layers, List.map_append]
    congr 1
    cases items with
    | nil => simp [Outline.ofLayers, tagsOf, Mark.tag?, Layer.type]
    | cons first others =>
      have hinside := hitems (depth + 1)
      rw [Outline.ofLayers] at hinside ⊢
      rw [if_neg (by simp), ← List.singleton_append, tagsOf_append, tagsOf_append, hinside]
      simp [tagsOf, Mark.tag?, Layer.type]

namespace Compiler

/-- The lines of the body of a page, as what they are. -/
def lines (c : Compiler) (page : Layer) : List Line :=
  Outline.itemLines 3 (Outline.ofLayers c.scope page.children)

theorem bodyLines_eq (c : Compiler) (page : Layer) :
    (c.moduleOf page).bodyLines = (c.lines page).map Line.text := by
  have hone := Outline.itemLines_eq_text c.scope page.children 1
  rw [Nat.cast_one] at hone
  rw [Module.bodyLines, moduleOf, hone, lines, Outline.map_text_itemLines_add 2 1]
  rfl

/-- The tags in the body of a page, from the top to the bottom. -/
def tags (c : Compiler) (page : Layer) : List String := tagsOf (c.lines page)

theorem tags_eq (c : Compiler) (page : Layer) :
    c.tags page = (Forest.preorder page.children).map Layer.type :=
  tagsOf_itemLines c.scope page.children 3

/-- The tags can be read off the text of the body if the types are tags. -/
theorem filterMap_read?_bodyLines (c : Compiler) {page : Layer}
    (htags : ∀ l ∈ Forest.preorder page.children, IsTag l.type) :
    (c.moduleOf page).bodyLines.filterMap (fun text => (Line.read? text).bind Mark.tag?) =
      c.tags page := by
  rw [bodyLines_eq, List.filterMap_map, tags, tagsOf]
  refine List.filterMap_congr fun line hline => ?_
  rw [Function.comp_apply,
    Line.read?_text (Outline.readable_itemLines_ofLayers htags 3 line hline), Option.bind_some]

/-! ## Statements -/

/-- A type is registered with a source that is not empty, and the statement imports it from there,
by name or as the default export as its entry says. -/
def ImportedBy (c : Compiler) (type statement : String) : Prop :=
  ∃ entry source, Entries.get? c.registry type = some entry ∧ entry.source = some source ∧
    source ≠ "" ∧ statement = importStatement type source entry.isDefaultExport

theorem importOf_eq_some_iff {c : Compiler} {type statement : String} :
    c.importOf type = some statement ↔ c.ImportedBy type statement := by
  unfold importOf ImportedBy
  cases Entries.get? c.registry type with
  | none => simp
  | some entry =>
    cases hsource : entry.source with
    | none => simp [hsource]
    | some source =>
      by_cases hempty : source = ""
      · simp [hsource, hempty]
      · have hsome : source.isEmpty = false := by simpa using hempty
        simp only [Option.bind_some, hsource, hsome, Bool.false_eq_true, if_false,
          Option.some.injEq]
        constructor
        · rintro rfl
          exact ⟨entry, source, rfl, hsource, hempty, rfl⟩
        · rintro ⟨_, _, rfl, hsource', -, rfl⟩
          rw [hsource] at hsource'
          rw [Option.some.inj hsource']

/-- For the types with a source, in their order, there is one statement each. -/
theorem forall₂_importedBy (c : Compiler) (types : List String) :
    List.Forall₂ c.ImportedBy (types.filter fun type => (c.importOf type).isSome)
      (types.filterMap c.importOf) := by
  induction types with
  | nil => exact .nil
  | cons type rest ih =>
    cases hstatement : c.importOf type with
    | none =>
      rw [List.filter_cons_of_neg (by simp [hstatement]), List.filterMap_cons_none hstatement]
      exact ih
    | some statement =>
      rw [List.filter_cons_of_pos (by simp [hstatement]), List.filterMap_cons_some hstatement]
      exact .cons (importOf_eq_some_iff.mp hstatement) ih

/-- The imports of a page are the statements for the types among the tags of its body that are
registered with a source, one for each type and in the order in which these types first occur in the
body. The tags in the body are the types of the layers below the page, and they can be read off its
text if the types can stand as tags. -/
theorem imports_of_tags (c : Compiler) (page : Layer) :
    (∃ types, List.Forall₂ c.ImportedBy types (c.moduleOf page).imports ∧ types.Nodup ∧
      (∀ type, type ∈ types ↔
        type ∈ c.tags page ∧ ∃ statement, c.ImportedBy type statement) ∧
      types.Pairwise fun a b => (c.tags page).idxOf a < (c.tags page).idxOf b) ∧
    (c.moduleOf page).bodyLines = (c.lines page).map Line.text ∧
    c.tags page = (Forest.preorder page.children).map Layer.type ∧
    ((∀ l ∈ Forest.preorder page.children, IsTag l.type) →
      (c.moduleOf page).bodyLines.filterMap (fun text => (Line.read? text).bind Mark.tag?) =
        c.tags page) := by
  have himports : (c.moduleOf page).imports = (distinct (c.tags page)).filterMap c.importOf := by
    rw [tags_eq]
    rfl
  have horder := (pairwise_idxOf_distinct (c.tags page)).filter
    fun type => (c.importOf type).isSome
  refine ⟨⟨_, himports ▸ forall₂_importedBy c _, ?_, fun type => ?_, horder⟩, bodyLines_eq c page,
    tags_eq c page, filterMap_read?_bodyLines c⟩
  · exact horder.imp fun hlt => ne_of_apply_ne (c.tags page).idxOf (Nat.ne_of_lt hlt)
  · rw [List.mem_filter, mem_distinct, Option.isSome_iff_exists]
    simp only [importOf_eq_some_iff]

/-- A list in a card, twice, and a card in the list. The button has no source, the icon is not
registered, and the page has a type with a source that no layer below it has. -/
theorem imports_of_nested_card :
    let entry (source : Option String) (isDefault : Bool) : RegistryEntry :=
      ⟨[], source, isDefault, none, [], [], none⟩
    let layer (id type : String) (slot : Slot Layer) : Layer :=
      .node ⟨.component, id, type, none, [], []⟩ slot
    let page : Layer := .node ⟨.page, "p", "Page", none, [], []⟩ (.layers
      [layer "a" "Icon" (.bound "v"),
        layer "b" "List" (.layers [layer "c" "Card" (.layers [layer "d" "List" (.text "Hello")])]),
        layer "e" "Button" (.layers []), layer "f" "Card" (.text "")])
    let c : Compiler :=
      ⟨[("Card", entry (some "./card") true), ("List", entry (some "./list") false),
      ("Page", entry (some "./page") false), ("Button", entry (some "") false)], [], [], []⟩
    (∀ l ∈ Forest.preorder page.children, IsTag l.type) ∧
      c.tags page = ["Icon", "List", "Card", "List", "Button", "Card"] ∧
      (c.moduleOf page).bodyLines.filterMap (fun text => (Line.read? text).bind Mark.tag?) =
        c.tags page ∧
      (∃ types, List.Forall₂ c.ImportedBy types (c.moduleOf page).imports ∧
        types.Pairwise fun a b => (c.tags page).idxOf a < (c.tags page).idxOf b) ∧
      (c.moduleOf page).imports =
        ["import " ++ Text.braced " List " ++ " from \"./list\";",
          "import Card from \"./card\";"] := by
  intro entry layer page c
  obtain ⟨⟨types, hstatements, -, -, horder⟩, -, htags, hread⟩ := imports_of_tags c page
  have hnames : ∀ l ∈ Forest.preorder page.children, IsTag l.type := by
    intro l hl
    have htypes : (Forest.preorder page.children).map Layer.type =
        ["Icon", "List", "Card", "List", "Button", "Card"] := rfl
    have hmem : l.type ∈ ["Icon", "List", "Card", "List", "Button", "Card"] :=
      htypes ▸ List.mem_map_of_mem hl
    simp only [List.mem_cons, List.not_mem_nil, or_false] at hmem
    rcases hmem with h | h | h | h | h | h <;> rw [h] <;> exact isTag_of_name (by decide) (by simp)
  exact ⟨hnames, htags, hread hnames, ⟨types, hstatements, horder⟩, by decide +kernel⟩

end Compiler

end LayerDoc.Tsx
