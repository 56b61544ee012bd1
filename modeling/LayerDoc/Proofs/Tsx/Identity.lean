import LayerDoc.Proofs.Editor.Pages
import LayerDoc.Proofs.Forest.Mapped

/-!
# Generated pages regardless of identity

A generated page shows nothing of who its layers are. Its parts are the same after every change of
attributes that keeps types and props (`Compiler.moduleOf_mapHeads`), so pages that differ in ids,
names and unknown attributes only have one text (`Compiler.code_eq_of_anonymous_eq`); a page and its
duplicate are an instance of this (`Editor.exportPage_duplicate`).
-/

namespace LayerDoc

namespace Tsx

/-- A change of attributes that keeps what generated code takes from them: the type and the
props. -/
structure Keeps (f : Head → Head) : Prop where
  type : ∀ head, (f head).type = head.type
  props : ∀ head, (f head).props = head.props

variable {f : Head → Head}

namespace Element

theorem ofLayer_layers (s : Scope) (head : Head) (items : Forest) :
    ofLayer s (.node head (.layers items)) =
      .mk head.type (Attribute.ofProps s head.props)
        (if (ofLayers s items).isEmpty then .none else .elements (ofLayers s items)) := by
  cases items with
  | nil => rw [ofLayer, ofLayers]; rfl
  | cons first rest => rw [ofLayer, ofLayers]; rfl

theorem ofLayer_leaf (hf : Keeps f) (s : Scope) (head : Head) {slot : Slot Layer}
    (h : slot.isList = false) :
    ofLayer s (.node (f head) slot) = ofLayer s (.node head slot) := by
  cases slot with
  | layers items => cases h
  | text content => rw [ofLayer, ofLayer, hf.type, hf.props]
  | bound variableId => rw [ofLayer, ofLayer, hf.type, hf.props]

theorem ofLayers_mapHeads (hf : Keeps f) (s : Scope) (g : Forest) :
    ofLayers s (Forest.mapHeads f g) = ofLayers s g := by
  induction g using Forest.induction with
  | nil => rw [Forest.mapHeads_nil]
  | leaf head slot rest hslot hrest =>
    rw [Forest.mapHeads_cons, ofLayers, ofLayers, hrest, Layer.mapHeads_leaf head hslot,
      ofLayer_leaf hf s head hslot]
  | layers head items rest hitems hrest =>
    rw [Forest.mapHeads_cons, ofLayers, ofLayers, hrest, Layer.mapHeads_layers, ofLayer_layers,
      ofLayer_layers, hitems, hf.type, hf.props]

end Element

namespace Compiler

theorem imports_mapHeads (hf : Keeps f) (c : Compiler) (g : Forest) :
    c.imports (Forest.mapHeads f g) = c.imports g := by
  have htypes : (Forest.preorder (Forest.mapHeads f g)).map Layer.type =
      (Forest.preorder g).map Layer.type := by
    rw [Forest.preorder_mapHeads, List.map_map]
    exact List.map_congr_left fun l _ => by
      rw [Function.comp_apply, Layer.type, Layer.head_mapHeads, hf.type, Layer.type]
  rw [imports, imports, htypes]

theorem namedFunctions_mapHeads (hf : Keeps f) (l : Layer) :
    namedFunctions [l.mapHeads f] = namedFunctions [l] := by
  have hone : [l.mapHeads f] = Forest.mapHeads f [l] := rfl
  rw [namedFunctions, namedFunctions, hone, Forest.preorder_mapHeads, List.flatMap_map]
  refine List.flatMap_congr fun m _ => ?_
  rw [Layer.props, Layer.head_mapHeads, hf.props, Layer.props]

/-- A page and a page with other attributes, but with the same types and props, have the same
parts. -/
theorem moduleOf_mapHeads (hf : Keeps f) (c : Compiler) (page : Layer) :
    c.moduleOf (page.mapHeads f) = c.moduleOf page := by
  have hroot : c.rootProps (page.mapHeads f) = c.rootProps page := by
    rw [rootProps, rootProps, Layer.props, Layer.head_mapHeads, hf.props, Layer.props]
  rw [moduleOf, moduleOf, functionMembers, functionMembers, Layer.children_mapHeads, hroot,
    imports_mapHeads hf, namedFunctions_mapHeads hf, Element.ofLayers_mapHeads hf]

theorem warnings_mapHeads (hf : Keeps f) (c : Compiler) (page : Layer) :
    c.warnings (page.mapHeads f) = c.warnings page := by
  rw [warnings, warnings, namedFunctions_mapHeads hf, moduleOf_mapHeads hf]

theorem keeps_anonymous : Keeps Head.anonymous := ⟨fun _ => rfl, fun _ => rfl⟩

/-- Pages that are the same but for ids, names and unknown attributes have one text. -/
theorem code_eq_of_anonymous_eq (c : Compiler) {p q : Layer} (h : p.anonymous = q.anonymous) :
    c.code? p = c.code? q ∧ c.warnings p = c.warnings q := by
  have hmodule : c.moduleOf p = c.moduleOf q :=
    calc
      c.moduleOf p = c.moduleOf p.anonymous := (moduleOf_mapHeads keeps_anonymous c p).symm
      _ = c.moduleOf q.anonymous := by rw [h]
      _ = c.moduleOf q := moduleOf_mapHeads keeps_anonymous c q
  have hwarnings : c.warnings p = c.warnings q :=
    calc
      c.warnings p = c.warnings p.anonymous := (warnings_mapHeads keeps_anonymous c p).symm
      _ = c.warnings q.anonymous := by rw [h]
      _ = c.warnings q := warnings_mapHeads keeps_anonymous c q
  rw [code?, code?, hmodule]
  exact ⟨rfl, hwarnings⟩

end Compiler

end Tsx

/-- A page that is put at the end is found by its id, if this is that of no other page, and all
other pages are found as before. -/
theorem Document.page?_of_appended {d : Document} {copy : Layer} (hnew : copy.id ∉ d.pageIds)
    {c : Document} (hpages : c.pages = d.pages ++ [copy]) :
    c.page? copy.id = some copy ∧ ∀ id page, d.page? id = some page → c.page? id = some page := by
  have hnone : d.page? copy.id = none :=
    page?_eq_none_iff.mpr fun page hpage hid => hnew (List.mem_map.mpr ⟨page, hpage, hid⟩)
  have happend : ∀ id, c.page? id = (d.page? id).or (List.find? (·.id == id) [copy]) := by
    intro id
    rw [page?, hpages, List.find?_append, page?]
  refine ⟨?_, fun id page hpage => ?_⟩
  · rw [happend, hnone]
    simp
  · rw [happend, hpage]
    rfl

namespace Editor

variable {e : Editor} {id : String} {page : Layer}

theorem run_duplicatePage (hpage : e.document.page? id = some page) :
    let copy := (page.copyNamed e.store.config.copySuffix e.supply).1
    let outcome := e.run (.duplicateLayer id)
    outcome.reply = e.replyTo outcome.editor.document (.id (some copy.id)) ∧
      outcome.editor.document =
        { e.document with pages := e.document.pages ++ [copy], selectedPage := copy.id } ∧
      outcome.editor.compiler = e.compiler := by
  have hfound : e.store.document.page? id = some page := hpage
  simp only [run, Store.duplicateLayer, hfound]
  exact ⟨rfl, rfl, rfl⟩

theorem id_copyNamed_not_mem_pageIds (hfresh : e.supply.FreshFor e.document.pageIds)
    (page : Layer) :
    (page.copyNamed e.store.config.copySuffix e.supply).1.id ∉ e.document.pageIds := by
  have hid : (page.copyNamed e.store.config.copySuffix e.supply).1.id = e.supply.next.1 :=
    congrArg (fun place => place.2.1)
      (Layer.footing_copyNamed e.store.config.copySuffix page e.supply)
  rw [hid]
  exact hfresh _ le_rfl

theorem exportPage_of_page? {target : String} (h : e.document.page?
    (if target.isEmpty then e.document.selectedPage else target) = some page) :
    e.exportPage (some target) = e.exported page := by
  rw [exportPage, exportTarget, h]

/-- A page and its duplicate are exported as one text, which is that of the page before it was
duplicated. -/
theorem exportPage_duplicate (hpage : e.document.page? id = some page)
    (hfresh : e.supply.FreshFor e.document.pageIds) :
    ∃ copy, (e.run (.duplicateLayer id)).reply =
        e.replyTo (e.run (.duplicateLayer id)).editor.document (.id (some copy)) ∧
      copy ∉ e.document.pageIds ∧
      ∀ target ∈ [id, copy], (e.run (.duplicateLayer id)).editor.exportPage (some target) =
        e.exported page := by
  obtain ⟨hreply, hdocument, hcompiler⟩ := run_duplicatePage hpage
  have hnew := id_copyNamed_not_mem_pageIds hfresh page
  generalize hcopy : (page.copyNamed e.store.config.copySuffix e.supply).1 = copy at *
  have hsame : e.compiler.code? copy = e.compiler.code? page ∧
      e.compiler.warnings copy = e.compiler.warnings page :=
    e.compiler.code_eq_of_anonymous_eq (hcopy ▸ page.anonymous_copyNamed _ _)
  obtain ⟨hcopied, hkept⟩ : (e.run (.duplicateLayer id)).editor.document.page? copy.id = some copy ∧
      (e.run (.duplicateLayer id)).editor.document.page? id = some page := by
    obtain ⟨hcopied, hkept⟩ := Document.page?_of_appended hnew (congrArg Document.pages hdocument)
    exact ⟨hcopied, hkept id page hpage⟩
  have hselected : (e.run (.duplicateLayer id)).editor.document.selectedPage = copy.id := by
    rw [hdocument]
  refine ⟨copy.id, hreply, hnew, fun target htarget => ?_⟩
  have htarget : target = id ∨ target = copy.id := by simpa using htarget
  -- the empty id exports the selected page, which is the duplicate
  obtain ⟨p, hp, hcases⟩ : ∃ p, (e.run (.duplicateLayer id)).editor.document.page?
      (if target.isEmpty then (e.run (.duplicateLayer id)).editor.document.selectedPage
        else target) = some p ∧ (p = page ∨ p = copy) := by
    rw [hselected]
    split
    · exact ⟨copy, hcopied, Or.inr rfl⟩
    · rcases htarget with rfl | rfl
      · exact ⟨page, hkept, Or.inl rfl⟩
      · exact ⟨copy, hcopied, Or.inr rfl⟩
  rw [exportPage_of_page? hp, exported, exported, hcompiler]
  rcases hcases with rfl | rfl
  · rfl
  · rw [hsame.1, hsame.2]

end Editor

namespace Tsx

/-- Generated code does not depend on who the layers are. Two pages that are equal once ids, names
and unknown attributes are taken away at every depth have one text; in particular a copy has the
text of its original, whatever suffix its name gets. So in an editor a page that is duplicated and
its duplicate, which has an id of its own, are exported as what the page was exported as before; the
reply is that id, unless the document with the duplicate cannot be recorded. -/
theorem code_regardless_of_identity :
    (∀ (c : Compiler) (p q : Layer), p.anonymous = q.anonymous → c.code? p = c.code? q) ∧
    (∀ (c : Compiler) (p : Layer) (s : Supply), c.code? (p.copy s).1 = c.code? p ∧
      ∀ suffix, c.code? (p.copyNamed suffix s).1 = c.code? p) ∧
    ∀ (e : Editor) (id : String) (page : Layer), e.document.page? id = some page →
      e.supply.FreshFor e.document.pageIds →
      ∃ copy, (e.run (.duplicateLayer id)).reply =
          e.replyTo (e.run (.duplicateLayer id)).editor.document (.id (some copy)) ∧
        copy ∉ e.document.pageIds ∧
        ∀ target ∈ [id, copy], (e.run (.duplicateLayer id)).editor.exportPage (some target) =
          e.exported page := by
  refine ⟨fun c p q h => (c.code_eq_of_anonymous_eq h).1, fun c p s => ⟨?_, fun suffix => ?_⟩,
    fun e id page => Editor.exportPage_duplicate⟩
  · exact (c.code_eq_of_anonymous_eq (p.anonymous_copy s)).1
  · exact (c.code_eq_of_anonymous_eq (p.anonymous_copyNamed suffix s)).1

/-- Two pages with a box around a button are told apart by every id and name and by an attribute
that is unknown. The first is the only page of an editor and is duplicated there. -/
theorem code_of_renamed_home :
    let home : Layer :=
      .node ⟨.page, "home", pageType, some "Home", [("mode", .plain (.str "dark"))], []⟩
      (.layers [.node ⟨.component, "a", "Box", none, [("title", .bound "v")], []⟩
        (.layers [.node ⟨.component, "b", "Button", some "Ok",
          [("__function_onClick", .plain (.str "save"))], [("note", .int 1)]⟩ (.bound "v")])])
    let start : Layer :=
      .node ⟨.page, "start", pageType, none, [("mode", .plain (.str "dark"))], []⟩
      (.layers [.node ⟨.component, "x", "Box", some "Frame", [("title", .bound "v")], []⟩
        (.layers [.node ⟨.component, "x", "Button", none,
          [("__function_onClick", .plain (.str "save"))], []⟩ (.bound "v")])])
    let e := Editor.start [] [("save", ⟨none, none, none⟩)] .default
      (some ⟨[home], "home", none, [⟨"v", "label", .string, .str "Save"⟩]⟩) .start
    (home.anonymous = start.anonymous ∧ e.compiler.code? home = e.compiler.code? start) ∧
    (e.document.page? "home" = some home ∧ e.supply.FreshFor e.document.pageIds) ∧
    ∃ copy, (e.run (.duplicateLayer "home")).reply = .id (some copy) ∧
      copy ∉ e.document.pageIds ∧
      ∀ target ∈ ["home", copy], (e.run (.duplicateLayer "home")).editor.exportPage (some target) =
        e.exported home := by
  intro home start e
  obtain ⟨hpages, -, hduplicate⟩ := code_regardless_of_identity
  have hsame : home.anonymous = start.anonymous := by
    simp [home, start, Layer.anonymous, Layer.mapHeads, Forest.mapHeads, Head.anonymous]
  have hpage : e.document.page? "home" = some home := rfl
  have hfresh : e.supply.FreshFor e.document.pageIds :=
    Supply.freshFor_of_label_eq rfl (by decide)
  obtain ⟨copy, hmade, hcopy⟩ := hduplicate e "home" home hpage hfresh
  have hreply : (e.run (.duplicateLayer "home")).reply = .id (some copy) := by
    have hrecorded : (e.run (.duplicateLayer "home")).reply =
        .id (some (Supply.groupLabel 0)) := by decide +kernel
    rw [hrecorded, Editor.replyTo] at hmade
    split at hmade
    · exact hrecorded.trans hmade
    · cases hmade
  exact ⟨⟨hsame, hpages e.compiler home start hsame⟩, ⟨hpage, hfresh⟩, copy, hreply, hcopy⟩

end Tsx

end LayerDoc
