import LayerDoc.CommandLine
import LayerDoc.Proofs.Json.Reading
import LayerDoc.Proofs.Tsx.Closed
import LayerDoc.Proofs.Tsx.Imports

/-!
# Data in generated code

The lines of each layer stand together among the lines of the body (`Outline.exists_isInfix_lines`).
So a text below a page has a line of its own between those of its layer, and a list or an object
among the props stands in braces on the line that begins the element. What stands there is compact
JSON that a reader takes for the data (`CommandLine.exports_exact_data`), unless a whole number in
it has too many digits to be written (`CommandLine.exports_no_long_number`).
-/

namespace LayerDoc

/-- Whether a value is a list or an object. -/
def Value.isContainer : Value → Bool
  | .list _ => true
  | .object _ => true
  | _ => false

namespace Json

/-- A text is written for a value and read as it, and has no control character. -/
structure Keeps (v : Value) (text : String) : Prop where
  written : text? .code v = some text
  read : parse text = some v
  printed : Text.IsPrinted text

theorem keeps_line {v : Value} (hv : v.isExact = true) (hcode : v.hasCode = true) :
    Keeps v (line .code v) :=
  ⟨if_pos hcode, parse_line hv, Value.isPrinted_line v hv⟩

theorem eq_of_text? {v w : Value} (hv : v.isExact = true) (hw : w.isExact = true) {text : String}
    (hvtext : text? .code v = some text) (hwtext : text? .code w = some text) : v = w := by
  have hline : ∀ u : Value, text? .code u = some text → line .code u = text := by
    intro u hu
    rw [text?] at hu
    split at hu
    · exact Option.some.inj hu
    · cases hu
  exact line_injective hv hw ((hline v hvtext).trans (hline w hwtext).symm)

end Json

namespace Tsx

/-! ## Lines of one layer -/

namespace Outline

/-- The lines of a layer stand together among those of a forest that it is listed in. -/
theorem exists_isInfix_lines (s : Scope) {f : Forest} {l : Layer} (hl : l ∈ Forest.preorder f)
    (depth : Nat) : ∃ d, lines d (ofLayer s l) <:+: itemLines depth (ofLayers s f) := by
  induction f using Forest.induction generalizing depth with
  | nil => cases hl
  | leaf head slot rest hslot hrest =>
    rw [Forest.preorder_cons, Layer.preorder_leaf head hslot, List.singleton_append,
      List.mem_cons] at hl
    rw [ofLayers_cons, itemLines_cons]
    rcases hl with rfl | hl
    · exact ⟨depth, (List.prefix_append _ _).isInfix⟩
    · obtain ⟨d, hd⟩ := hrest hl depth
      exact ⟨d, hd.trans (List.suffix_append _ _).isInfix⟩
  | layers head items rest hitems hrest =>
    rw [Forest.preorder_cons, Layer.preorder_layers, List.cons_append, List.mem_cons,
      List.mem_append] at hl
    rcases hl with rfl | hl | hl
    · rw [ofLayers_cons, itemLines_cons]
      exact ⟨depth, (List.prefix_append _ _).isInfix⟩
    · obtain ⟨d, hd⟩ := hitems hl (depth + 1)
      have hne : (ofLayers s items).isEmpty = false := by
        cases items with
        | nil => cases hl
        | cons first others => rfl
      rw [ofLayers_cons, ofLayer_layers, itemLines_ofOutlines, hne, if_neg Bool.false_ne_true]
      have hbetween := List.infix_append
        [⟨depth, .opening head.type (attributesCode (Attribute.ofProps s head.props))⟩]
        (itemLines (depth + 1) (ofLayers s items))
        (⟨depth, .closing head.type⟩ :: itemLines depth (ofLayers s rest))
      exact ⟨d, hd.trans (by simpa using hbetween)⟩
    · obtain ⟨d, hd⟩ := hrest hl depth
      rw [ofLayers_cons, itemLines_cons]
      exact ⟨d, hd.trans (List.suffix_append _ _).isInfix⟩

/-- A text that is not empty has a line of its own, between the two of its layer. -/
theorem lines_of_text (s : Scope) {l : Layer} {content : String} (hslot : l.slot = .text content)
    (hne : content ≠ "") (depth : Nat) :
    (lines depth (ofLayer s l)).map Line.text =
      [indentation depth ++ "<" ++ l.type ++ attributesCode (Attribute.ofProps s l.props) ++ ">",
        indentation (depth + 1) ++ Text.braced (Json.line .code (.str content)),
        indentation depth ++ "</" ++ l.type ++ ">"] := by
  obtain ⟨head, slot⟩ := l
  cases hslot
  have hempty : content.isEmpty = false := by simpa using hne
  rw [ofLayer, hempty, if_neg Bool.false_ne_true, lines]
  simp [text_eq, Mark.code, Layer.type, Layer.props, String.append_assoc]

/-- An empty text is nothing between the tags. -/
theorem lines_of_empty_text (s : Scope) {l : Layer} (hslot : l.slot = .text "") (depth : Nat) :
    (lines depth (ofLayer s l)).map Line.text =
      [indentation depth ++ "<" ++ l.type ++ attributesCode (Attribute.ofProps s l.props) ++
          " />"] := by
  obtain ⟨head, slot⟩ := l
  cases hslot
  have hempty : ("").isEmpty = true := rfl
  rw [ofLayer, if_pos hempty, lines]
  simp [text_eq, Mark.code, Layer.type, Layer.props, String.append_assoc]

/-- The first line of a layer opens its element, or is all of it. -/
theorem exists_line_of_layer (s : Scope) (l : Layer) (depth : Nat) :
    ∃ line ∈ (lines depth (ofLayer s l)).map Line.text, ∃ ending ∈ [">", " />"],
      line = indentation depth ++ "<" ++ l.type ++
        attributesCode (Attribute.ofProps s l.props) ++ ending := by
  obtain ⟨line, hline, hmark⟩ : ∃ line ∈ lines depth (ofLayer s l), line.depth = depth ∧
      (line.mark = .opening l.type (attributesCode (Attribute.ofProps s l.props)) ∨
        line.mark = .whole l.type (attributesCode (Attribute.ofProps s l.props))) := by
    obtain ⟨head, slot⟩ := l
    cases slot with
    | layers items =>
      rw [ofLayer]
      cases items with
      | nil => exact ⟨_, List.mem_cons_self, rfl, Or.inr rfl⟩
      | cons first rest => exact ⟨_, List.mem_cons_self, rfl, Or.inl rfl⟩
    | text content =>
      rw [ofLayer]
      split
      · exact ⟨_, List.mem_cons_self, rfl, Or.inr rfl⟩
      · exact ⟨_, List.mem_cons_self, rfl, Or.inl rfl⟩
    | bound variableId => exact ⟨_, List.mem_cons_self, rfl, Or.inl rfl⟩
  obtain ⟨rfl, hmark⟩ := hmark
  refine ⟨line.text, List.mem_map_of_mem hline, ?_⟩
  rcases hmark with hmark | hmark
  · exact ⟨">", by simp, by simp [Line.text, hmark, Mark.code, String.append_assoc]⟩
  · exact ⟨" />", by simp, by simp [Line.text, hmark, Mark.code, String.append_assoc]⟩

end Outline

/-! ## Attributes -/

/-- A prop that becomes an attribute of the data that it holds: its key names no function, no
function is named for it, and it is no reference. -/
structure HoldsData (props : Props) (name : String) (v : Value) : Prop where
  mem : (name, .plain v) ∈ props
  isPlainKey : functionProp? name = none
  unnamed : name ∉ Entries.keys (functionProps props)
  noReference : v.reference? = none

/-- Among attributes stands one of a name with a text in braces. -/
def ShowsBraced (attributes name text : String) : Prop :=
  ∃ before after, attributes = before ++ " " ++ name ++ "=" ++ Text.braced text ++ after

theorem HoldsData.has_eq_false {props : Props} {name : String} {v : Value}
    (h : HoldsData props name v) : Entries.has (functionProps props) name = false := by
  rw [Bool.eq_false_iff]
  exact fun hhas => h.unnamed (Entries.has_iff.mp hhas)

theorem HoldsData.mem_uses {props : Props} {name : String} {v : Value}
    (h : HoldsData props name v) : Use.plain v ∈ Use.ofProps props := by
  have huse : Use.ofProp (.plain v) = .plain v := by
    have href : (PropValue.plain v).reference? = none := h.noReference
    rw [Use.ofProp, href]
    rfl
  refine List.mem_append_left _ (List.mem_map.mpr ⟨(name, .plain v), ?_, huse⟩)
  exact List.mem_filter.mpr ⟨h.mem, by simp [h.isPlainKey, h.has_eq_false]⟩

theorem HoldsData.mem_ofProps {props : Props} {name : String} {v : Value}
    (h : HoldsData props name v) (s : Scope) :
    (⟨name, .data v⟩ : Attribute) ∈ Attribute.ofProps s props := by
  have hprop : Attribute.ofProp s name (.plain v) = ⟨name, .data v⟩ := by
    have href : (PropValue.plain v).reference? = none := h.noReference
    rw [Attribute.ofProp, href]
    rfl
  refine List.mem_append_left _ (List.mem_map.mpr ⟨(name, .plain v), ?_, hprop⟩)
  exact List.mem_filter.mpr ⟨h.mem, by simp [h.isPlainKey, h.has_eq_false]⟩

theorem attributesCode_cons (a : Attribute) (rest : List Attribute) :
    attributesCode (a :: rest) = " " ++ a.code ++ attributesCode rest := by
  simp [attributesCode]

theorem exists_split_attributesCode {a : Attribute} {attributes : List Attribute}
    (ha : a ∈ attributes) :
    ∃ before after, attributesCode attributes = before ++ " " ++ a.code ++ after := by
  induction attributes with
  | nil => cases ha
  | cons b rest ih =>
    rw [attributesCode_cons]
    rcases List.mem_cons.mp ha with rfl | ha
    · exact ⟨"", attributesCode rest, by simp⟩
    · obtain ⟨before, after, hrest⟩ := ih ha
      exact ⟨" " ++ b.code ++ before, after, by simp [hrest, String.append_assoc]⟩

/-- A list or an object is shown in braces. -/
theorem HoldsData.showsBraced {props : Props} {name : String} {v : Value}
    (h : HoldsData props name v) (hv : v.isContainer = true) (s : Scope) :
    ShowsBraced (attributesCode (Attribute.ofProps s props)) name (Json.line .code v) := by
  obtain ⟨before, after, hsplit⟩ := exists_split_attributesCode (h.mem_ofProps s)
  have hvalue : (Expr.data v).attributeValue = Text.braced (Json.line .code v) := by
    cases v <;> first | rfl | cases hv
  refine ⟨before, after, ?_⟩
  rw [hsplit, Attribute.code, hvalue]
  simp only [String.append_assoc]

/-! ## Modules -/

theorem isInfix_bodyLines (m : Module) : m.bodyLines <:+: m.lines := ⟨_, _, rfl⟩

theorem rootLine_mem (m : Module) : "    <div" ++ attributesCode m.root ++ ">" ∈ m.lines := by
  simp [Module.lines]

/-- The lines of a layer below a page stand together in the module. -/
theorem Compiler.exists_isInfix_lines (c : Compiler) {page l : Layer}
    (hl : l ∈ Forest.preorder page.children) :
    ∃ d, (Outline.lines d (Outline.ofLayer c.scope l)).map Line.text <:+:
      (c.moduleOf page).lines := by
  obtain ⟨d, hd⟩ := Outline.exists_isInfix_lines c.scope hl 3
  have hbody := hd.map Line.text
  rw [← Compiler.lines, ← bodyLines_eq] at hbody
  exact ⟨d, hbody.trans (isInfix_bodyLines _)⟩

end Tsx

namespace CommandLine

open Tsx

/-- What is exported is the text of the page's module, if it can be written. -/
theorem exportCode_of_page {e : Editor} {target : Option String} {page : Layer}
    (hpage : e.exportTarget target = .ok page) :
    exportCode e target =
      if (e.compiler.moduleOf page).hasCode then
        .ok (String.join ((e.compiler.moduleOf page).lines.map (· ++ "\n")))
      else .error .noCode := by
  simp only [exportCode, Editor.exportPage, hpage, Editor.exported, Compiler.code?, Module.code?]
  cases (e.compiler.moduleOf page).hasCode <;> rfl

/-- Where code is written, all data that props hold can stand in it. -/
theorem hasCode_of_holdsData {c : Compiler} {page : Layer}
    (hcode : (c.moduleOf page).hasCode = true) {name : String} {v : Value} :
    (HoldsData (c.rootProps page) name v → v.hasCode = true) ∧
    ∀ l ∈ Forest.preorder page.children, HoldsData l.props name v → v.hasCode = true := by
  have huses := hasCode_moduleOf_iff.mp hcode
  refine ⟨fun h => ?_, fun l hl h => ?_⟩
  · exact huses (.plain v) (List.mem_append_left _ h.mem_uses)
  · refine huses (.plain v) (List.mem_append_right _ (List.mem_flatMap.mpr ⟨l, hl, ?_⟩))
    exact List.mem_append_left _ h.mem_uses

/-- Exact data without long numbers has a text, from which a reader gets the data back and in which
no character is a control character; different data has different texts. Where there is code for a
page, a text that is not empty has its JSON on a line of its own, between the two lines of its
layer, and a list or an object among the props of a layer or of the page has its JSON in braces on
the one line that begins the element. An empty text leaves nothing between the tags. -/
theorem exports_exact_data :
    (∀ v : Value, v.isExact = true → v.hasCode = true → ∃ text, Json.Keeps v text) ∧
    (∀ (v w : Value) (text : String), v.isExact = true → w.isExact = true →
      Json.text? .code v = some text → Json.text? .code w = some text → v = w) ∧
    ∀ (e : Editor) (target : Option String) (page : Layer), e.exportTarget target = .ok page →
      (e.compiler.moduleOf page).hasCode = true →
      let c := e.compiler
      let lines := (c.moduleOf page).lines
      let attributes (props : Props) := attributesCode (Attribute.ofProps c.scope props)
      exportCode e target = .ok (String.join (lines.map (· ++ "\n"))) ∧
      (∀ l ∈ Forest.preorder page.children, ∀ content, l.slot = .text content → content ≠ "" →
        ∃ text, Json.Keeps (.str content) text ∧ ∃ d : Nat,
          [indentation d ++ "<" ++ l.type ++ attributes l.props ++ ">",
            indentation (d + 1) ++ Text.braced text,
            indentation d ++ "</" ++ l.type ++ ">"] <:+: lines) ∧
      (∀ l ∈ Forest.preorder page.children, l.slot = .text "" →
        ∃ d : Nat, [indentation d ++ "<" ++ l.type ++ attributes l.props ++ " />"] <:+: lines) ∧
      (∀ l ∈ Forest.preorder page.children, ∀ name v, HoldsData l.props name v →
        v.isContainer = true → v.isExact = true →
        ∃ text, Json.Keeps v text ∧ ShowsBraced (attributes l.props) name text ∧
          ∃ d : Nat, ∃ ending ∈ [">", " />"],
            indentation d ++ "<" ++ l.type ++ attributes l.props ++ ending ∈ lines) ∧
      ∀ name v, HoldsData (c.rootProps page) name v → v.isContainer = true → v.isExact = true →
        ∃ text, Json.Keeps v text ∧ ShowsBraced (attributes (c.rootProps page)) name text ∧
          "    <div" ++ attributes (c.rootProps page) ++ ">" ∈ lines := by
  refine ⟨fun v hv hcode => ⟨_, Json.keeps_line hv hcode⟩,
    fun v w text hv hw => Json.eq_of_text? hv hw, ?_⟩
  intro e target page hpage hcode c lines attributes
  refine ⟨?_, ?_, ?_, ?_, ?_⟩
  · rw [exportCode_of_page hpage, if_pos hcode]
  · intro l hl content hslot hne
    obtain ⟨d, hd⟩ := c.exists_isInfix_lines hl
    rw [Outline.lines_of_text c.scope hslot hne] at hd
    exact ⟨_, Json.keeps_line rfl rfl, d, hd⟩
  · intro l hl hslot
    obtain ⟨d, hd⟩ := c.exists_isInfix_lines hl
    rw [Outline.lines_of_empty_text c.scope hslot] at hd
    exact ⟨d, hd⟩
  · intro l hl name v h hcontainer hexact
    obtain ⟨d, hd⟩ := c.exists_isInfix_lines hl
    obtain ⟨line, hline, ending, hending, rfl⟩ := Outline.exists_line_of_layer c.scope l d
    exact ⟨_, Json.keeps_line hexact ((hasCode_of_holdsData hcode).2 l hl h),
      h.showsBraced hcontainer c.scope, d, ending, hending, hd.subset hline⟩
  · intro name v h hcontainer hexact
    exact ⟨_, Json.keeps_line hexact ((hasCode_of_holdsData hcode).1 h),
      h.showsBraced hcontainer c.scope, rootLine_mem (c.moduleOf page)⟩

/-- An object whose keys need escapes, on a page and on a card there, with a text that needs
them. -/
theorem exports_quoted_data :
    let v : Value := .object [("k", .list [.int (-12), .null]), ("\"\n", .str "é")]
    let card : Layer :=
      .node ⟨.component, "a", "Card", none, [("data", .plain v)], []⟩ (.text "\"Hi\"\n")
    let page : Layer := .node ⟨.page, "p", "Page", none, [("data", .plain v)], []⟩ (.layers [card])
    let e := Editor.start [] [] .default (some ⟨[page], "p", none, []⟩) .start
    let text := Text.braced "\"k\":[-12,null],\"\\\"\\n\":\"é\""
    let lines := (e.compiler.moduleOf page).lines
    e.exportTarget none = .ok page ∧ (e.compiler.moduleOf page).hasCode = true ∧
      v.isExact = true ∧ HoldsData card.props "data" v ∧ Json.Keeps v text ∧
      ShowsBraced (attributesCode (Attribute.ofProps e.compiler.scope card.props)) "data" text ∧
      exportCode e none = .ok (String.join (lines.map (· ++ "\n"))) ∧
      "    <div data=" ++ Text.braced text ++ ">" ∈ lines ∧
      "      <Card data=" ++ Text.braced text ++ ">" ∈ lines ∧
      "        " ++ Text.braced "\"\\\"Hi\\\"\\n\"" ∈ lines := by
  intro v card page e text lines
  have hpage : e.exportTarget none = .ok page := rfl
  have hcode : (e.compiler.moduleOf page).hasCode = true := by decide +kernel
  have hdata : HoldsData card.props "data" v := ⟨List.mem_cons_self, by decide, by decide, rfl⟩
  obtain ⟨-, -, hexports⟩ := exports_exact_data
  obtain ⟨hexport, -, -, hlayers, -⟩ := hexports e none page hpage hcode
  obtain ⟨shown, hkeeps, hbraced, -⟩ :=
    hlayers card List.mem_cons_self "data" v hdata rfl (by decide +kernel)
  have htext : Json.text? .code v = some text := by decide +kernel
  have hshown : shown = text := Option.some.inj (hkeeps.written.symm.trans htext)
  subst hshown
  exact ⟨hpage, hcode, by decide +kernel, hdata, hkeeps, hbraced, hexport, by decide +kernel,
    by decide +kernel, by decide +kernel⟩

theorem hasCode_singleton_int (n : Int) : (Value.list [.int n]).hasCode = isWritable n := by
  simp [Value.hasCode, Value.itemsHaveCode]

/-- A whole number of 4301 digits in a list cannot be written, and there is no code for a page that
has it. An empty text is not written either. -/
theorem exports_no_long_number :
    let v : Value := .list [.int (Int.ofNat (Nat.pow 10 4300))]
    let page : Layer := .node ⟨.page, "p", "Page", none, [("x", .plain v)], []⟩ (.layers [])
    let e := Editor.start [] [] .default (some ⟨[page], "p", none, []⟩) .start
    v.isExact = true ∧ (¬ ∃ text, Json.Keeps v text) ∧ HoldsData page.props "x" v ∧
      e.exportTarget none = .ok page ∧ exportCode e none = .error .noCode ∧
      layerLines? (.ofVariables []) 0 (.node ⟨.component, "a", "Card", none, [], []⟩ (.text "")) =
        some ["<Card />"] := by
  intro v page e
  have hv : v.hasCode = false := (hasCode_singleton_int _).trans isWritable_pow
  have hpage : e.exportTarget none = .ok page := rfl
  have hdata : HoldsData page.props "x" v := ⟨List.mem_cons_self, by decide, by decide, rfl⟩
  have hcode : (e.compiler.moduleOf page).hasCode = false := by
    refine Bool.eq_false_iff.mpr fun hcode => ?_
    have hshown := (hasCode_of_holdsData hcode).1 hdata
    rw [hv] at hshown
    cases hshown
  refine ⟨rfl, ?_, hdata, hpage, ?_, by decide +kernel⟩
  · rintro ⟨text, hkeeps⟩
    have hwritten := hkeeps.written
    rw [Json.text?, hv, if_neg Bool.false_ne_true] at hwritten
    cases hwritten
  · rw [exportCode_of_page hpage, hcode, if_neg Bool.false_ne_true]

end CommandLine

end LayerDoc
