import LayerDoc.Forest.Basic
import LayerDoc.Json.Printer
import LayerDoc.Layer.Data
import LayerDoc.Variable

/-!
# Documents

A document is a list of pages, a selection and a list of variables. A document that was read has
at least one page, no two layers with one id, and a selected page that exists.
-/

namespace LayerDoc

/-- The complete state that is edited. -/
structure Document where
  pages : Forest
  selectedPage : String
  selectedLayer : Option String
  vars : List Variable
  deriving Repr

/-- The first string of a list that occurs before. -/
def firstRepeated : List String → List String → Option String
  | _, [] => none
  | seen, id :: rest => if seen.contains id then some id else firstRepeated (id :: seen) rest

namespace Document

/-- The page with an id. -/
def page? (d : Document) (id : String) : Option Layer := List.find? (·.id == id) d.pages

/-- The selected page. -/
def currentPage? (d : Document) : Option Layer := d.page? d.selectedPage

/-- The layers of the page with an id. -/
def layersOfPage (d : Document) (id : String) : Forest :=
  match d.page? id with
  | some page => page.children
  | none => []

/-- The layer with an id in the selected page, or that page itself. The empty id finds nothing. -/
def layer? (d : Document) (id : String) : Option Layer :=
  if id.isEmpty then none
  else if id = d.selectedPage then d.currentPage?
  else Forest.find? (d.layersOfPage d.selectedPage) id

/-- Put pages, a selection and variables together. No layer id may occur twice. A selected page
that does not exist gives way to the first page. -/
def assemble (pages : Forest) (selectedPage selectedLayer : Option String)
    (vars : List Variable) : Except Fault Document :=
  match pages with
  | [] => .error (.fields ["pages"])
  | first :: _ =>
    match firstRepeated [] (Forest.ids pages) with
    | some id => .error (.duplicateId id)
    | none =>
      let selected :=
        match selectedPage with
        | some id => if pages.any (·.id == id) then id else first.id
        | none => first.id
      .ok ⟨pages, selected, selectedLayer, vars⟩

/-- Read a list of pages. -/
def readPages : List Value → Supply → Option (Forest × Supply)
  | [], s => some ([], s)
  | v :: rest, s =>
    match Layer.read .page v s with
    | .ok (page, s) => (readPages rest s).map fun (pages, s) => (page :: pages, s)
    | .error _ => none

/-- The pages field: a list of pages that is not empty. -/
def readPagesField (v : Option Value) (s : Supply) : Option (Forest × Supply) :=
  match v.bind Value.items? with
  | some (first :: rest) => readPages (first :: rest) s
  | _ => none

/-- The variables field: a list, which may be missing. -/
def readVariablesField : Option Value → Supply → Option (List Variable × Supply)
  | none, s => some ([], s)
  | some v, s => v.items?.bind fun items => Variable.readAll items s

/-- Read a document. Its fields are checked first, then the ids of its layers. -/
def read (v : Value) (s : Supply) : Except Fault (Document × Supply) :=
  match v.entries? with
  | none => .error (.fields [])
  | some es =>
    let selectedPage := Value.field es "selectedPageId" "selected_page_id"
    let selectedLayer := Value.field es "selectedLayerId" "selected_layer_id"
    let page? := (selectedPage.2.map Value.textOrNull?).getD (some none)
    let layer? := (selectedLayer.2.map Value.textOrNull?).getD (some none)
    let pages? := readPagesField (Entries.get? es "pages") s
    let vars? := readVariablesField (Entries.get? es "variables") ((pages?.map Prod.snd).getD s)
    match pages?, page?, layer?, vars? with
    | some (pages, _), some page, some layer, some (vars, s) =>
      (assemble pages page layer vars).map (·, s)
    | _, _, _, _ =>
      .error (Fault.ofFields [("pages", pages?.isSome), (selectedPage.1, page?.isSome),
        (selectedLayer.1, layer?.isSome), ("variables", vars?.isSome)])

/-- A document as data. -/
def toValue (d : Document) : Value :=
  .object [("pages", .list (Layer.itemValues d.pages)), ("selectedPageId", .str d.selectedPage),
    ("selectedLayerId", match d.selectedLayer with | some id => .str id | none => .null),
    ("variables", .list (d.vars.map Variable.toValue))]

/-- A text that tells documents apart by their plain data alone: the order of keys does not count,
but the kinds of numbers do. There is none for data that has no plain form, or whose plain form
cannot be written. -/
def fingerprint (d : Document) : Except Value.PlainFault String :=
  match d.toValue.plain? with
  | .error fault => .error fault
  | .ok v =>
    match Json.text? .ascii v.sorted with
    | some text => .ok text
    | none => .error .tooLong

end Document

end LayerDoc
