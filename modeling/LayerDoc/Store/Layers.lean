import LayerDoc.Store.Basic

/-!
# Editing layers

Adding, copying, removing, changing, moving and selecting layers and pages, and replacing the
whole document.
-/

namespace LayerDoc

/-- The page itself or the first layer below it that has an id. Only a list of layers can be looked
through; there is nothing to find in an empty text. -/
def Layer.searched (page : Layer) (id : String) : Except EditError (Option Layer) :=
  if id = page.id then .ok (some page)
  else
    match page.slot with
    | .layers items => .ok (Forest.find? items id)
    | .text content => if content.isEmpty then .ok none else .error (.pageNotSearchable page.id)
    | .bound _ => .error (.pageNotSearchable page.id)

namespace Store

/-- Add a new layer of a type under a parent and select it. The result is its id. -/
def addLayer (st : Store) (s : Supply) (type parent : String) (position : Option Int) :
    Edit (Option String) :=
  let doc := st.document
  let create (entry : Option RegistryEntry) (first : List Warning) : Edit (Option String) :=
    let (layer, warnings, s) := Layer.ofType type entry s
    Edit.commit (some layer.id)
      { doc with
        pages := Forest.insert parent layer position doc.pages
        selectedLayer := some layer.id }
      s (first ++ warnings)
  match Forest.find? doc.pages parent with
  | none => Edit.refuse none s (.parentUnfit parent)
  | some target =>
    if !target.holdsLayers then Edit.refuse none s (.parentUnfit parent)
    else
      match Entries.get? st.registry type with
      | none => create none [.unregisteredType type]
      | some entry =>
        match st.nestingProblem? type target with
        | some warning => Edit.refuse none s warning
        | none => create (some entry) []

/-- Add an empty page at the end and select it. The result is its id. -/
def addPage (st : Store) (s : Supply) (name : Option String) : Edit String :=
  let doc := st.document
  let (id, s) := s.next
  let page : Layer := .node ⟨.page, id, st.config.pageType, name,
    Entries.mapValues PropValue.ofValue st.config.defaultPageProps, []⟩ (.layers [])
  Edit.commit id
    { doc with pages := doc.pages ++ [page], selectedPage := id, selectedLayer := some id } s []

/-- Copy a page, to the end, and select the copy; or copy a layer of the selected page, to the
place after it. The result is the id of the copy. -/
def duplicateLayer (st : Store) (s : Supply) (id : String) : Edit (Option String) :=
  let doc := st.document
  match doc.page? id with
  | some page =>
    let (copy, s) := page.copyNamed st.config.copySuffix s
    Edit.commit (some copy.id)
      { doc with pages := doc.pages ++ [copy], selectedPage := copy.id } s []
  | none =>
    match doc.layer? id, doc.currentPage? with
    | some layer, some page =>
      match Forest.parentOf? [page] id with
      | none => Edit.refuse none s (.parentUnknown id)
      | some parent =>
        let position := (Forest.indexOf? parent.children id).map fun i => (i + 1 : Int)
        let (copy, s) := layer.copyNamed st.config.copySuffix s
        Edit.commit (some copy.id)
          { doc with pages := Forest.insert parent.id copy position doc.pages } s []
    | _, _ => Edit.refuse none s (.layerUnknown id)

/-- The selected layer after a layer was taken out: none if it went with it. -/
def selectionWithout (selected : Option String) (removed : Layer) : Option String :=
  match selected with
  | some id => if removed.ids.contains id then none else some id
  | none => none

/-- Remove a page, unless it is the only one, or a layer with all below it. -/
def removeLayer (st : Store) (s : Supply) (id : String) : Edit Unit :=
  let doc := st.document
  match doc.page? id with
  | some page =>
    if doc.pages.length = 1 then Edit.refuse () s (.onlyPage id)
    else
      let pages := doc.pages.filter (·.id ≠ id)
      let selectedPage :=
        if doc.selectedPage = id then ((pages.head?).map Layer.id).getD doc.selectedPage
        else doc.selectedPage
      Edit.commit ()
        { doc with
          pages := pages
          selectedPage := selectedPage
          selectedLayer := selectionWithout doc.selectedLayer page }
        s []
  | none =>
    match Forest.find? doc.pages id with
    | none => Edit.refuse () s (.layerUnknown id)
    | some layer =>
      Edit.commit ()
        { doc with
          pages := Forest.without id doc.pages
          selectedLayer := selectionWithout doc.selectedLayer layer }
        s []

/-- Write `props` over the props of a layer of the selected page, or of that page, and `patch`
over its other attributes. The id cannot be changed, and `props` in the patch is passed over. -/
def updateLayer (st : Store) (s : Supply) (id : String) (props patch : Entries Value) : Edit Unit :=
  let doc := st.document
  match doc.currentPage? with
  | none => Edit.refuse () s (.pageWithoutLayers doc.selectedPage)
  | some page =>
    match page.searched id with
    | .error error => Edit.fail error s []
    | .ok none => Edit.refuse () s (.layerNotInPage id)
    | .ok (some target) =>
      let warnings := if Entries.has patch "id" then [Warning.idInPatch id] else []
      match target.patched props patch s with
      | none => ⟨.ok (), none, warnings ++ [.patchRefused id], s⟩
      | some (updated, s) =>
        match Forest.replace? id updated doc.pages with
        | none => Edit.fail (.endless id) s warnings
        | some pages => Edit.commit () { doc with pages := pages } s warnings

/-- Move a layer under another parent, or within its own. Pages stay where they are. -/
def moveLayer (st : Store) (s : Supply) (id parent : String) (position : Option Int) : Edit Unit :=
  let doc := st.document
  if st.isPage id then Edit.refuse () s (.pageMoved id)
  else
    let problem :=
      match Forest.find? doc.pages id, Forest.find? doc.pages parent with
      | some layer, some target => st.nestingProblem? layer.type target
      | _, _ => none
    match problem with
    | some warning => Edit.refuse () s warning
    | none =>
      match Forest.move? doc.pages id parent position with
      | none => Edit.refuse () s (.moveRefused id parent)
      | some pages => Edit.commit () { doc with pages := pages } s []

/-- Select a layer of the selected page, or that page. -/
def selectLayer (st : Store) (s : Supply) (id : String) : Edit Unit :=
  match st.document.layer? id with
  | none => Edit.refuse () s (.layerNotSelectable id)
  | some _ => Edit.commit () { st.document with selectedLayer := some id } s []

/-- Select a page. -/
def selectPage (st : Store) (s : Supply) (id : String) : Edit Unit :=
  match st.document.page? id with
  | none => Edit.refuse () s (.pageNotSelectable id)
  | some _ => Edit.commit () { st.document with selectedPage := id } s []

/-- Pages to start over with: as data, or as components that become pages. -/
inductive Pages where
  | data (pages : List Value)
  | components (layers : List Layer)

/-- Pages that were given as components. -/
def pagesOfComponents (layers : List Layer) : Option Forest := layers.mapM Layer.asPage?

/-- Replace the whole document. -/
def replaceDocument (_ : Store) (s : Supply) (pages : Pages) (selectedPage selectedLayer : Value)
    (vars : List Value) : Edit Unit :=
  let count := match pages with
    | .data pages => pages.length
    | .components layers => layers.length
  if count = 0 then Edit.refuse () s .noPages
  else
    let pages? : Option (Forest × Supply) :=
      match pages with
      | .data pages => Document.readPages pages s
      | .components layers => (pagesOfComponents layers).map (·, s)
    let vars? := Variable.readAll vars ((pages?.map Prod.snd).getD s)
    match pages?, selectedPage.textOrNull?, selectedLayer.textOrNull?, vars? with
    | some (pages, _), some page, some layer, some (vars, s) =>
      match Document.assemble pages page layer vars with
      | .ok document => Edit.commit () document s []
      | .error fault => Edit.refuse () s (.documentRefused fault)
    | _, _, _, _ => Edit.refuse () s (.documentRefused (.fields []))

end Store

end LayerDoc
