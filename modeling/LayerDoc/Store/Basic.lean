import LayerDoc.Config
import LayerDoc.Document
import LayerDoc.Function.Schema
import LayerDoc.Registry.NewLayer

/-!
# The store

The store holds the document that is edited, with the registries and settings that editing goes
by. An operation reads the document and either commits one new document or none; in the second
case it says why, unless there was nothing to do. A page whose slot is no list, which two layers
with one id can bring about, makes the search for a layer break off, and a patch that puts a layer
below itself never comes to an end.
-/

namespace LayerDoc

/-- The document that is edited and what editing goes by. -/
structure Store where
  registry : Registry
  functions : FunctionRegistry
  config : Config
  document : Document

/-- Why an operation breaks off. -/
inductive EditError where
  /-- The selected page has no list of layers in which a layer could be looked for. -/
  | pageNotSearchable (page : String)
  /-- A layer is replaced by one that has its id below it, where it is replaced again. -/
  | endless (layer : String)
  /-- A commit cannot be recorded, after it has taken the place of the document. -/
  | unrecorded (fault : Value.PlainFault)
  deriving DecidableEq, Repr

/-- The outcome of an operation: its result, unless it broke off; the document it commits, if it
does; what it has to say; and the ids that are left. -/
structure Edit (α : Type) where
  result : Except EditError α
  committed : Option Document
  warnings : List Warning
  supply : Supply

namespace Edit

variable {α : Type}

/-- Commit a document. -/
def commit (result : α) (document : Document) (s : Supply) (warnings : List Warning) : Edit α :=
  ⟨.ok result, some document, warnings, s⟩

/-- Leave the document as it is, and say why. -/
def refuse (result : α) (s : Supply) (warning : Warning) : Edit α :=
  ⟨.ok result, none, [warning], s⟩

/-- Leave the document as it is, since there is nothing to do. -/
def idle (result : α) (s : Supply) : Edit α := ⟨.ok result, none, [], s⟩

/-- Break off. The document stays as it is. -/
def fail (error : EditError) (s : Supply) (warnings : List Warning) : Edit α :=
  ⟨.error error, none, warnings, s⟩

end Edit

namespace Store

/-- The document of a store that is given none: one empty page. -/
def defaultDocument (config : Config) (s : Supply) : Document × Supply :=
  let (id, s) := s.next
  let page : Layer := .node ⟨.page, id, config.pageType, some "Page 1",
    Entries.mapValues PropValue.ofValue config.defaultPageProps, []⟩ (.layers [])
  (⟨[page], id, none, []⟩, s)

/-- Whether an id is that of a page. -/
def isPage (st : Store) (id : String) : Bool := st.document.pages.any (·.id == id)

/-- The entry for the type of a layer. -/
def entryOf? (st : Store) (l : Layer) : Option RegistryEntry := Entries.get? st.registry l.type

/-- Whether a type may stand under a layer; the warning if it may not. -/
def nestingProblem? (st : Store) (type : String) (parent : Layer) : Option Warning :=
  match (Entries.get? st.registry type).bind RegistryEntry.childOf with
  | some allowed =>
    if allowed.contains parent.type then none
    else some (.nestingRefused type parent.id parent.type allowed)
  | none => none

end Store

end LayerDoc
