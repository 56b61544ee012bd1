import LayerDoc.History
import LayerDoc.Store.Bindings
import LayerDoc.Store.Variables
import LayerDoc.Tsx.Page

/-!
# The editor

An editor is a store with its history, its listeners and a counter of the steps through the
history. Every commit is recorded and then told to all listeners, with the documents before and
after it; the steps through the history are told to none, and the counter says that there was one.

Listeners listen only: one that edits the document in its turn, or fails, is not modelled.
-/

namespace LayerDoc

/-- An editor. Listeners are known by their numbers, in the order in which they came; one that came
twice is told twice. -/
structure Editor where
  store : Store
  history : History
  /-- Whether commits are recorded in the history. -/
  recording : Bool
  revision : Nat
  listeners : List Nat
  supply : Supply

/-- What a listener is told. -/
structure Notice where
  listener : Nat
  previous : Document
  current : Document

/-- What is asked of an editor. -/
inductive Operation where
  | addLayer (type parent : String) (position : Option Int)
  | addPage (name : Option String)
  | duplicateLayer (id : String)
  | removeLayer (id : String)
  | updateLayer (id : String) (props patch : Entries Value)
  | moveLayer (id parent : String) (position : Option Int)
  | selectLayer (id : String)
  | selectPage (id : String)
  | replaceDocument (pages : Store.Pages) (selectedPage selectedLayer : Value) (vars : List Value)
  | addVariable (name type default : Value)
  | updateVariable (id : String) (patch : Entries Value)
  | removeVariable (id : String)
  | bindProp (id prop variableId : String)
  | unbindProp (id prop : String)
  | bindChildren (id variableId : String)
  | unbindChildren (id : String)
  | undo
  | redo
  | clearHistory
  | closeHistory
  | subscribe (listener : Nat)
  | unsubscribe (listener : Nat)

/-- The result of an operation. -/
inductive Reply where
  | nothing
  | id (id : Option String)
  | moved (moved : Bool)
  /-- The operation broke off. -/
  | failed (error : EditError)
  deriving DecidableEq, Repr

/-- All that comes of an operation. -/
structure Outcome where
  editor : Editor
  reply : Reply
  notices : List Notice
  warnings : List Warning

namespace Editor

/-- An editor at the start. A store without a document gets one with an empty page. -/
def start (registry : Registry) (functions : FunctionRegistry) (config : Config)
    (document : Option Document) (s : Supply) : Editor :=
  let (document, s) : Document × Supply :=
    match document with
    | some d => (d, s)
    | none => Store.defaultDocument config s
  ⟨⟨registry, functions, config, document⟩, History.start config.historyLimit document, true, 0, [],
    s⟩

/-- An editor at the start. There is none with a history that is longer than any can be. -/
def start? (registry : Registry) (functions : FunctionRegistry) (config : Config)
    (document : Option Document) (s : Supply) : Option Editor :=
  if config.historyLimit ≤ History.greatestLimit then
    some (start registry functions config document s)
  else none

/-- The document that is edited. -/
def document (e : Editor) : Document := e.store.document

/-- The history after a commit, or why the commit cannot be recorded. -/
def recorded (e : Editor) (d : Document) : Except Value.PlainFault History :=
  if e.recording then e.history.record d else .ok e.history

/-- The editor after a commit. The document takes its place in the store before it is recorded, and
keeps it if it cannot be. -/
def committed (e : Editor) (d : Document) : Editor :=
  { e with
    store := { e.store with document := d }
    history := (e.recorded d).toOption.getD e.history }

/-- What the listeners are told of a commit, each of them once: nothing if it cannot be recorded. -/
def told (e : Editor) (d : Document) : List Notice :=
  match e.recorded d with
  | .ok _ => e.listeners.map (⟨·, e.document, d⟩)
  | .error _ => []

/-- The reply to an operation that commits, unless the commit cannot be recorded. -/
def replyTo (e : Editor) (d : Document) (reply : Reply) : Reply :=
  match e.recorded d with
  | .ok _ => reply
  | .error fault => .failed (.unrecorded fault)

/-- What comes of an edit: the commit, if there is one, is recorded and then told to every listener.
If it cannot be recorded, the operation breaks off there, and nobody is told. -/
def apply {α : Type} (e : Editor) (edit : Edit α) (reply : α → Reply) : Outcome :=
  let e' := { e with supply := edit.supply }
  let reply :=
    match edit.result with
    | .ok result => reply result
    | .error error => .failed error
  match edit.committed with
  | none => ⟨e', reply, [], edit.warnings⟩
  | some d => ⟨e'.committed d, e.replyTo d reply, e.told d, edit.warnings⟩

/-- A step through the history, if there is one. The store's document is replaced, and no listener
is told. -/
def travel (e : Editor) (step : Option History) : Outcome :=
  let e := { e with revision := e.revision + 1 }
  match step with
  | some h =>
    ⟨{ e with store := { e.store with document := h.present }, history := h }, .moved true, [], []⟩
  | none => ⟨e, .moved false, [], []⟩

/-- Do an operation. -/
def run (e : Editor) : Operation → Outcome
  | .addLayer type parent position => e.apply (e.store.addLayer e.supply type parent position) .id
  | .addPage name => e.apply (e.store.addPage e.supply name) fun id => .id (some id)
  | .duplicateLayer id => e.apply (e.store.duplicateLayer e.supply id) .id
  | .removeLayer id => e.apply (e.store.removeLayer e.supply id) fun _ => .nothing
  | .updateLayer id props patch =>
    e.apply (e.store.updateLayer e.supply id props patch) fun _ => .nothing
  | .moveLayer id parent position =>
    e.apply (e.store.moveLayer e.supply id parent position) fun _ => .nothing
  | .selectLayer id => e.apply (e.store.selectLayer e.supply id) fun _ => .nothing
  | .selectPage id => e.apply (e.store.selectPage e.supply id) fun _ => .nothing
  | .replaceDocument pages page layer vars =>
    e.apply (e.store.replaceDocument e.supply pages page layer vars) fun _ => .nothing
  | .addVariable name type default => e.apply (e.store.addVariable e.supply name type default) .id
  | .updateVariable id patch => e.apply (e.store.updateVariable e.supply id patch) fun _ => .nothing
  | .removeVariable id => e.apply (e.store.removeVariable e.supply id) fun _ => .nothing
  | .bindProp id prop variableId =>
    e.apply (e.store.bindProp e.supply id prop variableId) fun _ => .nothing
  | .unbindProp id prop => e.apply (e.store.unbindProp e.supply id prop) fun _ => .nothing
  | .bindChildren id variableId =>
    e.apply (e.store.bindChildren e.supply id variableId) fun _ => .nothing
  | .unbindChildren id => e.apply (e.store.unbindChildren e.supply id) fun _ => .nothing
  | .undo => e.travel e.history.undo?
  | .redo => e.travel e.history.redo?
  | .clearHistory => ⟨{ e with history := e.history.cleared e.document }, .nothing, [], []⟩
  | .closeHistory => ⟨{ e with recording := false }, .nothing, [], []⟩
  | .subscribe listener => ⟨{ e with listeners := e.listeners ++ [listener] }, .nothing, [], []⟩
  | .unsubscribe listener =>
    ⟨{ e with listeners := e.listeners.erase listener }, .nothing, [], []⟩

/-- The editor after a list of operations. -/
def runAll (e : Editor) (operations : List Operation) : Editor :=
  operations.foldl (fun e operation => (e.run operation).editor) e

/-- The compiler that the editor generates code with. -/
def compiler (e : Editor) : Tsx.Compiler :=
  ⟨e.store.registry, e.document.vars, e.store.functions, e.store.config.themeKeys⟩

/-- Why a page is not exported. -/
inductive ExportError where
  /-- There is no page with the id. -/
  | pageNotFound (id : String)
  /-- Some data of the page cannot be written. What there was to say before that was found is
  said. -/
  | noCode (warnings : List Warning)

/-- The page to generate code for: the given one, or else the selected one. The empty id counts as
none. It is an error, and the id that is looked for, if there is no such page. -/
def exportTarget (e : Editor) (page : Option String) : Except String Layer :=
  let target :=
    match page with
    | some id => if id.isEmpty then e.document.selectedPage else id
    | none => e.document.selectedPage
  match e.document.page? target with
  | some page => .ok page
  | none => .error target

/-- The text of a page's module, with what there is to say about it. -/
def exported (e : Editor) (page : Layer) : Except ExportError (String × List Warning) :=
  match e.compiler.code? page with
  | some code => .ok (code, e.compiler.warnings page)
  | none => .error (.noCode (e.compiler.warnings page))

/-- The text of the module of the page to generate code for. -/
def exportPage (e : Editor) (page : Option String) :
    Except ExportError (String × List Warning) :=
  match e.exportTarget page with
  | .error id => .error (.pageNotFound id)
  | .ok page => e.exported page

end Editor

end LayerDoc
