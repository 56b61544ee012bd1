import LayerDoc.Config
import LayerDoc.Document
import LayerDoc.Function.Schema
import LayerDoc.Registry.Entry
import LayerDoc.Yaml.Printer
import LayerDoc.Yaml.Reader

/-!
# Files

Documents, registries and settings are kept in YAML or JSON files, and are all read as YAML. An
empty file counts as an empty mapping. A document is saved as JSON under a name that ends in
`.json`, and as YAML under any other. All entries of a registry's file must fit, but only those
whose key is text can be the types of layers or the ids of functions.

A path is a text of parts with slashes between them. Empty parts and single points do not count.
-/

namespace LayerDoc

namespace Path

/-- The parts of a path; empty ones and single points do not count. -/
def parts (path : String) : List String :=
  ((path.toList.splitOn '/').map String.ofList).filter fun p => p ≠ "" && p ≠ "."

/-- A path from its parts. -/
def ofParts (parts : List String) : String := String.intercalate "/" parts

/-- The root at the front of a path, if there is one. Exactly two slashes are kept. -/
def root (path : String) : String :=
  match path.toList with
  | '/' :: '/' :: '/' :: _ => "/"
  | '/' :: '/' :: _ => "//"
  | '/' :: _ => "/"
  | _ => ""

/-- A path in its usual form; the empty path is a point. -/
def usual (path : String) : String :=
  let whole := root path ++ ofParts (parts path)
  if whole.isEmpty then "." else whole

/-- The most bytes of a part. -/
def longestPart : Nat := 255

/-- The most bytes of a path. -/
def longest : Nat := 4095

/-- Whether a path can be handed to the system at all: it holds no zero and no lone unit. -/
def isNameable (path : String) : Bool :=
  !path.toList.contains '\x00' && !Text.Surrogate.occursIn path

end Path

/-! ## What is in files -/

/-- What there is under a path. -/
inductive FileContent where
  | absent
  | directory
  /-- No file can have this name. -/
  | unreachable
  | text (content : String)
  deriving DecidableEq, Repr

/-- Why a document or a registry cannot be loaded. -/
inductive LoadReason where
  | fileNotFound
  | notMapping
  | duplicateId (id : String)
  /-- The text is not well formed, or its data does not fit. -/
  | detail
  deriving DecidableEq, Repr

/-- The ways in which work on files fails. -/
inductive FileError where
  | document (path : String) (reason : LoadReason)
  | registry (path : String) (reason : LoadReason)
  | pageNotFound (id : String)
  /-- The settings do not fit. -/
  | settings (fault : Fault)
  /-- The text of the settings is not well formed. -/
  | settingsText
  /-- A scalar stands for no value. -/
  | scalar (fault : Yaml.ScalarFault)
  /-- A parameter type is not given as text or an object. -/
  | typeToken (fault : Fault)
  /-- A directory is in the place of a file. -/
  | isDirectory
  /-- No file can have the name. -/
  | unreachable
  /-- The history can hold only so many documents. -/
  | historyTooLong
  /-- A value cannot stand in generated code. -/
  | noCode
  deriving DecidableEq, Repr

namespace LoadReason

/-- The text of a reason. -/
def text : LoadReason → String
  | fileNotFound => "file not found"
  | notMapping => "top level must be a mapping"
  | duplicateId id => (Fault.duplicateId id).word
  | detail => "<detail>"

end LoadReason

namespace FileError

/-- The message of an error, if it is one that users are told of in words of its own. -/
def message? : FileError → Option String
  | document path reason => some ("Cannot load document " ++ path ++ ": " ++ reason.text)
  | registry path reason => some ("Cannot load registry " ++ path ++ ": " ++ reason.text)
  | pageNotFound id => some ("Page not found: " ++ id)
  | _ => none

end FileError

/-- The value in a file; a blank one counts as an empty mapping. The errors for a file that is not
there and for a text that is not well formed are given. -/
def FileContent.value (content : FileContent) (absent malformed : FileError) :
    Except FileError Value :=
  match content with
  | .absent => .error absent
  | .directory => .error .isDirectory
  | .unreachable => .error .unreachable
  | .text content =>
    match Yaml.parse content with
    | .ok v => .ok (if v.isBlank then .object [] else v)
    | .error .malformed => .error malformed
    | .error (.scalar fault) => .error (.scalar fault)

namespace Document

/-- The reason that a fault gives. -/
def loadReason : Fault → LoadReason
  | .duplicateId id => .duplicateId id
  | _ => .detail

/-- Load a document. A list alone is taken for its pages. -/
def load (path : String) (content : FileContent) (s : Supply) :
    Except FileError (Document × Supply) := do
  let v ← content.value (.document path .fileNotFound) (.document path .detail)
  let v := match v with
    | .list pages => .object [("pages", .list pages)]
    | v => v
  (read v s).mapError fun fault => .document path (loadReason fault)

/-- Whether a document is saved as JSON under a path: the name has something before its last point,
and `json` after it. -/
def isJsonPath (path : String) : Bool :=
  let name := ((Path.parts path).getLast?.getD "").toList
  5 < name.length && ".json".toList.isSuffixOf name

/-- The text of a document's file, which holds the plain form of its data. -/
def fileText (d : Document) (path : String) : String :=
  if isJsonPath path then Json.indented 0 d.toValue.plain else Yaml.print d.toValue.plain

end Document

/-- The entries in a registry's file, under their keys. -/
def loadMapping (path : String) (content : FileContent) :
    Except FileError (List (Key × Value)) := do
  match ← content.value (.registry path .fileNotFound) (.registry path .detail) with
  | .object es => return es.map fun e => (.str e.1, e.2)
  | .mapping es => return es
  | _ => throw (.registry path .notMapping)

/-- The error that a fault in a registry's file is. -/
def registryError (path : String) : Fault → FileError
  | .noTypeToken => .typeToken .noTypeToken
  | .illTypedToken => .typeToken .illTypedToken
  | _ => .registry path .detail

/-- The entries whose key is text. -/
def named {α : Type} (es : List (Key × α)) : Entries α :=
  es.filterMap fun e => e.1.str?.map (·, e.2)

/-- Read the entries of a component registry, one after the other. -/
def Registry.readKeyed : List (Key × Value) → Supply →
    Except Fault (List (Key × RegistryEntry) × Supply)
  | [], s => .ok ([], s)
  | (key, v) :: rest, s => do
    let (entry, s) ← RegistryEntry.read v s
    let (others, s) ← readKeyed rest s
    return ((key, entry) :: others, s)

/-- Load a component registry with all its keys. -/
def Registry.loadKeyed (path : String) (content : FileContent) (s : Supply) :
    Except FileError (List (Key × RegistryEntry) × Supply) := do
  let es ← loadMapping path content
  (Registry.readKeyed es s).mapError (registryError path)

/-- Load a component registry. -/
def Registry.load (path : String) (content : FileContent) (s : Supply) :
    Except FileError (Registry × Supply) :=
  (loadKeyed path content s).map fun (es, s) => (named es, s)

/-- Load a registry of functions with all its keys. -/
def FunctionRegistry.loadKeyed (path : String) (content : FileContent) :
    Except FileError (List (Key × FunctionDef)) := do
  let es ← loadMapping path content
  (es.mapM fun e => (FunctionDef.read e.2).map (e.1, ·)).mapError (registryError path)

/-- Load a registry of functions. -/
def FunctionRegistry.load (path : String) (content : FileContent) :
    Except FileError FunctionRegistry :=
  (loadKeyed path content).map named

/-- Load settings; without a file they are the defaults. -/
def Config.load (content : FileContent) : Except FileError Config :=
  match content with
  | .absent => .ok Config.default
  | content => do (Config.read (← content.value .settingsText .settingsText)).mapError .settings

end LayerDoc
