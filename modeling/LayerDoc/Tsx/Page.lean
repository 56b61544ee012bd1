import LayerDoc.Document
import LayerDoc.Function.Signature
import LayerDoc.Registry.Entry
import LayerDoc.Tsx.Element

/-!
# Generated pages

A page becomes a module with one component. The module imports the components it uses, declares
the members of the two groups that it is given, and returns the layers of the page between the
tags of one root element. A page with data that cannot stand in program text has no module text.
-/

namespace LayerDoc.Tsx

/-- What pages are generated with. -/
structure Compiler where
  registry : Registry
  vars : List Variable
  functions : FunctionRegistry
  /-- The props of a page that do not reach the root element. -/
  excluded : List String

/-- A member of a group, with its declared type. -/
structure Member where
  name : String
  type : String
  deriving DecidableEq, Repr

/-- The parts of a module. -/
structure Module where
  imports : List String
  vars : List Member
  functions : List Member
  root : List Attribute
  elements : List Element
  deriving Repr

/-- The statement that imports a component, by name or as the default export. -/
def importStatement (type source : String) (isDefault : Bool) : String :=
  if isDefault then "import " ++ type ++ " from \"" ++ source ++ "\";"
  else "import " ++ Text.braced (" " ++ type ++ " ") ++ " from \"" ++ source ++ "\";"

/-- The names without repetition, in the order in which they first occur. -/
def distinct (names : List String) : List String :=
  (names.foldl (fun seen name => if seen.contains name then seen else name :: seen) []).reverse

/-- The type that is declared for a variable that is no function. -/
def memberType : VariableType → String
  | .string => "string"
  | .number => "number"
  | .boolean => "boolean"
  | .function => "unknown"

/-- Members of distinct names: of two with one name the first counts. -/
def firstOfName : List Member → List Member → List Member
  | seen, [] => seen.reverse
  | seen, m :: rest =>
    if seen.any (·.name == m.name) then firstOfName seen rest else firstOfName (m :: seen) rest

namespace Compiler

/-- The scope of the compiler's variables. -/
def scope (c : Compiler) : Scope := Scope.ofVariables c.vars

/-- The import of a type, if it is registered with a source that is not empty. -/
def importOf (c : Compiler) (type : String) : Option String :=
  (Entries.get? c.registry type).bind fun entry =>
    entry.source.bind fun source =>
      if source.isEmpty then none else some (importStatement type source entry.isDefaultExport)

/-- The imports of a forest: one for each type, in the order in which the types first occur. -/
def imports (c : Compiler) (layers : Forest) : List String :=
  (distinct ((Forest.preorder layers).map Layer.type)).filterMap c.importOf

/-- The members of the group of variables. -/
def variableMembers (c : Compiler) : List Member :=
  (c.vars.filter fun v => !v.isFunction).map fun v => ⟨c.scope.memberOf v, memberType v.type⟩

/-- The member that a function variable is. -/
def functionVariableMember (c : Compiler) (v : Variable) : Member :=
  ⟨c.scope.memberOf v,
    FunctionDef.codeOf (v.default.str?.bind fun id => Entries.get? c.functions id)⟩

/-- The functions that keys name among the props of a forest. -/
def namedFunctions (layers : Forest) : List String :=
  (Forest.preorder layers).flatMap fun l => (functionProps l.props).map Prod.snd

/-- The members of the group of functions: the function variables first, then the functions that
keys name on the page and its layers. -/
def functionMembers (c : Compiler) (page : Layer) : List Member :=
  firstOfName [] ((c.vars.filter Variable.isFunction).map c.functionVariableMember ++
    (namedFunctions [page]).map fun id => ⟨id, FunctionDef.codeOf (Entries.get? c.functions id)⟩)

/-- The props of a page that reach the root element. -/
def rootProps (c : Compiler) (page : Layer) : Props :=
  page.props.filter fun p => !c.excluded.contains p.1

/-- The module of a page. -/
def moduleOf (c : Compiler) (page : Layer) : Module where
  imports := c.imports page.children
  vars := c.variableMembers
  functions := c.functionMembers page
  root := Attribute.ofProps c.scope (c.rootProps page)
  elements := Element.ofLayers c.scope page.children

end Compiler

/-! ## Text of modules -/

namespace Module

/-- The declaration of a group that has members. -/
def groupLines (group : Group) (members : List Member) : List String :=
  if members.isEmpty then []
  else
    ["  " ++ group.word ++ ": " ++ Text.openBrace] ++
      (members.map fun m => "    " ++ m.name ++ ": " ++ m.type ++ ";") ++
        ["  " ++ Text.closeBrace ++ ";"]

/-- The interface of the groups that have members. -/
def interfaceLines (m : Module) : List String :=
  if m.vars.isEmpty && m.functions.isEmpty then []
  else
    ["interface PageProps " ++ Text.openBrace] ++ groupLines .vars m.vars ++
      groupLines .functions m.functions ++ [Text.closeBrace, ""]

/-- The groups that the component is given. -/
def groups (m : Module) : List Group :=
  (if m.vars.isEmpty then [] else [Group.vars]) ++
    (if m.functions.isEmpty then [] else [Group.functions])

/-- The parameter of the component; there is none if it is given nothing. -/
def parameter (m : Module) : String :=
  if m.groups.isEmpty then ""
  else
    Text.braced (" " ++ String.intercalate ", " (m.groups.map Group.word) ++ " ") ++ ": PageProps"

/-- The lines of the elements, which stand two levels inside the root element. -/
def bodyLines (m : Module) : List String :=
  (Element.itemLines 1 m.elements).map ("    " ++ ·)

/-- The lines of a module, which count only if it can be written. -/
def lines (m : Module) : List String :=
  ["import React from \"react\";"] ++ m.imports ++ [""] ++ m.interfaceLines ++
    ["const Page = (" ++ m.parameter ++ ") => " ++ Text.openBrace, "  return (",
      "    <div" ++ attributesCode m.root ++ ">"] ++ m.bodyLines ++
    ["    </div>", "  );", Text.closeBrace ++ ";", "", "export default Page;"]

/-- Whether all that a module shows can be written. -/
def hasCode (m : Module) : Bool :=
  m.root.all Attribute.hasCode && Element.itemsHaveCode m.elements

/-- The text of a module, if it can be written. Every line ends with a line feed. -/
def code? (m : Module) : Option String :=
  if m.hasCode then some (String.join (m.lines.map (· ++ "\n"))) else none

end Module

namespace Compiler

/-- The text of a page's module, if it can be written. -/
def code? (c : Compiler) (page : Layer) : Option String := (c.moduleOf page).code?

/-- What there is to say about a page: the functions that keys name and that are not registered.
Nothing is said of a page whose layers cannot be written, since they come first. -/
def warnings (c : Compiler) (page : Layer) : List Warning :=
  if Element.itemsHaveCode (c.moduleOf page).elements then
    ((namedFunctions [page]).filter fun id => !Entries.has c.functions id).map .functionUnknown
  else []

/-- The text of every page's module, by the id of the page, if all of them can be written. -/
def documentCode? (c : Compiler) (pages : Forest) : Option (Entries String) :=
  (pages.mapM fun page => (c.code? page).map (page.id, ·)).map Entries.ofWrites

/-- What there is to say about all pages, up to one that cannot be written. -/
def documentWarnings (c : Compiler) : Forest → List Warning
  | [] => []
  | page :: rest =>
    c.warnings page ++ if (c.moduleOf page).hasCode then documentWarnings c rest else []

end Compiler

end LayerDoc.Tsx
