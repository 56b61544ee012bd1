import LayerDoc.Identifier
import LayerDoc.Json.Printer
import LayerDoc.Layer.Basic
import LayerDoc.Resolution

/-!
# Elements of generated code

What a layer becomes in generated code: an element with attributes, and with child elements or one
expression for its children. An attribute is a text, a piece of data, a member of one of the two
groups that a page is given, or undefined. There is no text of an element with data in it that
cannot stand in program text.
-/

namespace LayerDoc.Tsx

/-- The groups of members that a page is given. -/
inductive Group where
  | vars
  | functions
  deriving DecidableEq, Repr

def Group.word : Group → String
  | .vars => "variables"
  | .functions => "functions"

/-- What stands for a value in generated code. -/
inductive Expr where
  | undefined
  | member (group : Group) (name : String)
  | data (value : Value)
  deriving Repr

/-- An attribute of an element. -/
structure Attribute where
  name : String
  value : Expr
  deriving Repr

/-- What stands between the two tags of an element. -/
inductive Content (α : Type) where
  | none
  | elements (items : List α)
  | expr (e : Expr)
  deriving Repr

/-- An element of generated code. -/
inductive Element where
  | mk (tag : String) (attributes : List Attribute) (content : Content Element)
  deriving Repr

/-- The variables that code is generated for, with their identifiers. -/
structure Scope where
  vars : List Variable
  identifiers : Entries String

namespace Scope

/-- The scope of a list of variables. -/
def ofVariables (vars : List Variable) : Scope := ⟨vars, Identifier.ofVariables vars⟩

/-- The group that a variable is a member of. -/
def groupOf (v : Variable) : Group := if v.isFunction then .functions else .vars

/-- The member that a variable is. -/
def memberOf (s : Scope) (v : Variable) : String := (Entries.get? s.identifiers v.id).getD ""

/-- A reference in generated code; one to a variable that is not there is undefined. -/
def reference (s : Scope) (variableId : String) : Expr :=
  match Variable.find? s.vars variableId with
  | none => .undefined
  | some v => .member (groupOf v) (s.memberOf v)

end Scope

/-- The functions that keys name among the props of a layer, by prop. -/
def functionProps (props : Props) : Entries String :=
  props.filterMap fun p =>
    match p.2 with
    | .plain (.str id) => (functionProp? p.1).map fun prop => (prop, id)
    | _ => none

namespace Attribute

/-- A prop as an attribute. -/
def ofProp (s : Scope) (name : String) (value : PropValue) : Attribute :=
  match value.reference? with
  | some variableId => ⟨name, s.reference variableId⟩
  | none => ⟨name, .data value.toValue⟩

/-- The attributes of a layer: the props in their order but for those whose function a key names,
then these functions. -/
def ofProps (s : Scope) (props : Props) : List Attribute :=
  let named := functionProps props
  (props.filter fun p => (functionProp? p.1).isNone && !Entries.has named p.1).map
      (fun p => ofProp s p.1 p.2) ++
    named.map fun f => ⟨f.1, .member .functions f.2⟩

end Attribute

namespace Element

mutual

/-- A layer as an element. Empty children of any kind leave nothing between the tags. -/
def ofLayer (s : Scope) : Layer → Element
  | .node head (.layers []) => .mk head.type (Attribute.ofProps s head.props) .none
  | .node head (.layers (first :: rest)) =>
    .mk head.type (Attribute.ofProps s head.props) (.elements (ofLayer s first :: ofLayers s rest))
  | .node head (.text content) =>
    .mk head.type (Attribute.ofProps s head.props)
      (if content.isEmpty then .none else .expr (.data (.str content)))
  | .node head (.bound variableId) =>
    .mk head.type (Attribute.ofProps s head.props) (.expr (s.reference variableId))

/-- A list of layers as elements. -/
def ofLayers (s : Scope) : List Layer → List Element
  | [] => []
  | l :: rest => ofLayer s l :: ofLayers s rest

end

end Element

/-! ## What can be written -/

/-- Whether an expression can be written: data has to have a text. -/
def Expr.hasCode : Expr → Bool
  | .data value => value.hasCode
  | _ => true

/-- Whether an attribute can be written. -/
def Attribute.hasCode (a : Attribute) : Bool := a.value.hasCode

mutual

/-- Whether all attributes and expressions of an element can be written. -/
def Element.hasCode : Element → Bool
  | .mk _ attributes .none => attributes.all Attribute.hasCode
  | .mk _ attributes (.expr e) => attributes.all Attribute.hasCode && e.hasCode
  | .mk _ attributes (.elements items) =>
    attributes.all Attribute.hasCode && Element.itemsHaveCode items

/-- `hasCode` of all elements of a list. -/
def Element.itemsHaveCode : List Element → Bool
  | [] => true
  | e :: rest => e.hasCode && Element.itemsHaveCode rest

end

/-! ## Text of elements -/

/-- The text of an expression, which counts only if it can be written. -/
def Expr.code : Expr → String
  | .undefined => "undefined"
  | .member group name => group.word ++ "." ++ name
  | .data value => Json.line .code value

/-- An expression between braces. -/
def Expr.braced (e : Expr) : String := Text.braced e.code

/-- A text as the value of an attribute: in double quotes as it is, or else, if it holds a double
quote or a line feed, as a quoted text between braces. -/
def textValue (s : String) : String :=
  if s.toList.contains '"' || s.toList.contains '\n' then Expr.braced (.data (.str s))
  else "\"" ++ s ++ "\""

/-- The value of an attribute. -/
def Expr.attributeValue : Expr → String
  | .data (.str s) => textValue s
  | .data (.float d) => Text.braced (d.text .code)
  | e => e.braced

/-- The text of an attribute. -/
def Attribute.code (a : Attribute) : String := a.name ++ "=" ++ a.value.attributeValue

/-- The attributes of an element, with a blank in front of each. -/
def attributesCode (attributes : List Attribute) : String :=
  String.join (attributes.map fun a => " " ++ a.code)

/-- The text of the attributes of an element, if all of them can be written. -/
def attributesCode? (attributes : List Attribute) : Option String :=
  if attributes.all Attribute.hasCode then some (attributesCode attributes) else none

/-- One step of indentation. -/
def indentUnit : String := "  "

/-- The indentation of a level; there is none at a level below zero. -/
def indentation (level : Int) : String := String.ofList (List.replicate (2 * level.toNat) ' ')

mutual

/-- The lines of an element at a level of indentation, which count only if it can be written. -/
def Element.lines (level : Int) : Element → List String
  | .mk tag attributes .none =>
    [indentation level ++ "<" ++ tag ++ attributesCode attributes ++ " />"]
  | .mk tag attributes (.expr e) =>
    [indentation level ++ "<" ++ tag ++ attributesCode attributes ++ ">",
      indentation level ++ indentUnit ++ e.braced, indentation level ++ "</" ++ tag ++ ">"]
  | .mk tag attributes (.elements items) =>
    (indentation level ++ "<" ++ tag ++ attributesCode attributes ++ ">") ::
      Element.itemLines (level + 1) items ++ [indentation level ++ "</" ++ tag ++ ">"]

/-- The lines of a list of elements at a level of indentation. -/
def Element.itemLines (level : Int) : List Element → List String
  | [] => []
  | e :: rest => Element.lines level e ++ Element.itemLines level rest

end

/-- The lines of a layer at a level of indentation, if it can be written. -/
def layerLines? (s : Scope) (level : Int) (l : Layer) : Option (List String) :=
  if (Element.ofLayer s l).hasCode then some ((Element.ofLayer s l).lines level) else none

end LayerDoc.Tsx
