import LayerDoc.Function.Schema
import LayerDoc.Layer.Basic
import LayerDoc.Variable
import LayerDoc.Warning

/-!
# Resolving references

A prop that refers to a variable stands for the value of the variable: the one it has at run time,
or else its default. A reference to a variable that is not there stands for nothing. A key
`__function_p` with a text says which registered function the prop `p` is.
-/

namespace LayerDoc

/-- The front of a key that names the function of a prop. -/
def functionPrefix : String := "__function_"

/-- The prop whose function a key names. -/
def functionProp? (key : String) : Option String :=
  (functionPrefix.toList.isPrefixOf? key.toList).map String.ofList

/-- Whether an entry is passed over when props are resolved: its key names a function, or a function
is named for it and there is a registry to find it in. -/
def passedOver (registered : Bool) (named : Entries String) (key : String) : Bool :=
  (functionProp? key).isSome || (Entries.has named key && registered)

/-- Whether data is not looked into when props are resolved: it is no object, whatever its keys.
What holds itself counts as an object. -/
def Value.isLeaf : Value → Bool
  | .object _ | .mapping _ | .cycle => false
  | _ => true

/-- Data in which functions may stand, and whose objects are open: what props are resolved from,
and what they are resolved to. -/
inductive Term where
  | reference (variableId : String)
  /-- Plain data that is no object with text keys alone. -/
  | leaf (value : Value)
  | function (definition : FunctionDef)
  | object (entries : List (String × Term))
  deriving Repr

namespace Term

mutual

/-- Plain data as a term. -/
def ofValue : Value → Term
  | .object es => .object (ofEntries es)
  | v => .leaf v

/-- The entries of an object as terms. -/
def ofEntries : List (String × Value) → List (String × Term)
  | [] => []
  | (k, v) :: rest => (k, ofValue v) :: ofEntries rest

end

/-- A prop as a term. -/
def ofProp : PropValue → Term
  | .bound variableId => .reference variableId
  | .plain v => ofValue v

/-- The text of a term that is one. -/
def text? : Term → Option String
  | .leaf (.str s) => some s
  | _ => none

/-- The variable that a term refers to; an object with a marker counts as a reference. -/
def reference? : Term → Option String
  | .reference variableId => some variableId
  | .object es => (Entries.get? es referenceKey).bind text?
  | .leaf v => v.reference?
  | .function _ => none

/-- The functions that keys name, by prop. -/
def functionProps (es : Entries Term) : Entries String :=
  es.filterMap fun e => (functionProp? e.1).bind fun prop => e.2.text?.map (prop, ·)

end Term

/-- What references are resolved with. -/
structure Resolver where
  vars : List Variable
  /-- The values that variables have at run time. -/
  values : Entries Value
  /-- The registered functions, if there is a registry. -/
  functions : Option FunctionRegistry

namespace Resolver

/-- The function with an id; null if it is not to be found. -/
def function (r : Resolver) (id : String) : Term × List Warning :=
  match r.functions with
  | none => (.leaf .null, [.functionsMissing id])
  | some functions =>
    match Entries.get? functions id with
    | some definition => (.function definition, [])
    | none => (.leaf .null, [.functionUnknown id])

/-- The run-time value of a variable, or else its default. A null counts as no value. -/
def valueOf (r : Resolver) (v : Variable) : Value :=
  match Entries.get? r.values v.id with
  | some .null => v.default
  | some value => value
  | none => v.default

/-- Whether there is something that a reference stands for. The id of a function is the text of a
default, which has one unless there is a whole number of too many digits in it. -/
def hasTarget (r : Resolver) (variableId : String) : Bool :=
  match Variable.find? r.vars variableId with
  | none => true
  | some v => !v.isFunction || v.default.display?.isSome

/-- What a reference stands for, which counts only if there is something. -/
def target (r : Resolver) (variableId : String) : Term × List Warning :=
  match Variable.find? r.vars variableId with
  | none => (.leaf .null, [])
  | some v =>
    if v.isFunction then r.function (v.default.display?.getD "")
    else (Term.ofValue (r.valueOf v), [])

/-- The functions that keys name, with a registry to find them in. -/
def namedFunctions (r : Resolver) (named : Entries String) : Entries Term × List Warning :=
  match r.functions with
  | none => ([], [])
  | some _ =>
    (named.map fun e => (e.1, (r.function e.2).1), named.flatMap fun e => (r.function e.2).2)

mutual

/-- Resolve a term, which counts only if it can be resolved. -/
def resolve (r : Resolver) : Term → Term × List Warning
  | .reference variableId => r.target variableId
  | .leaf value =>
    match value.reference? with
    | some variableId => r.target variableId
    | none => (.leaf value, [])
  | .function definition => (.function definition, [])
  | .object es =>
    match (Entries.get? es referenceKey).bind Term.text? with
    | some variableId => r.target variableId
    | none =>
      let named := Term.functionProps es
      let functions := r.namedFunctions named
      let others := resolveOthers r named es
      (.object (functions.1 ++ others.1), functions.2 ++ others.2)

/-- Resolve the entries that are not passed over. Without a registry, an entry whose function a key
names stays, with a warning. -/
def resolveOthers (r : Resolver) (named : Entries String) :
    List (String × Term) → List (String × Term) × List Warning
  | [] => ([], [])
  | (key, term) :: rest =>
    let others := resolveOthers r named rest
    if passedOver r.functions.isSome named key then others
    else
      let kept := if Entries.has named key then [Warning.literalKept key] else []
      let resolved := resolve r term
      ((key, resolved.1) :: others.1, kept ++ resolved.2 ++ others.2)

end

mutual

/-- Whether a term can be resolved. Keys are searched for a prefix, which only texts have, and what
holds itself has no end. -/
def canResolve (r : Resolver) : Term → Bool
  | .reference variableId => r.hasTarget variableId
  | .leaf value =>
    match value.reference? with
    | some variableId => r.hasTarget variableId
    | none => value.isLeaf
  | .function _ => true
  | .object es =>
    match (Entries.get? es referenceKey).bind Term.text? with
    | some variableId => r.hasTarget variableId
    | none => canResolveOthers r (Term.functionProps es) es

/-- `canResolve` of the entries that are not passed over. -/
def canResolveOthers (r : Resolver) (named : Entries String) : List (String × Term) → Bool
  | [] => true
  | (key, term) :: rest =>
    (passedOver r.functions.isSome named key || canResolve r term) && canResolveOthers r named rest

end

/-- Props resolved, which counts only if they can be: the functions that keys name come first, then
all else in its order. -/
def props (r : Resolver) (es : Entries Term) : Entries Term × List Warning :=
  let named := Term.functionProps es
  let functions := r.namedFunctions named
  let others := resolveOthers r named es
  (functions.1 ++ others.1, functions.2 ++ others.2)

/-- Resolve props, if they can be. -/
def props? (r : Resolver) (es : Entries Term) : Option (Entries Term × List Warning) :=
  if r.canResolveOthers (Term.functionProps es) es then some (r.props es) else none

end Resolver

namespace Value

/-- What plain data stands for: a reference stands for the default of its variable. -/
def resolved (vars : List Variable) (v : Value) : Value :=
  match v.reference? with
  | none => v
  | some variableId => ((Variable.find? vars variableId).map Variable.default).getD .null

/-- What a children slot stands for: a reference stands for the text of its variable's value. There
is none if the value has no text. -/
def resolvedChildren? (vars : List Variable) (values : Entries Value) (v : Value) : Option Value :=
  match v.reference? with
  | none => some v
  | some variableId =>
    match Variable.find? vars variableId with
    | none => some (.str "")
    | some found => ((Resolver.mk vars values none).valueOf found).display?.map .str

end Value

end LayerDoc
