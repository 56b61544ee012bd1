import LayerDoc.Fault
import LayerDoc.Text.Literal

/-!
# Warnings

An operation that cannot do what it is asked to leaves the document as it is and says why. A
compiled or resolved page says which functions it could not find.
-/

namespace LayerDoc

/-- What an operation has to say. -/
inductive Warning where
  | requiredWithoutDefault (prop type : String)
  | unregisteredType (type : String)
  | parentUnfit (parent : String)
  | nestingRefused (type parent parentType : String) (allowed : List String)
  | layerUnknown (id : String)
  | layerNotInPage (id : String)
  | parentUnknown (id : String)
  | pageWithoutLayers (page : String)
  | onlyPage (page : String)
  | idInPatch (id : String)
  | patchRefused (id : String)
  | pageMoved (page : String)
  | moveRefused (id parent : String)
  | layerNotSelectable (id : String)
  | pageNotSelectable (page : String)
  | noPages
  | documentRefused (fault : Fault)
  | variableRefused (name : Value)
  | variableUnknown (id : String)
  | variablePatchRefused (id : String)
  | propPinned (prop layer : String)
  | childrenPinned (layer : String)
  | textRefused (type : String)
  | functionUnknown (id : String)
  | functionsMissing (id : String)
  | literalKept (prop : String)
  deriving Repr

namespace Warning

/-- The text of a warning. -/
def message : Warning → String
  | requiredWithoutDefault prop type =>
    "No default value set for required prop " ++ Text.quoted prop ++ " of " ++ type
  | unregisteredType type =>
    "Layer type " ++ Text.quoted type ++ " is not registered; using empty defaults"
  | parentUnfit parent => "Parent layer " ++ parent ++ " not found or cannot hold children"
  | nestingRefused type parent parentType allowed =>
    "Layer type " ++ type ++ " cannot be placed under " ++ parent ++ " (" ++ parentType ++
      "): allowed parents are " ++ String.intercalate ", " allowed
  | layerUnknown id => "Layer with ID " ++ id ++ " not found."
  | layerNotInPage id => "Layer with ID " ++ id ++ " was not found."
  | parentUnknown id => "Parent of layer " ++ id ++ " not found."
  | pageWithoutLayers page => "No layers found for page ID: " ++ page
  | onlyPage page => "Cannot remove page " ++ page ++ ": a document needs at least one page"
  | idInPatch id => "Ignoring id in layer patch for " ++ id
  | patchRefused id => "Invalid update for layer " ++ id ++ ": ValidationError"
  | pageMoved page => "Pages cannot be moved: " ++ page
  | moveRefused id parent => "Cannot move layer " ++ id ++ " into " ++ parent
  | layerNotSelectable id => "Cannot select layer " ++ id ++ ": not in the selected page"
  | pageNotSelectable page => "Cannot select page " ++ page ++ ": not found"
  | noPages => "Cannot initialize with no pages; document unchanged"
  | documentRefused fault => "Cannot initialize document: " ++ fault.word
  | variableRefused name => "Invalid variable " ++ name.literal ++ ": ValidationError"
  | variableUnknown id => "Variable with ID " ++ id ++ " not found."
  | variablePatchRefused id => "Invalid update for variable " ++ id ++ ": ValidationError"
  | propPinned prop layer =>
    "Cannot unbind immutable variable binding for " ++ prop ++ " on layer " ++ layer
  | childrenPinned layer => "Cannot unbind immutable children binding on layer " ++ layer
  | textRefused type => "Layer type " ++ Text.quoted type ++ " does not accept bound text children"
  | functionUnknown id => "Function " ++ Text.quoted id ++ " not found in function registry"
  | functionsMissing id =>
    "Function " ++ Text.quoted id ++ " referenced but no function registry provided"
  | literalKept prop =>
    "Function metadata for " ++ Text.quoted prop ++
      " found but no function registry provided; keeping the literal value"

end Warning

end LayerDoc
