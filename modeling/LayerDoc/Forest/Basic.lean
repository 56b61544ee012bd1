import LayerDoc.Layer.Basic
import LayerDoc.Supply

/-!
# Forests

Layers side by side, with all that is below them. A forest is looked through from the top down and
from left to right: its preorder listing names the layers in that order, and the searches are
searches of the listing.

A copy of a layer has a fresh id at every place; all else is as it was, but that the name of the
root may get a suffix.
-/

namespace LayerDoc

mutual

/-- A layer and all layers below it, from the top down. -/
def Layer.preorder : Layer → List Layer
  | .node head (.layers items) => .node head (.layers items) :: Forest.preorder items
  | .node head slot => [.node head slot]

/-- All layers of a forest, from the top down. -/
def Forest.preorder : List Layer → List Layer
  | [] => []
  | l :: rest => l.preorder ++ Forest.preorder rest

end

/-- The ids of a layer and of all below it. -/
def Layer.ids (l : Layer) : List String := l.preorder.map Layer.id

namespace Forest

/-- The ids of all layers, from the top down. -/
def ids (f : Forest) : List String := (preorder f).map Layer.id

/-- The number of layers. -/
def count (f : Forest) : Nat := (preorder f).length

/-- The first layer with an id. -/
def find? (f : Forest) (id : String) : Option Layer := (preorder f).find? (·.id == id)

/-- The first layer that has a child with an id. -/
def parentOf? (f : Forest) (id : String) : Option Layer :=
  (preorder f).find? fun l => l.children.any (·.id == id)

/-- The index of the first layer of a list with an id. -/
def indexOf? (layers : List Layer) (id : String) : Option Nat := layers.findIdx? (·.id == id)

mutual

/-- The way down to the first layer with an id: the layers above it, outermost first. -/
def pathInLayer (id : String) : Layer → Option (List Layer)
  | .node head (.layers items) =>
    if head.id = id then some []
    else (pathTo id items).map (.node head (.layers items) :: ·)
  | .node head _ => if head.id = id then some [] else none

/-- The way down to the first layer with an id in a forest. -/
def pathTo (id : String) : List Layer → Option (List Layer)
  | [] => none
  | l :: rest =>
    match pathInLayer id l with
    | some path => some path
    | none => pathTo id rest

end

/-- The layers above the first layer with an id, outermost first; none for a root and for an
unknown id. -/
def ancestors (f : Forest) (id : String) : List Layer := (pathTo id f).getD []

mutual

/-- A layer without the layers below it that have an id. -/
def withoutIn (id : String) : Layer → Layer
  | .node head (.layers items) => .node head (.layers (without id items))
  | .node head slot => .node head slot

/-- A forest without the layers that have an id and without all that is below them. -/
def without (id : String) : List Layer → List Layer
  | [] => []
  | l :: rest => if l.id = id then without id rest else withoutIn id l :: without id rest

end

/-- Put a layer into a list: at the end if there is no position or one past the end, in front of
all for a negative one, else so that it gets the position as its index. -/
def insertAt (layers : List Layer) (layer : Layer) : Option Int → List Layer
  | none => layers ++ [layer]
  | some position =>
    if (layers.length : Int) ≤ position then layers ++ [layer]
    else if position < 0 then layer :: layers
    else layers.take position.toNat ++ layer :: layers.drop position.toNat

mutual

/-- A layer with `layer` put into the children of every layer of it that has the id `parent`. -/
def insertIn (parent : String) (layer : Layer) (position : Option Int) : Layer → Layer
  | .node head (.layers items) =>
    let below := insert parent layer position items
    .node head (.layers (if head.id = parent then insertAt below layer position else below))
  | .node head slot => .node head slot

/-- A forest with `layer` put into the children of every layer with the id `parent`. A layer whose
slot is no list cannot take it. -/
def insert (parent : String) (layer : Layer) (position : Option Int) : List Layer → List Layer
  | [] => []
  | l :: rest => insertIn parent layer position l :: insert parent layer position rest

end

mutual

/-- A layer with `replacement` for every layer of it that has an id. -/
def replaceIn (id : String) (replacement : Layer) : Layer → Layer
  | .node head (.layers items) =>
    if head.id = id then replacement else .node head (.layers (replace id replacement items))
  | .node head slot => if head.id = id then replacement else .node head slot

/-- A forest with `replacement` for every layer that has an id. -/
def replace (id : String) (replacement : Layer) : List Layer → List Layer
  | [] => []
  | l :: rest => replaceIn id replacement l :: replace id replacement rest

end

/-- A forest with every layer that has an id replaced from the top down. What is below the
replacement is gone through as well, so if the id occurs there, this never ends and there is no such
forest. -/
def replace? (id : String) (replacement : Layer) (f : Forest) : Option Forest :=
  if (ids f).contains id && (ids replacement.children).contains id then none
  else some (replace id replacement f)

/-- A forest with a layer taken out and put under another parent. The position counts the places
of the list as it was before. There is no such forest if one of the two is unknown, if the parent
has no list of children, or if it lies in the layer that is to move. -/
def move? (f : Forest) (id parent : String) (position : Option Int) : Option Forest :=
  match find? f id, find? f parent with
  | some layer, some target =>
    if !target.holdsLayers || layer.ids.contains parent then none
    else
      let shifted : Option Int :=
        match parentOf? f id, position with
        | some current, some p =>
          if current.id = parent then
            match indexOf? current.children id with
            | some index => if (index : Int) < p then some (p - 1) else some p
            | none => some p
          else some p
        | _, p => p
      some (insert parent layer shifted (without id f))
  | _, _ => none

end Forest

/-! ## Copies -/

namespace Layer

mutual

/-- A copy of a layer with fresh ids, used from the top down. -/
def copy : Layer → Supply → Layer × Supply
  | .node head (.layers items), s =>
    let (id, s) := s.next
    let (items, s) := copyItems items s
    (.node { head with id := id } (.layers items), s)
  | .node head slot, s =>
    let (id, s) := s.next
    (.node { head with id := id } slot, s)

/-- Copies of a list of layers. -/
def copyItems : List Layer → Supply → List Layer × Supply
  | [], s => ([], s)
  | l :: rest, s =>
    let (l, s) := copy l s
    let (rest, s) := copyItems rest s
    (l :: rest, s)

end

/-- The layer with a suffix to its name, if it has a name that is not empty. -/
def withNameSuffix (l : Layer) (suffix : String) : Layer :=
  match l.head.name with
  | some name =>
    if name.isEmpty then l else .node { l.head with name := some (name ++ suffix) } l.slot
  | none => l

/-- A copy of a layer under a new name. -/
def copyNamed (suffix : String) (l : Layer) (s : Supply) : Layer × Supply :=
  let (l, s) := copy l s
  (l.withNameSuffix suffix, s)

end Layer

end LayerDoc
