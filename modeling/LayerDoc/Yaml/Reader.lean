import LayerDoc.Yaml.Node
import LayerDoc.Yaml.Scalar

/-!
# Values of YAML

The value that a text stands for. Of entries under one key the last wins, in the place of the
first. The entries of mappings that are merged in come before a mapping's own, so its own win.

Whether all parts of a document stand for something is looked at first, level by level: of several
faults the one nearest to the root counts, and on one level the first. After that every node has a
value.
-/

namespace LayerDoc.Yaml

namespace Node

/-- The tag of a node. -/
def tag : Node → Tag
  | .scalar tag _ => tag
  | .sequence tag _ _ => tag
  | .mapping tag _ _ => tag
  | .cycle => .unknown

/-! ## Scalars -/

mutual

/-- The text of a scalar, or of the value that a mapping gives for itself. -/
def scalarText? : Node → Option (List Char)
  | .scalar _ text => some text
  | .mapping _ _ entries => ownText? entries
  | .sequence _ _ _ => none
  | .cycle => none

/-- The text of the value that a mapping gives for itself. -/
def ownText? : List (Node × Node) → Option (List Char)
  | [] => none
  | (key, value) :: rest => if key.tag = .value then value.scalarText? else ownText? rest

end

/-- The value of a node with the tag of a scalar. -/
def scalarValue (n : Node) : Except Error Value :=
  match n.tag, n.scalarText? with
  | .scalar kind, some text =>
    match n, kind with
    | .mapping _ _ _, .timestamp => .error (.scalar .dateInParts)
    | _, _ => kind.value text
  | _, _ => .error .malformed

/-- The node as the key of a mapping: the mark of a mapping's own value is text there. -/
def asKey : Node → Node
  | .scalar .value text => .scalar (.scalar .text) text
  | .mapping .value number entries => .mapping (.scalar .text) number entries
  | n => n

/-! ## Merging -/

mutual

/-- The entries of a mapping with those that are merged in. A mapping that is merged into itself
gives nothing. -/
def flatEntries : List (Node × Node) → Except Error (List (Node × Node) × List (Node × Node))
  | [] => .ok ([], [])
  | (key, value) :: rest => do
    if key.tag = .merge then
      let merged ← value.mergedEntries
      let (others, own) ← flatEntries rest
      return (merged ++ others, own)
    else
      let (merged, own) ← flatEntries rest
      return (merged, (key.asKey, value) :: own)

/-- The entries that a merged node gives: a mapping its own, a list those of its mappings, where
the first wins. -/
def mergedEntries : Node → Except Error (List (Node × Node))
  | .mapping _ _ entries => do
    let (merged, own) ← flatEntries entries
    return merged ++ own
  | .sequence _ _ items => mergedItems items
  | .cycle => .ok []
  | .scalar _ _ => .error .malformed

/-- The entries of a list of merged mappings, the last first. -/
def mergedItems : List Node → Except Error (List (Node × Node))
  | [] => .ok []
  | n :: rest => do
    let first ← n.mappingEntries
    let others ← mergedItems rest
    return others ++ first

/-- The entries of a mapping that is merged in as one of a list. -/
def mappingEntries : Node → Except Error (List (Node × Node))
  | .mapping _ _ entries => do
    let (merged, own) ← flatEntries entries
    return merged ++ own
  | .cycle => .ok []
  | _ => .error .malformed

end

/-! ## Faults -/

/-- The collections of a level that are still to be looked at, the last first, and the numbers of
those that were met. -/
structure Level where
  collections : List Node
  met : List Nat

namespace Level

/-- Meet a node. A scalar is looked at, a collection is left for the next level unless it was met
before. -/
def meet (l : Level) (n : Node) : Except Error Level :=
  match n, n.tag with
  | .cycle, _ => .ok l
  | n, .scalar _ => n.scalarValue.map fun _ => l
  | n, .collection _ =>
    let number? := match n with
      | .sequence _ number _ => number
      | .mapping _ number _ => number
      | _ => none
    match number? with
    | none => .ok { l with collections := n :: l.collections }
    | some number =>
      if l.met.contains number then .ok l else .ok ⟨n :: l.collections, number :: l.met⟩
  | _, _ => .error .malformed

/-- Meet an entry of a mapping; a key must be a scalar. -/
def meetEntry (l : Level) (entry : Node × Node) : Except Error Level := do
  let _ ← entry.1.scalarValue
  l.meet entry.2

/-- Meet a pair, which is given as a mapping of one entry. Its key may be anything. -/
def meetPair (l : Level) : Node → Except Error Level
  | .mapping _ _ [(key, value)] => do (← l.meet key).meet value
  | _ => .error .malformed

/-- Meet the parts of a collection. -/
def meetParts (l : Level) : Node → Except Error Level
  | .sequence (.collection .list) _ items => items.foldlM meet l
  | .sequence (.collection .pairs) _ items => items.foldlM meetPair l
  | .mapping (.collection shape) _ entries =>
    if shape = .map ∨ shape = .set then do
      let (merged, own) ← flatEntries entries
      (merged ++ own).foldlM meetEntry l
    else .error .malformed
  | _ => .error .malformed

/-- Look at a level and at those below it. There are at most as many levels as `fuel` says. -/
def check : Nat → Level → Except Error Unit
  | 0, _ => .ok ()
  | fuel + 1, l =>
    match l.collections with
    | [] => .ok ()
    | _ => do check fuel (← l.collections.reverse.foldlM meetParts ⟨[], l.met⟩)

end Level

/-- Whether all parts of a node stand for something, given a bound of the length of its branches. -/
def check (fuel : Nat) (n : Node) : Except Error Unit := do
  Level.check fuel (← (Level.mk [] []).meet n)

/-! ## Values -/

/-- The key that a value is; collections are none, and get the key null. -/
def keyOf : Value → Key
  | .bool b => .bool b
  | .int n => .int n
  | .float d => .float d
  | .str s => .str s
  | .bytes content => .bytes content
  | .moment t => .moment t
  | _ => .null

/-- A mapping from its entries. -/
def mappingValue (entries : List (Key × Value)) : Value :=
  let entries := entries.foldl (fun es e => Key.put es e.1 e.2) []
  match entries.mapM fun e => e.1.str?.map (·, e.2) with
  | some es => .object es
  | none => .mapping entries

/-- A set from its members: whole numbers are in order, all else is as it was written. -/
def setValue (members : List (Key × Value)) : Value :=
  let keys := (members.foldl (fun es e => Key.put es e.1 ()) []).map Prod.fst
  match keys.mapM fun k => match k with | .int n => some n | _ => none with
  | some ns => .set ((ns.mergeSort fun a b => a ≤ b).map .int)
  | none => .set (keys.map Key.value)

/-- A step of making values, which keeps those of the nodes that have a number. -/
abbrev Build (α : Type) := StateM (List (Nat × Value)) α

/-- The value of a node with a number is made once. -/
def once (number : Option Nat) (build : Build Value) : Build Value := do
  match number with
  | none => build
  | some number =>
    match (← get).lookup number with
    | some v => return v
    | none =>
      let v ← build
      modify ((number, v) :: ·)
      return v

mutual

/-- The value of a node, all of whose parts stand for something. -/
def build : Node → Build Value
  | .scalar tag text => return (scalarValue (.scalar tag text)).toOption.getD .null
  | .cycle => return .cycle
  | .sequence tag number items =>
    once number (do
      match tag with
      | .collection .pairs => return .list (← buildPairs items)
      | _ => return .list (← buildItems items))
  | .mapping tag number entries =>
    once number (do
      match tag with
      | .collection .map =>
        let (merged, own) ← buildEntries entries
        return mappingValue (merged ++ own)
      | .collection .set =>
        let (merged, own) ← buildEntries entries
        return setValue (merged ++ own)
      | _ => return (scalarValue (.mapping tag number entries)).toOption.getD .null)

/-- The values of a list of nodes. -/
def buildItems : List Node → Build (List Value)
  | [] => return []
  | n :: rest => do
    let v ← n.build
    return v :: (← buildItems rest)

/-- The values of a list of pairs. -/
def buildPairs : List Node → Build (List Value)
  | .mapping _ _ ((key, value) :: _) :: rest => do
    let k ← key.build
    let v ← value.build
    return .list [k, v] :: (← buildPairs rest)
  | _ => return []

/-- The entries of a mapping: those merged in, and its own. -/
def buildEntries : List (Node × Node) → Build (List (Key × Value) × List (Key × Value))
  | [] => return ([], [])
  | (key, value) :: rest => do
    if key.tag = .merge then
      let first ← value.buildMerged
      let (merged, own) ← buildEntries rest
      return (first ++ merged, own)
    else
      let k := keyOf (key.asKey.scalarValue.toOption.getD .null)
      let v ← value.build
      let (merged, own) ← buildEntries rest
      return (merged, (k, v) :: own)

/-- The entries that a merged node gives. -/
def buildMerged : Node → Build (List (Key × Value))
  | .mapping _ _ entries => do
    let (merged, own) ← buildEntries entries
    return merged ++ own
  | .sequence _ _ items => buildMergedItems items
  | _ => return []

/-- The entries of a list of merged mappings, the last first. -/
def buildMergedItems : List Node → Build (List (Key × Value))
  | [] => return []
  | n :: rest => do
    let first ← n.buildMerged
    return (← buildMergedItems rest) ++ first

end

/-- The value of a node, all of whose parts stand for something. -/
def value (n : Node) : Value := (n.build.run []).1

end Node

/-- The value that a text stands for. A text without a document stands for null. -/
def parse (text : String) : Except Error Value := do
  let ts := tokensOf text
  match ← Node.ofTokens ts with
  | none => return .null
  | some node =>
    node.check (ts.items.length + 1)
    return node.value

end LayerDoc.Yaml
