import LayerDoc.Yaml.Tag

/-!
# Nodes of YAML

A document of a text is a tree of tagged nodes: scalars, sequences and mappings. An anchor names a
node, and an alias stands for the node that was named; one inside the node that it stands for makes
the node a part of itself.
-/

namespace LayerDoc.Yaml

/-- A tagged node. Sequences and mappings that were named carry a number, by which the places where
one node stands are known as such. -/
inductive Node where
  | scalar (tag : Tag) (text : List Char)
  | sequence (tag : Tag) (number : Option Nat) (items : List Node)
  | mapping (tag : Tag) (number : Option Nat) (entries : List (Node × Node))
  /-- The place at which a node is a part of itself. -/
  | cycle
  deriving Repr

/-- The node that stands where there is none. -/
def Node.empty : Node := .scalar (.scalar .null) []

/-- What is known while nodes are read: the tokens that are left and what comes after them, the
meanings of the handles of tags, and the named nodes, the last one first. A node has its name before
it is complete. -/
structure Reading where
  tokens : List Token
  fault? : Option Error
  handles : List (String × String)
  anchors : List (String × Option Node)

/-- A step of reading nodes. -/
abbrev Read (α : Type) := StateT Reading (Except Error) α

namespace Read

/-- The next token; there is none at the end. Where the text is not well formed reading ends. -/
def peek : Read (Option Token) := do
  match (← get).tokens.head?, (← get).fault? with
  | some t, _ => return some t
  | none, some e => throw e
  | none, none => return none

/-- Pass over the next token. -/
def skip : Read Unit := modify fun s => { s with tokens := s.tokens.tail }

/-- Whether the next token is one of some tokens. -/
def at? (ts : List Token) : Read Bool := do
  match ← peek with
  | some t => return ts.contains t
  | none => return false

/-- Pass over a token that must come next. -/
def expect (t : Token) : Read Unit := do
  if ← at? [t] then skip else throw .malformed

/-- The name of an anchor, if one is given here. -/
def anchor? : Read (Option String) := do
  match ← peek with
  | some (.anchor name) => skip; return some name
  | _ => return none

/-- The tag that is given here, with the meaning of its handle. -/
def tag? : Read (Option String) := do
  match ← peek with
  | some (.tag handle suffix) =>
    skip
    match handle with
    | none => return some suffix
    | some handle =>
      match (← get).handles.lookup handle with
      | some meaning => return some (meaning ++ suffix)
      | none => throw .malformed
  | _ => return none

/-- Name a node that is not complete, and number it. No name can be given twice. -/
def declare (name : Option String) : Read (Option Nat) := do
  match name with
  | none => return none
  | some name =>
    let s ← get
    if (s.anchors.lookup name).isSome then throw .malformed
    set { s with anchors := (name, none) :: s.anchors }
    return some s.anchors.length

/-- Complete the node with a name. -/
def complete (name : Option String) (node : Node) : Read Node := do
  match name with
  | none => return node
  | some name =>
    modify fun s => { s with anchors := (name, some node) :: s.anchors }
    return node

end Read

open Read

/-- The tag of a node whose tag is not given, or is given as an exclamation mark alone:
`default`. -/
def tagOr (default : Tag) (tag : Option String) : Tag :=
  match tag with
  | none => default
  | some name => if name = "!" then default else Tag.ofName name

/-- The tag of a scalar. -/
def scalarTag (tag : Option String) (text : List Char) (isPlain : Bool) : Tag :=
  if tag.isNone && !isPlain then .scalar .text else tagOr (Tag.ofText (String.ofList text)) tag

/-- The tag of a sequence. -/
def sequenceTag (tag : Option String) : Tag := tagOr (.collection .list) tag

/-- The tag of a mapping. -/
def mappingTag (tag : Option String) : Tag := tagOr (.collection .map) tag

mutual

/-- A node. Blocks may begin here if `inBlock`; a sequence of a mapping's value may stand at the
indentation of the mapping if `atIndent`. -/
def readNode (inBlock atIndent : Bool) : Nat → Read Node
  | 0 => throw .malformed
  | fuel + 1 => do
    match ← peek with
    | some (.alias name) =>
      skip
      match (← get).anchors.lookup name with
      | some (some node) => return node
      | some none => return .cycle
      | none => throw .malformed
    | _ =>
      let first ← anchor?
      let tag ← tag?
      let anchor ← if first.isNone && tag.isSome then anchor? else pure first
      match ← peek with
      | some .blockEntry =>
        if atIndent then
          let number ← declare anchor
          complete anchor (.sequence (sequenceTag tag) number (← readIndentedItems fuel))
        else readEmpty anchor tag
      | some (.scalar text isPlain) =>
        skip
        let _ ← declare anchor
        complete anchor (.scalar (scalarTag tag text isPlain) text)
      | some .flowSequenceStart =>
        skip
        let number ← declare anchor
        complete anchor (.sequence (sequenceTag tag) number (← readFlowItems true fuel))
      | some .flowMappingStart =>
        skip
        let number ← declare anchor
        complete anchor (.mapping (mappingTag tag) number (← readFlowEntries true fuel))
      | some .sequenceStart =>
        if inBlock then
          skip
          let number ← declare anchor
          complete anchor (.sequence (sequenceTag tag) number (← readItems fuel))
        else readEmpty anchor tag
      | some .mappingStart =>
        if inBlock then
          skip
          let number ← declare anchor
          complete anchor (.mapping (mappingTag tag) number (← readEntries fuel))
        else readEmpty anchor tag
      | _ => readEmpty anchor tag

/-- An empty scalar, which there is only with a tag or an anchor. -/
def readEmpty (anchor tag : Option String) : Read Node := do
  if anchor.isNone && tag.isNone then throw .malformed
  let _ ← declare anchor
  complete anchor (.scalar (scalarTag tag [] true) [])

/-- A node, or the empty one if one of some tokens comes next. -/
def readNodeUnless (ends : List Token) (inBlock atIndent : Bool) : Nat → Read Node
  | 0 => throw .malformed
  | fuel + 1 => do
    if ← at? ends then return .empty
    readNode inBlock atIndent fuel

/-- The items of a block sequence and its end. -/
def readItems : Nat → Read (List Node)
  | 0 => throw .malformed
  | fuel + 1 => do
    if ← at? [.blockEntry] then
      skip
      let item ← readNodeUnless [.blockEntry, .blockEnd] true false fuel
      return item :: (← readItems fuel)
    expect .blockEnd
    return []

/-- The items of a sequence at the indentation of the mapping around it. -/
def readIndentedItems : Nat → Read (List Node)
  | 0 => throw .malformed
  | fuel + 1 => do
    if ← at? [.blockEntry] then
      skip
      let item ← readNodeUnless [.blockEntry, .key, .value, .blockEnd] true false fuel
      return item :: (← readIndentedItems fuel)
    return []

/-- The entries of a block mapping and its end. -/
def readEntries : Nat → Read (List (Node × Node))
  | 0 => throw .malformed
  | fuel + 1 => do
    if ← at? [.key] then
      skip
      let key ← readNodeUnless [.key, .value, .blockEnd] true true fuel
      let value ← if ← at? [.value] then do
          skip
          readNodeUnless [.key, .value, .blockEnd] true true fuel
        else pure .empty
      return (key, value) :: (← readEntries fuel)
    expect .blockEnd
    return []

/-- The items of a sequence in brackets and its end. -/
def readFlowItems (isFirst : Bool) : Nat → Read (List Node)
  | 0 => throw .malformed
  | fuel + 1 => do
    if ← at? [.flowSequenceEnd] then
      skip
      return []
    if !isFirst then expect .flowEntry
    if ← at? [.key] then
      skip
      let key ← readNodeUnless [.value, .flowEntry, .flowSequenceEnd] false false fuel
      let value ← if ← at? [.value] then do
          skip
          readNodeUnless [.flowEntry, .flowSequenceEnd] false false fuel
        else pure .empty
      return .mapping (.collection .map) none [(key, value)] :: (← readFlowItems false fuel)
    if ← at? [.flowSequenceEnd] then
      skip
      return []
    let item ← readNode false false fuel
    return item :: (← readFlowItems false fuel)

/-- The entries of a mapping in braces and its end. -/
def readFlowEntries (isFirst : Bool) : Nat → Read (List (Node × Node))
  | 0 => throw .malformed
  | fuel + 1 => do
    if ← at? [.flowMappingEnd] then
      skip
      return []
    if !isFirst then expect .flowEntry
    if ← at? [.key] then
      skip
      let key ← readNodeUnless [.value, .flowEntry, .flowMappingEnd] false false fuel
      let value ← if ← at? [.value] then do
          skip
          readNodeUnless [.flowEntry, .flowMappingEnd] false false fuel
        else pure .empty
      return (key, value) :: (← readFlowEntries false fuel)
    if ← at? [.flowMappingEnd] then
      skip
      return []
    let key ← readNode false false fuel
    return (key, .empty) :: (← readFlowEntries false fuel)

end

/-- The meanings that handles have of their own. -/
def defaultHandles : List (String × String) := [("!", "!"), ("!!", "tag:yaml.org,2002:")]

/-- The directives before a document, and the handles that they give a meaning to. -/
def readDirectives : Nat → Bool → List (String × String) → Read (List (String × String))
  | 0, _, _ => throw .malformed
  | fuel + 1, hasVersion, handles => do
    match ← peek with
    | some (.directive "YAML" value) =>
      skip
      if hasVersion || (value.headD "").toNat? ≠ some 1 then throw .malformed
      readDirectives fuel true handles
    | some (.directive "TAG" [handle, meaning]) =>
      skip
      if (handles.lookup handle).isSome then throw .malformed
      readDirectives fuel hasVersion ((handle, meaning) :: handles)
    | some (.directive _ _) =>
      skip
      readDirectives fuel hasVersion handles
    | _ => return handles

/-- The one document of a text, and the end of the text. A text may hold no document. -/
def readDocument (fuel : Nat) : Read (Option Node) := do
  match ← peek with
  | none => return none
  | some (.directive _ _) => explicit
  | some .documentStart => explicit
  | some _ =>
    let node ← readNode true false fuel
    finish node
where
  explicit : Read (Option Node) := do
    let handles ← readDirectives fuel false []
    modify fun s => { s with handles := handles ++ defaultHandles }
    expect .documentStart
    match ← peek with
    | none => finish .empty
    | some .documentStart => throw .malformed
    | some (.directive _ _) => throw .malformed
    | some .documentEnd => finish .empty
    | some _ =>
      let node ← readNode true false fuel
      finish node
  finish (node : Node) : Read (Option Node) := do
    modify fun s => { s with tokens := s.tokens.dropWhile (· == .documentEnd) }
    match ← peek with
    | none => return some node
    | some _ => throw .malformed

/-- The document that tokens stand for. -/
def Node.ofTokens (ts : Tokens) : Except Error (Option Node) :=
  let reading : Reading := ⟨ts.items, ts.fault?, defaultHandles, []⟩
  ((readDocument (4 * ts.items.length + 8)).run reading).map Prod.fst

end LayerDoc.Yaml
