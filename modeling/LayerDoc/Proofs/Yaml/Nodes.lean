import LayerDoc.Proofs.Yaml.Tokens
import LayerDoc.Yaml.Reader

/-!
# Nodes of what is written as JSON

From the tokens that a value is written with a reader makes the node of the value (`Value.node`).
-/

namespace LayerDoc

open Yaml

namespace Value

mutual

/-- The node that a value is read as. -/
def node : Value → Node
  | .str s => .scalar (.scalar .text) s.toList
  | .list items => .sequence (.collection .list) none (itemNodes items)
  | .object es => .mapping (.collection .map) none (entryNodes es)
  | v => .scalar (Tag.ofText v.plainText) v.plainText.toList

/-- `node` of each item. -/
def itemNodes : List Value → List Node
  | [] => []
  | v :: rest => v.node :: itemNodes rest

/-- `node` of each entry, with the keys as text. -/
def entryNodes : List (String × Value) → List (Node × Node)
  | [] => []
  | (k, v) :: rest => (.scalar (.scalar .text) k.toList, v.node) :: entryNodes rest

end

end Value

namespace Yaml

/-! ## Steps of reading -/

section

variable {handles : List (String × String)} {anchors : List (String × Option Node)}
  {ts : List Token} {t : Token} {fuel : Nat}

/-- What is known while nodes are read from tokens that are well formed. -/
def readingOf (handles : List (String × String)) (anchors : List (String × Option Node))
    (ts : List Token) : Reading := ⟨ts, none, handles, anchors⟩

theorem readNode_scalar (inBlock atIndent : Bool) (text : List Char) (isPlain : Bool) :
    readNode inBlock atIndent (fuel + 1) (readingOf handles anchors (.scalar text isPlain :: ts)) =
      .ok (.scalar (scalarTag none text isPlain) text, readingOf handles anchors ts) := by
  rw [readNode]
  rfl

theorem readNode_sequence (inBlock atIndent : Bool) {items : List Node} {rest : List Token}
    (h : readFlowItems true fuel (readingOf handles anchors ts) =
      .ok (items, readingOf handles anchors rest)) :
    readNode inBlock atIndent (fuel + 1) (readingOf handles anchors (.flowSequenceStart :: ts)) =
      .ok (.sequence (.collection .list) none items, readingOf handles anchors rest) := by
  have hstep : readNode inBlock atIndent (fuel + 1)
      (readingOf handles anchors (.flowSequenceStart :: ts)) = (do
        let items ← readFlowItems true fuel
        Read.complete none (.sequence (sequenceTag none) none items))
      (readingOf handles anchors ts) := by
    rw [readNode]
    rfl
  rw [hstep]
  simp only [bind, StateT.bind, Except.bind, h]
  rfl

theorem readNode_mapping (inBlock atIndent : Bool) {entries : List (Node × Node)}
    {rest : List Token}
    (h : readFlowEntries true fuel (readingOf handles anchors ts) =
      .ok (entries, readingOf handles anchors rest)) :
    readNode inBlock atIndent (fuel + 1) (readingOf handles anchors (.flowMappingStart :: ts)) =
      .ok (.mapping (.collection .map) none entries, readingOf handles anchors rest) := by
  have hstep : readNode inBlock atIndent (fuel + 1)
      (readingOf handles anchors (.flowMappingStart :: ts)) = (do
        let entries ← readFlowEntries true fuel
        Read.complete none (.mapping (mappingTag none) none entries))
      (readingOf handles anchors ts) := by
    rw [readNode]
    rfl
  rw [hstep]
  simp only [bind, StateT.bind, Except.bind, h]
  rfl

theorem readFlowItems_end (isFirst : Bool) :
    readFlowItems isFirst (fuel + 1) (readingOf handles anchors (.flowSequenceEnd :: ts)) =
      .ok ([], readingOf handles anchors ts) := by
  rw [readFlowItems]
  rfl

theorem readFlowEntries_end (isFirst : Bool) :
    readFlowEntries isFirst (fuel + 1) (readingOf handles anchors (.flowMappingEnd :: ts)) =
      .ok ([], readingOf handles anchors ts) := by
  rw [readFlowEntries]
  rfl

/-- A token that a node begins with. -/
def StartsNode (t : Token) : Prop :=
  (∃ text isPlain, t = .scalar text isPlain) ∨ t = .flowSequenceStart ∨ t = .flowMappingStart

/-- The comma in front of every part but the first. -/
def commaTokens (isFirst : Bool) : List Token := if isFirst then [] else [.flowEntry]

theorem readFlowItems_cons (isFirst : Bool) {n : Node} {items : List Node} {t : Token}
    {rest rest' : List Token} (ht : StartsNode t)
    (hnode : readNode false false fuel (readingOf handles anchors (t :: ts)) =
      .ok (n, readingOf handles anchors rest))
    (hitems : readFlowItems false fuel (readingOf handles anchors rest) =
      .ok (items, readingOf handles anchors rest')) :
    readFlowItems isFirst (fuel + 1) (readingOf handles anchors (commaTokens isFirst ++ t :: ts)) =
      .ok (n :: items, readingOf handles anchors rest') := by
  have hstep : readFlowItems isFirst (fuel + 1)
      (readingOf handles anchors (commaTokens isFirst ++ t :: ts)) = (do
        let item ← readNode false false fuel
        return item :: (← readFlowItems false fuel)) (readingOf handles anchors (t :: ts)) := by
    rw [readFlowItems]
    rcases ht with ⟨text, isPlain, rfl⟩ | rfl | rfl <;> cases isFirst <;> rfl
  rw [hstep]
  simp only [bind, StateT.bind, Except.bind, hnode, hitems]
  rfl

theorem readFlowEntries_cons (isFirst : Bool) (key : List Char) {n : Node}
    {entries : List (Node × Node)} {t : Token} {rest rest' : List Token} (ht : StartsNode t)
    (hnode : readNode false false (fuel + 1) (readingOf handles anchors (t :: ts)) =
      .ok (n, readingOf handles anchors rest))
    (hentries : readFlowEntries false (fuel + 2) (readingOf handles anchors rest) =
      .ok (entries, readingOf handles anchors rest')) :
    readFlowEntries isFirst (fuel + 3) (readingOf handles anchors
        (commaTokens isFirst ++ .key :: .scalar key false :: .value :: t :: ts)) =
      .ok ((.scalar (.scalar .text) key, n) :: entries, readingOf handles anchors rest') := by
  have hstep : readFlowEntries isFirst (fuel + 3) (readingOf handles anchors
      (commaTokens isFirst ++ .key :: .scalar key false :: .value :: t :: ts)) = (do
        let value ← readNode false false (fuel + 1)
        return (Node.scalar (.scalar .text) key, value) :: (← readFlowEntries false (fuel + 2)))
      (readingOf handles anchors (t :: ts)) := by
    rw [readFlowEntries]
    rcases ht with ⟨text, isPlain, rfl⟩ | rfl | rfl <;> cases isFirst <;> rfl
  rw [hstep]
  simp only [bind, StateT.bind, Except.bind, hnode, hentries]
  rfl

/-! ## The nodes of values -/

/-- Tokens of parts with commas between them, and with one in front unless the first comes first. -/
def joinedTokens (isFirst : Bool) (parts : List (List Token)) : List Token :=
  if isFirst then (parts.flatMap (.flowEntry :: ·)).tail else parts.flatMap (.flowEntry :: ·)

theorem joinedTokens_cons (isFirst : Bool) (part : List Token) (parts : List (List Token)) :
    joinedTokens isFirst (part :: parts) =
      commaTokens isFirst ++ (part ++ joinedTokens false parts) := by
  cases isFirst <;> simp [joinedTokens, commaTokens]

end

end Yaml

namespace Value

theorem exists_tokens_cons (v : Value) : ∃ t ts, v.tokens = t :: ts ∧ StartsNode t := by
  cases v with
  | list items => exact ⟨_, _, rfl, Or.inr (Or.inl rfl)⟩
  | object es => exact ⟨_, _, rfl, Or.inr (Or.inr rfl)⟩
  | _ => exact ⟨_, _, rfl, Or.inl ⟨_, _, rfl⟩⟩

variable {handles : List (String × String)} {anchors : List (String × Option Node)}

theorem readNode_plainText {v : Value} (htokens : v.tokens = [.scalar v.plainText.toList true])
    (hnode : v.node = .scalar (Tag.ofText v.plainText) v.plainText.toList)
    {inBlock atIndent : Bool} {fuel : Nat} {rest : List Token} (hfuel : v.tokens.length ≤ fuel) :
    readNode inBlock atIndent fuel (readingOf handles anchors (v.tokens ++ rest)) =
      .ok (v.node, readingOf handles anchors rest) := by
  have htag : scalarTag none v.plainText.toList true = Tag.ofText v.plainText := by
    simp [scalarTag, tagOr]
  rw [htokens, List.length_singleton] at hfuel
  obtain ⟨fuel, rfl⟩ : ∃ k, fuel = k + 1 := ⟨fuel - 1, by omega⟩
  rw [htokens, hnode, List.singleton_append, readNode_scalar, htag]

mutual

/-- From the tokens of a value its node is read. -/
theorem readNode_tokens (v : Value) (inBlock atIndent : Bool) (fuel : Nat) (rest : List Token)
    (hfuel : v.tokens.length ≤ fuel) :
    readNode inBlock atIndent fuel (readingOf handles anchors (v.tokens ++ rest)) =
      .ok (v.node, readingOf handles anchors rest) := by
  cases v with
  | list items =>
    rw [tokens, blockTokens, List.length_cons, List.length_append, List.length_singleton] at hfuel
    obtain ⟨fuel, rfl⟩ : ∃ k, fuel = k + 1 := ⟨fuel - 1, by omega⟩
    have hitems := readFlowItems_itemTokens items true fuel rest
      (by rw [joinedTokens, if_pos rfl]; omega)
    rw [tokens, blockTokens, List.cons_append, List.append_assoc, node]
    exact readNode_sequence inBlock atIndent hitems
  | object es =>
    rw [tokens, blockTokens, List.length_cons, List.length_append, List.length_singleton] at hfuel
    obtain ⟨fuel, rfl⟩ : ∃ k, fuel = k + 1 := ⟨fuel - 1, by omega⟩
    have hentries := readFlowEntries_entryTokens es true fuel rest
      (by rw [joinedTokens, if_pos rfl]; omega)
    rw [tokens, blockTokens, List.cons_append, List.append_assoc, node]
    exact readNode_mapping inBlock atIndent hentries
  | str s =>
    rw [tokens, List.length_singleton] at hfuel
    obtain ⟨fuel, rfl⟩ : ∃ k, fuel = k + 1 := ⟨fuel - 1, by omega⟩
    exact readNode_scalar inBlock atIndent s.toList false
  | _ => exact readNode_plainText rfl rfl hfuel

theorem readFlowItems_itemTokens : ∀ (items : List Value) (isFirst : Bool) (fuel : Nat)
    (rest : List Token), (joinedTokens isFirst (itemTokens items)).length < fuel →
    readFlowItems isFirst fuel (readingOf handles anchors
        (joinedTokens isFirst (itemTokens items) ++ .flowSequenceEnd :: rest)) =
      .ok (itemNodes items, readingOf handles anchors rest)
  | [], isFirst, fuel, rest, hfuel => by
    obtain ⟨fuel, rfl⟩ : ∃ k, fuel = k + 1 := ⟨fuel - 1, by omega⟩
    have hnone : joinedTokens isFirst (itemTokens []) = [] := by
      cases isFirst <;> rfl
    rw [hnone]
    exact readFlowItems_end isFirst
  | v :: items, isFirst, fuel, rest, hfuel => by
    obtain ⟨t, ts, hv, ht⟩ := exists_tokens_cons v
    obtain ⟨fuel, rfl⟩ : ∃ k, fuel = k + 1 := ⟨fuel - 1, by omega⟩
    have hsplit := joinedTokens_cons isFirst v.tokens (itemTokens items)
    have hlength := congrArg List.length hsplit
    have hpos := congrArg List.length hv
    rw [List.length_append, List.length_append] at hlength
    rw [List.length_cons] at hpos
    rw [itemTokens] at hfuel ⊢
    have hnode := readNode_tokens v false false fuel
      (joinedTokens false (itemTokens items) ++ .flowSequenceEnd :: rest) (by omega)
    have hitems := readFlowItems_itemTokens items false fuel rest (by omega)
    rw [hsplit, hv, List.append_assoc, List.append_assoc, List.cons_append, itemNodes]
    rw [hv, List.cons_append] at hnode
    exact readFlowItems_cons isFirst ht hnode hitems

theorem readFlowEntries_entryTokens : ∀ (es : List (String × Value)) (isFirst : Bool) (fuel : Nat)
    (rest : List Token), (joinedTokens isFirst (entryTokens es)).length < fuel →
    readFlowEntries isFirst fuel (readingOf handles anchors
        (joinedTokens isFirst (entryTokens es) ++ .flowMappingEnd :: rest)) =
      .ok (entryNodes es, readingOf handles anchors rest)
  | [], isFirst, fuel, rest, hfuel => by
    obtain ⟨fuel, rfl⟩ : ∃ k, fuel = k + 1 := ⟨fuel - 1, by omega⟩
    have hnone : joinedTokens isFirst (entryTokens []) = [] := by
      cases isFirst <;> rfl
    rw [hnone]
    exact readFlowEntries_end isFirst
  | (k, v) :: es, isFirst, fuel, rest, hfuel => by
    obtain ⟨t, ts, hv, ht⟩ := exists_tokens_cons v
    have hsplit := joinedTokens_cons isFirst ([.key, .scalar k.toList false, .value] ++ v.tokens)
      (entryTokens es)
    have hlength := congrArg List.length hsplit
    have hpos := congrArg List.length hv
    simp only [List.length_append, List.length_cons, List.length_nil] at hlength hpos
    rw [entryTokens] at hfuel ⊢
    obtain ⟨fuel, rfl⟩ : ∃ k, fuel = k + 3 := ⟨fuel - 3, by omega⟩
    have hnode := readNode_tokens v false false (fuel + 1)
      (joinedTokens false (entryTokens es) ++ .flowMappingEnd :: rest) (by omega)
    have hentries := readFlowEntries_entryTokens es false (fuel + 2) rest (by omega)
    rw [hv, List.cons_append] at hnode
    have hread := readFlowEntries_cons isFirst k.toList ht hnode hentries
    rw [hsplit, hv, entryNodes]
    simpa using hread

end

end Value

/-- The tokens of an object are a document of their own. -/
theorem Yaml.ofTokens_object (es : List (String × Value)) :
    Node.ofTokens ⟨(Value.object es).tokens, none⟩ = .ok (some (Value.object es).node) := by
  have hnode := @Value.readNode_tokens defaultHandles [] (.object es) true false
    (4 * (Value.object es).tokens.length + 8) [] (by omega)
  rw [List.append_nil] at hnode
  have hstep : (readDocument (4 * (Value.object es).tokens.length + 8)).run
      (readingOf defaultHandles [] (Value.object es).tokens) = (do
        let node ← readNode true false (4 * (Value.object es).tokens.length + 8)
        readDocument.finish node) (readingOf defaultHandles [] (Value.object es).tokens) := by
    rfl
  have hread : (readDocument (4 * (Value.object es).tokens.length + 8)).run
      (readingOf defaultHandles [] (Value.object es).tokens) =
        .ok (some (Value.object es).node, readingOf defaultHandles [] []) := by
    rw [hstep]
    simp only [bind, StateT.bind, Except.bind, hnode]
    rfl
  exact congrArg (Except.map Prod.fst) hread

end LayerDoc
