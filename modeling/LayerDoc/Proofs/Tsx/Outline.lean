import LayerDoc.Proofs.Tsx.Identity
import LayerDoc.Proofs.Tsx.Lines

/-!
# Outlines of layers

The outline of a layer is the tree of types, texts of attributes, and what stands between the tags.
The lines of a layer are those of its outline (`itemLines_eq_text`), in which every opening line has
its closing line (`Outline.matched_itemLines`). A reader that keeps the open elements on a stack
places each outline as a whole (`Outline.foldlM_itemLines`). So the lines give the outline back
(`outline_of_lines`).
-/

namespace LayerDoc.Tsx

/-- What stands between the two tags of an element. -/
inductive Filling (α : Type) where
  | nothing
  | text (content : String)
  | reference (code : String)
  | outlines (first : α) (rest : List α)
  deriving Repr

/-- The tree that the lines of an element show. -/
inductive Outline where
  | node (tag attributes : String) (filling : Filling Outline)
  deriving Repr

/-- The filling of an element that has outlines inside, if there are any. -/
def Filling.ofOutlines {α : Type} : List α → Filling α
  | [] => .nothing
  | first :: rest => .outlines first rest

mutual

/-- The outline of a layer. An empty list and an empty text are nothing between the tags. -/
def Outline.ofLayer (s : Scope) : Layer → Outline
  | .node head (.layers items) =>
    .node head.type (attributesCode (Attribute.ofProps s head.props))
      (.ofOutlines (Outline.ofLayers s items))
  | .node head (.text content) =>
    .node head.type (attributesCode (Attribute.ofProps s head.props))
      (if content.isEmpty then .nothing else .text content)
  | .node head (.bound variableId) =>
    .node head.type (attributesCode (Attribute.ofProps s head.props))
      (.reference (s.reference variableId).code)

/-- The outlines of a list of layers. -/
def Outline.ofLayers (s : Scope) : List Layer → List Outline
  | [] => []
  | l :: rest => Outline.ofLayer s l :: Outline.ofLayers s rest

end

namespace Outline

/-! ## Lines -/

mutual

/-- The lines of an outline that stands at a depth. -/
def lines (depth : Nat) : Outline → List Line
  | .node tag attributes .nothing => [⟨depth, .whole tag attributes⟩]
  | .node tag attributes (.text content) =>
    [⟨depth, .opening tag attributes⟩, ⟨depth + 1, .text content⟩, ⟨depth, .closing tag⟩]
  | .node tag attributes (.reference code) =>
    [⟨depth, .opening tag attributes⟩, ⟨depth + 1, .reference code⟩, ⟨depth, .closing tag⟩]
  | .node tag attributes (.outlines first rest) =>
    ⟨depth, .opening tag attributes⟩ :: (lines (depth + 1) first ++ itemLines (depth + 1) rest) ++
      [⟨depth, .closing tag⟩]

/-- The lines of a list of outlines that stand at a depth. -/
def itemLines (depth : Nat) : List Outline → List Line
  | [] => []
  | o :: rest => lines depth o ++ itemLines depth rest

end

/-! ## Reading lines -/

/-- An element that is open, with what was read of it. -/
structure Frame where
  tag : String
  attributes : String
  filling : Filling Outline

/-- What was read: the elements that are open, innermost first, and those that are complete and
stand in no other. -/
structure Reading where
  frames : List Frame
  complete : List Outline

namespace Reading

/-- Put a complete element to its place. -/
def place (o : Outline) : Reading → Option Reading
  | ⟨[], complete⟩ => some ⟨[], complete ++ [o]⟩
  | ⟨⟨tag, attributes, .nothing⟩ :: frames, complete⟩ =>
    some ⟨⟨tag, attributes, .outlines o []⟩ :: frames, complete⟩
  | ⟨⟨tag, attributes, .outlines first rest⟩ :: frames, complete⟩ =>
    some ⟨⟨tag, attributes, .outlines first (rest ++ [o])⟩ :: frames, complete⟩
  | _ => none

/-- Read on by one line. -/
def step (r : Reading) (line : Mark) : Option Reading :=
  match line, r with
  | .whole tag attributes, r => r.place (.node tag attributes .nothing)
  | .opening tag attributes, ⟨frames, complete⟩ =>
    some ⟨⟨tag, attributes, .nothing⟩ :: frames, complete⟩
  | .text content, ⟨⟨tag, attributes, .nothing⟩ :: frames, complete⟩ =>
    some ⟨⟨tag, attributes, .text content⟩ :: frames, complete⟩
  | .reference code, ⟨⟨tag, attributes, .nothing⟩ :: frames, complete⟩ =>
    some ⟨⟨tag, attributes, .reference code⟩ :: frames, complete⟩
  | .closing tag, ⟨⟨opened, attributes, filling⟩ :: frames, complete⟩ =>
    if opened = tag then place (.node tag attributes filling) ⟨frames, complete⟩ else none
  | _, _ => none

end Reading

/-- Read a list of outlines from the texts of its lines. -/
def readAll? (texts : List String) : Option (List Outline) := do
  let marks ← texts.mapM Line.read?
  let r ← marks.foldlM Reading.step ⟨[], []⟩
  if r.frames.isEmpty then some r.complete else none

/-- Read an outline from the texts of its lines. -/
def read? (texts : List String) : Option Outline :=
  match readAll? texts with
  | some [o] => some o
  | _ => none

/-! ## Lines and depths -/

/-- Induction over lists of outlines. -/
@[elab_as_elim]
theorem induction {P : List Outline → Prop} (nil : P [])
    (nothing : ∀ tag attributes others, P others → P (.node tag attributes .nothing :: others))
    (text : ∀ tag attributes content others, P others →
      P (.node tag attributes (.text content) :: others))
    (reference : ∀ tag attributes code others, P others →
      P (.node tag attributes (.reference code) :: others))
    (outlines : ∀ tag attributes first rest others, P (first :: rest) → P others →
      P (.node tag attributes (.outlines first rest) :: others))
    (os : List Outline) : P os := by
  refine itemLines.induct (fun _ o => ∀ others, P others → P (o :: others)) (fun _ os => P os)
    ?_ ?_ ?_ ?_ (fun _ => nil) ?_ 0 os
  · exact fun _ tag attributes others hothers => nothing tag attributes others hothers
  · exact fun _ tag attributes content others hothers => text tag attributes content others hothers
  · exact fun _ tag attributes code others hothers => reference tag attributes code others hothers
  · intro _ tag attributes first rest hfirst hrest others hothers
    exact outlines tag attributes first rest others (hfirst rest hrest) hothers
  · exact fun _ o rest ho hrest => ho rest hrest

theorem itemLines_cons (depth : Nat) (o : Outline) (rest : List Outline) :
    itemLines depth (o :: rest) = lines depth o ++ itemLines depth rest := rfl

theorem itemLines_nothing (depth : Nat) (tag attributes : String) (others : List Outline) :
    itemLines depth (.node tag attributes .nothing :: others) =
      ⟨depth, .whole tag attributes⟩ :: itemLines depth others := rfl

theorem itemLines_text (depth : Nat) (tag attributes content : String) (others : List Outline) :
    itemLines depth (.node tag attributes (.text content) :: others) =
      ⟨depth, .opening tag attributes⟩ :: ⟨depth + 1, .text content⟩ :: ⟨depth, .closing tag⟩ ::
        itemLines depth others := rfl

theorem itemLines_reference (depth : Nat) (tag attributes code : String) (others : List Outline) :
    itemLines depth (.node tag attributes (.reference code) :: others) =
      ⟨depth, .opening tag attributes⟩ :: ⟨depth + 1, .reference code⟩ :: ⟨depth, .closing tag⟩ ::
        itemLines depth others := rfl

theorem itemLines_outlines (depth : Nat) (tag attributes : String) (first : Outline)
    (rest others : List Outline) :
    itemLines depth (.node tag attributes (.outlines first rest) :: others) =
      ⟨depth, .opening tag attributes⟩ ::
        (itemLines (depth + 1) (first :: rest) ++ ⟨depth, .closing tag⟩ ::
          itemLines depth others) := by
  rw [itemLines, lines, itemLines]
  simp

theorem le_depth_of_mem_itemLines {os : List Outline} {depth : Nat} {line : Line}
    (h : line ∈ itemLines depth os) : depth ≤ line.depth := by
  induction os using Outline.induction generalizing depth with
  | nil => simp [itemLines] at h
  | nothing tag attributes others hothers =>
    rw [itemLines_nothing, List.mem_cons] at h
    rcases h with rfl | h
    · exact Nat.le_refl _
    · exact hothers h
  | text tag attributes content others hothers
  | reference tag attributes content others hothers =>
    simp only [itemLines_text, itemLines_reference, List.mem_cons] at h
    rcases h with rfl | rfl | rfl | h
    · exact Nat.le_refl _
    · exact Nat.le_succ _
    · exact Nat.le_refl _
    · exact hothers h
  | outlines tag attributes first rest others hitems hothers =>
    rw [itemLines_outlines, List.mem_cons, List.mem_append, List.mem_cons] at h
    rcases h with rfl | h | rfl | h
    · exact Nat.le_refl _
    · exact Nat.le_of_succ_le (hitems h)
    · exact Nat.le_refl _
    · exact hothers h

end Outline

/-- A line that stands `n` levels deeper. -/
def Line.deeper (n : Nat) (line : Line) : Line := ⟨n + line.depth, line.mark⟩

theorem Line.text_deeper (n : Nat) (line : Line) :
    (line.deeper n).text = String.ofList (List.replicate (2 * n) ' ') ++ line.text := by
  have hblanks : indentation (line.deeper n).depth =
      String.ofList (List.replicate (2 * n) ' ') ++ indentation line.depth := by
    simp only [indentation, deeper, Int.toNat_natCast]
    rw [Nat.mul_add, List.replicate_add, String.ofList_append]
  rw [text, text, hblanks, String.append_assoc]
  rfl

namespace Outline

theorem itemLines_add (n depth : Nat) (os : List Outline) :
    itemLines (n + depth) os = (itemLines depth os).map (Line.deeper n) := by
  induction os using Outline.induction generalizing depth with
  | nil => rfl
  | nothing tag attributes others hothers => simp [itemLines_nothing, Line.deeper, hothers]
  | text tag attributes content others hothers
  | reference tag attributes content others hothers =>
    simp [itemLines_text, itemLines_reference, Line.deeper, hothers, Nat.add_assoc]
  | outlines tag attributes first rest others hitems hothers =>
    simp [itemLines_outlines, Line.deeper, hothers, Nat.add_assoc, hitems]

/-! ## Opening and closing lines -/

/-- Every opening line is followed by the closing line of its tag at the same depth, with deeper
lines only between the two. -/
def Matched : List Line → Prop
  | [] => True
  | line :: back =>
    (∀ tag attributes, line.mark = .opening tag attributes →
      ∃ inside after, back = inside ++ ⟨line.depth, .closing tag⟩ :: after ∧
        ∀ between ∈ inside, line.depth < between.depth) ∧ Matched back

theorem Matched.cons {line : Line} {back : List Line}
    (hline : ∀ tag attributes, line.mark ≠ .opening tag attributes) (hback : Matched back) :
    Matched (line :: back) :=
  ⟨fun tag attributes h => absurd h (hline tag attributes), hback⟩

theorem Matched.append {front back : List Line} (hfront : Matched front) (hback : Matched back) :
    Matched (front ++ back) := by
  induction front with
  | nil => exact hback
  | cons line rest ih =>
    refine ⟨fun tag attributes hopening => ?_, ih hfront.2⟩
    obtain ⟨inside, after, rfl, hdeeper⟩ := hfront.1 tag attributes hopening
    exact ⟨inside, after ++ back, by simp, hdeeper⟩

theorem Matched.of_append {front back : List Line} (h : Matched (front ++ back)) :
    Matched back := by
  induction front with
  | nil => exact h
  | cons line rest ih => exact ih h.2

/-- Deeper lines between an opening line and its closing line. -/
theorem Matched.wrapped {depth : Nat} {tag attributes : String} {inside back : List Line}
    (hinside : Matched inside) (hdeeper : ∀ line ∈ inside, depth < line.depth)
    (hback : Matched back) :
    Matched (⟨depth, .opening tag attributes⟩ :: (inside ++ ⟨depth, .closing tag⟩ :: back)) := by
  refine ⟨fun opened _ hopening => ?_, hinside.append (.cons (by simp) hback)⟩
  cases hopening
  exact ⟨inside, back, rfl, hdeeper⟩

theorem matched_itemLines (depth : Nat) (os : List Outline) : Matched (itemLines depth os) := by
  induction os using Outline.induction generalizing depth with
  | nil => exact True.intro
  | nothing tag attributes others hothers => exact .cons (by simp) (hothers depth)
  | text tag attributes content others hothers =>
    have hone : Matched [⟨depth + 1, .text content⟩] := .cons (by simp) True.intro
    exact hone.wrapped (by simp) (hothers depth)
  | reference tag attributes code others hothers =>
    have hone : Matched [⟨depth + 1, .reference code⟩] := .cons (by simp) True.intro
    exact hone.wrapped (by simp) (hothers depth)
  | outlines tag attributes first rest others hitems hothers =>
    rw [itemLines_outlines]
    exact (hitems (depth + 1)).wrapped (fun _ h => le_depth_of_mem_itemLines h) (hothers depth)

/-! ## What the reader makes of lines -/

namespace Reading

theorem foldlM_place_complete (os complete : List Outline) :
    os.foldlM (fun r o => place o r) ⟨[], complete⟩ = some ⟨[], complete ++ os⟩ := by
  induction os generalizing complete with
  | nil => rw [List.append_nil]; rfl
  | cons o rest ih =>
    rw [List.foldlM_cons, place, Option.bind_eq_bind, Option.bind_some, ih, List.append_assoc]
    rfl

theorem foldlM_place_outlines {tag attributes : String} {first : Outline} {frames : List Frame}
    {complete : List Outline} (before os : List Outline) :
    os.foldlM (fun r o => place o r)
        ⟨⟨tag, attributes, .outlines first before⟩ :: frames, complete⟩ =
      some ⟨⟨tag, attributes, .outlines first (before ++ os)⟩ :: frames, complete⟩ := by
  induction os generalizing before with
  | nil => rw [List.append_nil]; rfl
  | cons o rest ih =>
    rw [List.foldlM_cons, place, Option.bind_eq_bind, Option.bind_some, ih, List.append_assoc]
    rfl

end Reading

/-- The lines of outlines are read as these outlines, put to their place one after the other. -/
theorem foldlM_itemLines (depth : Nat) (os : List Outline) (r : Reading) :
    ((itemLines depth os).map Line.mark).foldlM Reading.step r =
      os.foldlM (fun r o => Reading.place o r) r := by
  induction os using Outline.induction generalizing depth r with
  | nil => rfl
  | nothing tag attributes others hothers =>
    rw [itemLines_nothing, List.map_cons, List.foldlM_cons, List.foldlM_cons]
    simp only [hothers]
    rfl
  | text tag attributes content others hothers
  | reference tag attributes content others hothers =>
    simp only [itemLines_text, itemLines_reference, List.map_cons, List.foldlM_cons]
    simp [Reading.step, hothers]
  | outlines tag attributes first rest others hitems hothers =>
    obtain ⟨frames, complete⟩ := r
    have hinside : (first :: rest).foldlM (fun r o => Reading.place o r)
        ⟨⟨tag, attributes, .nothing⟩ :: frames, complete⟩ =
          some ⟨⟨tag, attributes, .outlines first rest⟩ :: frames, complete⟩ :=
      Reading.foldlM_place_outlines [] rest
    rw [itemLines_outlines, List.map_cons, List.map_append, List.map_cons, List.foldlM_cons,
      Reading.step, Option.bind_eq_bind, Option.bind_some, List.foldlM_append, hitems, hinside,
      Option.bind_eq_bind, Option.bind_some, List.foldlM_cons, Reading.step, if_pos rfl,
      List.foldlM_cons]
    simp only [hothers]

/-- Outlines are read back from their lines. -/
theorem readAll?_itemLines {depth : Nat} {os : List Outline}
    (h : ∀ line ∈ itemLines depth os, line.mark.IsReadable) :
    readAll? ((itemLines depth os).map Line.text) = some os := by
  rw [readAll?, Line.mapM_read?_text h, Option.bind_eq_bind, Option.bind_some, foldlM_itemLines,
    Reading.foldlM_place_complete]
  rfl

/-! ## Outlines of layers -/

/-- The code of a reference is no text in quotes. -/
theorem head?_code_reference (s : Scope) (variableId : String) :
    (s.reference variableId).code.toList.head? ≠ some '"' := by
  unfold Scope.reference
  split
  · decide
  · next v hv =>
    rw [Expr.code, Scope.groupOf]
    split <;> simp [Group.word]

theorem ofLayers_cons (s : Scope) (l : Layer) (rest : Forest) :
    ofLayers s (l :: rest) = ofLayer s l :: ofLayers s rest := rfl

theorem ofLayer_layers (s : Scope) (head : Head) (items : Forest) :
    ofLayer s (.node head (.layers items)) =
      .node head.type (attributesCode (Attribute.ofProps s head.props))
        (.ofOutlines (ofLayers s items)) := rfl

theorem itemLines_ofOutlines (depth : Nat) (tag attributes : String) (os others : List Outline) :
    itemLines depth (.node tag attributes (.ofOutlines os) :: others) =
      (if os.isEmpty then [⟨depth, .whole tag attributes⟩]
        else ⟨depth, .opening tag attributes⟩ ::
          (itemLines (depth + 1) os ++ [⟨depth, .closing tag⟩])) ++ itemLines depth others := by
  cases os with
  | nil => rfl
  | cons first rest =>
    rw [Filling.ofOutlines, itemLines_outlines]
    simp

/-- The lines of layers whose types are tags can be read back. -/
theorem readable_itemLines_ofLayers {s : Scope} {f : Forest}
    (htags : ∀ l ∈ Forest.preorder f, IsTag l.type) (depth : Nat) :
    ∀ line ∈ itemLines depth (ofLayers s f), line.mark.IsReadable := by
  induction f using Forest.induction generalizing depth with
  | nil => exact fun _ hline => nomatch hline
  | leaf head slot rest hslot hrest =>
    rw [Forest.preorder_cons, Layer.preorder_leaf head hslot, List.singleton_append,
      List.forall_mem_cons] at htags
    have htag : IsTag head.type := htags.1
    have hattributes := isAttributes_attributesCode (Attribute.ofProps s head.props)
    rw [ofLayers_cons, itemLines_cons, List.forall_mem_append]
    refine ⟨?_, hrest htags.2 depth⟩
    cases slot with
    | layers items => cases hslot
    | text content =>
      rw [ofLayer]
      split
      · simpa [lines] using ⟨htag, hattributes⟩
      · simpa [lines, Mark.IsReadable] using ⟨⟨htag, hattributes⟩, htag⟩
    | bound variableId =>
      have hcode := head?_code_reference s variableId
      rw [ofLayer]
      simpa [lines, Mark.IsReadable] using ⟨⟨htag, hattributes⟩, hcode, htag⟩
  | layers head items rest hitems hrest =>
    rw [Forest.preorder_cons, Layer.preorder_layers, List.cons_append, List.forall_mem_cons,
      List.forall_mem_append] at htags
    have htag : IsTag head.type := htags.1
    have hattributes := isAttributes_attributesCode (Attribute.ofProps s head.props)
    rw [ofLayers_cons, ofLayer_layers, itemLines_ofOutlines, List.forall_mem_append]
    refine ⟨?_, hrest htags.2.2 depth⟩
    split
    · simpa using ⟨htag, hattributes⟩
    · rw [List.forall_mem_cons, List.forall_mem_append, List.forall_mem_singleton]
      exact ⟨⟨htag, hattributes⟩, hitems htags.2.1 (depth + 1), htag⟩

theorem text_eq (depth : Nat) (mark : Mark) :
    (Line.mk depth mark).text = indentation depth ++ mark.code := rfl

theorem indentation_succ (depth : Nat) :
    indentation (depth + 1) = indentation depth ++ indentUnit := by
  have htoNat : ((depth : Int) + 1).toNat = depth + 1 := by omega
  rw [indentation, indentation, htoNat, Int.toNat_natCast, Nat.mul_add, List.replicate_add,
    String.ofList_append]
  rfl

/-- The lines of layers are those of their outlines. -/
theorem itemLines_eq_text (s : Scope) (f : Forest) (depth : Nat) :
    Element.itemLines depth (Element.ofLayers s f) =
      (itemLines depth (ofLayers s f)).map Line.text := by
  induction f using Forest.induction generalizing depth with
  | nil => rfl
  | leaf head slot rest hslot hrest =>
    rw [Element.ofLayers, Element.itemLines, hrest, ofLayers_cons, itemLines_cons, List.map_append]
    congr 1
    cases slot with
    | layers items => cases hslot
    | text content =>
      rw [Element.ofLayer, ofLayer]
      cases content.isEmpty with
      | true => simp [Element.lines, lines, text_eq, Mark.code, String.append_assoc]
      | false =>
        simp [Element.lines, lines, text_eq, indentation_succ, Mark.code, Expr.braced, Expr.code,
          String.append_assoc]
    | bound variableId =>
      rw [Element.ofLayer, ofLayer]
      simp [Element.lines, lines, text_eq, indentation_succ, Mark.code, Expr.braced,
        String.append_assoc]
  | layers head items rest hitems hrest =>
    have hempty : (Element.ofLayers s items).isEmpty = (ofLayers s items).isEmpty := by
      cases items <;> rfl
    have hdeeper := hitems (depth + 1)
    push_cast at hdeeper
    rw [Element.ofLayers, Element.itemLines, hrest, ofLayers_cons, ofLayer_layers,
      itemLines_ofOutlines, List.map_append, Element.ofLayer_layers, hempty]
    congr 1
    split
    · simp [Element.lines, text_eq, Mark.code, String.append_assoc]
    · simp [Element.lines, text_eq, Mark.code, String.append_assoc, hdeeper]

theorem lines_ofLayer (s : Scope) (l : Layer) (n : Nat) :
    (Element.ofLayer s l).lines n = (itemLines n (ofLayers s [l])).map Line.text := by
  rw [← itemLines_eq_text, Element.ofLayers, Element.itemLines, Element.ofLayers,
    Element.itemLines, List.append_nil]

/-- The lines of a layer that can be written are those of its outline. -/
theorem eq_of_layerLines? {s : Scope} {l : Layer} {n : Nat} {lines : List String}
    (h : layerLines? s n l = some lines) :
    lines = (itemLines n (ofLayers s [l])).map Line.text := by
  unfold layerLines? at h
  split at h
  · rw [← lines_ofLayer]
    exact (Option.some.inj h).symm
  · cases h

theorem map_text_itemLines_add (n depth : Nat) (os : List Outline) :
    (itemLines (n + depth) os).map Line.text = ((itemLines depth os).map Line.text).map
      (String.ofList (List.replicate (2 * n) ' ') ++ ·) := by
  rw [itemLines_add, List.map_map, List.map_map]
  exact List.map_congr_left fun line _ => line.text_deeper n

end Outline

/-- Every line that opens an element is followed by a line that closes an element of the same tag
and has as many blanks in front. The lines between the two have more of them. -/
def IsNested (texts : List String) : Prop :=
  ∀ front opened back tag attributes, texts = front ++ opened :: back →
    Line.read? opened = some (.opening tag attributes) →
    let blanks := String.ofList (List.replicate (Line.leading opened) ' ')
    opened = blanks ++ "<" ++ tag ++ attributes ++ ">" ∧
    ∃ inside after, back = inside ++ (blanks ++ "</" ++ tag ++ ">") :: after ∧
      ∀ between ∈ inside, Line.leading opened < Line.leading between

theorem isNested_of_matched {lines : List Line} (h : Outline.Matched lines)
    (hreadable : ∀ line ∈ lines, line.mark.IsReadable) : IsNested (lines.map Line.text) := by
  intro front opened back tag attributes htexts hopened
  obtain ⟨before, rest, rfl, -, hrest⟩ := List.map_eq_append_iff.mp htexts
  obtain ⟨line, below, rfl, rfl, rfl⟩ := List.map_eq_cons_iff.mp hrest
  rw [Line.read?_text (hreadable line (by simp)), Option.some.injEq] at hopened
  obtain ⟨inside, after, rfl, hdeeper⟩ := (Outline.Matched.of_append h).1 tag attributes hopened
  have hblanks : String.ofList (List.replicate (Line.leading line.text) ' ') =
      indentation line.depth := by
    rw [Line.leading_text, indentation, Int.toNat_natCast]
  simp only [hblanks]
  refine ⟨?_, inside.map Line.text, after.map Line.text, ?_, ?_⟩
  · rw [Line.text, hopened]
    simp [Mark.code, String.append_assoc]
  · rw [List.map_append, List.map_cons, Outline.text_eq]
    simp [Mark.code, String.append_assoc]
  · intro between hbetween
    obtain ⟨inner, hinner, rfl⟩ := List.mem_map.mp hbetween
    have := hdeeper inner hinner
    rw [Line.leading_text, Line.leading_text]
    omega

/-- The lines of a layer whose types are tags at every depth show its outline, if it can be written.
A level of indentation puts two blanks in front of every line, opening and closing lines match, and
the outline is read back; so layers of different outlines have different lines. The body of a page
gives back the outlines of its layers. -/
theorem outline_of_lines :
    (∀ (s : Scope) (l : Layer), (∀ m ∈ l.preorder, IsTag m.type) → ∀ n : Nat,
      layerLines? s n l =
        (layerLines? s 0 l).map (·.map (String.ofList (List.replicate (2 * n) ' ') ++ ·)) ∧
      ∀ lines, layerLines? s n l = some lines →
        IsNested lines ∧ Outline.read? lines = some (Outline.ofLayer s l)) ∧
    (∀ (s s' : Scope) (l l' : Layer) (n n' : Nat) (lines : List String),
      (∀ m ∈ l.preorder, IsTag m.type) → (∀ m ∈ l'.preorder, IsTag m.type) →
      layerLines? s n l = some lines → layerLines? s' n' l' = some lines →
      Outline.ofLayer s l = Outline.ofLayer s' l') ∧
    ∀ (c : Compiler) (page : Layer), (∀ m ∈ Forest.preorder page.children, IsTag m.type) →
      Outline.readAll? (c.moduleOf page).bodyLines =
        some (Outline.ofLayers c.scope page.children) := by
  have hread : ∀ (s : Scope) (l : Layer), (∀ m ∈ l.preorder, IsTag m.type) →
      ∀ (n : Nat) (lines : List String), layerLines? s n l = some lines →
        Outline.read? lines = some (Outline.ofLayer s l) := by
    intro s l htags n lines hlines
    rw [Outline.eq_of_layerLines? hlines, Outline.read?, Outline.readAll?_itemLines
      (Outline.readable_itemLines_ofLayers (by simpa using htags) n), Outline.ofLayers,
      Outline.ofLayers]
  refine ⟨fun s l htags n => ⟨?_, fun lines hlines => ⟨?_, hread s l htags n lines hlines⟩⟩, ?_, ?_⟩
  · have hzero := Outline.lines_ofLayer s l 0
    rw [Nat.cast_zero] at hzero
    unfold layerLines?
    split
    · rw [Option.map_some, hzero, Outline.lines_ofLayer, ← Outline.map_text_itemLines_add,
        Nat.add_zero]
    · rfl
  · rw [Outline.eq_of_layerLines? hlines]
    exact isNested_of_matched (Outline.matched_itemLines n _)
      (Outline.readable_itemLines_ofLayers (by simpa using htags) n)
  · intro s s' l l' n n' lines htags htags' hlines hlines'
    have h := hread s l htags n lines hlines
    rw [hread s' l' htags' n' lines hlines'] at h
    exact (Option.some.inj h).symm
  · intro c page htags
    have hbody : (c.moduleOf page).bodyLines =
        (Outline.itemLines 3 (Outline.ofLayers c.scope page.children)).map Line.text := by
      have hone := Outline.itemLines_eq_text c.scope page.children 1
      rw [Nat.cast_one] at hone
      rw [Module.bodyLines, Compiler.moduleOf, hone, Outline.map_text_itemLines_add 2 1]
      rfl
    rw [hbody, Outline.readAll?_itemLines (Outline.readable_itemLines_ofLayers htags 3)]

/-- A card whose title looks like the end of a tag, with a text and an empty box inside. An empty
text in place of the empty list makes no difference. -/
theorem outline_of_titled_card :
    let s := Scope.ofVariables []
    let card (inner : Slot Layer) : Layer :=
      .node ⟨.component, "a", "Card.Header", none, [("title", .plain (.str "a /> b"))], []⟩
        (.layers [.node ⟨.component, "b", "p", none, [], []⟩ (.text "</p>"),
          .node ⟨.component, "c", "$box", none, [], []⟩ inner])
    (∀ m ∈ (card (.layers [])).preorder, IsTag m.type) ∧
    (∃ lines, layerLines? s 1 (card (.layers [])) = some lines ∧ IsNested lines ∧
      Outline.read? lines = some (.node "Card.Header" " title=\"a /> b\""
        (.outlines (.node "p" "" (.text "</p>")) [.node "$box" "" .nothing]))) ∧
    Outline.ofLayer s (card (.layers [])) = Outline.ofLayer s (card (.text "")) ∧
    ∃ outlines,
      Outline.readAll? ((Compiler.mk [] [] [] []).moduleOf (card (.layers []))).bodyLines =
      some outlines ∧ outlines.length = 2 := by
  intro s card
  have htags : ∀ l : Layer, l.preorder.map Layer.type = ["Card.Header", "p", "$box"] →
      ∀ m ∈ l.preorder, IsTag m.type := by
    intro l htypes m hm
    have hmem : m.type ∈ ["Card.Header", "p", "$box"] := htypes ▸ List.mem_map_of_mem hm
    simp only [List.mem_cons, List.not_mem_nil, or_false] at hmem
    rcases hmem with h | h | h <;> rw [h] <;> exact isTag_of_name (by decide) (by simp)
  obtain ⟨hlayer, hsame, hpage⟩ := outline_of_lines
  obtain ⟨-, hlines⟩ := hlayer s (card (.layers [])) (htags _ rfl) 1
  have hwritten : layerLines? s 1 (card (.layers [])) =
    some ((Element.ofLayer s (card (.layers []))).lines 1) := rfl
  obtain ⟨hnested, hread⟩ := hlines _ hwritten
  refine ⟨htags _ rfl, ⟨_, hwritten, hnested, hread⟩, ?_, _,
    hpage ⟨[], [], [], []⟩ (card (.layers [])) ?_, rfl⟩
  · exact hsame s s (card (.layers [])) (card (.text "")) 1 1 _ (htags _ rfl) (htags _ rfl) hwritten
      rfl
  · exact fun m hm => htags _ rfl m (by rw [Layer.preorder_eq]; exact List.mem_cons_of_mem _ hm)

end LayerDoc.Tsx
