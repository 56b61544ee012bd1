import LayerDoc.Proofs.Json.Strings
import LayerDoc.Tsx.Element

/-!
# Lines of elements

A line of an element opens it or closes it, is all of it, or is what stands between its tags
(`Mark`). A line is read by its first characters and its last ones, whatever the attributes have in
them: these begin with a blank and end with a quote or a brace, if there are any, so that the two
ways to end a tag are told apart (`Line.read?_text`). The blanks in front of a line say how deep it
stands (`Line.leading_text`).
-/

namespace LayerDoc.Tsx

/-- What a line of an element is. -/
inductive Mark where
  | opening (tag attributes : String)
  /-- An element with nothing between its tags. -/
  | whole (tag attributes : String)
  | closing (tag : String)
  | text (content : String)
  | reference (code : String)
  deriving DecidableEq, Repr

/-- A line, by how deep it stands. -/
structure Line where
  depth : Nat
  mark : Mark
  deriving DecidableEq, Repr

/-- A character of a tag is neither a blank nor one of the two that end a tag. Letters, digits and
the signs in names are such characters. -/
def isTagChar (c : Char) : Bool := c ≠ ' ' && c ≠ '>' && c ≠ '/'

/-- A name that can stand as a tag. -/
def IsTag (name : String) : Prop := name ≠ "" ∧ ∀ c ∈ name.toList, isTagChar c = true

instance (name : String) : Decidable (IsTag name) := inferInstanceAs (Decidable (_ ∧ _))

/-- The attributes of an element: none, or some that begin with a blank and end with a quote or a
brace. -/
def IsAttributes (s : String) : Prop :=
  s = "" ∨ ∃ inner last, s.toList = ' ' :: (inner ++ [last]) ∧ (last = '"' ∨ last = '}')

namespace Mark

/-- The text of a line without the blanks in front of it. -/
def code : Mark → String
  | .opening tag attributes => "<" ++ tag ++ attributes ++ ">"
  | .whole tag attributes => "<" ++ tag ++ attributes ++ " />"
  | .closing tag => "</" ++ tag ++ ">"
  | .text content => Text.braced (Json.string content)
  | .reference code => Text.braced code

/-- Whether a line of this kind can be read back. -/
def IsReadable : Mark → Prop
  | .opening tag attributes | .whole tag attributes => IsTag tag ∧ IsAttributes attributes
  | .closing tag => IsTag tag
  | .text _ => True
  | .reference code => code.toList.head? ≠ some '"'

/-- Read what follows an opening angle bracket: a tag, attributes, and one of the two ends. -/
def readOpened (cs : List Char) : Option Mark :=
  let tag := String.ofList (cs.takeWhile isTagChar)
  match (cs.dropWhile isTagChar).reverse with
  | '>' :: '/' :: ' ' :: attributes => some (.whole tag (String.ofList attributes.reverse))
  | '>' :: attributes => some (.opening tag (String.ofList attributes.reverse))
  | _ => none

/-- Read the text of a line without the blanks in front of it. -/
def read? : List Char → Option Mark
  | '<' :: '/' :: rest =>
    match rest.reverse with
    | '>' :: tag => some (.closing (String.ofList tag.reverse))
    | _ => none
  | '<' :: rest => readOpened rest
  | '{' :: '"' :: rest =>
    match Json.readString rest with
    | some (content, ['}']) => some (.text content)
    | _ => none
  | '{' :: rest =>
    match rest.reverse with
    | '}' :: code => some (.reference (String.ofList code.reverse))
    | _ => none
  | _ => none

end Mark

namespace Line

/-- The text of a line. -/
def text (line : Line) : String := indentation line.depth ++ line.mark.code

/-- The number of blanks in front of a text. -/
def leading (text : String) : Nat := (text.toList.takeWhile (· = ' ')).length

/-- Read what a line is. -/
def read? (text : String) : Option Mark := Mark.read? (text.toList.dropWhile (· = ' '))

end Line

/-! ## Reading -/

theorem takeWhile_tag {tag : String} (htag : IsTag tag) {rest : List Char}
    (hrest : ∀ c, rest.head? = some c → isTagChar c = false) :
    (tag.toList ++ rest).takeWhile isTagChar = tag.toList ∧
      (tag.toList ++ rest).dropWhile isTagChar = rest := by
  have hall : ∀ c ∈ tag.toList, isTagChar c = true := htag.2
  rw [List.takeWhile_append_of_pos hall, List.dropWhile_append_of_pos hall]
  cases rest with
  | nil => simp
  | cons c cs =>
    have hc := hrest c rfl
    simp [hc]

/-- Letters, digits, underscores, dollar signs and points make a tag. -/
theorem isTag_of_name {name : String} (hne : name ≠ "")
    (h : ∀ c ∈ name.toList, c.isAlphanum = true ∨ c ∈ ['_', '$', '.']) : IsTag name := by
  refine ⟨hne, fun c hc => ?_⟩
  by_contra hno
  have hmem : c ∈ [' ', '>', '/'] := by
    simp only [isTagChar, Bool.and_eq_true, decide_eq_true_eq] at hno
    simp only [List.mem_cons, List.not_mem_nil, or_false]
    tauto
  have hsign : ∀ d ∈ [' ', '>', '/'], d.isAlphanum = false ∧ d ∉ ['_', '$', '.'] := by simp
  obtain ⟨hletter, hother⟩ := hsign c hmem
  rcases h c hc with hc | hc
  · rw [hletter] at hc
    cases hc
  · exact hother hc

/-- A tag does not begin as a closing tag does. -/
theorem IsTag.ne_slash {tag : String} (htag : IsTag tag) {rest after : List Char}
    (h : tag.toList ++ rest = '/' :: after) : False := by
  obtain ⟨hne, hall⟩ := htag
  cases hchars : tag.toList with
  | nil => exact hne (String.toList_eq_nil_iff.mp hchars)
  | cons c cs =>
    rw [hchars, List.cons_append] at h
    have hc := hall c (hchars ▸ List.mem_cons_self)
    rw [(List.cons.inj h).1] at hc
    cases hc

namespace IsAttributes

variable {attributes : String} (h : IsAttributes attributes)

include h

/-- What follows a tag begins with no character of a tag. -/
theorem head?_append {c d : Char} (ending : List Char) (hc : isTagChar c = false)
    (hd : (attributes.toList ++ c :: ending).head? = some d) : isTagChar d = false := by
  rcases h with rfl | ⟨inner, last, htext, -⟩
  · cases hd
    exact hc
  · rw [htext] at hd
    cases hd
    rfl

theorem head?_reverse_ne : attributes.toList.reverse.head? ≠ some '/' := by
  rcases h with rfl | ⟨inner, last, htext, hlast⟩
  · simp
  · rw [htext, List.reverse_cons, List.reverse_append]
    rcases hlast with rfl | rfl <;> simp

end IsAttributes

namespace Mark

theorem readOpened_opening {tag attributes : String} (htag : IsTag tag)
    (hattributes : IsAttributes attributes) :
    readOpened (tag.toList ++ (attributes.toList ++ ['>'])) = some (.opening tag attributes) := by
  obtain ⟨htake, hdrop⟩ :=
    takeWhile_tag htag fun _ => hattributes.head?_append (c := '>') [] rfl
  have hne := hattributes.head?_reverse_ne
  simp only [readOpened]
  rw [htake, hdrop, List.reverse_append, List.reverse_singleton, List.singleton_append]
  split
  · next rest he =>
    rw [(List.cons.inj he).2] at hne
    exact absurd rfl hne
  · next rest he =>
    rw [← (List.cons.inj he).2, List.reverse_reverse, String.ofList_toList, String.ofList_toList]
  · next hno => exact absurd rfl (hno _)

theorem readOpened_whole {tag attributes : String} (htag : IsTag tag)
    (hattributes : IsAttributes attributes) :
    readOpened (tag.toList ++ (attributes.toList ++ [' ', '/', '>'])) =
      some (.whole tag attributes) := by
  obtain ⟨htake, hdrop⟩ :=
    takeWhile_tag htag fun _ => hattributes.head?_append (c := ' ') ['/', '>'] rfl
  simp only [readOpened]
  rw [htake, hdrop, List.reverse_append]
  simp

/-- The text of a line that can be read back is read as that line. -/
theorem read?_code {mark : Mark} (h : mark.IsReadable) : read? mark.code.toList = some mark := by
  cases mark with
  | opening tag attributes =>
    obtain ⟨htag, hattributes⟩ := h
    have htext : (opening tag attributes).code.toList =
        '<' :: (tag.toList ++ (attributes.toList ++ ['>'])) := by simp [code]
    rw [htext, read?, readOpened_opening htag hattributes]
    exact fun _ => htag.ne_slash
  | whole tag attributes =>
    obtain ⟨htag, hattributes⟩ := h
    have htext : (whole tag attributes).code.toList =
        '<' :: (tag.toList ++ (attributes.toList ++ [' ', '/', '>'])) := by simp [code]
    rw [htext, read?, readOpened_whole htag hattributes]
    exact fun _ => htag.ne_slash
  | closing tag =>
    have htext : (closing tag).code.toList = '<' :: '/' :: (tag.toList ++ ['>']) := by simp [code]
    rw [htext, read?]
    simp
  | text content =>
    have htext : (text content).code.toList =
        '{' :: '"' :: (content.toList.flatMap Json.charText ++ '"' :: ['}']) := by
      simp [code, Json.string]
    rw [htext, read?, Json.readString_written]
    rfl
  | reference c =>
    have htext : (reference c).code.toList = '{' :: (c.toList ++ ['}']) := by simp [code]
    rw [htext, read?]
    · simp
    · intro rest he
      refine h ?_
      cases hchars : c.toList with
      | nil =>
        rw [hchars] at he
        cases he
      | cons first others =>
        rw [hchars, List.cons_append] at he
        rw [List.head?_cons, (List.cons.inj he).1]

end Mark

namespace Line

/-- The blanks in front of a line are those of its indentation. -/
theorem split_text (line : Line) :
    line.text.toList.takeWhile (· = ' ') = List.replicate (2 * line.depth) ' ' ∧
      line.text.toList.dropWhile (· = ' ') = line.mark.code.toList := by
  have htext : line.text.toList = List.replicate (2 * line.depth) ' ' ++ line.mark.code.toList := by
    simp [text, indentation]
  have hblank : ∀ c ∈ List.replicate (2 * line.depth) ' ', (decide (c = ' ')) = true := by simp
  obtain ⟨c, cs, hcode, hc⟩ : ∃ c cs, line.mark.code.toList = c :: cs ∧ c ≠ ' ' := by
    cases line.mark with
    | opening tag attributes | whole tag attributes | closing tag =>
      exact ⟨'<', _, by rw [Mark.code]; simp; rfl, by decide⟩
    | text content | reference code =>
      exact ⟨'{', _, by rw [Mark.code]; simp; rfl, by decide⟩
  rw [htext, List.takeWhile_append_of_pos hblank, List.dropWhile_append_of_pos hblank, hcode]
  simp [hc]

theorem leading_text (line : Line) : leading line.text = 2 * line.depth := by
  rw [leading, line.split_text.1, List.length_replicate]

theorem read?_text {line : Line} (h : line.mark.IsReadable) : read? line.text = some line.mark := by
  rw [read?, line.split_text.2, Mark.read?_code h]

theorem mapM_read?_text {lines : List Line} (h : ∀ line ∈ lines, line.mark.IsReadable) :
    (lines.map text).mapM read? = some (lines.map mark) := by
  induction lines with
  | nil => rfl
  | cons line rest ih =>
    rw [List.forall_mem_cons] at h
    rw [List.map_cons, List.mapM_cons, read?_text h.1, ih h.2]
    rfl

end Line

/-! ## Attributes -/

/-- The value of an attribute ends with a quote or a brace. -/
theorem Expr.attributeValue_end (e : Expr) :
    ∃ front last, e.attributeValue.toList = front ++ [last] ∧ (last = '"' ∨ last = '}') := by
  have hbraced : ∀ e : Expr, ∃ front last, e.braced.toList = front ++ [last] ∧
      (last = '"' ∨ last = '}') := by
    intro e
    exact ⟨'{' :: e.code.toList, '}', by simp [braced], Or.inr rfl⟩
  unfold attributeValue
  split
  · next s =>
    unfold textValue
    split
    · exact hbraced _
    · exact ⟨'"' :: s.toList, '"', by simp, Or.inl rfl⟩
  · next d => exact ⟨'{' :: (d.text .code).toList, '}', by simp, Or.inr rfl⟩
  · exact hbraced _

theorem isAttributes_attributesCode (attributes : List Attribute) :
    IsAttributes (attributesCode attributes) := by
  induction attributes with
  | nil => exact Or.inl rfl
  | cons a rest ih =>
    have htext : (attributesCode (a :: rest)).toList =
        ' ' :: (a.name.toList ++ '=' :: a.value.attributeValue.toList ++
          (attributesCode rest).toList) := by
      simp [attributesCode, Attribute.code]
    refine Or.inr ?_
    rcases ih with hnone | ⟨inner, last, hsome, hlast⟩
    · obtain ⟨front, last, hvalue, hlast⟩ := a.value.attributeValue_end
      refine ⟨a.name.toList ++ '=' :: front, last, ?_, hlast⟩
      rw [htext, hnone, hvalue]
      simp
    · refine ⟨a.name.toList ++ '=' :: a.value.attributeValue.toList ++ ' ' :: inner, last,
        ?_, hlast⟩
      rw [htext, hsome]
      simp

end LayerDoc.Tsx
