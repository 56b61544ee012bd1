import LayerDoc.Text.Arguments
import LayerDoc.Text.Emoji
import LayerDoc.Text.Style

/-!
# Markup

Text for a terminal may hold tags in brackets, which set a style and are not shown, and names of
emoji. An opening tag is closed by its name, in any form of the style that it names, or by an empty
closing tag. A backslash before a tag makes it text. A tag that begins with an at sign gives an
action, which must be in order when it is closed.
-/

namespace LayerDoc.Text

/-- A piece of a text with markup: text that is shown, or a tag and what stands after its equals
sign. -/
inductive Piece where
  | text (cs : List Char)
  | tag (name : List Char) (value : Option (List Char))
  deriving DecidableEq, Repr

namespace Piece

/-- The characters that a tag can begin with. -/
def startsTag (c : Char) : Bool := ('a' ≤ c && c ≤ 'z') || c = '#' || c = '/' || c = '@'

/-- The content of a tag after its bracket, and what follows the tag. -/
def tagContent? : List Char → Option (List Char × List Char)
  | c :: rest =>
    let content := rest.takeWhile fun d => d ≠ ']' && d ≠ '['
    match rest.drop content.length with
    | ']' :: after => if startsTag c then some (c :: content, after) else none
    | _ => none
  | [] => none

/-- A tag from its content. -/
def ofContent (cs : List Char) : Piece :=
  .tag (cs.takeWhile (· ≠ '=')) (cs.dropWhile (· ≠ '=')).tail?

/-- A piece of text, if there is any. -/
def ofText (cs : List Char) : List Piece := if cs.isEmpty then [] else [.text cs]

/-- The pieces of a text, after characters that are shown, the last first. Of the backslashes before
a tag half are shown, and an odd one makes the tag text. -/
def split : Nat → List Char → List Char → List Piece
  | 0, held, _ => ofText held.reverse
  | _, held, [] => ofText held.reverse
  | fuel + 1, held, c :: rest =>
    let slashes := (c :: rest).takeWhile (· = '\\')
    match (c :: rest).drop slashes.length with
    | '[' :: after =>
      match tagContent? after with
      | some (content, following) =>
        let tagPiece :=
          if slashes.length % 2 = 1 then .text ('[' :: content ++ [']']) else ofContent content
        ofText held.reverse ++ ofText (List.replicate (slashes.length / 2) '\\') ++
          tagPiece :: split fuel [] following
      | none => split fuel (c :: held) rest
    | _ => split fuel (c :: held) rest

/-- The pieces of a text. -/
def ofChars (cs : List Char) : List Piece := split (cs.length + 1) [] cs

end Piece

/-- A text without the backslashes before its brackets. -/
def withoutEscapes : List Char → List Char
  | '\\' :: '[' :: rest => '[' :: withoutEscapes rest
  | c :: rest => c :: withoutEscapes rest
  | [] => []

/-- A tag that is open: the usual form of its name, and what stood after its equals sign. -/
structure OpenTag where
  name : List Char
  value : Option (List Char)
  deriving DecidableEq, Repr

namespace OpenTag

/-- Whether a tag can be closed: an action must be in order. -/
def canClose (t : OpenTag) : Bool :=
  match t.name, t.value with
  | '@' :: _, some action => action.isEmpty || Arguments.isAction (trim action)
  | _, _ => true

/-- The tags that are open after a tag, the last opened first; a closing tag must have something to
close. -/
def after? (tags : List OpenTag) (name : List Char) (value : Option (List Char)) :
    Option (List OpenTag) :=
  match name with
  | '/' :: closing =>
    if (trim closing).isEmpty then
      match tags with
      | t :: rest => if t.canClose then some rest else none
      | [] => none
    else do
      let name ← Style.usual? (trim closing)
      let t ← tags.find? (·.name = name)
      if t.canClose then return tags.eraseP (·.name = name) else none
  | _ => (Style.usual? name).map fun name => ⟨name, value⟩ :: tags

end OpenTag

/-- The text that is shown for pieces, given the tags that are open. -/
def shownPieces? : List Piece → List OpenTag → Option (List Char)
  | [], _ => some []
  | .text cs :: rest, tags => (shownPieces? rest tags).map (Emoji.shown (withoutEscapes cs) ++ ·)
  | .tag name value :: rest, tags => do shownPieces? rest (← OpenTag.after? tags name value)

/-- The text that is shown, without some control characters. There is none if a tag is not in
order. -/
def shown? (cs : List Char) : Option (List Char) :=
  (shownPieces? (Piece.ofChars cs) []).map fun shown =>
    shown.filter fun c => !([7, 8, 11, 12, 13].contains c.toNat)

end LayerDoc.Text
