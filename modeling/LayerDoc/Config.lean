import LayerDoc.Fault
import LayerDoc.Json.Reader
import LayerDoc.Layer.Basic
import LayerDoc.Text.Character

/-!
# Settings of an editor

How deep the history is, what new pages look like, what a copy is called, and which props of a
page are left out of generated code. Every setting has a default.
-/

namespace LayerDoc

/-- The settings of an editor. -/
structure Config where
  historyLimit : Nat
  pageType : String
  defaultPageProps : Entries Value
  copySuffix : String
  themeKeys : List String
  deriving Repr

namespace Config

/-- The props of a page that keep to the editor. -/
def defaultThemeKeys : List String := ["mode", "colorTheme", "borderRadius"]

/-- The settings if nothing is set. -/
def default : Config where
  historyLimit := 100
  pageType := LayerDoc.pageType
  defaultPageProps :=
    [("className", .str "h-screen p-4 flex flex-col gap-2 bg-background overflow-y-scroll")]
  copySuffix := " (Copy)"
  themeKeys := defaultThemeKeys

/-- A numeral without the zeros in front, among which underscores do not count. A zero that stands
alone or before a point is kept; nothing but digits and underscores may come before that. -/
def withoutZeros? : List Char → Option (List Char)
  | '0' :: rest =>
    let zeros := rest.takeWhile fun c => c = '0' || c = '_'
    match rest.drop zeros.length with
    | [] => some [(zeros.getLast?).getD '0']
    | '.' :: after => some ((zeros.getLast?).getD '0' :: '.' :: after)
    | c :: after => if c.isDigit then some (c :: after) else none
  | cs => if (cs.head?.map Char.isDigit).getD false then some cs else none

/-- A numeral without a fraction, which must be made of zeros. -/
def withoutFraction? (cs : List Char) : Option (List Char) :=
  match cs.dropWhile (· ≠ '.') with
  | [] => some cs
  | _ :: zeros =>
    if !zeros.isEmpty && zeros.all (· = '0') then some (cs.takeWhile (· ≠ '.')) else none

/-- The digits of a numeral, which may have single underscores between them. -/
def digitsOf? (cs : List Char) : Option (List Char) :=
  let parts := cs.splitOn '_'
  if parts.all fun part => !part.isEmpty && part.all Char.isDigit then some parts.flatten else none

/-- The most characters that the numeral of a whole number may have. -/
def longestNumeral : Nat := 4300

/-- A positive whole number, or zero, written in decimal digits: white space around it, a plus sign,
zeros in front, single underscores between digits and a fraction of zeros are let pass. -/
def wholeNumber? (s : String) : Option Nat := do
  let cs := Text.stripped Text.isWhiteSpace s.toList
  if longestNumeral < cs.length then none
  let unsigned := match cs with
    | '+' :: rest => rest
    | rest => rest
  let digits ← digitsOf? (← withoutFraction? (← withoutZeros? unsigned))
  return Json.digitsValue digits

/-- A whole number: also a truth value, text, or a floating point number without a fraction that
is less than `2 ^ 63` from zero. Of texts only those count that are not negative. -/
def int? : Value → Option Int
  | .int n => some n
  | .bool b => some (if b then 1 else 0)
  | .float d => d.toInt?.filter (·.natAbs < Nat.pow 2 63)
  | v => v.text?.bind fun s => (wholeNumber? s).map fun n => (n : Int)

/-- A whole number that is at least one. -/
def limit? (v : Value) : Option Nat := (int? v).bind fun n => if 1 ≤ n then some n.toNat else none

/-- Read settings. -/
def read (v : Value) : Except Fault Config :=
  match v.entries? with
  | none => .error (.fields [])
  | some es =>
    let limit? := ((Entries.get? es "history_limit").map limit?).getD (some default.historyLimit)
    let type? := ((Entries.get? es "page_type").map Value.text?).getD (some default.pageType)
    let props? :=
      ((Entries.get? es "default_page_props").map Value.textEntries?).getD
        (some default.defaultPageProps)
    let suffix? := ((Entries.get? es "copy_suffix").map Value.text?).getD (some default.copySuffix)
    let keys? :=
      ((Entries.get? es "theme_prop_keys").map Value.texts?).getD (some default.themeKeys)
    match limit?, type?, props?, suffix?, keys? with
    | some limit, some type, some props, some suffix, some keys =>
      .ok ⟨limit, type, props, suffix, keys⟩
    | _, _, _, _, _ =>
      .error (Fault.ofFields [("history_limit", limit?.isSome), ("page_type", type?.isSome),
        ("default_page_props", props?.isSome), ("copy_suffix", suffix?.isSome),
        ("theme_prop_keys", keys?.isSome)])

/-- Settings as data. -/
def toValue (c : Config) : Value :=
  .object [("history_limit", .int c.historyLimit), ("page_type", .str c.pageType),
    ("default_page_props", .object c.defaultPageProps), ("copy_suffix", .str c.copySuffix),
    ("theme_prop_keys", .list (c.themeKeys.map .str))]

end Config

end LayerDoc
