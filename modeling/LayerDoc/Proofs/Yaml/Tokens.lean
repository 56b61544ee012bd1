import LayerDoc.Proofs.Json.Portable
import LayerDoc.Proofs.Json.Strings

/-!
# Tokens of what is written as JSON

The tokens that a value is written with (`Value.tokens`), and that a reader of YAML finds them where
the value is written (`Yaml.tokensOf_indented`). The parts of a list or an object are read one after
the other: each is a part between brackets (`Yaml.Part`), and what follows it is a comma or the
closing bracket.
-/

namespace LayerDoc

open Yaml

/-! ## The tokens of a value -/

/-- Tokens of parts between two brackets, with commas between them. -/
def Yaml.blockTokens (opening closing : Token) (parts : List (List Token)) : List Token :=
  opening :: ((parts.flatMap (.flowEntry :: ·)).tail ++ [closing])

namespace Value

mutual

/-- The tokens that a value is written with. -/
def tokens : Value → List Token
  | .str s => [.scalar s.toList false]
  | .list items => blockTokens .flowSequenceStart .flowSequenceEnd (itemTokens items)
  | .object es => blockTokens .flowMappingStart .flowMappingEnd (entryTokens es)
  | v => [.scalar v.plainText.toList true]

/-- The tokens of each item. -/
def itemTokens : List Value → List (List Token)
  | [] => []
  | v :: rest => v.tokens :: itemTokens rest

/-- The tokens of each entry. -/
def entryTokens : List (String × Value) → List (List Token)
  | [] => []
  | (k, v) :: rest => ([.key, .scalar k.toList false, .value] ++ v.tokens) :: entryTokens rest

end

end Value

namespace Yaml

/-! ## Parts between brackets -/

/-- What may follow a value between brackets. -/
def Follows (rest : List Char) : Prop :=
  ∃ gap ch more, rest = gap ++ ch :: more ∧ IsLineGap gap ∧ ch ∈ closers

/-- A text is read as some tokens, wherever it stands between brackets as a value does. -/
def Part (mark : KeyMark) (text : List Char) (part : List Token) : Prop :=
  ∀ (ts tokens : List Token) (rest : List Char) (level : Nat), Follows rest →
    Spot.Leads ⟨rest, tokens ++ part, level + 1, .unknown⟩ ts →
    Spot.Leads ⟨text ++ rest, tokens, level + 1, mark⟩ ts

theorem Part.of_unknown {text : List Char} {part : List Token} (h : Part .unknown text part)
    (mark : KeyMark) : Part mark text part :=
  fun ts tokens rest level hrest hleads => (h ts tokens rest level hrest hleads).of_unknown

/-- The line break in front of a part. -/
def breakChars (depth : Nat) : List Char := '\n' :: List.replicate (2 * depth) ' '

theorem isLineGap_breakChars (depth : Nat) : IsLineGap (breakChars depth) := Or.inr ⟨_, rfl⟩

theorem toList_lineBreak (depth : Nat) : (Json.lineBreak depth).toList = breakChars depth := by
  simp [Json.lineBreak, breakChars]

/-- Parts behind a comma each. -/
def tailChars (depth : Nat) (parts : List String) : List Char :=
  parts.flatMap fun p => ',' :: (breakChars depth ++ p.toList)

theorem toList_block {opening closing : String} {depth : Nat} {part : String}
    {parts : List String} :
    (Json.block opening closing depth (part :: parts)).toList =
      opening.toList ++ (breakChars (depth + 1) ++ (part.toList ++ (tailChars (depth + 1) parts ++
        (breakChars depth ++ closing.toList)))) := by
  have hjoined : ∀ (part : String) (parts : List String),
      (String.intercalate ("," ++ Json.lineBreak (depth + 1)) (part :: parts)).toList =
        part.toList ++ tailChars (depth + 1) parts := by
    intro part parts
    induction parts generalizing part with
    | nil => simp [tailChars]
    | cons next parts ih =>
      rw [String.intercalate_cons_cons, String.toList_append, ih, String.toList_append,
        String.toList_append, toList_lineBreak]
      simp [tailChars]
  rw [Json.block, List.isEmpty_cons, if_neg Bool.false_ne_true]
  simp only [String.toList_append, hjoined, toList_lineBreak, List.append_assoc]

/-- Parts that are written are the parts that are read. -/
abbrev Parts (mark : KeyMark) (texts : List String) (parts : List (List Token)) : Prop :=
  List.Forall₂ (fun text part => Part mark text.toList part) texts parts

theorem follows_tailChars {depth : Nat} (parts : List String) {rest : List Char}
    (hrest : Follows rest) : Follows (tailChars depth parts ++ rest) := by
  cases parts with
  | nil => exact hrest
  | cons p parts => exact ⟨[], ',', _, rfl, Or.inl rfl, List.mem_cons_self⟩

/-- The parts behind the first are read one after the other. -/
theorem leads_tailChars {depth : Nat} {texts : List String} {parts : List (List Token)}
    (h : Parts .allowed texts parts) {ts tokens : List Token} {rest : List Char} {level : Nat}
    (hrest : Follows rest)
    (hleads :
      Spot.Leads ⟨rest, tokens ++ parts.flatMap (.flowEntry :: ·), level + 1, .unknown⟩ ts) :
    Spot.Leads ⟨tailChars depth texts ++ rest, tokens, level + 1, .unknown⟩ ts := by
  induction h generalizing tokens with
  | nil => simpa [tailChars] using hleads
  | @cons text part texts parts hpart htail ih =>
    have hsplit : tailChars depth (text :: texts) ++ rest =
        ',' :: (breakChars depth ++ (text.toList ++ (tailChars depth texts ++ rest))) := by
      simp [tailChars]
    rw [hsplit]
    refine Spot.Leads.of_comma
      (Spot.Leads.filled ?_ (isFiller_of_isLineGap (isLineGap_breakChars depth)))
    refine hpart ts _ _ level (follows_tailChars texts hrest) (ih ?_)
    simpa using hleads

/-- A list or an object is read from the opening to the closing bracket. -/
theorem leads_block {opening closing : Char} {first last : Token} {depth : Nat}
    (hopening : (opening, first) ∈ openers) (hclosing : (closing, last) ∈ enders)
    {texts : List String} {parts : List (List Token)} (h : Parts .allowed texts parts)
    {ts tokens : List Token} {rest : List Char} {level : Nat} {mark : KeyMark}
    (hleads : Spot.Leads ⟨rest, tokens ++ blockTokens first last parts, level, .unknown⟩ ts) :
    Spot.Leads ⟨(Json.block opening.toString closing.toString depth texts).toList ++ rest, tokens,
      level, mark⟩ ts := by
  have hcloser : closing ∈ closers := by
    have hall : ∀ b ∈ enders, b.1 ∈ closers := by decide
    exact hall _ hclosing
  cases h with
  | nil =>
    have hsplit : (Json.block opening.toString closing.toString depth []).toList ++ rest =
        opening :: closing :: rest := by
      simp [Json.block]
    rw [hsplit]
    refine Spot.Leads.of_opener hopening (Spot.Leads.of_ender hclosing ?_)
    simpa [blockTokens] using hleads
  | @cons text part texts parts hpart htail =>
    have hend : Follows (breakChars depth ++ closing :: rest) :=
      ⟨breakChars depth, closing, rest, rfl, isLineGap_breakChars depth, hcloser⟩
    have hsplit :
        (Json.block opening.toString closing.toString depth (text :: texts)).toList ++ rest =
        opening :: (breakChars (depth + 1) ++ (text.toList ++ (tailChars (depth + 1) texts ++
          (breakChars depth ++ closing :: rest)))) := by
      rw [toList_block]
      simp
    have hfiller := fun depth => isFiller_of_isLineGap (isLineGap_breakChars depth)
    rw [hsplit]
    refine Spot.Leads.of_opener hopening (Spot.Leads.filled ?_ (hfiller (depth + 1)))
    refine hpart ts _ _ level (follows_tailChars texts hend) (leads_tailChars htail hend ?_)
    refine Spot.Leads.filled (Spot.Leads.of_ender hclosing ?_) (hfiller depth)
    simpa [blockTokens] using hleads

end Yaml

/-! ## Values -/

namespace Value

theorem indented_of_isPlainScalar {v : Value} (hv : v.isPlainScalar = true) (depth : Nat) :
    Json.indented depth v = v.plainText := by
  cases v with
  | null | int | float => rfl
  | bool b => cases b <;> rfl
  | str | list | object | bytes | moment | set | mapping | cycle => cases hv

theorem tokens_of_isPlainScalar {v : Value} (hv : v.isPlainScalar = true) :
    v.tokens = [.scalar v.plainText.toList true] := by
  cases v with
  | null | bool | int | float => rfl
  | str | list | object | bytes | moment | set | mapping | cycle => cases hv

theorem part_of_isPlainScalar {v : Value} (hv : v.isPlainScalar = true)
    (hportable : v.isPortable = true) (depth : Nat) :
    Part .unknown (Json.indented depth v).toList v.tokens := by
  obtain ⟨hbegin, hchars⟩ := isPlain_plainText hv hportable
  rw [indented_of_isPlainScalar hv, tokens_of_isPlainScalar hv]
  rintro ts tokens rest level ⟨gap, ch, more, rfl, hgap, hch⟩ hleads
  exact Spot.Leads.of_plain hbegin hchars hgap hch hleads

theorem indented_list (depth : Nat) (items : List Value) : Json.indented depth (.list items) =
    Json.block '['.toString ']'.toString depth (Json.indentedItems (depth + 1) items) := by
  have hopening : '['.toString = "[" := by decide
  have hclosing : ']'.toString = "]" := by decide
  rw [Json.indented, hopening, hclosing]

theorem indented_object (depth : Nat) (es : List (String × Value)) :
    Json.indented depth (.object es) = Json.block '{'.toString '}'.toString depth
      (Json.indentedEntries (depth + 1) es) := by
  have hopening : '{'.toString = Text.openBrace := by decide
  have hclosing : '}'.toString = Text.closeBrace := by decide
  rw [Json.indented, hopening, hclosing]

mutual

/-- A portable value is read as its tokens wherever it is written between brackets. -/
theorem part_indented (v : Value) (depth : Nat) (h : v.isPortable = true) :
    Part .unknown (Json.indented depth v).toList v.tokens := by
  cases v with
  | str s =>
    intro ts tokens rest level _ hleads
    rw [Json.indented, toList_stringAscii]
    exact Spot.Leads.of_quoted (Text.isSingleUnit_of_isPortable h) hleads
  | list items =>
    intro ts tokens rest level _ hleads
    rw [indented_list]
    exact leads_block (by decide) (by decide) (parts_indentedItems h (depth + 1)) hleads
  | object es =>
    rw [isPortable, Bool.and_eq_true] at h
    intro ts tokens rest level _ hleads
    rw [indented_object]
    exact leads_block (by decide) (by decide) (parts_indentedEntries h.2 (depth + 1)) hleads
  | null | bool | int | float => exact part_of_isPlainScalar rfl h depth
  | bytes | moment | set | mapping | cycle => cases h

theorem parts_indentedItems : ∀ {items : List Value}, itemsArePortable items = true → ∀ depth,
    Parts .allowed (Json.indentedItems depth items) (itemTokens items)
  | [], _, _ => List.Forall₂.nil
  | v :: rest, h, depth => by
    rw [itemsArePortable, Bool.and_eq_true] at h
    rw [Json.indentedItems, itemTokens]
    exact List.Forall₂.cons ((part_indented v depth h.1).of_unknown .allowed)
      (parts_indentedItems h.2 depth)

theorem parts_indentedEntries : ∀ {es : List (String × Value)}, entriesArePortable es = true →
    ∀ depth, Parts .allowed (Json.indentedEntries depth es) (entryTokens es)
  | [], _, _ => List.Forall₂.nil
  | (k, v) :: rest, h, depth => by
    rw [entriesArePortable, Bool.and_eq_true, Bool.and_eq_true] at h
    obtain ⟨⟨hkey, hv⟩, hrest⟩ := h
    obtain ⟨-, hkey, hlength⟩ := Text.parts_of_isPortableKey hkey
    rw [Json.indentedEntries, entryTokens]
    refine List.Forall₂.cons ?_ (parts_indentedEntries hrest depth)
    intro ts tokens follow level hfollow hleads
    have hsplit : (Json.stringAscii k ++ ": " ++ Json.indented depth v).toList ++ follow =
        writtenText k.toList ++ ':' :: ([' '] ++ ((Json.indented depth v).toList ++ follow)) := by
      simp [toList_stringAscii]
    have hlength' : (writtenText k.toList).length ≤ 1024 := by
      rw [← toList_stringAscii, String.length_toList]
      exact hlength
    rw [hsplit]
    refine Spot.Leads.of_key (Text.isSingleUnit_of_isPortable hkey) hlength' ?_
    refine Spot.Leads.filled ?_ (by simp [isFiller])
    refine part_indented v depth hv ts _ follow level hfollow ?_
    rw [List.append_assoc]
    exact hleads

end

/-- A portable object is read as its tokens also outside of brackets. -/
theorem leads_object {es : List (String × Value)} (h : entriesArePortable es = true)
    {ts tokens : List Token} {rest : List Char} {level depth : Nat} {mark : KeyMark}
    (hleads : Spot.Leads ⟨rest, tokens ++ (Value.object es).tokens, level, .unknown⟩ ts) :
    Spot.Leads ⟨(Json.indented depth (.object es)).toList ++ rest, tokens, level, mark⟩ ts := by
  rw [indented_object]
  exact leads_block (by decide) (by decide) (parts_indentedEntries h (depth + 1)) hleads

end Value

/-! ## Whole texts -/

/-- All characters of a text are visible or line feeds. -/
def Text.IsLaidOut (s : String) : Prop := ∀ ch ∈ s.toList, isVisible ch = true ∨ ch = '\n'

namespace Text

theorem isLaidOut_of_all {s : String} (h : s.toList.all isVisible = true) : IsLaidOut s :=
  fun ch hch => Or.inl (List.all_eq_true.mp h ch hch)

theorem isLaidOut_append {s t : String} (hs : IsLaidOut s) (ht : IsLaidOut t) :
    IsLaidOut (s ++ t) := by
  intro ch hch
  rw [String.toList_append, List.mem_append] at hch
  exact hch.elim (hs ch) (ht ch)

theorem isLaidOut_lineBreak (depth : Nat) : IsLaidOut (Json.lineBreak depth) := by
  intro ch hch
  rw [toList_lineBreak] at hch
  rcases List.mem_cons.mp hch with rfl | hch
  · exact Or.inr rfl
  · rw [List.eq_of_mem_replicate hch]
    exact Or.inl rfl

theorem isLaidOut_intercalate {sep : String} {parts : List String} (hsep : IsLaidOut sep)
    (hparts : ∀ p ∈ parts, IsLaidOut p) : IsLaidOut (String.intercalate sep parts) :=
  forall_mem_intercalate hsep hparts

theorem isLaidOut_block {opening closing : String} {depth : Nat} {parts : List String}
    (hopening : IsLaidOut opening) (hclosing : IsLaidOut closing)
    (hparts : ∀ p ∈ parts, IsLaidOut p) : IsLaidOut (Json.block opening closing depth parts) := by
  have hcomma : IsLaidOut "," := isLaidOut_of_all rfl
  unfold Json.block
  split
  · exact isLaidOut_append hopening hclosing
  · exact isLaidOut_append (isLaidOut_append (isLaidOut_append
      (isLaidOut_append hopening (isLaidOut_lineBreak _))
      (isLaidOut_intercalate (isLaidOut_append hcomma (isLaidOut_lineBreak _)) hparts))
      (isLaidOut_lineBreak _)) hclosing

theorem isLaidOut_stringAscii {s : String} (h : isPortable s = true) :
    IsLaidOut (Json.stringAscii s) := by
  intro ch hch
  rw [toList_stringAscii] at hch
  exact Or.inl (isVisible_of_mem_writtenText (isSingleUnit_of_isPortable h) ch hch)

end Text

namespace Value

theorem isLaidOut_of_isPlainScalar {v : Value} (hv : v.isPlainScalar = true)
    (hportable : v.isPortable = true) (depth : Nat) : Text.IsLaidOut (Json.indented depth v) := by
  intro ch hch
  rw [indented_of_isPlainScalar hv] at hch
  have hplain := (isPlain_plainText hv hportable).2 ch hch
  rw [isPlainChar, Bool.and_eq_true] at hplain
  exact Or.inl hplain.1

mutual

theorem isLaidOut_indented (v : Value) (depth : Nat) (h : v.isPortable = true) :
    Text.IsLaidOut (Json.indented depth v) := by
  cases v with
  | str s => exact Text.isLaidOut_stringAscii h
  | list items =>
    rw [Json.indented]
    exact Text.isLaidOut_block (Text.isLaidOut_of_all rfl) (Text.isLaidOut_of_all rfl)
      (isLaidOut_indentedItems items (depth + 1) h)
  | object es =>
    rw [isPortable, Bool.and_eq_true] at h
    rw [Json.indented]
    exact Text.isLaidOut_block (Text.isLaidOut_of_all rfl) (Text.isLaidOut_of_all rfl)
      (isLaidOut_indentedEntries es (depth + 1) h.2)
  | null | bool | int | float => exact isLaidOut_of_isPlainScalar rfl h depth
  | bytes | moment | set | mapping | cycle => cases h

theorem isLaidOut_indentedItems : ∀ (items : List Value) (depth : Nat),
    itemsArePortable items = true → ∀ p ∈ Json.indentedItems depth items, Text.IsLaidOut p
  | [], _, _ => by simp [Json.indentedItems]
  | v :: rest, depth, h => by
    rw [itemsArePortable, Bool.and_eq_true] at h
    rw [Json.indentedItems, List.forall_mem_cons]
    exact ⟨isLaidOut_indented v depth h.1, isLaidOut_indentedItems rest depth h.2⟩

theorem isLaidOut_indentedEntries : ∀ (es : List (String × Value)) (depth : Nat),
    entriesArePortable es = true → ∀ p ∈ Json.indentedEntries depth es, Text.IsLaidOut p
  | [], _, _ => by simp [Json.indentedEntries]
  | (k, v) :: rest, depth, h => by
    rw [entriesArePortable, Bool.and_eq_true, Bool.and_eq_true] at h
    have hkey := (Text.parts_of_isPortableKey h.1.1).2.1
    have hcolon : Text.IsLaidOut ": " := Text.isLaidOut_of_all rfl
    rw [Json.indentedEntries, List.forall_mem_cons]
    exact ⟨Text.isLaidOut_append (Text.isLaidOut_append (Text.isLaidOut_stringAscii hkey) hcolon)
      (isLaidOut_indented v depth h.1.2), isLaidOut_indentedEntries rest depth h.2⟩

end

end Value

namespace Yaml

theorem unifyLines_eq_self {cs : List Char} (h : '\r' ∉ cs) : unifyLines cs = cs := by
  induction cs with
  | nil => rfl
  | cons ch cs ih =>
    rw [List.mem_cons, not_or] at h
    rw [unifyLines, ih h.2]
    · exact fun _ hch => absurd hch.symm h.1
    · exact fun hch => absurd hch.symm h.1

theorem isTextChar_of_isLaidOut {ch : Char} (h : Text.isVisible ch = true ∨ ch = '\n') :
    isTextChar ch = true := by
  rcases h with h | rfl
  · simp only [Text.isVisible, Bool.and_eq_true, decide_eq_true_eq] at h
    have hle : ch.toNat ≤ 0x7E := by omega
    simp [isTextChar, h.1, hle]
  · rfl

/-- A scan starts at the front of the whole text. -/
theorem stands_start (cs : List Char) : (Scan.start cs).Stands ⟨cs, [], 0, .unknown⟩ where
  rest := rfl
  tokens := rfl
  level := rfl
  indent := rfl
  indents := rfl
  atEnd := rfl
  optional := by simp [Scan.start]
  allowed := by simp
  begun := by simp

/-- A text of one or more lines that begins with a visible character is scanned as it stands. -/
theorem tokensOf_of_leads {text : String} {ch : Char} {more : List Char} {ts : List Token}
    (hchars : ∀ ch ∈ text.toList, Text.isVisible ch = true ∨ ch = '\n')
    (hfirst : text.toList = ch :: more) (hch : Text.isVisible ch = true)
    (h : Spot.Leads ⟨text.toList, [], 0, .unknown⟩ ts) : tokensOf text = ⟨ts, none⟩ := by
  have hreturn : '\r' ∉ text.toList := by
    intro hmem
    rcases hchars _ hmem with hvisible | hfeed
    · cases hvisible
    · cases hfeed
  have hall : (text.toList.any fun c => !isTextChar c) = false := by
    rw [List.any_eq_false]
    intro ch hch
    rw [isTextChar_of_isLaidOut (hchars ch hch)]
    exact Bool.false_ne_true
  have hmark : text.toList.head? ≠ some '\ufeff' := by
    rw [hfirst, List.head?_cons]
    exact fun he => ne_of_isVisible hch '\ufeff' (by decide) (Option.some.inj he)
  have hleast := h.least
  unfold tokensOf
  simp only [unifyLines_eq_self hreturn, hall, hmark, Bool.false_eq_true, if_false]
  refine h.reads _ 0 _ (stands_start _) (Nat.zero_le _) ?_
  dsimp only at hleast ⊢
  rw [List.length_nil] at hleast
  omega

/-- A reader finds the tokens of an object where it is written as a text of its own. -/
theorem tokensOf_indented {es : List (String × Value)} (h : (Value.object es).isPortable = true) :
    tokensOf (Json.indented 0 (.object es)) = ⟨(Value.object es).tokens, none⟩ := by
  have hentries := h
  rw [Value.isPortable, Bool.and_eq_true] at hentries
  have hleads : Spot.Leads ⟨(Json.indented 0 (.object es)).toList ++ [], [], 0, .unknown⟩
      (Value.object es).tokens := Value.leads_object hentries.2 Spot.Leads.of_end
  rw [List.append_nil] at hleads
  obtain ⟨more, hmore⟩ : ∃ more, (Json.indented 0 (.object es)).toList = '{' :: more := by
    rw [Json.indented, Json.block]
    split <;> exact ⟨_, by simp only [String.toList_append]; rfl⟩
  exact tokensOf_of_leads (Value.isLaidOut_indented _ 0 h) hmore (by decide) hleads

end Yaml

end LayerDoc
