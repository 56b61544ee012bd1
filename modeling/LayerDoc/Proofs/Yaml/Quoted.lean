import LayerDoc.Proofs.Json.Escapes

/-!
# Quoted scalars that JSON writes

A text that is written in quotes is read as a scalar of the same characters, and the position after
it is the one after the closing quote (`Yaml.scanQuoted_written`). The reader takes the longest run
of characters at a time; that it may as well take them one by one (`quotedPart_cons`,
`quotedGap_cons`) makes the proof an induction on the text.
-/

namespace LayerDoc.Yaml

theorem ne_of_isVisible {ch : Char} (h : Text.isVisible ch = true) (other : Char)
    (hother : Text.isVisible other = false) : ch ≠ other := by
  rintro rfl
  rw [h] at hother
  cases hother

/-! ## Positions -/

namespace Cursor

variable {c : Cursor} {ch : Char} {rest : List Char}

theorem rest_forward (c : Cursor) : c.forward.rest = c.rest.tail := by
  unfold forward
  split
  · next h => simp [h]
  · next h =>
    rw [h]
    split
    · rfl
    · split <;> rfl

theorem rest_forward_of_cons (h : c.rest = ch :: rest) : c.forward.rest = rest := by
  rw [rest_forward, h, List.tail_cons]

theorem forwardBy_add (m n : Nat) (c : Cursor) :
    c.forwardBy (m + n) = (c.forwardBy m).forwardBy n := by
  induction m generalizing c with
  | zero => rw [Nat.zero_add, forwardBy]
  | succ m ih => rw [Nat.succ_add, forwardBy, forwardBy, ih]

theorem rest_forwardBy (n : Nat) (c : Cursor) : (c.forwardBy n).rest = c.rest.drop n := by
  induction n generalizing c with
  | zero => rfl
  | succ n ih => rw [forwardBy, ih, rest_forward, ← List.drop_one, List.drop_drop, Nat.add_comm]

theorem rest_forwardBy_of_append {cs : List Char} (h : c.rest = cs ++ rest) :
    (c.forwardBy cs.length).rest = rest := by
  rw [rest_forwardBy, h, List.drop_left]

/-- A visible character is passed within its line. -/
theorem place_forward (h : c.rest = ch :: rest) (hch : Text.isVisible ch = true) :
    c.forward.index = c.index + 1 ∧ c.forward.line = c.line := by
  have hne := ne_of_isVisible hch
  unfold forward
  rw [h]
  simp [hne '\n' (by decide), hne '\u0085' (by decide), hne '\u2028' (by decide),
    hne '\u2029' (by decide), hne '\r' (by decide), hne '\ufeff' (by decide)]

theorem place_forwardBy {cs : List Char} (h : c.rest = cs ++ rest)
    (hcs : ∀ ch ∈ cs, Text.isVisible ch = true) :
    (c.forwardBy cs.length).index = c.index + cs.length ∧
      (c.forwardBy cs.length).line = c.line := by
  induction cs generalizing c with
  | nil => exact ⟨rfl, rfl⟩
  | cons ch cs ih =>
    rw [List.forall_mem_cons] at hcs
    obtain ⟨hindex, hline⟩ := place_forward h hcs.1
    obtain ⟨hindex', hline'⟩ := ih (rest_forward_of_cons h) hcs.2
    rw [List.length_cons, forwardBy, hindex', hline', hindex, hline]
    exact ⟨by omega, rfl⟩

theorem peek_of_cons (h : c.rest = ch :: rest) : c.peek = ch := by
  rw [peek, h, List.headD_cons]

theorem run_of_cons {p : Char → Bool} (h : c.rest = ch :: rest) (hp : p ch = true) :
    c.run p = (ch :: (c.forward.run p).1, (c.forward.run p).2) := by
  unfold run
  rw [rest_forward_of_cons h, h, List.takeWhile_cons_of_pos hp]
  rfl

theorem run_of_neg {p : Char → Bool} (h : c.rest = ch :: rest) (hp : p ch = false) :
    c.run p = ([], c) := by
  unfold run
  rw [h, List.takeWhile_cons_of_neg (by simp [hp])]
  rfl

theorem rest_run (p : Char → Bool) (c : Cursor) : (c.run p).2.rest = c.rest.dropWhile p :=
  rest_forwardBy_of_append (List.takeWhile_append_dropWhile (p := p)).symm

theorem lineBreak?_eq_none (h : Text.isVisible c.peek = true) : c.lineBreak? = none := by
  have hne := ne_of_isVisible h
  simp [lineBreak?, hne '\n' (by decide), hne '\u0085' (by decide), hne '\u2028' (by decide),
    hne '\u2029' (by decide), hne '\r' (by decide)]

end Cursor

/-! ## Parts without blanks -/

section

variable {c : Cursor} {ch : Char} {rest acc : List Char} {fuel : Nat}

/-- The characters that a part of a quoted scalar is made of, escapes apart. -/
def isPartChar (ch : Char) : Bool := !(isGap ch || ch = '\'' || ch = '"' || ch = '\\')

theorem isPartChar_of_isVisible (h : Text.isVisible ch = true) (hblank : ch ≠ ' ')
    (happ : ch ≠ '\'') (hquote : ch ≠ '"') (hslash : ch ≠ '\\') : isPartChar ch = true := by
  have hne := ne_of_isVisible h
  simp [isPartChar, isGap, isSpaceOrEnd, isLineEnd, isBreak, hblank, happ, hquote, hslash,
    hne '\n' (by decide), hne '\u0085' (by decide), hne '\u2028' (by decide),
    hne '\u2029' (by decide), hne '\r' (by decide), hne '\t' (by decide), hne '\x00' (by decide)]

/-- A part may be read one character at a time. -/
theorem quotedPart_cons (h : c.rest = ch :: rest) (hch : isPartChar ch = true) :
    quotedPart true (fuel + 1) c acc = quotedPart true (fuel + 1) c.forward (ch :: acc) := by
  have hrun := Cursor.run_of_cons (p := isPartChar) h hch
  rw [quotedPart, quotedPart]
  unfold isPartChar at hrun
  rw [hrun]
  rfl

/-- A part goes on at what is no character of its own: an apostrophe stands for itself, a backslash
begins an escape, and all else ends the part. -/
theorem quotedPart_of_run (h : c.run isPartChar = ([], c)) :
    quotedPart true (fuel + 1) c acc =
      if c.peek = '\'' then quotedPart true fuel c.forward (c.peek :: acc)
      else if c.peek = '\\' then
        match letterEscape? c.forward.peek, codeEscape? c.forward.peek with
        | some e, _ => quotedPart true fuel c.forward.forward (e :: acc)
        | none, some size => do
          if (c.forward.forward.rest.take size).length < size then throw .malformed
          match hexValue? (c.forward.forward.rest.take size) with
          | none => throw .malformed
          | some code =>
            quotedPart true fuel (c.forward.forward.forwardBy size) ((← charOfCode code) :: acc)
        | none, none =>
          match c.forward.lineBreak? with
          | none => .error .malformed
          | some (_, c) => do
            let (breaks, c) ← quotedBreaks (c.rest.length + 1) c []
            quotedPart true fuel c (breaks.reverseAux acc)
      else .ok (acc, c) := by
  unfold isPartChar at h
  rw [quotedPart, h]
  simp only [Bool.not_true, Bool.false_and, Bool.true_and, Bool.or_false, Bool.false_eq_true,
    if_false, decide_eq_true_eq]
  rfl

theorem quotedPart_apostrophe (h : c.rest = '\'' :: rest) :
    quotedPart true (fuel + 1) c acc = quotedPart true fuel c.forward ('\'' :: acc) := by
  rw [quotedPart_of_run (Cursor.run_of_neg h (by decide)), Cursor.peek_of_cons h, if_pos rfl]

theorem quotedPart_letter {letter : Char} (h : c.rest = '\\' :: letter :: rest)
    (hletter : letterEscape? letter = some ch) :
    quotedPart true (fuel + 1) c acc = quotedPart true fuel (c.forwardBy 2) (ch :: acc) := by
  rw [quotedPart_of_run (Cursor.run_of_neg h (by decide))]
  simp [Cursor.peek_of_cons h, Cursor.peek_of_cons (Cursor.rest_forward_of_cons h), hletter]
  rfl

theorem quotedPart_unit {unit : Nat} (h : c.rest = Json.unitEscape unit ++ rest)
    (hunit : unit < 0x10000) :
    quotedPart true (fuel + 1) c acc =
      quotedPart true fuel (c.forwardBy (Json.unitEscape unit).length)
        (Text.Surrogate.ofCode unit :: acc) := by
  have hlength := Text.length_hex hunit
  have hmark := Cursor.rest_forward_of_cons h
  have hdigits := Cursor.rest_forward_of_cons hmark
  have htake : c.forward.forward.rest.take 4 = Text.hex 4 unit := by
    rw [hdigits]
    exact List.take_left' hlength
  have hsize : (Json.unitEscape unit).length = 6 := by
    rw [Json.unitEscape, List.length_cons, List.length_cons, hlength]
  have hend : c.forward.forward.forwardBy 4 = c.forwardBy 6 := rfl
  rw [quotedPart_of_run (Cursor.run_of_neg h (by decide)), hsize]
  simp [Cursor.peek_of_cons h, Cursor.peek_of_cons hmark, letterEscape?, codeEscape?, htake,
    hlength, hexValue?_hex, charOfCode_eq hunit, hend]
  rfl

/-- A part ends at a blank or at the closing quote. -/
theorem quotedPart_end (h : c.rest = ch :: rest) (hch : ch = ' ' ∨ ch = '"') :
    quotedPart true (fuel + 1) c acc = .ok (acc, c) := by
  have hrun : c.run isPartChar = ([], c) := by
    rcases hch with rfl | rfl
    · exact Cursor.run_of_neg h (by decide)
    · exact Cursor.run_of_neg h (by decide)
  rw [quotedPart_of_run hrun]
  rcases hch with rfl | rfl
  · simp [Cursor.peek_of_cons h]
  · simp [Cursor.peek_of_cons h]

end

/-- A part is read over one written character. -/
theorem exists_quotedPart_charAscii {c : Cursor} {ch : Char} {rest : List Char}
    (hch : Text.isSingleUnit ch = true) (hblank : ch ≠ ' ')
    (h : c.rest = Json.charAscii ch ++ rest) {fuel : Nat} (hfuel : c.rest.length < fuel)
    (acc : List Char) :
    ∃ fuel', rest.length < fuel' ∧ quotedPart true fuel c acc =
      quotedPart true fuel' (c.forwardBy (Json.charAscii ch).length) (ch :: acc) := by
  obtain ⟨fuel, rfl⟩ : ∃ k, fuel = k + 1 := ⟨fuel - 1, by omega⟩
  rw [h, List.length_append] at hfuel
  rcases Json.charAscii_cases hch with
    ⟨htext, hvisible, hquote, hslash⟩ | ⟨letter, htext, -, hletter⟩ | ⟨unit, htext, hunit, rfl⟩
  · rw [htext] at h hfuel ⊢
    rw [List.length_singleton] at hfuel
    by_cases happ : ch = '\''
    · subst happ
      exact ⟨fuel, by omega, quotedPart_apostrophe h⟩
    · exact ⟨fuel + 1, by omega,
        quotedPart_cons h (isPartChar_of_isVisible hvisible hblank happ hquote hslash)⟩
  · rw [htext] at h hfuel ⊢
    refine ⟨fuel, ?_, quotedPart_letter h hletter⟩
    simp only [List.length_cons, List.length_nil] at hfuel
    omega
  · rw [htext] at h hfuel ⊢
    refine ⟨fuel, ?_, quotedPart_unit h hunit⟩
    simp only [Json.unitEscape, List.length_cons] at hfuel
    omega

/-! ## Blanks between the parts -/

/-- What is written for characters inside quotes. -/
def writtenChars (cs : List Char) : List Char := cs.flatMap Json.charAscii

theorem isVisible_of_mem_writtenChars {cs : List Char}
    (hcs : ∀ ch ∈ cs, Text.isSingleUnit ch = true) :
    ∀ ch ∈ writtenChars cs, Text.isVisible ch = true := by
  intro ch hch
  obtain ⟨d, hd, hmem⟩ := List.mem_flatMap.mp hch
  exact Json.isVisible_of_mem_charAscii (hcs d hd) ch hmem

/-- A blank or a tab. -/
def isQuotedBlank (ch : Char) : Bool := ch = ' ' || ch = '\t'

theorem exists_dropWhile_visible {w : List Char} (hw : ∀ ch ∈ w, Text.isVisible ch = true)
    (rest : List Char) : ∃ ch more, (w ++ '"' :: rest).dropWhile isQuotedBlank = ch :: more ∧
      Text.isVisible ch = true := by
  induction w with
  | nil => exact ⟨'"', rest, rfl, rfl⟩
  | cons ch w ih =>
    rw [List.forall_mem_cons] at hw
    by_cases hch : isQuotedBlank ch = true
    · rw [List.cons_append, List.dropWhile_cons_of_pos hch]
      exact ih hw.2
    · rw [List.cons_append, List.dropWhile_cons_of_neg hch]
      exact ⟨ch, w ++ '"' :: rest, rfl, hw.1⟩

/-- Before a visible character blanks stand for themselves. -/
theorem quotedGap_eq_run {c : Cursor} {w rest : List Char} (hw : ∀ ch ∈ w, Text.isVisible ch = true)
    (h : c.rest = w ++ '"' :: rest) : quotedGap c = .ok (c.run isQuotedBlank) := by
  obtain ⟨ch, more, hdrop, hch⟩ := exists_dropWhile_visible hw rest
  have hrest : (c.run isQuotedBlank).2.rest = ch :: more := by rw [Cursor.rest_run, h, hdrop]
  have hpeek := Cursor.peek_of_cons hrest
  have hnul : (c.run isQuotedBlank).2.peek ≠ '\x00' := by
    rw [hpeek]
    exact ne_of_isVisible hch '\x00' (by decide)
  have hbreak : (c.run isQuotedBlank).2.lineBreak? = none :=
    Cursor.lineBreak?_eq_none (hpeek ▸ hch)
  unfold isQuotedBlank at hnul hbreak ⊢
  unfold quotedGap
  simp only [hnul, hbreak, if_false]

/-! ## Whole scalars -/

/-- The rest of a quoted scalar, from inside a part on. -/
def quotedFrom (fuel partFuel : Nat) (c : Cursor) (acc : List Char) :
    Except Error (List Char × Cursor) := do
  let (acc, c) ← quotedPart true partFuel c acc
  if c.peek = '"' then return (acc, c.forward)
  let (gap, c) ← quotedGap c
  quotedParts true '"' fuel c (gap.reverseAux acc)

theorem quotedParts_eq (fuel : Nat) (c : Cursor) (acc : List Char) :
    quotedParts true '"' (fuel + 1) c acc = quotedFrom fuel (c.rest.length + 1) c acc := by
  rw [quotedParts]
  rfl

/-- The rest of a quoted scalar, from among blanks on. -/
def quotedAfterBlanks (fuel : Nat) (c : Cursor) (acc : List Char) :
    Except Error (List Char × Cursor) :=
  quotedParts true '"' fuel (c.run isQuotedBlank).2 ((c.run isQuotedBlank).1.reverseAux acc)

section

variable {c : Cursor} {rest acc : List Char} {fuel partFuel : Nat}

theorem quotedFrom_of_end (h : c.rest = '"' :: rest) (hfuel : 0 < partFuel) :
    quotedFrom fuel partFuel c acc = .ok (acc, c.forward) := by
  obtain ⟨partFuel, rfl⟩ : ∃ k, partFuel = k + 1 := ⟨partFuel - 1, by omega⟩
  rw [quotedFrom, quotedPart_end h (Or.inr rfl)]
  simp [bind, Except.bind, Cursor.peek_of_cons h]
  rfl

theorem quotedFrom_of_blank {w : List Char} (hw : ∀ ch ∈ w, Text.isVisible ch = true)
    (h : c.rest = ' ' :: (w ++ '"' :: rest)) (hfuel : 0 < partFuel) :
    quotedFrom fuel partFuel c acc = quotedAfterBlanks fuel c acc := by
  obtain ⟨partFuel, rfl⟩ : ∃ k, partFuel = k + 1 := ⟨partFuel - 1, by omega⟩
  have hgap := quotedGap_eq_run (w := ' ' :: w) (List.forall_mem_cons.mpr ⟨rfl, hw⟩) h
  rw [quotedFrom, quotedPart_end h (Or.inl rfl)]
  simp [bind, Except.bind, Cursor.peek_of_cons h, hgap, quotedAfterBlanks]

theorem quotedAfterBlanks_of_blank (h : c.rest = ' ' :: rest) :
    quotedAfterBlanks fuel c acc = quotedAfterBlanks fuel c.forward (' ' :: acc) := by
  rw [quotedAfterBlanks, Cursor.run_of_cons h rfl]
  rfl

theorem quotedAfterBlanks_of_part {ch : Char} (h : c.rest = ch :: rest)
    (hch : isQuotedBlank ch = false) :
    quotedAfterBlanks (fuel + 1) c acc = quotedFrom fuel (c.rest.length + 1) c acc := by
  rw [quotedAfterBlanks, Cursor.run_of_neg h hch, quotedParts_eq]
  rfl

theorem exists_charAscii_cons {ch : Char} (hch : Text.isSingleUnit ch = true) (hblank : ch ≠ ' ') :
    ∃ first more, Json.charAscii ch = first :: more ∧ isQuotedBlank first = false := by
  rcases Json.charAscii_cases hch with ⟨htext, hvisible, -⟩ | ⟨letter, htext, -⟩ | ⟨unit, htext, -⟩
  · have htab := ne_of_isVisible hvisible '\t' (by decide)
    exact ⟨ch, [], htext, by simp [isQuotedBlank, hblank, htab]⟩
  · exact ⟨'\\', [letter], htext, rfl⟩
  · exact ⟨'\\', 'u' :: Text.hex 4 unit, htext, rfl⟩

end

/-- Characters are read up to the closing quote behind what is written for them, from inside a part
and from among blanks. -/
structure ReadsWritten (cs : List Char) (c : Cursor) (acc : List Char) : Prop where
  fromPart : ∀ fuel partFuel, c.rest.length ≤ fuel → c.rest.length < partFuel →
    quotedFrom fuel partFuel c acc =
      .ok (cs.reverseAux acc, c.forwardBy ((writtenChars cs).length + 1))
  afterBlanks : ∀ fuel, c.rest.length < fuel →
    quotedAfterBlanks fuel c acc =
      .ok (cs.reverseAux acc, c.forwardBy ((writtenChars cs).length + 1))

namespace ReadsWritten

variable {cs acc rest : List Char} {c : Cursor} {ch : Char}

theorem nil (h : c.rest = '"' :: rest) (acc : List Char) : ReadsWritten [] c acc := by
  have hpart : ∀ fuel partFuel, c.rest.length < partFuel →
      quotedFrom fuel partFuel c acc = .ok (acc, c.forward) :=
    fun fuel partFuel hfuel => quotedFrom_of_end h (by omega)
  refine ⟨fun fuel partFuel _ hfuel => hpart fuel partFuel hfuel, fun fuel hfuel => ?_⟩
  obtain ⟨fuel, rfl⟩ : ∃ k, fuel = k + 1 := ⟨fuel - 1, by omega⟩
  rw [quotedAfterBlanks_of_part h rfl]
  exact hpart fuel _ (by omega)

theorem blank (hcs : ∀ ch ∈ cs, Text.isSingleUnit ch = true)
    (h : c.rest = ' ' :: (writtenChars cs ++ '"' :: rest))
    (hread : ReadsWritten cs c.forward (' ' :: acc)) : ReadsWritten (' ' :: cs) c acc := by
  have hlength : c.rest.length = c.forward.rest.length + 1 := by
    rw [Cursor.rest_forward_of_cons h, h, List.length_cons]
  have hback : ∀ fuel, c.rest.length ≤ fuel → quotedAfterBlanks fuel c acc =
      .ok ((' ' :: cs).reverseAux acc, c.forwardBy ((writtenChars (' ' :: cs)).length + 1)) := by
    intro fuel hfuel
    rw [quotedAfterBlanks_of_blank h]
    exact hread.afterBlanks fuel (by omega)
  refine ⟨fun fuel partFuel hfuel hpart => ?_, fun fuel hfuel => hback fuel hfuel.le⟩
  rw [quotedFrom_of_blank (isVisible_of_mem_writtenChars hcs) h (by omega)]
  exact hback fuel hfuel

theorem char (hch : Text.isSingleUnit ch = true) (hblank : ch ≠ ' ')
    (h : c.rest = Json.charAscii ch ++ rest)
    (hread : ReadsWritten cs (c.forwardBy (Json.charAscii ch).length) (ch :: acc)) :
    ReadsWritten (ch :: cs) c acc := by
  have hrest := Cursor.rest_forwardBy_of_append h
  have hlength : c.rest.length = (Json.charAscii ch).length + rest.length := by
    rw [h, List.length_append]
  have hsize : (writtenChars (ch :: cs)).length + 1 =
      (Json.charAscii ch).length + ((writtenChars cs).length + 1) := by
    rw [writtenChars, List.flatMap_cons, List.length_append, ← writtenChars, Nat.add_assoc]
  have hfront : ∀ fuel partFuel, c.rest.length ≤ fuel → c.rest.length < partFuel →
      quotedFrom fuel partFuel c acc = .ok ((ch :: cs).reverseAux acc,
        c.forwardBy ((writtenChars (ch :: cs)).length + 1)) := by
    intro fuel partFuel hfuel hpart
    obtain ⟨partFuel', hpart', hstep⟩ := exists_quotedPart_charAscii hch hblank h hpart acc
    rw [quotedFrom, hstep, ← quotedFrom, hsize, Cursor.forwardBy_add]
    exact hread.fromPart fuel partFuel' (by rw [hrest]; omega) (by rw [hrest]; exact hpart')
  refine ⟨hfront, fun fuel hfuel => ?_⟩
  obtain ⟨fuel, rfl⟩ : ∃ k, fuel = k + 1 := ⟨fuel - 1, by omega⟩
  obtain ⟨first, more, htext, hfirst⟩ := exists_charAscii_cons hch hblank
  have hcons : c.rest = first :: (more ++ rest) := by rw [h, htext, List.cons_append]
  rw [quotedAfterBlanks_of_part hcons hfirst]
  exact hfront fuel _ (by omega) (by omega)

end ReadsWritten

/-- Written characters are read wherever they stand before a closing quote. -/
theorem readsWritten {cs : List Char} (hcs : ∀ ch ∈ cs, Text.isSingleUnit ch = true)
    {c : Cursor} {rest : List Char} (h : c.rest = writtenChars cs ++ '"' :: rest)
    (acc : List Char) : ReadsWritten cs c acc := by
  induction cs generalizing c acc with
  | nil => exact .nil h acc
  | cons ch cs ih =>
    rw [List.forall_mem_cons] at hcs
    by_cases hblank : ch = ' '
    · subst hblank
      exact .blank hcs.2 h (ih hcs.2 (Cursor.rest_forward_of_cons h) _)
    · have h' : c.rest = Json.charAscii ch ++ (writtenChars cs ++ '"' :: rest) := by
        rw [h, writtenChars, List.flatMap_cons, List.append_assoc]
        rfl
      exact .char hcs.1 hblank h' (ih hcs.2 (Cursor.rest_forwardBy_of_append h') _)

/-- What is written for a text. -/
def writtenText (cs : List Char) : List Char := '"' :: (writtenChars cs ++ ['"'])

theorem toList_stringAscii (s : String) : (Json.stringAscii s).toList = writtenText s.toList := by
  rw [Json.stringAscii, String.toList_ofList]
  rfl

/-- A written text is read as a scalar of the same characters. -/
theorem scanQuoted_written {cs : List Char} (hcs : ∀ ch ∈ cs, Text.isSingleUnit ch = true)
    {c : Cursor} {rest : List Char} (h : c.rest = writtenText cs ++ rest) :
    scanQuoted c = .ok (cs, c.forwardBy (writtenText cs).length) := by
  have h' : c.rest = '"' :: (writtenChars cs ++ '"' :: rest) := by
    rw [h, writtenText, List.cons_append, List.append_assoc]
    rfl
  have hafter := Cursor.rest_forward_of_cons h'
  have hparts := (readsWritten hcs hafter []).fromPart c.rest.length (c.forward.rest.length + 1)
    (by rw [hafter, h', List.length_cons]; omega) (by omega)
  have hsize : (writtenText cs).length = (writtenChars cs).length + 1 + 1 := by
    rw [writtenText, List.length_cons, List.length_append, List.length_singleton]
  have hall := quotedParts_eq c.rest.length c.forward []
  rw [hparts] at hall
  unfold scanQuoted
  dsimp only
  rw [Cursor.peek_of_cons h', decide_eq_true rfl, hall, hsize, Cursor.forwardBy]
  simp [Except.map]
  rfl

end LayerDoc.Yaml
