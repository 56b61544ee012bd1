import LayerDoc.Proofs.Yaml.Quoted

/-!
# Plain scalars between brackets

A plain scalar between brackets ends at the comma or the closing bracket after it, and it may be on
the next line (`Yaml.exists_scanPlain`). The reader has gone up to there then, since the scalar
could have gone on there.
-/

namespace LayerDoc.Yaml

/-- The characters of a plain scalar that end it nowhere. -/
def isPlainChar (ch : Char) : Bool :=
  Text.isVisible ch && !([' ', ':', '#', ',', '?', '[', ']', '{', '}'].contains ch)

/-- The characters that end a value between brackets. -/
def closers : List Char := [',', ']', '}']

/-- What may stand between a value and what ends it. -/
def IsLineGap (gap : List Char) : Prop := gap = [] ∨ ∃ n, gap = '\n' :: List.replicate n ' '

variable {c : Cursor} {cs gap more : List Char} {ch : Char}

theorem endsPlain_eq_false (h : isPlainChar ch = true) (next : Char) :
    endsPlain true ch next = false := by
  rw [isPlainChar, Bool.and_eq_true] at h
  obtain ⟨hvisible, hmark⟩ := h
  have hne := ne_of_isVisible hvisible
  simp only [Bool.not_eq_true', List.contains_eq_mem, List.mem_cons, List.not_mem_nil, or_false,
    decide_eq_false_iff_not, not_or] at hmark
  obtain ⟨hblank, hcolon, -, hmark⟩ := hmark
  simp [endsPlain, isGap, isSpaceOrEnd, isLineEnd, isBreak, hblank, hcolon, hmark,
    hne '\n' (by decide), hne '\u0085' (by decide), hne '\u2028' (by decide),
    hne '\u2029' (by decide), hne '\r' (by decide), hne '\t' (by decide), hne '\x00' (by decide)]

theorem closer_facts {ch : Char} (h : ch ∈ closers) :
    Text.isVisible ch = true ∧ ch ≠ ' ' ∧ ch ≠ '-' ∧ ch ≠ '.' := by
  simp only [closers, List.mem_cons, List.not_mem_nil, or_false] at h
  rcases h with rfl | rfl | rfl <;> decide

theorem endsPlain_of_closer {ch : Char} (h : ch ∈ closers) (next : Char) :
    endsPlain true ch next = true := by
  simp only [closers, List.mem_cons, List.not_mem_nil, or_false] at h
  rcases h with rfl | rfl | rfl <;> simp [endsPlain]

theorem plainLength_eq (hcs : ∀ ch ∈ cs, isPlainChar ch = true)
    (hend : ∀ next, endsPlain true ch next = true) :
    plainLength true (cs ++ ch :: more) = cs.length := by
  induction cs with
  | nil => rw [List.nil_append, plainLength, if_pos (hend _), List.length_nil]
  | cons first cs ih =>
    rw [List.forall_mem_cons] at hcs
    rw [List.cons_append, plainLength, endsPlain_eq_false hcs.1, if_neg Bool.false_ne_true,
      ih hcs.2, List.length_cons]

theorem Cursor.lineBreak?_of_feed (h : c.rest = '\n' :: more) :
    c.lineBreak? = some ('\n', c.forward) := by
  simp [lineBreak?, peek_of_cons h]

/-- Blanks at the start of a line are skipped. -/
theorem exists_furtherBreaks {n fuel : Nat} (hfuel : n < fuel) (hch : ch ∈ closers)
    (h : c.rest = List.replicate n ' ' ++ ch :: more) :
    ∃ c', furtherBreaks fuel c [] = ([], c', false) ∧ c'.rest = ch :: more := by
  obtain ⟨fuel, rfl⟩ : ∃ k, fuel = k + 1 := ⟨fuel - 1, by omega⟩
  induction n generalizing c fuel with
  | zero =>
    have h' : c.rest = ch :: more := h
    obtain ⟨hvisible, hblank, -⟩ := closer_facts hch
    have hpeek := Cursor.peek_of_cons h'
    have hbreak : c.lineBreak? = none := Cursor.lineBreak?_eq_none (hpeek ▸ hvisible)
    refine ⟨c, ?_, h'⟩
    rw [furtherBreaks, if_neg (hpeek ▸ hblank), hbreak]
    rfl
  | succ n ih =>
    obtain ⟨fuel, rfl⟩ : ∃ k, fuel = k + 1 := ⟨fuel - 1, by omega⟩
    rw [List.replicate_succ, List.cons_append] at h
    rw [furtherBreaks, if_pos (Cursor.peek_of_cons h)]
    exact ih (Cursor.rest_forward_of_cons h) fuel (by omega)

/-- No line that separates documents begins with blanks or with what closes a list. -/
theorem atSeparator_eq_false {n : Nat} (hch : ch ∈ closers)
    (h : c.rest = List.replicate n ' ' ++ ch :: more) : c.atSeparator = false := by
  obtain ⟨-, -, hminus, hpoint⟩ := closer_facts hch
  have hfirst : ∃ first rest, c.rest = first :: rest ∧ first ≠ '-' ∧ first ≠ '.' := by
    cases n with
    | zero => exact ⟨ch, more, h, hminus, hpoint⟩
    | succ n => exact ⟨' ', _, h, by decide, by decide⟩
  obtain ⟨first, rest, hrest, hminus, hpoint⟩ := hfirst
  simp [Cursor.atSeparator, Cursor.startsWith, hrest, hminus.symm, hpoint.symm]

/-- The gap between a plain scalar and what ends the value. -/
theorem exists_plainGap (hgap : IsLineGap gap) (hch : ch ∈ closers)
    (h : c.rest = gap ++ ch :: more) :
    ∃ part c' ended, plainGap c = (part, c', ended) ∧ c'.rest = ch :: more := by
  rcases hgap with rfl | ⟨n, rfl⟩
  · have h' : c.rest = ch :: more := h
    obtain ⟨hvisible, hblank, -⟩ := closer_facts hch
    have hbreak : c.lineBreak? = none :=
      Cursor.lineBreak?_eq_none (Cursor.peek_of_cons h' ▸ hvisible)
    refine ⟨[], c, false, ?_, h'⟩
    unfold plainGap
    rw [Cursor.run_of_neg h' (by simpa using hblank)]
    dsimp only
    rw [hbreak]
  · have h' : c.rest = '\n' :: (List.replicate n ' ' ++ ch :: more) := h
    have hnext := Cursor.rest_forward_of_cons h'
    have hfuel : n < c.forward.rest.length + 1 := by
      rw [hnext, List.length_append, List.length_replicate]
      omega
    obtain ⟨c', hbreaks, hc'⟩ := exists_furtherBreaks hfuel hch hnext
    refine ⟨[' '], c', true, ?_, hc'⟩
    unfold plainGap
    rw [Cursor.run_of_neg h' (by decide)]
    dsimp only
    rw [Cursor.lineBreak?_of_feed h']
    dsimp only
    rw [atSeparator_eq_false hch hnext, hbreaks]
    rfl

/-- Where a value ends a plain scalar does not go on. -/
theorem scanPlain_of_closer (hch : ch ∈ closers) (h : c.rest = ch :: more) (indent : Int)
    (fuel : Nat) (acc part : List Char) (keyAllowed : Bool) :
    scanPlain true indent fuel c acc part keyAllowed = (acc, c, keyAllowed) := by
  have hsize : plainLength true c.rest = 0 := by
    have hnone : plainLength true ([] ++ ch :: more) = 0 :=
      plainLength_eq (by simp) (endsPlain_of_closer hch)
    rw [h]
    exact hnone
  cases fuel with
  | zero => rfl
  | succ fuel =>
    rw [scanPlain]
    split
    · rfl
    · rw [hsize]
      rfl

/-- A plain scalar ends at what ends the value, also if a line ends in between. -/
theorem exists_scanPlain (hnil : cs ≠ []) (hcs : ∀ ch ∈ cs, isPlainChar ch = true)
    (hgap : IsLineGap gap) (hch : ch ∈ closers) (h : c.rest = cs ++ (gap ++ ch :: more))
    (indent : Int) :
    ∃ c' keyAllowed, scanPlain true indent (c.rest.length + 1) c [] [] false =
      (cs.reverse, c', keyAllowed) ∧ c'.rest = ch :: more := by
  have hsharp : c.peek ≠ '#' := by
    obtain ⟨first, rest, rfl⟩ := List.exists_cons_of_ne_nil hnil
    rw [Cursor.peek_of_cons h]
    rintro rfl
    cases hcs '#' List.mem_cons_self
  have hends : ∃ first rest, gap ++ ch :: more = first :: rest ∧
      ∀ next, endsPlain true first next = true := by
    rcases hgap with rfl | ⟨n, rfl⟩
    · exact ⟨ch, more, rfl, endsPlain_of_closer hch⟩
    · exact ⟨'\n', List.replicate n ' ' ++ ch :: more, rfl, fun _ => rfl⟩
  obtain ⟨first, rest, hrest, hend⟩ := hends
  have hsize : plainLength true c.rest = cs.length := by
    rw [h, hrest]
    exact plainLength_eq hcs hend
  have hpos : cs.length ≠ 0 := by simpa using hnil
  have htake : c.rest.take cs.length = cs := by rw [h, List.take_left]
  obtain ⟨part, c', ended, hread, hc'⟩ :=
    exists_plainGap hgap hch (Cursor.rest_forwardBy_of_append h)
  refine ⟨c', ended, ?_, hc'⟩
  rw [scanPlain, if_neg hsharp]
  dsimp only
  rw [hsize, if_neg hpos, htake, hread]
  dsimp only
  split
  · simp
  · rw [scanPlain_of_closer hch hc']
    simp

end LayerDoc.Yaml
