import LayerDoc.Proofs.Yaml.Plain
import Mathlib.Data.List.DropRight
import Mathlib.Data.List.TakeWhile

/-!
# Scanning between brackets

Between brackets a scan is determined by the text that is left, the tokens that were read and the
number of open brackets (`Yaml.Spot`); where the cursor stands and which keys may have begun
matters only while a key is read. A spot leads to a list of tokens if every scan that stands there
reads them (`Yaml.Spot.Leads`). For each token there is one step back: a spot before the token leads
to what the spot after it leads to.
-/

namespace LayerDoc.Yaml

/-- What is known of keys at a spot. -/
inductive KeyMark where
  | unknown
  /-- A key may begin here. -/
  | allowed
  /-- The last token may be a key, and the text goes on right after it. -/
  | begun
  deriving DecidableEq

/-- A spot in a text: the rest of it, the tokens before, and the number of open brackets. -/
structure Spot where
  rest : List Char
  tokens : List Token
  level : Nat
  mark : KeyMark

/-- Blanks and line feeds. -/
def isFiller (c : Char) : Bool := c = ' ' || c = '\n'

/-- A scan stands at a spot, or among the blanks and line feeds in front of it. -/
structure Scan.Stands (s : Scan) (p : Spot) : Prop where
  rest : s.cursor.rest.dropWhile isFiller = p.rest.dropWhile isFiller
  tokens : s.tokens.toList = p.tokens
  level : s.flowLevel = p.level
  indent : s.indent = -1
  indents : s.indents = []
  atEnd : s.atEnd = false
  optional : ∀ k ∈ s.keyPlaces, k.2.required = false
  allowed : p.mark = .allowed → s.keyAllowed = true
  begun : p.mark = .begun → s.cursor.rest = p.rest.dropWhile isFiller ∧ ∃ k places,
    s.keyPlaces = (p.level, k) :: places ∧ k.token + 1 = p.tokens.length ∧
      k.line = s.cursor.line ∧ s.cursor.index ≤ k.index + 1024

/-! ## The keys that may have begun -/

/-- A key that began on another line, or too far back. -/
def Scan.isStale (s : Scan) (k : KeyPlace) : Bool :=
  k.line ≠ s.cursor.line || 1024 < s.cursor.index - k.index

namespace Scan.Stands

variable {s : Scan} {p : Spot}

theorem dropStaleKeys_eq (h : s.Stands p) : s.dropStaleKeys =
    .ok { s with keyPlaces := s.keyPlaces.filter fun k => !s.isStale k.2 } := by
  have hany : (s.keyPlaces.any fun k => s.isStale k.2 && k.2.required) = false := by
    rw [List.any_eq_false]
    intro k hk
    rw [h.optional k hk, Bool.and_false]
    exact Bool.false_ne_true
  have hstale : s.dropStaleKeys = if s.keyPlaces.any fun k => s.isStale k.2 && k.2.required
      then .error .malformed
      else .ok { s with keyPlaces := s.keyPlaces.filter fun k => !s.isStale k.2 } := rfl
  rw [hstale, hany, if_neg Bool.false_ne_true]

/-- The keys that are given up do not matter for where a scan stands. -/
theorem filter_keyPlaces (h : s.Stands p) :
    Stands { s with keyPlaces := s.keyPlaces.filter fun k => !s.isStale k.2 } p := by
  refine { h with optional := ?_, begun := ?_ }
  · exact fun k hk => h.optional k (List.mem_of_mem_filter hk)
  · intro hmark
    obtain ⟨hrest, k, places, hplaces, htoken, hline, hindex⟩ := h.begun hmark
    have hfresh : s.isStale k = false := by
      have hnear : ¬ 1024 < s.cursor.index - k.index := by omega
      simp [isStale, hline, hnear]
    refine ⟨hrest, k, places.filter fun k => !s.isStale k.2, ?_, htoken, hline, hindex⟩
    dsimp only
    rw [hplaces, List.filter_cons_of_pos (by simp [hfresh])]

theorem exists_dropKey (h : s.Stands p) :
    ∃ places, s.dropKey = .ok { s with keyPlaces := places } ∧
      ∀ k ∈ places, k.2.required = false := by
  unfold dropKey
  split
  · next k hk =>
    obtain ⟨before, after, hplaces, -⟩ := List.lookup_eq_some_iff.mp hk
    have hrequired : k.required = false := h.optional (s.flowLevel, k) (by simp [hplaces])
    rw [hrequired]
    exact ⟨_, rfl, fun k hk => h.optional k (List.mem_of_mem_filter hk)⟩
  · exact ⟨s.keyPlaces, rfl, h.optional⟩

/-- A key is noted where one may begin. -/
theorem exists_noteKey (h : s.Stands p) :
    ∃ places, s.noteKey = .ok { s with keyPlaces := places } ∧
      (∀ k ∈ places, k.2.required = false) ∧
      (s.keyAllowed = true → ∃ k others, places = (p.level, k) :: others ∧
        k.token = p.tokens.length ∧ k.line = s.cursor.line ∧ k.index = s.cursor.index) := by
  obtain ⟨places, hdrop, hplaces⟩ := h.exists_dropKey
  unfold noteKey
  split
  · have hcolumn : ¬ s.indent = s.column := by
      rw [h.indent, column]
      omega
    have hsize : s.tokens.size = p.tokens.length := by rw [← h.tokens, Array.length_toList]
    simp only [hdrop, hcolumn, decide_false, Bool.and_false, h.level, hsize, bind, Except.bind]
    refine ⟨_, rfl, ?_, fun _ => ⟨_, places, rfl, rfl, rfl, rfl⟩⟩
    exact List.forall_mem_cons.mpr ⟨rfl, hplaces⟩
  · next hallowed => exact ⟨s.keyPlaces, rfl, h.optional, fun hall => absurd hall hallowed⟩

end Scan.Stands

/-! ## Going to the next token -/

/-- A character that a token begins with: a visible one, but no blank and no mark of a comment. -/
def startsToken (ch : Char) : Bool := Text.isVisible ch && ch ≠ ' ' && ch ≠ '#'

theorem dropWhile_isFiller_spaces (cs : List Char) :
    (cs.dropWhile (· = ' ')).dropWhile isFiller = cs.dropWhile isFiller := by
  induction cs with
  | nil => rfl
  | cons ch cs ih =>
    by_cases hch : ch = ' '
    · subst hch
      rw [List.dropWhile_cons_of_pos (by simp), List.dropWhile_cons_of_pos rfl, ih]
    · rw [List.dropWhile_cons_of_neg (by simpa using hch)]

theorem ne_of_mem_head?_dropWhile_spaces (cs : List Char) :
    ∀ ch ∈ (cs.dropWhile (· = ' ')).head?, ch ≠ ' ' := by
  intro ch hch
  have hhead := List.head?_dropWhile_not (· = ' ') cs
  rw [Option.mem_def.mp hch] at hhead
  simpa using hhead

/-- Where the line does not end behind the blanks, only they are skipped. -/
theorem dropWhile_isFiller_eq {cs : List Char} (h : (cs.dropWhile (· = ' ')).head? ≠ some '\n') :
    cs.dropWhile isFiller = cs.dropWhile (· = ' ') := by
  have hblank := ne_of_mem_head?_dropWhile_spaces cs
  rw [← dropWhile_isFiller_spaces]
  cases hfirst : cs.dropWhile (· = ' ') with
  | nil => rfl
  | cons ch more =>
    rw [hfirst] at h hblank
    have hfeed : ch ≠ '\n' := fun he => h (congrArg some he)
    rw [List.dropWhile_cons_of_neg (by simp [isFiller, hblank ch rfl, hfeed])]

theorem Cursor.skipSpaces_of_neg {c : Cursor} (h : ∀ ch ∈ c.rest.head?, ch ≠ ' ') :
    c.skipSpaces = c := by
  cases hrest : c.rest with
  | nil =>
    rw [skipSpaces, run, hrest]
    rfl
  | cons ch more =>
    have hch : ch ≠ ' ' := h ch (by rw [hrest]; rfl)
    rw [skipSpaces, run_of_neg hrest (by simpa using hch)]

namespace Scan

theorem skipToToken_succ (fuel : Nat) (s : Scan) : skipToToken (fuel + 1) s =
    match s.cursor.skipSpaces.skipComment.lineBreak? with
    | some (_, c) => skipToToken fuel { s with
        cursor := c
        keyAllowed := if s.inFlow then s.keyAllowed else true }
    | none => { s with cursor := s.cursor.skipSpaces.skipComment } := by
  rfl

/-- Skipping stops behind the blanks where a token begins or the text ends. -/
theorem skipToToken_of_startsToken {s : Scan}
    (h : ∀ ch ∈ s.cursor.skipSpaces.rest.head?, startsToken ch = true) (fuel : Nat) :
    skipToToken (fuel + 1) s = { s with cursor := s.cursor.skipSpaces } := by
  have hpeek : s.cursor.skipSpaces.peek ≠ '#' ∧ s.cursor.skipSpaces.lineBreak? = none := by
    cases hrest : s.cursor.skipSpaces.rest with
    | nil => simp [Cursor.lineBreak?, Cursor.peek, hrest]
    | cons ch more =>
      have hstart : startsToken ch = true := h ch (by rw [hrest]; rfl)
      simp only [startsToken, Bool.and_eq_true, decide_eq_true_eq] at hstart
      rw [← Cursor.peek_of_cons hrest] at hstart
      exact ⟨hstart.2, Cursor.lineBreak?_eq_none hstart.1.1⟩
  have hnone : s.cursor.skipSpaces.skipComment = s.cursor.skipSpaces := by
    rw [Cursor.skipComment, if_neg hpeek.1]
  rw [skipToToken_succ, hnone, hpeek.2]

theorem skipToToken_of_feed {s : Scan} {more : List Char}
    (h : s.cursor.skipSpaces.rest = '\n' :: more) (fuel : Nat) :
    skipToToken (fuel + 1) s = skipToToken fuel { s with
      cursor := s.cursor.skipSpaces.forward
      keyAllowed := if s.inFlow then s.keyAllowed else true } := by
  have hnone : s.cursor.skipSpaces.skipComment = s.cursor.skipSpaces := by
    rw [Cursor.skipComment, Cursor.peek_of_cons h, if_neg (by decide)]
  rw [skipToToken_succ, hnone, Cursor.lineBreak?_of_feed h]

end Scan

/-- Blanks and empty lines are skipped up to a token or the end of the text. -/
theorem exists_skipToToken {fuel : Nat} {s : Scan} (hfuel : s.cursor.rest.length < fuel)
    (hnext : ∀ ch ∈ (s.cursor.rest.dropWhile isFiller).head?, startsToken ch = true) :
    ∃ c allowed, Scan.skipToToken fuel s = { s with cursor := c, keyAllowed := allowed } ∧
      c.rest = s.cursor.rest.dropWhile isFiller ∧ (s.keyAllowed = true → allowed = true) ∧
      (s.cursor.rest.dropWhile isFiller = s.cursor.rest → c = s.cursor) := by
  induction fuel generalizing s with
  | zero => omega
  | succ fuel ih =>
    have hrest : s.cursor.skipSpaces.rest = s.cursor.rest.dropWhile (· = ' ') :=
      Cursor.rest_run _ _
    by_cases hfeed : (s.cursor.rest.dropWhile (· = ' ')).head? = some '\n'
    · -- behind the end of the line skipping goes on
      obtain ⟨more, hmore⟩ := List.head?_eq_some_iff.mp hfeed
      have hlength := List.length_dropWhile_le (· = ' ') s.cursor.rest
      have hdrop := dropWhile_isFiller_spaces s.cursor.rest
      rw [hmore] at hrest hlength hdrop
      rw [List.dropWhile_cons_of_pos rfl] at hdrop
      rw [List.length_cons] at hlength
      have hnext' := Cursor.rest_forward_of_cons hrest
      rw [Scan.skipToToken_of_feed hrest]
      obtain ⟨c, allowed, hskip, hc, hallowed, -⟩ := ih (s := { s with
        cursor := s.cursor.skipSpaces.forward
        keyAllowed := if s.inFlow then s.keyAllowed else true })
        (by rw [hnext']; omega) (by rw [hnext', hdrop]; exact hnext)
      refine ⟨c, allowed, hskip, ?_, fun hkey => hallowed ?_, fun hnone => ?_⟩
      · rw [hc, hnext', hdrop]
      · dsimp only
        rw [hkey]
        split <;> rfl
      · have hless := List.length_dropWhile_le isFiller more
        rw [hdrop, hnone] at hless
        omega
    · have hdrop := dropWhile_isFiller_eq hfeed
      refine ⟨s.cursor.skipSpaces, s.keyAllowed, Scan.skipToToken_of_startsToken ?_ fuel,
        hrest.trans hdrop.symm, id, fun hnone => Cursor.skipSpaces_of_neg ?_⟩
      · rw [hrest, ← hdrop]
        exact hnext
      · rw [← hnone, hdrop]
        exact ne_of_mem_head?_dropWhile_spaces s.cursor.rest

namespace Scan.Stands

variable {s : Scan} {p : Spot}

theorem unwind_eq_self (h : s.Stands p) (column : Int) : s.unwind column = s := by
  unfold unwind
  rw [h.indents]
  split <;> rfl

/-- What is done before the next token is read leaves a scan where it stands. -/
theorem exists_advance (h : s.Stands p)
    (hnext : ∀ ch ∈ (p.rest.dropWhile isFiller).head?, startsToken ch = true) :
    ∃ s' : Scan, s'.Stands p ∧ s'.cursor.rest = p.rest.dropWhile isFiller ∧
      s.advance = if s'.cursor.rest.isEmpty then do
        let s ← (s'.unwind (-1)).dropKey
        return { s with atEnd := true }
      else s'.takeNext := by
  obtain ⟨c, allowed, hskip, hc, hallowed, hsame⟩ := exists_skipToToken
    (Nat.lt_succ_self s.cursor.rest.length) (by rw [h.rest]; exact hnext)
  have hskipped : Stands { s with cursor := c, keyAllowed := allowed } p := by
    refine { h with rest := ?_, allowed := fun hmark => hallowed (h.allowed hmark), begun := ?_ }
    · dsimp only
      rw [hc, List.dropWhile_idempotent, h.rest]
    · intro hmark
      obtain ⟨hrest, hkey⟩ := h.begun hmark
      have hc' : c = s.cursor := hsame (by rw [hrest, List.dropWhile_idempotent])
      rw [hc']
      exact ⟨hrest, hkey⟩
  have hfresh := hskipped.filter_keyPlaces
  refine ⟨_, hfresh, hc.trans h.rest, ?_⟩
  rw [advance]
  dsimp only
  rw [hskip, hskipped.dropStaleKeys_eq]
  simp only [bind, Except.bind]
  rw [hfresh.unwind_eq_self]

end Scan.Stands

/-! ## Where a spot leads -/

namespace Scan

theorem readAll_succ (fuel n : Nat) (s : Scan) : readAll (fuel + 1) n s =
    if s.atEnd then ⟨s.tokens.toList, none⟩
    else match if n < s.tokens.size then s.dropStaleKeys.map fun s => (s, !s.mayBeKey n)
        else .ok (s, false) with
      | .error e => ⟨s.tokens.toList.take n, some e⟩
      | .ok (s, true) => readAll fuel (n + 1) s
      | .ok (s, false) =>
        match s.advance with
        | .error e => ⟨s.tokens.toList.take n, some e⟩
        | .ok s => readAll fuel n s := by
  rfl

/-- Reading goes on with the next token, whatever tokens are certain already. -/
theorem readAll_of_advance {p : Spot} {ts : List Token} (size : Nat)
    (hadv : ∀ s : Scan, s.Stands p → ∃ s', s.advance = .ok s' ∧
      ∀ fuel n, n ≤ p.tokens.length → size ≤ fuel + n → readAll fuel n s' = ⟨ts, none⟩)
    (hsize : p.tokens.length ≤ size) {fuel n : Nat} {s : Scan} (h : s.Stands p)
    (hn : n ≤ p.tokens.length) (hfuel : size < fuel + n) : readAll fuel n s = ⟨ts, none⟩ := by
  have htokens : s.tokens.size = p.tokens.length := by rw [← h.tokens, Array.length_toList]
  induction fuel generalizing n s with
  | zero => omega
  | succ fuel ih =>
    have hgo : ∀ s : Scan, s.Stands p → (match s.advance with
        | .error e => (⟨s.tokens.toList.take n, some e⟩ : Tokens)
        | .ok s => readAll fuel n s) = ⟨ts, none⟩ := by
      intro s h
      obtain ⟨s', hs', hread⟩ := hadv s h
      rw [hs']
      exact hread fuel n hn (by omega)
    rw [readAll_succ, h.atEnd, if_neg Bool.false_ne_true]
    by_cases hcertain : n < s.tokens.size
    · have hfresh := h.filter_keyPlaces
      rw [if_pos hcertain, h.dropStaleKeys_eq]
      simp only [Except.map]
      cases hkey :
        mayBeKey { s with keyPlaces := s.keyPlaces.filter fun k => !s.isStale k.2 } n with
      | true => exact hgo _ hfresh
      | false => exact ih hfresh (by omega) (by omega) htokens
    · rw [if_neg hcertain]
      exact hgo s h

end Scan

/-- A spot leads to tokens if they are what every scan reads that stands there. The bounds say that
reading is given enough steps. -/
structure Spot.Leads (p : Spot) (ts : List Token) : Prop where
  most : p.tokens.length ≤ ts.length
  least : ts.length ≤ p.tokens.length + 2 * p.rest.length
  reads : ∀ fuel n (s : Scan), s.Stands p → n ≤ p.tokens.length →
    ts.length + p.rest.length + 1 < fuel + n → Scan.readAll fuel n s = ⟨ts, none⟩

namespace Spot.Leads

variable {p q : Spot} {ts tokens : List Token} {rest : List Char} {level : Nat} {mark : KeyMark}

theorem of_advance (h : q.Leads ts)
    (hadv : ∀ s : Scan, s.Stands p → ∃ s', s.advance = .ok s' ∧ s'.Stands q)
    (hrest : q.rest.length < p.rest.length) (hless : p.tokens.length ≤ q.tokens.length)
    (hmore : q.tokens.length ≤ p.tokens.length + 2) : p.Leads ts := by
  have hmost := h.most
  have hleast := h.least
  refine ⟨by omega, by omega, fun fuel n s hs hn hfuel => ?_⟩
  refine Scan.readAll_of_advance (ts.length + p.rest.length + 1) (fun s hs => ?_) (by omega) hs hn
    hfuel
  obtain ⟨s', hs', hq⟩ := hadv s hs
  exact ⟨s', hs', fun fuel n hn hfuel => h.reads fuel n s' hq (by omega) (by omega)⟩

/-- At the end of the text outside of all brackets the tokens are complete. -/
theorem of_end : Leads ⟨[], ts, 0, mark⟩ ts := by
  refine ⟨le_rfl, by simp, fun fuel n s hs hn hfuel => ?_⟩
  refine Scan.readAll_of_advance (ts.length + 1) (fun s hs => ?_) (by simp) hs hn hfuel
  obtain ⟨s', hs', hrest, hadvance⟩ := hs.exists_advance (by simp)
  have hempty : s'.cursor.rest.isEmpty = true := by rw [hrest]; rfl
  obtain ⟨places, hdrop, -⟩ := hs'.exists_dropKey
  rw [hempty, if_pos rfl, hs'.unwind_eq_self, hdrop] at hadvance
  refine ⟨_, hadvance, fun fuel n hn hfuel => ?_⟩
  have hlast : n ≤ ts.length := hn
  obtain ⟨fuel, rfl⟩ : ∃ k, fuel = k + 1 := ⟨fuel - 1, by omega⟩
  rw [Scan.readAll_succ, if_pos rfl]
  exact congrArg (Tokens.mk · none) hs'.tokens

theorem of_unknown (h : Leads ⟨rest, tokens, level, .unknown⟩ ts) :
    Leads ⟨rest, tokens, level, mark⟩ ts := by
  refine ⟨h.most, h.least, fun fuel n s hs hn hfuel => h.reads fuel n s ?_ hn hfuel⟩
  exact { hs with allowed := by simp, begun := by simp }

/-- What may be skipped in front of a spot changes nothing. -/
theorem filled (h : Leads ⟨rest, tokens, level, mark⟩ ts) {gap : List Char}
    (hgap : ∀ ch ∈ gap, isFiller ch = true) :
    Leads ⟨gap ++ rest, tokens, level, mark⟩ ts := by
  have hdrop : (gap ++ rest).dropWhile isFiller = rest.dropWhile isFiller :=
    List.dropWhile_append_of_pos hgap
  have hleast := h.least
  dsimp only at hleast
  refine ⟨h.most, ?_, fun fuel n s hs hn hfuel => h.reads fuel n s ?_ hn ?_⟩
  · dsimp only
    rw [List.length_append]
    omega
  · exact { hs with
      rest := hs.rest.trans hdrop
      begun := fun hmark => ⟨(hs.begun hmark).1.trans hdrop, (hs.begun hmark).2⟩ }
  · dsimp only at hfuel ⊢
    rw [List.length_append] at hfuel
    omega

end Spot.Leads

/-! ## Brackets and commas -/

/-- The opening brackets and their tokens. -/
def openers : List (Char × Token) := [('[', .flowSequenceStart), ('{', .flowMappingStart)]

/-- The closing brackets and their tokens. -/
def enders : List (Char × Token) := [(']', .flowSequenceEnd), ('}', .flowMappingEnd)]

namespace Scan

variable {s : Scan} {ch : Char} {t : Token} {more : List Char}

theorem takeNext_of_opener (hch : (ch, t) ∈ openers) (h : s.cursor.rest = ch :: more) :
    s.takeNext = s.takeFlowStart t := by
  simp only [openers, List.mem_cons, Prod.mk.injEq, List.not_mem_nil, or_false] at hch
  rcases hch with ⟨rfl, rfl⟩ | ⟨rfl, rfl⟩ <;> simp [takeNext, Cursor.peek_of_cons h]

theorem takeNext_of_ender (hch : (ch, t) ∈ enders) (h : s.cursor.rest = ch :: more) :
    s.takeNext = s.takeFlowEnd t := by
  simp only [enders, List.mem_cons, Prod.mk.injEq, List.not_mem_nil, or_false] at hch
  rcases hch with ⟨rfl, rfl⟩ | ⟨rfl, rfl⟩ <;> simp [takeNext, Cursor.peek_of_cons h]

theorem takeNext_of_comma (h : s.cursor.rest = ',' :: more) : s.takeNext = s.takeFlowEntry := by
  simp [takeNext, Cursor.peek_of_cons h]

theorem takeNext_of_colon (h : s.cursor.rest = ':' :: more) (hflow : s.inFlow = true) :
    s.takeNext = s.takeValue := by
  simp [takeNext, Cursor.peek_of_cons h, hflow]

/-- Between brackets a colon makes a key of what one may have begun with. -/
theorem takeValue_of_lookup {k : KeyPlace} (hflow : s.inFlow = true)
    (hkey : s.keyPlaces.lookup s.flowLevel = some k) :
    s.takeValue = .ok (take { s with
      keyAllowed := false
      keyPlaces := s.keyPlaces.filter (·.1 ≠ s.flowLevel)
      tokens := (s.tokens.toList.take k.token ++ .key :: s.tokens.toList.drop k.token).toArray }
      1 .value) := by
  have hflow' : ∀ places tokens, inFlow { s with keyPlaces := places, tokens := tokens } = true :=
    fun _ _ => hflow
  unfold takeValue
  rw [hkey]
  simp only [insertToken, hflow', if_true]
  rfl

theorem takeNext_of_quote (h : s.cursor.rest = '"' :: more) :
    s.takeNext = s.takeNode fun c => (scanQuoted c).map fun (cs, c) => (.scalar cs false, c) := by
  simp [takeNext, Cursor.peek_of_cons h]

end Scan

namespace Spot.Leads

variable {p q : Spot} {ts tokens : List Token} {rest : List Char} {level : Nat} {mark : KeyMark}
  {ch : Char} {t : Token}

/-- The step back over a token, from what reading it does. -/
theorem of_takeNext {more : List Char} (h : q.Leads ts) (hp : p.rest = ch :: more)
    (hch : startsToken ch = true)
    (hnext : ∀ s : Scan, s.Stands p → s.cursor.rest = ch :: more →
      ∃ s', s.takeNext = .ok s' ∧ s'.Stands q)
    (hrest : q.rest.length < p.rest.length) (hless : p.tokens.length ≤ q.tokens.length)
    (hmore : q.tokens.length ≤ p.tokens.length + 2) : p.Leads ts := by
  refine h.of_advance (fun s hs => ?_) hrest hless hmore
  have hdrop : p.rest.dropWhile isFiller = ch :: more := by
    rw [hp, List.dropWhile_cons_of_neg]
    simp only [startsToken, Bool.and_eq_true, decide_eq_true_eq] at hch
    have hfeed := ne_of_isVisible hch.1.1 '\n' (by decide)
    simp [isFiller, hch.1.2, hfeed]
  obtain ⟨s', hs', hrest, hadvance⟩ := hs.exists_advance (by simpa [hdrop] using hch)
  rw [hdrop] at hrest
  rw [hrest, List.isEmpty_cons, if_neg Bool.false_ne_true] at hadvance
  obtain ⟨t, ht, hq⟩ := hnext s' hs' hrest
  exact ⟨t, hadvance.trans ht, hq⟩

theorem of_opener (hch : (ch, t) ∈ openers)
    (h : Leads ⟨rest, tokens ++ [t], level + 1, .allowed⟩ ts) :
    Leads ⟨ch :: rest, tokens, level, mark⟩ ts := by
  have hstart : startsToken ch = true := by
    have hall : ∀ b ∈ openers, startsToken b.1 = true := by decide
    exact hall _ hch
  refine h.of_takeNext rfl hstart (fun s hs hrest => ?_) (by simp) (by simp) (by simp)
  obtain ⟨places, hnote, hoptional, -⟩ := hs.exists_noteKey
  refine ⟨_, by rw [Scan.takeNext_of_opener hch hrest, Scan.takeFlowStart, hnote]; rfl, ?_⟩
  exact {
    rest := by simp [Scan.take, Cursor.forwardBy, Cursor.rest_forward, hrest]
    tokens := by simp [Scan.take, hs.tokens]
    level := congrArg (· + 1) hs.level
    indent := hs.indent
    indents := hs.indents
    atEnd := hs.atEnd
    optional := hoptional
    allowed := fun _ => rfl
    begun := by simp }

theorem of_ender (hch : (ch, t) ∈ enders) (h : Leads ⟨rest, tokens ++ [t], level, .unknown⟩ ts) :
    Leads ⟨ch :: rest, tokens, level + 1, mark⟩ ts := by
  have hstart : startsToken ch = true := by
    have hall : ∀ b ∈ enders, startsToken b.1 = true := by decide
    exact hall _ hch
  refine h.of_takeNext rfl hstart (fun s hs hrest => ?_) (by simp) (by simp) (by simp)
  obtain ⟨places, hdrop, hoptional⟩ := hs.exists_dropKey
  refine ⟨_, by rw [Scan.takeNext_of_ender hch hrest, Scan.takeFlowEnd, hdrop]; rfl, ?_⟩
  exact {
    rest := by simp [Scan.take, Cursor.forwardBy, Cursor.rest_forward, hrest]
    tokens := by simp [Scan.take, hs.tokens]
    level := congrArg (· - 1) hs.level
    indent := hs.indent
    indents := hs.indents
    atEnd := hs.atEnd
    optional := hoptional
    allowed := by simp
    begun := by simp }

theorem of_comma (h : Leads ⟨rest, tokens ++ [.flowEntry], level, .allowed⟩ ts) :
    Leads ⟨',' :: rest, tokens, level, mark⟩ ts := by
  refine h.of_takeNext rfl (by decide) (fun s hs hrest => ?_) (by simp) (by simp) (by simp)
  have hallowed : Scan.Stands { s with keyAllowed := true } ⟨',' :: rest, tokens, level, mark⟩ :=
    { hs with allowed := fun _ => rfl }
  obtain ⟨places, hdrop, hoptional⟩ := hallowed.exists_dropKey
  refine ⟨_, by rw [Scan.takeNext_of_comma hrest, Scan.takeFlowEntry, hdrop]; rfl, ?_⟩
  exact {
    rest := by simp [Scan.take, Cursor.forwardBy, Cursor.rest_forward, hrest]
    tokens := by simp [Scan.take, hs.tokens]
    level := hs.level
    indent := hs.indent
    indents := hs.indents
    atEnd := hs.atEnd
    optional := hoptional
    allowed := fun _ => rfl
    begun := by simp }

end Spot.Leads

/-! ## Scalars -/

theorem exists_writtenText_cons (cs rest : List Char) :
    ∃ more, writtenText cs ++ rest = '"' :: more := ⟨_, rfl⟩

theorem isVisible_of_mem_writtenText {cs : List Char}
    (hcs : ∀ ch ∈ cs, Text.isSingleUnit ch = true) :
    ∀ ch ∈ writtenText cs, Text.isVisible ch = true := by
  have hchars := isVisible_of_mem_writtenChars hcs
  simp only [writtenText, List.forall_mem_cons, List.forall_mem_append, List.not_mem_nil,
    false_implies, implies_true, and_true]
  exact ⟨rfl, hchars, rfl⟩

/-- A written text is read as a scalar, and a key is noted before it where one may begin. -/
theorem Scan.Stands.exists_takeNext_quoted {s : Scan} {tokens : List Token} {rest cs : List Char}
    {level : Nat} {mark : KeyMark} (hcs : ∀ ch ∈ cs, Text.isSingleUnit ch = true)
    (hs : s.Stands ⟨writtenText cs ++ rest, tokens, level, mark⟩)
    (hrest : s.cursor.rest = writtenText cs ++ rest) :
    ∃ s' : Scan, s.takeNext = .ok s' ∧
      s'.Stands ⟨rest, tokens ++ [.scalar cs false], level, .unknown⟩ ∧ s'.cursor.rest = rest ∧
      s'.cursor.line = s.cursor.line ∧ s'.cursor.index = s.cursor.index + (writtenText cs).length ∧
      (s.keyAllowed = true → ∃ k others, s'.keyPlaces = (level, k) :: others ∧
        k.token = tokens.length ∧ k.line = s.cursor.line ∧ k.index = s.cursor.index) := by
  obtain ⟨more, hmore⟩ := exists_writtenText_cons cs rest
  obtain ⟨places, hnote, hoptional, hkey⟩ := hs.exists_noteKey
  obtain ⟨hindex, hline⟩ := Cursor.place_forwardBy hrest (isVisible_of_mem_writtenText hcs)
  have hafter := Cursor.rest_forwardBy_of_append hrest
  refine ⟨push { s with
      keyPlaces := places
      keyAllowed := false
      cursor := s.cursor.forwardBy (writtenText cs).length } (.scalar cs false),
    ?_, ?_, hafter, hline, hindex, hkey⟩
  · rw [takeNext_of_quote (hrest.trans hmore), takeNode, hnote]
    simp only [bind, Except.bind, scanQuoted_written hcs hrest]
    rfl
  · exact {
      rest := congrArg (List.dropWhile isFiller) hafter
      tokens := by simp [push, hs.tokens]
      level := hs.level
      indent := hs.indent
      indents := hs.indents
      atEnd := hs.atEnd
      optional := hoptional
      allowed := by simp
      begun := by simp }

namespace Spot.Leads

variable {ts tokens : List Token} {rest cs : List Char} {level : Nat} {mark : KeyMark} {ch : Char}

theorem of_quoted (hcs : ∀ ch ∈ cs, Text.isSingleUnit ch = true)
    (h : Leads ⟨rest, tokens ++ [.scalar cs false], level, .unknown⟩ ts) :
    Leads ⟨writtenText cs ++ rest, tokens, level, mark⟩ ts := by
  obtain ⟨more, hmore⟩ := exists_writtenText_cons cs rest
  refine h.of_takeNext hmore (by decide) (fun s hs hrest => ?_) ?_ (by simp) (by simp)
  · obtain ⟨s', hs', hq, -⟩ := hs.exists_takeNext_quoted hcs (hrest.trans hmore.symm)
    exact ⟨s', hs', hq⟩
  · simp only [writtenText, List.cons_append, List.length_cons, List.length_append]
    omega

/-- A written text with a colon after it is a key, if one may begin there and if it is not too
long. -/
theorem of_key (hcs : ∀ ch ∈ cs, Text.isSingleUnit ch = true)
    (hlength : (writtenText cs).length ≤ 1024)
    (h : Leads ⟨rest, tokens ++ [.key, .scalar cs false, .value], level + 1, .unknown⟩ ts) :
    Leads ⟨writtenText cs ++ ':' :: rest, tokens, level + 1, .allowed⟩ ts := by
  obtain ⟨more, hmore⟩ := exists_writtenText_cons cs (':' :: rest)
  have hcolon : Leads ⟨':' :: rest, tokens ++ [.scalar cs false], level + 1, .begun⟩ ts := by
    refine h.of_takeNext rfl (by decide) (fun s hs hrest => ?_) (by simp) (by simp) (by simp)
    obtain ⟨-, k, places, hplaces, htoken, -⟩ := hs.begun rfl
    have hflow : s.inFlow = true := by
      rw [Scan.inFlow, hs.level]
      exact decide_eq_true (Nat.succ_ne_zero level)
    have hlookup : s.keyPlaces.lookup s.flowLevel = some k := by
      rw [hplaces, hs.level, List.lookup_cons_self]
    have hplace : k.token = tokens.length := by
      rw [List.length_append, List.length_singleton] at htoken
      omega
    refine ⟨_, by rw [Scan.takeNext_of_colon hrest hflow, Scan.takeValue_of_lookup hflow hlookup],
      ?_⟩
    exact {
      rest := by simp [Scan.take, Cursor.forwardBy, Cursor.rest_forward, hrest]
      tokens := by simp [Scan.take, hs.tokens, hplace]
      level := hs.level
      indent := hs.indent
      indents := hs.indents
      atEnd := hs.atEnd
      optional := fun k hk => hs.optional k (List.mem_of_mem_filter hk)
      allowed := by simp
      begun := by simp }
  refine hcolon.of_takeNext hmore (by decide) (fun s hs hrest => ?_) ?_ (by simp) (by simp)
  · obtain ⟨s', hs', hq, hafter, hline, hindex, hkey⟩ :=
      hs.exists_takeNext_quoted hcs (hrest.trans hmore.symm)
    obtain ⟨k, others, hplaces, htoken, hkline, hkindex⟩ := hkey (hs.allowed rfl)
    refine ⟨s', hs', { hq with
      begun := fun _ => ⟨?_, k, others, hplaces, ?_, ?_, ?_⟩
      allowed := by simp }⟩
    · rw [hafter]
      rfl
    · simp [htoken]
    · rw [hkline, hline]
    · omega
  · simp only [writtenText, List.cons_append, List.length_cons, List.length_append]
    omega

end Spot.Leads

/-- A plain scalar begins with a letter or a digit, perhaps behind a minus sign. -/
def BeginsPlain (cs : List Char) : Prop :=
  ∃ first rest, first.isAlphanum = true ∧ (cs = first :: rest ∨ cs = '-' :: first :: rest)

namespace Scan

variable {s : Scan} {cs rest : List Char}

/-- The characters by which other tokens are told. -/
def indicators : List Char := "-?:,[]\x7b\x7d#&*!|>'\"%@\x60. \t\n\r\x00\u0085\u2028\u2029".toList

theorem ne_of_isAlphanum {ch : Char} (h : ch.isAlphanum = true) (other : Char)
    (hother : other ∈ indicators) :
    ch ≠ other := by
  have hall : indicators.all (fun other => !other.isAlphanum) = true := by decide
  rintro rfl
  have hnot := List.all_eq_true.mp hall ch hother
  rw [h] at hnot
  cases hnot

theorem isGap_of_isAlphanum {ch : Char} (h : ch.isAlphanum = true) : isGap ch = false := by
  have hne := ne_of_isAlphanum h
  simp [isGap, isSpaceOrEnd, isLineEnd, isBreak, hne ' ' (by decide), hne '\t' (by decide),
    hne '\n' (by decide), hne '\r' (by decide), hne '\x00' (by decide), hne '\u0085' (by decide),
    hne '\u2028' (by decide), hne '\u2029' (by decide)]

theorem startsPlain_of_isAlphanum {ch : Char} (h : ch.isAlphanum = true) (s : Scan) (next : Char) :
    s.startsPlain ch next = true := by
  have hmark : "-?:,[]\x7b\x7d#&*!|>'\"%@\x60".toList.contains ch = false := by
    have hall : "-?:,[]\x7b\x7d#&*!|>'\"%@\x60".toList.all indicators.contains = true := by decide
    refine Bool.eq_false_iff.mpr fun hmem => ?_
    have hindicator := List.all_eq_true.mp hall ch (List.contains_iff_mem.mp hmem)
    exact ne_of_isAlphanum h ch (List.contains_iff_mem.mp hindicator) rfl
  rw [startsPlain, isGap_of_isAlphanum h, hmark]
  rfl

theorem takeNext_of_beginsPlain (hcs : BeginsPlain cs) (h : s.cursor.rest = cs ++ rest) :
    s.takeNext = s.takePlain := by
  obtain ⟨first, more, hfirst, hsplit⟩ := hcs
  have hne := ne_of_isAlphanum hfirst
  rcases hsplit with rfl | rfl
  · have hpeek := Cursor.peek_of_cons h
    simp [takeNext, hpeek, startsPlain_of_isAlphanum hfirst, hne '%' (by decide),
      hne '-' (by decide),
      hne '.' (by decide), hne '[' (by decide), hne '{' (by decide), hne ']' (by decide),
      hne '}' (by decide), hne ',' (by decide), hne '?' (by decide), hne ':' (by decide),
      hne '*' (by decide), hne '&' (by decide), hne '!' (by decide), hne '|' (by decide),
      hne '>' (by decide), hne '\'' (by decide), hne '"' (by decide)]
  · have hpeek := Cursor.peek_of_cons h
    have hsecond : s.cursor.peekAt 1 = first := by
      rw [Cursor.peekAt, h]
      rfl
    have hseparator : s.cursor.atSeparator = false := by
      have hdash : ¬ '-' = first := (hne '-' (by decide)).symm
      simp [Cursor.atSeparator, Cursor.startsWith, h, hdash]
    have hgap := isGap_of_isAlphanum hfirst
    simp [takeNext, hpeek, hsecond, hseparator, hgap, startsPlain]

end Scan

theorem BeginsPlain.exists_startsToken {cs : List Char} (h : BeginsPlain cs)
    (hcs : ∀ ch ∈ cs, isPlainChar ch = true) :
    ∃ first rest, cs = first :: rest ∧ startsToken first = true := by
  obtain ⟨letter, more, hletter, rfl | rfl⟩ := h
  · have hvisible := hcs letter List.mem_cons_self
    rw [isPlainChar, Bool.and_eq_true] at hvisible
    refine ⟨letter, more, rfl, ?_⟩
    simp [startsToken, hvisible.1, Scan.ne_of_isAlphanum hletter ' ' (by decide),
      Scan.ne_of_isAlphanum hletter '#' (by decide)]
  · exact ⟨'-', letter :: more, rfl, rfl⟩

theorem isFiller_of_isLineGap {gap : List Char} (h : IsLineGap gap) :
    ∀ ch ∈ gap, isFiller ch = true := by
  rcases h with rfl | ⟨n, rfl⟩
  · simp
  · rw [List.forall_mem_cons]
    exact ⟨rfl, fun ch hch => List.eq_of_mem_replicate hch ▸ rfl⟩

/-- A plain scalar between brackets, up to what ends the value. -/
theorem Spot.Leads.of_plain {ts tokens : List Token} {cs gap more : List Char} {ch : Char}
    {level : Nat} {mark : KeyMark} (hbegin : BeginsPlain cs)
    (hcs : ∀ ch ∈ cs, isPlainChar ch = true) (hgap : IsLineGap gap) (hch : ch ∈ closers)
    (h : Leads ⟨gap ++ ch :: more, tokens ++ [.scalar cs true], level + 1, .unknown⟩ ts) :
    Leads ⟨cs ++ (gap ++ ch :: more), tokens, level + 1, mark⟩ ts := by
  obtain ⟨first, rest, hsplit, hstart⟩ := hbegin.exists_startsToken hcs
  have hnil : cs ≠ [] := by simp [hsplit]
  have hcons : cs ++ (gap ++ ch :: more) = first :: (rest ++ (gap ++ ch :: more)) := by
    rw [hsplit, List.cons_append]
  refine h.of_takeNext hcons hstart (fun s hs hrest => ?_) ?_ (by simp) (by simp)
  · rw [← hcons] at hrest
    obtain ⟨places, hnote, hoptional, -⟩ := hs.exists_noteKey
    obtain ⟨c, allowed, hscan, hc⟩ := exists_scanPlain hnil hcs hgap hch hrest (s.indent + 1)
    have hflow : Scan.inFlow { s with keyPlaces := places } = true := by
      rw [Scan.inFlow, hs.level]
      exact decide_eq_true (Nat.succ_ne_zero level)
    refine ⟨Scan.push { s with keyPlaces := places, keyAllowed := allowed, cursor := c }
      (.scalar cs true), ?_, ?_⟩
    · rw [Scan.takeNext_of_beginsPlain hbegin hrest, Scan.takePlain, hnote]
      simp only [bind, Except.bind, hflow, hscan, List.reverse_reverse]
      rfl
    · exact {
        rest := by
          dsimp only [Scan.push]
          rw [hc, List.dropWhile_append_of_pos (isFiller_of_isLineGap hgap)]
        tokens := by simp [Scan.push, hs.tokens]
        level := hs.level
        indent := hs.indent
        indents := hs.indents
        atEnd := hs.atEnd
        optional := hoptional
        allowed := by simp
        begun := by simp }
  · rw [hsplit]
    simp only [List.cons_append, List.length_cons, List.length_append]
    omega

end LayerDoc.Yaml
