import LayerDoc.Key
import LayerDoc.Proofs.Decimal.Numeral
import LayerDoc.Yaml.Scalar
import Mathlib.Tactic.IntervalCases

/-!
# Written numbers as plain scalars

What is written for a whole number or a floating point number is read back by the form of plain
scalars. A whole number of no more digits than can be read gives itself (`Yaml.ofText_toString`,
`Yaml.intValue_toString`), and so does a floating point number that is written with a point
(`Yaml.ofText_text`, `Yaml.floatValue_text`).
-/

namespace LayerDoc

open Json (digitsValue)

/-! ## Characters of numbers -/

/-- The characters that numbers are written with. -/
def numberChars : List Char := "0123456789.e+-".toList

theorem ne_of_isDigit {c : Char} (h : c.isDigit = true) (other : Char)
    (hother : other.isDigit = false) : c ≠ other := by
  rintro rfl
  rw [h] at hother
  cases hother

theorem mem_numberChars_of_isDigit {c : Char} (h : c.isDigit = true) : c ∈ numberChars := by
  obtain ⟨hlow, hhigh⟩ := Char.isDigit_iff_toNat.mp h
  have hall : ∀ n : Nat, 48 ≤ n → n ≤ 57 → Char.ofNat n ∈ numberChars := by
    intro n hlow hhigh
    interval_cases n <;> decide
  have hc := hall c.toNat hlow hhigh
  rwa [Char.ofNat_toNat] at hc

theorem Numeral.Valid.mem_numberChars {n : Numeral} (h : n.Valid) {c : Char} (hc : c ∈ n.chars) :
    c ∈ numberChars := by
  rcases List.mem_append.mp hc with hc | hc
  · exact mem_numberChars_of_isDigit (h.whole c hc)
  · rcases List.mem_cons.mp hc with rfl | hc
    · decide
    · rcases List.mem_append.mp hc with hc | hc
      · exact mem_numberChars_of_isDigit (h.fraction c hc)
      · cases hexponent : n.exponent with
        | none =>
          rw [hexponent] at hc
          cases hc
        | some e =>
          obtain ⟨negative, ds⟩ := e
          rw [hexponent] at hc
          rcases List.mem_cons.mp hc with rfl | hc
          · decide
          · rcases List.mem_cons.mp hc with rfl | hc
            · cases negative <;> decide
            · exact mem_numberChars_of_isDigit ((h.exponent _ _ hexponent).2 c hc)

/-- A text of numbers' characters, read as numerals are, is the same text. -/
theorem Yaml.numeralOf_eq_self {cs : List Char} (h : ∀ c ∈ cs, c ∈ numberChars) :
    numeralOf cs = cs := by
  have hall : numberChars.all (fun c => !Text.isWhiteSpace c && Text.usualDigit c = c) = true := by
    decide +kernel
  have hfacts : ∀ c ∈ numberChars, Text.isWhiteSpace c = false ∧ Text.usualDigit c = c := by
    simpa using hall
  have hspace : ∀ ds : List Char, (∀ c ∈ ds, c ∈ numberChars) →
      ds.dropWhile Text.isWhiteSpace = ds := by
    intro ds hds
    cases ds with
    | nil => rfl
    | cons c rest =>
      have hc := (hfacts c (hds c List.mem_cons_self)).1
      rw [List.dropWhile_cons_of_neg (by simp [hc])]
  rw [numeralOf, Text.stripped, hspace cs h, hspace cs.reverse (by simpa using h),
    List.reverse_reverse]
  refine (List.map_congr_left fun c hc => (hfacts c (h c hc)).2).trans (List.map_id _)

/-! ## Numerals with a point -/

namespace Numeral

variable {n : Numeral}

/-- A numeral begins with a digit. -/
theorem Valid.exists_first (h : n.Valid) : ∃ c rest, c.isDigit = true ∧ n.chars = c :: rest := by
  obtain ⟨c, rest, hwhole⟩ := List.exists_cons_of_ne_nil h.whole_ne_nil
  have hc : c ∈ n.whole := hwhole ▸ List.mem_cons_self
  refine ⟨c, rest ++ '.' :: (n.fraction ++ exponentChars n.exponent), h.whole c hc, ?_⟩
  rw [chars, hwhole, List.cons_append]

/-- Digits that something else follows end there. -/
theorem span_digits {ds : List Char} (hds : ∀ c ∈ ds, c.isDigit = true) (rest : List Char)
    (hrest : ∀ c ∈ rest.head?, c.isDigit = false) :
    (ds ++ rest).takeWhile (·.isDigit) = ds ∧ (ds ++ rest).dropWhile (·.isDigit) = rest := by
  rw [List.takeWhile_append_of_pos hds, List.dropWhile_append_of_pos hds]
  cases rest with
  | nil => simp
  | cons c rest =>
    have hc := hrest c rfl
    simp [hc]

theorem not_isDigit_head_exponentChars (e : Option (Bool × List Char)) :
    ∀ c ∈ (exponentChars e).head?, c.isDigit = false := by
  cases e with
  | none => simp [exponentChars]
  | some e => simp [exponentChars]

theorem decimalValue?_chars (h : n.Valid) (negative : Bool) :
    Yaml.decimalValue? negative n.chars =
      some (Double.ofDecimal negative (digitsValue (n.whole ++ n.fraction)) n.power) := by
  obtain ⟨hwhole, hpoint⟩ :=
    span_digits h.whole ('.' :: (n.fraction ++ exponentChars n.exponent)) (by simp)
  obtain ⟨hfraction, hback⟩ := span_digits h.fraction _ (not_isDigit_head_exponentChars n.exponent)
  have hempty : n.whole.isEmpty = false := by simpa using h.whole_ne_nil
  unfold Yaml.decimalValue?
  simp only [chars, hwhole, hpoint, hfraction, hback, hempty, Bool.false_and,
    Bool.false_eq_true, if_false]
  cases hexponent : n.exponent with
  | none => simp [exponentChars, power, exponentValue, hexponent]
  | some e =>
    obtain ⟨small, ds⟩ := e
    obtain ⟨hnil, hds⟩ := h.exponent small ds hexponent
    have hall : ds.all (·.isDigit) = true := by simpa using hds
    cases small <;>
      simp [exponentChars, power, exponentValue, hexponent, Yaml.Kind.afterSign, hnil, hall]

end Numeral

/-! ## Floating point numbers -/

namespace Double

theorem magnitude_lt {m : Nat} {q : Int} (h : Fits m q) : magnitude m q < 2 ^ 63 := by
  have hlt := h.lt
  have hleast := h.least
  have hgreatest := h.greatest
  unfold magnitude
  split <;> omega

theorem neg_ofMagnitude {n : Nat} (h : n < 2 ^ 63) :
    (ofMagnitude false n).neg = ofMagnitude true n := by
  have hxor : n ^^^ 2 ^ 63 = 2 ^ 63 + n := by
    refine Nat.eq_of_testBit_eq fun i => ?_
    rw [Nat.testBit_xor, Nat.testBit_two_pow]
    rcases Nat.lt_trichotomy i 63 with hi | rfl | hi
    · rw [Nat.testBit_two_pow_add_gt hi]
      simp [hi.ne']
    · rw [Nat.testBit_two_pow_add_eq]
      simp
    · have hpow : 2 ^ 64 ≤ 2 ^ i := Nat.pow_le_pow_right (by norm_num) hi
      rw [Nat.testBit_lt_two_pow (x := n) (by omega),
        Nat.testBit_lt_two_pow (x := 2 ^ 63 + n) (by omega)]
      simp [hi.ne]
  have hbits : (UInt64.ofNat n ^^^ 0x8000000000000000) = UInt64.ofNat (2 ^ 63 + n) := by
    rw [← UInt64.toNat_inj, UInt64.toNat_xor, UInt64.toNat_ofNat', UInt64.toNat_ofNat',
      Nat.mod_eq_of_lt (by omega), Nat.mod_eq_of_lt (by omega)]
    exact hxor
  simp only [neg, ofMagnitude, Bool.false_eq_true, if_false, if_true, Nat.zero_add, Nat.pow_eq]
  rw [hbits]

/-- A sign in front of a numeral. -/
def signChars (negative : Bool) : List Char := if negative then ['-'] else []

theorem neg_if_ofMagnitude (negative : Bool) {n : Nat} (h : n < 2 ^ 63) :
    (if negative then (ofMagnitude false n).neg else ofMagnitude false n) =
      ofMagnitude negative n := by
  cases negative
  · rfl
  · exact neg_ofMagnitude h

/-- The numeral that is written for a number with a point is nearest to the number. -/
theorem exists_numeral_of_pos (negative : Bool) {m : Nat} {q : Int} (hm : 0 < m) (hfits : Fits m q)
    (hpoint : '.' ∈ ((Decimal.shortest m q).text .json).toList) :
    ∃ n : Numeral, n.Valid ∧ ((Decimal.shortest m q).text .json).toList = n.chars ∧
      (if negative then (ofDecimal false (digitsValue (n.whole ++ n.fraction)) n.power).neg
        else ofDecimal false (digitsValue (n.whole ++ n.fraction)) n.power) =
          ofMagnitude negative (magnitude m q) := by
  have hrounds := Decimal.roundsTo_shortest hm hfits.lt q
  obtain ⟨n, hn, hchars, hvalue⟩ :=
    (Decimal.exists_numeral .json (hrounds.coefficient_pos hm hfits)).resolve_left
      (not_not_intro hpoint)
  rw [← hvalue, Numeral.value] at hrounds
  refine ⟨n, hn, hchars, ?_⟩
  rw [ofDecimal_of_roundsTo (hrounds.coefficient_pos hm hfits) hm hfits hrounds,
    neg_if_ofMagnitude negative (magnitude_lt hfits)]

/-- Where a point is written, a sign and a numeral are, and the numeral is nearest to the number
without the sign. -/
theorem exists_numeral {d : Double} (hpoint : '.' ∈ (d.text .json).toList) :
    ∃ negative, ∃ n : Numeral, n.Valid ∧ (d.text .json).toList = signChars negative ++ n.chars ∧
      (if negative then (ofDecimal false (digitsValue (n.whole ++ n.fraction)) n.power).neg
        else ofDecimal false (digitsValue (n.whole ++ n.fraction)) n.power) = d := by
  unfold text at hpoint ⊢
  cases hcontent : d.content with
  | nan =>
    rw [hcontent] at hpoint
    exact absurd hpoint (by decide)
  | infinite negative =>
    rw [hcontent] at hpoint
    cases negative
    · exact absurd hpoint (by decide)
    · exact absurd hpoint (by decide)
  | finite negative m q =>
    rw [hcontent] at hpoint
    obtain ⟨hfits, hd⟩ := eq_ofMagnitude_of_content hcontent
    have hsign : (if negative then "-" else "").toList = signChars negative := by
      cases negative <;> rfl
    simp only [String.toList_append, hsign] at hpoint ⊢
    by_cases hm : m = 0
    · refine ⟨negative, ⟨['0'], ['0'], none⟩, ⟨by simp, by simp, by simp, nofun⟩, ?_, ?_⟩
      · rw [if_pos hm]
        rfl
      · have hzero : digitsValue (['0'] ++ ['0']) = 0 := rfl
        rw [hzero, ofDecimal, if_pos rfl, neg_if_ofMagnitude negative (by norm_num), hd, hm]
        rfl
    · rw [if_neg hm] at hpoint ⊢
      have htext : '.' ∈ ((Decimal.shortest m q).text .json).toList := by
        refine (List.mem_append.mp hpoint).resolve_left ?_
        cases negative <;> decide
      obtain ⟨n, hn, hchars, hvalue⟩ :=
        exists_numeral_of_pos negative (Nat.pos_of_ne_zero hm) hfits htext
      exact ⟨negative, n, hn, by rw [hchars], hvalue.trans hd.symm⟩

end Double

namespace Yaml

/-! ## Reading numbers -/

theorem not_special_of_mem_numberChars {c : Char} (h : c ∈ numberChars) :
    c ≠ '_' ∧ c ≠ ':' ∧ c ≠ '\n' ∧ c.toLower = c := by
  have hall : numberChars.all (fun c => c ≠ '_' ∧ c ≠ ':' ∧ c ≠ '\n' ∧ c.toLower = c) = true := by
    decide
  exact of_decide_eq_true (List.all_eq_true.mp hall c h)

theorem filter_line_eq_self {cs : List Char} (h : ∀ c ∈ cs, c ∈ numberChars) :
    cs.filter (· ≠ '_') = cs :=
  List.filter_eq_self.mpr fun c hc => by
    simpa using (not_special_of_mem_numberChars (h c hc)).1

theorem map_toLower_eq_self {cs : List Char} (h : ∀ c ∈ cs, c ∈ numberChars) :
    cs.map Char.toLower = cs :=
  (List.map_congr_left fun c hc => (not_special_of_mem_numberChars (h c hc)).2.2.2).trans
    (List.map_id _)

/-- A sign in front of a digit is a sign, and a digit alone has none. -/
theorem splitSign_signChars (negative : Bool) {c : Char} (hc : c.isDigit = true)
    (rest : List Char) :
    splitSign (Double.signChars negative ++ c :: rest) = (negative, c :: rest) := by
  have hne := ne_of_isDigit hc
  cases negative
  · simp [splitSign, Double.signChars, Kind.afterSign, hne '-' rfl, hne '+' rfl]
  · simp [splitSign, Double.signChars, Kind.afterSign]

theorem colonParts_eq_singleton {cs : List Char} (h : ∀ c ∈ cs, c ∈ numberChars) :
    Kind.colonParts cs = [cs] :=
  List.splitOn_eq_singleton fun hcolon => (not_special_of_mem_numberChars (h ':' hcolon)).2.1 rfl

theorem mem_numberChars_signed (negative : Bool) {cs : List Char} (h : ∀ c ∈ cs, c ∈ numberChars) :
    ∀ c ∈ Double.signChars negative ++ cs, c ∈ numberChars := by
  intro c hc
  rcases List.mem_append.mp hc with hc | hc
  · cases negative with
    | false => cases hc
    | true =>
      rw [List.mem_singleton.mp hc]
      decide
  · exact h c hc

theorem realValue?_chars {n : Numeral} (h : n.Valid) : realValue? n.chars =
    some (Double.ofDecimal false (digitsValue (n.whole ++ n.fraction)) n.power) := by
  obtain ⟨c, rest, hc, hchars⟩ := h.exists_first
  have hsign : splitSign n.chars = (false, n.chars) := by
    rw [hchars]
    exact splitSign_signChars false hc rest
  -- the names of what is no finite number begin with a letter
  have hname : ∀ name ∈ ["inf", "infinity", "nan"], name.toList ≠ n.chars := by
    intro name hmem he
    rw [hchars] at he
    simp only [List.mem_cons, List.not_mem_nil, or_false] at hmem
    rcases hmem with rfl | rfl | rfl <;> cases he <;> cases hc
  have hinfinite : ["inf", "infinity"].contains (String.ofList n.chars) = false := by
    refine Bool.eq_false_iff.mpr fun hmem => ?_
    exact hname _ (List.mem_append_left ["nan"] (List.contains_iff_mem.mp hmem))
      String.toList_ofList
  have hnan : n.chars ≠ "nan".toList := fun he => hname "nan" (by simp) he.symm
  unfold realValue?
  rw [numeralOf_eq_self fun c hc => h.mem_numberChars hc, hsign]
  simp only [hinfinite, hnan, Bool.false_eq_true, if_false]
  exact Numeral.decimalValue?_chars h false

/-- A floating point number that is written with a point is read as itself. -/
theorem floatValue_text {d : Double} (hpoint : '.' ∈ (d.text .json).toList) :
    floatValue (d.text .json).toList = .ok d := by
  obtain ⟨negative, n, hn, htext, hvalue⟩ := Double.exists_numeral hpoint
  have hchars : ∀ c ∈ n.chars, c ∈ numberChars := fun c hc => hn.mem_numberChars hc
  have hall := mem_numberChars_signed negative hchars
  obtain ⟨first, rest, hfirst, hsplit⟩ := hn.exists_first
  have hsign : splitSign (Double.signChars negative ++ n.chars) = (negative, n.chars) := by
    rw [hsplit]
    exact splitSign_signChars negative hfirst rest
  have hempty : (Double.signChars negative ++ n.chars).isEmpty = false := by
    rw [hsplit]
    cases negative <;> rfl
  have hname : ∀ name ∈ [".inf", ".nan"], n.chars ≠ name.toList := by
    intro name hmem he
    rw [hsplit] at he
    simp only [List.mem_cons, List.not_mem_nil, or_false] at hmem
    rcases hmem with rfl | rfl <;> cases he <;> cases hfirst
  rw [htext]
  unfold floatValue
  simp only [filter_line_eq_self hall, map_toLower_eq_self hall, hsign, hempty, Bool.false_eq_true,
    if_false, hname ".inf" (by simp), hname ".nan" (by simp), colonParts_eq_singleton hchars,
    realValue?_chars hn]
  exact congrArg Except.ok hvalue

theorem foldlM_hexDigit? {ds : List Char} (hds : ∀ c ∈ ds, c.isDigit = true) (n : Nat) :
    ds.foldlM (fun n c => do
      let d ← Json.hexDigit? c
      if d < 10 then some (n * 10 + d) else none) n =
      some (ds.foldl (fun n c => n * 10 + (c.toNat - '0'.toNat)) n) := by
  induction ds generalizing n with
  | nil => rfl
  | cons c rest ih =>
    obtain ⟨hlow, hhigh⟩ := Char.isDigit_iff_toNat.mp (hds c List.mem_cons_self)
    have hdigit : Json.hexDigit? c = some (c.toNat - '0'.toNat) := by
      unfold Json.hexDigit?
      rw [if_pos]
      exact ⟨hlow, hhigh⟩
    have hlt : c.toNat - '0'.toNat < 10 := by
      have hzero : '0'.toNat = 48 := rfl
      have hnine : '9'.toNat = 57 := rfl
      omega
    rw [List.foldlM_cons, List.foldl_cons, hdigit, ← ih fun d hd =>
      hds d (List.mem_cons_of_mem c hd)]
    simp only [Option.bind_eq_bind, Option.bind_some, hlt, if_true]

/-- Digits that are not too many are read as the number they stand for. -/
theorem numeralValue?_digits {n : Nat} (hn : n < 10 ^ mostDigits) :
    numeralValue? 10 (Decimal.digits n) = some (n : Int) := by
  have hdigits : ∀ c ∈ Decimal.digits n, c.isDigit = true :=
    fun c hc => Decimal.isDigit_of_mem_digits hc
  have hlength : (Decimal.digits n).length ≤ mostDigits :=
    (Nat.length_toDigits_le_iff (by norm_num) (by decide)).mpr hn
  have hsign : splitSign (Decimal.digits n) = (false, Decimal.digits n) := by
    obtain ⟨c, rest, hsplit⟩ := List.exists_cons_of_ne_nil (Decimal.digits_ne_nil n)
    rw [hsplit] at hdigits ⊢
    exact splitSign_signChars false (hdigits c List.mem_cons_self) rest
  have hbase : withoutBase 10 (Decimal.digits n) = Decimal.digits n := by
    unfold withoutBase
    split
    · next hsplit =>
      rw [hsplit]
      rfl
    · rfl
  have hempty : (Decimal.digits n).isEmpty = false := by simpa using Decimal.digits_ne_nil n
  have hvalue : baseValue? 10 (Decimal.digits n) = some n := by
    rw [baseValue?, hempty, if_neg Bool.false_ne_true, foldlM_hexDigit? hdigits]
    exact congrArg some (digitsValue_digits n)
  unfold numeralValue?
  rw [numeralOf_eq_self fun c hc => mem_numberChars_of_isDigit (hdigits c hc), hsign]
  simp only [Nat.not_lt.mpr hlength, decide_false, Bool.and_false, Bool.false_eq_true, if_false,
    hbase, hvalue]
  rfl

end Yaml

/-- A positive number does not begin with a zero. -/
theorem Decimal.head?_digits_ne {n : Nat} (hn : 0 < n) : (digits n).head? ≠ some '0' := by
  induction n using Nat.strongRecOn with
  | ind n ih =>
    rw [digits, Nat.toDigits_eq_if (by norm_num)]
    split
    · next hsmall => interval_cases n <;> decide
    · next hlarge =>
      rw [List.head?_append_of_ne_nil _ Nat.toDigits_ne_nil]
      exact ih (n / 10) (by omega) (by omega)

theorem Decimal.exists_first_digit (n : Nat) :
    ∃ c rest, digits n = c :: rest ∧ c.isDigit = true ∧ (0 < n → c ≠ '0') := by
  obtain ⟨c, rest, hsplit⟩ := List.exists_cons_of_ne_nil (digits_ne_nil n)
  refine ⟨c, rest, hsplit, isDigit_of_mem_digits (hsplit ▸ List.mem_cons_self), ?_⟩
  rintro hn rfl
  exact head?_digits_ne hn (by rw [hsplit]; rfl)

namespace Yaml

/-- What is written for a whole number: a sign and the digits. -/
theorem toList_toString (n : Int) :
    (toString n).toList = Double.signChars (n < 0) ++ Decimal.digits n.natAbs := by
  rw [Int.toString_eq_repr, Int.repr_eq_if]
  by_cases hn : 0 ≤ n
  · have habs : n.toNat = n.natAbs := by omega
    have hsign : ¬ n < 0 := by omega
    rw [if_pos hn, Nat.repr_eq_ofList_toDigits, String.toList_ofList, habs]
    simp [Double.signChars, hsign, Decimal.digits]
  · have habs : (-n).toNat = n.natAbs := by omega
    have hsign : n < 0 := by omega
    rw [if_neg hn, String.toList_append, Nat.repr_eq_ofList_toDigits, String.toList_ofList, habs]
    simp [Double.signChars, hsign, Decimal.digits]

theorem signed_natAbs (n : Int) : signed (n < 0) n.natAbs = n := by
  unfold signed
  split
  · next hneg =>
    have hlt := of_decide_eq_true hneg
    omega
  · next hpos =>
    have hge : ¬ n < 0 := by simpa using hpos
    omega

/-- With no zero in front a number is one in base ten. -/
theorem intValue_signed (negative : Bool) {c : Char} {rest : List Char} {n : Int}
    (hc : c.isDigit = true) (hfirst : c ≠ '0') (hchars : ∀ d ∈ c :: rest, d ∈ numberChars)
    (hvalue : numeralValue? 10 (c :: rest) = some n) :
    intValue (Double.signChars negative ++ c :: rest) = .ok (signed negative n) := by
  unfold intValue
  simp only [filter_line_eq_self (mem_numberChars_signed negative hchars),
    splitSign_signChars negative hc rest]
  split
  · next he => cases he
  · next he =>
    cases he
    exact absurd rfl hfirst
  · next he =>
    cases he
    exact absurd rfl hfirst
  · next he =>
    cases he
    exact absurd rfl hfirst
  · next he =>
    cases he
    exact absurd rfl hfirst
  · simp only [colonParts_eq_singleton hchars, hvalue]

/-- A whole number is read as itself if it has no more digits than can be read. -/
theorem intValue_toString {n : Int} (hn : n.natAbs < 10 ^ mostDigits) :
    intValue (toString n).toList = .ok n := by
  rw [toList_toString]
  by_cases hzero : n = 0
  · rw [hzero]
    rfl
  · obtain ⟨c, rest, hsplit, hc, hfirst⟩ := Decimal.exists_first_digit n.natAbs
    have hchars : ∀ d ∈ Decimal.digits n.natAbs, d ∈ numberChars :=
      fun d hd => mem_numberChars_of_isDigit (Decimal.isDigit_of_mem_digits hd)
    have hvalue := numeralValue?_digits hn
    rw [hsplit] at hchars hvalue ⊢
    rw [intValue_signed _ hc (hfirst (Int.natAbs_pos.mpr hzero)) hchars hvalue, signed_natAbs]

/-! ## The tags of numbers -/

theorem withoutFeed_eq_self {s : String} (h : '\n' ∉ s.toList) : Tag.withoutFeed s = s := by
  unfold Tag.withoutFeed
  split
  · next hlast =>
    refine absurd ?_ h
    rw [← List.mem_reverse, hlast]
    exact List.mem_cons_self
  · rfl

/-- The words for truth values begin with a letter. -/
theorem isTruthWord_eq_false {c : Char} (hc : c ∈ numberChars) (rest : List Char) :
    Kind.isTruthWord (String.ofList (c :: rest)) = false := by
  have hall : (Kind.truthWords.all fun w => (Kind.spellings w.1).all fun word =>
      !(numberChars.contains (word.toList.headD ' '))) = true := by decide +kernel
  refine Bool.eq_false_iff.mpr fun hword => ?_
  obtain ⟨w, hw, hspelled⟩ := List.any_eq_true.mp hword
  have hletter := List.all_eq_true.mp (List.all_eq_true.mp hall w hw) _
    (List.contains_iff_mem.mp hspelled)
  rw [String.toList_ofList, List.headD_cons, List.contains_iff_mem.mpr hc] at hletter
  cases hletter

/-- A text of numbers' characters is a number if it has the form of one. -/
theorem ofText_of_numberChars {cs : List Char} (hcs : cs ≠ []) (h : ∀ c ∈ cs, c ∈ numberChars) :
    (Kind.isFloat cs = true → Tag.ofText (String.ofList cs) = .scalar .float) ∧
      (Kind.isFloat cs = false → Kind.isInt cs = true →
        Tag.ofText (String.ofList cs) = .scalar .int) := by
  obtain ⟨c, rest, rfl⟩ := List.exists_cons_of_ne_nil hcs
  have hfeed : '\n' ∉ (String.ofList (c :: rest)).toList := by
    rw [String.toList_ofList]
    exact fun hmem => (not_special_of_mem_numberChars (h _ hmem)).2.2.1 rfl
  have hword := isTruthWord_eq_false (h c List.mem_cons_self) rest
  constructor
  · intro hfloat
    simp only [Tag.ofText, withoutFeed_eq_self hfeed, hword, String.toList_ofList, hfloat,
      Bool.false_eq_true, if_false, if_true]
  · intro hfloat hint
    simp only [Tag.ofText, withoutFeed_eq_self hfeed, hword, String.toList_ofList, hfloat, hint,
      Bool.false_eq_true, if_false, if_true]

theorem afterSign_signChars (negative : Bool) {c : Char} (hc : c.isDigit = true)
    (rest : List Char) :
    Kind.afterSign (Double.signChars negative ++ c :: rest) = c :: rest :=
  congrArg Prod.snd (splitSign_signChars negative hc rest)

theorem isDigits_of_isDigit {c : Char} {rest : List Char} (h : ∀ d ∈ c :: rest, d.isDigit = true) :
    Kind.isDigits (c :: rest) = true := by
  rw [List.forall_mem_cons] at h
  rw [Kind.isDigits, h.1, Bool.true_and, List.all_eq_true]
  intro d hd
  rw [Kind.isDigitOrLine, h.2 d hd, Bool.true_or]

theorem isFraction_chars {n : Numeral} (h : n.Valid) :
    Kind.isFraction (n.fraction ++ Numeral.exponentChars n.exponent) = true := by
  have hfraction : ∀ c ∈ n.fraction, Kind.isDigitOrLine c = true := by
    intro c hc
    rw [Kind.isDigitOrLine, h.fraction c hc, Bool.true_or]
  rw [Kind.isFraction, List.dropWhile_append_of_pos hfraction]
  cases hexponent : n.exponent with
  | none => rfl
  | some e =>
    obtain ⟨negative, ds⟩ := e
    obtain ⟨hnil, hds⟩ := h.exponent negative ds hexponent
    have hall : ds.all (·.isDigit) = true := by simpa using hds
    have hmark : Kind.isDigitOrLine 'e' = false := by decide
    rw [Numeral.exponentChars, List.dropWhile_cons_of_neg (by simp [hmark])]
    cases negative <;> simp [Kind.isExponent, hnil, hall]

/-- A numeral with a point has the tag of numbers with fractions. -/
theorem ofText_numeral (negative : Bool) {n : Numeral} (h : n.Valid) :
    Tag.ofText (String.ofList (Double.signChars negative ++ n.chars)) = .scalar .float := by
  obtain ⟨c, rest, hwhole⟩ := List.exists_cons_of_ne_nil h.whole_ne_nil
  have hc : c.isDigit = true := h.whole c (hwhole ▸ List.mem_cons_self)
  have hpoint : ∀ d ∈ n.whole, decide (d ≠ '.') = true :=
    fun d hd => decide_eq_true (ne_of_isDigit (h.whole d hd) '.' rfl)
  have hunsigned : Kind.afterSign (Double.signChars negative ++ n.chars) = n.chars := by
    rw [Numeral.chars, hwhole]
    exact afterSign_signChars negative hc _
  have hfront : n.chars.takeWhile (· ≠ '.') = n.whole := by
    rw [Numeral.chars, List.takeWhile_append_of_pos hpoint]
    simp
  have hback : n.chars.dropWhile (· ≠ '.') =
      '.' :: (n.fraction ++ Numeral.exponentChars n.exponent) := by
    rw [Numeral.chars, List.dropWhile_append_of_pos hpoint]
    simp
  have hempty : n.whole.isEmpty = false := by simpa using h.whole_ne_nil
  have hparts := colonParts_eq_singleton fun d hd => mem_numberChars_of_isDigit (h.whole d hd)
  have hdigits : Kind.isDigits n.whole = true := by
    rw [hwhole]
    exact isDigits_of_isDigit (hwhole ▸ h.whole)
  have hchars := mem_numberChars_signed negative fun d hd => h.mem_numberChars hd
  refine (ofText_of_numberChars ?_ hchars).1 ?_
  · rw [Numeral.chars, hwhole]
    simp
  · unfold Kind.isFloat
    simp only [hunsigned, hfront, hback, hempty, hparts, hdigits, isFraction_chars h,
      Bool.false_eq_true, if_false, Bool.true_and]

/-- A floating point number that is written with a point has the tag of numbers with fractions. -/
theorem ofText_text {d : Double} (hpoint : '.' ∈ (d.text .json).toList) :
    Tag.ofText (d.text .json) = .scalar .float := by
  obtain ⟨negative, n, hn, htext, -⟩ := Double.exists_numeral hpoint
  rw [← String.ofList_toList (s := d.text .json), htext]
  exact ofText_numeral negative hn

theorem isFloat_signed (negative : Bool) {c : Char} {rest : List Char}
    (hdigits : ∀ d ∈ c :: rest, d.isDigit = true) :
    Kind.isFloat (Double.signChars negative ++ c :: rest) = false := by
  have hnone : (c :: rest).dropWhile (· ≠ '.') = [] :=
    List.dropWhile_eq_nil_iff.mpr fun d hd =>
      decide_eq_true (ne_of_isDigit (hdigits d hd) '.' rfl)
  unfold Kind.isFloat
  simp only [afterSign_signChars negative (hdigits c List.mem_cons_self) rest, hnone]

theorem isInt_signed (negative : Bool) {c : Char} {rest : List Char}
    (hdigits : ∀ d ∈ c :: rest, d.isDigit = true) (hfirst : c ≠ '0') :
    Kind.isInt (Double.signChars negative ++ c :: rest) = true := by
  unfold Kind.isInt
  rw [afterSign_signChars negative (hdigits c List.mem_cons_self) rest]
  split
  · next he =>
    cases he
    exact absurd rfl hfirst
  · next he =>
    cases he
    exact absurd rfl hfirst
  · next he =>
    cases he
    exact absurd rfl hfirst
  · next he =>
    cases he
    exact absurd rfl hfirst
  · rw [colonParts_eq_singleton fun d hd => mem_numberChars_of_isDigit (hdigits d hd)]
    exact isDigits_of_isDigit hdigits

/-- A whole number has the tag of whole numbers. -/
theorem ofText_toString (n : Int) : Tag.ofText (toString n) = .scalar .int := by
  obtain ⟨c, rest, hsplit, hc, hfirst⟩ := Decimal.exists_first_digit n.natAbs
  have hdigits : ∀ d ∈ c :: rest, d.isDigit = true :=
    fun d hd => Decimal.isDigit_of_mem_digits (hsplit ▸ hd)
  have hchars :=
    mem_numberChars_signed (n < 0) fun d hd => mem_numberChars_of_isDigit (hdigits d hd)
  have htext : toString n = String.ofList (Double.signChars (n < 0) ++ c :: rest) := by
    rw [← hsplit, ← toList_toString, String.ofList_toList]
  rw [htext]
  refine (ofText_of_numberChars (by simp) hchars).2 (isFloat_signed _ hdigits) ?_
  by_cases hzero : n = 0
  · subst hzero
    cases hsplit
    rfl
  · exact isInt_signed _ hdigits (hfirst (Int.natAbs_pos.mpr hzero))

end Yaml

end LayerDoc
