import LayerDoc.Json.Reader
import LayerDoc.Proofs.Decimal.Shortest
import Mathlib.Data.List.TakeWhile

/-!
# Written decimals

A numeral with a point has digits before and after the point, and perhaps an exponent with its sign
(`Numeral`). What is written for a decimal is such a numeral of the same value, or has no point
(`Decimal.exists_numeral`): the second is so for a single digit before an exponent, unless the
layout gives it a point.
-/

namespace LayerDoc

open Json (digitsValue)

/-! ## Values of digits -/

theorem digitsValue_eq (ds : List Char) : digitsValue ds = Nat.ofDigitChars 10 ds 0 := by
  rw [digitsValue, Nat.ofDigitChars_eq_foldl]
  simp only [Nat.mul_comm 10]

@[simp] theorem digitsValue_digits (n : Nat) : digitsValue (Decimal.digits n) = n := by
  rw [digitsValue_eq, Decimal.digits, Nat.ofDigitChars_ten_toDigits]

theorem digitsValue_append (ds es : List Char) :
    digitsValue (ds ++ es) = digitsValue ds * 10 ^ es.length + digitsValue es := by
  rw [digitsValue_eq, digitsValue_eq, digitsValue_eq, Nat.ofDigitChars_append,
    Nat.ofDigitChars_eq_ofDigitChars_zero, Nat.mul_comm]

@[simp] theorem digitsValue_zeros (k : Nat) : digitsValue (List.replicate k '0') = 0 := by
  rw [digitsValue_eq, Nat.ofDigitChars_replicate_zero, Nat.mul_zero]

/-- A numeral with a point: the digits before it, those after it, and the digits of an exponent with
whether that is negative. -/
structure Numeral where
  whole : List Char
  fraction : List Char
  exponent : Option (Bool × List Char)

namespace Numeral

/-- What is written for an exponent. -/
def exponentChars : Option (Bool × List Char) → List Char
  | none => []
  | some (negative, ds) => 'e' :: (if negative then '-' else '+') :: ds

/-- What is written for a numeral. -/
def chars (n : Numeral) : List Char := n.whole ++ '.' :: (n.fraction ++ exponentChars n.exponent)

/-- The power of ten of an exponent. -/
def exponentValue : Option (Bool × List Char) → Int
  | none => 0
  | some (negative, ds) => if negative then -(digitsValue ds : Int) else digitsValue ds

/-- The number that a numeral stands for is that of its digits with a power of ten. -/
def power (n : Numeral) : Int := exponentValue n.exponent - n.fraction.length

def value (n : Numeral) : ℚ := digitsValue (n.whole ++ n.fraction) * 10 ^ n.power

/-- All digits of a numeral are digits, and none is missing. -/
structure Valid (n : Numeral) : Prop where
  whole_ne_nil : n.whole ≠ []
  whole : ∀ c ∈ n.whole, c.isDigit = true
  fraction : ∀ c ∈ n.fraction, c.isDigit = true
  exponent : ∀ negative ds, n.exponent = some (negative, ds) →
    ds ≠ [] ∧ ∀ c ∈ ds, c.isDigit = true

end Numeral

namespace Decimal

theorem isDigit_of_mem_digits {n : Nat} {c : Char} (h : c ∈ digits n) : c.isDigit = true :=
  Nat.isDigit_of_mem_toDigits (by norm_num) (by norm_num) h

theorem digits_ne_nil (n : Nat) : digits n ≠ [] :=
  List.ne_nil_of_length_pos Nat.length_toDigits_pos

/-- The digits of a positive number are those that are kept, and zeros. -/
theorem exists_zeros_trimmed {n : Nat} (hn : 0 < n) :
    ∃ k, digits n = trimmed (digits n) ++ List.replicate k '0' := by
  have hsplit : digits n = ((digits n).reverse.dropWhile (· == '0')).reverse ++
      ((digits n).reverse.takeWhile (· == '0')).reverse := by
    rw [← List.reverse_append, List.takeWhile_append_dropWhile, List.reverse_reverse]
  have hzeros : ((digits n).reverse.takeWhile (· == '0')).reverse =
      List.replicate ((digits n).reverse.takeWhile (· == '0')).length '0' := by
    rw [← List.length_reverse]
    refine List.eq_replicate_of_mem fun c hc => ?_
    have hzero := List.mem_takeWhile_imp (p := (· == '0')) (List.mem_reverse.mp hc)
    exact eq_of_beq hzero
  rw [hzeros] at hsplit
  refine ⟨((digits n).reverse.takeWhile (· == '0')).length, ?_⟩
  unfold trimmed
  split
  · next hnone =>
    rw [hnone, List.nil_append] at hsplit
    have hvalue := digitsValue_digits n
    rw [hsplit, digitsValue_zeros] at hvalue
    omega
  · exact hsplit

theorem trimmed_ne_nil (ds : List Char) : trimmed ds ≠ [] := by
  unfold trimmed
  split
  · exact List.cons_ne_nil _ _
  · next hkept => exact hkept

/-! ## The layouts -/

/-- A decimal by the digits that are kept of it and its exponent in scientific notation. -/
theorem value_eq_kept {d : Decimal} {k : Nat}
    (hsplit : digits d.coefficient = trimmed (digits d.coefficient) ++ List.replicate k '0') :
    (d.coefficient * 10 ^ d.exponent : ℚ) = digitsValue (trimmed (digits d.coefficient)) *
      10 ^ (d.exponent + (digits d.coefficient).length -
        (trimmed (digits d.coefficient)).length) := by
  have hvalue := digitsValue_digits d.coefficient
  have hlength := congrArg List.length hsplit
  rw [List.length_append, List.length_replicate] at hlength
  have hcoefficient : (d.coefficient : ℚ) =
      digitsValue (trimmed (digits d.coefficient)) * 10 ^ k := by
    rw [hsplit, digitsValue_append, digitsValue_zeros, List.length_replicate, Nat.add_zero]
      at hvalue
    exact_mod_cast hvalue.symm
  rw [hcoefficient, mul_assoc, ← zpow_natCast, ← zpow_add₀ (by norm_num)]
  congr 2
  omega

end Decimal

namespace Numeral

variable {ds : List Char} (hds : ∀ c ∈ ds, c.isDigit = true)

/-- Digits with `size` places before the point, where zeros fill up. -/
def positional (ds : List Char) (size : Nat) : Numeral :=
  ⟨ds.take size ++ List.replicate (size - ds.length) '0',
    if (ds.drop size).isEmpty then ['0'] else ds.drop size, none⟩

/-- Digits after the point, behind zeros. -/
def small (ds : List Char) (zeros : Nat) : Numeral := ⟨['0'], List.replicate zeros '0' ++ ds, none⟩

/-- Digits with a point after the first, and an exponent of at least two digits. -/
def scientific (first : Char) (rest : List Char) (e : Int) : Numeral :=
  ⟨[first], rest, some (decide (e < 0),
    (if (Decimal.digits e.natAbs).length < 2 then ['0'] else []) ++ Decimal.digits e.natAbs)⟩

theorem value_positional (ds : List Char) (size : Nat) :
    (positional ds size).value = digitsValue ds * 10 ^ ((size : Int) - ds.length) := by
  unfold positional value power exponentValue
  dsimp only
  by_cases hlong : size < ds.length
  · have hback : (ds.drop size).isEmpty = false := by simpa using hlong
    have hnone : size - ds.length = 0 := by omega
    rw [hback, if_neg Bool.false_ne_true, hnone, List.replicate_zero, List.append_nil,
      List.take_append_drop, List.length_drop]
    congr 2
    omega
  · have hback : (ds.drop size).isEmpty = true := by simpa using hlong
    rw [hback, if_pos rfl, List.take_of_length_le (by omega), digitsValue_append,
      digitsValue_append, digitsValue_zeros, List.length_replicate, List.length_singleton]
    have hzero : digitsValue ['0'] = 0 := rfl
    have hpower : (10 : ℚ) ^ ((size : Int) - ds.length) = 10 ^ (size - ds.length) := by
      rw [← zpow_natCast]
      congr 1
      omega
    rw [hzero, hpower]
    push_cast
    rw [zpow_neg_one]
    ring

theorem value_small (ds : List Char) (zeros : Nat) :
    (small ds zeros).value = digitsValue ds * 10 ^ (-(zeros : Int) - ds.length) := by
  unfold small value power exponentValue
  dsimp only
  have hzeros : ['0'] ++ (List.replicate zeros '0' ++ ds) =
      List.replicate (zeros + 1) '0' ++ ds := by
    rw [List.replicate_succ]
    rfl
  rw [hzeros, digitsValue_append, digitsValue_zeros, List.length_append, List.length_replicate]
  push_cast
  rw [zero_mul, zero_add, zero_sub, neg_add']

theorem value_scientific (first : Char) (rest : List Char) (e : Int) :
    (scientific first rest e).value = digitsValue (first :: rest) * 10 ^ (e - rest.length) := by
  have hexponent : digitsValue ((if (Decimal.digits e.natAbs).length < 2 then ['0'] else []) ++
      Decimal.digits e.natAbs) = e.natAbs := by
    rw [digitsValue_append, digitsValue_digits]
    split
    · have hzero : digitsValue ['0'] = 0 := rfl
      rw [hzero]
      omega
    · have hzero : digitsValue [] = 0 := rfl
      rw [hzero]
      omega
  unfold scientific value power exponentValue
  dsimp only
  rw [hexponent]
  congr 3
  by_cases he : e < 0
  · rw [if_pos (decide_eq_true he)]
    omega
  · rw [if_neg (by simpa using he)]
    omega

include hds

theorem valid_positional {size : Nat} (hsize : 0 < size) (hnil : ds ≠ []) :
    (positional ds size).Valid := by
  refine ⟨?_, ?_, ?_, nofun⟩
  · intro hwhole
    have hlength := congrArg List.length hwhole
    have hpos := List.length_pos_of_ne_nil hnil
    simp only [positional, List.length_append, List.length_take, List.length_replicate,
      List.length_nil] at hlength
    omega
  · intro c hc
    rcases List.mem_append.mp hc with hc | hc
    · exact hds c (List.mem_of_mem_take hc)
    · rw [List.eq_of_mem_replicate hc]
      rfl
  · intro c hc
    unfold positional at hc
    dsimp only at hc
    split at hc
    · rw [List.mem_singleton.mp hc]
      rfl
    · exact hds c (List.mem_of_mem_drop hc)

theorem valid_small (zeros : Nat) : (small ds zeros).Valid := by
  refine ⟨List.cons_ne_nil _ _, ?_, ?_, nofun⟩
  · intro c hc
    rw [List.mem_singleton.mp hc]
    rfl
  · intro c hc
    rcases List.mem_append.mp hc with hc | hc
    · rw [List.eq_of_mem_replicate hc]
      rfl
    · exact hds c hc

omit hds in
theorem valid_scientific {first : Char} {rest : List Char}
    (hds : ∀ c ∈ first :: rest, c.isDigit = true) (e : Int) : (scientific first rest e).Valid := by
  rw [List.forall_mem_cons] at hds
  refine ⟨List.cons_ne_nil _ _, ?_, hds.2, ?_⟩
  · intro c hc
    rw [List.mem_singleton.mp hc]
    exact hds.1
  · intro negative es hes
    cases hes
    refine ⟨List.append_ne_nil_of_right_ne_nil _ (Decimal.digits_ne_nil _), fun c hc => ?_⟩
    rcases List.mem_append.mp hc with hc | hc
    · split at hc
      · rw [List.mem_singleton.mp hc]
        rfl
      · cases hc
    · exact Decimal.isDigit_of_mem_digits hc

end Numeral

namespace Decimal

theorem toList_exponentText (e : Int) : (exponentText e).toList =
    'e' :: (if e < 0 then '-' else '+') ::
      ((if (digits e.natAbs).length < 2 then ['0'] else []) ++ digits e.natAbs) := by
  unfold exponentText
  dsimp only
  split <;> split <;> simp

theorem point_not_mem_exponentText (e : Int) : '.' ∉ (exponentText e).toList := by
  have hdigits : '.' ∉ digits e.natAbs := by
    intro hmem
    have hdigit := isDigit_of_mem_digits hmem
    cases hdigit
  have hsign : '.' ≠ if e < 0 then '-' else '+' := by
    split <;> decide
  have hzero : '.' ∉ if (digits e.natAbs).length < 2 then ['0'] else [] := by
    split <;> decide
  rw [toList_exponentText, List.mem_cons, List.mem_cons, List.mem_append]
  rintro (he | he | he | he)
  · cases he
  · exact hsign he
  · exact hzero he
  · exact hdigits he

end Decimal

namespace Numeral

theorem chars_scientific (first : Char) (rest : List Char) (e : Int) :
    (scientific first rest e).chars =
      first :: '.' :: (rest ++ (Decimal.exponentText e).toList) := by
  rw [Decimal.toList_exponentText]
  by_cases he : e < 0 <;> simp [chars, scientific, exponentChars, he]

/-- A zero after the point does not count. -/
theorem value_scientific_zero (first : Char) (e : Int) :
    (scientific first ['0'] e).value = digitsValue [first] * 10 ^ e := by
  have hten : digitsValue [first, '0'] = digitsValue [first] * 10 :=
    digitsValue_append [first] ['0']
  rw [value_scientific, hten, List.length_singleton]
  push_cast
  rw [mul_assoc, ← zpow_one_add₀ (by norm_num)]
  congr 2
  omega

/-- Digits of a number from one on, written in full. -/
theorem exists_positional {ds : List Char} (hds : ∀ c ∈ ds, c.isDigit = true) (hnil : ds ≠ [])
    {e : Int} (he : 0 ≤ e) :
    ∃ n : Numeral, n.Valid ∧
      (String.ofList (ds.take (e.toNat + 1) ++ List.replicate (e.toNat + 1 - ds.length) '0') ++
        "." ++
        (if (ds.drop (e.toNat + 1)).isEmpty then "0"
          else String.ofList (ds.drop (e.toNat + 1)))).toList = n.chars ∧
      n.value = digitsValue ds * 10 ^ (e + 1 - ds.length) := by
  refine ⟨positional ds (e.toNat + 1), valid_positional hds (Nat.succ_pos _) hnil, ?_, ?_⟩
  · cases hback : (ds.drop (e.toNat + 1)).isEmpty <;>
      simp [chars, positional, exponentChars, hback]
  · rw [value_positional]
    congr 2
    omega

/-- Digits of a number below one, written in full. -/
theorem exists_small {ds : List Char} (hds : ∀ c ∈ ds, c.isDigit = true) {e : Int} (he : e < 0) :
    ∃ n : Numeral, n.Valid ∧
      ("0." ++ String.ofList (List.replicate ((-e).toNat - 1) '0') ++ String.ofList ds).toList =
        n.chars ∧
      n.value = digitsValue ds * 10 ^ (e + 1 - ds.length) := by
  refine ⟨small ds ((-e).toNat - 1), valid_small hds _, ?_, ?_⟩
  · simp [chars, small, exponentChars]
  · rw [value_small]
    congr 2
    omega

/-- One digit before an exponent has no point, unless the layout gives it one. -/
theorem exists_single (layout : Decimal.Layout) {first : Char} (hfirst : first.isDigit = true)
    (e : Int) :
    let text := String.ofList [first] ++ (if layout.pointBeforeExponent then ".0" else "") ++
      Decimal.exponentText e
    '.' ∉ text.toList ∨
      ∃ n : Numeral, n.Valid ∧ text.toList = n.chars ∧ n.value = digitsValue [first] * 10 ^ e := by
  intro text
  by_cases hpoint : layout.pointBeforeExponent = true
  · refine Or.inr
      ⟨scientific first ['0'] e, valid_scientific ?_ e, ?_, value_scientific_zero first e⟩
    · simpa using hfirst
    · simp [text, hpoint, chars_scientific]
  · refine Or.inl ?_
    have htext : text.toList = first :: (Decimal.exponentText e).toList := by
      simp [text, hpoint]
    rw [htext, List.mem_cons]
    rintro (rfl | hmem)
    · cases hfirst
    · exact Decimal.point_not_mem_exponentText e hmem

/-- Further digits before an exponent stand behind a point. -/
theorem exists_scientific {first : Char} {rest : List Char}
    (hds : ∀ c ∈ first :: rest, c.isDigit = true) (e : Int) :
    ∃ n : Numeral, n.Valid ∧
      (String.ofList [first] ++ "." ++ String.ofList rest ++ Decimal.exponentText e).toList =
        n.chars ∧
      n.value = digitsValue (first :: rest) * 10 ^ (e - rest.length) := by
  refine ⟨scientific first rest e, valid_scientific hds e, ?_, value_scientific first rest e⟩
  simp [chars_scientific]

end Numeral

namespace Decimal

/-- What is written for a positive decimal is a numeral with a point of the same value, or has no
point. -/
theorem exists_numeral (layout : Layout) {d : Decimal} (hd : 0 < d.coefficient) :
    '.' ∉ (text layout d).toList ∨
      ∃ n : Numeral, n.Valid ∧ (text layout d).toList = n.chars ∧
        n.value = d.coefficient * 10 ^ d.exponent := by
  obtain ⟨k, hsplit⟩ := exists_zeros_trimmed hd
  have hvalue := value_eq_kept hsplit
  have hkept : ∀ c ∈ trimmed (digits d.coefficient), c.isDigit = true := by
    intro c hc
    refine isDigit_of_mem_digits (n := d.coefficient) ?_
    rw [hsplit]
    exact List.mem_append_left _ hc
  have hnil := trimmed_ne_nil (digits d.coefficient)
  have hsum : d.exponent + (digits d.coefficient).length =
      d.exponent + (digits d.coefficient).length - 1 + 1 := by omega
  rw [hsum] at hvalue
  unfold text
  dsimp only
  rw [if_neg hd.ne', hvalue]
  -- from here on only the digits that are kept and the exponent behind the first of them count
  generalize d.exponent + (digits d.coefficient).length - 1 = e
  generalize trimmed (digits d.coefficient) = ds at hkept hnil
  clear hvalue hsplit hsum
  split
  · split
    · next hpos => exact Or.inr (Numeral.exists_positional hkept hnil hpos)
    · next hneg => exact Or.inr (Numeral.exists_small hkept (by omega))
  · split
    · exact absurd rfl hnil
    · next first =>
      rw [List.length_singleton, Nat.cast_one, add_sub_cancel_right]
      exact Numeral.exists_single layout (hkept first (List.mem_singleton_self first)) e
    · next first rest hrest =>
      have hlength : e + 1 - ((first :: rest).length : Int) = e - rest.length := by
        rw [List.length_cons]
        omega
      rw [hlength]
      exact Or.inr (Numeral.exists_scientific hkept e)

end Decimal

end LayerDoc
