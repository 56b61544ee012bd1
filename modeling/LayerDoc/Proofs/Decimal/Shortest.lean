import LayerDoc.Decimal.Shortest
import LayerDoc.Proofs.Decimal.Rounding

/-!
# Shortest decimals read back

The shortest decimal of a number lies in the interval of the number (`Decimal.roundsTo_shortest`),
since a grid of seventeen digits has a point there at the latest. Every decimal in the interval
reads back as the number (`Double.ofDecimal_of_roundsTo`), and so does the shortest one.
-/

namespace LayerDoc

open Double (RoundsTo Fits reach)

variable {m : Nat} {q : Int}

/-! ## Decimal places -/

theorem Decimal.lt_pow_length_digits (n : Nat) : n < 10 ^ (digits n).length :=
  (Nat.length_toDigits_le_iff (by norm_num) Nat.length_toDigits_pos).mp le_rfl

theorem Decimal.pow_length_digits_le {n : Nat} (hn : 0 < n) :
    10 ^ ((digits n).length - 1) ≤ n := by
  by_contra hlt
  have hpos : 0 < (digits n).length := Nat.length_toDigits_pos
  by_cases hone : (digits n).length = 1
  · rw [hone, Nat.sub_self, pow_zero] at hlt
    omega
  · have hshort := (Nat.length_toDigits_le_iff (b := 10) (n := n) (k := (digits n).length - 1)
      (by norm_num) (by omega)).mpr (not_le.mp hlt)
    rw [← digits] at hshort
    omega

/-- The place of the leading digit is no higher than that. -/
theorem Decimal.pow_leadingPlace_le {num den : Nat} (hnum : 0 < num) (hden : 0 < den) :
    (10 : ℚ) ^ (leadingPlace num den - 1) ≤ num / den := by
  have hden' : (0 : ℚ) < den := by exact_mod_cast hden
  rw [le_div_iff₀ hden']
  unfold leadingPlace
  split
  · next hle =>
    have hpos : 0 < (digits (num / den)).length := Nat.length_toDigits_pos
    have hwhole := pow_length_digits_le (Nat.div_pos hle hden)
    have hexp : ((digits (num / den)).length : Int) - 1 =
        ((digits (num / den)).length - 1 : Nat) := by
      omega
    rw [hexp, zpow_natCast]
    exact_mod_cast (Nat.mul_le_mul_right den hwhole).trans (Nat.div_mul_le_self num den)
  · next hlt =>
    have hpos : 0 < (digits (den / num)).length := Nat.length_toDigits_pos
    obtain ⟨k, hk⟩ : ∃ k : Nat, (digits (den / num)).length = k + 1 :=
      ⟨(digits (den / num)).length - 1, by omega⟩
    simp only [hk, Nat.pow_eq, Nat.cast_add, Nat.cast_one, add_sub_cancel_right, Int.toNat_natCast]
    split
    · have hless := lt_pow_length_digits (den / num)
      rw [hk, Nat.div_lt_iff_lt_mul hnum] at hless
      have hexp : (1 : Int) - (k + 1) - 1 = -((k + 1 : Nat) : Int) := by push_cast; ring
      rw [hexp, zpow_neg, zpow_natCast, inv_mul_le_iff₀ (by positivity)]
      exact_mod_cast hless.le
    · next hmore =>
      have hexp : (2 : Int) - (k + 1) - 1 = -(k : Int) := by ring
      rw [hexp, zpow_neg, zpow_natCast, inv_mul_le_iff₀ (by positivity), mul_comm]
      exact_mod_cast not_lt.mp hmore

/-! ## The interval of a number -/

namespace Decimal.Interval

theorem den_around_pos (m : Nat) (q : Int) : 0 < (around m q).den := by
  unfold around
  dsimp only
  split
  · exact Nat.mul_pos (by norm_num) (by norm_num)
  · exact Nat.mul_pos (by norm_num) (Nat.pow_pos (by norm_num))

/-- Both scales of an interval together are the unit of the significand. -/
theorem scale_around (q : Int) :
    (((if 0 ≤ q then Nat.pow 2 q.toNat else 1 : Nat) : ℚ) /
      (4 * (if 0 ≤ q then 1 else Nat.pow 2 (-q).toNat) : Nat)) = 2 ^ q / 4 := by
  split
  · next h =>
    obtain ⟨k, rfl⟩ := Int.eq_ofNat_of_zero_le h
    simp
  · next h =>
    obtain ⟨k, rfl⟩ : ∃ k : Nat, q = -k := ⟨q.natAbs, by omega⟩
    simp only [neg_neg, Int.toNat_natCast, Nat.pow_eq, Nat.cast_mul, Nat.cast_pow, Nat.cast_ofNat,
      zpow_neg, zpow_natCast, Nat.cast_one]
    field_simp

theorem value_around (m : Nat) (q : Int) :
    ((around m q).value : ℚ) / (around m q).den = m * 2 ^ q := by
  have hscale := scale_around q
  unfold around
  dsimp only
  rw [Nat.cast_mul, mul_div_assoc, hscale]
  push_cast
  ring

theorem high_around (m : Nat) (q : Int) :
    ((around m q).high : ℚ) / (around m q).den = (m + 1 / 2) * 2 ^ q := by
  have hscale := scale_around q
  unfold around
  dsimp only
  rw [Nat.cast_mul, mul_div_assoc, hscale]
  push_cast
  ring

theorem low_around (hm : 0 < m) (q : Int) :
    ((around m q).low : ℚ) / (around m q).den = (m - reach m q) * 2 ^ q := by
  have hscale := scale_around q
  unfold around reach
  dsimp only
  rw [Nat.cast_mul, mul_div_assoc, hscale]
  simp only [Nat.pow_eq]
  split
  · rw [Nat.cast_sub (by omega)]
    push_cast
    ring
  · rw [Nat.cast_sub (by omega)]
    push_cast
    ring

/-- Whether a decimal lies in an interval, in terms of the numbers that they stand for. -/
theorem holds_iff {i : Interval} (hden : 0 < i.den) (c : Nat) (e : Int) :
    i.holds c e = true ↔
      if i.closed then (i.low : ℚ) / i.den ≤ c * 10 ^ e ∧ (c * 10 ^ e : ℚ) ≤ i.high / i.den
      else (i.low : ℚ) / i.den < c * 10 ^ e ∧ (c * 10 ^ e : ℚ) < i.high / i.den := by
  have hden' : (0 : ℚ) < i.den := by exact_mod_cast hden
  rw [div_le_iff₀ hden', le_div_iff₀ hden', div_lt_iff₀ hden', lt_div_iff₀ hden']
  unfold holds
  by_cases he : 0 ≤ e
  · obtain ⟨k, rfl⟩ := Int.eq_ofNat_of_zero_le he
    simp only [he, if_true, Int.toNat_natCast, Nat.pow_eq, Nat.mul_one, zpow_natCast]
    split
    · simp only [Bool.and_eq_true, decide_eq_true_eq]
      norm_cast
    · simp only [Bool.and_eq_true, decide_eq_true_eq]
      norm_cast
  · obtain ⟨k, rfl⟩ : ∃ k : Nat, e = -k := ⟨e.natAbs, by omega⟩
    have hunit : (0 : ℚ) < 10 ^ k := by positivity
    have hmul : ∀ a : ℚ, (c : ℚ) * 10 ^ (-(k : Int)) * a = c * a / 10 ^ k := by
      intro a
      rw [zpow_neg, zpow_natCast]
      field_simp
    simp only [he, if_false, neg_neg, Int.toNat_natCast, Nat.pow_eq, hmul]
    rw [le_div_iff₀ hunit, div_le_iff₀ hunit, lt_div_iff₀ hunit, div_lt_iff₀ hunit]
    split
    · simp only [Bool.and_eq_true, decide_eq_true_eq]
      norm_cast
    · simp only [Bool.and_eq_true, decide_eq_true_eq]
      norm_cast

theorem holds_around_iff (hm : 0 < m) (c : Nat) (e : Int) :
    (around m q).holds c e = true ↔ RoundsTo m q (c * 10 ^ e) := by
  have hclosed : (around m q).closed = decide (m % 2 = 0) := rfl
  rw [holds_iff (den_around_pos m q), low_around hm, high_around, hclosed, RoundsTo]
  by_cases heven : m % 2 = 0
  · rw [if_pos (by simpa using heven), if_pos heven]
  · rw [if_neg (by simpa using heven), if_neg heven]

/-! ## Grids -/

theorem holds_onGrid {i : Interval} {e : Int} {c : Nat} (h : i.onGrid e = some c) :
    i.holds c e = true := by
  unfold onGrid at h
  dsimp only at h
  split at h
  · next hfirst hsecond =>
    split at h
    · cases h
      exact hfirst
    · split at h
      · cases h
        exact hsecond
      · split at h
        · cases h
          exact hfirst
        · cases h
          exact hsecond
  · next hfirst _ =>
    cases h
    exact hfirst
  · next hsecond =>
    cases h
    exact hsecond
  · cases h

/-- A grid that has a point of the interval next to the number is one that is taken. -/
theorem isSome_onGrid {i : Interval} {e : Int}
    (h : i.holds ((inUnits i.value i.den e).1 / (inUnits i.value i.den e).2) e = true ∨
      i.holds ((inUnits i.value i.den e).1 / (inUnits i.value i.den e).2 + 1) e = true) :
    (i.onGrid e).isSome = true := by
  unfold onGrid
  dsimp only
  split
  · split
    · rfl
    · split
      · rfl
      · split <;> rfl
  · rfl
  · rfl
  · next hfirst hsecond =>
    rcases h with h | h
    · rw [hfirst] at h
      cases h
    · rw [hsecond] at h
      cases h

theorem holds_firstGrid {i : Interval} {place : Int} {fuel n k : Nat} (hlow : n ≤ k)
    (hhigh : k < n + fuel) (hk : (i.onGrid (place - k)).isSome = true) :
    i.holds (i.firstGrid place fuel n).coefficient (i.firstGrid place fuel n).exponent = true := by
  induction fuel generalizing n with
  | zero => omega
  | succ fuel ih =>
    rw [firstGrid]
    cases hgrid : i.onGrid (place - n) with
    | some c => exact holds_onGrid hgrid
    | none =>
      have hne : n ≠ k := by
        rintro rfl
        rw [hgrid] at hk
        cases hk
      exact ih (by omega) (by omega)

/-- The points of a grid on both sides of a quotient. -/
theorem inUnits_between (num : Nat) {den : Nat} (hden : 0 < den) (e : Int) :
    ((inUnits num den e).1 / (inUnits num den e).2 : Nat) * (10 : ℚ) ^ e ≤ num / den ∧
      (num / den : ℚ) <
        ((inUnits num den e).1 / (inUnits num den e).2 + 1 : Nat) * (10 : ℚ) ^ e := by
  have hunit : (0 : ℚ) < 10 ^ e := by positivity
  have hpos : 0 < (inUnits num den e).2 := Double.shifted_den_pos (by norm_num) num hden e
  have hpos' : (0 : ℚ) < (inUnits num den e).2 := by exact_mod_cast hpos
  have hquotient : ((inUnits num den e).1 : ℚ) / (inUnits num den e).2 = num / den / 10 ^ e :=
    Double.shifted_quotient 10 num den e
  rw [← le_div_iff₀ hunit, ← div_lt_iff₀ hunit, ← hquotient, le_div_iff₀ hpos', div_lt_iff₀ hpos']
  constructor
  · exact_mod_cast Nat.div_mul_le_self _ _
  · exact_mod_cast (Nat.div_lt_iff_lt_mul hpos).mp (Nat.lt_succ_self _)

end Decimal.Interval

/-! ## Seventeen digits -/

/-- The interval of a number of the format is no shorter than one part in `10 ^ 16` of it. -/
theorem Double.lt_width_mul (hlt : m < 2 ^ 53) (q : Int) :
    (m : ℚ) < (reach m q + 1 / 2) * 10 ^ 16 := by
  have hlt' : (m : ℚ) < 2 ^ 53 := by exact_mod_cast hlt
  unfold reach
  split
  · next hpower =>
    rw [hpower.1]
    norm_num
  · norm_num
    norm_num at hlt'
    linarith

/-- The step of a grid of seventeen digits is shorter than the interval of the number. -/
theorem Double.step_lt_width (hlt : m < 2 ^ 53) {place : Int}
    (hplace : (10 : ℚ) ^ (place - 1) ≤ m * 2 ^ q) :
    (10 : ℚ) ^ (place - (17 : Nat)) < (reach m q + 1 / 2) * 2 ^ q := by
  have hsplit : (10 : ℚ) ^ (place - (17 : Nat)) * 10 ^ 16 = 10 ^ (place - 1) := by
    rw [← zpow_natCast, ← zpow_add₀ (by norm_num)]
    congr 1
    push_cast
    ring
  refine lt_of_mul_lt_mul_right ?_ (by positivity : (0 : ℚ) ≤ 10 ^ 16)
  calc (10 : ℚ) ^ (place - (17 : Nat)) * 10 ^ 16 = 10 ^ (place - 1) := hsplit
    _ ≤ m * 2 ^ q := hplace
    _ < (reach m q + 1 / 2) * 10 ^ 16 * 2 ^ q :=
        mul_lt_mul_of_pos_right (lt_width_mul hlt q) (by positivity)
    _ = (reach m q + 1 / 2) * 2 ^ q * 10 ^ 16 := by ring

/-- Next to a number of the format a point of a grid of seventeen digits is in its interval. -/
theorem Decimal.isSome_onGrid_seventeen (hm : 0 < m) (hlt : m < 2 ^ 53) (q : Int) :
    ((Interval.around m q).onGrid
      (leadingPlace (Interval.around m q).value (Interval.around m q).den - (17 : Nat))).isSome =
        true := by
  have hden := Interval.den_around_pos m q
  have hvalue := Interval.value_around m q
  have hunit : (0 : ℚ) < 2 ^ q := by positivity
  have hm' : (0 : ℚ) < m := by exact_mod_cast hm
  have hvaluepos : 0 < (Interval.around m q).value := by
    rw [Nat.pos_iff_ne_zero]
    intro hzero
    rw [hzero, Nat.cast_zero, zero_div] at hvalue
    exact (mul_pos hm' hunit).ne hvalue
  have hplace := pow_leadingPlace_le hvaluepos hden
  have hgrid := Interval.inUnits_between (Interval.around m q).value hden
    (leadingPlace (Interval.around m q).value (Interval.around m q).den - (17 : Nat))
  apply Interval.isSome_onGrid
  rw [Interval.holds_around_iff hm, Interval.holds_around_iff hm]
  generalize leadingPlace (Interval.around m q).value (Interval.around m q).den = place at *
  generalize (inUnits (Interval.around m q).value (Interval.around m q).den
    (place - (17 : Nat))).1 / (inUnits (Interval.around m q).value (Interval.around m q).den
    (place - (17 : Nat))).2 = c at *
  rw [hvalue] at hplace hgrid
  have hstep := Double.step_lt_width hlt hplace
  have hreach : 0 < reach m q * 2 ^ q := mul_pos (Double.reach_pos m q) hunit
  obtain ⟨hbelow, habove⟩ := hgrid
  generalize (10 : ℚ) ^ (place - (17 : Nat)) = step at *
  push_cast at habove ⊢
  by_cases hnear : (m : ℚ) * 2 ^ q - c * step < reach m q * 2 ^ q
  · exact Or.inl (Double.roundsTo_of_lt (by linarith) (by linarith))
  · exact Or.inr (Double.roundsTo_of_lt (by linarith) (by linarith))

/-- The shortest decimal of a number lies in its interval. -/
theorem Decimal.roundsTo_shortest (hm : 0 < m) (hlt : m < 2 ^ 53) (q : Int) :
    RoundsTo m q ((shortest m q).coefficient * 10 ^ (shortest m q).exponent) := by
  rw [← Interval.holds_around_iff hm]
  exact Interval.holds_firstGrid (k := 17) (by norm_num) (by norm_num)
    (isSome_onGrid_seventeen hm hlt q)

/-! ## Reading back -/

namespace Double.RoundsTo

variable {x : ℚ}

theorem lt_greatest (h : RoundsTo m q x) (hfits : Fits m q) : x < 10 ^ (310 : Int) := by
  have hm : (m : ℚ) + 1 ≤ 2 ^ 53 := by exact_mod_cast hfits.lt
  have hq : (2 : ℚ) ^ q ≤ 2 ^ (971 : Int) := zpow_le_zpow_right₀ (by norm_num) hfits.greatest
  calc x ≤ (m + 1 / 2) * 2 ^ q := h.le_high
    _ ≤ 2 ^ 53 * 2 ^ (971 : Int) := by
        refine mul_le_mul (by linarith) hq (by positivity) (by positivity)
    _ < 10 ^ (310 : Int) := by
        have hpow : (2 : Nat) ^ 53 * 2 ^ 971 < 10 ^ 310 := by decide +kernel
        exact_mod_cast hpow

theorem least_lt (h : RoundsTo m q x) (hm : 0 < m) (hfits : Fits m q) :
    (10 : ℚ) ^ (-331 : Int) < x := by
  have hm' : (1 : ℚ) ≤ m := by exact_mod_cast hm
  have hq : (2 : ℚ) ^ (-1074 : Int) ≤ 2 ^ q := zpow_le_zpow_right₀ (by norm_num) hfits.least
  calc (10 : ℚ) ^ (-331 : Int) < 1 / 2 * 2 ^ (-1074 : Int) := by
        have hpow : 2 * (2 : Nat) ^ 1074 < 10 ^ 331 := by decide +kernel
        have hpow' : 2 * (2 : ℚ) ^ 1074 < 10 ^ 331 := by exact_mod_cast hpow
        rw [zpow_neg, zpow_neg, one_div, ← mul_inv]
        exact inv_strictAnti₀ (by positivity) (by exact_mod_cast hpow')
    _ ≤ (m - reach m q) * 2 ^ q := by
        refine mul_le_mul ?_ hq (by positivity) ?_
        · linarith [reach_le m q]
        · linarith [reach_le m q]
    _ ≤ x := h.low_le

theorem coefficient_pos {n : Nat} {e : Int} (h : RoundsTo m q (n * 10 ^ e)) (hm : 0 < m)
    (hfits : Fits m q) : 0 < n := by
  refine Nat.pos_of_ne_zero fun hzero => ?_
  have hleast := h.least_lt hm hfits
  rw [hzero, Nat.cast_zero, zero_mul] at hleast
  exact absurd hleast (not_lt.mpr (by positivity))

end Double.RoundsTo

/-- A decimal lies between the powers of ten that its digits reach. -/
theorem Decimal.between_pows {n : Nat} (hn : 0 < n) (e : Int) :
    (10 : ℚ) ^ (((digits n).length : Int) + e - 1) ≤ n * 10 ^ e ∧
      (n * 10 ^ e : ℚ) < 10 ^ (((digits n).length : Int) + e) := by
  have hsize : 0 < (digits n).length := Nat.length_toDigits_pos
  constructor
  · have hpow : ((10 : ℚ) ^ ((digits n).length - 1)) ≤ n := by
      exact_mod_cast pow_length_digits_le hn
    have hsplit : (10 : ℚ) ^ (((digits n).length : Int) + e - 1) =
        10 ^ ((digits n).length - 1) * 10 ^ e := by
      rw [← zpow_natCast, ← zpow_add₀ (by norm_num)]
      congr 1
      omega
    rw [hsplit]
    exact mul_le_mul_of_nonneg_right hpow (by positivity)
  · have hpow : (n : ℚ) < 10 ^ (digits n).length := by exact_mod_cast lt_pow_length_digits n
    rw [zpow_add₀ (by norm_num), zpow_natCast]
    exact mul_lt_mul_of_pos_right hpow (by positivity)

/-- Every decimal in the interval of a number is read as the number. -/
theorem Double.ofDecimal_of_roundsTo {n : Nat} {e : Int} (hn : 0 < n) (hm : 0 < m)
    (hfits : Fits m q) (h : RoundsTo m q (n * 10 ^ e)) (negative : Bool) :
    ofDecimal negative n e = ofMagnitude negative (magnitude m q) := by
  obtain ⟨hlow, hhigh⟩ := Decimal.between_pows hn e
  have hlargest := h.lt_greatest hfits
  have hleast := h.least_lt hm hfits
  have hnotInfinite : ¬ 310 < ((Decimal.digits n).length : Int) + e := by
    have := (zpow_lt_zpow_iff_right₀ (by norm_num : (1 : ℚ) < 10)).mp (hlow.trans_lt hlargest)
    omega
  have hnotZero : ¬ ((Decimal.digits n).length : Int) + e < -330 := by
    have := (zpow_lt_zpow_iff_right₀ (by norm_num : (1 : ℚ) < 10)).mp (hleast.trans hhigh)
    omega
  unfold ofDecimal
  rw [if_neg hn.ne']
  dsimp only
  rw [← Decimal.digits, if_neg hnotInfinite, if_neg hnotZero]
  split
  · next he =>
    obtain ⟨k, rfl⟩ := Int.eq_ofNat_of_zero_le he
    refine ofQuotient_of_roundsTo (Nat.mul_pos hn (Nat.pow_pos (by norm_num))) Nat.one_pos hfits ?_
      negative
    simpa using h
  · next he =>
    obtain ⟨k, rfl⟩ : ∃ k : Nat, e = -k := ⟨e.natAbs, by omega⟩
    refine ofQuotient_of_roundsTo hn (Nat.pow_pos (by norm_num)) hfits ?_ negative
    simpa [div_eq_mul_inv] using h

end LayerDoc
