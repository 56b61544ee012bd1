import LayerDoc.Decimal.Double
import Mathlib.Algebra.Order.Field.Basic
import Mathlib.Algebra.Order.Field.Rat
import Mathlib.Algebra.Order.Field.Power
import Mathlib.Data.Nat.Log
import Mathlib.Tactic.FieldSimp
import Mathlib.Tactic.Linarith
import Mathlib.Tactic.NormNum
import Mathlib.Tactic.Positivity
import Mathlib.Tactic.Ring

/-!
# Rounding to the nearest number

The numbers of the format are `m * 2 ^ q` with a significand `m` of at most fifty-three bits, and of
just as many unless `q` is the least exponent (`Double.Fits`). Each has an interval of rationals
around it, half way to its neighbours (`Double.RoundsTo`), and every quotient in that interval is
rounded to it (`Double.ofQuotient_of_roundsTo`).
-/

namespace LayerDoc.Double

/-- A significand and an exponent of the format. -/
structure Fits (m : Nat) (q : Int) : Prop where
  lt : m < 2 ^ 53
  least : -1074 ≤ q
  greatest : q ≤ 971
  full : 2 ^ 52 ≤ m ∨ q = -1074

/-- The bits of `m * 2 ^ q` but for the sign. -/
def magnitude (m : Nat) (q : Int) : Nat :=
  if m < 2 ^ 52 then m else (q + 1075).toNat * 2 ^ 52 + (m - 2 ^ 52)

/-- How far the interval of `m * 2 ^ q` reaches below it, in units of `2 ^ q`. The numbers below a
power of two are twice as dense. -/
def reach (m : Nat) (q : Int) : ℚ := if m = 2 ^ 52 ∧ -1074 < q then 1 / 4 else 1 / 2

/-- A rational is nearest to `m * 2 ^ q` among the numbers of the format. Half way to a neighbour it
goes to the even significand. -/
def RoundsTo (m : Nat) (q : Int) (x : ℚ) : Prop :=
  if m % 2 = 0 then (m - reach m q) * 2 ^ q ≤ x ∧ x ≤ (m + 1 / 2) * 2 ^ q
  else (m - reach m q) * 2 ^ q < x ∧ x < (m + 1 / 2) * 2 ^ q

variable {m : Nat} {q : Int} {x : ℚ}

namespace RoundsTo

theorem low_le (h : RoundsTo m q x) : (m - reach m q) * 2 ^ q ≤ x := by
  unfold RoundsTo at h
  split at h
  · exact h.1
  · exact h.1.le

theorem le_high (h : RoundsTo m q x) : x ≤ (m + 1 / 2) * 2 ^ q := by
  unfold RoundsTo at h
  split at h
  · exact h.2
  · exact h.2.le

end RoundsTo

theorem reach_le (m : Nat) (q : Int) : reach m q ≤ 1 / 2 := by
  unfold reach
  split <;> norm_num

theorem reach_pos (m : Nat) (q : Int) : 0 < reach m q := by
  unfold reach
  split <;> norm_num

theorem roundsTo_of_lt (hlow : (m - reach m q) * 2 ^ q < x) (hhigh : x < (m + 1 / 2) * 2 ^ q) :
    RoundsTo m q x := by
  unfold RoundsTo
  split
  · exact ⟨hlow.le, hhigh.le⟩
  · exact ⟨hlow, hhigh⟩

/-! ## The bits -/

/-- A finite number has the bits of its significand and its exponent. -/
theorem eq_ofMagnitude_of_content {d : Double} {negative : Bool}
    (h : d.content = .finite negative m q) :
    Fits m q ∧ d = ofMagnitude negative (magnitude m q) := by
  obtain ⟨bits⟩ := d
  have hbits : bits.toNat < 2 ^ 64 := bits.toNat_lt
  have hback : ∀ n, n = bits.toNat → (⟨bits⟩ : Double) = ⟨UInt64.ofNat n⟩ := by
    rintro n rfl
    rw [UInt64.ofNat_toNat]
  simp only [content, Nat.pow_eq, Nat.reducePow] at h
  simp only [Nat.reducePow] at hbits
  split at h
  · split at h <;> cases h
  · next hfield =>
    split at h
    · next hzero =>
      obtain ⟨rfl, rfl, rfl⟩ := Content.finite.inj h
      have hsmall : bits.toNat % 4503599627370496 < 2 ^ 52 := Nat.mod_lt _ (by norm_num)
      refine ⟨⟨by omega, by omega, by omega, Or.inr rfl⟩, hback _ ?_⟩
      rw [magnitude, if_pos hsmall]
      simp only [decide_eq_true_eq, Nat.pow_eq, Nat.reducePow]
      split <;> omega
    · obtain ⟨rfl, rfl, rfl⟩ := Content.finite.inj h
      have hlarge : ¬ 4503599627370496 + bits.toNat % 4503599627370496 < 2 ^ 52 := by omega
      refine ⟨⟨by omega, by omega, by omega, Or.inl (by omega)⟩, hback _ ?_⟩
      rw [magnitude, if_neg hlarge]
      simp only [decide_eq_true_eq, Nat.pow_eq, Nat.reducePow]
      split <;> omega

/-! ## Rounding to whole numbers -/

/-- A quotient less than a half from a whole number is rounded to it, and one a half from it if it
is even. -/
theorem roundQuotient_eq {num den : Nat} (hden : 0 < den) (hlow : 2 * (m * den) ≤ 2 * num + den)
    (hhigh : 2 * num ≤ 2 * (m * den) + den)
    (htie : m % 2 = 1 → 2 * (m * den) ≠ 2 * num + den ∧ 2 * num ≠ 2 * (m * den) + den) :
    roundQuotient num den = m := by
  have hdiv := Nat.div_add_mod num den
  have hrest := Nat.mod_lt num hden
  unfold roundQuotient
  simp only
  generalize num / den = whole at *
  generalize num % den = rest at *
  have hwhole : whole = m ∨ whole + 1 = m := by
    by_contra hnot
    rcases Nat.lt_or_ge m whole with hlt | hge
    · have hmul := Nat.mul_le_mul_right den hlt
      rw [Nat.succ_mul, Nat.mul_comm whole] at hmul
      omega
    · have hlt : whole + 2 ≤ m := by omega
      have hmul := Nat.mul_le_mul_right den hlt
      rw [Nat.add_mul, Nat.mul_comm whole] at hmul
      omega
  rcases hwhole with rfl | rfl
  · have hprod : whole * den = den * whole := Nat.mul_comm _ _
    rw [hprod] at hlow hhigh htie
    split
    · rfl
    · split
      · omega
      · split
        · rfl
        · omega
  · have hprod : (whole + 1) * den = den * whole + den := by rw [Nat.add_mul, Nat.mul_comm]; omega
    rw [hprod] at hlow hhigh htie
    split
    · omega
    · split
      · rfl
      · split
        · omega
        · rfl

/-! ## The exponent -/

/-- `num / den` divided by a power of `base`, again as a quotient of whole numbers. -/
def shifted (base num den : Nat) (e : Int) : Nat × Nat :=
  if 0 ≤ e then (num, den * Nat.pow base e.toNat) else (num * Nat.pow base (-e).toNat, den)

theorem shifted_den_pos {base : Nat} (hbase : 0 < base) (num : Nat) {den : Nat} (hden : 0 < den)
    (e : Int) : 0 < (shifted base num den e).2 := by
  unfold shifted
  split
  · exact Nat.mul_pos hden (Nat.pow_pos hbase)
  · exact hden

theorem shifted_quotient (base num den : Nat) (e : Int) :
    ((shifted base num den e).1 : ℚ) / (shifted base num den e).2 = num / den / base ^ e := by
  unfold shifted
  split
  · next h =>
    obtain ⟨k, rfl⟩ := Int.eq_ofNat_of_zero_le h
    simp only [Int.toNat_natCast, Nat.pow_eq, Nat.cast_mul, Nat.cast_pow, zpow_natCast, div_div]
  · next h =>
    obtain ⟨k, rfl⟩ : ∃ k : Nat, e = -k := ⟨e.natAbs, by omega⟩
    simp only [neg_neg, Int.toNat_natCast, Nat.pow_eq, Nat.cast_mul, Nat.cast_pow, zpow_neg,
      zpow_natCast, div_inv_eq_mul]
    ring

theorem scaled_den_pos (num : Nat) {den : Nat} (hden : 0 < den) (q : Int) :
    0 < (scaled num den q).2 := shifted_den_pos Nat.two_pos num hden q

theorem scaled_quotient (num den : Nat) (q : Int) :
    ((scaled num den q).1 : ℚ) / (scaled num den q).2 = num / den / 2 ^ q :=
  shifted_quotient 2 num den q

/-- The binary logarithms of two numbers tell their quotient up to a factor of two. -/
theorem quotient_between {num den : Nat} (hnum : 0 < num) (hden : 0 < den) :
    (2 : ℚ) ^ ((Nat.log2 num : Int) - Nat.log2 den - 1) < num / den ∧
      (num / den : ℚ) < 2 ^ ((Nat.log2 num : Int) - Nat.log2 den + 1) := by
  have hnumlow : (2 : ℚ) ^ Nat.log2 num ≤ num := by
    exact_mod_cast Nat.log2_self_le hnum.ne'
  have hnumhigh : (num : ℚ) < 2 ^ (Nat.log2 num + 1) := by exact_mod_cast Nat.lt_log2_self
  have hdenlow : (2 : ℚ) ^ Nat.log2 den ≤ den := by
    exact_mod_cast Nat.log2_self_le hden.ne'
  have hdenhigh : (den : ℚ) < 2 ^ (Nat.log2 den + 1) := by exact_mod_cast Nat.lt_log2_self
  have hpos : (0 : ℚ) < den := by exact_mod_cast hden
  constructor
  · have hsplit : (2 : ℚ) ^ ((Nat.log2 num : Int) - Nat.log2 den - 1) * 2 ^ (Nat.log2 den + 1) =
        2 ^ Nat.log2 num := by
      rw [← zpow_natCast, ← zpow_natCast, ← zpow_add₀ (by norm_num)]
      congr 1
      push_cast
      ring
    rw [lt_div_iff₀ hpos]
    calc (2 : ℚ) ^ ((Nat.log2 num : Int) - Nat.log2 den - 1) * den
        < 2 ^ ((Nat.log2 num : Int) - Nat.log2 den - 1) * 2 ^ (Nat.log2 den + 1) :=
          mul_lt_mul_of_pos_left hdenhigh (by positivity)
      _ = 2 ^ Nat.log2 num := hsplit
      _ ≤ num := hnumlow
  · have hsplit : (2 : ℚ) ^ ((Nat.log2 num : Int) - Nat.log2 den + 1) * 2 ^ Nat.log2 den =
        2 ^ (Nat.log2 num + 1) := by
      rw [← zpow_natCast, ← zpow_natCast, ← zpow_add₀ (by norm_num)]
      congr 1
      push_cast
      ring
    rw [div_lt_iff₀ hpos]
    calc (num : ℚ) < 2 ^ (Nat.log2 num + 1) := hnumhigh
      _ = 2 ^ ((Nat.log2 num : Int) - Nat.log2 den + 1) * 2 ^ Nat.log2 den := hsplit.symm
      _ ≤ 2 ^ ((Nat.log2 num : Int) - Nat.log2 den + 1) * den :=
          mul_le_mul_of_nonneg_left hdenlow (by positivity)

/-- The exponent is the one at which a quotient has fifty-three binary digits, unless that is too
small. -/
theorem exponentFor_eq_max {num den : Nat} (hnum : 0 < num) (hden : 0 < den) :
    ∃ r : Int, exponentFor num den = max r (-1074) ∧ (2 : ℚ) ^ 52 * 2 ^ r ≤ num / den ∧
      (num / den : ℚ) < 2 ^ 53 * 2 ^ r := by
  obtain ⟨hlow, hhigh⟩ := quotient_between hnum hden
  have hshift : ∀ (a : Nat) (b : Int), (2 : ℚ) ^ a * 2 ^ b = 2 ^ ((a : Int) + b) := by
    intro a b
    rw [zpow_add₀ (by norm_num), zpow_natCast]
  have hdigits : (scaled num den ((Nat.log2 num : Int) - Nat.log2 den - 52)).1 /
        (scaled num den ((Nat.log2 num : Int) - Nat.log2 den - 52)).2 < 2 ^ 52 ↔
      (num / den : ℚ) < 2 ^ 52 * 2 ^ ((Nat.log2 num : Int) - Nat.log2 den - 52) := by
    have hpos := scaled_den_pos num hden ((Nat.log2 num : Int) - Nat.log2 den - 52)
    have hpos' : (0 : ℚ) < (scaled num den ((Nat.log2 num : Int) - Nat.log2 den - 52)).2 := by
      exact_mod_cast hpos
    rw [Nat.div_lt_iff_lt_mul hpos, ← div_lt_iff₀ (by positivity), ← scaled_quotient,
      div_lt_iff₀ hpos']
    exact_mod_cast Iff.rfl
  unfold exponentFor
  simp only [Nat.pow_eq, hdigits]
  split
  · next hless =>
    refine ⟨_, rfl, ?_, ?_⟩
    · rw [hshift]
      refine le_of_eq_of_le ?_ hlow.le
      congr 1
      push_cast
      ring
    · refine lt_of_lt_of_eq hless ?_
      rw [hshift, hshift]
      congr 1
      push_cast
      ring
  · next hmore =>
    refine ⟨_, rfl, not_lt.mp hmore, ?_⟩
    refine lt_of_lt_of_eq hhigh ?_
    rw [hshift]
    congr 1
    push_cast
    ring

/-- What has fifty-three digits at an exponent has no fewer at a smaller one. -/
theorem exponent_le {r : Int} (hlow : (2 : ℚ) ^ 52 * 2 ^ q ≤ x) (hhigh : x < 2 ^ 53 * 2 ^ r) :
    q ≤ r := by
  have hless : (2 : ℚ) ^ ((52 : Int) + q) < 2 ^ ((53 : Int) + r) := by
    rw [zpow_add₀ (by norm_num), zpow_add₀ (by norm_num)]
    exact lt_of_le_of_lt (by exact_mod_cast hlow) (by exact_mod_cast hhigh)
  have := (zpow_lt_zpow_iff_right₀ (by norm_num : (1 : ℚ) < 2)).mp hless
  omega

section

variable {num den : Nat} (hnum : 0 < num) (hden : 0 < den)

include hnum hden

theorem exponentFor_eq (hleast : -1074 ≤ q) (hlow : (2 : ℚ) ^ 52 * 2 ^ q ≤ num / den)
    (hhigh : (num / den : ℚ) < 2 ^ 53 * 2 ^ q) : exponentFor num den = q := by
  obtain ⟨r, hr, hrlow, hrhigh⟩ := exponentFor_eq_max hnum hden
  have hle := exponent_le hlow hrhigh
  have hge := exponent_le hrlow hhigh
  omega

theorem exponentFor_eq_least (hhigh : (num / den : ℚ) < 2 ^ 53 * 2 ^ (-1074 : Int)) :
    exponentFor num den = -1074 := by
  obtain ⟨r, hr, hrlow, -⟩ := exponentFor_eq_max hnum hden
  have hge := exponent_le hrlow hhigh
  omega

end

/-! ## Rounding to the format -/

theorem roundQuotient_scaled {num den : Nat} (hden : 0 < den)
    (hlow : (m - 1 / 2) * 2 ^ q ≤ (num / den : ℚ)) (hhigh : (num / den : ℚ) ≤ (m + 1 / 2) * 2 ^ q)
    (htie : m % 2 = 1 →
      (m - 1 / 2) * 2 ^ q < (num / den : ℚ) ∧ (num / den : ℚ) < (m + 1 / 2) * 2 ^ q) :
    roundQuotient (scaled num den q).1 (scaled num den q).2 = m := by
  have hpos := scaled_den_pos num hden q
  have hpos' : (0 : ℚ) < (scaled num den q).2 := by exact_mod_cast hpos
  have hunit : (0 : ℚ) < 2 ^ q := by positivity
  have hquotient := scaled_quotient num den q
  rw [← le_div_iff₀ hunit, ← hquotient, le_div_iff₀ hpos'] at hlow
  rw [← div_le_iff₀ hunit, ← hquotient, div_le_iff₀ hpos'] at hhigh
  rw [← lt_div_iff₀ hunit, ← hquotient, lt_div_iff₀ hpos', ← div_lt_iff₀ hunit, ← hquotient,
    div_lt_iff₀ hpos'] at htie
  have hlow' : (2 * (m * (scaled num den q).2) : ℚ) ≤
      2 * (scaled num den q).1 + (scaled num den q).2 := by linarith
  have hhigh' : (2 * (scaled num den q).1 : ℚ) ≤
      2 * (m * (scaled num den q).2) + (scaled num den q).2 := by linarith
  refine roundQuotient_eq hpos (by exact_mod_cast hlow') (by exact_mod_cast hhigh') fun hodd => ?_
  obtain ⟨htlow, hthigh⟩ := htie hodd
  have htlow' : (2 * (m * (scaled num den q).2) : ℚ) <
      2 * (scaled num den q).1 + (scaled num den q).2 := by linarith
  have hthigh' : (2 * (scaled num den q).1 : ℚ) <
      2 * (m * (scaled num den q).2) + (scaled num den q).2 := by linarith
  exact ⟨(by exact_mod_cast htlow' : (_ : Nat) < _).ne,
    (by exact_mod_cast hthigh' : (_ : Nat) < _).ne⟩

theorem ofQuotient_eq {num den n : Nat} {r : Int} (hnum : 0 < num) (hr : exponentFor num den = r)
    (hn : roundQuotient (scaled num den r).1 (scaled num den r).2 = n)
    (hsmall : n < 2 ^ 52 ∨ (r + 1075).toNat * 2 ^ 52 + (n - 2 ^ 52) < 2047 * 2 ^ 52)
    (negative : Bool) :
    ofQuotient negative num den =
      ofMagnitude negative
        (if n < 2 ^ 52 then n else (r + 1075).toNat * 2 ^ 52 + (n - 2 ^ 52)) := by
  unfold ofQuotient
  simp only [Nat.pow_eq, hr, hn, if_neg hnum.ne']
  by_cases hlt : n < 2 ^ 52
  · rw [if_pos hlt, if_pos hlt]
  · rw [if_neg hlt, if_neg hlt, if_neg (by omega)]

/-- Below a power of two the exponent is one less, and a quotient that is near enough is rounded up
to the power. -/
theorem ofQuotient_below_power {num den : Nat} (hnum : 0 < num) (hden : 0 < den)
    (hleast : -1074 < q)
    (hgreatest : q ≤ 971) (hlow : (2 ^ 52 - 1 / 4) * 2 ^ q ≤ (num / den : ℚ))
    (hhigh : (num / den : ℚ) < 2 ^ 52 * 2 ^ q) (negative : Bool) :
    ofQuotient negative num den = ofMagnitude negative (magnitude (2 ^ 52) q) := by
  have hhalf : (2 : ℚ) ^ q = 2 * 2 ^ (q - 1) := by
    rw [zpow_sub_one₀ (by norm_num)]
    ring
  rw [hhalf] at hlow hhigh
  have hexp : exponentFor num den = q - 1 := by
    refine exponentFor_eq hnum hden (by omega) ?_ ?_
    · refine le_trans ?_ hlow
      rw [← mul_assoc]
      exact mul_le_mul_of_nonneg_right (by norm_num) (by positivity)
    · refine lt_of_lt_of_eq hhigh ?_
      ring
  have hup : roundQuotient (scaled num den (q - 1)).1 (scaled num den (q - 1)).2 = 2 ^ 53 := by
    refine roundQuotient_scaled hden ?_ ?_ (fun hodd => by omega)
    · refine le_of_eq_of_le ?_ hlow
      push_cast
      ring
    · refine hhigh.le.trans ?_
      rw [← mul_assoc]
      exact mul_le_mul_of_nonneg_right (by norm_num) (by positivity)
  have hbits : (q - 1 + 1075).toNat * 2 ^ 52 + (2 ^ 53 - 2 ^ 52) = (q + 1075).toNat * 2 ^ 52 := by
    omega
  have hfinite : (q + 1075).toNat * 2 ^ 52 < 2047 * 2 ^ 52 := by omega
  have hlarge : ¬ (2 : Nat) ^ 53 < 2 ^ 52 := by norm_num
  have hsame : ¬ (2 : Nat) ^ 52 < 2 ^ 52 := lt_irrefl _
  rw [ofQuotient_eq hnum hexp hup (Or.inr (hbits.trans_lt hfinite)) negative, if_neg hlarge, hbits,
    magnitude, if_neg hsame, Nat.sub_self, Nat.add_zero]

theorem reach_of_ne (h : m ≠ 2 ^ 52) : reach m q = 1 / 2 := by
  rw [reach, if_neg fun hboth => h hboth.1]

/-- Only the interval of a power of two reaches below that power. -/
theorem RoundsTo.eq_two_pow_of_lt (h : RoundsTo m q x) (hfull : 2 ^ 52 ≤ m)
    (hless : x < 2 ^ 52 * 2 ^ q) : m = 2 ^ 52 := by
  by_contra hne
  have hlow := h.low_le
  rw [reach_of_ne hne] at hlow
  have hmore : (2 : ℚ) ^ 52 + 1 ≤ m := by exact_mod_cast (by omega : 2 ^ 52 + 1 ≤ m)
  have hle : (2 : ℚ) ^ 52 * 2 ^ q ≤ (m - 1 / 2) * 2 ^ q :=
    mul_le_mul_of_nonneg_right (by linarith) (by positivity)
  exact absurd hless (not_lt.mpr (hle.trans hlow))

/-- Every quotient in the interval of a number is rounded to it. -/
theorem ofQuotient_of_roundsTo {num den : Nat} (hnum : 0 < num) (hden : 0 < den) (hfits : Fits m q)
    (h : RoundsTo m q (num / den)) (negative : Bool) :
    ofQuotient negative num den = ofMagnitude negative (magnitude m q) := by
  have hunit : (0 : ℚ) < 2 ^ q := by positivity
  have hm : (m : ℚ) + 1 ≤ 2 ^ 53 := by exact_mod_cast hfits.lt
  have hbelow : (num / den : ℚ) < 2 ^ 53 * 2 ^ q := by
    refine lt_of_le_of_lt h.le_high (mul_lt_mul_of_pos_right ?_ hunit)
    linarith
  have hnotInfinite : m < 2 ^ 52 ∨ (q + 1075).toNat * 2 ^ 52 + (m - 2 ^ 52) < 2047 * 2 ^ 52 := by
    obtain ⟨hlt, hleast, hgreatest, hfull⟩ := hfits
    omega
  have hnear : (m - 1 / 2) * 2 ^ q ≤ (num / den : ℚ) := by
    refine le_trans (mul_le_mul_of_nonneg_right ?_ hunit.le) h.low_le
    linarith [reach_le m q]
  have htie : m % 2 = 1 →
      (m - 1 / 2) * 2 ^ q < (num / den : ℚ) ∧ (num / den : ℚ) < (m + 1 / 2) * 2 ^ q := by
    intro hodd
    have hreach : reach m q = 1 / 2 := reach_of_ne (by omega)
    unfold RoundsTo at h
    rwa [if_neg (by omega), hreach] at h
  -- what is rounded at the exponent itself
  have hround := roundQuotient_scaled hden hnear h.le_high htie
  by_cases hleast : q = -1074
  · have hexp : exponentFor num den = q := by
      rw [hleast] at hbelow ⊢
      exact exponentFor_eq_least hnum hden hbelow
    exact ofQuotient_eq hnum hexp hround hnotInfinite negative
  · have hfull : 2 ^ 52 ≤ m := hfits.full.resolve_right hleast
    have hless : -1074 < q := lt_of_le_of_ne hfits.least (Ne.symm hleast)
    by_cases hdigits : (2 : ℚ) ^ 52 * 2 ^ q ≤ num / den
    · have hexp := exponentFor_eq hnum hden hfits.least hdigits hbelow
      exact ofQuotient_eq hnum hexp hround hnotInfinite negative
    · rw [not_le] at hdigits
      have hpower := h.eq_two_pow_of_lt hfull hdigits
      subst hpower
      have hlow := h.low_le
      rw [reach, if_pos ⟨rfl, hless⟩] at hlow
      push_cast at hlow
      exact ofQuotient_below_power hnum hden hless hfits.greatest hlow hdigits negative

end LayerDoc.Double
