import LayerDoc.Decimal.Double

/-!
# The fewest digits that read back

Every finite number of the binary format lies in an interval of real numbers that round to it.
Among the decimal numbers in that interval one with the fewest digits is chosen, and of those the
nearest to the number itself. A record of the format's own decisions then lays out the digits.
-/

namespace LayerDoc

/-- The decimal number `coefficient * 10 ^ exponent`. -/
structure Decimal where
  coefficient : Nat
  exponent : Int
  deriving DecidableEq, Repr

namespace Decimal

/-- The decimal digits of a whole number. -/
def digits (n : Nat) : List Char := Nat.toDigits 10 n

/-- `num / den` measured in units of `10 ^ e`. -/
def inUnits (num den : Nat) (e : Int) : Nat × Nat :=
  if 0 ≤ e then (num, den * Nat.pow 10 e.toNat) else (num * Nat.pow 10 (-e).toNat, den)

/-- The place of the leading digit: the `p` with `10 ^ (p - 1) ≤ num / den < 10 ^ p`. -/
def leadingPlace (num den : Nat) : Int :=
  if den ≤ num then (digits (num / den)).length
  else
    let k : Int := (digits (den / num)).length
    if num * Nat.pow 10 (k - 1).toNat < den then 1 - k else 2 - k

/-- The interval of reals that round to `m * 2 ^ q`, over one denominator: its two ends, the
number itself, and the denominator. The step below a power of two is half as long. -/
structure Interval where
  low : Nat
  value : Nat
  high : Nat
  den : Nat
  closed : Bool

/-- The interval of a positive finite number. -/
def Interval.around (m : Nat) (q : Int) : Interval :=
  let below := if m = Nat.pow 2 52 ∧ -1074 < q then 1 else 2
  let up := if 0 ≤ q then Nat.pow 2 q.toNat else 1
  let down := if 0 ≤ q then 1 else Nat.pow 2 (-q).toNat
  ⟨(4 * m - below) * up, 4 * m * up, (4 * m + 2) * up, 4 * down, m % 2 = 0⟩

/-- Whether `c * 10 ^ e` lies in the interval. -/
def Interval.holds (i : Interval) (c : Nat) (e : Int) : Bool :=
  let num := if 0 ≤ e then c * Nat.pow 10 e.toNat * i.den else c * i.den
  let unit := if 0 ≤ e then 1 else Nat.pow 10 (-e).toNat
  if i.closed then i.low * unit ≤ num && num ≤ i.high * unit
  else i.low * unit < num && num < i.high * unit

/-- The point of the grid of step `10 ^ e` that lies in the interval and is nearest to the number,
if there is one; a tie goes to the even point. -/
def Interval.onGrid (i : Interval) (e : Int) : Option Nat :=
  let u := inUnits i.value i.den e
  let c := u.1 / u.2
  let rest := u.1 % u.2
  match i.holds c e, i.holds (c + 1) e with
  | true, true =>
    if 2 * rest < u.2 then some c
    else if u.2 < 2 * rest then some (c + 1)
    else if c % 2 = 0 then some c else some (c + 1)
  | true, false => some c
  | false, true => some (c + 1)
  | false, false => none

/-- The first of the grids of `n`, `n + 1`, … digits that meets the interval. -/
def Interval.firstGrid (i : Interval) (place : Int) : Nat → Nat → Decimal
  | 0, n =>
    ⟨(inUnits i.value i.den (place - n)).1 / (inUnits i.value i.den (place - n)).2, place - n⟩
  | fuel + 1, n =>
    match i.onGrid (place - n) with
    | some c => ⟨c, place - n⟩
    | none => i.firstGrid place fuel (n + 1)

/-- The shortest decimal that reads back as the positive number `m * 2 ^ q`. Seventeen digits
always suffice. -/
def shortest (m : Nat) (q : Int) : Decimal :=
  let i := Interval.around m q
  i.firstGrid (leadingPlace i.value i.den) 17 1

/-- How a format lays out the digits of a number. -/
structure Layout where
  /-- The least decimal exponent written with leading zeros. -/
  lowestPositional : Int
  /-- The least decimal exponent that is too large to be written out. -/
  firstScientific : Int
  /-- Whether a single digit before an exponent is followed by `.0`. -/
  pointBeforeExponent : Bool
  infinite : String
  nan : String

/-- Digits without the zeros at the end, at least one. -/
def trimmed (ds : List Char) : List Char :=
  match (ds.reverse.dropWhile (· == '0')).reverse with
  | [] => ['0']
  | kept => kept

/-- The exponent part: a sign and at least two digits. -/
def exponentText (e : Int) : String :=
  let ds := digits e.natAbs
  "e" ++ (if e < 0 then "-" else "+") ++ (if ds.length < 2 then "0" else "") ++ String.ofList ds

/-- Lay out a nonnegative decimal. -/
def text (layout : Layout) (d : Decimal) : String :=
  let all := digits d.coefficient
  let ds := trimmed all
  let e : Int := if d.coefficient = 0 then 0 else d.exponent + all.length - 1
  if layout.lowestPositional ≤ e ∧ e < layout.firstScientific then
    if 0 ≤ e then
      let whole := e.toNat + 1
      let front := ds.take whole ++ List.replicate (whole - ds.length) '0'
      let back := ds.drop whole
      String.ofList front ++ "." ++ (if back.isEmpty then "0" else String.ofList back)
    else
      "0." ++ String.ofList (List.replicate ((-e).toNat - 1) '0') ++ String.ofList ds
  else
    match ds with
    | [] => ""
    | first :: [] =>
      String.ofList [first] ++ (if layout.pointBeforeExponent then ".0" else "") ++ exponentText e
    | first :: rest => String.ofList [first] ++ "." ++ String.ofList rest ++ exponentText e

end Decimal

/-- The text of a floating point number in a layout. -/
def Double.text (layout : Decimal.Layout) (d : Double) : String :=
  match d.content with
  | .nan => layout.nan
  | .infinite negative => (if negative then "-" else "") ++ layout.infinite
  | .finite negative m q =>
    (if negative then "-" else "") ++
      (if m = 0 then Decimal.text layout ⟨0, 0⟩ else (Decimal.shortest m q).text layout)

/-- Program text writes numbers from `1e-04` up to below `1e+16` in full, always with a digit
after the point, and all others with an exponent of at least two digits. -/
def Decimal.Layout.code : Decimal.Layout := ⟨-4, 16, false, "inf", "nan"⟩

end LayerDoc
