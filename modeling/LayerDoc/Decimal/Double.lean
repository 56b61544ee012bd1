/-!
# Binary floating point numbers

A number of 64 bits in the usual binary format: a sign, eleven bits of exponent and fifty-two bits
of fraction. Every finite one is `m * 2 ^ q` for whole numbers `m` and `q`, and all arithmetic
here is exact arithmetic on such pairs followed by one rounding.
-/

namespace LayerDoc

/-- A floating point number, as its 64 bits. -/
structure Double where
  bits : UInt64
  deriving DecidableEq, Repr, Inhabited

namespace Double

/-- What a number's bits stand for. A finite number is `significand * 2 ^ exponent`. -/
inductive Content where
  | finite (negative : Bool) (significand : Nat) (exponent : Int)
  | infinite (negative : Bool)
  | nan
  deriving DecidableEq, Repr

/-- Read the sign, the exponent and the fraction off the bits. -/
def content (d : Double) : Content :=
  let n := d.bits.toNat
  let negative : Bool := Nat.pow 2 63 ≤ n
  let field : Nat := n / Nat.pow 2 52 % Nat.pow 2 11
  let fraction : Nat := n % Nat.pow 2 52
  if field = 2047 then
    if fraction = 0 then .infinite negative else .nan
  else if field = 0 then .finite negative fraction (-1074)
  else .finite negative (Nat.pow 2 52 + fraction) ((field : Int) - 1075)

/-- The bits of a number of the given sign whose other sixty-three bits are `magnitude`. -/
def ofMagnitude (negative : Bool) (magnitude : Nat) : Double :=
  ⟨UInt64.ofNat ((if negative then Nat.pow 2 63 else 0) + magnitude)⟩

/-- The infinity of the given sign. -/
def infinity (negative : Bool) : Double := ofMagnitude negative (2047 * Nat.pow 2 52)

/-- One of the bit patterns that stand for no number. -/
def nan : Double := ofMagnitude false (2047 * Nat.pow 2 52 + Nat.pow 2 51)

/-- The whole number nearest to `num / den`, a half going to the even neighbour. -/
def roundQuotient (num den : Nat) : Nat :=
  let whole := num / den
  let rest := num % den
  if 2 * rest < den then whole
  else if den < 2 * rest then whole + 1
  else if whole % 2 = 0 then whole else whole + 1

/-- `num / den` divided by `2 ^ q`, again as a quotient of whole numbers. -/
def scaled (num den : Nat) (q : Int) : Nat × Nat :=
  if 0 ≤ q then (num, den * Nat.pow 2 q.toNat) else (num * Nat.pow 2 (-q).toNat, den)

/-- The exponent at which `num / den` has fifty-three binary digits, but never under `-1074`. -/
def exponentFor (num den : Nat) : Int :=
  let q := (Nat.log2 num : Int) - (Nat.log2 den : Int) - 52
  let s := scaled num den q
  max (if s.1 / s.2 < Nat.pow 2 52 then q - 1 else q) (-1074)

/-- The number nearest to the quotient `num / den` (with `den` positive) of the given sign; a tie
goes to the even significand, and what is too large becomes infinite. -/
def ofQuotient (negative : Bool) (num den : Nat) : Double :=
  if num = 0 then ofMagnitude negative 0
  else
    let q := exponentFor num den
    let s := scaled num den q
    let m := roundQuotient s.1 s.2
    if m < Nat.pow 2 52 then ofMagnitude negative m
    else
      let magnitude := (q + 1075).toNat * Nat.pow 2 52 + (m - Nat.pow 2 52)
      if 2047 * Nat.pow 2 52 ≤ magnitude then infinity negative
      else ofMagnitude negative magnitude

/-- The number nearest to `digits * 10 ^ exponent`. Exponents far outside the range of the format
are answered at once. -/
def ofDecimal (negative : Bool) (digits : Nat) (exponent : Int) : Double :=
  if digits = 0 then ofMagnitude negative 0
  else
    let size : Int := (Nat.toDigits 10 digits).length
    if 310 < size + exponent then infinity negative
    else if size + exponent < -330 then ofMagnitude negative 0
    else if 0 ≤ exponent then ofQuotient negative (digits * Nat.pow 10 exponent.toNat) 1
    else ofQuotient negative digits (Nat.pow 10 (-exponent).toNat)

/-- The number nearest to a whole number. -/
def ofInt (n : Int) : Double := ofQuotient (n < 0) n.natAbs 1

/-- Whether a number is a whole number, and which. -/
def toInt? (d : Double) : Option Int :=
  match d.content with
  | .finite negative m q =>
    let signed (n : Nat) : Int := if negative then -n else n
    if 0 ≤ q then some (signed (m * Nat.pow 2 q.toNat))
    else
      let unit := Nat.pow 2 (-q).toNat
      if m % unit = 0 then some (signed (m / unit)) else none
  | _ => none

/-- Whether the number is zero, of either sign. -/
def isZero (d : Double) : Bool := d.content matches .finite _ 0 _

/-- A finite number as a signed numerator over a positive denominator. -/
def quotient (d : Double) : Int × Nat :=
  match d.content with
  | .finite negative m q =>
    let s := scaled m 1 (-q)
    (if negative then -s.1 else s.1, s.2)
  | _ => (0, 1)

/-- Whether the number is neither an infinity nor what stands for no number. -/
def isFinite (d : Double) : Bool := d.content matches .finite ..

/-- Whether the number stands for no number. -/
def isNaN (d : Double) : Bool := d.content matches .nan

/-- The number nearest to the sum of two numbers. A sum of zero is negative only if both are. -/
def add (a b : Double) : Double :=
  match a.content, b.content with
  | .nan, _ => nan
  | _, .nan => nan
  | .infinite s, .infinite t => if s = t then a else nan
  | .infinite _, _ => a
  | _, .infinite _ => b
  | .finite s _ _, .finite t _ _ =>
    let p := a.quotient
    let r := b.quotient
    let num := p.1 * r.2 + r.1 * p.2
    if num = 0 then ofMagnitude (s && t && a.isZero) 0
    else ofQuotient (num < 0) num.natAbs (p.2 * r.2)

/-- The number nearest to the product of two numbers. -/
def mul (a b : Double) : Double :=
  match a.content, b.content with
  | .nan, _ => nan
  | _, .nan => nan
  | .infinite s, .infinite t => infinity (s != t)
  | .infinite s, .finite t m _ => if m = 0 then nan else infinity (s != t)
  | .finite s m _, .infinite t => if m = 0 then nan else infinity (s != t)
  | .finite s _ _, .finite t _ _ =>
    let p := a.quotient
    let r := b.quotient
    ofQuotient (s != t) (p.1.natAbs * r.1.natAbs) (p.2 * r.2)

/-- The same number with the other sign. -/
def neg (d : Double) : Double := ⟨d.bits ^^^ (0x8000000000000000 : UInt64)⟩

/-- Whether two numbers are equal as numbers; what stands for no number is equal to itself. -/
def same (a b : Double) : Bool := a.bits == b.bits || (a.isZero && b.isZero) || (a.isNaN && b.isNaN)

end Double

end LayerDoc
