import LayerDoc.Text.Character
import LayerDoc.Text.Encoding
import LayerDoc.Value
import LayerDoc.Yaml.Tag

/-!
# Values of scalars

What a scalar stands for, once its tag says of what kind it is. A scalar with a tag may have forms
that no plain scalar has: digits of all scripts, white space around a number, and a second sign.
-/

namespace LayerDoc.Yaml

/-! ## Whole numbers -/

/-- The letter after a zero in front of a numeral in a base. -/
def baseLetter? (base : Nat) : Option Char :=
  if base = 2 then some 'b' else if base = 8 then some 'o' else if base = 16 then some 'x' else none

/-- A numeral without the letter of its base and the zero before it. -/
def withoutBase (base : Nat) : List Char → List Char
  | '0' :: c :: rest => if baseLetter? base = some c.toLower then rest else '0' :: c :: rest
  | cs => cs

/-- The number that digits in a base stand for. -/
def baseValue? (base : Nat) (cs : List Char) : Option Nat :=
  if cs.isEmpty then none
  else cs.foldlM (fun n c => do
    let d ← Json.hexDigit? c
    if d < base then some (n * base + d) else none) 0

/-- The most digits of a numeral in base ten. -/
def mostDigits : Nat := 4300

/-- A text as numerals have it: without white space around it, and with the usual digits. -/
def numeralOf (cs : List Char) : List Char :=
  (Text.stripped Text.isWhiteSpace cs).map Text.usualDigit

/-- Whether a text has a minus sign in front, and the text after its sign. -/
def splitSign (cs : List Char) : Bool × List Char := (cs.head? = some '-', Kind.afterSign cs)

/-- A number with a sign. -/
def signed (negative : Bool) (n : Int) : Int := if negative then -n else n

/-- The whole number that a numeral in a base stands for. -/
def numeralValue? (base : Nat) (cs : List Char) : Option Int :=
  let (negative, digits) := splitSign (numeralOf cs)
  if base = 10 && mostDigits < digits.length then none
  else (baseValue? base (withoutBase base digits)).map fun n => signed negative n

/-- The number in base sixty whose digits, from the first to the last, are given. -/
def sexagesimal (digits : List Int) : Int := digits.foldl (fun n d => n * 60 + d) 0

/-- The number that a whole number stands for. -/
def intValue (cs : List Char) : Except ScalarFault Int :=
  let whole := cs.filter (· ≠ '_')
  let (negative, ds) := splitSign whole
  let orFail (n : Option Int) : Except ScalarFault Int :=
    match n with
    | some n => .ok (signed negative n)
    | none => .error .wrongForm
  match ds with
  | [] => .error .noDigits
  | ['0'] => .ok 0
  | '0' :: 'b' :: rest => orFail (numeralValue? 2 rest)
  | '0' :: 'x' :: rest => orFail (numeralValue? 16 rest)
  | '0' :: _ => orFail (numeralValue? 8 ds)
  | _ =>
    match Kind.colonParts ds with
    | [_] => orFail (numeralValue? 10 ds)
    | parts => orFail ((parts.mapM (numeralValue? 10)).map sexagesimal)

/-! ## Numbers with fractions -/

/-- The number nearest to a decimal numeral. -/
def decimalValue? (negative : Bool) (cs : List Char) : Option Double :=
  let whole := cs.takeWhile (·.isDigit)
  let (fraction, rest) : List Char × List Char :=
    match cs.dropWhile (·.isDigit) with
    | '.' :: rest => (rest.takeWhile (·.isDigit), rest.dropWhile (·.isDigit))
    | rest => ([], rest)
  if whole.isEmpty && fraction.isEmpty then none
  else
    let make (exponent : Int) : Double :=
      Double.ofDecimal negative (Json.digitsValue (whole ++ fraction)) (exponent - fraction.length)
    match rest with
    | [] => some (make 0)
    | e :: rest =>
      if e ≠ 'e' ∧ e ≠ 'E' then none
      else
        let ds := Kind.afterSign rest
        if ds.isEmpty || !ds.all (·.isDigit) then none
        else
          let n : Int := Json.digitsValue ds
          some (make (if rest.head? = some '-' then -n else n))

/-- The number that a numeral, in small letters, stands for: a decimal one or a name. -/
def realValue? (cs : List Char) : Option Double :=
  let (negative, unsigned) := splitSign (numeralOf cs)
  if ["inf", "infinity"].contains (String.ofList unsigned) then some (Double.infinity negative)
  else if unsigned = "nan".toList then some Double.nan
  else decimalValue? negative unsigned

/-- The number in base sixty whose digits, from the last to the first, are given. Every place is
rounded on its own, and must be no larger than the largest number. -/
def sexagesimalReal : List Double → Nat → Double → Except ScalarFault Double
  | [], _, sum => .ok sum
  | d :: rest, place, sum =>
    let unit := Double.ofInt place
    if unit.isFinite then sexagesimalReal rest (place * 60) (sum.add (d.mul unit))
    else .error .tooLarge

/-- The number that a numeral with a fraction stands for. -/
def floatValue (cs : List Char) : Except ScalarFault Double :=
  let whole := (cs.filter (· ≠ '_')).map Char.toLower
  let (negative, ds) := splitSign whole
  let turned (d : Double) : Double := if negative then d.neg else d
  let orFail {α : Type} (a : Option α) : Except ScalarFault α :=
    match a with
    | some a => .ok a
    | none => .error .wrongForm
  if whole.isEmpty then .error .noDigits
  else if ds = ".inf".toList then .ok (Double.infinity negative)
  else if ds = ".nan".toList then .ok Double.nan
  else
    match Kind.colonParts ds with
    | [single] => do return turned (← orFail (realValue? single))
    | parts => do
      let digits ← orFail (parts.mapM realValue?)
      return turned (← sexagesimalReal digits.reverse 1 (Double.ofInt 0))

/-! ## Values -/

/-- The truth value that a word stands for, in any case. -/
def boolValue? (s : String) : Option Bool :=
  Kind.truthWords.lookup (String.ofList (s.toList.map Char.toLower))

/-- The date that a text stands for, which may end with a line feed. -/
def dateValue (cs : List Char) : Except ScalarFault Timestamp :=
  match Date.ofChars? (if cs.getLast? = some '\n' then cs.dropLast else cs) with
  | none => .error .noDate
  | some t => if t.isValid then .ok t else .error .wrongForm

/-- The value of a scalar of a kind. -/
def Kind.value (kind : Kind) (cs : List Char) : Except Error Value :=
  match kind with
  | .null => .ok .null
  | .bool =>
    match boolValue? (String.ofList cs) with
    | some b => .ok (.bool b)
    | none => .error (.scalar .unknownWord)
  | .int => ((intValue cs).map .int).mapError .scalar
  | .float => ((floatValue cs).map .float).mapError .scalar
  | .binary =>
    match if cs.all (·.toNat < 128) then Text.Base64.decode? cs else none with
    | some content => .ok (.bytes content)
    | none => .error .malformed
  | .timestamp => ((dateValue cs).map .moment).mapError .scalar
  | .text => .ok (.str (String.ofList cs))

end LayerDoc.Yaml
