import LayerDoc.Value

/-!
# Reading JSON

A reader of JSON texts by the standard grammar, and of the names of the numbers that are not finite.
A number with neither a point nor an exponent is a whole number of any size; any other is the
nearest floating point number. Of entries under one key the last wins, in the place of the first.
-/

namespace LayerDoc.Json

/-- What is left of a text after its blanks. -/
def skipBlanks (cs : List Char) : List Char :=
  cs.dropWhile fun c => c = ' ' || c = '\t' || c = '\n' || c = '\r'

/-- The number that a hexadecimal digit stands for. -/
def hexDigit? (c : Char) : Option Nat :=
  if '0' ≤ c ∧ c ≤ '9' then some (c.toNat - '0'.toNat)
  else if 'a' ≤ c ∧ c ≤ 'f' then some (c.toNat - 'a'.toNat + 10)
  else if 'A' ≤ c ∧ c ≤ 'F' then some (c.toNat - 'A'.toNat + 10)
  else none

/-- The number that four hexadecimal digits stand for. -/
def unit? (a b c d : Char) : Option Nat := do
  return ((← hexDigit? a) * 16 + (← hexDigit? b)) * 256 + (← hexDigit? c) * 16 + (← hexDigit? d)

/-- The character that a letter after a backslash stands for. -/
def letterEscape? (c : Char) : Option Char :=
  match c with
  | '"' => some '"'
  | '\\' => some '\\'
  | '/' => some '/'
  | 'b' => some '\x08'
  | 'f' => some '\x0c'
  | 'n' => some '\n'
  | 'r' => some '\r'
  | 't' => some '\t'
  | _ => none

/-- The codes of the characters up to the closing quote, and what follows it. An escape by number
stands for one UTF-16 unit. -/
def readCodes : List Char → Option (List Nat × List Char)
  | [] => none
  | '"' :: rest => some ([], rest)
  | '\\' :: 'u' :: a :: b :: c :: d :: rest => do
    let unit ← unit? a b c d
    let (codes, after) ← readCodes rest
    return (unit :: codes, after)
  | '\\' :: e :: rest => do
    let c ← letterEscape? e
    let (codes, after) ← readCodes rest
    return (c.toNat :: codes, after)
  | c :: rest =>
    if c.toNat < 32 then none
    else do
      let (codes, after) ← readCodes rest
      return (c.toNat :: codes, after)

/-- A text after its opening quote. -/
def readString (cs : List Char) : Option (String × List Char) := do
  let (codes, rest) ← readCodes cs
  return (String.ofList (Text.Surrogate.joinPairs codes), rest)

/-- Split off the digits at the front. -/
def spanDigits (cs : List Char) : List Char × List Char :=
  (cs.takeWhile (·.isDigit), cs.dropWhile (·.isDigit))

/-- The number that decimal digits stand for. -/
def digitsValue (ds : List Char) : Nat := ds.foldl (fun n c => n * 10 + (c.toNat - '0'.toNat)) 0

/-- The part after a point: its digits, if there is a point with digits after it. -/
def readFraction : List Char → Option (List Char × List Char)
  | '.' :: rest =>
    let (ds, after) := spanDigits rest
    if ds.isEmpty then none else some (ds, after)
  | cs => some ([], cs)

/-- The exponent, if there is one. -/
def readExponent : List Char → Option (Option Int × List Char)
  | e :: rest =>
    if e = 'e' ∨ e = 'E' then
      let (negative, rest) : Bool × List Char :=
        match rest with
        | '-' :: r => (true, r)
        | '+' :: r => (false, r)
        | r => (false, r)
      let (ds, after) := spanDigits rest
      if ds.isEmpty then none
      else some (some (if negative then -(digitsValue ds : Int) else digitsValue ds), after)
    else some (none, e :: rest)
  | [] => some (none, [])

/-- A number. -/
def readNumber (cs : List Char) : Option (Value × List Char) := do
  let (negative, cs) : Bool × List Char :=
    match cs with
    | '-' :: rest => (true, rest)
    | rest => (false, rest)
  let (whole, afterWhole) := spanDigits cs
  if whole.isEmpty || (whole.head? = some '0' && whole.length ≠ 1) then none
  let (fraction, afterFraction) ← readFraction afterWhole
  let (exponent, rest) ← readExponent afterFraction
  if fraction.isEmpty && exponent.isNone then
    return (.int (if negative then -(digitsValue whole : Int) else digitsValue whole), rest)
  return (.float (Double.ofDecimal negative (digitsValue (whole ++ fraction))
    (exponent.getD 0 - fraction.length)), rest)

/-- The name of what is larger than every number. -/
def infinityName : List Char := "Infinity".toList

mutual

/-- A value, with `fuel` above the depth of nesting and the number of parts. -/
def readValue : Nat → List Char → Option (Value × List Char)
  | 0, _ => none
  | fuel + 1, cs =>
    match cs with
    | '"' :: rest => (readString rest).map fun (s, after) => (.str s, after)
    | '[' :: rest =>
      match skipBlanks rest with
      | ']' :: after => some (.list [], after)
      | items => (readItems fuel items).map fun (vs, after) => (.list vs, after)
    | '{' :: rest =>
      match skipBlanks rest with
      | '}' :: after => some (.object [], after)
      | members =>
        (readMembers fuel members).map fun (es, after) => (.object (Entries.ofWrites es), after)
    | 'n' :: 'u' :: 'l' :: 'l' :: rest => some (.null, rest)
    | 't' :: 'r' :: 'u' :: 'e' :: rest => some (.bool true, rest)
    | 'f' :: 'a' :: 'l' :: 's' :: 'e' :: rest => some (.bool false, rest)
    | 'N' :: 'a' :: 'N' :: rest => some (.float Double.nan, rest)
    | _ =>
      let (negative, unsigned) : Bool × List Char :=
        match cs with
        | '-' :: rest => (true, rest)
        | rest => (false, rest)
      if infinityName.isPrefixOf unsigned then
        some (.float (Double.infinity negative), unsigned.drop infinityName.length)
      else readNumber cs

/-- The items of a list up to its closing bracket, at least one. -/
def readItems : Nat → List Char → Option (List Value × List Char)
  | 0, _ => none
  | fuel + 1, cs => do
    let (v, rest) ← readValue fuel (skipBlanks cs)
    match skipBlanks rest with
    | ',' :: more =>
      let (vs, after) ← readItems fuel more
      return (v :: vs, after)
    | ']' :: after => return ([v], after)
    | _ => none

/-- The members of an object up to its closing bracket, at least one. -/
def readMembers : Nat → List Char → Option (List (String × Value) × List Char)
  | 0, _ => none
  | fuel + 1, cs => do
    match skipBlanks cs with
    | '"' :: rest =>
      let (key, rest) ← readString rest
      match skipBlanks rest with
      | ':' :: rest =>
        let (v, rest) ← readValue fuel (skipBlanks rest)
        match skipBlanks rest with
        | ',' :: more =>
          let (es, after) ← readMembers fuel more
          return ((key, v) :: es, after)
        | '}' :: after => return ([(key, v)], after)
        | _ => none
      | _ => none
    | _ => none

end

/-- The value that a whole text stands for. -/
def parse (s : String) : Option Value := do
  let cs := s.toList
  let (v, rest) ← readValue (cs.length + 1) (skipBlanks cs)
  if (skipBlanks rest).isEmpty then some v else none

end LayerDoc.Json
