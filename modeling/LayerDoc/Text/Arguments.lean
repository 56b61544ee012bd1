import LayerDoc.Json.Reader
import LayerDoc.Text.Character

/-!
# Arguments

The arguments of an action in a text with markup: numbers, also imaginary ones, quoted texts, bytes,
the words for truth and nothing, and tuples, sets and dictionaries of them. Only whether a text is
in order matters here, not what it stands for.
-/

namespace LayerDoc.Text.Arguments

/-- A part of a written argument. -/
inductive Token where
  | number (imaginary : Bool)
  | quoted (bytes : Bool)
  | word (name : String)
  | mark (c : Char)
  deriving DecidableEq, Repr

/-! ## Numbers -/

/-- Digits in a base with single underscores between them. -/
def isDigits (base : Nat) (cs : List Char) : Bool :=
  (cs.splitOn '_').all fun part =>
    !part.isEmpty && part.all fun c =>
      ((Json.hexDigit? c).map fun d => decide (d < base)).getD false

/-- A whole number: without a zero in front, unless it is zero or its base is given. -/
def isWhole (cs : List Char) : Bool :=
  match cs with
  | '0' :: letter :: rest =>
    let base := if letter.toLower = 'x' then 16 else if letter.toLower = 'o' then 8
      else if letter.toLower = 'b' then 2 else 0
    if base = 0 then isDigits 10 cs && cs.all fun c => c = '0' || c = '_'
    else isDigits base (if rest.head? = some '_' then rest.drop 1 else rest)
  | cs => isDigits 10 cs

/-- A number with a point or an exponent, or of digits alone. -/
def isDecimal (cs : List Char) : Bool :=
  let mantissa := cs.takeWhile fun c => c.toLower ≠ 'e'
  let exponent := cs.drop mantissa.length
  let parts := mantissa.splitOn '.'
  (parts.length ≤ 2 && !mantissa.all (· = '.') && parts.all fun p => p.isEmpty || isDigits 10 p) &&
    match exponent with
    | [] => true
    | _ :: '+' :: ds => isDigits 10 ds
    | _ :: '-' :: ds => isDigits 10 ds
    | _ :: ds => isDigits 10 ds

/-- The kind of a written number. -/
def number? (cs : List Char) : Option Token :=
  let isReal := isWhole cs || (cs.any (fun c => c = '.' || c.toLower = 'e') && isDecimal cs)
  if isReal then some (.number false)
  else if (cs.getLast?.map Char.toLower) = some 'j' && isDecimal cs.dropLast then
    some (.number true)
  else none

/-- The characters of a number: letters, digits, points, and the sign of an exponent. -/
def takeNumber : List Char → List Char
  | c :: sign :: rest =>
    if c.isAlphanum || c = '_' || c = '.' then
      if c.toLower = 'e' && (sign = '+' || sign = '-') then c :: sign :: takeNumber rest
      else c :: takeNumber (sign :: rest)
    else []
  | [c] => if c.isAlphanum || c = '_' || c = '.' then [c] else []
  | [] => []

/-! ## Quoted texts -/

/-- Whether an escape is in order: one by number needs all its digits. -/
def isEscape (bytes : Bool) (letter : Char) (rest : List Char) : Bool :=
  let digits (n : Nat) : Bool :=
    (rest.take n).length = n && (rest.take n).all fun c => (Json.hexDigit? c).isSome
  if letter = 'x' then digits 2
  else if bytes then true
  else if letter = 'u' then digits 4
  else if letter = 'U' then
    digits 8 && (rest.take 8).foldl (fun n c => n * 16 + (Json.hexDigit? c).getD 0) 0 ≤ 0x10FFFF
  else letter ≠ 'N'

/-- What follows a quoted text, up to its closing mark. -/
def afterQuoted? (raw bytes : Bool) (closing : List Char) : List Char → Option (List Char)
  | [] => none
  | [c] => if closing = [c] then some [] else none
  | c :: d :: rest =>
    if closing.isPrefixOf (c :: d :: rest) then some ((d :: rest).drop (closing.length - 1))
    else if bytes && 128 ≤ c.toNat then none
    else if c = '\\' then
      if (raw || isEscape bytes d rest) && !(bytes && 128 ≤ d.toNat) then
        afterQuoted? raw bytes closing rest
      else none
    else if c = '\n' && closing.length = 1 then none
    else afterQuoted? raw bytes closing (d :: rest)

/-- The letters that can stand before a quoted text, with what they mean: raw, and bytes. -/
def fronts : List (String × Bool × Bool) :=
  [("", false, false), ("u", false, false), ("r", true, false), ("b", false, true),
    ("rb", true, true), ("br", true, true)]

/-- Read a quoted text after the letters before it. -/
def quoted? (front : List Char) (cs : List Char) : Option (Token × List Char) := do
  let (raw, bytes) ← fronts.lookup (String.ofList (front.map Char.toLower))
  match cs with
  | q :: rest =>
    let three := [q, q].isPrefixOf rest
    let rest ← afterQuoted? raw bytes (if three then [q, q, q] else [q])
      (if three then rest.drop 2 else rest)
    return (.quoted bytes, rest)
  | [] => none

/-! ## Tokens -/

/-- A character that keeps two parts of one line apart. -/
def isSpacing (c : Char) : Bool := c = ' ' || c = '\t' || c = '\x0c'

/-- Whether a line stands in by blanks, and holds more than a comment. -/
def isIndented (cs : List Char) : Bool :=
  match cs.takeWhile isSpacing, (cs.dropWhile isSpacing).head? with
  | _ :: _, some c => c ≠ '\n' && c ≠ '#'
  | _, _ => false

/-- The parts of a written argument, inside some brackets. Outside of all brackets the end of a line
is a part too, unless a backslash stands before it, and no line stands in. -/
def tokens? : Nat → Nat → List Char → Option (List Token)
  | 0, _, _ => none
  | _, _, [] => some []
  | fuel + 1, depth, c :: rest =>
    if isSpacing c then tokens? fuel depth rest
    else if c = '\n' then
      if depth ≠ 0 then tokens? fuel depth rest
      else if isIndented rest then none
      else (tokens? fuel depth rest).map (.mark c :: ·)
    else if c = '\\' && rest.head? = some '\n' then tokens? fuel depth (rest.drop 1)
    else if c = '#' then tokens? fuel depth (rest.dropWhile (· ≠ '\n'))
    else if c.isDigit || (c = '.' && (rest.head?.map Char.isDigit).getD false) then do
      let cs := takeNumber (c :: rest)
      return (← number? cs) :: (← tokens? fuel depth ((c :: rest).drop cs.length))
    else if c.isAlpha || c = '_' || c = '"' || c = '\'' then do
      let front := (c :: rest).takeWhile fun d => d.isAlphanum || d = '_'
      let after := (c :: rest).drop front.length
      if after.head? = some '"' || after.head? = some '\'' then
        let (token, after) ← quoted? front after
        return token :: (← tokens? fuel depth after)
      else return .word (String.ofList front) :: (← tokens? fuel depth after)
    else if c = '.' && ['.', '.'].isPrefixOf rest then do
      return .word "..." :: (← tokens? fuel depth (rest.drop 2))
    else if c = '(' || c = '{' then (tokens? fuel (depth + 1) rest).map (.mark c :: ·)
    else if c = ')' || c = '}' then (tokens? fuel (depth - 1) rest).map (.mark c :: ·)
    else if [',', ':', '+', '-'].contains c then (tokens? fuel depth rest).map (.mark c :: ·)
    else none

/-! ## Values -/

/-- What is known of a value: what signs and sums it can stand in, and whether it can be a key. -/
inductive Form where
  | number (imaginary signed : Bool)
  /-- A value that can be a key. -/
  | fixed
  /-- A value that cannot be a key. -/
  | variable
  deriving DecidableEq, Repr

/-- Pass over the texts after a quoted one, which must be of its kind. -/
def skipQuoted (bytes : Bool) : List Token → Option (List Token)
  | .quoted other :: rest => if other = bytes then skipQuoted bytes rest else none
  | rest => some rest

mutual

/-- A value, perhaps a sum of a number and an imaginary one. -/
def value? : Nat → List Token → Option (Form × List Token)
  | 0, _ => none
  | fuel + 1, ts => do
    let (left, rest) ← term? fuel ts
    match left, rest with
    | .number false _, .mark sign :: after =>
      if sign = '+' ∨ sign = '-' then
        match ← term? fuel after with
        | (.number true false, rest) => return (.fixed, rest)
        | _ => none
      else return (left, rest)
    | _, _ => return (left, rest)

/-- A value that is no sum. -/
def term? : Nat → List Token → Option (Form × List Token)
  | 0, _ => none
  | fuel + 1, ts =>
    match ts with
    | .mark '+' :: rest | .mark '-' :: rest => do
      match ← term? fuel rest with
      | (.number imaginary false, rest) => return (.number imaginary true, rest)
      | _ => none
    | .number imaginary :: rest => some (.number imaginary false, rest)
    | .quoted bytes :: rest => (skipQuoted bytes rest).map (.fixed, ·)
    | .word "set" :: .mark '(' :: .mark ')' :: rest => some (.variable, rest)
    | .word name :: rest =>
      if ["True", "False", "None", "..."].contains name then some (.fixed, rest) else none
    | .mark '(' :: .mark ')' :: rest => some (.fixed, rest)
    | .mark '(' :: rest => do
      match ← values? fuel rest with
      | ([form], false, .mark ')' :: rest) => return (form, rest)
      | (forms, _, .mark ')' :: rest) =>
        return (if forms.contains .variable then .variable else .fixed, rest)
      | _ => none
    | .mark '{' :: .mark '}' :: rest => some (.variable, rest)
    | .mark '{' :: rest => do
      match ← value? fuel rest with
      | (.variable, _) => none
      | (_, .mark ':' :: rest) =>
        let (_, rest) ← value? fuel rest
        return (.variable, ← entries? fuel rest)
      | (_, rest) => return (.variable, ← members? fuel rest)
    | _ => none

/-- Values with commas between them, and whether a comma ends them. -/
def values? : Nat → List Token → Option (List Form × Bool × List Token)
  | 0, _ => none
  | fuel + 1, ts => do
    let (first, rest) ← value? fuel ts
    match rest with
    | .mark ',' :: .mark ')' :: rest => return ([first], true, .mark ')' :: rest)
    | [.mark ','] => return ([first], true, [])
    | .mark ',' :: rest =>
      let (others, comma, rest) ← values? fuel rest
      return (first :: others, comma, rest)
    | rest => return ([first], false, rest)

/-- The other members of a set and its end. -/
def members? : Nat → List Token → Option (List Token)
  | 0, _ => none
  | fuel + 1, ts =>
    match ts with
    | .mark '}' :: rest => some rest
    | .mark ',' :: .mark '}' :: rest => some rest
    | .mark ',' :: rest => do
      match ← value? fuel rest with
      | (.variable, _) => none
      | (_, rest) => members? fuel rest
    | _ => none

/-- The other entries of a dictionary and its end. -/
def entries? : Nat → List Token → Option (List Token)
  | 0, _ => none
  | fuel + 1, ts =>
    match ts with
    | .mark '}' :: rest => some rest
    | .mark ',' :: .mark '}' :: rest => some rest
    | .mark ',' :: rest => do
      match ← value? fuel rest with
      | (.variable, _) => none
      | (_, .mark ':' :: rest) => do
        let (_, rest) ← value? fuel rest
        entries? fuel rest
      | _ => none
    | _ => none

end

/-- Whether a text is one value, or some with commas between them. Lines may stand before and after
it that hold comments alone. -/
def isValue (cs : List Char) : Bool :=
  match tokens? (cs.length + 1) 0 cs with
  | some ts =>
    let ts := (ts.dropWhile (· = .mark '\n')).reverse.dropWhile (· = .mark '\n')
    match values? (4 * ts.length + 8) ts.reverse with
    | some (_, _, []) => true
    | _ => false
  | none => false

/-- A character of a name: a letter, a digit, an underscore or a point. -/
def isNameChar (c : Char) : Bool := c.isAlphanum || c = '_' || c = '.' || 0xAA ≤ c.toNat

/-- Whether the text of an action is in order: a name, perhaps with arguments in brackets, or values
alone. -/
def isAction (cs : List Char) : Bool :=
  match cs.dropWhile isNameChar with
  | [] => true
  | '(' :: rest =>
    let arguments := '(' :: rest
    isValue (if arguments.getLast? = some ')' && !arguments.contains '\n' then arguments else cs)
  | _ => isValue cs

end LayerDoc.Text.Arguments
