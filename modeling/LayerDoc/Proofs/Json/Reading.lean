import LayerDoc.Proofs.Entries
import LayerDoc.Proofs.Json.Strings
import LayerDoc.Proofs.Yaml.Numbers

/-!
# Reading back compact JSON

Data that JSON writes without loss (`Value.isExact`) is read back from its compact form, whatever
follows it that does not go on with a number (`Value.readValue_line`). So the compact form is read
as the data (`Json.parse_line`) and tells it from all other data. No character of it is a control
character (`Value.isPrinted_line`).
-/

namespace LayerDoc

theorem Entries.ofWrites_eq_self {α : Type} {es : Entries α} (h : (keys es).Nodup) :
    ofWrites es = es := by
  induction es with
  | nil => rfl
  | cons e rest ih =>
    obtain ⟨hnew, hrest⟩ := List.nodup_cons.mp h
    have hfront : merge ([e] ++ []) rest = [e] ++ merge [] rest := by
      refine merge_append_of_new [] fun key hkey hmem => ?_
      rw [keys, List.map_singleton, List.mem_singleton] at hmem
      exact hnew (hmem ▸ hkey)
    rw [ofWrites, merge_cons]
    exact hfront.trans (congrArg (e :: ·) (ih hrest))

namespace Value

mutual

/-- Whether a value is made of null, truth values, whole numbers and texts, in lists and in objects
of distinct keys. -/
def isExact : Value → Bool
  | .null => true
  | .bool _ => true
  | .int _ => true
  | .str _ => true
  | .list items => itemsAreExact items
  | .object es => (es.map Prod.fst).Nodup && entriesAreExact es
  | _ => false

/-- `isExact` of all items. -/
def itemsAreExact : List Value → Bool
  | [] => true
  | v :: rest => v.isExact && itemsAreExact rest

/-- `isExact` of all entries. -/
def entriesAreExact : List (String × Value) → Bool
  | [] => true
  | (_, v) :: rest => v.isExact && entriesAreExact rest

end

end Value

namespace Json

/-! ## Numbers -/

/-- What follows a number does not go on with it. -/
def EndsNumber (rest : List Char) : Prop :=
  ∀ c ∈ rest.head?, c.isDigit = false ∧ c ≠ '.' ∧ c ≠ 'e' ∧ c ≠ 'E'

theorem endsNumber_nil : EndsNumber [] := nofun

theorem endsNumber_cons {c : Char} {rest : List Char} (h : c ∈ [',', ']', '}']) :
    EndsNumber (c :: rest) := by
  have hall : ∀ c ∈ [',', ']', '}'], c.isDigit = false ∧ c ≠ '.' ∧ c ≠ 'e' ∧ c ≠ 'E' := by simp
  intro d hd
  cases hd
  exact hall c h

theorem readFraction_of_endsNumber {rest : List Char} (h : EndsNumber rest) :
    readFraction rest = some ([], rest) := by
  unfold readFraction
  split
  · exact absurd rfl (h '.' rfl).2.1
  · rfl

theorem readExponent_of_endsNumber {rest : List Char} (h : EndsNumber rest) :
    readExponent rest = some (none, rest) := by
  cases rest with
  | nil => rfl
  | cons c rest =>
    obtain ⟨-, -, hsmall, hlarge⟩ := h c rfl
    exact if_neg (not_or.mpr ⟨hsmall, hlarge⟩)

/-- A number begins with a digit, and so with none of other characters. -/
theorem exists_first_digit (n : Nat) {others : List Char} (h : others.all (!·.isDigit) = true) :
    ∃ c ds, Decimal.digits n = c :: ds ∧ c ∉ others := by
  obtain ⟨c, ds, hsplit⟩ := List.exists_cons_of_ne_nil (Decimal.digits_ne_nil n)
  have hdigit : c.isDigit = true := Decimal.isDigit_of_mem_digits (hsplit ▸ List.mem_cons_self)
  refine ⟨c, ds, hsplit, fun hmem => ?_⟩
  have hother := List.all_eq_true.mp h c hmem
  rw [hdigit] at hother
  cases hother

/-- Digits behind a sign, or without one, are read as a whole number. -/
theorem readNumber_digits (negative : Bool) {n : Nat} {rest : List Char} (hrest : EndsNumber rest) :
    readNumber (Double.signChars negative ++ (Decimal.digits n ++ rest)) =
      some (.int (if negative then -(n : Int) else n), rest) := by
  have hspan : spanDigits (Decimal.digits n ++ rest) = (Decimal.digits n, rest) := by
    obtain ⟨htake, hdrop⟩ := Numeral.span_digits
      (fun c hc => Decimal.isDigit_of_mem_digits hc) rest fun c hc => (hrest c hc).1
    rw [spanDigits, htake, hdrop]
  -- only the number zero begins with a zero
  have hzero : (Decimal.digits n).head? = some '0' → (Decimal.digits n).length = 1 := by
    intro hhead
    rcases Nat.eq_zero_or_pos n with rfl | hn
    · rfl
    · exact absurd hhead (Decimal.head?_digits_ne hn)
  have hvalue := digitsValue_digits n
  obtain ⟨c, ds, hsplit, hminus⟩ := exists_first_digit n (by decide : ['-'].all (!·.isDigit) = true)
  rw [List.mem_singleton] at hminus
  rw [hsplit] at hspan hzero hvalue ⊢
  rw [List.cons_append] at hspan
  cases negative <;>
    simpa [readNumber, Double.signChars, hspan, hvalue, hminus, readFraction_of_endsNumber hrest,
      readExponent_of_endsNumber hrest] using hzero

theorem readNumber_toString (n : Int) {rest : List Char} (hrest : EndsNumber rest) :
    readNumber ((toString n).toList ++ rest) = some (.int n, rest) := by
  have hsigned : (if decide (n < 0) then -(n.natAbs : Int) else n.natAbs) = n := by
    split
    · next hneg =>
      have := of_decide_eq_true hneg
      omega
    · next hpos =>
      have : ¬ n < 0 := fun hneg => hpos (decide_eq_true hneg)
      omega
  rw [Yaml.toList_toString, List.append_assoc, readNumber_digits _ hrest, hsigned]

/-! ## Parts of compact forms -/

theorem toList_string (s : String) :
    (string s).toList = '"' :: (s.toList.flatMap charText ++ ['"']) := by
  simp [string]

theorem skipBlanks_of_not_blank {c : Char} (h : c ∉ [' ', '\t', '\n', '\r']) (rest : List Char) :
    skipBlanks (c :: rest) = c :: rest := by
  rw [skipBlanks, List.dropWhile_cons_of_neg]
  simpa [and_assoc] using h

/-- Parts with commas between them. -/
def joined (parts : List String) : List Char := (String.intercalate "," parts).toList

theorem joined_singleton (part : String) : joined [part] = part.toList := by
  simp [joined]

theorem joined_cons (part : String) {parts : List String} (h : parts ≠ []) :
    joined (part :: parts) = part.toList ++ ',' :: joined parts := by
  obtain ⟨next, parts, rfl⟩ := List.exists_cons_of_ne_nil h
  rw [joined, String.intercalate_cons_cons]
  simp [joined]

theorem exists_joined_cons (part : String) (parts : List String) :
    ∃ tail, joined (part :: parts) = part.toList ++ tail := by
  cases parts with
  | nil => exact ⟨[], by rw [joined_singleton, List.append_nil]⟩
  | cons next parts => exact ⟨_, joined_cons part (List.cons_ne_nil next parts)⟩

theorem lineItems_nil : lineItems .code [] = [] := rfl

theorem lineItems_cons (v : Value) (items : List Value) :
    lineItems .code (v :: items) = line .code v :: lineItems .code items := rfl

theorem lineItems_eq_nil {items : List Value} : lineItems .code items = [] ↔ items = [] := by
  cases items with
  | nil => exact iff_of_true rfl rfl
  | cons v items => simp [lineItems_cons]

/-- The compact form of an entry. -/
def entryText (key : String) (v : Value) : String := string key ++ ":" ++ line .code v

theorem toList_entryText (key : String) (v : Value) :
    (entryText key v).toList = (string key).toList ++ ':' :: (line .code v).toList := by
  simp [entryText]

theorem lineEntries_nil : lineEntries .code [] = [] := rfl

theorem lineEntries_cons (key : String) (v : Value) (es : List (String × Value)) :
    lineEntries .code ((key, v) :: es) = entryText key v :: lineEntries .code es := rfl

theorem lineEntries_eq_nil {es : List (String × Value)} : lineEntries .code es = [] ↔ es = [] := by
  cases es with
  | nil => exact iff_of_true rfl rfl
  | cons e es =>
    obtain ⟨key, v⟩ := e
    simp [lineEntries_cons]

theorem toList_line_list (items : List Value) :
    (line .code (.list items)).toList = '[' :: (joined (lineItems .code items) ++ [']']) := by
  have hline : line .code (.list items) =
      "[" ++ String.intercalate "," (lineItems .code items) ++ "]" := rfl
  simp [hline, joined]

theorem toList_line_object (es : List (String × Value)) :
    (line .code (.object es)).toList = '{' :: (joined (lineEntries .code es) ++ ['}']) := by
  have hline : line .code (.object es) =
      Text.braced (String.intercalate "," (lineEntries .code es)) := rfl
  simp [hline, joined]

/-- What comes first in the form of a value is neither a blank nor a closing bracket. -/
theorem exists_first_line {v : Value} (hv : v.isExact = true) :
    ∃ c rest, (line .code v).toList = c :: rest ∧ c ∉ [' ', '\t', '\n', '\r', ']', '}'] := by
  cases v with
  | null => exact ⟨'n', ['u', 'l', 'l'], rfl, by decide⟩
  | bool b => cases b <;> exact ⟨_, _, rfl, by decide⟩
  | int n =>
    obtain ⟨c, ds, hsplit, hc⟩ := exists_first_digit n.natAbs
      (by decide : [' ', '\t', '\n', '\r', ']', '}'].all (!·.isDigit) = true)
    have htext : (line .code (.int n)).toList =
        Double.signChars (n < 0) ++ Decimal.digits n.natAbs := Yaml.toList_toString n
    rw [htext, hsplit]
    cases decide (n < 0) with
    | true => exact ⟨'-', c :: ds, rfl, by decide⟩
    | false => exact ⟨c, ds, rfl, hc⟩
  | str s => exact ⟨'"', _, toList_string s, by decide⟩
  | list items => exact ⟨'[', _, toList_line_list items, by decide⟩
  | object es => exact ⟨'{', _, toList_line_object es, by decide⟩
  | float | bytes | moment | set | mapping | cycle => cases hv

theorem skipBlanks_line {v : Value} (hv : v.isExact = true) (rest : List Char) :
    skipBlanks ((line .code v).toList ++ rest) = (line .code v).toList ++ rest := by
  obtain ⟨c, cs, hline, hc⟩ := exists_first_line hv
  rw [hline]
  exact skipBlanks_of_not_blank (fun hmem => hc (List.mem_append_left [']', '}'] hmem)) _

/-! ## Reading parts -/

theorem readValue_quoted (fuel : Nat) (s : String) (rest : List Char) :
    readValue (fuel + 1) ((string s).toList ++ rest) = some (.str s, rest) := by
  have hstring := readString_written s rest
  rw [toList_string, List.cons_append, List.append_assoc, List.singleton_append, readValue, hstring]
  rfl

theorem isPrefixOf_infinityName {cs : List Char} (h : cs.head? ≠ some 'I') :
    infinityName.isPrefixOf cs = false := by
  have hname : infinityName = 'I' :: "nfinity".toList := rfl
  cases cs with
  | nil => rfl
  | cons c cs =>
    have hfirst : ('I' == c) = false := by
      rw [beq_eq_false_iff_ne]
      rintro rfl
      exact h rfl
    rw [hname, List.isPrefixOf, hfirst, Bool.false_and]

/-- What begins as no other value does is read as a number, unless it is a name with a sign. -/
theorem readValue_of_first (fuel : Nat) {c : Char} {cs : List Char}
    (hc : c ∉ ['"', '[', '{', 'n', 't', 'f', 'N', 'I']) (hname : c = '-' → cs.head? ≠ some 'I') :
    readValue (fuel + 1) (c :: cs) = readNumber (c :: cs) := by
  simp only [List.mem_cons, List.not_mem_nil, or_false, not_or] at hc
  obtain ⟨hquote, hbracket, hbrace, hnull, htrue, hfalse, hnan, hinfinity⟩ := hc
  rw [readValue.eq_def]
  dsimp only
  split
  · next heq => exact absurd (List.cons.inj heq).1 hquote
  · next heq => exact absurd (List.cons.inj heq).1 hbracket
  · next heq => exact absurd (List.cons.inj heq).1 hbrace
  · next heq => exact absurd (List.cons.inj heq).1 hnull
  · next heq => exact absurd (List.cons.inj heq).1 htrue
  · next heq => exact absurd (List.cons.inj heq).1 hfalse
  · next heq => exact absurd (List.cons.inj heq).1 hnan
  · split
    · next hsign =>
      obtain ⟨rfl, rfl⟩ := List.cons.inj hsign
      rw [isPrefixOf_infinityName (hname rfl), if_neg Bool.false_ne_true]
    · have hfirst : (c :: cs).head? ≠ some 'I' := fun he => hinfinity (Option.some.inj he)
      rw [isPrefixOf_infinityName hfirst, if_neg Bool.false_ne_true]

theorem readValue_toString (fuel : Nat) (n : Int) {rest : List Char} (hrest : EndsNumber rest) :
    readValue (fuel + 1) ((toString n).toList ++ rest) = some (.int n, rest) := by
  have hnumber := readNumber_toString n hrest
  obtain ⟨c, ds, hsplit, hc⟩ := exists_first_digit n.natAbs
    (by decide : ['"', '[', '{', 'n', 't', 'f', 'N', 'I', '-'].all (!·.isDigit) = true)
  rw [Yaml.toList_toString, hsplit] at hnumber ⊢
  rw [← hnumber]
  cases decide (n < 0) with
  | true =>
    refine readValue_of_first fuel (by decide) fun _ he => ?_
    rw [Option.some.inj he] at hc
    exact hc (by decide)
  | false =>
    refine readValue_of_first fuel (fun hmem => hc (List.mem_append_left ['-'] hmem)) ?_
    rintro rfl
    exact absurd (by decide) hc

section Items

variable {fuel : Nat} {cs rest more : List Char} {v : Value} {vs : List Value} {k : String}
  {es : List (String × Value)}

theorem readItems_last (hcs : skipBlanks cs = cs)
    (hv : readValue fuel cs = some (v, ']' :: rest)) :
      readItems (fuel + 1) cs = some ([v], rest) := by
  rw [readItems, hcs, hv]
  rfl

theorem readItems_more (hcs : skipBlanks cs = cs)
    (hv : readValue fuel cs = some (v, ',' :: more))
    (hmore : readItems fuel more = some (vs, rest)) :
    readItems (fuel + 1) cs = some (v :: vs, rest) := by
  have hcomma : skipBlanks (',' :: more) = ',' :: more := skipBlanks_of_not_blank (by decide) more
  rw [readItems, hcs, hv]
  simp only [Option.bind_eq_bind, Option.bind_some, hcomma, hmore]
  rfl

theorem readMembers_last (hcs : skipBlanks cs = cs)
    (hv : readValue fuel cs = some (v, '}' :: rest)) :
    readMembers (fuel + 1) ((string k).toList ++ ':' :: cs) = some ([(k, v)], rest) := by
  have hkey := readString_written k (':' :: cs)
  rw [toList_string, List.cons_append, List.append_assoc, List.singleton_append, readMembers,
    skipBlanks_of_not_blank (by decide)]
  simp only [Option.bind_eq_bind, Option.bind_some, hkey,
    skipBlanks_of_not_blank (c := ':') (by decide), hcs, hv]
  rfl

theorem readMembers_more (hcs : skipBlanks cs = cs)
    (hv : readValue fuel cs = some (v, ',' :: more))
    (hmore : readMembers fuel more = some (es, rest)) :
    readMembers (fuel + 1) ((string k).toList ++ ':' :: cs) = some ((k, v) :: es, rest) := by
  have hkey := readString_written k (':' :: cs)
  have hcomma : skipBlanks (',' :: more) = ',' :: more := skipBlanks_of_not_blank (by decide) more
  rw [toList_string, List.cons_append, List.append_assoc, List.singleton_append, readMembers,
    skipBlanks_of_not_blank (by decide)]
  simp only [Option.bind_eq_bind, Option.bind_some, hkey,
    skipBlanks_of_not_blank (c := ':') (by decide), hcs, hv, hcomma, hmore]
  rfl

/-- What stands between the brackets of a list is read as its items. -/
theorem readValue_list {c : Char} (hc : c ∉ [' ', '\t', '\n', '\r', ']'])
    (hitems : readItems fuel (c :: cs) = some (vs, rest)) :
    readValue (fuel + 1) ('[' :: c :: cs) = some (.list vs, rest) := by
  have hblank : skipBlanks (c :: cs) = c :: cs :=
    skipBlanks_of_not_blank (fun hmem => hc (List.mem_append_left [']'] hmem)) cs
  rw [readValue, hblank]
  split
  · next heq =>
    rw [(List.cons.inj heq).1] at hc
    exact absurd (by decide) hc
  · rw [hitems]
    rfl

/-- What stands between the braces of an object is read as its entries. -/
theorem readValue_object (hkeys : (Entries.keys es).Nodup)
    (hmembers : readMembers fuel ('"' :: cs) = some (es, rest)) :
    readValue (fuel + 1) ('{' :: '"' :: cs) = some (.object es, rest) := by
  have hblank : skipBlanks ('"' :: cs) = '"' :: cs := skipBlanks_of_not_blank (by decide) cs
  rw [readValue, hblank]
  split
  · next heq => exact absurd (List.cons.inj heq).1 (by decide)
  · rw [hmembers, Option.map_some]
    dsimp only
    rw [Entries.ofWrites_eq_self hkeys]

end Items

end Json

namespace Value

open Json

mutual

/-- A value is read back from its compact form, if what follows does not go on with a number. There
is fuel enough if there is more of it than characters. -/
theorem readValue_line (v : Value) (hv : v.isExact = true) {fuel : Nat} {rest : List Char}
    (hfuel : (line .code v).toList.length < fuel) (hrest : EndsNumber rest) :
    readValue fuel ((line .code v).toList ++ rest) = some (v, rest) := by
  obtain ⟨fuel, rfl⟩ : ∃ n, fuel = n + 1 := ⟨fuel - 1, by omega⟩
  cases v with
  | null => rfl
  | bool b => cases b <;> rfl
  | int n => exact readValue_toString fuel n hrest
  | str s => exact readValue_quoted fuel s rest
  | list items =>
    rw [toList_line_list] at hfuel ⊢
    simp only [List.length_cons, List.length_append, List.length_nil] at hfuel
    cases items with
    | nil => rfl
    | cons first items =>
      have hitems : readItems fuel (joined (lineItems .code (first :: items)) ++ ']' :: rest) =
          some (first :: items, rest) :=
        readItems_lineItems (first :: items) hv (List.cons_ne_nil _ _) (by omega)
      rw [isExact, itemsAreExact, Bool.and_eq_true] at hv
      obtain ⟨c, cs, hfirst, hc⟩ := exists_first_line hv.1
      obtain ⟨tail, htail⟩ := exists_joined_cons (line .code first) (lineItems .code items)
      rw [lineItems_cons, htail, hfirst] at hitems ⊢
      simp only [List.cons_append, List.append_assoc, List.nil_append] at hitems ⊢
      exact readValue_list (fun hmem => hc (List.mem_append_left ['}'] hmem)) hitems
  | object es =>
    rw [toList_line_object] at hfuel ⊢
    simp only [List.length_cons, List.length_append, List.length_nil] at hfuel
    rw [isExact, Bool.and_eq_true, decide_eq_true_eq] at hv
    cases es with
    | nil => rfl
    | cons first es =>
      have hmembers : readMembers fuel (joined (lineEntries .code (first :: es)) ++ '}' :: rest) =
          some (first :: es, rest) :=
        readMembers_lineEntries (first :: es) hv.2 (List.cons_ne_nil _ _) (by omega)
      obtain ⟨key, w⟩ := first
      obtain ⟨tail, htail⟩ := exists_joined_cons (entryText key w) (lineEntries .code es)
      rw [lineEntries_cons, htail, toList_entryText, toList_string] at hmembers ⊢
      simp only [List.cons_append, List.append_assoc, List.nil_append] at hmembers ⊢
      exact readValue_object hv.1 hmembers
  | float | bytes | moment | set | mapping | cycle => cases hv

/-- Items are read back from their compact forms with commas between them. -/
theorem readItems_lineItems : ∀ (items : List Value), itemsAreExact items = true → items ≠ [] →
    ∀ {fuel : Nat} {rest : List Char}, (joined (lineItems .code items)).length + 1 < fuel →
      readItems fuel (joined (lineItems .code items) ++ ']' :: rest) = some (items, rest)
  | [], _, hne, _, _, _ => absurd rfl hne
  | v :: items, h, _, fuel, rest, hfuel => by
    obtain ⟨fuel, rfl⟩ : ∃ n, fuel = n + 1 := ⟨fuel - 1, by omega⟩
    rw [itemsAreExact, Bool.and_eq_true] at h
    rw [lineItems_cons] at hfuel ⊢
    by_cases hlast : items = []
    · subst hlast
      rw [lineItems_nil, joined_singleton] at hfuel ⊢
      exact readItems_last (skipBlanks_line h.1 _)
        (readValue_line v h.1 (by omega) (endsNumber_cons (by decide)))
    · rw [joined_cons _ (fun he => hlast (lineItems_eq_nil.mp he))] at hfuel ⊢
      -- the comma pays for the fuel that the first item takes
      rw [List.length_append, List.length_cons] at hfuel
      rw [List.append_assoc, List.cons_append]
      exact readItems_more (skipBlanks_line h.1 _)
        (readValue_line v h.1 (by omega) (endsNumber_cons (by decide)))
        (readItems_lineItems items h.2 hlast (by omega))

/-- Entries are read back from their compact forms with commas between them. -/
theorem readMembers_lineEntries : ∀ (es : List (String × Value)), entriesAreExact es = true →
    es ≠ [] → ∀ {fuel : Nat} {rest : List Char}, (joined (lineEntries .code es)).length + 1 < fuel →
      readMembers fuel (joined (lineEntries .code es) ++ '}' :: rest) = some (es, rest)
  | [], _, hne, _, _, _ => absurd rfl hne
  | (k, v) :: es, h, _, fuel, rest, hfuel => by
    obtain ⟨fuel, rfl⟩ : ∃ n, fuel = n + 1 := ⟨fuel - 1, by omega⟩
    rw [entriesAreExact, Bool.and_eq_true] at h
    rw [lineEntries_cons] at hfuel ⊢
    by_cases hlast : es = []
    · subst hlast
      rw [lineEntries_nil, joined_singleton, toList_entryText] at hfuel ⊢
      rw [List.length_append, List.length_cons] at hfuel
      rw [List.append_assoc, List.cons_append]
      exact readMembers_last (skipBlanks_line h.1 _)
        (readValue_line v h.1 (by omega) (endsNumber_cons (by decide)))
    · rw [joined_cons _ (fun he => hlast (lineEntries_eq_nil.mp he)), toList_entryText] at hfuel ⊢
      simp only [List.length_append, List.length_cons] at hfuel
      rw [List.append_assoc, List.append_assoc, List.cons_append, List.cons_append]
      exact readMembers_more (skipBlanks_line h.1 _)
        (readValue_line v h.1 (by omega) (endsNumber_cons (by decide)))
        (readMembers_lineEntries es h.2 hlast (by omega))

end

end Value

namespace Json

theorem parse_line {v : Value} (hv : v.isExact = true) : parse (line .code v) = some v := by
  have hblank := skipBlanks_line hv []
  have hread := Value.readValue_line v hv (Nat.lt_succ_self _) endsNumber_nil
  rw [List.append_nil] at hblank hread
  rw [parse]
  simp only [hblank, hread, Option.bind_eq_bind, Option.bind_some]
  rfl

theorem line_injective {v w : Value} (hv : v.isExact = true) (hw : w.isExact = true)
    (h : line .code v = line .code w) : v = w := by
  have hparse := parse_line hv
  rw [h, parse_line hw] at hparse
  exact (Option.some.inj hparse).symm

end Json

/-! ## Control characters -/

/-- No character of a text is a control character. -/
def Text.IsPrinted (s : String) : Prop := ∀ c ∈ s.toList, 32 ≤ c.toNat

theorem Text.isPrinted_of_all {s : String} (h : (s.toList.all fun c => 32 ≤ c.toNat) = true) :
    IsPrinted s :=
  fun c hc => of_decide_eq_true (List.all_eq_true.mp h c hc)

namespace Json

open Text

theorem le_toNat_of_mem_charText {c d : Char} (h : d ∈ charText c) : 32 ≤ d.toNat := by
  by_cases hletter : c ∈ lettered
  · obtain ⟨letter, htext, hvisible, -⟩ := exists_letter_of_mem_lettered hletter
    rw [charText, htext, Option.getD_some, List.mem_cons, List.mem_singleton] at h
    rcases h with rfl | rfl
    · decide
    · rw [isVisible, Bool.and_eq_true] at hvisible
      exact of_decide_eq_true hvisible.1
  · rw [charText, escaped?_of_not_mem_lettered hletter] at h
    split at h
    · rw [Option.getD_some, unitEscape, List.mem_cons, List.mem_cons] at h
      rcases h with rfl | rfl | h
      · decide
      · decide
      · have hvisible := isVisible_of_mem_hex d h
        rw [isVisible, Bool.and_eq_true] at hvisible
        exact of_decide_eq_true hvisible.1
    · next hcontrol =>
      rw [Option.getD_none, List.mem_singleton] at h
      rw [h]
      omega

theorem isPrinted_string (s : String) : IsPrinted (string s) := by
  intro d hd
  rw [toList_string, List.mem_cons, List.mem_append, List.mem_flatMap, List.mem_singleton] at hd
  rcases hd with rfl | ⟨c, -, hc⟩ | rfl
  · decide
  · exact le_toNat_of_mem_charText hc
  · decide

theorem isPrinted_toString (n : Int) : IsPrinted (toString n) := by
  intro d hd
  rw [Yaml.toList_toString, List.mem_append] at hd
  rcases hd with hd | hd
  · cases hneg : decide (n < 0) with
    | true =>
      rw [hneg] at hd
      rw [List.mem_singleton.mp hd]
      decide
    | false =>
      rw [hneg] at hd
      cases hd
  · obtain ⟨hlow, -⟩ := Char.isDigit_iff_toNat.mp (Decimal.isDigit_of_mem_digits hd)
    exact Nat.le_trans (by decide) hlow

theorem isPrinted_joined {parts : List String} (h : ∀ part ∈ parts, IsPrinted part) :
    ∀ c ∈ joined parts, 32 ≤ c.toNat :=
  forall_mem_intercalate (isPrinted_of_all rfl) h

end Json

namespace Value

open Json Text

mutual

/-- No character of the compact form of exact data is a control character. -/
theorem isPrinted_line (v : Value) (hv : v.isExact = true) : IsPrinted (line .code v) := by
  cases v with
  | null => exact isPrinted_of_all rfl
  | bool b => cases b <;> exact isPrinted_of_all rfl
  | int n => exact isPrinted_toString n
  | str s => exact isPrinted_string s
  | list items =>
    have hparts := isPrinted_joined (isPrinted_of_mem_lineItems items hv)
    rw [IsPrinted, toList_line_list, List.forall_mem_cons, List.forall_mem_append,
      List.forall_mem_singleton]
    exact ⟨by decide, hparts, by decide⟩
  | object es =>
    rw [isExact, Bool.and_eq_true] at hv
    have hparts := isPrinted_joined (isPrinted_of_mem_lineEntries es hv.2)
    rw [IsPrinted, toList_line_object, List.forall_mem_cons, List.forall_mem_append,
      List.forall_mem_singleton]
    exact ⟨by decide, hparts, by decide⟩
  | float | bytes | moment | set | mapping | cycle => cases hv

theorem isPrinted_of_mem_lineItems : ∀ (items : List Value), itemsAreExact items = true →
    ∀ part ∈ lineItems .code items, IsPrinted part
  | [], _ => nofun
  | v :: items, h => by
    rw [itemsAreExact, Bool.and_eq_true] at h
    rw [lineItems_cons, List.forall_mem_cons]
    exact ⟨isPrinted_line v h.1, isPrinted_of_mem_lineItems items h.2⟩

theorem isPrinted_of_mem_lineEntries : ∀ (es : List (String × Value)),
    entriesAreExact es = true → ∀ part ∈ lineEntries .code es, IsPrinted part
  | [], _ => nofun
  | (key, v) :: es, h => by
    rw [entriesAreExact, Bool.and_eq_true] at h
    rw [lineEntries_cons, List.forall_mem_cons, IsPrinted, toList_entryText,
      List.forall_mem_append, List.forall_mem_cons]
    exact ⟨⟨isPrinted_string key, by decide, isPrinted_line v h.1⟩,
      isPrinted_of_mem_lineEntries es h.2⟩

end

end Value

end LayerDoc
