import LayerDoc.Proofs.Value.Json
import LayerDoc.Proofs.Yaml.Numbers
import LayerDoc.Proofs.Yaml.Scanning

/-!
# Data that YAML reads from JSON as it is

JSON is not quite a part of YAML 1.1. What a reader of YAML takes for something else is told apart
here (`Value.isPortable`): a character that is written as two units, a floating point number that is
written without a point, a whole number of too many digits, and a key that is too long. What is left
is a plain scalar that is read as itself (`Value.exists_kind_of_isPlainScalar`), quoted text, or
made of such parts.
-/

namespace LayerDoc

/-- Whether each character of a text is written as at most one unit. -/
def Text.isPortable (s : String) : Bool := s.toList.all isSingleUnit

/-- Whether a text can be a key: it must not be too long for one where it is written, and units that
are no characters are not kept in keys. -/
def Text.isPortableKey (s : String) : Bool :=
  s.toList.all (·.toNat < 0x10000) && (Json.stringAscii s).length ≤ 1024

namespace Value

mutual

/-- Whether a reader of YAML takes what is written as JSON for the value itself. -/
def isPortable : Value → Bool
  | .null => true
  | .bool _ => true
  | .int n => isWritable n
  | .float d => (d.text .json).toList.contains '.'
  | .str s => Text.isPortable s
  | .list items => itemsArePortable items
  | .object es => (es.map Prod.fst).Nodup && entriesArePortable es
  | _ => false

/-- `isPortable` of all items. -/
def itemsArePortable : List Value → Bool
  | [] => true
  | v :: rest => v.isPortable && itemsArePortable rest

/-- `isPortable` of all entries, with their keys. -/
def entriesArePortable : List (String × Value) → Bool
  | [] => true
  | (k, v) :: rest => Text.isPortableKey k && v.isPortable && entriesArePortable rest

end

end Value

theorem Text.isSingleUnit_of_isPortable {s : String} (h : isPortable s = true) :
    ∀ ch ∈ s.toList, isSingleUnit ch = true :=
  List.all_eq_true.mp h

/-- What a text that can be a key is made of, and how long it is where it is written. -/
theorem Text.parts_of_isPortableKey {s : String} (h : isPortableKey s = true) :
    Surrogate.occursIn s = false ∧ isPortable s = true ∧ (Json.stringAscii s).length ≤ 1024 := by
  rw [isPortableKey, Bool.and_eq_true, decide_eq_true_eq, List.all_eq_true] at h
  obtain ⟨hall, hlength⟩ := h
  have hcode : ∀ ch ∈ s.toList, ch.toNat < 0x10000 := fun ch hch => of_decide_eq_true (hall ch hch)
  refine ⟨?_, ?_, hlength⟩
  · rw [Surrogate.occursIn, List.any_eq_false]
    intro ch hch
    have hlt := hcode ch hch
    rw [Surrogate.unit?, if_neg (by omega)]
    exact Bool.false_ne_true
  · rw [isPortable, List.all_eq_true]
    intro ch hch
    rw [isSingleUnit, decide_eq_true (hcode ch hch), Bool.true_or]

theorem Double.isFinite_of_point {d : Double} (hpoint : '.' ∈ (d.text .json).toList) :
    d.isFinite = true := by
  unfold text at hpoint
  cases hcontent : d.content with
  | nan =>
    rw [hcontent] at hpoint
    exact absurd hpoint (by decide)
  | infinite negative =>
    rw [hcontent] at hpoint
    cases negative <;> exact absurd hpoint (by decide)
  | finite negative m q => rw [isFinite, hcontent]

namespace Value

mutual

theorem isJson_of_isPortable (v : Value) (h : v.isPortable = true) : v.isJson = true := by
  cases v with
  | float d => exact Double.isFinite_of_point (List.contains_iff_mem.mp h)
  | list items => exact itemsAreJson_of_itemsArePortable items h
  | object es =>
    rw [isPortable, Bool.and_eq_true] at h
    exact entriesAreJson_of_entriesArePortable es h.2
  | null | bool | int | str => rfl
  | bytes | moment | set | mapping | cycle => cases h

theorem itemsAreJson_of_itemsArePortable : ∀ (items : List Value),
    itemsArePortable items = true → itemsAreJson items = true
  | [], _ => rfl
  | v :: rest, h => by
    rw [itemsArePortable, Bool.and_eq_true] at h
    rw [itemsAreJson, isJson_of_isPortable v h.1, itemsAreJson_of_itemsArePortable rest h.2]
    rfl

theorem entriesAreJson_of_entriesArePortable : ∀ (es : List (String × Value)),
    entriesArePortable es = true → entriesAreJson es = true
  | [], _ => rfl
  | (k, v) :: rest, h => by
    rw [entriesArePortable, Bool.and_eq_true, Bool.and_eq_true] at h
    rw [entriesAreJson, (Text.parts_of_isPortableKey h.1.1).1, isJson_of_isPortable v h.1.2,
      entriesAreJson_of_entriesArePortable rest h.2]
    rfl

end

/-! ## Plain scalars -/

/-- Whether a value is written as a plain scalar. -/
def isPlainScalar : Value → Bool
  | .null => true
  | .bool _ => true
  | .int _ => true
  | .float _ => true
  | _ => false

/-- What is written for a plain scalar. -/
def plainText (v : Value) : String := Json.indented 0 v

end Value

open Yaml

theorem isPlainChar_of_mem_numberChars {c : Char} (h : c ∈ numberChars) : isPlainChar c = true := by
  have hall : numberChars.all isPlainChar = true := by decide
  exact List.all_eq_true.mp hall c h

theorem beginsPlain_signed (negative : Bool) {c : Char} (hc : c.isDigit = true) (rest : List Char) :
    BeginsPlain (Double.signChars negative ++ c :: rest) := by
  have hletter : c.isAlphanum = true := by rw [Char.isAlphanum, hc, Bool.or_true]
  cases negative
  · exact ⟨c, rest, hletter, Or.inl rfl⟩
  · exact ⟨c, rest, hletter, Or.inr rfl⟩

/-- What is written for a plain scalar is one, of the form that the reader asks for. -/
theorem Value.isPlain_plainText {v : Value} (hv : v.isPlainScalar = true)
    (hportable : v.isPortable = true) :
    BeginsPlain v.plainText.toList ∧ ∀ c ∈ v.plainText.toList, isPlainChar c = true := by
  cases v with
  | null => exact ⟨⟨'n', ['u', 'l', 'l'], rfl, Or.inl rfl⟩, List.all_eq_true.mp rfl⟩
  | bool b =>
    cases b
    · exact ⟨⟨'f', ['a', 'l', 's', 'e'], rfl, Or.inl rfl⟩, List.all_eq_true.mp rfl⟩
    · exact ⟨⟨'t', ['r', 'u', 'e'], rfl, Or.inl rfl⟩, List.all_eq_true.mp rfl⟩
  | int n =>
    obtain ⟨c, rest, hsplit⟩ := List.exists_cons_of_ne_nil (Decimal.digits_ne_nil n.natAbs)
    have hdigits : ∀ c ∈ Decimal.digits n.natAbs, c.isDigit = true :=
      fun c hc => Decimal.isDigit_of_mem_digits hc
    have htext : (plainText (.int n)).toList =
        Double.signChars (n < 0) ++ Decimal.digits n.natAbs := toList_toString n
    have hall := mem_numberChars_signed (n < 0)
      fun c hc => mem_numberChars_of_isDigit (hdigits c hc)
    rw [htext]
    refine ⟨?_, fun c hc => isPlainChar_of_mem_numberChars (hall c hc)⟩
    rw [hsplit]
    exact beginsPlain_signed (n < 0) (hdigits c (hsplit ▸ List.mem_cons_self)) rest
  | float d =>
    obtain ⟨negative, n, hn, htext, -⟩ :=
      Double.exists_numeral (d := d) (List.contains_iff_mem.mp hportable)
    obtain ⟨c, rest, hc, hsplit⟩ := hn.exists_first
    have hall := mem_numberChars_signed negative fun c hc => hn.mem_numberChars hc
    have htext' : (plainText (.float d)).toList = Double.signChars negative ++ n.chars := htext
    rw [htext']
    refine ⟨?_, fun c hc => isPlainChar_of_mem_numberChars (hall c hc)⟩
    rw [hsplit]
    exact beginsPlain_signed negative hc rest
  | str | list | object | bytes | moment | set | mapping | cycle => cases hv

theorem Value.natAbs_lt_of_isWritable {n : Int} (h : isWritable n = true) :
    n.natAbs < 10 ^ mostDigits := by
  unfold isWritable at h
  generalize hk : 4300 = k at h
  have hmost : mostDigits = k := hk
  rw [hmost]
  exact of_decide_eq_true h

/-- A plain scalar is read as the value that it is written for. -/
theorem Value.exists_kind_of_isPlainScalar {v : Value} (hv : v.isPlainScalar = true)
    (hportable : v.isPortable = true) :
    ∃ kind, Tag.ofText v.plainText = .scalar kind ∧ kind.value v.plainText.toList = .ok v := by
  cases v with
  | null => exact ⟨.null, by decide +kernel, rfl⟩
  | bool b =>
    cases b
    · exact ⟨.bool, by decide +kernel, rfl⟩
    · exact ⟨.bool, by decide +kernel, rfl⟩
  | int n =>
    have hn := natAbs_lt_of_isWritable hportable
    refine ⟨.int, ofText_toString n, ?_⟩
    have hvalue : intValue (plainText (.int n)).toList = .ok n := intValue_toString hn
    rw [Kind.value, hvalue]
    rfl
  | float d =>
    have hpoint := List.contains_iff_mem.mp hportable
    refine ⟨.float, ofText_text hpoint, ?_⟩
    have hvalue : floatValue (plainText (.float d)).toList = .ok d := floatValue_text hpoint
    rw [Kind.value, hvalue]
    rfl
  | str | list | object | bytes | moment | set | mapping | cycle => cases hv

end LayerDoc
