/-!
# Code points and bytes

A UTF-16 unit of a surrogate pair is no character, yet an escape by number can ask for one. Such a
unit is held in a text as a character of the last private area, from U+10F000 on. What writes a text
with escapes writes the unit again; a text that holds one cannot be encoded.

So the texts are the sequences of code points, those of units among them, that have none of the
characters U+10F000 to U+10F7FF themselves (`Surrogate.exists_codes_iff`), and each of them in one
way (`Surrogate.codes_injective`). Texts with one of these 2048 private characters are left out.
-/

namespace LayerDoc.Text

/-- The text that bytes hold, if they are well formed in UTF-8. -/
def ofUtf8? (bytes : List UInt8) : Option String := String.fromUTF8? ⟨bytes.toArray⟩

namespace Surrogate

/-- Whether a code is the first unit of a surrogate pair. -/
def isHigh (code : Nat) : Bool := 0xD800 ≤ code && code < 0xDC00

/-- Whether a code is the second unit of a surrogate pair. -/
def isLow (code : Nat) : Bool := 0xDC00 ≤ code && code < 0xE000

/-- The distance from a unit to the character that holds it. -/
def shift : Nat := 0x10F000 - 0xD800

/-- The character of a code; that of a unit is the one that holds it. -/
def ofCode (code : Nat) : Char :=
  if isHigh code || isLow code then Char.ofNat (code + shift) else Char.ofNat code

/-- The unit that a character holds. -/
def unit? (c : Char) : Option Nat :=
  if 0x10F000 ≤ c.toNat ∧ c.toNat < 0x10F800 then some (c.toNat - shift) else none

/-- The code point that a character stands for: its own, or the unit that it holds. -/
def code (c : Char) : Nat := (unit? c).getD c.toNat

/-- The code points of a text. -/
def codes (s : String) : List Nat := s.toList.map code

/-- The characters of a list of codes, with each surrogate pair read as one character. -/
def joinPairs : List Nat → List Char
  | [] => []
  | [code] => [ofCode code]
  | high :: low :: rest =>
    if isHigh high && isLow low then
      Char.ofNat (0x10000 + (high - 0xD800) * 0x400 + (low - 0xDC00)) :: joinPairs rest
    else ofCode high :: joinPairs (low :: rest)

/-- Whether some character of a text holds a unit. -/
def occursIn (s : String) : Bool := s.toList.any fun c => (unit? c).isSome

/-! ## The texts that there are -/

/-- The code points of texts: all but those of the characters that hold units. -/
def IsCode (n : Nat) : Prop := n < 0x110000 ∧ ¬ (0x10F000 ≤ n ∧ n < 0x10F800)

theorem isUnit_iff {n : Nat} : (isHigh n || isLow n) = true ↔ 0xD800 ≤ n ∧ n < 0xE000 := by
  simp only [isHigh, isLow, Bool.or_eq_true, Bool.and_eq_true, decide_eq_true_eq]
  omega

theorem toNat_cases (c : Char) : c.toNat < 0xD800 ∨ 0xDFFF < c.toNat ∧ c.toNat < 0x110000 :=
  c.valid

theorem toNat_ofNat {n : Nat} (h : n < 0xD800 ∨ 0xDFFF < n ∧ n < 0x110000) :
    (Char.ofNat n).toNat = n := by
  have hvalid : n.isValidChar := h
  rw [Char.ofNat, dif_pos hvalid]
  rfl

theorem ofCode_toNat (c : Char) : ofCode c.toNat = c := by
  have hcode : ¬ (isHigh c.toNat || isLow c.toNat) = true := by
    rw [isUnit_iff]
    rcases toNat_cases c with h | h <;> omega
  rw [ofCode, if_neg hcode, Char.ofNat_toNat]

/-- The unit that a character holds is a code of that character. -/
theorem ofCode_of_unit? {c : Char} {unit : Nat} (h : unit? c = some unit) :
    (0xD800 ≤ unit ∧ unit < 0xE000) ∧ ofCode unit = c := by
  unfold unit? at h
  split at h
  · next hc =>
    have hunit : c.toNat - shift = unit := Option.some.inj h
    have hshift : shift = 1054720 := rfl
    have hrange : 0xD800 ≤ unit ∧ unit < 0xE000 := by omega
    have hback : unit + shift = c.toNat := by omega
    rw [ofCode, if_pos (isUnit_iff.mpr hrange), hback, Char.ofNat_toNat]
    exact ⟨hrange, rfl⟩
  · cases h

theorem ofCode_code (c : Char) : ofCode (code c) = c := by
  unfold code
  cases hunit : unit? c with
  | some unit => exact (ofCode_of_unit? hunit).2
  | none => exact ofCode_toNat c

theorem isCode_code (c : Char) : IsCode (code c) := by
  unfold code
  cases hunit : unit? c with
  | some unit =>
    obtain ⟨hrange, -⟩ := ofCode_of_unit? hunit
    rw [Option.getD_some]
    exact ⟨by omega, by omega⟩
  | none =>
    unfold unit? at hunit
    split at hunit
    · cases hunit
    · next hout =>
      rw [Option.getD_none]
      exact ⟨by rcases toNat_cases c with h | h <;> omega, hout⟩

theorem code_ofCode {n : Nat} (h : IsCode n) : code (ofCode n) = n := by
  obtain ⟨hlt, hout⟩ := h
  have hshift : shift = 1054720 := rfl
  unfold ofCode
  split
  · next hunit =>
    have hrange := isUnit_iff.mp hunit
    have hchar : (Char.ofNat (n + shift)).toNat = n + shift := toNat_ofNat (by omega)
    rw [code, unit?, hchar, if_pos (by omega), Option.getD_some, Nat.add_sub_cancel]
  · next hunit =>
    rw [isUnit_iff] at hunit
    have hchar : (Char.ofNat n).toNat = n := toNat_ofNat (by omega)
    rw [code, unit?, hchar, if_neg hout, Option.getD_none]

/-- Texts with the same code points are the same. -/
theorem codes_injective {s t : String} (h : codes s = codes t) : s = t := by
  have hback : ∀ u : String, (codes u).map ofCode = u.toList := by
    intro u
    rw [codes, List.map_map]
    exact (List.map_congr_left fun c _ => ofCode_code c).trans (List.map_id _)
  exact String.toList_injective (by rw [← hback s, ← hback t, h])

/-- The texts are the sequences of code points without those of the characters that hold units. -/
theorem exists_codes_iff {cs : List Nat} : (∃ s, codes s = cs) ↔ ∀ n ∈ cs, IsCode n := by
  constructor
  · rintro ⟨s, rfl⟩ n hn
    obtain ⟨c, -, rfl⟩ := List.mem_map.mp hn
    exact isCode_code c
  · intro h
    refine ⟨String.ofList (cs.map ofCode), ?_⟩
    rw [codes, String.toList_ofList, List.map_map]
    exact (List.map_congr_left fun n hn => code_ofCode (h n hn)).trans (List.map_id _)

end Surrogate

/-!
## Base 64

Four characters of an alphabet of 64 stand for three bytes. At the end two or three characters,
filled up with equals signs, stand for one or two bytes. All other characters are passed over.
-/

namespace Base64

/-- The six bits that a character stands for. -/
def sextet? (c : Char) : Option Nat :=
  if 'A' ≤ c ∧ c ≤ 'Z' then some (c.toNat - 'A'.toNat)
  else if 'a' ≤ c ∧ c ≤ 'z' then some (c.toNat - 'a'.toNat + 26)
  else if '0' ≤ c ∧ c ≤ '9' then some (c.toNat - '0'.toNat + 52)
  else if c = '+' then some 62
  else if c = '/' then some 63
  else none

/-- The whole bytes of a group of up to four characters. -/
def groupBytes : List Nat → List UInt8
  | a :: b :: rest =>
    UInt8.ofNat (a * 4 + b / 16) ::
      match rest with
      | c :: rest =>
        UInt8.ofNat (b * 16 + c / 4) ::
          match rest with
          | d :: _ => [UInt8.ofNat (c * 64 + d)]
          | [] => []
      | [] => []
  | _ => []

/-- The bytes of a text after the characters of a group that is not full, and the equals signs that
were met in it. A group that is filled up ends the text; one that is left open is an error. -/
def decodeFrom : List Nat → Nat → List Char → Option (List UInt8)
  | group, _, [] => if group.isEmpty then some [] else none
  | group, filled, c :: rest =>
    if c = '=' then
      if group.length < 2 then decodeFrom group filled rest
      else if 4 ≤ group.length + filled + 1 then some (groupBytes group)
      else decodeFrom group (filled + 1) rest
    else
      match sextet? c with
      | none => decodeFrom group filled rest
      | some bits =>
        let group := group ++ [bits]
        if group.length = 4 then (decodeFrom [] 0 rest).map (groupBytes group ++ ·)
        else decodeFrom group 0 rest

/-- The bytes that a text stands for. -/
def decode? (cs : List Char) : Option (List UInt8) := decodeFrom [] 0 cs

end Base64

end LayerDoc.Text
