import LayerDoc.Json.Printer
import LayerDoc.Proofs.Supply
import LayerDoc.Yaml.Token
import Mathlib.Data.Nat.Digits.Lemmas
import Mathlib.Tactic.IntervalCases

/-!
# Characters inside quotes

A character inside quotes is written as itself, with a letter after a backslash, or by the code of a
unit. A reader of YAML takes each of these forms for the character again (`Json.charAscii_cases`),
unless the character is written as two units: it reads one character for each of them.
-/

namespace LayerDoc

/-- Whether a character is written as at most one unit. -/
def Text.isSingleUnit (c : Char) : Bool := c.toNat < 0x10000 || (Surrogate.unit? c).isSome

/-- Whether a character is a visible one of ASCII, or a blank. -/
def Text.isVisible (c : Char) : Bool := 32 ≤ c.toNat && c.toNat < 127

/-! ## Codes -/

namespace Text

theorem exists_digitChar_of_mem_toDigits {n : Nat} {c : Char} (h : c ∈ Nat.toDigits 16 n) :
    ∃ d < 16, c = d.digitChar := by
  induction n using Nat.strongRecOn with
  | ind n ih =>
    by_cases hn : n < 16
    · rw [Nat.toDigits_of_lt_base hn, List.mem_singleton] at h
      exact ⟨n, hn, h⟩
    · rw [Nat.toDigits_of_base_le (by omega) (by omega), List.mem_append, List.mem_singleton] at h
      rcases h with h | rfl
      · exact ih (n / 16) (by omega) h
      · exact ⟨n % 16, by omega, rfl⟩

theorem exists_digitChar_of_mem_hex {size n : Nat} {c : Char} (h : c ∈ hex size n) :
    ∃ d < 16, c = d.digitChar := by
  rcases List.mem_append.mp h with h | h
  · rw [List.eq_of_mem_replicate h]
    exact ⟨0, by norm_num, rfl⟩
  · exact exists_digitChar_of_mem_toDigits h

theorem isVisible_of_mem_hex {size n : Nat} : ∀ c ∈ hex size n, isVisible c = true := by
  have hdigit : ∀ d < 16, isVisible d.digitChar = true := by decide
  intro c hc
  obtain ⟨d, hd, rfl⟩ := exists_digitChar_of_mem_hex hc
  exact hdigit d hd

theorem length_hex {n : Nat} (h : n < 0x10000) : (hex 4 n).length = 4 := by
  have hlength : (Nat.toDigits 16 n).length ≤ 4 :=
    (Nat.length_toDigits_le_iff (by norm_num) (by norm_num)).mpr h
  rw [hex, List.length_append, List.length_replicate]
  omega

end Text

namespace Yaml

/-- Hexadecimal digits are read as the number that they stand for. -/
theorem hexValue?_eq_some {cs : List Char} (h : ∀ c ∈ cs, ∃ d < 16, c = d.digitChar) :
    hexValue? cs = some (Supply.hexValue cs) := by
  have hdigit : ∀ d < 16,
      Json.hexDigit? d.digitChar = some (Supply.hexDigit d.digitChar) := by decide
  unfold hexValue? Supply.hexValue
  generalize 0 = n
  induction cs generalizing n with
  | nil => rfl
  | cons c cs ih =>
    rw [List.forall_mem_cons] at h
    obtain ⟨⟨d, hd, rfl⟩, hcs⟩ := h
    rw [List.foldlM_cons, List.foldl_cons, hdigit d hd, ← ih hcs, Nat.mul_comm 16]
    rfl

theorem hexValue?_hex (size n : Nat) : hexValue? (Text.hex size n) = some n := by
  rw [hexValue?_eq_some fun c hc => Text.exists_digitChar_of_mem_hex hc, Text.hex,
    Supply.hexValue_zeros_append, Supply.hexValue_toDigits]

end Yaml

theorem Yaml.charOfCode_eq {code : Nat} (h : code < 0x10000) :
    charOfCode code = .ok (Text.Surrogate.ofCode code) := by
  have hsmall : ¬ Nat.pow 2 31 ≤ code := by
    have hpow : Nat.pow 2 31 = 2147483648 := by norm_num
    omega
  rw [charOfCode, if_neg hsmall, if_neg (by omega)]

/-! ## The forms of a character -/

namespace Json

/-- The characters that have an escape with a letter. -/
def lettered : List Char := ['"', '\\', '\n', '\r', '\t', '\x08', '\x0c']

theorem exists_letter_of_mem_lettered {c : Char} (h : c ∈ lettered) :
    ∃ letter, escaped? c = some ['\\', letter] ∧ Text.isVisible letter = true ∧
      Yaml.letterEscape? letter = some c := by
  simp only [lettered, List.mem_cons, List.not_mem_nil, or_false] at h
  rcases h with rfl | rfl | rfl | rfl | rfl | rfl | rfl <;> exact ⟨_, rfl, rfl, rfl⟩

theorem escaped?_of_not_mem_lettered {c : Char} (h : c ∉ lettered) :
    escaped? c = if c.toNat < 32 then some (unitEscape c.toNat) else none := by
  simp only [lettered, List.mem_cons, List.not_mem_nil, or_false, not_or] at h
  obtain ⟨hquote, hslash, hfeed, hreturn, htab, hback, hpage⟩ := h
  rw [escaped?, if_neg hquote, if_neg hslash, if_neg hfeed, if_neg hreturn, if_neg htab,
    if_neg hback, if_neg hpage]

/-- The three forms of a character that is written as at most one unit, and what a reader takes each
of them for. -/
theorem charAscii_cases {c : Char} (h : Text.isSingleUnit c = true) :
    (charAscii c = [c] ∧ Text.isVisible c = true ∧ c ≠ '"' ∧ c ≠ '\\') ∨
      (∃ letter, charAscii c = ['\\', letter] ∧ Text.isVisible letter = true ∧
        Yaml.letterEscape? letter = some c) ∨
      ∃ unit, charAscii c = unitEscape unit ∧ unit < 0x10000 ∧ Text.Surrogate.ofCode unit = c := by
  rw [Text.isSingleUnit, Bool.or_eq_true, decide_eq_true_eq] at h
  unfold charAscii
  by_cases hletter : c ∈ lettered
  · obtain ⟨letter, htext, hvisible, hback⟩ := exists_letter_of_mem_lettered hletter
    rw [htext]
    exact Or.inr (Or.inl ⟨letter, rfl, hvisible, hback⟩)
  · rw [escaped?_of_not_mem_lettered hletter]
    by_cases hcontrol : c.toNat < 32
    · rw [if_pos hcontrol]
      exact Or.inr (Or.inr ⟨c.toNat, rfl, by omega, Text.Surrogate.ofCode_toNat c⟩)
    · rw [if_neg hcontrol]
      cases hunit : Text.Surrogate.unit? c with
      | some unit =>
        obtain ⟨hrange, hcode⟩ := Text.Surrogate.ofCode_of_unit? hunit
        exact Or.inr (Or.inr ⟨unit, rfl, by omega, hcode⟩)
      | none =>
        have hcode : c.toNat < 0x10000 := h.resolve_right (by simp [hunit])
        by_cases hascii : c.toNat < 127
        · refine Or.inl ⟨if_pos hascii, ?_, ?_, ?_⟩
          · simp only [Text.isVisible, Bool.and_eq_true, decide_eq_true_eq]
            omega
          · exact fun he => hletter (he ▸ by decide)
          · exact fun he => hletter (he ▸ by decide)
        · refine Or.inr (Or.inr ⟨c.toNat, ?_, hcode, Text.Surrogate.ofCode_toNat c⟩)
          dsimp only
          rw [if_neg hascii, if_pos hcode]

theorem isVisible_of_mem_charAscii {c : Char} (h : Text.isSingleUnit c = true) :
    ∀ d ∈ charAscii c, Text.isVisible d = true := by
  rcases charAscii_cases h with ⟨htext, hc, -⟩ | ⟨letter, htext, hletter, -⟩ | ⟨unit, htext, -⟩
  · simpa [htext] using hc
  · simpa [htext] using ⟨by decide, hletter⟩
  · rw [htext, unitEscape, List.forall_mem_cons, List.forall_mem_cons]
    exact ⟨by decide, by decide, Text.isVisible_of_mem_hex⟩

end Json

end LayerDoc
