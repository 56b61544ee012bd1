import LayerDoc.Json.Reader
import LayerDoc.Proofs.Json.Escapes

/-!
# Texts in compact JSON

Each character of a text is written as itself or as one escape, and a reader takes either for the
code of that character (`Json.readCodes_charText`). No character has the code of a unit of a pair,
so the codes are put together to the text again (`Json.readString_written`).
-/

namespace LayerDoc

/-- What holds of each character of the separator and of the parts holds of each of the whole. -/
theorem Text.forall_mem_intercalate {P : Char → Prop} {sep : String} {parts : List String}
    (hsep : ∀ c ∈ sep.toList, P c) (hparts : ∀ p ∈ parts, ∀ c ∈ p.toList, P c) :
    ∀ c ∈ (String.intercalate sep parts).toList, P c := by
  induction parts with
  | nil => simp
  | cons p parts ih =>
    rw [List.forall_mem_cons] at hparts
    cases parts with
    | nil => simpa using hparts.1
    | cons q parts =>
      rw [String.intercalate_cons_cons, String.toList_append, String.toList_append,
        List.forall_mem_append, List.forall_mem_append]
      exact ⟨⟨hparts.1, hsep⟩, ih hparts.2⟩

namespace Text.Surrogate

theorem isHigh_toNat (c : Char) : isHigh c.toNat = false := by
  have hvalid := c.valid
  rw [isHigh, Bool.and_eq_false_iff, decide_eq_false_iff_not, decide_eq_false_iff_not]
  rcases hvalid with h | h
  · have : c.toNat < 0xD800 := h
    omega
  · have : 0xDFFF < c.toNat := h.1
    omega

/-- The codes of characters are put together to these characters. -/
theorem joinPairs_toNat (cs : List Char) : joinPairs (cs.map Char.toNat) = cs := by
  induction cs with
  | nil => rfl
  | cons c rest ih =>
    cases rest with
    | nil => rw [List.map_singleton, joinPairs, ofCode_toNat]
    | cons d rest =>
      rw [List.map_cons] at ih
      rw [List.map_cons, List.map_cons, joinPairs, isHigh_toNat, Bool.false_and, ofCode_toNat, ih]
      rfl

end Text.Surrogate

namespace Json

theorem readCodes_letter {letter c : Char} (hletter : letterEscape? letter = some c)
    (hu : letter ≠ 'u') (rest : List Char) :
    readCodes ('\\' :: letter :: rest) =
      (readCodes rest).map fun (codes, after) => (c.toNat :: codes, after) := by
  rw [readCodes]
  · rw [hletter]
    cases readCodes rest <;> rfl
  · exact fun _ _ _ _ _ h => absurd h hu

theorem readCodes_unitEscape {n : Nat} (h : n < 32) (rest : List Char) :
    readCodes (unitEscape n ++ rest) =
      (readCodes rest).map fun (codes, after) => (n :: codes, after) := by
  have hdigits : ∀ n < 32, Text.hex 4 n = ['0', '0', (n / 16).digitChar, (n % 16).digitChar] ∧
      unit? '0' '0' (n / 16).digitChar (n % 16).digitChar = some n := by decide
  obtain ⟨hhex, hunit⟩ := hdigits n h
  rw [unitEscape, hhex]
  simp only [List.cons_append, List.nil_append]
  rw [readCodes, hunit]
  cases readCodes rest <;> rfl

theorem exists_letter_of_charText {c : Char} (h : c ∈ lettered) :
    ∃ letter, charText c = ['\\', letter] ∧ letterEscape? letter = some c ∧ letter ≠ 'u' := by
  simp only [lettered, List.mem_cons, List.not_mem_nil, or_false] at h
  rcases h with rfl | rfl | rfl | rfl | rfl | rfl | rfl <;> exact ⟨_, rfl, rfl, by decide⟩

theorem readCodes_plain {c : Char} (hquote : c ≠ '"') (hslash : c ≠ '\\') (h : ¬ c.toNat < 32)
    (rest : List Char) :
    readCodes (c :: rest) =
      (readCodes rest).map fun (codes, after) => (c.toNat :: codes, after) := by
  rw [readCodes]
  · rw [if_neg h]
    cases readCodes rest <;> rfl
  · exact fun he => absurd he hquote
  · exact fun _ _ _ _ _ he => absurd he hslash
  · exact fun _ _ he => absurd he hslash

/-- What a character is written as is read as the code of that character. -/
theorem readCodes_charText (c : Char) (rest : List Char) :
    readCodes (charText c ++ rest) =
      (readCodes rest).map fun (codes, after) => (c.toNat :: codes, after) := by
  by_cases hletter : c ∈ lettered
  · obtain ⟨letter, htext, hback, hu⟩ := exists_letter_of_charText hletter
    rw [htext]
    exact readCodes_letter hback hu rest
  · rw [charText, escaped?_of_not_mem_lettered hletter]
    by_cases hcontrol : c.toNat < 32
    · rw [if_pos hcontrol, Option.getD_some, readCodes_unitEscape hcontrol]
    · have hquote : c ≠ '"' := fun he => hletter (he ▸ by decide)
      have hslash : c ≠ '\\' := fun he => hletter (he ▸ by decide)
      rw [if_neg hcontrol, Option.getD_none, List.singleton_append,
        readCodes_plain hquote hslash hcontrol]

theorem readCodes_written (cs rest : List Char) :
    readCodes (cs.flatMap charText ++ '"' :: rest) = some (cs.map Char.toNat, rest) := by
  induction cs with
  | nil => rfl
  | cons c cs ih =>
    rw [List.flatMap_cons, List.append_assoc, readCodes_charText, ih]
    rfl

/-- A text is read back from what it is written as between quotes. -/
theorem readString_written (s : String) (rest : List Char) :
    readString (s.toList.flatMap charText ++ '"' :: rest) = some (s, rest) := by
  rw [readString, readCodes_written]
  simp [Text.Surrogate.joinPairs_toNat]

@[simp] theorem line_code_str (s : String) : line .code (.str s) = string s := rfl

end Json

end LayerDoc
