import LayerDoc.Proofs.Identifier
import Mathlib.Data.List.TakeWhile

/-!
# Identifiers of names

The words of a name hold those of its characters that can stand in an identifier, all of them and in
their order (`flatten_words`), and camel case turns each of them into such a character
(`isPart_of_mem_camelCase`). So words that are joined are an identifier, unless they begin with a
digit, and then an underscore mends this (`isValid_mended`). A name without any such character is
the only one that gives no identifier (`ofName_of_not_isValid`). An identifier has no blanks at its
ends and is kept (`identifies_any_name`).
-/

namespace LayerDoc

/-! ## Trimming -/

namespace Text

variable {p q : Char → Bool} {cs : List Char}

theorem filter_dropWhile (h : ∀ c, p c = true → q c = false) (cs : List Char) :
    (cs.dropWhile p).filter q = cs.filter q := by
  have hdropped : (cs.takeWhile p).filter q = [] :=
    List.filter_eq_nil_iff.mpr fun c hc => by simp [h c (List.mem_takeWhile_imp hc)]
  conv_rhs => rw [← List.takeWhile_append_dropWhile (p := p) (l := cs)]
  rw [List.filter_append, hdropped, List.nil_append]

/-- Characters of another kind are all kept. -/
theorem filter_stripped (h : ∀ c, p c = true → q c = false) (cs : List Char) :
    (stripped p cs).filter q = cs.filter q := by
  rw [stripped, List.filter_reverse, filter_dropWhile h, List.filter_reverse, List.reverse_reverse,
    filter_dropWhile h]

theorem stripped_of_forall_neg (h : ∀ c ∈ cs, p c = false) : stripped p cs = cs := by
  have hkept : ∀ ds : List Char, (∀ c ∈ ds, p c = false) → ds.dropWhile p = ds := by
    intro ds hds
    cases ds with
    | nil => rfl
    | cons c rest => exact List.dropWhile_cons_of_neg (by simp [hds c List.mem_cons_self])
  rw [stripped, hkept cs h, hkept cs.reverse (by simpa using h), List.reverse_reverse]

end Text

namespace Identifier

/-! ## Characters of identifiers -/

theorem toNat_le_of_isAlpha {c : Char} (h : c.isAlpha = true) : c.toNat ≤ 'z'.toNat := by
  rcases (Bool.or_eq_true _ _).mp h with hupper | hlower
  · have hle : c.val ≤ 'Z'.val := (of_decide_eq_true hupper).2
    exact Nat.le_trans (UInt32.le_iff_toNat_le.mp hle) (by decide)
  · have hle : c.val ≤ 'z'.val := of_decide_eq_true ((Bool.and_eq_true _ _).mp hlower).2
    exact UInt32.le_iff_toNat_le.mp hle

theorem toNat_lt_of_isPart {c : Char} (h : isPart c = true) : c.toNat < 128 := by
  simp only [isPart, isStart, Bool.or_eq_true, decide_eq_true_eq] at h
  rcases h with ((halpha | rfl) | rfl) | hdigit
  · exact Nat.lt_of_le_of_lt (toNat_le_of_isAlpha halpha) (by decide)
  · decide
  · decide
  · exact Nat.lt_of_le_of_lt (Char.isDigit_iff_toNat.mp hdigit).2 (by decide)

/-- A character of an identifier is one in either case, and it is no blank. -/
theorem facts_of_isPart {c : Char} (h : isPart c = true) :
    isPart c.toLower = true ∧ isPart c.toUpper = true ∧ Text.isBlank c = false := by
  have hall : ∀ n < 128, isPart (Char.ofNat n) = true →
      isPart (Char.ofNat n).toLower = true ∧ isPart (Char.ofNat n).toUpper = true ∧
        Text.isBlank (Char.ofNat n) = false := by decide +kernel
  have hc := hall c.toNat (toNat_lt_of_isPart h)
  rw [Char.ofNat_toNat] at hc
  exact hc h

/-- An identifier has nothing to trim. -/
theorem trim_of_isValid {cs : List Char} (h : isValid cs = true) : Text.trim cs = cs :=
  Text.stripped_of_forall_neg fun c hc => (facts_of_isPart (isPart_of_isValid h c hc)).2.2

/-! ## Words in camel case -/

/-- The words of a text hold all its characters that can stand in an identifier. -/
theorem flatten_words (cs : List Char) : (words cs).flatten = cs.filter isPart := by
  fun_induction words cs with
  | case1 => rfl
  | case2 c hc d tail word others hd hwords ih =>
    rw [List.filter_cons_of_pos hc, ← ih, hwords]
    simp [hd]
  | case3 c hc d tail word others hd hwords ih =>
    rw [List.filter_cons_of_pos hc, ← ih, hwords]
    simp [hd]
  | case4 c rest hc hlast ih =>
    rw [List.filter_cons_of_pos hc, ← ih]
    split
    · next hwords => exact (hlast _ _ _ _ rfl hwords).elim
    · rfl
  | case5 c rest hc ih => rw [List.filter_cons_of_neg hc, ih]

theorem flatten_words_trim (cs : List Char) :
    (words (Text.trim cs)).flatten = cs.filter isPart := by
  rw [flatten_words, Text.trim, Text.filter_stripped]
  intro c hblank
  refine Bool.eq_false_iff.mpr fun hpart => ?_
  rw [(facts_of_isPart hpart).2.2] at hblank
  cases hblank

theorem length_camelCase (ws : List (List Char)) :
    (camelCase ws).length = ws.flatten.length := by
  cases ws with
  | nil => rfl
  | cons word rest =>
    have hfirst : (uncapitalized word).length = word.length := by cases word <;> rfl
    have hothers : ∀ w : List Char, (capitalized w).length = w.length := by
      intro w
      cases w <;> simp [capitalized]
    rw [camelCase, List.length_append, hfirst, List.length_flatMap, List.flatten_cons,
      List.length_append, List.length_flatten]
    simp only [hothers]

theorem isPart_of_mem_camelCase {ws : List (List Char)} (h : ∀ c ∈ ws.flatten, isPart c = true) :
    ∀ c ∈ camelCase ws, isPart c = true := by
  cases ws with
  | nil => simp [camelCase]
  | cons word rest =>
    rw [List.flatten_cons, List.forall_mem_append] at h
    rw [camelCase, List.forall_mem_append]
    constructor
    · cases word with
      | nil => simp [uncapitalized]
      | cons c others =>
        rw [List.forall_mem_cons] at h
        rw [uncapitalized, List.forall_mem_cons]
        exact ⟨(facts_of_isPart h.1.1).1, h.1.2⟩
    · intro c hc
      obtain ⟨w, hw, hc⟩ := List.mem_flatMap.mp hc
      have hword : ∀ d ∈ w, isPart d = true := fun d hd => h.2 d (List.mem_flatten_of_mem hw hd)
      cases w with
      | nil => cases hc
      | cons d others =>
        rw [List.forall_mem_cons] at hword
        rcases List.mem_cons.mp hc with rfl | hc
        · exact (facts_of_isPart hword.1).2.1
        · obtain ⟨other, hother, rfl⟩ := List.mem_map.mp hc
          exact (facts_of_isPart (hword.2 other hother)).1

/-! ## What is joined is an identifier -/

/-- A text behind an underscore, if it begins with a character that an identifier cannot begin
with. -/
def mended : List Char → List Char
  | [] => []
  | c :: rest => if isStart c then c :: rest else '_' :: c :: rest

theorem isValid_mended {cs : List Char} (hne : cs ≠ []) (h : ∀ c ∈ cs, isPart c = true) :
    isValid (mended cs) = true := by
  cases cs with
  | nil => exact absurd rfl hne
  | cons c rest =>
    rw [mended]
    split
    · next hstart =>
      rw [List.forall_mem_cons] at h
      rw [isValid, hstart, Bool.true_and, List.all_eq_true]
      exact h.2
    · rw [isValid, List.all_eq_true.mpr h]
      rfl

/-- The words of a name joined in camel case. -/
def joined (name : String) : List Char := camelCase (words (Text.trim name.toList))

theorem joined_eq_nil_iff {name : String} :
    joined name = [] ↔ ∀ c ∈ name.toList, isPart c = false := by
  rw [← List.length_eq_zero_iff, joined, length_camelCase, flatten_words_trim,
    List.length_eq_zero_iff, List.filter_eq_nil_iff]
  simp

theorem isValid_mended_joined {name : String} (hne : joined name ≠ []) :
    isValid (mended (joined name)) = true := by
  refine isValid_mended hne (isPart_of_mem_camelCase ?_)
  rw [flatten_words_trim]
  exact fun c hc => (List.mem_filter.mp hc).2

theorem ofName_of_isValid {name : String} (h : isValid (Text.trim name.toList) = true) :
    ofName name = String.ofList (Text.trim name.toList) := by
  rw [ofName, if_pos h]

/-- A name that is no identifier gives one made of its words, if it has any. -/
theorem ofName_of_not_isValid {name : String} (h : isValid (Text.trim name.toList) = false) :
    ofName name = if joined name = [] then fallback else String.ofList (mended (joined name)) := by
  have hvalid : joined name ≠ [] → isValid (mended (joined name)) = true := isValid_mended_joined
  unfold joined at hvalid ⊢
  rw [ofName, h, if_neg Bool.false_ne_true]
  cases hjoined : camelCase (words (Text.trim name.toList)) with
  | nil => rfl
  | cons c rest =>
    rw [hjoined] at hvalid
    rw [if_neg (List.cons_ne_nil c rest)]
    exact if_pos (hvalid (List.cons_ne_nil c rest))

/-- Only the fallback is mended to the fallback. -/
theorem mended_eq_fallback_iff {cs : List Char} :
    mended cs = fallback.toList ↔ cs = fallback.toList := by
  constructor
  · intro h
    cases cs with
    | nil => exact h
    | cons c rest =>
      rw [mended] at h
      split at h
      · exact h
      · exact absurd (List.head_eq_of_cons_eq h) (by decide)
  · rintro rfl
    rfl

/-- An identifier is its own identifier. -/
theorem ofName_eq_self {identifier : String} (h : isValid identifier.toList = true) :
    ofName identifier = identifier := by
  have htrim := trim_of_isValid h
  rw [ofName_of_isValid (by rwa [htrim]), htrim, String.ofList_toList]

/-- Every name gives an identifier, whatever its characters:

* it has the form of one, and it is its own identifier;
* a name that is an identifier but for blanks at its ends is kept without these;
* any other name gives the fallback exactly if it has no character that can stand in an identifier
or if its words are the fallback in camel case. If it has such a character, then its words in camel
case, behind an underscore if they begin with a digit, are an identifier, and the one that the name
gives. -/
theorem identifies_any_name (name : String) :
    isValid (ofName name).toList = true ∧
    ofName (ofName name) = ofName name ∧
    (isValid (Text.trim name.toList) = true →
      (ofName name).toList = Text.trim name.toList) ∧
    (isValid (Text.trim name.toList) = false →
      (ofName name = fallback ↔
        (∀ c ∈ name.toList, isPart c = false) ∨ joined name = fallback.toList) ∧
      ((∃ c ∈ name.toList, isPart c = true) →
        isValid (mended (joined name)) = true ∧ (ofName name).toList = mended (joined name))) := by
  refine ⟨isValid_ofName name, ofName_eq_self (isValid_ofName name), fun hvalid => ?_,
    fun hvalid => ⟨?_, fun ⟨c, hc, hpart⟩ => ?_⟩⟩
  · rw [ofName_of_isValid hvalid, String.toList_ofList]
  · rw [ofName_of_not_isValid hvalid, ← joined_eq_nil_iff]
    split
    · next hnil => simp [hnil]
    · next hne =>
        rw [← String.toList_inj, String.toList_ofList, mended_eq_fallback_iff, or_iff_right hne]
  · have hne : joined name ≠ [] := by
      intro hnil
      rw [joined_eq_nil_iff.mp hnil c hc] at hpart
      cases hpart
    rw [ofName_of_not_isValid hvalid, if_neg hne, String.toList_ofList]
    exact ⟨isValid_mended_joined hne, rfl⟩

/-- A name between blanks is kept; a name of three scripts begins with a digit; one name has the
fallback for its only word, and one has no word. -/
theorem identifies_four_names :
    (isValid (Text.trim "\u2003 $el\x1f".toList) = true ∧
      (ofName "\u2003 $el\x1f").toList = Text.trim "\u2003 $el\x1f".toList) ∧
    (isValid (Text.trim "2 fast für日本".toList) = false ∧
      (∃ c ∈ "2 fast für日本".toList, isPart c = true) ∧
      isValid (mended (joined "2 fast für日本")) = true ∧
      (ofName "2 fast für日本").toList = "_2FastFR".toList) ∧
    (isValid (Text.trim "Variable!".toList) = false ∧ ofName "Variable!" = fallback ∧
      joined "Variable!" = fallback.toList) ∧
    isValid (Text.trim "日本".toList) = false ∧ ofName "日本" = fallback ∧
      ∀ c ∈ "日本".toList, isPart c = false := by
  obtain ⟨-, -, hkept, -⟩ := identifies_any_name "\u2003 $el\x1f"
  obtain ⟨-, -, -, hdigit⟩ := identifies_any_name "2 fast für日本"
  obtain ⟨-, -, -, hword⟩ := identifies_any_name "Variable!"
  obtain ⟨-, -, -, hnone⟩ := identifies_any_name "日本"
  have hblank : isValid (Text.trim "\u2003 $el\x1f".toList) = true := by decide +kernel
  have hspaced : isValid (Text.trim "2 fast für日本".toList) = false := by decide +kernel
  have hmarked : isValid (Text.trim "Variable!".toList) = false := by decide +kernel
  have hforeign : isValid (Text.trim "日本".toList) = false := by decide +kernel
  have hpart : ∃ c ∈ "2 fast für日本".toList, isPart c = true := ⟨'2', by simp, by decide⟩
  have hjoined : joined "Variable!" = fallback.toList := by decide +kernel
  have hempty : ∀ c ∈ "日本".toList, isPart c = false := joined_eq_nil_iff.mp (by decide +kernel)
  obtain ⟨hmended, hname⟩ := (hdigit hspaced).2 hpart
  refine ⟨⟨hblank, hkept hblank⟩, ⟨hspaced, hpart, hmended, hname.trans (by decide +kernel)⟩,
    ⟨hmarked, (hword hmarked).1.mpr (Or.inr hjoined), hjoined⟩,
    hforeign, (hnone hforeign).1.mpr (Or.inl hempty), hempty⟩

end Identifier

end LayerDoc
