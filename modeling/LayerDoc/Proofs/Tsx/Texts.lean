import LayerDoc.Proofs.Json.Strings
import LayerDoc.Tsx.Element
import Mathlib.Data.List.TakeWhile

/-!
# Texts as attributes

A text is the value of an attribute in one of two forms. Between braces it is JSON, and every text
is read back from that (`readValue?_braced`). Between double quotes nothing is escaped, while a
reader takes the character references of HTML there for what they stand for (`readValue?_quoted`).
The form in quotes is chosen for every text that has neither a double quote nor a line feed, so a
text with a reference and without these is read as another text, and it is the only kind that is
(`kept_unless_referring`).
-/

namespace LayerDoc.Tsx

/-! ## Character references -/

/-- A text parted at the first of a mark. -/
def parted? (mark : Char) (cs : List Char) : Option (List Char × List Char) :=
  match cs.dropWhile (· ≠ mark) with
  | [] => none
  | _ :: after => some (cs.takeWhile (· ≠ mark), after)

theorem parted?_eq_some_iff {mark : Char} {cs before after : List Char} :
    parted? mark cs = some (before, after) ↔ cs = before ++ mark :: after ∧ mark ∉ before := by
  rw [parted?]
  constructor
  · intro h
    have hparts := List.takeWhile_append_dropWhile (p := (· ≠ mark)) (l := cs)
    have hhead := List.head?_dropWhile_not (· ≠ mark) cs
    split at h
    · cases h
    · next c rest hrest =>
      rw [hrest] at hparts hhead
      cases h
      have hc : c = mark := by simpa using hhead
      rw [hc] at hparts
      refine ⟨hparts.symm, fun hmem => ?_⟩
      simpa using List.mem_takeWhile_imp hmem
  · rintro ⟨rfl, hbefore⟩
    have hall : ∀ c ∈ before, decide (c ≠ mark) = true := by
      intro c hc
      exact decide_eq_true fun he => hbefore (he ▸ hc)
    rw [List.takeWhile_append_of_pos hall, List.dropWhile_append_of_pos hall]
    simp

/-- The character references of a dialect: what a text between `&` and `;` stands for, if it is that
of a reference. It is never longer than this text. -/
structure References where
  value? : List Char → Option (List Char)
  length_le : ∀ {body text}, value? body = some text → text.length ≤ body.length

namespace References

/-- The number that digits of a base stand for. -/
def codeOf? (base : Nat) (ds : List Char) : Option Nat :=
  ds.foldlM
    (fun n c => (Json.hexDigit? c).bind fun d => if d < base then some (base * n + d) else none) 0

/-- The character of a code, or the replacement character if it is that of none. -/
def charOf (code : Nat) : Char := if code.isValidChar then Char.ofNat code else '\ufffd'

/-- The character that a reference by decimal or hexadecimal code or by name stands for. -/
def char? (names : Entries Char) : List Char → Option Char
  | [] => none
  | '#' :: 'x' :: d :: ds => (codeOf? 16 (d :: ds)).map charOf
  | '#' :: d :: ds => (codeOf? 10 (d :: ds)).map charOf
  | name => Entries.get? names (String.ofList name)

/-- The references by code, and those by the names of a table. -/
def ofNames (names : Entries Char) : References where
  value? body := (char? names body).map fun c => [c]
  length_le := by
    intro body text h
    obtain ⟨c, hc, rfl⟩ := Option.map_eq_some_iff.mp h
    cases body with
    | nil => cases hc
    | cons first rest => simp

variable (refs : References)

/-- What a reference at the front of a text stands for, and what follows the reference. -/
def leading? : List Char → Option (List Char × List Char)
  | '&' :: rest => do
    let (body, after) ← parted? ';' rest
    let text ← refs.value? body
    return (text, after)
  | _ => none

/-- A text has a reference in it. -/
def OccursIn (cs : List Char) : Prop :=
  ∃ before body text after, cs = before ++ '&' :: (body ++ ';' :: after) ∧ ';' ∉ body ∧
    refs.value? body = some text

variable {refs}

theorem leading?_eq_some_iff {cs text after : List Char} :
    refs.leading? cs = some (text, after) ↔
      ∃ body, cs = '&' :: (body ++ ';' :: after) ∧ ';' ∉ body ∧ refs.value? body = some text := by
  constructor
  · intro h
    unfold leading? at h
    split at h
    · next rest =>
      obtain ⟨⟨body, following⟩, hparted, hread⟩ := Option.bind_eq_some_iff.mp h
      obtain ⟨value, hvalue, hpair⟩ := Option.bind_eq_some_iff.mp hread
      cases hpair
      obtain ⟨rfl, hbody⟩ := parted?_eq_some_iff.mp hparted
      exact ⟨body, rfl, hbody, hvalue⟩
    · cases h
  · rintro ⟨body, rfl, hbody, hvalue⟩
    rw [leading?, parted?_eq_some_iff.mpr ⟨rfl, hbody⟩]
    simp [hvalue]

/-- A reference is longer than what it stands for. -/
theorem length_of_leading? {c : Char} {rest text after : List Char}
    (h : refs.leading? (c :: rest) = some (text, after)) :
    text.length + after.length ≤ rest.length := by
  obtain ⟨body, hcons, -, hvalue⟩ := leading?_eq_some_iff.mp h
  obtain ⟨-, rfl⟩ := List.cons_eq_cons.mp hcons
  have hle := refs.length_le hvalue
  simp only [List.length_cons, List.length_append]
  omega

variable (refs)

/-- A text with every reference in it, from its front on, replaced by what it stands for. -/
def decoded : List Char → List Char
  | [] => []
  | c :: rest =>
    match h : refs.leading? (c :: rest) with
    | some (text, after) =>
      have := length_of_leading? h
      text ++ decoded after
    | none => c :: decoded rest
termination_by cs => cs.length

variable {refs}

/-- Decoding does not make a text longer, and one with a reference in it becomes shorter. -/
theorem length_decoded_le (cs : List Char) : (refs.decoded cs).length ≤ cs.length := by
  fun_induction refs.decoded cs with
  | case1 => exact Nat.le_refl _
  | case2 c rest text after hleading _ ih =>
    rw [List.length_append, List.length_cons]
    omega
  | case3 c rest hnone ih =>
    rw [List.length_cons, List.length_cons]
    omega

theorem occursIn_of_leading? {cs text after : List Char}
    (h : refs.leading? cs = some (text, after)) : refs.OccursIn cs := by
  obtain ⟨body, rfl, hbody, hvalue⟩ := leading?_eq_some_iff.mp h
  exact ⟨[], body, text, after, rfl, hbody, hvalue⟩

/-- Where no reference is at the front, those of the rest are those of the text. -/
theorem occursIn_cons {c : Char} {rest : List Char} (h : refs.leading? (c :: rest) = none) :
    refs.OccursIn (c :: rest) ↔ refs.OccursIn rest := by
  constructor
  · rintro ⟨before, body, text, after, hsplit, hbody, hvalue⟩
    cases before with
    | nil =>
      rw [leading?_eq_some_iff.mpr ⟨body, hsplit, hbody, hvalue⟩] at h
      cases h
    | cons first before =>
      obtain ⟨-, rfl⟩ := List.cons_eq_cons.mp hsplit
      exact ⟨before, body, text, after, rfl, hbody, hvalue⟩
  · rintro ⟨before, body, text, after, rfl, hbody, hvalue⟩
    exact ⟨c :: before, body, text, after, rfl, hbody, hvalue⟩

/-- A text is decoded to itself exactly if no reference is in it. -/
theorem decoded_eq_self_iff {cs : List Char} : refs.decoded cs = cs ↔ ¬ refs.OccursIn cs := by
  fun_induction refs.decoded cs with
  | case1 => simp [OccursIn]
  | case2 c rest text after hleading hlength ih =>
    refine iff_of_false (fun heq => ?_) (not_not_intro (occursIn_of_leading? hleading))
    have hle : (refs.decoded after).length ≤ after.length := length_decoded_le after
    have hsame := congrArg List.length heq
    rw [List.length_append, List.length_cons] at hsame
    omega
  | case3 c rest hnone ih => rw [occursIn_cons hnone, ← ih, List.cons_inj_right]

/-! ## Values of attributes -/

variable (refs)

/-- Read an attribute value that is a text, and what follows it: JSON between braces, or all up to
the next double quote, with its references decoded. -/
def readValue? : List Char → Option (String × List Char)
  | '{' :: '"' :: rest =>
    match Json.readString rest with
    | some (s, '}' :: after) => some (s, after)
    | _ => none
  | '"' :: rest =>
    (parted? '"' rest).map fun (inside, after) => (String.ofList (refs.decoded inside), after)
  | _ => none

/-- Every text is read back from JSON between braces. -/
theorem readValue?_braced (s : String) (rest : List Char) :
    refs.readValue? ((Expr.data (.str s)).braced.toList ++ rest) = some (s, rest) := by
  have htext : (Expr.data (.str s)).braced.toList ++ rest =
      '{' :: '"' :: (s.toList.flatMap Json.charText ++ '"' :: ('}' :: rest)) := by
    simp [Expr.braced, Expr.code, Json.string]
  rw [htext, readValue?, Json.readString_written]
  rfl

/-- A text without double quotes is read from between these with its references decoded. -/
theorem readValue?_quoted {s : String} (h : '"' ∉ s.toList) (rest : List Char) :
    refs.readValue? (("\"" ++ s ++ "\"").toList ++ rest) =
      some (String.ofList (refs.decoded s.toList), rest) := by
  have htext : ("\"" ++ s ++ "\"").toList ++ rest = '"' :: (s.toList ++ '"' :: rest) := by
    simp
  rw [htext, readValue?, parted?_eq_some_iff.mpr ⟨rfl, h⟩, Option.map_some]

end References

theorem textValue_eq (s : String) :
    textValue s = if '"' ∈ s.toList ∨ '\n' ∈ s.toList then (Expr.data (.str s)).braced
      else "\"" ++ s ++ "\"" := by
  simp only [textValue, Bool.or_eq_true, List.contains_iff_mem]

/-- What a text is read as when it is the value of an attribute, whatever follows this. A text with
a double quote or a line feed is kept, and any other is decoded. So a text is kept exactly if it has
one of these, or no character reference in it. Between braces, as other data is written, every text
would be kept. -/
theorem kept_unless_referring (refs : References) (s : String) (rest : List Char) :
    refs.readValue? ((textValue s).toList ++ rest) =
      some (if '"' ∈ s.toList ∨ '\n' ∈ s.toList then s else String.ofList (refs.decoded s.toList),
        rest) ∧
    (refs.readValue? ((textValue s).toList ++ rest) = some (s, rest) ↔
      '"' ∈ s.toList ∨ '\n' ∈ s.toList ∨ ¬ refs.OccursIn s.toList) ∧
    refs.readValue? ((Expr.data (.str s)).braced.toList ++ rest) = some (s, rest) := by
  have hread : refs.readValue? ((textValue s).toList ++ rest) =
      some (if '"' ∈ s.toList ∨ '\n' ∈ s.toList then s
        else String.ofList (refs.decoded s.toList), rest) := by
    rw [textValue_eq]
    split
    · exact refs.readValue?_braced s rest
    · next hplain => exact refs.readValue?_quoted (fun hquote => hplain (Or.inl hquote)) rest
  refine ⟨hread, ?_, refs.readValue?_braced s rest⟩
  rw [hread, ← or_assoc]
  split
  · next hbraced => simp [hbraced]
  · next hplain =>
    rw [or_iff_right hplain, ← References.decoded_eq_self_iff, Option.some_inj, Prod.mk.injEq,
      eq_self, and_true, ← String.toList_inj, String.toList_ofList]

/-- Texts that are read as others: one with a name for the ampersand, and one with the code of a
line feed. -/
theorem misreads_references :
    let refs := References.ofNames [("amp", '&'), ("lt", '<'), ("gt", '>'), ("quot", '"')]
    textValue "&amp;" = "\"&amp;\"" ∧
      refs.readValue? (textValue "&amp;").toList = some ("&", []) ∧
      refs.readValue? (textValue "a&#10;b").toList = some ("a\nb", []) ∧
      ¬ ∀ s : String, refs.readValue? (textValue s).toList = some (s, []) := by
  intro refs
  have hread : refs.readValue? (textValue "&amp;").toList = some ("&", []) := by decide +kernel
  refine ⟨rfl, hread, by decide +kernel, fun hall => ?_⟩
  rw [hall "&amp;"] at hread
  exact absurd hread (by decide)

end LayerDoc.Tsx
