/-!
# Fresh ids

New layers and variables get ids from a supply: a sequence of labels and the number of those that
were given out. A supply is fresh for a set of ids if none of the labels to come is among them.
-/

namespace LayerDoc

/-- A sequence of labels, of which the first `issued` were given out. -/
structure Supply where
  label : Nat → String
  issued : Nat

namespace Supply

/-- The next label, and the supply after it. -/
def next (s : Supply) : String × Supply := (s.label s.issued, { s with issued := s.issued + 1 })

/-- No two labels are equal. -/
def Injective (s : Supply) : Prop := ∀ m n, s.label m = s.label n → m = n

/-- None of the labels to come is among `ids`. -/
def FreshFor (s : Supply) (ids : List String) : Prop := ∀ n, s.issued ≤ n → s.label n ∉ ids

/-- Labels of thirty-six characters in hexadecimal groups, in ascending order. -/
def groupLabel (n : Nat) : String :=
  let ds := Nat.toDigits 16 n
  let all := List.replicate (12 - ds.length) '0' ++ ds
  "06000000-0000-7000-8000-" ++ String.ofList all

/-- The supply that a program starts with. -/
def start : Supply := ⟨groupLabel, 0⟩

@[simp] theorem next_fst (s : Supply) : s.next.1 = s.label s.issued := rfl

@[simp] theorem label_next (s : Supply) : s.next.2.label = s.label := rfl

@[simp] theorem issued_next (s : Supply) : s.next.2.issued = s.issued + 1 := rfl

end Supply

end LayerDoc
