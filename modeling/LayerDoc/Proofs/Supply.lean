import LayerDoc.Supply
import Mathlib.Data.List.Nodup
import Mathlib.Data.List.Perm.Subperm
import Mathlib.Data.List.Range

/-!
# Labels of a supply

What is given out of a supply comes in order, and a supply only moves onward. A supply of distinct
labels gives out distinct ones, and what is fresh for some ids stays so. The supply that the
program starts with has distinct labels (`start_injective`): a label is a number in hexadecimal
digits, which can be read back.
-/

namespace LayerDoc.Supply

/-- The next `n` labels, in order. -/
def upcoming (s : Supply) (n : Nat) : List String :=
  (List.range n).map fun i => s.label (s.issued + i)

/-- The supply after `n` labels were given out. -/
def skip (s : Supply) (n : Nat) : Supply := { s with issued := s.issued + n }

/-- The second supply is the first one after some labels were given out. -/
def Onward (s t : Supply) : Prop := ∃ n, t = s.skip n

@[simp] theorem label_skip (s : Supply) (n : Nat) : (s.skip n).label = s.label := rfl

@[simp] theorem issued_skip (s : Supply) (n : Nat) : (s.skip n).issued = s.issued + n := rfl

@[simp] theorem skip_zero (s : Supply) : s.skip 0 = s := rfl

@[simp] theorem skip_skip (s : Supply) (m n : Nat) : (s.skip m).skip n = s.skip (m + n) := by
  simp only [skip, Nat.add_assoc]

@[simp] theorem upcoming_zero (s : Supply) : s.upcoming 0 = [] := rfl

theorem upcoming_one (s : Supply) : s.upcoming 1 = [s.next.1] := rfl

theorem upcoming_add (s : Supply) (m n : Nat) :
    s.upcoming (m + n) = s.upcoming m ++ (s.skip m).upcoming n := by
  simp [upcoming, List.range_add, Nat.add_assoc]

theorem upcoming_succ (s : Supply) (n : Nat) :
    s.upcoming (n + 1) = s.next.1 :: (s.skip 1).upcoming n := by
  rw [Nat.add_comm, upcoming_add, upcoming_one]
  rfl

theorem mem_upcoming {s : Supply} {n : Nat} {id : String} :
    id ∈ s.upcoming n ↔ ∃ i < n, s.label (s.issued + i) = id := by
  simp [upcoming]

/-! ## Moving onward -/

theorem Onward.refl (s : Supply) : s.Onward s := ⟨0, rfl⟩

theorem Onward.trans {s t u : Supply} (hst : s.Onward t) (htu : t.Onward u) : s.Onward u := by
  obtain ⟨m, rfl⟩ := hst
  obtain ⟨n, rfl⟩ := htu
  exact ⟨m + n, skip_skip s m n⟩

theorem onward_skip (s : Supply) (n : Nat) : s.Onward (s.skip n) := ⟨n, rfl⟩

theorem onward_next (s : Supply) : s.Onward s.next.2 := s.onward_skip 1

theorem Injective.onward {s t : Supply} (hs : s.Injective) (h : s.Onward t) : t.Injective := by
  obtain ⟨n, rfl⟩ := h
  exact hs

/-! ## Fresh labels -/

namespace FreshFor

theorem onward {s t : Supply} {ids : List String} (hs : s.FreshFor ids) (h : s.Onward t) :
    t.FreshFor ids := by
  obtain ⟨n, rfl⟩ := h
  intro k hk
  refine hs k ?_
  rw [issued_skip] at hk
  omega

theorem subset {s : Supply} {ids others : List String} (h : s.FreshFor ids) (hsub : others ⊆ ids) :
    s.FreshFor others := fun n hn hmem => h n hn (hsub hmem)

theorem append {s : Supply} {ids others : List String} (h : s.FreshFor ids)
    (ho : s.FreshFor others) : s.FreshFor (ids ++ others) := by
  intro n hn hmem
  rcases List.mem_append.mp hmem with hmem | hmem
  · exact h n hn hmem
  · exact ho n hn hmem

theorem not_mem_of_mem_upcoming {s : Supply} {ids : List String} (h : s.FreshFor ids) {n : Nat}
    {id : String} (hid : id ∈ s.upcoming n) : id ∉ ids := by
  obtain ⟨i, _, rfl⟩ := mem_upcoming.mp hid
  exact h _ (Nat.le_add_right _ _)

theorem disjoint_upcoming {s : Supply} {ids : List String} (h : s.FreshFor ids) (n : Nat) :
    ids.Disjoint (s.upcoming n) := fun _ hid hup => h.not_mem_of_mem_upcoming hup hid

end FreshFor

theorem nodup_upcoming {s : Supply} (hs : s.Injective) (n : Nat) : (s.upcoming n).Nodup := by
  refine List.Nodup.map_on ?_ List.nodup_range
  intro i _ j _ hij
  have := hs _ _ hij
  omega

theorem freshFor_upcoming {s : Supply} (hs : s.Injective) (n : Nat) :
    (s.skip n).FreshFor (s.upcoming n) := by
  intro k hk hmem
  obtain ⟨i, hi, he⟩ := mem_upcoming.mp hmem
  have := hs _ _ he
  rw [issued_skip] at hk
  omega

/-! ## Labels that were given out -/

/-- The ids are labels that were given out, each at most once, between the two supplies. -/
def Gives (s : Supply) (ids : List String) (t : Supply) : Prop :=
  ∃ n, t = s.skip n ∧ ids.Subperm (s.upcoming n)

namespace Gives

theorem onward {s t : Supply} {ids : List String} (h : s.Gives ids t) : s.Onward t := by
  obtain ⟨n, ht, -⟩ := h
  exact ⟨n, ht⟩

theorem one (s : Supply) : s.Gives [s.next.1] (s.skip 1) := ⟨1, rfl, List.Subperm.refl _⟩

/-- One more label. -/
theorem cons {s t : Supply} {ids : List String} (h : s.Gives ids t) :
    s.Gives (t.next.1 :: ids) (t.skip 1) := by
  obtain ⟨n, rfl, hsub⟩ := h
  refine ⟨n + 1, skip_skip s n 1, ?_⟩
  rw [upcoming_add, upcoming_one]
  exact ((List.subperm_cons _).mpr hsub).trans (List.perm_append_singleton _ _).symm.subperm

theorem nil_of_onward {s t : Supply} (h : s.Onward t) : s.Gives [] t := by
  obtain ⟨n, rfl⟩ := h
  exact ⟨n, rfl, List.nil_subperm⟩

theorem nodup {s t : Supply} {ids : List String} (h : s.Gives ids t) (hs : s.Injective) :
    ids.Nodup := by
  obtain ⟨n, -, l, hperm, hsub⟩ := h
  exact hperm.nodup_iff.mp ((nodup_upcoming hs n).sublist hsub)

theorem disjoint {s t : Supply} {ids others : List String} (h : s.Gives ids t)
    (hfresh : s.FreshFor others) : others.Disjoint ids := by
  obtain ⟨n, -, hsub⟩ := h
  exact fun id hother hid => hfresh.disjoint_upcoming n hother (hsub.subset hid)

/-- What was given out does not come again. -/
theorem freshFor {s t : Supply} {ids : List String} (h : s.Gives ids t) (hs : s.Injective) :
    t.FreshFor ids := by
  obtain ⟨n, rfl, hsub⟩ := h
  exact (freshFor_upcoming hs n).subset hsub.subset

end Gives

/-! ## The supply at the start -/

/-- The number that a hexadecimal digit stands for. -/
def hexDigit (c : Char) : Nat := if c.isDigit then c.toNat - 48 else c.toNat - 87

/-- The number that hexadecimal digits stand for, the most significant one first. -/
def hexValue (cs : List Char) : Nat := cs.foldl (fun n c => 16 * n + hexDigit c) 0

theorem hexDigit_digitChar : ∀ d < 16, hexDigit d.digitChar = d := by decide

theorem hexValue_append_singleton (cs : List Char) (c : Char) :
    hexValue (cs ++ [c]) = 16 * hexValue cs + hexDigit c := by
  simp [hexValue]

theorem hexValue_toDigits (n : Nat) : hexValue (Nat.toDigits 16 n) = n := by
  induction n using Nat.strong_induction_on with
  | _ n ih =>
    by_cases h : n < 16
    · rw [Nat.toDigits_of_lt_base h]
      simp [hexValue, hexDigit_digitChar n h]
    · rw [Nat.toDigits_of_base_le (by omega) (by omega), hexValue_append_singleton,
        ih (n / 16) (by omega), hexDigit_digitChar _ (by omega)]
      omega

theorem hexValue_zeros_append (k : Nat) (cs : List Char) :
    hexValue (List.replicate k '0' ++ cs) = hexValue cs := by
  induction k with
  | zero => rfl
  | succ k ih =>
    have hzero : hexDigit '0' = 0 := by decide
    rw [← ih]
    simp [hexValue, List.replicate_succ, hzero]

theorem groupLabel_inj {m n : Nat} (h : groupLabel m = groupLabel n) : m = n := by
  unfold groupLabel at h
  have hdigits := String.ofList_injective (String.append_right_inj _ |>.mp h)
  calc
    m = hexValue (Nat.toDigits 16 m) := (hexValue_toDigits m).symm
    _ = hexValue (Nat.toDigits 16 n) := by
      rw [← hexValue_zeros_append (12 - (Nat.toDigits 16 m).length), hdigits,
        hexValue_zeros_append]
    _ = n := hexValue_toDigits n

theorem head?_groupLabel (n : Nat) : (groupLabel n).toList.head? = some '0' := by
  unfold groupLabel
  rw [String.toList_append]
  rfl

theorem start_injective : start.Injective := fun _ _ h => groupLabel_inj h

/-- Ids that do not begin as the labels of the program do are fresh for them. -/
theorem freshFor_of_label_eq {s : Supply} (hs : s.label = groupLabel) {ids : List String}
    (hids : ∀ id ∈ ids, id.toList.head? ≠ some '0') : s.FreshFor ids := by
  intro n _ hmem
  rw [hs] at hmem
  exact hids _ hmem (head?_groupLabel n)

end LayerDoc.Supply
