import LayerDoc.Identifier
import LayerDoc.Proofs.Entries
import Mathlib.Data.List.Perm.Subperm

/-!
# Identifiers are distinct

Every variable has an identifier (`exists_mem_ofVariables`), every id has one at most, and no two
ids have the same one (`nodup_values_ofVariables`). A variable takes the base that its name gives,
or else this base with the least number that makes it free (`Takes`); such a number is always found,
since there are more numbers to try than identifiers in use. Variables that come after others leave
the identifiers of these as they are (`ofVariables_append`).
-/

namespace LayerDoc.Identifier

/-! ## Unused identifiers -/

theorem toString_injective : Function.Injective fun n : Nat => toString n := by
  intro m n h
  have hrepr : m.repr = n.repr := h
  -- a number can be read back from its digits
  rw [← Nat.ofDigitChars_toDigits (b := 10) (n := m) (by omega) (by omega), ← Nat.toList_repr,
    hrepr, Nat.toList_repr, Nat.ofDigitChars_toDigits (by omega) (by omega)]

theorem numbered_injective (base : String) :
    Function.Injective fun k : Nat => base ++ toString (k + 1) := fun _ _ h =>
  Nat.succ.inj (toString_injective ((String.append_right_inj base).mp h))

/-- One of the first numbers makes a base free. -/
theorem exists_number_free (base : String) (used : List String) :
    ∃ k < used.length + 1, base ++ toString (k + 1) ∉ used := by
  by_contra hnone
  simp only [not_exists, not_and, not_not] at hnone
  have hnodup : ((List.range (used.length + 1)).map fun k => base ++ toString (k + 1)).Nodup :=
    List.nodup_range.map (numbered_injective base)
  -- more candidates than identifiers in use, so not all of them are among these
  have hsub : ((List.range (used.length + 1)).map fun k => base ++ toString (k + 1)) ⊆ used := by
    intro candidate hcandidate
    obtain ⟨k, hk, rfl⟩ := List.mem_map.mp hcandidate
    exact hnone k (List.mem_range.mp hk)
  have hle := (hnodup.subperm hsub).length_le
  rw [List.length_map, List.length_range] at hle
  omega

/-- The identifier that a base gives when those in `used` are given out: the base itself if it is
free, or else the base with the least number from one on that is free. -/
inductive Takes (base : String) (used : List String) : String → Prop
  | base (hfree : base ∉ used) : Takes base used base
  | numbered {k : Nat} (htaken : base ∈ used) (hk : 1 ≤ k) (hfree : base ++ toString k ∉ used)
      (hleast : ∀ j, 1 ≤ j → j < k → base ++ toString j ∈ used) :
      Takes base used (base ++ toString k)

namespace Takes

variable {base identifier : String} {used others : List String}

theorem not_mem (h : Takes base used identifier) : identifier ∉ used := by
  cases h with
  | base hfree => exact hfree
  | numbered _ _ hfree _ => exact hfree

/-- It does not matter in which order identifiers were given out. -/
theorem of_perm (h : Takes base used identifier) (hperm : used.Perm others) :
    Takes base others identifier := by
  cases h with
  | base hfree => exact .base fun hmem => hfree (hperm.mem_iff.mpr hmem)
  | numbered htaken hk hfree hleast =>
    exact .numbered (hperm.mem_iff.mp htaken) hk (fun hmem => hfree (hperm.mem_iff.mpr hmem))
      fun j hj hlt => hperm.mem_iff.mp (hleast j hj hlt)

end Takes

theorem takes_unused (base : String) (used : List String) : Takes base used (unused base used) := by
  unfold unused
  split
  · next htaken =>
    rw [List.contains_iff_mem] at htaken
    obtain ⟨n, hn, hfree⟩ := exists_number_free base used
    simp only [List.find?_map]
    cases hfind : (List.range (used.length + 1)).find?
        ((fun c => !used.contains c) ∘ fun k => base ++ toString (k + 1)) with
    | none =>
      exact absurd (by simpa using List.find?_eq_none.mp hfind n (List.mem_range.mpr hn)) hfree
    | some k =>
      obtain ⟨hfree, -, hleast⟩ := List.find?_range_eq_some.mp hfind
      refine .numbered htaken (Nat.le_add_left 1 k) (by simpa using hfree) fun j hj hlt => ?_
      obtain ⟨i, rfl⟩ := Nat.exists_eq_add_of_le' hj
      simpa using hleast i (by omega)
  · next hfree => exact .base (by simpa using hfree)

theorem unused_not_mem (base : String) (used : List String) : unused base used ∉ used :=
  (takes_unused base used).not_mem

/-! ## The form of identifiers -/

theorem isPart_of_isValid {cs : List Char} (h : isValid cs = true) : ∀ c ∈ cs, isPart c = true := by
  cases cs with
  | nil => cases h
  | cons c rest =>
    rw [isValid, Bool.and_eq_true, List.all_eq_true] at h
    rw [List.forall_mem_cons]
    exact ⟨by rw [isPart, h.1, Bool.true_or], h.2⟩

theorem isValid_append {cs ds : List Char} (hcs : isValid cs = true)
    (hds : ∀ c ∈ ds, isPart c = true) :
    isValid (cs ++ ds) = true := by
  cases cs with
  | nil => cases hcs
  | cons c rest =>
    rw [isValid, Bool.and_eq_true] at hcs
    rw [List.cons_append, isValid, List.all_append, hcs.1, hcs.2, List.all_eq_true.mpr hds]
    rfl

theorem isValid_ofName (name : String) : isValid (ofName name).toList = true := by
  unfold ofName
  dsimp only
  split
  · next hvalid => rwa [String.toList_ofList]
  · split
    · decide
    · generalize (if isStart _ = true then _ else _) = cs
      split
      · next hvalid => rwa [String.toList_ofList]
      · decide

theorem isPart_of_mem_toString {k : Nat} {c : Char} (h : c ∈ (toString k).toList) :
    isPart c = true := by
  have hdigit : c.isDigit = true := by
    rw [Nat.toString_eq_repr, Nat.toList_repr] at h
    exact Nat.isDigit_of_mem_toDigits (by decide) (by decide) h
  rw [isPart, hdigit, Bool.or_true]

theorem Takes.isValid {base identifier : String} {used : List String}
    (h : Takes base used identifier) (hbase : isValid base.toList = true) :
    isValid identifier.toList = true := by
  cases h with
  | base _ => exact hbase
  | numbered _ _ _ _ =>
    rw [String.toList_append]
    exact isValid_append hbase fun c hc => isPart_of_mem_toString hc

/-! ## The identifiers of variables -/

theorem keys_assign (vars : List Variable) (used : List String) :
    Entries.keys (assign vars used) = vars.map Variable.id := by
  induction vars generalizing used with
  | nil => rfl
  | cons v rest ih =>
    have hcons : Entries.keys (assign (v :: rest) used) =
        v.id :: Entries.keys (assign rest (unused (ofName v.name) used :: used)) := rfl
    rw [hcons, ih, List.map_cons]

/-- The identifiers that are assigned are distinct, and none is in use before. -/
theorem nodup_values_assign (vars : List Variable) (used : List String) :
    ((assign vars used).map Prod.snd).Nodup ∧
      ((assign vars used).map Prod.snd).Disjoint used := by
  induction vars generalizing used with
  | nil => simp [assign]
  | cons v rest ih =>
    obtain ⟨hnodup, hdisjoint⟩ := ih (unused (ofName v.name) used :: used)
    rw [List.disjoint_cons_right] at hdisjoint
    rw [assign, List.map_cons]
    refine ⟨List.nodup_cons.mpr ⟨hdisjoint.1, hnodup⟩, ?_⟩
    exact List.disjoint_cons_left.mpr ⟨unused_not_mem _ _, hdisjoint.2⟩

/-- The identifiers that are given out to a list of variables, in order. -/
def issued (vars : List Variable) : List String := (assign vars []).map Prod.snd

/-- Variables that come after others are given what is left. -/
theorem assign_append (vars more : List Variable) (used : List String) :
    assign (vars ++ more) used =
      assign vars used ++ assign more (((assign vars used).map Prod.snd).reverse ++ used) := by
  induction vars generalizing used with
  | nil => rfl
  | cons v rest ih =>
    rw [List.cons_append, assign, assign, ih, List.cons_append, List.map_cons, List.reverse_cons,
      List.append_assoc, List.singleton_append]

/-- A variable is given what its name takes when those before it were given theirs. -/
theorem exists_takes (before : List Variable) (v : Variable) (after : List Variable) :
    ∃ identifier rest, Takes (ofName v.name) (issued before) identifier ∧
      assign (before ++ v :: after) [] = assign before [] ++ (v.id, identifier) :: rest ∧
      Entries.keys rest = after.map Variable.id := by
  let identifier := unused (ofName v.name) (issued before).reverse
  refine ⟨identifier, assign after (identifier :: (issued before).reverse),
    (takes_unused _ _).of_perm (List.reverse_perm (issued before)), ?_, keys_assign _ _⟩
  rw [assign_append, List.append_nil, ← issued, assign]

theorem isValid_of_mem_assign {vars : List Variable} {used : List String} {e : String × String}
    (h : e ∈ assign vars used) : isValid e.2.toList = true := by
  induction vars generalizing used with
  | nil => cases h
  | cons v rest ih =>
    rw [assign, List.mem_cons] at h
    rcases h with rfl | h
    · exact (takes_unused _ _).isValid (isValid_ofName v.name)
    · exact ih h

theorem nodup_keys_ofVariables (vars : List Variable) :
    (Entries.keys (ofVariables vars)).Nodup :=
  Entries.nodup_keys_merge (show (Entries.keys ([] : Entries String)).Nodup from List.nodup_nil) _

theorem nodup_values_ofVariables (vars : List Variable) :
    ((ofVariables vars).map Prod.snd).Nodup :=
  Entries.nodup_values_merge List.nodup_nil (nodup_values_assign vars []).1 (by simp)

/-- Every variable has an identifier, under its id. -/
theorem exists_mem_ofVariables {vars : List Variable} {v : Variable} (hv : v ∈ vars) :
    ∃ identifier, Entries.get? (ofVariables vars) v.id = some identifier := by
  have hkey : v.id ∈ Entries.keys (ofVariables vars) := by
    refine Entries.mem_keys_merge.mpr (Or.inr ?_)
    rw [keys_assign]
    exact List.mem_map_of_mem hv
  exact Option.isSome_iff_exists.mp (Entries.has_iff.mpr hkey)

theorem isValid_of_get?_ofVariables {vars : List Variable} {id identifier : String}
    (h : Entries.get? (ofVariables vars) id = some identifier) :
    isValid identifier.toList = true := by
  have hmem := (Entries.mem_merge (Entries.mem_of_get?_eq_some h)).resolve_left List.not_mem_nil
  exact isValid_of_mem_assign hmem

/-- Different ids have different identifiers. -/
theorem eq_of_get?_ofVariables {vars : List Variable} {id other identifier : String}
    (h : Entries.get? (ofVariables vars) id = some identifier)
    (hother : Entries.get? (ofVariables vars) other = some identifier) : id = other := by
  have hsame := List.inj_on_of_nodup_map (nodup_values_ofVariables vars)
    (Entries.mem_of_get?_eq_some h) (Entries.mem_of_get?_eq_some hother) rfl
  exact congrArg Prod.fst hsame

/-- Of variables that share an id the last counts. -/
theorem get?_ofVariables_of_last {before after : List Variable} {v : Variable} {identifier : String}
    {rest : Entries String}
    (hsplit : assign (before ++ v :: after) [] = assign before [] ++ (v.id, identifier) :: rest)
    (hkeys : Entries.keys rest = after.map Variable.id) (hlast : v.id ∉ after.map Variable.id) :
    Entries.get? (ofVariables (before ++ v :: after)) v.id = some identifier := by
  rw [ofVariables, Entries.ofWrites, hsplit, Entries.merge_append, Entries.merge_cons,
    Entries.get?_merge_of_not_mem (hkeys ▸ hlast), Entries.get?_put_self]

/-- Variables with new ids that come after others are entered behind these. -/
theorem ofVariables_append {vars more : List Variable}
    (hnew : ∀ w ∈ more, w.id ∉ vars.map Variable.id) :
    ∃ added, ofVariables (vars ++ more) = ofVariables vars ++ added := by
  refine ⟨Entries.ofWrites (assign more ((issued vars).reverse ++ [])), ?_⟩
  have hkeys : ∀ key ∈ Entries.keys (assign more ((issued vars).reverse ++ [])),
      key ∉ Entries.keys (ofVariables vars) := by
    intro key hkey hold
    rw [keys_assign] at hkey
    obtain ⟨w, hw, rfl⟩ := List.mem_map.mp hkey
    have hmem := (Entries.mem_keys_merge.mp hold).resolve_left List.not_mem_nil
    rw [keys_assign] at hmem
    exact hnew w hw hmem
  have happend := Entries.merge_append_of_new [] hkeys
  rw [List.append_nil] at happend
  rw [ofVariables, Entries.ofWrites, assign_append, Entries.merge_append, ← issued]
  exact happend

/-- The identifier of a variable is the same after variables with new ids were added. -/
theorem get?_ofVariables_append {vars more : List Variable}
    (hnew : ∀ w ∈ more, w.id ∉ vars.map Variable.id) {id : String}
    (hid : id ∈ vars.map Variable.id) :
    Entries.get? (ofVariables (vars ++ more)) id = Entries.get? (ofVariables vars) id := by
  obtain ⟨added, hadded⟩ := ofVariables_append hnew
  have hkey : id ∈ Entries.keys (ofVariables vars) :=
    Entries.mem_keys_merge.mpr (Or.inr (keys_assign vars [] ▸ hid))
  rw [hadded, Entries.get?_append_of_mem hkey]

end LayerDoc.Identifier
