import LayerDoc.Entries
import Mathlib.Data.List.Nodup
import Mathlib.Data.List.Perm.Basic

/-!
# Entries as maps

What is found under a key, and what writes do to the keys and to the values that are there. Writes
keep keys distinct (`nodup_keys_merge`), and they keep values distinct if each value is new
(`nodup_values_merge`). What is written under new keys comes after all that is there
(`merge_append_of_new`), and it does not matter whether writes are done one list after the other or
are written over one another first (`merge_merge`). Entries of distinct keys are a map, whatever
their order (`get?_eq_of_perm`).
-/

namespace LayerDoc.Entries

variable {α β : Type} {es : Entries α} {key : String} {v : α}

/-! ## Look-ups -/

theorem mem_of_get?_eq_some (h : get? es key = some v) : (key, v) ∈ es := by
  induction es with
  | nil => cases h
  | cons e rest ih =>
    rw [get?] at h
    split at h
    · next hkey =>
      cases h
      rw [← hkey]
      exact List.mem_cons_self
    · exact List.mem_cons_of_mem _ (ih h)

theorem get?_eq_none_iff : get? es key = none ↔ key ∉ keys es := by
  induction es with
  | nil => simp [keys]
  | cons e rest ih =>
    rw [get?, keys, List.map_cons, List.mem_cons, not_or]
    split
    · next hkey => simp [hkey]
    · next hkey =>
      rw [ih]
      exact ⟨fun h => ⟨fun he => hkey he.symm, h⟩, fun h => h.2⟩

theorem has_iff : has es key = true ↔ key ∈ keys es := by
  rw [has, Option.isSome_iff_ne_none, ne_eq, get?_eq_none_iff, not_not]

/-- With distinct keys every entry is found under its key. -/
theorem get?_of_mem (hkeys : (keys es).Nodup) (h : (key, v) ∈ es) : get? es key = some v := by
  cases hget : get? es key with
  | none =>
    have hkey : key ∈ keys es := List.mem_map_of_mem h
    exact absurd hkey (get?_eq_none_iff.mp hget)
  | some w =>
    have hsame := List.inj_on_of_nodup_map hkeys h (mem_of_get?_eq_some hget) rfl
    exact congrArg some (congrArg Prod.snd hsame).symm

/-- Entries of distinct keys are one map in every order. -/
theorem get?_eq_of_perm {fs : Entries α} (hkeys : (keys es).Nodup) (h : es.Perm fs)
    (key : String) : get? es key = get? fs key := by
  have hkeys' : (keys fs).Nodup := (h.map Prod.fst).nodup_iff.mp hkeys
  cases hget : get? fs key with
  | none =>
    rw [get?_eq_none_iff] at hget ⊢
    exact fun hmem => hget ((h.map Prod.fst).subset hmem)
  | some v => exact get?_of_mem hkeys (h.symm.subset (mem_of_get?_eq_some hget))

@[simp] theorem keys_mapValues (f : α → β) (es : Entries α) : keys (mapValues f es) = keys es := by
  simp [keys, mapValues]

/-! ## Writes -/

theorem mem_put {e : String × α} (h : e ∈ put es key v) : e = (key, v) ∨ e ∈ es := by
  induction es with
  | nil => exact Or.inl (List.mem_singleton.mp h)
  | cons first rest ih =>
    rw [put] at h
    split at h
    · next hkey =>
      rcases List.mem_cons.mp h with rfl | h
      · exact Or.inl (by rw [hkey])
      · exact Or.inr (List.mem_cons_of_mem _ h)
    · rcases List.mem_cons.mp h with rfl | h
      · exact Or.inr List.mem_cons_self
      · exact (ih h).imp_right (List.mem_cons_of_mem _)

theorem mem_merge {patch : Entries α} {e : String × α} (h : e ∈ merge es patch) :
    e ∈ es ∨ e ∈ patch := by
  induction patch generalizing es with
  | nil => exact Or.inl h
  | cons p rest ih =>
    rcases ih h with h | h
    · rcases mem_put h with rfl | h
      · exact Or.inr List.mem_cons_self
      · exact Or.inl h
    · exact Or.inr (List.mem_cons_of_mem _ h)

/-- A write adds its key at the end, unless the key is there. -/
theorem keys_put : keys (put es key v) = if key ∈ keys es then keys es else keys es ++ [key] := by
  induction es with
  | nil => rfl
  | cons e rest ih =>
    rw [put]
    by_cases hkey : e.1 = key
    · simp [keys, hkey]
    · have hne : key ≠ e.1 := fun he => hkey he.symm
      have hmem : key ∈ keys (e :: rest) ↔ key ∈ keys rest := by simp [keys, hne]
      rw [if_neg hkey, keys, List.map_cons, ← keys, ih]
      simp only [hmem]
      split <;> rfl

theorem nodup_keys_put (h : (keys es).Nodup) : (keys (put es key v)).Nodup := by
  rw [keys_put]
  split
  · exact h
  · next hnew => exact h.append (List.nodup_singleton _) (by simpa using hnew)

theorem mem_keys_put {other : String} :
    other ∈ keys (put es key v) ↔ other ∈ keys es ∨ other = key := by
  rw [keys_put]
  split
  · next hkey => exact ⟨Or.inl, fun h => h.elim id fun he => he ▸ hkey⟩
  · simp

theorem nodup_keys_merge (h : (keys es).Nodup) (patch : Entries α) :
    (keys (merge es patch)).Nodup := by
  induction patch generalizing es with
  | nil => exact h
  | cons p rest ih => exact ih (nodup_keys_put h)

theorem mem_keys_merge {patch : Entries α} :
    key ∈ keys (merge es patch) ↔ key ∈ keys es ∨ key ∈ keys patch := by
  induction patch generalizing es with
  | nil => simp [merge, keys]
  | cons p rest ih =>
    have hstep : merge es (p :: rest) = merge (put es p.1 p.2) rest := rfl
    have hkeys : keys (p :: rest) = p.1 :: keys rest := rfl
    rw [hstep, ih, mem_keys_put, hkeys, List.mem_cons, or_assoc]

/-- A write of a new value keeps the values distinct. -/
theorem nodup_values_put (h : (es.map Prod.snd).Nodup) (hnew : v ∉ es.map Prod.snd) :
    ((put es key v).map Prod.snd).Nodup := by
  induction es with
  | nil => simp [put]
  | cons e rest ih =>
    rw [List.map_cons, List.nodup_cons] at h
    rw [List.map_cons, List.mem_cons, not_or] at hnew
    rw [put]
    split
    · exact List.nodup_cons.mpr ⟨hnew.2, h.2⟩
    · refine List.nodup_cons.mpr ⟨fun hmem => ?_, ih h.2 hnew.2⟩
      obtain ⟨w, hw, he⟩ := List.mem_map.mp hmem
      rcases mem_put hw with rfl | hw
      · exact hnew.1 he
      · exact h.1 (he ▸ List.mem_map_of_mem hw)

/-- Writes of distinct values that are all new keep the values distinct. -/
theorem nodup_values_merge {patch : Entries α} (h : (es.map Prod.snd).Nodup)
    (hpatch : (patch.map Prod.snd).Nodup)
    (hnew : (es.map Prod.snd).Disjoint (patch.map Prod.snd)) :
    ((merge es patch).map Prod.snd).Nodup := by
  induction patch generalizing es with
  | nil => exact h
  | cons p rest ih =>
    rw [List.map_cons, List.nodup_cons] at hpatch
    rw [List.map_cons, List.disjoint_cons_right] at hnew
    refine ih (nodup_values_put h hnew.1) hpatch.2 fun w hw hrest => ?_
    obtain ⟨e, he, rfl⟩ := List.mem_map.mp hw
    rcases mem_put he with rfl | he
    · exact hpatch.1 hrest
    · exact hnew.2 (List.mem_map_of_mem he) hrest

/-! ## Writes one after the other -/

theorem merge_cons (es : Entries α) (p : String × α) (patch : Entries α) :
    merge es (p :: patch) = merge (put es p.1 p.2) patch := rfl

theorem merge_append (es patch more : Entries α) :
    merge es (patch ++ more) = merge (merge es patch) more := List.foldl_append

/-- A key that is not in the first of two lists is written to the second. -/
theorem put_append_of_not_mem (h : key ∉ keys es) (fs : Entries α) (v : α) :
    put (es ++ fs) key v = es ++ put fs key v := by
  induction es with
  | nil => rfl
  | cons e rest ih =>
    rw [keys, List.map_cons, List.mem_cons, not_or] at h
    rw [List.cons_append, put, if_neg (Ne.symm h.1), ih h.2, List.cons_append]

theorem merge_append_of_new (fs : Entries α) {patch : Entries α}
    (h : ∀ key ∈ keys patch, key ∉ keys es) :
    merge (es ++ fs) patch = es ++ merge fs patch := by
  induction patch generalizing fs with
  | nil => rfl
  | cons p rest ih =>
    rw [keys, List.map_cons, List.forall_mem_cons] at h
    rw [merge_cons, merge_cons, put_append_of_not_mem h.1, ih _ h.2]

theorem get?_append (es fs : Entries α) (key : String) :
    get? (es ++ fs) key = (get? es key).or (get? fs key) := by
  induction es with
  | nil => rfl
  | cons e rest ih =>
    rw [List.cons_append, get?, get?, ih]
    split
    · rfl
    · rfl

theorem get?_append_of_mem {fs : Entries α} (h : key ∈ keys es) :
    get? (es ++ fs) key = get? es key := by
  obtain ⟨v, hv⟩ := Option.isSome_iff_exists.mp (has_iff.mpr h)
  rw [get?_append, hv, Option.some_or]

theorem get?_merge_of_not_mem {patch : Entries α} (h : key ∉ keys patch) :
    get? (merge es patch) key = get? es key := by
  induction patch generalizing es with
  | nil => rfl
  | cons p rest ih =>
    rw [keys, List.map_cons, List.mem_cons, not_or] at h
    rw [merge_cons, ih h.2, get?_put_of_ne es p.2 h.1]

theorem put_put (es : Entries α) (key : String) (v w : α) :
    put (put es key v) key w = put es key w := by
  induction es with
  | nil => simp [put]
  | cons e rest ih =>
    by_cases hkey : e.1 = key
    · simp [put, hkey]
    · simp [put, hkey, ih]

/-- Writes under two keys can be done in either order if one of the keys is there. -/
theorem put_comm_of_mem {other : String} (h : key ∈ keys es) (hne : key ≠ other) (v w : α) :
    put (put es key v) other w = put (put es other w) key v := by
  induction es with
  | nil => cases h
  | cons e rest ih =>
    by_cases hkey : e.1 = key
    · have hother : ¬ e.1 = other := fun he => hne (hkey.symm.trans he)
      simp [put, hkey, hne]
    · rw [keys, List.map_cons, List.mem_cons] at h
      have hrest := ih (h.resolve_left (Ne.symm hkey))
      by_cases hother : e.1 = other
      · simp [put, hother, hne.symm]
      · simp [put, hkey, hother, hrest]

theorem merge_put_of_mem {patch : Entries α} (h : key ∈ keys es) (hpatch : key ∉ keys patch)
    (v : α) : merge (put es key v) patch = put (merge es patch) key v := by
  induction patch generalizing es with
  | nil => rfl
  | cons p rest ih =>
    rw [keys, List.map_cons, List.mem_cons, not_or] at hpatch
    rw [merge_cons, merge_cons, put_comm_of_mem h hpatch.1,
      ih (mem_keys_put.mpr (Or.inl h)) hpatch.2]

/-- To write over a patch before it is written comes to the same as to write after it. -/
theorem merge_put {patch : Entries α} (hkeys : (keys patch).Nodup) (es : Entries α) (key : String)
    (v : α) : merge es (put patch key v) = put (merge es patch) key v := by
  induction patch generalizing es with
  | nil => rfl
  | cons p rest ih =>
    rw [keys, List.map_cons, List.nodup_cons] at hkeys
    by_cases hkey : p.1 = key
    · have hthere : key ∈ keys (put es key p.2) := mem_keys_put.mpr (Or.inr rfl)
      rw [put, if_pos hkey, merge_cons, merge_cons, hkey,
        ← merge_put_of_mem hthere (hkey ▸ hkeys.1),
        put_put]
    · rw [put, if_neg hkey, merge_cons, merge_cons, ih hkeys.2]

/-- Writes one list after the other are the writes of the second list over the first. -/
theorem merge_merge {patch : Entries α} (hkeys : (keys patch).Nodup) (es more : Entries α) :
    merge es (merge patch more) = merge (merge es patch) more := by
  induction more generalizing patch with
  | nil => rfl
  | cons p rest ih =>
    rw [merge_cons, merge_cons, ih (nodup_keys_put hkeys), merge_put hkeys]

/-- After writes under distinct keys the written values are found, and the others as before. -/
theorem get?_merge {patch : Entries α} (hkeys : (keys patch).Nodup) (es : Entries α)
    (key : String) : get? (merge es patch) key = (get? patch key).or (get? es key) := by
  induction patch generalizing es with
  | nil => rfl
  | cons p rest ih =>
    rw [keys, List.map_cons, List.nodup_cons] at hkeys
    rw [merge_cons, ih hkeys.2, get?]
    by_cases hkey : p.1 = key
    · subst hkey
      rw [get?_put_self, get?_eq_none_iff.mpr hkeys.1, if_pos rfl]
      rfl
    · rw [get?_put_of_ne es p.2 (Ne.symm hkey), if_neg hkey]

/-! ## Changed values and left out keys -/

theorem get?_mapValues (f : α → β) (es : Entries α) (key : String) :
    get? (mapValues f es) key = (get? es key).map f := by
  induction es with
  | nil => rfl
  | cons e rest ih =>
    rw [mapValues, List.map_cons, get?, get?, ← mapValues, ih]
    split <;> rfl

theorem mapValues_put (f : α → β) (es : Entries α) (key : String) (v : α) :
    mapValues f (put es key v) = put (mapValues f es) key (f v) := by
  induction es with
  | nil => rfl
  | cons e rest ih =>
    rw [put, mapValues, mapValues, List.map_cons, put]
    split
    · rfl
    · rw [List.map_cons, ← mapValues, ih, mapValues]

theorem mapValues_merge (f : α → β) (es patch : Entries α) :
    mapValues f (merge es patch) = merge (mapValues f es) (mapValues f patch) := by
  induction patch generalizing es with
  | nil => rfl
  | cons p rest ih => rw [merge_cons, ih, mapValues_put]; rfl

theorem filter_put (keep : String → Bool) (es : Entries α) (key : String) (v : α) :
    (put es key v).filter (fun e => keep e.1) =
      if keep key then put (es.filter fun e => keep e.1) key v
      else es.filter fun e => keep e.1 := by
  induction es with
  | nil =>
    rw [put]
    cases hkeep : keep key <;> simp [hkeep, put]
  | cons e rest ih =>
    rw [put]
    by_cases hkey : e.1 = key
    · cases hkeep : keep key <;> simp [hkey, hkeep, put]
    · cases hkeep : keep key <;> cases hfirst : keep e.1 <;> simp_all [put]

/-- Writes under the keys of a kind are the writes of the entries of that kind. -/
theorem filter_merge (keep : String → Bool) (es patch : Entries α) :
    (merge es patch).filter (fun e => keep e.1) =
      merge (es.filter fun e => keep e.1) (patch.filter fun e => keep e.1) := by
  induction patch generalizing es with
  | nil => rfl
  | cons p rest ih =>
    rw [merge_cons, ih, filter_put, List.filter_cons]
    split
    · rw [merge_cons]
    · rfl

end LayerDoc.Entries
