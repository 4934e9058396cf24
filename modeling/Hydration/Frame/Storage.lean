import Mathlib

/-!
# Storage maps and their sums

A FRAME `StorageMap` with `OptionQuery` holds at most one value per key. It is
modelled by Mathlib's `AList` over a constant fibre, so lookups, inserts and
removals compute. Invariants of pallets are mostly of the form "a counter equals
the sum of a field over a map", so the one notion developed here is `sumBy`, the
sum of `f k v` over the entries, with how it moves under `insert` and `erase`.
-/

namespace Frame

/-- A storage map from `K` to `V`. -/
abbrev StorageMap (K V : Type) := AList (fun _ : K => V)

namespace StorageMap

variable {K V : Type} [DecidableEq K]

/-- Sum of `f k v` over the entries of `m`. -/
def sumBy (f : K → V → Nat) (m : StorageMap K V) : Nat :=
  (m.entries.map fun e => f e.1 e.2).sum

/-- The contribution of key `k`: `f k v` if `k ↦ v` is stored, else zero. -/
def at? (f : K → V → Nat) (m : StorageMap K V) (k : K) : Nat :=
  match m.lookup k with
  | some v => f k v
  | none => 0

variable (f : K → V → Nat)

omit [DecidableEq K] in
@[simp] theorem sumBy_empty : sumBy f (∅ : StorageMap K V) = 0 := rfl

@[simp] theorem at?_of_lookup {m : StorageMap K V} {k : K} {v : V} (h : m.lookup k = some v) :
    at? f m k = f k v := by
  simp [at?, h]

@[simp] theorem at?_of_lookup_none {m : StorageMap K V} {k : K} (h : m.lookup k = none) :
    at? f m k = 0 := by
  simp [at?, h]

theorem sumBy_erase_add (m : StorageMap K V) (k : K) :
    sumBy f (m.erase k) + at? f m k = sumBy f m := by
  by_cases hk : k ∈ m
  · obtain ⟨v, l₁, l₂, hl₁, hm, he⟩ := List.exists_of_kerase (AList.mem_keys.mp hk)
    have hlook : m.lookup k = some v := by
      rw [AList.lookup, hm, List.dlookup_append, List.dlookup_eq_none.mpr hl₁]
      simp [List.dlookup_cons_eq]
    have herase : (m.erase k).entries = l₁ ++ l₂ := he
    simp only [sumBy, herase, hm, at?_of_lookup f hlook, List.map_append, List.map_cons,
      List.sum_append, List.sum_cons]
    omega
  · have hlook : m.lookup k = none := AList.lookup_eq_none.mpr hk
    have herase : (m.erase k).entries = m.entries := List.kerase_of_notMem_keys hk
    simp [sumBy, herase, at?_of_lookup_none f hlook]

theorem sumBy_insert (m : StorageMap K V) (k : K) (v : V) :
    sumBy f (m.insert k v) = f k v + sumBy f (m.erase k) := by
  simp only [sumBy, AList.entries_insert, List.map_cons, List.sum_cons]
  rfl

/-- Writing `k ↦ v` changes the sum by the new entry minus the replaced one. -/
theorem sumBy_insert_add (m : StorageMap K V) (k : K) (v : V) :
    sumBy f (m.insert k v) + at? f m k = sumBy f m + f k v := by
  rw [sumBy_insert, ← sumBy_erase_add f m k]
  omega

theorem sumBy_insert_of_lookup_none {m : StorageMap K V} {k : K} (v : V) (h : m.lookup k = none) :
    sumBy f (m.insert k v) = sumBy f m + f k v := by
  have := sumBy_insert_add f m k v
  rw [at?_of_lookup_none f h] at this
  omega

theorem sumBy_erase_of_lookup {m : StorageMap K V} {k : K} {v : V} (h : m.lookup k = some v) :
    sumBy f (m.erase k) + f k v = sumBy f m := by
  rw [← at?_of_lookup f h]
  exact sumBy_erase_add f m k

theorem le_sumBy {m : StorageMap K V} {k : K} {v : V} (h : m.lookup k = some v) :
    f k v ≤ sumBy f m := by
  rw [← sumBy_erase_of_lookup f h]
  omega

theorem sumBy_congr {g : K → V → Nat} {m : StorageMap K V}
    (h : ∀ k v, m.lookup k = some v → f k v = g k v) : sumBy f m = sumBy g m := by
  unfold sumBy
  congr 1
  apply List.map_congr_left
  rintro ⟨k, v⟩ hmem
  exact h k v (AList.mem_lookup_iff.mpr hmem)

theorem sumBy_eq_zero {m : StorageMap K V} (h : ∀ k v, m.lookup k = some v → f k v = 0) :
    sumBy f m = 0 := by
  rw [sumBy_congr f h]
  simp [sumBy]

omit [DecidableEq K] in
theorem sumBy_add (g : K → V → Nat) (m : StorageMap K V) :
    sumBy (fun k v => f k v + g k v) m = sumBy f m + sumBy g m := by
  unfold sumBy
  induction m.entries with
  | nil => rfl
  | cons e es ih =>
    simp only [List.map_cons, List.sum_cons, ih]
    omega

omit [DecidableEq K] in
theorem sumBy_mul (c : Nat) (m : StorageMap K V) :
    sumBy (fun k v => c * f k v) m = c * sumBy f m := by
  unfold sumBy
  induction m.entries with
  | nil => rfl
  | cons e es ih =>
    simp only [List.map_cons, List.sum_cons, ih]
    rw [Nat.mul_add]

theorem sumBy_le_sumBy {g : K → V → Nat} {m : StorageMap K V}
    (h : ∀ k v, m.lookup k = some v → f k v ≤ g k v) : sumBy f m ≤ sumBy g m := by
  have hmem : ∀ e ∈ m.entries, f e.1 e.2 ≤ g e.1 e.2 := fun e he =>
    h e.1 e.2 (AList.mem_lookup_iff.mpr he)
  unfold sumBy
  generalize m.entries = l at hmem ⊢
  induction l with
  | nil => exact le_rfl
  | cons e es ih =>
    simp only [List.map_cons, List.sum_cons]
    have h₁ := hmem e List.mem_cons_self
    have h₂ := ih fun e' he' => hmem e' (List.mem_cons_of_mem e he')
    omega

theorem sumBy_erase_le (m : StorageMap K V) (k : K) : sumBy f (m.erase k) ≤ sumBy f m := by
  rw [← sumBy_erase_add f m k]
  omega

/-- A key that contributes nothing to the sum can be written or removed freely. -/
theorem sumBy_insert_of_zero {m : StorageMap K V} {k : K} (v : V) (h : ∀ v, f k v = 0) :
    sumBy f (m.insert k v) = sumBy f m := by
  have hat : at? f m k = 0 := by
    unfold at?
    split
    · exact h _
    · rfl
  have := sumBy_insert_add f m k v
  rw [hat, h v] at this
  omega

theorem sumBy_erase_of_zero {m : StorageMap K V} {k : K} (h : ∀ v, f k v = 0) :
    sumBy f (m.erase k) = sumBy f m := by
  have hat : at? f m k = 0 := by
    unfold at?
    split
    · exact h _
    · rfl
  have := sumBy_erase_add f m k
  omega

/-- Removing a key just written removes what was there before as well. -/
theorem erase_insert (m : StorageMap K V) (k : K) (v : V) : (m.insert k v).erase k = m.erase k :=
  AList.ext (by simp only [AList.entries_insert, AList.erase, List.kerase_cons_eq])

/-- A lookup in a map just written at `k`. -/
theorem lookup_insert_eq_some {m : StorageMap K V} {k i : K} {v w : V}
    (h : (m.insert k v).lookup i = some w) : (i = k ∧ w = v) ∨ (i ≠ k ∧ m.lookup i = some w) := by
  by_cases hi : i = k
  · subst hi
    rw [AList.lookup_insert, Option.some.injEq] at h
    exact .inl ⟨rfl, h.symm⟩
  · rw [AList.lookup_insert_ne hi] at h
    exact .inr ⟨hi, h⟩

theorem lookup_erase_eq_some {m : StorageMap K V} {k i : K} {w : V}
    (h : (m.erase k).lookup i = some w) : i ≠ k ∧ m.lookup i = some w := by
  by_cases hi : i = k
  · subst hi
    rw [AList.lookup_erase] at h
    cases h
  · rw [AList.lookup_erase_ne hi] at h
    exact ⟨hi, h⟩

/-- Summing only the entries whose key satisfies `p`. -/
def sumWhere (p : K → Prop) [DecidablePred p] (g : K → V → Nat) : K → V → Nat :=
  fun k v => if p k then g k v else 0

end StorageMap

end Frame
