import Hydration.Frame.Storage
import Hydration.Frame.Dispatch

/-!
# Total issuance

A balances pallet keeps the total issuance of a currency in a machine word, so no set of
accounts ever holds more than the word's bound. Stated over every finite set of accounts, the
bound needs no sum over all accounts, and a move of funds between two accounts keeps it: a set
that gains what another account lost is at most that set with the other account added. What a
map booked against its keys' balances then fits the word too, which is how saturating additions
of a pallet are shown never to saturate.
-/

namespace Frame.Balances

variable {A Acc : Type}

/-- Every finite set of accounts holds at most `bound` of `a`. -/
def IssuanceWithin (b : Balances A Acc) (a : A) (bound : Nat) : Prop :=
  ∀ S : Finset Acc, ∑ x ∈ S, b.free a x ≤ bound

variable {b b' : Balances A Acc} {a : A} {bound : Nat}

theorem IssuanceWithin.free_le (h : b.IssuanceWithin a bound) (x : Acc) : b.free a x ≤ bound := by
  simpa using h {x}

/-- A move of `amt` from `src` to `dst`, with every other balance of `a` kept, keeps the bound. -/
theorem IssuanceWithin.of_move [DecidableEq Acc] {src dst : Acc} {amt : Nat} (h : b.IssuanceWithin a bound)
    (hmove : ∀ y, b'.free a y + (if y = src then amt else 0) =
      b.free a y + (if y = dst then amt else 0)) : b'.IssuanceWithin a bound := by
  intro S
  have hsum : ∑ x ∈ S, b'.free a x + (if src ∈ S then amt else 0) =
      ∑ x ∈ S, b.free a x + (if dst ∈ S then amt else 0) := by
    have := Finset.sum_congr rfl fun y (_ : y ∈ S) => hmove y
    rw [Finset.sum_add_distrib, Finset.sum_add_distrib, Finset.sum_ite_eq', Finset.sum_ite_eq']
      at this
    exact this
  by_cases hdst : dst ∈ S
  · by_cases hsrc : src ∈ S
    · rw [if_pos hsrc, if_pos hdst] at hsum
      have := h S
      omega
    · -- `S` gained what `src` lost, so it holds at most `S` with `src`
      have hsrc_le : amt ≤ b.free a src := by
        have := hmove src
        by_cases hsd : src = dst
        · exact absurd (hsd ▸ hdst) hsrc
        · rw [if_pos rfl, if_neg hsd] at this
          omega
      have hins := Finset.sum_insert (f := fun x => b.free a x) hsrc
      have := h (insert src S)
      rw [if_neg hsrc, if_pos hdst] at hsum
      omega
  · rw [if_neg hdst] at hsum
    have := h S
    omega

/-- Balances held only within `t` fit when their sum over `t` does. -/
theorem IssuanceWithin.of_support {t : Finset Acc} (hsupp : ∀ x, b.free a x ≠ 0 → x ∈ t)
    (hsum : ∑ x ∈ t, b.free a x ≤ bound) : b.IssuanceWithin a bound :=
  fun _ => le_trans (Finset.sum_le_sum_of_ne_zero fun x _ hx => hsupp x hx) hsum

/-- What a storage map books against its keys' balances fits the bound. -/
theorem IssuanceWithin.sumBy_le [DecidableEq Acc] {V : Type} {m : StorageMap Acc V} {f : Acc → V → Nat}
    (h : b.IssuanceWithin a bound) (hf : ∀ k v, m.lookup k = some v → f k v ≤ b.free a k) :
    StorageMap.sumBy f m ≤ bound := by
  have hle : StorageMap.sumBy f m ≤ (m.keys.map fun k => b.free a k).sum := by
    unfold StorageMap.sumBy AList.keys List.keys
    rw [List.map_map]
    apply List.sum_le_sum
    intro e he
    exact hf e.1 e.2 (AList.mem_lookup_iff.mpr he)
  rw [← List.sum_toFinset _ m.keys_nodup] at hle
  exact le_trans hle (h _)

end Frame.Balances
