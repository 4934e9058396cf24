import Hydration.Stableswap.Math

/-!
# The exact invariant

The invariant `D` of reserves `x₁, …, xₙ` with sum `S` and product `P` at `Ann` is the
positive real root of `Ann * S + D = Ann * D + D^(n+1) / (n^n * P)`. The gap between the two
sides falls strictly in `D ≥ 0` once `Ann ≥ 1` (`invariantGap_strictAntiOn`), so that root is
unique (`exactD_unique`).

`calculate_d_internal` estimates it by Newton steps rounded down, adding two to each step so
that it errs upward, and `calculate_shares` takes two off the `D` of the reserves after a
deposit to round it down again. The estimate can be more than two above the root: at the
reserves `[7, 5]` and amplification five the root lies between eleven and twelve, and the
iteration stops at fourteen, where a floored step `12` plus two returns fourteen again
(`calculate_d_exceeds_root_by_more_than_two`).
-/

namespace Hydration.Stableswap

/-- The gap `Ann * S + D - Ann * D - D^(n+1) / (n^n * P)` of the invariant at `D`. -/
noncomputable def invariantGap (xp : List Nat) (ann : Nat) (D : ℝ) : ℝ :=
  ann * (xp.sum : ℝ) + D - ann * D - D ^ (xp.length + 1) / ((xp.length : ℝ) ^ xp.length * xp.prod)

/-- `D` is the exact invariant of `xp` at `ann`: a positive root of the gap. -/
def IsExactD (xp : List Nat) (ann : Nat) (D : ℝ) : Prop :=
  0 < D ∧ invariantGap xp ann D = 0

theorem continuous_invariantGap (xp : List Nat) (ann : Nat) : Continuous (invariantGap xp ann) := by
  unfold invariantGap
  fun_prop

/-- `n^n * P` is positive when every reserve is. -/
theorem invariant_denominator_pos {xp : List Nat} (hxp : ∀ x ∈ xp, 0 < x) :
    0 < (xp.length : ℝ) ^ xp.length * xp.prod := by
  have hprod : 0 < xp.prod := List.prod_pos hxp
  have hpow : 0 < (xp.length : ℝ) ^ xp.length := by
    cases hlen : xp.length with
    | zero => simp
    | succ k => positivity
  exact mul_pos hpow (by exact_mod_cast hprod)

/-- With `Ann ≥ 1` the gap falls strictly on `D ≥ 0`: the `D` terms fall with slope
`1 - Ann ≤ 0` and the power term grows. -/
theorem invariantGap_strictAntiOn {xp : List Nat} {ann : Nat} (hann : 1 ≤ ann)
    (hxp : ∀ x ∈ xp, 0 < x) : StrictAntiOn (invariantGap xp ann) (Set.Ici 0) := by
  intro a ha b _ hab
  have hK := invariant_denominator_pos hxp
  have hpow : a ^ (xp.length + 1) < b ^ (xp.length + 1) :=
    pow_lt_pow_left₀ hab ha (Nat.succ_ne_zero _)
  have hdiv : a ^ (xp.length + 1) / ((xp.length : ℝ) ^ xp.length * xp.prod) <
      b ^ (xp.length + 1) / ((xp.length : ℝ) ^ xp.length * xp.prod) :=
    div_lt_div_of_pos_right hpow hK
  have hann' : (1 : ℝ) ≤ ann := by exact_mod_cast hann
  have hslope : (b - a) * (1 - ann) ≤ 0 :=
    mul_nonpos_of_nonneg_of_nonpos (by linarith) (by linarith)
  unfold invariantGap
  nlinarith

/-- The exact invariant is unique. -/
theorem exactD_unique {xp : List Nat} {ann : Nat} (hann : 1 ≤ ann) (hxp : ∀ x ∈ xp, 0 < x)
    {D D' : ℝ} (hD : IsExactD xp ann D) (hD' : IsExactD xp ann D') : D = D' :=
  (invariantGap_strictAntiOn hann hxp).injOn (Set.mem_Ici.mpr hD.1.le)
    (Set.mem_Ici.mpr hD'.1.le) (hD.2.trans hD'.2.symm)

/-- A sign change of the gap on `[a, b]` with `0 < a` brackets the exact invariant in `[a, b)`. -/
theorem exists_exactD_of_sign_change {xp : List Nat} {ann : Nat} {a b : ℝ} (ha : 0 < a)
    (hab : a ≤ b) (hpos : 0 ≤ invariantGap xp ann a) (hneg : invariantGap xp ann b < 0) :
    ∃ D, IsExactD xp ann D ∧ a ≤ D ∧ D < b := by
  obtain ⟨D, ⟨haD, hDb⟩, hD⟩ := intermediate_value_Icc' hab
    (continuous_invariantGap xp ann).continuousOn ⟨hneg.le, hpos⟩
  have hne : D ≠ b := by
    rintro rfl
    exact hneg.ne hD
  exact ⟨D, ⟨ha.trans_le haD, hD⟩, haD, lt_of_le_of_ne hDb hne⟩

/-- The reserves `[7, 5]` at amplification five, so `Ann = 10`: `calculate_d_internal` returns
fourteen, and the exact invariant, the only positive root, is below twelve. -/
theorem calculate_d_exceeds_root_by_more_than_two :
    calculateDInternal maxDIterations [7, 5] 5 [(1, 1), (1, 1)] = some 14 ∧
      ∃ D, IsExactD [7, 5] (5 * 2) D ∧ (∀ D', IsExactD [7, 5] (5 * 2) D' → D' = D) ∧ D + 2 < 14 := by
  refine ⟨by decide +kernel, ?_⟩
  -- the gap is `21 - 1331 / 140` at eleven and `12 - 1728 / 140` at twelve
  obtain ⟨D, hD, -, hD12⟩ := @exists_exactD_of_sign_change [7, 5] (5 * 2) 11 12 (by norm_num)
    (by norm_num) (by norm_num [invariantGap]) (by norm_num [invariantGap])
  have hxp : ∀ x ∈ [7, 5], 0 < x := by decide
  exact ⟨D, hD, fun D' hD' => exactD_unique (by norm_num) hxp hD' hD, by linarith⟩

end Hydration.Stableswap
