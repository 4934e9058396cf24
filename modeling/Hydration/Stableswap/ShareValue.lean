import Hydration.Stableswap.Math

/-!
# What a stableswap share is worth

A share of a pool is worth `D / issuance`: the invariant of the reserves over the shares
issued. The liquidity functions mint shares by the growth of `D` rounded down, and burn
shares by its fall rounded up; the proportional withdrawal pays every reserve's
pro-rata part rounded down. Each of these keeps the ratio for the values it itself
computes, and this module says so for each of them (`ShareValueKept`, the cross-multiplied
ratio).

That is not the same as keeping the ratio of `calculate_d` of the reserves before and
after: `calculate_d` is an integer Newton estimate, so a proportional withdrawal of a tenth
of the shares, which leaves exactly nine tenths of every reserve, can leave a `D` one unit
below nine tenths of the old one.
-/

namespace Hydration.Stableswap

open Frame FixedPoint

/-! ## The value of a share -/

/-- The value `d₁ / i₁` of a share after an operation is at least the value `d₀ / i₀`
before it, cross-multiplied so that no division is needed. -/
def ShareValueKept (d₀ i₀ d₁ i₁ : Nat) : Prop := d₀ * i₁ ≤ d₁ * i₀

instance (d₀ i₀ d₁ i₁ : Nat) : Decidable (ShareValueKept d₀ i₀ d₁ i₁) :=
  inferInstanceAs (Decidable (_ ≤ _))

/-- Operations that each keep the value of a share keep it in sequence. -/
theorem ShareValueKept.trans {d₀ i₀ d₁ i₁ d₂ i₂ : Nat} (h₁ : 0 < i₁)
    (h : ShareValueKept d₀ i₀ d₁ i₁) (h' : ShareValueKept d₁ i₁ d₂ i₂) :
    ShareValueKept d₀ i₀ d₂ i₂ := by
  unfold ShareValueKept at *
  have key : d₀ * i₂ * i₁ ≤ d₂ * i₀ * i₁ :=
    calc d₀ * i₂ * i₁ = d₀ * i₁ * i₂ := by ring
      _ ≤ d₁ * i₀ * i₂ := Nat.mul_le_mul_right _ h
      _ = d₁ * i₂ * i₀ := by ring
      _ ≤ d₂ * i₁ * i₀ := Nat.mul_le_mul_right _ h'
      _ = d₂ * i₀ * i₁ := by ring
  exact Nat.le_of_mul_le_mul_right key h₁

/-- Minting `I * (d₁ - d₀) / d₀` shares, the growth of `D` rounded down. -/
theorem shareValueKept_mint {d₀ d₁ : Nat} (I : Nat) (hle : d₀ ≤ d₁) :
    ShareValueKept d₀ I d₁ (I + I * (d₁ - d₀) / d₀) := by
  obtain ⟨k, rfl⟩ : ∃ k, d₁ = d₀ + k := ⟨d₁ - d₀, by omega⟩
  rw [Nat.add_sub_cancel_left]
  have hfloor : d₀ * (I * k / d₀) ≤ I * k := Nat.mul_div_le _ _
  unfold ShareValueKept
  calc d₀ * (I + I * k / d₀) = d₀ * I + d₀ * (I * k / d₀) := Nat.mul_add _ _ _
    _ ≤ d₀ * I + I * k := Nat.add_le_add_left hfloor _
    _ = (d₀ + k) * I := by ring

/-- Burning `I * (d₀ - d₁) / d₀ + 1` shares, the fall of `D` rounded up. -/
theorem shareValueKept_burn {d₀ d₁ : Nat} (I : Nat) (hle : d₁ ≤ d₀) :
    ShareValueKept d₀ I d₁ (I - (I * (d₀ - d₁) / d₀ + 1)) := by
  unfold ShareValueKept
  rcases Nat.eq_zero_or_pos d₀ with h0 | hpos
  · simp [h0]
  obtain ⟨k, rfl⟩ : ∃ k, d₀ = d₁ + k := ⟨d₀ - d₁, by omega⟩
  rw [Nat.add_sub_cancel_left]
  -- the burned shares are worth more than the fall of `D`
  have hceil : I * k < (d₁ + k) * (I * k / (d₁ + k) + 1) := Nat.lt_mul_div_succ _ hpos
  generalize I * k / (d₁ + k) + 1 = b at hceil
  rw [Nat.mul_sub]
  have hsplit : (d₁ + k) * I = d₁ * I + I * k := by ring
  omega

/-- Paying `r * s / I` of a reserve `r` for `s` of `I` shares, rounded down: the reserve
per share does not fall. -/
theorem shareValueKept_payout (r s I : Nat) : ShareValueKept r I (r - r * s / I) (I - s) := by
  unfold ShareValueKept
  have hfloor : r * s / I * I ≤ r * s := Nat.div_mul_le_self _ _
  rw [Nat.mul_sub, Nat.sub_mul]
  omega

/-! ## The fee on imbalance -/

/-- With no fee the imbalance fee is zero. -/
theorem imbalanceFee_zero (assetsCt : Nat) :
    Returns (fun f : FixedU128 => f.inner = 0) (imbalanceFee PerThing.zero assetsCt) := by
  unfold imbalanceFee
  refine returns_bind fun f hf => ?_
  -- `from(0) * n` has inner value zero, and so has its quotient
  have hf0 : f.inner = 0 := by
    simpa [Fixed.checkedMul, Fixed.ofPerThing, Fixed.ofInnerSat, PerThing.zero] using hf
  intro g hg
  simp only [Fixed.checkedDiv, hf0, Nat.zero_mul, Nat.zero_div] at hg
  split at hg
  · cases hg
  · exact Fixed.ofInner?_eq_some.mp hg

/-- A zero fee leaves the reserve as it is. -/
theorem adjustReserve_of_inner_zero {fee : FixedU128} (hfee : fee.inner = 0) (d₀ d₁ : Nat)
    (initial updated : AssetReserve) :
    Returns (fun r : Nat × AssetReserve => r.2 = updated)
      (adjustReserve fee d₀ d₁ initial updated) := by
  unfold adjustReserve
  iterate 3 refine returns_bind fun _ _ => ?_
  refine returns_bind fun feeAmount hfa => returns_pure ?_
  obtain ⟨-, -, rfl⟩ := Fixed.checkedMulInt_eq_some.mp hfa
  simp [hfee]

/-- A zero fee leaves all reserves as they are. -/
theorem adjustReserves_of_inner_zero {fee : FixedU128} (hfee : fee.inner = 0) (d₀ d₁ : Nat)
    {initial updated : List AssetReserve} (hlen : initial.length = updated.length) :
    Returns (fun r : List Nat × List AssetReserve => r.2 = updated)
      (adjustReserves fee d₀ d₁ initial updated) := by
  intro r hr
  unfold adjustReserves at hr
  obtain ⟨l, hl, rfl⟩ := Option.map_eq_some_iff.mp hr
  have hmap := returns_mapM (g := Prod.snd) (h := Prod.snd)
    (fun p => adjustReserve_of_inner_zero hfee d₀ d₁ p.1 p.2) _ l hl
  rw [List.unzip_snd, hmap, List.map_snd_zip (le_of_eq hlen.symm)]

/-! ## The liquidity functions -/

section Liquidity

variable (dIterations amplification shareIssuance : Nat) (pegs : List (Nat × Nat))
  (initialReserves : List AssetReserve)

/-- `calculate_shares` mints shares by the growth from the initial `D` to the `D` of the
reserves after the fee on imbalance. -/
theorem calculateShares_spec (updatedReserves : List AssetReserve) (fee : Permill)
    (hI : 0 < shareIssuance) :
    Returns (fun r : Nat × List Nat => ∃ initialD f updatedD adjustedReserves adjustedD,
        calculateD dIterations initialReserves amplification pegs = some initialD ∧
        imbalanceFee fee initialReserves.length = some f ∧
        adjustReserves f initialD updatedD initialReserves updatedReserves =
          some (r.2, adjustedReserves) ∧
        calculateD dIterations adjustedReserves amplification pegs = some adjustedD ∧
        ShareValueKept initialD shareIssuance adjustedD (shareIssuance + r.1))
      (calculateShares dIterations initialReserves updatedReserves amplification shareIssuance
        fee pegs) := by
  unfold calculateShares
  dsimp only
  split
  · exact returns_none
  refine returns_bind fun initialD hD₀ => returns_bind fun _ _ => ?_
  refine returns_bind fun updatedD _ => ?_
  split
  · exact returns_none
  refine returns_bind fun f hf => ?_
  refine returns_bind fun ⟨fees, adjustedReserves⟩ hadj => ?_
  refine returns_bind fun adjustedD hDa => ?_
  -- a first deposit is not priced by the ratio; here the issuance is positive
  rw [if_neg (Nat.pos_iff_ne_zero.mp hI)]
  refine returns_bind fun dDiff hdiff => ?_
  obtain ⟨hle, rfl⟩ := Word.checkedSub_eq_some.mp hdiff
  refine returns_bind fun num hnum => returns_bind fun shareAmount hsa => ?_
  refine returns_bind fun sharesAmount hs => returns_pure ?_
  obtain ⟨-, rfl⟩ := Word.checkedMul_eq_some.mp hnum
  obtain ⟨-, rfl⟩ := Word.checkedDiv_eq_some.mp hsa
  obtain ⟨-, rfl⟩ := Word.tryFrom_eq_some.mp hs
  exact ⟨initialD, f, updatedD, adjustedReserves, adjustedD, hD₀, hf, hadj, hDa,
    shareValueKept_mint shareIssuance hle⟩

/-- With no fee the adjusted reserves are the updated ones, so `calculate_shares` keeps
the value of a share measured by `calculate_d` of the reserves after the deposit. -/
theorem calculateShares_zeroFee (updatedReserves : List AssetReserve)
    (hI : 0 < shareIssuance) :
    Returns (fun r : Nat × List Nat => ∃ initialD updatedD,
        calculateD dIterations initialReserves amplification pegs = some initialD ∧
        calculateD dIterations updatedReserves amplification pegs = some updatedD ∧
        ShareValueKept initialD shareIssuance updatedD (shareIssuance + r.1))
      (calculateShares dIterations initialReserves updatedReserves amplification shareIssuance
        PerThing.zero pegs) := by
  intro r hr
  obtain ⟨initialD, f, d₁, adjusted, adjustedD, hD₀, hf, hadj, hDa, hkept⟩ :=
    calculateShares_spec dIterations amplification shareIssuance pegs initialReserves
      updatedReserves PerThing.zero hI r hr
  -- the guard of `calculate_shares` checked that the two reserve lists have one length
  have hlen : initialReserves.length = updatedReserves.length := by
    unfold calculateShares at hr
    dsimp only at hr
    split at hr
    · cases hr
    · omega
  have hsame : adjusted = updatedReserves :=
    adjustReserves_of_inner_zero (imbalanceFee_zero _ f hf) initialD d₁ hlen _ hadj
  exact ⟨initialD, adjustedD, hD₀, hsame ▸ hDa, hkept⟩

/-- `calculate_shares_for_amount` burns shares by the fall from the initial `D` to the `D`
of the reserves after the withdrawal and the fee on imbalance. -/
theorem calculateSharesForAmount_spec (assetIdx amount : Nat) (fee : Permill) :
    Returns (fun r : Nat × List Nat => ∃ initialD f updatedReserves updatedD adjustedReserves
        adjustedD,
        calculateD dIterations initialReserves amplification pegs = some initialD ∧
        imbalanceFee fee initialReserves.length = some f ∧
        withdrawReserve initialReserves assetIdx amount = some updatedReserves ∧
        calculateD dIterations updatedReserves amplification pegs = some updatedD ∧
        adjustReserves f initialD updatedD initialReserves updatedReserves =
          some (r.2, adjustedReserves) ∧
        calculateD dIterations adjustedReserves amplification pegs = some adjustedD ∧
        ShareValueKept initialD shareIssuance adjustedD (shareIssuance - r.1))
      (calculateSharesForAmount dIterations initialReserves assetIdx amount amplification
        shareIssuance fee pegs) := by
  unfold calculateSharesForAmount
  dsimp only
  split
  · exact returns_none
  refine returns_bind fun f hf => returns_bind fun updatedReserves hupd => ?_
  refine returns_bind fun initialD hD₀ => returns_bind fun updatedD hD₁ => ?_
  refine returns_bind fun ⟨fees, adjustedReserves⟩ hadj => ?_
  refine returns_bind fun adjustedD hDa => returns_bind fun dDiff hdiff => ?_
  obtain ⟨hle, rfl⟩ := Word.checkedSub_eq_some.mp hdiff
  refine returns_bind fun num hnum => returns_bind fun shareAmount hsa => ?_
  refine returns_bind fun shareAmount' hsa' => returns_bind fun shares hs => returns_pure ?_
  obtain ⟨-, rfl⟩ := Word.checkedMul_eq_some.mp hnum
  obtain ⟨-, rfl⟩ := Word.checkedDiv_eq_some.mp hsa
  obtain ⟨-, rfl⟩ := Word.checkedAdd_eq_some.mp hsa'
  obtain ⟨-, rfl⟩ := Word.tryFrom_eq_some.mp hs
  exact ⟨initialD, f, updatedReserves, updatedD, adjustedReserves, adjustedD, hD₀, hf, hupd,
    hD₁, hadj, hDa, shareValueKept_burn shareIssuance hle⟩

/-- Withdrawing from one reserve keeps the number of reserves. -/
theorem withdrawReserve_length {assetIdx amount : Nat} {updated : List AssetReserve}
    (h : withdrawReserve initialReserves assetIdx amount = some updated) :
    updated.length = initialReserves.length := by
  have hmap := returns_mapM (g := fun _ => ()) (h := fun _ => ())
    (fun _ _ _ => rfl) _ updated h
  simpa using congrArg List.length hmap

/-- With no fee, `calculate_shares_for_amount` keeps the value of a share measured by
`calculate_d` of the reserves after the withdrawal. -/
theorem calculateSharesForAmount_zeroFee (assetIdx amount : Nat) :
    Returns (fun r : Nat × List Nat => ∃ initialD updatedReserves updatedD,
        calculateD dIterations initialReserves amplification pegs = some initialD ∧
        withdrawReserve initialReserves assetIdx amount = some updatedReserves ∧
        calculateD dIterations updatedReserves amplification pegs = some updatedD ∧
        ShareValueKept initialD shareIssuance updatedD (shareIssuance - r.1))
      (calculateSharesForAmount dIterations initialReserves assetIdx amount amplification
        shareIssuance PerThing.zero pegs) := by
  intro r hr
  obtain ⟨initialD, f, updated, updatedD, adjusted, adjustedD, hD₀, hf, hupd, hD₁, hadj, hDa,
    hkept⟩ := calculateSharesForAmount_spec dIterations amplification shareIssuance pegs
      initialReserves assetIdx amount PerThing.zero r hr
  have hsame : adjusted = updated :=
    adjustReserves_of_inner_zero (imbalanceFee_zero _ f hf) initialD updatedD
      (withdrawReserve_length initialReserves hupd).symm _ hadj
  exact ⟨initialD, updated, adjustedD, hD₀, hupd, hsame ▸ hDa, hkept⟩

end Liquidity

/-- `calculate_liquidity_out` pays at most the pro-rata part of the reserve: what stays
per share does not fall. -/
theorem calculateLiquidityOut_spec (reserve shareAmount shareIssuance : Nat) :
    Returns (fun out => ShareValueKept reserve shareIssuance (reserve - out)
        (shareIssuance - shareAmount))
      (calculateLiquidityOut reserve shareAmount shareIssuance) := by
  unfold calculateLiquidityOut
  refine returns_bind fun num hnum => returns_bind fun amount hamount => ?_
  intro out hout
  obtain ⟨-, rfl⟩ := Word.checkedMul_eq_some.mp hnum
  obtain ⟨-, rfl⟩ := Word.checkedDiv_eq_some.mp hamount
  obtain ⟨-, rfl⟩ := Word.tryFrom_eq_some.mp hout
  exact shareValueKept_payout reserve shareAmount shareIssuance

/-! ## Share value over the liquidity functions -/

/-- From any pool with shares issued, with no fee: adding liquidity and withdrawing an
amount of one asset keep `calculate_d / issuance`, and a proportional withdrawal keeps
every reserve per share. -/
theorem shareValue_kept_of_zeroFee {dIterations amplification shareIssuance initialD : Nat}
    {pegs : List (Nat × Nat)} {initialReserves : List AssetReserve} (hI : 0 < shareIssuance)
    (hD₀ : calculateD dIterations initialReserves amplification pegs = some initialD) :
    (∀ updatedReserves updatedD shares fees,
        calculateD dIterations updatedReserves amplification pegs = some updatedD →
        calculateShares dIterations initialReserves updatedReserves amplification shareIssuance
          PerThing.zero pegs = some (shares, fees) →
        ShareValueKept initialD shareIssuance updatedD (shareIssuance + shares)) ∧
    (∀ assetIdx amount updatedReserves updatedD shares fees,
        withdrawReserve initialReserves assetIdx amount = some updatedReserves →
        calculateD dIterations updatedReserves amplification pegs = some updatedD →
        calculateSharesForAmount dIterations initialReserves assetIdx amount amplification
          shareIssuance PerThing.zero pegs = some (shares, fees) →
        ShareValueKept initialD shareIssuance updatedD (shareIssuance - shares)) ∧
    (∀ reserve shares out, calculateLiquidityOut reserve shares shareIssuance = some out →
        ShareValueKept reserve shareIssuance (reserve - out) (shareIssuance - shares)) := by
  refine ⟨?_, ?_, ?_⟩
  · intro updatedReserves updatedD shares fees hD₁ h
    obtain ⟨d₀, d₁, h₀, h₁, hkept⟩ := calculateShares_zeroFee dIterations amplification
      shareIssuance pegs initialReserves updatedReserves hI _ h
    rw [hD₀, Option.some_inj] at h₀
    rw [hD₁, Option.some_inj] at h₁
    subst h₀ h₁
    exact hkept
  · intro assetIdx amount updatedReserves updatedD shares fees hupd hD₁ h
    obtain ⟨d₀, upd, d₁, h₀, hupd', h₁, hkept⟩ := calculateSharesForAmount_zeroFee dIterations
      amplification shareIssuance pegs initialReserves assetIdx amount _ h
    rw [hupd, Option.some_inj] at hupd'
    subst hupd'
    rw [hD₀, Option.some_inj] at h₀
    rw [hD₁, Option.some_inj] at h₁
    subst h₀ h₁
    exact hkept
  · intro reserve shares out h
    exact calculateLiquidityOut_spec reserve shares shareIssuance out h

/-- A pool of one and two tokens at amplification ten with one share issued: a deposit of
half a token of the first asset, a withdrawal of a tenth of a token of the second, and a
withdrawal of a tenth of the shares. -/
theorem shareValue_kept_of_zeroFee_pool :
    ShareValueKept 2983226103055844166 (10 ^ 18) 3496694562092379444
        (10 ^ 18 + 172118519112771206) ∧
      ShareValueKept 2983226103055844166 (10 ^ 18) 2886142380290042499
        (10 ^ 18 - 32543199681162189) ∧
      ShareValueKept (2 * 10 ^ 18) (10 ^ 18) (2 * 10 ^ 18 - 2 * 10 ^ 17) (10 ^ 18 - 10 ^ 17) := by
  have h := @shareValue_kept_of_zeroFee maxDIterations 10 (10 ^ 18) 2983226103055844166
    [(1, 1), (1, 1)] [⟨10 ^ 18, 18⟩, ⟨2 * 10 ^ 18, 18⟩] (by decide) (by decide +kernel)
  exact ⟨h.1 [⟨15 * 10 ^ 17, 18⟩, ⟨2 * 10 ^ 18, 18⟩] _ _ [0, 0] (by decide +kernel)
      (by decide +kernel),
    h.2.1 1 (10 ^ 17) [⟨10 ^ 18, 18⟩, ⟨19 * 10 ^ 17, 18⟩] _ _ [0, 0] (by decide +kernel)
      (by decide +kernel) (by decide +kernel),
    h.2.2 (2 * 10 ^ 18) (10 ^ 17) _ (by decide +kernel)⟩

/-- Withdrawing 30620 of the 30660 units of the first asset of a pool holding 30660 and 19344,
at amplification eight, a fee of one percent and an issuance equal to the sum of the reserves:
`calculate_shares_for_amount` asks 43705 shares, and `calculate_withdraw_one_asset` pays 30624
units for them. The two functions charge the fee on imbalance differently:
`calculate_shares_for_amount` takes 25 and 80 units off the two reserves before it measures the
fall of `D`, and `calculate_withdraw_one_asset` keeps 20 units of the asset it pays out. -/
theorem quoted_shares_pay_out_more :
    calculateSharesForAmount maxDIterations [⟨30660, 18⟩, ⟨19344, 18⟩] 0 30620 8 50004
        ⟨10000, by decide⟩ [(1, 1), (1, 1)] = some (43705, [25, 80]) ∧
      calculateWithdrawOneAsset maxDIterations maxYIterations [⟨30660, 18⟩, ⟨19344, 18⟩] 43705 0
        50004 8 ⟨10000, by decide⟩ [(1, 1), (1, 1)] = some (30624, 20) ∧
      43705 ≤ 50004 ∧ 30620 < 30624 := by
  decide +kernel

end Hydration.Stableswap
