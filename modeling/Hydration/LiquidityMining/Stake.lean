import Hydration.LiquidityMining.Pallet

/-!
# Stakes of yield farms in their global farm

A yield farm's stake in its global farm's `total_shares_z` is added deposit by deposit,
each rounded down on its own (`do_deposit_lp_shares`), and removed in one piece,
recomputed from the farm's total valued shares (`stop_yield_farm`,
`update_yield_farm_multiplier`), or read back when the yield farm is synced
(`sync_yield_farm`). Rounding down is superadditive, so the piece removed can exceed the
sum of what was added: the global farm's `total_shares_z` underflows on removal, and the
yield farm is owed more than its global farm has pending.
-/

namespace Hydration.LiquidityMining

open Frame FixedPoint

variable {AssetId AccountId : Type}

/-- Two deposits of `1001` valued shares into a yield farm of multiplier `1.5` add
`1501` to `total_shares_z` each, while the yield farm's stake is `⌊1.5 · 2002⌋ = 3003`.
Stopping the farm fails with `InvalidTotalSharesZ`; with a yield of one per period, the
next period's claim fails in `sync_yield_farm`, whose yield farm rewards `3003` exceed
the `3002` pending. -/
def stakeRun : List (Call Nat Nat Nat) :=
  [.createGlobalFarm 1000000 100 1 0 0 4 PerThing.one 1000 Fixed.one,
   .createYieldFarm 4 1 ⟨1500000000000000000, by decide⟩ none 7 [0],
   .depositLpShares 1 2 7 10 1001,
   .depositLpShares 1 2 7 10 1001]

theorem stake_exceeds_totalSharesZ :
    ∃ s, Frame.Reachable (· = exampleGenesis) (step exampleConfig) s ∧
      (s.globalFarm.lookup 1).map GlobalFarmData.totalSharesZ = some 3002 ∧
      ((s.yieldFarm.lookup (7, 1, 2)).bind fun yf =>
        calculateGlobalFarmShares yf.totalValuedShares yf.multiplier) = some 3003 ∧
      step exampleConfig (.stopYieldFarm 4 1 7) s = .error (.inconsistentState .invalidTotalSharesZ) ∧
      step exampleConfig (.claimRewards 4 1 2 true)
        (Frame.applyCall (step exampleConfig) (.advanceBlocks 1) s) = .error .arithmeticOverflow :=
  ⟨_, Frame.reachable_run stakeRun (.init rfl), by decide +kernel, by decide +kernel,
    Frame.errorOf_eq_some.mp (by decide +kernel), Frame.errorOf_eq_some.mp (by decide +kernel)⟩

end Hydration.LiquidityMining
