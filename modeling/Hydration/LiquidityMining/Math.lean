import Hydration.Frame.Arith

/-!
# Liquidity mining math

`math/src/liquidity_mining/liquidity_mining.rs`. Every function returns a `MathError`
on overflow or division by zero, and the pallet maps every such error to
`ArithmeticError::Overflow`, so the model returns `Option`.

Rewards flow through two accumulators: a global farm's reward per share `rpz`, grown by
each period's reward over `total_shares_z`, and a yield farm's reward per valued share
`rpvs`, grown by the yield farm's part of the global rewards over its valued shares.
Both are `FixedU128` and every conversion to an amount rounds down.
-/

namespace Hydration.LiquidityMining

open FixedPoint

/-- `calculate_loyalty_multiplier`:
`(initial_reward_percentage * scale_coef + periods) / (periods + scale_coef)`. -/
def calculateLoyaltyMultiplier (periods : Nat) (initialRewardPercentage : FixedU128)
    (scaleCoef : Nat) : Option FixedU128 := do
  let periods : FixedU128 := Fixed.saturatingFromInteger periods
  let scCoef : FixedU128 := Fixed.saturatingFromInteger scaleCoef
  let num ← initialRewardPercentage.checkedMul scCoef
  let num ← num.checkedAdd periods
  let denom ← periods.checkedAdd scCoef
  num.checkedDiv denom

/-- `calculate_accumulated_rps`: the accumulator grown by `reward / total_shares`. -/
def calculateAccumulatedRps (accumulatedRpsNow : FixedU128) (totalShares reward : Nat) :
    Option FixedU128 := do
  let rps : FixedU128 ← Fixed.checkedFromRational reward totalShares
  rps.checkedAdd accumulatedRpsNow

/-- `calculate_reward`: the growth of an accumulator times a number of shares, rounded down. -/
def calculateReward (accumulatedRpsStart accumulatedRpsNow : FixedU128) (shares : Nat) :
    Option Nat := do
  let delta ← accumulatedRpsNow.checkedSub accumulatedRpsStart
  delta.checkedMulInt shares

/-- `calculate_user_reward`: what a farm entry may claim now and what it forfeits by the
loyalty multiplier. -/
def calculateUserReward (accumulatedRpvs : FixedU128) (valuedShares accumulatedClaimedRewards : Nat)
    (accumulatedRpvsNow loyaltyMultiplier : FixedU128) : Option (Nat × Nat) := do
  let maxRewards ← calculateReward accumulatedRpvs accumulatedRpvsNow valuedShares
  if maxRewards = 0 then pure (0, 0)
  else do
    let claimableRewards ← loyaltyMultiplier.checkedMulInt maxRewards
    let unclaimableRewards ← Word.checkedSub maxRewards claimableRewards
    let userRewards ← Word.checkedSub claimableRewards accumulatedClaimedRewards
    pure (userRewards, unclaimableRewards)

/-- `calculate_global_farm_shares`: the stake `multiplier * valued_shares`, rounded down. -/
def calculateGlobalFarmShares (valuedShares : Nat) (multiplier : FixedU128) : Option Nat :=
  multiplier.checkedMulInt valuedShares

/-- `calculate_yield_farm_rewards`: the yield farm's rewards since its `rpz` and the growth
of its `rpvs`. The yield farm's stake is recomputed from its total valued shares. -/
def calculateYieldFarmRewards (yieldFarmRpz globalFarmRpz multiplier : FixedU128)
    (totalValuedShares : Nat) : Option (FixedU128 × Nat) := do
  let stakeInGlobalFarm ← calculateGlobalFarmShares totalValuedShares multiplier
  let yieldFarmRewards ← calculateReward yieldFarmRpz globalFarmRpz stakeInGlobalFarm
  let deltaRpvs : FixedU128 ← Fixed.checkedFromRational yieldFarmRewards totalValuedShares
  pure (deltaRpvs, yieldFarmRewards)

/-- `calculate_global_farm_rewards`: `total_shares_z * price_adjustment * yield_per_period`
per period, capped by `max_reward_per_period` per period. -/
def calculateGlobalFarmRewards (totalSharesZ : Nat) (priceAdjustment yieldPerPeriod : FixedU128)
    (maxRewardPerPeriod periodsSinceLastUpdate : Nat) : Option Nat := do
  let totalSharesZAdjusted ← priceAdjustment.checkedMulInt totalSharesZ
  -- `full_mul` of two `u128` cannot overflow `U256`
  let calculated := totalSharesZAdjusted * yieldPerPeriod.inner
  let calculated ← Word.checkedMul 256 calculated periodsSinceLastUpdate
  let calculated ← Word.checkedDiv calculated 1000000000000000000
  let rewards ← Word.tryFrom 128 calculated
  let maxRewardForPeriods ← Word.checkedMul 128 maxRewardPerPeriod periodsSinceLastUpdate
  pure (min rewards maxRewardForPeriods)

end Hydration.LiquidityMining
