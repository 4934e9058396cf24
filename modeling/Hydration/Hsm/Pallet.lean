import Hydration.Frame.Dispatch
import Hydration.Frame.Storage
import Hydration.Math.Rational

/-!
# pallet-hsm: the Hollar stability module

The HSM sells Hollar for approved collateral and buys it back. Hollar *goes out* (it is minted
to the user) at the purchase price `(1 + purchase_fee) / peg`, in `sell` with collateral in and in
`buy` with Hollar out. Hollar *comes in* (it is taken from the user and burned) at the buy price
`execution_price / (1 - buy_back_fee)`, where the execution price is what the collateral's
stableswap pool would give for the same trade, in `sell` with Hollar in and in `buy` with
collateral out. `do_trade_hollar_out` and `do_trade_hollar_in` do the checks and transfers; each
entry point passes them a closure that turns the price into the two amounts.

The stableswap pools, the pegs they report and the Hollar contract the HSM mints and burns through
are outside the pallet: they are the runtime's (`Runtime`).
-/

namespace Hydration.Hsm

open Frame FixedPoint
open GigaHdx (Ratio)

/-- A price or a peg: numerator and denominator. -/
abbrev Price := Nat × Nat

/-! ## `hsm` math -/

/-- A `Permill` as a `Ratio`. -/
def ratioOfPermill (p : Permill) : Ratio := Ratio.new p.parts 1000000

/-- `calculate_purchase_price`: `(1 + fee) / peg`. -/
def calculatePurchasePrice (peg : Price) (fee : Permill) : Price :=
  let price := Rational.saturatingDiv (Rational.saturatingAdd Ratio.one (ratioOfPermill fee)) (Ratio.new peg.1 peg.2)
  (price.n, price.d)

/-- `calculate_imbalance`: half the excess of Hollar over the pegged collateral. -/
def calculateImbalance (hollarReserve : Nat) (peg : Price) (collateralReserve : Nat) : Option Nat := do
  let peggedCollateral ← multiplyByRationalWithRounding collateralReserve peg.1 peg.2 .down
  if hollarReserve ≤ peggedCollateral then some 0
  else some ((hollarReserve - peggedCollateral) / 2)

/-- `calculate_buyback_limit`. -/
def calculateBuybackLimit (imbalance : Nat) (b : Perbill) : Nat := b.mulFloor imbalance

/-- `calculate_buy_price_with_fee`: `execution_price / (1 - fee)`, none for a fee of one. -/
def calculateBuyPriceWithFee (executionPrice : Price) (buyBackFee : Permill) : Option Price :=
  if buyBackFee.parts = 1000000 then none
  else
    let result := Rational.saturatingDiv (Ratio.new executionPrice.1 executionPrice.2)
      (ratioOfPermill buyBackFee.complement)
    some (result.n, result.d)

/-- `calculate_max_buy_price`: `coefficient / peg`. -/
def calculateMaxBuyPrice (peg : Price) (coefficient : FixedU128) : Price :=
  let result := Rational.saturatingDiv (Ratio.new coefficient.inner 1000000000000000000) (Ratio.new peg.1 peg.2)
  (result.n, result.d)

/-- `calculate_collateral_amount`: `hollar_amount * price`, rounded up. -/
def calculateCollateralAmount (hollarAmount : Nat) (price : Price) : Option Nat :=
  multiplyByRationalWithRounding hollarAmount price.1 price.2 .up

/-- `calculate_hollar_amount`: `collateral_amount / price`, rounded down. -/
def calculateHollarAmount (collateralAmount : Nat) (purchasePrice : Price) : Option Nat :=
  multiplyByRationalWithRounding collateralAmount purchasePrice.2 purchasePrice.1 .down

/-- `ensure_max_price`: the buy price is at most the max price, by cross products. -/
def ensureMaxPrice (buyPrice maxPrice : Price) : Bool :=
  decide (buyPrice.1 * maxPrice.2 ≤ buyPrice.2 * maxPrice.1)

/-! ## The pallet -/

/-- `CollateralInfo`. -/
structure CollateralInfo (AssetId : Type) where
  poolId : AssetId
  purchaseFee : Permill
  maxBuyPriceCoefficient : FixedU128
  buybackRate : Perbill
  buyBackFee : Permill
  maxInHolding : Option Nat

inductive Error
  | assetNotApproved
  | assetNotFound
  | invalidAssetPair
  | slippageLimitExceeded
  | maxBuyBackExceeded
  | maxBuyPriceExceeded
  | insufficientCollateralBalance
  | maxHoldingExceeded
  | arithmeticOverflow
  | balanceTooLow
  /-- an error of the stableswap pallet: no pool, or a simulated trade that fails -/
  | stableswap
  /-- the Hollar contract refused to mint or burn -/
  | evm
  deriving DecidableEq

/-- The runtime around the HSM: the Hollar asset and the pallet account, the stableswap pools as
the HSM reads them, and the Hollar contract. -/
structure Runtime (AccountId AssetId Pool : Type) where
  hollarId : AssetId
  palletAccount : AccountId
  /-- `Stableswap::initial_pool_snapshot`. -/
  initialPoolSnapshot : AssetId → Option Pool
  /-- `asset_idx` and `asset_reserve_at` of a snapshot. -/
  assetReserve : Pool → AssetId → Option Nat
  /-- `get_asset_peg` of a collateral in a pool. -/
  assetPeg : Pool → AssetId → AssetId → Except Error Price
  /-- `simulate_sell(pool_id, asset_in, asset_out, amount_in, min_amount_out)`: the amount out. -/
  simulateSell : Pool → AssetId → AssetId → AssetId → Nat → Nat → Except Error Nat
  /-- `simulate_buy(pool_id, asset_in, asset_out, amount_out, max_amount_in)`: the amount in. -/
  simulateBuy : Pool → AssetId → AssetId → AssetId → Nat → Nat → Except Error Nat
  /-- `mint_hollar` through the Hollar contract. -/
  mintHollar : Balances AssetId AccountId → AccountId → Nat → Except Error (Balances AssetId AccountId)
  /-- `burn_hollar` of what the pallet account holds. -/
  burnHollar : Balances AssetId AccountId → Nat → Except Error (Balances AssetId AccountId)

/-- The storage of the HSM and the balances it moves. -/
structure State (AccountId AssetId : Type) where
  collaterals : StorageMap AssetId (CollateralInfo AssetId)
  hollarAmountReceived : AssetId → Nat
  balances : Balances AssetId AccountId

/-- The trade an entry point reports to `pallet_broadcast`. -/
structure Swapped (AssetId : Type) where
  assetIn : AssetId
  amountIn : Nat
  assetOut : AssetId
  amountOut : Nat

section Pallet

variable {AccountId AssetId Pool : Type} [DecidableEq AccountId] [DecidableEq AssetId]
  (rt : Runtime AccountId AssetId Pool)

/-- `ensure_pair`: Hollar on one side, an approved collateral on the other. -/
def ensurePair (s : State AccountId AssetId) (assetIn assetOut : AssetId) : Except Error Unit :=
  ensure ((assetIn = rt.hollarId ∧ (s.collaterals.lookup assetOut).isSome) ∨
    (assetOut = rt.hollarId ∧ (s.collaterals.lookup assetIn).isSome)) .invalidAssetPair

/-- `ensure_max_collateral_holding`. -/
def ensureMaxCollateralHolding (s : State AccountId AssetId) (assetId : AssetId) (info : CollateralInfo AssetId)
    (collateralIn : Nat) : Bool :=
  match info.maxInHolding with
  | some maxHolding =>
    decide (Word.saturatingAdd 128 (s.balances.free assetId rt.palletAccount) collateralIn ≤ maxHolding)
  | none => true

/-- `do_trade_hollar_in`: the buy price from the simulated trade, the buyback, price and holding
checks, Hollar in and collateral out, and the Hollar burned. -/
def doTradeHollarIn (s : State AccountId AssetId) (who : AccountId) (collateralAsset : AssetId)
    (simulateSwap : AssetId → Pool → Except Error (Nat × Nat))
    (calculateFinalAmounts : Nat × Nat → Price → Except Error (Nat × Nat)) :
    Except Error (State AccountId AssetId × (Nat × Nat)) := do
  let info ← okOr (s.collaterals.lookup collateralAsset) .assetNotApproved
  let pool ← okOr (rt.initialPoolSnapshot info.poolId) .stableswap
  let hollarReserve ← okOr (rt.assetReserve pool rt.hollarId) .assetNotFound
  let collateralReserve ← okOr (rt.assetReserve pool collateralAsset) .assetNotFound
  let peg ← rt.assetPeg pool collateralAsset info.poolId
  let imbalance ← okOr (calculateImbalance hollarReserve peg collateralReserve) .arithmeticOverflow
  let buybackLimit := calculateBuybackLimit imbalance info.buybackRate
  let sim ← simulateSwap info.poolId pool
  -- the execution price is collateral per Hollar
  let executionPrice : Price := (sim.2, sim.1)
  let buyPrice ← okOr (calculateBuyPriceWithFee executionPrice info.buyBackFee) .arithmeticOverflow
  let final ← calculateFinalAmounts sim buyPrice
  ensure (Word.saturatingAdd 128 (s.hollarAmountReceived collateralAsset) final.1 ≤ buybackLimit) .maxBuyBackExceeded
  let maxPrice := calculateMaxBuyPrice peg info.maxBuyPriceCoefficient
  ensure (ensureMaxPrice buyPrice maxPrice = true) .maxBuyPriceExceeded
  ensure (final.2 ≤ s.balances.free collateralAsset rt.palletAccount) .insufficientCollateralBalance
  let balances ← okOr (s.balances.transfer rt.hollarId who rt.palletAccount final.1) .balanceTooLow
  let balances ← okOr (balances.transfer collateralAsset rt.palletAccount who final.2) .balanceTooLow
  let balances ← rt.burnHollar balances final.1
  pure ({ s with
      balances
      hollarAmountReceived := Function.update s.hollarAmountReceived collateralAsset
        (Word.saturatingAdd 128 (s.hollarAmountReceived collateralAsset) final.1) },
    final)

/-- `do_trade_hollar_out`: the purchase price from the peg, the holding check, collateral in and
Hollar minted. -/
def doTradeHollarOut (s : State AccountId AssetId) (who : AccountId) (collateralAsset : AssetId)
    (calculateAmounts : Price → Except Error (Nat × Nat)) :
    Except Error (State AccountId AssetId × (Nat × Nat)) := do
  let info ← okOr (s.collaterals.lookup collateralAsset) .assetNotApproved
  let pool ← okOr (rt.initialPoolSnapshot info.poolId) .stableswap
  let peg ← rt.assetPeg pool collateralAsset info.poolId
  let purchasePrice := calculatePurchasePrice peg info.purchaseFee
  let amounts ← calculateAmounts purchasePrice
  ensure (ensureMaxCollateralHolding rt s collateralAsset info amounts.2 = true) .maxHoldingExceeded
  let balances ← okOr (s.balances.transfer collateralAsset who rt.palletAccount amounts.2) .balanceTooLow
  let balances ← rt.mintHollar balances who amounts.1
  pure ({ s with balances }, amounts)

/-- `sell`, signed by `who`: Hollar in for collateral out, or collateral in for Hollar out. -/
def sell (s : State AccountId AssetId) (who : AccountId) (assetIn assetOut : AssetId) (amountIn slippageLimit : Nat) :
    Except Error (State AccountId AssetId × Swapped AssetId) := do
  ensurePair rt s assetIn assetOut
  let (s, amountOut) ← (if assetIn = rt.hollarId then do
      -- collateral out given Hollar in: the collateral the pool would ask for this much Hollar
      let r ← doTradeHollarIn rt s who assetOut
        (fun poolId pool => do
          let collateralAmount ← rt.simulateBuy pool poolId assetOut rt.hollarId amountIn (Word.max 128)
          pure (amountIn, collateralAmount))
        (fun amounts price => do
          let collateralAmount ← okOr (calculateCollateralAmount amounts.1 price) .arithmeticOverflow
          pure (amounts.1, collateralAmount))
      pure (r.1, r.2.2)
    else do
      -- Hollar out given collateral in
      let r ← doTradeHollarOut rt s who assetIn fun purchasePrice => do
        let hollarAmount ← okOr (calculateHollarAmount amountIn purchasePrice) .arithmeticOverflow
        pure (hollarAmount, amountIn)
      pure (r.1, r.2.1))
  ensure (slippageLimit ≤ amountOut) .slippageLimitExceeded
  pure (s, ⟨assetIn, amountIn, assetOut, amountOut⟩)

/-- `buy`, signed by `who`: Hollar out for collateral in, or collateral out for Hollar in. -/
def buy (s : State AccountId AssetId) (who : AccountId) (assetIn assetOut : AssetId) (amountOut slippageLimit : Nat) :
    Except Error (State AccountId AssetId × Swapped AssetId) := do
  ensurePair rt s assetIn assetOut
  let (s, amountIn) ← (if assetOut = rt.hollarId then do
      -- collateral in given Hollar out
      let r ← doTradeHollarOut rt s who assetIn fun purchasePrice => do
        let collateralAmount ← okOr (calculateCollateralAmount amountOut purchasePrice) .arithmeticOverflow
        pure (amountOut, collateralAmount)
      pure (r.1, r.2.2)
    else do
      -- Hollar in given collateral out: the Hollar the pool would give for this much collateral
      let r ← doTradeHollarIn rt s who assetOut
        (fun poolId pool => do
          let hollarAmount ← rt.simulateSell pool poolId assetOut rt.hollarId amountOut 0
          pure (hollarAmount, amountOut))
        (fun amounts price => do
          let hollarAmountToPay ← okOr (calculateHollarAmount amounts.2 price) .arithmeticOverflow
          pure (hollarAmountToPay, amounts.2))
      pure (r.1, r.2.1))
  ensure (amountIn ≤ slippageLimit) .slippageLimitExceeded
  pure (s, ⟨assetIn, amountIn, assetOut, amountOut⟩)

end Pallet

end Hydration.Hsm
