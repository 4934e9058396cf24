import Hydration.Otc.Pallet

/-!
# otc-settlements, and the calls that reach the OTC pallet

`settle_otc` closes an arbitrage between an OTC order and a router route: it fills the order with
deferred delivery, the delivery selling what the fill released through the router for the order's
`asset_in`, and then checks the prices, takes the profit and checks that the pallet account ends
where it started. It is transactional, so any check that fails after the fill rolls the fill back.

`step` is everything that can happen to the OTC pallet: its four extrinsics, a deferred fill with
any delivery closure that does not call into the pallet, the settlement extrinsic, and any call of
another pallet, which changes the world only.
-/

namespace Hydration.Otc

open Frame FixedPoint

/-- The runtime around otc-settlements: its pallet account, where the profit goes, and the
router it trades against. -/
structure SettlementsConfig (AccountId AssetId Route : Type) where
  palletAccount : AccountId
  profitReceiver : AccountId
  minProfitPercentage : Perbill
  pricePrecision : FixedU128
  getRoute : AssetId → AssetId → Route
  routerSell : World AccountId AssetId → AccountId → AssetId → AssetId → Nat → Nat → Route →
    Except DispatchError (World AccountId AssetId)
  spotPriceWithFee : World AccountId AssetId → Route → Option FixedU128

section Settlements

variable {AccountId AssetId Route : Type} [DecidableEq AccountId] [DecidableEq AssetId]
  [DecidableEq Route] (cfg : Config AccountId AssetId) (scfg : SettlementsConfig AccountId AssetId Route)

/-- `otc_price`: what the order pays out net of the fee, per unit it asks. -/
def otcPrice (otc : Order AccountId AssetId) : Except DispatchError FixedU128 := do
  let fee := calculateFee cfg otc.amountOut
  let amountOutWithoutFee ← okOr (Word.checkedSub otc.amountOut fee) .arithmeticOverflow
  okOr (Fixed.checkedFromRational amountOutWithoutFee otc.amountIn) .arithmeticOverflow

/-- `ensure_min_profit`, outside the benchmarks. -/
def ensureMinProfit (otcAmountIn profit : Nat) : Except DispatchError Unit :=
  ensure (scfg.minProfitPercentage.mulFloor otcAmountIn ≤ profit) (.settlements .tradeAmountTooLow)

/-- The delivery closure of `settle_otc`: what the fill released is sold through the router for
`asset_a`, and the purchase must bring at least `amount`. -/
def routerDelivery (assetA assetB : AssetId) (amount : Nat) (route : Route) (assetABalanceBefore : Nat)
    (otcAmountOut : Nat) (w : World AccountId AssetId) : Except DispatchError (World AccountId AssetId) := do
  let w ← (scfg.routerSell w scfg.palletAccount assetB assetA otcAmountOut 1 route).mapError
    fun _ => .settlements .tradeAmountTooHigh
  let bought := w.free.free assetA scfg.palletAccount - assetABalanceBefore
  ensure (amount ≤ bought) (.settlements .tradeAmountTooHigh)
  pure w

/-- `settle_otc`: the fill with the router delivery, then the price, profit and balance checks. -/
def settleOtc (s : State AccountId AssetId) (otcId amount : Nat) (route : Route) (isExecution : Bool) :
    Except DispatchError (State AccountId AssetId) := do
  let palletAcc := scfg.palletAccount
  let otc ← okOr (s.orders.lookup otcId) (.settlements .orderNotFound)
  let assetA := otc.assetIn
  let assetB := otc.assetOut
  -- an order that is not partially fillable is settled whole
  (if !otc.partiallyFillable then ensure (otc.amountIn = amount) (.settlements .notPartiallyFillable)
    else pure ())
  ensure (route = scfg.getRoute assetB assetA) (.settlements .invalidRoute)
  let assetABalanceBefore := s.world.free.free assetA palletAcc
  let assetBBalanceBefore := s.world.free.free assetB palletAcc
  let otcPrice ← otcPrice cfg otc
  let s ← fillOrderWithDeferredDelivery cfg s otcId palletAcc amount
    (routerDelivery scfg assetA assetB amount route assetABalanceBefore)
  let routerPriceAfter ← okOr (scfg.spotPriceWithFee s.world route) (.settlements .priceNotAvailable)
  (if !isExecution && otc.partiallyFillable then do
      let priceDiff := if routerPriceAfter < otcPrice then otcPrice.saturatingSub routerPriceAfter
        else routerPriceAfter.saturatingSub otcPrice
      let pricePrecision ← okOr (scfg.pricePrecision.checkedMul otcPrice) .arithmeticOverflow
      if pricePrecision < priceDiff then
        ensure (routerPriceAfter ≤ otcPrice) (.settlements .tradeAmountTooHigh)
        -- a partially fillable order may be filled whole when the arbitrage is only reduced
        if amount ≠ otc.amountIn then
          ensure (otcPrice ≤ routerPriceAfter) (.settlements .tradeAmountTooLow)
    else pure ())
  let assetABalanceAfterFill := s.world.free.free assetA palletAcc
  let profit ← okOr (Word.checkedSub assetABalanceAfterFill assetABalanceBefore) .arithmeticOverflow
  ensureMinProfit scfg otc.amountIn profit
  let world ← transfer s.world assetA palletAcc scfg.profitReceiver profit
  ensure (world.free.free assetA palletAcc = assetABalanceBefore) (.settlements .balanceInconsistency)
  ensure (world.free.free assetB palletAcc = assetBBalanceBefore) (.settlements .balanceInconsistency)
  pure { s with world }

end Settlements

/-! ## The calls -/

/-- What can happen to the OTC pallet. -/
inductive Call (AccountId AssetId Route : Type)
  | placeOrder (who : AccountId) (assetIn assetOut : AssetId) (amountIn amountOut : Nat)
      (partiallyFillable : Bool)
  | partialFillOrder (who : AccountId) (orderId amountIn : Nat)
  | fillOrder (who : AccountId) (orderId : Nat)
  | cancelOrder (who : AccountId) (orderId : Nat)
  | fillOrderWithDeferredDelivery (orderId : Nat) (filler : AccountId) (amountIn : Nat)
      (deliver : Nat → World AccountId AssetId → Except DispatchError (World AccountId AssetId))
  | settleOtcOrder (otcId amount : Nat) (route : Route)
  | outside (change : World AccountId AssetId → World AccountId AssetId)

section Step

variable {AccountId AssetId Route : Type} [DecidableEq AccountId] [DecidableEq AssetId]
  [DecidableEq Route] (cfg : Config AccountId AssetId) (scfg : SettlementsConfig AccountId AssetId Route)

/-- One call; `settle_otc_order` settles with `is_execution` set. -/
def step : Call AccountId AssetId Route → State AccountId AssetId → Except DispatchError (State AccountId AssetId)
  | .placeOrder who assetIn assetOut amountIn amountOut partiallyFillable, s =>
    placeOrder cfg s who assetIn assetOut amountIn amountOut partiallyFillable
  | .partialFillOrder who orderId amountIn, s => partialFillOrder cfg s who orderId amountIn
  | .fillOrder who orderId, s => fillOrder cfg s who orderId
  | .cancelOrder who orderId, s => cancelOrder s who orderId
  | .fillOrderWithDeferredDelivery orderId filler amountIn deliver, s =>
    fillOrderWithDeferredDelivery cfg s orderId filler amountIn deliver
  | .settleOtcOrder otcId amount route, s => settleOtc cfg scfg s otcId amount route true
  | .outside change, s => .ok { s with world := change s.world }

end Step

/-! ## A runtime for examples -/

/-- Every asset registered with an existential deposit of one, a multiplier of five and a fee of a
tenth of a percent. -/
def exampleConfig : Config Nat Nat where
  assetRegistered _ := true
  existentialDeposits _ := 1
  existentialDepositMultiplier := 5
  fee := ⟨1000, by decide⟩
  feeReceiver := 99

/-- A router that leaves the world as it is and quotes no price. -/
def exampleSettlements : SettlementsConfig Nat Nat Nat where
  palletAccount := 98
  profitReceiver := 97
  minProfitPercentage := ⟨0, by decide⟩
  pricePrecision := Fixed.zero
  getRoute _ _ := 0
  routerSell w _ _ _ _ _ _ := .ok w
  spotPriceWithFee _ _ := none

/-- No orders; account `7` holds a thousand of asset `1` and account `8` a thousand of asset `2`. -/
def exampleGenesis : State Nat Nat where
  nextOrderId := 0
  orders := ∅
  reserved := ⟨fun _ _ => 0⟩
  world :=
    { free := ⟨fun a w => if a = 1 ∧ w = 7 ∨ a = 2 ∧ w = 8 then 1000 else 0⟩
      providers := fun _ => 1
      consumers := fun _ => 0
      sufficients := fun _ => 0 }

end Hydration.Otc
