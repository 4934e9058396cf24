import Hydration.Frame.Arith
import Hydration.Frame.Storage
import Hydration.Frame.Dispatch
import Hydration.EmaOracle.Pallet

/-!
# The DCA pallet

`pallet-dca` runs schedules of recurring trades. `schedule` reserves the budget of a schedule
under the pallet's named reserve and plans its first execution in the list of a future block.
Each block's `on_initialize` takes that block's list, shuffles it, and takes every schedule
through one of its exits: a random bump to the next block, a failed fee payment, an unstable
price, a trade that fails and is retried or ends the schedule, or a trade that succeeds, after
which the schedule is planned again or completed. What a schedule spends comes out of its
reserve and its `RemainingAmounts` together; a rolling schedule (total amount zero) keeps both
and trades from the free balance.

The runtime around the pallet is a parameter of the model: the router and its dry runs, the
price oracles, the fee conversion, the relay chain's randomness and the errors the runtime
retries on. `on_initialize` is not transactional, so its steps return what they wrote before an
error (`Outcome`); `execute_trade`, `take_transaction_fee_from_user` and the calls are, so they
return the state only on success. Events, weights, EVM gas settings and the broadcast context
are left out.
-/

namespace Hydration.Dca

open Frame FixedPoint

/-- `MAX_NUMBER_OF_RETRY_FOR_RESCHEDULING`. -/
def maxNumberOfRetryForRescheduling : Nat := 10

/-- `FEE_MULTIPLIER_FOR_MIN_TRADE_LIMIT`. -/
def feeMultiplierForMinTradeLimit : Nat := 20

/-- `MAX_EXTRA_GAS`. -/
def maxExtraGas : Nat := 1000000

/-- `OraclePeriod::Short.as_period()`, the delay of a first retry. -/
def shortOraclePeriod : Nat := 20

/-- A `Trade` of a route: a pool and the assets it swaps. -/
structure Trade (AssetId : Type) where
  pool : Nat
  assetIn : AssetId
  assetOut : AssetId
  deriving DecidableEq

/-- `inverse_route`: the route back, each trade the other way round. -/
def inverseRoute {AssetId : Type} (route : List (Trade AssetId)) : List (Trade AssetId) :=
  (route.map fun t => ⟨t.pool, t.assetOut, t.assetIn⟩).reverse

/-- `Order`. -/
inductive Order (AssetId : Type)
  | sell (assetIn assetOut : AssetId) (amountIn minAmountOut : Nat) (route : List (Trade AssetId))
  | buy (assetIn assetOut : AssetId) (amountOut maxAmountIn : Nat) (route : List (Trade AssetId))
  deriving DecidableEq

namespace Order

variable {AssetId : Type}

/-- `get_asset_in`. -/
def getAssetIn : Order AssetId → AssetId
  | .sell assetIn .. => assetIn
  | .buy assetIn .. => assetIn

/-- `get_asset_out`. -/
def getAssetOut : Order AssetId → AssetId
  | .sell _ assetOut .. => assetOut
  | .buy _ assetOut .. => assetOut

/-- The route the order was given. -/
def route : Order AssetId → List (Trade AssetId)
  | .sell _ _ _ _ route => route
  | .buy _ _ _ _ route => route

/-- `get_route_or_default`: the given route, or the route provider's when it is empty. -/
def getRouteOrDefault (getRoute : AssetId → AssetId → List (Trade AssetId)) (o : Order AssetId) :
    List (Trade AssetId) :=
  if o.route.isEmpty then getRoute o.getAssetIn o.getAssetOut else o.route

end Order

/-- `Schedule`. -/
structure Schedule (AccountId AssetId : Type) where
  owner : AccountId
  period : Nat
  totalAmount : Nat
  maxRetries : Option Nat
  stabilityThreshold : Option Permill
  slippage : Option Permill
  order : Order AssetId

/-- `is_rolling`: a schedule without a total amount runs until its owner's funds run out. -/
def Schedule.isRolling {AccountId AssetId : Type} (s : Schedule AccountId AssetId) : Bool :=
  s.totalAmount == 0

/-- `AmountInAndOut` of a trade. -/
structure AmountInAndOut where
  amountIn : Nat
  amountOut : Nat

/-- The errors that reach the pallet from the runtime around it: arithmetic and token errors,
and the error of another pallet by its code. None of them is one of the pallet's own. -/
inductive RuntimeError
  | overflow
  | underflow
  | fundsUnavailable
  | balanceTooLow
  | other (code : Nat)
  deriving DecidableEq, Repr

/-- The pallet's `Error`, and the runtime's errors as `runtime`. -/
inductive Error
  | scheduleNotFound
  | minTradeAmountNotReached
  | forbidden
  | blockNumberIsNotInFuture
  | priceUnstable
  | bumped
  | calculatingPriceError
  | totalAmountIsSmallerThanMinBudget
  | budgetTooLow
  | noFreeBlockFound
  | manuallyTerminated
  | maxRetryReached
  | tradeLimitReached
  | slippageLimitReached
  | noParentHashFound
  | invalidState
  | periodTooShort
  | stabilityThresholdTooHigh
  | hasActiveSchedules
  | noReservesLocked
  | runtime (e : RuntimeError)
  deriving DecidableEq, Repr

/-- A generator of random `u32`s seeded for a block: its draws and how many were taken. -/
structure Rng where
  draws : Nat → Nat
  taken : Nat

/-- `gen::<u32>()`. -/
def Rng.gen (g : Rng) : Nat × Rng := (g.draws g.taken % 2 ^ 32, { g with taken := g.taken + 1 })

/-- `gen_range(lo..=hi)`. The library draws uniformly from the range; the model takes a draw
into it. -/
def Rng.genRange (g : Rng) (lo hi : Nat) : Nat × Rng :=
  (lo + g.draws g.taken % (hi + 1 - lo), { g with taken := g.taken + 1 })

/-- The runtime's parameters of the pallet and the pallets it calls. -/
structure Config (AccountId AssetId : Type) where
  nativeAssetId : AssetId
  polkadotNativeAssetId : AssetId
  feeReceiver : AccountId
  maxPriceDifferenceBetweenBlocks : Permill
  maxConfigurablePriceDifferenceBetweenBlocks : Permill
  maxSchedulePerBlock : Nat
  maxNumberOfRetriesOnError : Nat
  minimalPeriod : Nat
  /-- `BumpChance`, in percent. -/
  bumpChance : Nat
  minimumTradingLimit : Nat
  minBudgetInNativeCurrency : Nat
  maxBlockWeight : Nat
  /-- `RetryOnError`. -/
  retryOnError : Error → Bool
  /-- `ExtraGasSupport::out_of_gas_error`: the code of the dispatcher's `EvmOutOfGas`. -/
  outOfGasError : Nat
  /-- `RouteProvider::get_route`. -/
  getRoute : AssetId → AssetId → List (Trade AssetId)
  /-- `SwappablePaymentAssetSupport::is_transaction_fee_currency`. -/
  isTransactionFeeCurrency : AssetId → Bool
  /-- `get_trade_weight` without extra gas: the hook's weight and the route's. -/
  tradeWeight : Order AssetId → Nat
  /-- `GasWeightMapping::gas_to_weight`. -/
  gasToWeight : Nat → Nat
  /-- `WeightToFee`. -/
  weightToFee : Nat → Nat
  /-- `NativePriceOracle::price`. -/
  nativePrice : AssetId → Option (Nat × Nat)
  /-- `OraclePriceProvider::price`. -/
  oraclePrice : List (Trade AssetId) → EmaOracle.OraclePeriod → Option (Nat × Nat)
  /-- `SwappablePaymentAssetSupport::calculate_in_given_out`. -/
  calculateInGivenOut : AssetId → AssetId → Nat → Except RuntimeError Nat
  /-- `SwappablePaymentAssetSupport::calculate_fee_amount`. -/
  calculateFeeAmount : Nat → Except RuntimeError Nat
  /-- `SwappablePaymentAssetSupport::buy`, on the free balances. -/
  swapBuy : AccountId → AssetId → AssetId → Nat → Nat → AccountId → Balances AssetId AccountId →
    Except RuntimeError (Balances AssetId AccountId)
  /-- `RouteExecutor::calculate_sell_trade_amounts`. -/
  calculateSellTradeAmounts : List (Trade AssetId) → Nat → Except RuntimeError (List AmountInAndOut)
  /-- `RouteExecutor::calculate_buy_trade_amounts`. -/
  calculateBuyTradeAmounts : List (Trade AssetId) → Nat → Except RuntimeError (List AmountInAndOut)
  /-- `RouteExecutor::sell`, on the free balances. -/
  routerSell : AccountId → AssetId → AssetId → Nat → Nat → List (Trade AssetId) →
    Balances AssetId AccountId → Except RuntimeError (Balances AssetId AccountId)
  /-- `RouteExecutor::buy`, on the free balances. -/
  routerBuy : AccountId → AssetId → AssetId → Nat → Nat → List (Trade AssetId) →
    Balances AssetId AccountId → Except RuntimeError (Balances AssetId AccountId)
  /-- `RandomnessProvider::generator`: the draws of a block, salted by a schedule id. -/
  generator : Nat → Option Nat → Nat → Nat

/-- The out-of-gas error, as the pallet compares errors with it. -/
def Config.outOfGas {AccountId AssetId : Type} (cfg : Config AccountId AssetId) : Error :=
  .runtime (.other cfg.outOfGasError)

/-- The pallet's storage, the current block, and the balances under the pallet's named reserve
and free. -/
structure State (AccountId AssetId : Type) where
  blockNumber : Nat
  scheduleIdSequencer : Nat
  schedules : StorageMap Nat (Schedule AccountId AssetId)
  scheduleOwnership : StorageMap (AccountId × Nat) Unit
  remainingAmounts : StorageMap Nat Nat
  retriesOnError : StorageMap Nat Nat
  scheduleExecutionBlock : StorageMap Nat Nat
  scheduleIdsPerBlock : StorageMap Nat (List Nat)
  scheduleExtraGas : StorageMap Nat Nat
  free : Balances AssetId AccountId
  reserved : Balances AssetId AccountId

namespace State

variable {AccountId AssetId : Type} (s : State AccountId AssetId)

/-- `ScheduleIdsPerBlock`, empty by default. -/
def idsAt (block : Nat) : List Nat := (s.scheduleIdsPerBlock.lookup block).getD []

/-- `RetriesOnError`, zero by default. -/
def retriesOf (id : Nat) : Nat := (s.retriesOnError.lookup id).getD 0

/-- `ScheduleExtraGas`, zero by default. -/
def extraGasOf (id : Nat) : Nat := (s.scheduleExtraGas.lookup id).getD 0

end State

/-- What a step of `on_initialize`, which is not transactional, leaves: the storage as far as
it wrote, the generator, and how it ended. -/
structure Outcome (AccountId AssetId : Type) where
  state : State AccountId AssetId
  rng : Rng
  result : Except Error Unit

/-- A step that went through, reported as failing with `e`: how `prepare_schedule` hands a
bumped or retried schedule back to the hook. -/
def Outcome.failWith {AccountId AssetId : Type} (o : Outcome AccountId AssetId) (e : Error) :
    Outcome AccountId AssetId :=
  match o.result with
  | .ok () => { o with result := .error e }
  | .error _ => o

/-- Who calls `terminate`: the `TerminateOrigin`, or a signed account. -/
inductive Origin (AccountId : Type)
  | terminateOrigin
  | signed (who : AccountId)

section Pallet

variable {AccountId AssetId : Type} [DecidableEq AccountId] [DecidableEq AssetId]
  (cfg : Config AccountId AssetId)

/-! ## The named reserve -/

/-- `reserve_named` under the pallet's reserve id: the whole amount out of the free balance, or
nothing. -/
def reserveNamed (s : State AccountId AssetId) (asset : AssetId) (who : AccountId) (amount : Nat) :
    Except Error (State AccountId AssetId) := do
  let free ← okOr (s.free.withdraw asset who amount) (.runtime .balanceTooLow)
  pure { s with free, reserved := s.reserved.deposit asset who amount }

/-- `unreserve_named`: what is reserved, up to `amount`, back to the free balance, and what of
`amount` was not reserved. -/
def unreserveNamed (s : State AccountId AssetId) (asset : AssetId) (who : AccountId) (amount : Nat) :
    State AccountId AssetId × Nat :=
  let actual := min amount (s.reserved.free asset who)
  ({ s with
      free := s.free.deposit asset who actual
      reserved := s.reserved.set asset who (s.reserved.free asset who - actual) },
    amount - actual)

/-! ## Fees and prices -/

/-- `get_trade_weight`: extra gas of a schedule adds its weight. -/
def getTradeWeight (s : State AccountId AssetId) (order : Order AssetId) (scheduleId : Option Nat) :
    Nat :=
  let baseWeight := cfg.tradeWeight order
  match scheduleId with
  | some id =>
    if 0 < s.extraGasOf id then Word.saturatingAdd 64 baseWeight (cfg.gasToWeight (s.extraGasOf id))
    else baseWeight
  | none => baseWeight

/-- `weight_to_fee`, the weight capped at a block's. -/
def weightToFee (weight : Nat) : Nat := cfg.weightToFee (min weight cfg.maxBlockWeight)

/-- `convert_to_polkadot_native_asset`. -/
def convertToPolkadotNativeAsset (feeAmountInNative : Nat) : Except Error Nat := do
  let price ← okOr (cfg.nativePrice cfg.polkadotNativeAssetId) .calculatingPriceError
  okOr (multiplyByRationalWithRounding feeAmountInNative price.1 price.2 .up) (.runtime .overflow)

/-- `convert_native_amount_to_currency`: by the native price of a fee currency, else through the
price of DOT. -/
def convertNativeAmountToCurrency (assetId : AssetId) (nativeAssetAmount : Nat) :
    Except Error Nat :=
  if assetId = cfg.nativeAssetId then pure nativeAssetAmount
  else if cfg.isTransactionFeeCurrency assetId then do
    let price ← okOr (cfg.nativePrice assetId) .calculatingPriceError
    okOr (multiplyByRationalWithRounding nativeAssetAmount price.1 price.2 .up) (.runtime .overflow)
  else do
    let feeAmountInDot ← convertToPolkadotNativeAsset cfg nativeAssetAmount
    (cfg.calculateInGivenOut assetId cfg.polkadotNativeAssetId feeAmountInDot).mapError .runtime

/-- `convert_weight_to_fee`. -/
def convertWeightToFee (weight : Nat) (feeCurrency : AssetId) : Except Error Nat :=
  convertNativeAmountToCurrency cfg feeCurrency (weightToFee cfg weight)

/-- `get_transaction_fee`, in the sold asset. -/
def getTransactionFee (s : State AccountId AssetId) (order : Order AssetId) (scheduleId : Option Nat) :
    Except Error Nat :=
  convertWeightToFee cfg (getTradeWeight cfg s order scheduleId) order.getAssetIn

/-- `get_price_from_last_block_oracle`, and the short oracle's with `.short`. -/
def getPriceFromOracle (route : List (Trade AssetId)) (period : EmaOracle.OraclePeriod) :
    Except Error FixedU128 := do
  let price ← okOr (cfg.oraclePrice route period) .calculatingPriceError
  okOr (Fixed.checkedFromRational price.1 price.2) (.runtime .overflow)

/-- `is_price_unstable`: the last block's price and the short oracle's differ by more than the
threshold of their sum, or either cannot be had. -/
def isPriceUnstable (schedule : Schedule AccountId AssetId) : Bool :=
  let route := schedule.order.getRouteOrDefault cfg.getRoute
  match getPriceFromOracle cfg route .lastBlock, getPriceFromOracle cfg route .short with
  | .ok lastBlockPrice, .ok priceFromShortOracle =>
    let maxAllowedDiff := schedule.stabilityThreshold.getD cfg.maxPriceDifferenceBetweenBlocks
    let maxAllowed : FixedU128 := Fixed.ofPerThing maxAllowedDiff
    match lastBlockPrice.checkedAdd priceFromShortOracle with
    | none => true
    | some priceSum =>
      match maxAllowed.checkedMul priceSum with
      | none => true
      | some maxAllowedDifference =>
        let diff := if priceFromShortOracle < lastBlockPrice then
            lastBlockPrice.saturatingSub priceFromShortOracle
          else priceFromShortOracle.saturatingSub lastBlockPrice
        match diff.checkedMul (Fixed.saturatingFromInteger 2) with
        | none => true
        | some diff => maxAllowedDifference < diff
  | _, _ => true

/-- `calculate_last_block_slippage`: the amount the last block's price gives, and the slippage
allowed on it. -/
def calculateLastBlockSlippage (route : List (Trade AssetId)) (amount : Nat)
    (slippage : Option Permill) : Except Error (Nat × Nat) := do
  let price ← getPriceFromOracle cfg route .lastBlock
  let estimatedAmount ← okOr (price.checkedMulInt amount) (.runtime .overflow)
  let slippageLimit := slippage.getD cfg.maxPriceDifferenceBetweenBlocks
  pure (estimatedAmount, slippageLimit.mulFloor estimatedAmount)

/-- `get_amount_in_for_buy`: the first trade's amount in, from the router's dry run. -/
def getAmountInForBuy (amountOut : Nat) (route : List (Trade AssetId)) : Except Error Nat := do
  let tradeAmounts ← (cfg.calculateBuyTradeAmounts route amountOut).mapError .runtime
  let firstTrade ← okOr tradeAmounts.getLast? .invalidState
  pure firstTrade.amountIn

/-! ## Spending a schedule's budget -/

/-- `unallocate_amount`: the amount comes off the schedule's remaining amount and out of the
reserve; a rolling schedule keeps both. Every caller is transactional, so a failure leaves
nothing behind. -/
def unallocateAmount (s : State AccountId AssetId) (scheduleId : Nat)
    (schedule : Schedule AccountId AssetId) (amountToUnreserve : Nat) :
    Except Error (State AccountId AssetId) :=
  if schedule.isRolling then pure s
  else do
    let remainingAmount ← okOr (s.remainingAmounts.lookup scheduleId) .invalidState
    ensure (amountToUnreserve ≤ remainingAmount) .invalidState
    let remainingAmount ← okOr (Word.checkedSub remainingAmount amountToUnreserve) (.runtime .underflow)
    let s := { s with remainingAmounts := s.remainingAmounts.insert scheduleId remainingAmount }
    let unreserved := unreserveNamed s schedule.order.getAssetIn schedule.owner amountToUnreserve
    ensure (unreserved.2 = 0) .invalidState
    pure unreserved.1

/-- `take_transaction_fee_from_user` (transactional): the fee in the sold asset, paid out of the
budget to the fee receiver, or spent with the pool fee on top on buying DOT for it when the sold
asset is no fee currency. -/
def takeTransactionFeeFromUser (s : State AccountId AssetId) (scheduleId : Nat)
    (schedule : Schedule AccountId AssetId) (weightToCharge : Nat) :
    Except Error (State AccountId AssetId) := do
  let feeCurrency := schedule.order.getAssetIn
  let feeAmountInSoldAsset ← convertWeightToFee cfg weightToCharge feeCurrency
  if cfg.isTransactionFeeCurrency feeCurrency then do
    let s ← unallocateAmount s scheduleId schedule feeAmountInSoldAsset
    let free ← okOr (s.free.transfer feeCurrency schedule.owner cfg.feeReceiver feeAmountInSoldAsset)
      (.runtime .balanceTooLow)
    pure { s with free }
  else do
    let poolTradeFee ← (cfg.calculateFeeAmount feeAmountInSoldAsset).mapError .runtime
    let effectiveAmountIn ← okOr (Word.checkedAdd 128 feeAmountInSoldAsset poolTradeFee) (.runtime .overflow)
    let s ← unallocateAmount s scheduleId schedule effectiveAmountIn
    let feeInDot ← convertToPolkadotNativeAsset cfg (weightToFee cfg weightToCharge)
    let free ← (cfg.swapBuy schedule.owner feeCurrency cfg.polkadotNativeAssetId feeInDot
      effectiveAmountIn cfg.feeReceiver s.free).mapError .runtime
    pure { s with free }

/-- The limit a sell goes to the router with: the order's minimum when it is above the last
block's price less slippage, else that price, and either must be met by the dry run. -/
def sellLimit (minAmountOut lastBlockSlippageMinLimit amountOut : Nat) : Except Error Nat :=
  if lastBlockSlippageMinLimit < minAmountOut then do
    ensure (minAmountOut ≤ amountOut) .tradeLimitReached
    pure amountOut
  else do
    ensure (lastBlockSlippageMinLimit ≤ amountOut) .slippageLimitReached
    pure lastBlockSlippageMinLimit

/-- The check of a buy: the order's maximum when it is below the last block's price plus
slippage, else that price. -/
def buyLimit (maxAmountIn lastBlockSlippageMaxLimit amountIn : Nat) : Except Error Unit :=
  if maxAmountIn < lastBlockSlippageMaxLimit then ensure (amountIn ≤ maxAmountIn) .tradeLimitReached
  else ensure (amountIn ≤ lastBlockSlippageMaxLimit) .slippageLimitReached

/-- `execute_trade` (transactional): a sell of what remains up to the order's amount, or a buy of
the order's amount, paid out of the budget. -/
def executeTrade (s : State AccountId AssetId) (scheduleId : Nat)
    (schedule : Schedule AccountId AssetId) : Except Error (AmountInAndOut × State AccountId AssetId) :=
  let route := schedule.order.getRouteOrDefault cfg.getRoute
  match schedule.order with
  | .sell assetIn assetOut amountIn minAmountOut _ => do
    let remainingAmount ← okOr (s.remainingAmounts.lookup scheduleId) .invalidState
    let amountToSell := min remainingAmount amountIn
    let s ← unallocateAmount s scheduleId schedule amountToSell
    let slippage ← calculateLastBlockSlippage cfg (inverseRoute route) amountToSell schedule.slippage
    let lastBlockSlippageMinLimit ← okOr (Word.checkedSub slippage.1 slippage.2) (.runtime .overflow)
    let tradeAmounts ← (cfg.calculateSellTradeAmounts route amountToSell).mapError .runtime
    let lastTrade ← okOr tradeAmounts.getLast? .invalidState
    let effectiveMinLimit ← sellLimit minAmountOut lastBlockSlippageMinLimit lastTrade.amountOut
    let free ← (cfg.routerSell schedule.owner assetIn assetOut amountToSell effectiveMinLimit route
      s.free).mapError .runtime
    pure (⟨amountToSell, lastTrade.amountOut⟩, { s with free })
  | .buy assetIn assetOut amountOut maxAmountIn _ => do
    let amountIn ← getAmountInForBuy cfg amountOut route
    let s ← unallocateAmount s scheduleId schedule amountIn
    let slippage ← calculateLastBlockSlippage cfg route amountOut schedule.slippage
    let lastBlockSlippageMaxLimit ← okOr (Word.checkedAdd 128 slippage.1 slippage.2) (.runtime .overflow)
    buyLimit maxAmountIn lastBlockSlippageMaxLimit amountIn
    let free ← (cfg.routerBuy schedule.owner assetIn assetOut amountOut amountIn route s.free).mapError
      .runtime
    pure (⟨amountIn, amountOut⟩, { s with free })

/-! ## Ending a schedule -/

/-- `try_unreserve_all`: unreserve what remains of the budget, whatever is actually reserved. -/
def tryUnreserveAll (s : State AccountId AssetId) (scheduleId : Nat)
    (schedule : Schedule AccountId AssetId) : State AccountId AssetId :=
  match s.remainingAmounts.lookup scheduleId with
  | none => s
  | some remainingAmount => (unreserveNamed s schedule.order.getAssetIn schedule.owner remainingAmount).1

/-- `remove_schedule_from_storages`; a list of a block is left as it is. -/
def removeScheduleFromStorages (s : State AccountId AssetId) (owner : AccountId) (scheduleId : Nat) :
    State AccountId AssetId :=
  { s with
    schedules := s.schedules.erase scheduleId
    scheduleOwnership := s.scheduleOwnership.erase (owner, scheduleId)
    remainingAmounts := s.remainingAmounts.erase scheduleId
    retriesOnError := s.retriesOnError.erase scheduleId
    scheduleExecutionBlock := s.scheduleExecutionBlock.erase scheduleId
    scheduleExtraGas := s.scheduleExtraGas.erase scheduleId }

/-- `terminate_schedule`. -/
def terminateSchedule (s : State AccountId AssetId) (scheduleId : Nat)
    (schedule : Schedule AccountId AssetId) : State AccountId AssetId :=
  removeScheduleFromStorages (tryUnreserveAll s scheduleId schedule) schedule.owner scheduleId

/-- `complete_schedule`, which differs from `terminate_schedule` only in its event. -/
def completeSchedule (s : State AccountId AssetId) (scheduleId : Nat)
    (schedule : Schedule AccountId AssetId) : State AccountId AssetId :=
  removeScheduleFromStorages (tryUnreserveAll s scheduleId schedule) schedule.owner scheduleId

/-- `increment_extra_gas`: a share of `MAX_EXTRA_GAS` per allowed retry, capped at it. -/
def incrementExtraGas (s : State AccountId AssetId) (scheduleId : Nat)
    (schedule : Schedule AccountId AssetId) : State AccountId AssetId :=
  let maxRetries := schedule.maxRetries.getD cfg.maxNumberOfRetriesOnError
  if maxRetries = 0 then s
  else
    let newGas := Word.saturatingAdd 64 (s.extraGasOf scheduleId) (maxExtraGas / maxRetries)
    { s with scheduleExtraGas := s.scheduleExtraGas.insert scheduleId (min newGas maxExtraGas) }

/-! ## Planning -/

/-- The loop of `find_next_free_block`: a block whose list has room, else a random delay of
`2^i` to `2^(i+1) - 1` blocks, eleven times. -/
def findNextFreeBlockLoop (s : State AccountId AssetId) :
    List Nat → Nat → Rng → Except Error Nat × Rng
  | [], _, rng => (.error .noFreeBlockFound, rng)
  | i :: is, nextExecutionBlock, rng =>
    if (s.idsAt nextExecutionBlock).length < cfg.maxSchedulePerBlock then (.ok nextExecutionBlock, rng)
    else
      let lowerBound := Word.saturatingPow 32 2 i
      let upperBound := Word.saturatingPow 32 2 (i + 1) - 1
      let delay := rng.genRange lowerBound upperBound
      findNextFreeBlockLoop s is (Word.saturatingAdd 32 nextExecutionBlock delay.1) delay.2

/-- `find_next_free_block`. -/
def findNextFreeBlock (s : State AccountId AssetId) (blocknumber : Nat) (rng : Rng) :
    Except Error Nat × Rng :=
  findNextFreeBlockLoop cfg s (List.range (maxNumberOfRetryForRescheduling + 1)) blocknumber rng

/-- `plan_schedule_for_block`: a future block with room gets the id at the end of its list. -/
def planScheduleForBlock (s : State AccountId AssetId) (blocknumber scheduleId : Nat) (rng : Rng) :
    Outcome AccountId AssetId :=
  if ¬ s.blockNumber < blocknumber then ⟨s, rng, .error .blockNumberIsNotInFuture⟩
  else
    match findNextFreeBlock cfg s blocknumber rng with
    | (.error e, rng) => ⟨s, rng, .error e⟩
    | (.ok nextFreeBlock, rng) =>
      if cfg.maxSchedulePerBlock ≤ (s.idsAt nextFreeBlock).length then ⟨s, rng, .error .invalidState⟩
      else
        ⟨{ s with
            scheduleIdsPerBlock :=
              s.scheduleIdsPerBlock.insert nextFreeBlock (s.idsAt nextFreeBlock ++ [scheduleId])
            scheduleExecutionBlock := s.scheduleExecutionBlock.insert scheduleId nextFreeBlock },
          rng, .ok ()⟩

/-- The block of a retry: `2^retries` short oracle periods on, each step checked in `u32`. -/
def retryExecutionBlock (numberOfRetries currentBlocknumber : Nat) : Except Error Nat := do
  let retryMultiplier ← okOr (Word.tryFrom 32 (2 ^ numberOfRetries)) (.runtime .overflow)
  let retryDelay ← okOr (Word.checkedMul 32 shortOraclePeriod retryMultiplier) (.runtime .overflow)
  okOr (Word.checkedAdd 32 currentBlocknumber retryDelay) (.runtime .overflow)

/-- `retry_schedule`: within the allowed retries, count one more and plan the schedule later.
The count stays when the later steps fail. -/
def retrySchedule (s : State AccountId AssetId) (scheduleId : Nat)
    (schedule : Schedule AccountId AssetId) (currentBlocknumber : Nat) (rng : Rng) :
    Outcome AccountId AssetId :=
  let numberOfRetries := s.retriesOf scheduleId
  if ¬ numberOfRetries < schedule.maxRetries.getD cfg.maxNumberOfRetriesOnError then
    ⟨s, rng, .error .maxRetryReached⟩
  else
    let s := { s with
      retriesOnError := s.retriesOnError.insert scheduleId (Word.saturatingAdd 8 numberOfRetries 1) }
    match retryExecutionBlock numberOfRetries currentBlocknumber with
    | .error e => ⟨s, rng, .error e⟩
    | .ok nextExecutionBlock => planScheduleForBlock cfg s nextExecutionBlock scheduleId rng

/-- `prepare_schedule`: a random bump to the next block, the fee, and the price check. A bumped
or retried schedule comes back as an error the hook passes over. -/
def prepareSchedule (s : State AccountId AssetId) (currentBlocknumber weightForDcaExecution : Nat)
    (scheduleId : Nat) (schedule : Schedule AccountId AssetId) (rng : Rng) :
    Outcome AccountId AssetId :=
  let draw := rng.genRange 0 99
  if draw.1 ≤ cfg.bumpChance then
    (planScheduleForBlock cfg s (Word.saturatingAdd 32 currentBlocknumber 1) scheduleId draw.2).failWith
      .bumped
  else
    match takeTransactionFeeFromUser cfg s scheduleId schedule weightForDcaExecution with
    | .error e =>
      if e = cfg.outOfGas then
        (retrySchedule cfg (incrementExtraGas cfg s scheduleId schedule) scheduleId schedule
          currentBlocknumber draw.2).failWith e
      else ⟨s, draw.2, .error e⟩
    | .ok s =>
      if isPriceUnstable cfg schedule then
        (retrySchedule cfg s scheduleId schedule currentBlocknumber draw.2).failWith .priceUnstable
      else ⟨s, draw.2, .ok ()⟩

/-- What `replan_or_complete` decides after a trade. -/
inductive Replan
  | complete
  | planAt (block : Nat)

/-- The leftover check of a non-rolling buy: complete when what remains does not pay for
another trade and its fee. -/
def buyLeftoverShort (schedule : Schedule AccountId AssetId) (remainingAmount transactionFee : Nat) :
    Except Error Bool :=
  match schedule.order with
  | .buy _ _ amountOut _ _ =>
    if schedule.isRolling then pure false
    else do
      let amountToUnreserve ← getAmountInForBuy cfg amountOut (schedule.order.getRouteOrDefault cfg.getRoute)
      let amountForNextTrade ← okOr (Word.checkedAdd 128 amountToUnreserve transactionFee) (.runtime .overflow)
      pure (decide (remainingAmount < amountForNextTrade))
  | .sell .. => pure false

/-- The decision of `replan_or_complete`: complete when what remains is below twenty fees or the
trading limit, or a buy cannot be paid again; else plan a period on. -/
def replanDecision (s : State AccountId AssetId) (scheduleId : Nat)
    (schedule : Schedule AccountId AssetId) (currentBlocknumber : Nat) : Except Error Replan := do
  let remainingAmount ← okOr (s.remainingAmounts.lookup scheduleId) .invalidState
  let transactionFee ← getTransactionFee cfg s schedule.order (some scheduleId)
  if remainingAmount < Word.saturatingMul 128 transactionFee feeMultiplierForMinTradeLimit ∨
      remainingAmount < cfg.minimumTradingLimit then pure .complete
  else do
    let short ← buyLeftoverShort cfg schedule remainingAmount transactionFee
    if short then pure .complete
    else do
      let nextExecutionBlock ← okOr (Word.checkedAdd 32 currentBlocknumber schedule.period) (.runtime .overflow)
      pure (.planAt nextExecutionBlock)

/-- `replan_or_complete`: the retry count is reset first. -/
def replanOrComplete (s : State AccountId AssetId) (scheduleId : Nat)
    (schedule : Schedule AccountId AssetId) (currentBlocknumber : Nat) (rng : Rng) :
    Outcome AccountId AssetId :=
  let s := { s with retriesOnError := s.retriesOnError.erase scheduleId }
  match replanDecision cfg s scheduleId schedule currentBlocknumber with
  | .error e => ⟨s, rng, .error e⟩
  | .ok .complete => ⟨completeSchedule s scheduleId schedule, rng, .ok ()⟩
  | .ok (.planAt block) => planScheduleForBlock cfg s block scheduleId rng

/-! ## The hook -/

/-- The exits of a trade that failed: a rolling schedule out of funds completes; an error the
runtime retries on, or a trade or slippage limit, retries; any other terminates. -/
def afterFailedTrade (s : State AccountId AssetId) (scheduleId : Nat)
    (schedule : Schedule AccountId AssetId) (currentBlocknumber : Nat) (rng : Rng) (error : Error) :
    State AccountId AssetId × Rng :=
  if schedule.isRolling ∧ error = .runtime .fundsUnavailable then (completeSchedule s scheduleId schedule, rng)
  else
    let s := if error = cfg.outOfGas then incrementExtraGas cfg s scheduleId schedule else s
    if error ≠ .tradeLimitReached ∧ error ≠ .slippageLimitReached ∧ cfg.retryOnError error = false then
      (terminateSchedule s scheduleId schedule, rng)
    else
      let o := retrySchedule cfg s scheduleId schedule currentBlocknumber rng
      match o.result with
      | .ok () => (o.state, o.rng)
      | .error _ => (terminateSchedule o.state scheduleId schedule, o.rng)

/-- One id taken from the block's list, through `prepare_schedule` and `execute_trade`. -/
def executeSchedule (currentBlocknumber : Nat) (acc : State AccountId AssetId × Rng)
    (scheduleId : Nat) : State AccountId AssetId × Rng :=
  match acc.1.schedules.lookup scheduleId with
  | none => acc
  | some schedule =>
    let weightForSingleExecution := getTradeWeight cfg acc.1 schedule.order (some scheduleId)
    let o := prepareSchedule cfg acc.1 currentBlocknumber weightForSingleExecution scheduleId schedule
      acc.2
    match o.result with
    | .error e =>
      if e = .priceUnstable ∨ e = .bumped ∨ e = cfg.outOfGas then (o.state, o.rng)
      else (terminateSchedule o.state scheduleId schedule, o.rng)
    | .ok () =>
      match executeTrade cfg o.state scheduleId schedule with
      | .ok (_, s) =>
        let o' := replanOrComplete cfg s scheduleId schedule currentBlocknumber o.rng
        match o'.result with
        | .ok () => (o'.state, o'.rng)
        | .error _ => (terminateSchedule o'.state scheduleId schedule, o'.rng)
      | .error error => afterFailedTrade cfg o.state scheduleId schedule currentBlocknumber o.rng error

/-- The random keys `sort_by_cached_key` draws, one per id in list order. -/
def drawKeys : List Nat → Rng → List (Nat × Nat) × Rng
  | [], rng => ([], rng)
  | id :: ids, rng =>
    let key := rng.gen
    let rest := drawKeys ids key.2
    ((id, key.1) :: rest.1, rest.2)

/-- `on_initialize`: the block's list is taken, shuffled by random keys, and each id executed. -/
def onInitialize (s : State AccountId AssetId) (currentBlocknumber : Nat) : State AccountId AssetId :=
  let rng : Rng := ⟨cfg.generator currentBlocknumber none, 0⟩
  let ids := s.idsAt currentBlocknumber
  let s := { s with scheduleIdsPerBlock := s.scheduleIdsPerBlock.erase currentBlocknumber }
  let keyed := drawKeys ids rng
  let order := (keyed.1.mergeSort fun a b => a.2 ≤ b.2).map (·.1)
  (order.foldl (executeSchedule cfg currentBlocknumber) (s, keyed.2)).1

/-! ## The calls -/

/-- `get_first_execution_block`: two blocks on, or the asked block rounded up to a multiple of
five. -/
def getFirstExecutionBlock (currentBlockNumber : Nat) (startExecutionBlock : Option Nat) :
    Except Error Nat :=
  match startExecutionBlock with
  | some blocknumber =>
    let number := max (Word.saturatingAdd 32 currentBlockNumber 2) blocknumber
    let remainder := number % 5
    .ok (Word.saturatingAdd 32 number (if remainder = 0 then 0 else 5 - remainder))
  | none => okOr (Word.checkedAdd 32 currentBlockNumber 2) (.runtime .overflow)

/-- What `schedule` reserves: twice a trade and its fee for a rolling schedule, else the total
amount, which must cover that. -/
def reserveAmountOf (schedule : Schedule AccountId AssetId) (amountInWithTransactionFee minBudget : Nat) :
    Except Error Nat :=
  if schedule.isRolling then do
    ensure (minBudget ≤ amountInWithTransactionFee) .minTradeAmountNotReached
    pure amountInWithTransactionFee
  else do
    ensure (minBudget ≤ schedule.totalAmount) .totalAmountIsSmallerThanMinBudget
    ensure (amountInWithTransactionFee ≤ schedule.totalAmount) .budgetTooLow
    pure schedule.totalAmount

/-- `schedule` (transactional): checks, a fresh id, the budget reserved, and the first execution
planned. -/
def schedule (s : State AccountId AssetId) (who : AccountId) (schedule : Schedule AccountId AssetId)
    (startExecutionBlock : Option Nat) : Except Error (State AccountId AssetId) := do
  ensure (who = schedule.owner) .forbidden
  let minBudget ← convertNativeAmountToCurrency cfg schedule.order.getAssetIn cfg.minBudgetInNativeCurrency
  ensure (cfg.minimalPeriod ≤ schedule.period) .periodTooShort
  ensure (∀ t ∈ schedule.stabilityThreshold, t ≤ cfg.maxConfigurablePriceDifferenceBetweenBlocks)
    .stabilityThresholdTooHigh
  let transactionFee ← getTransactionFee cfg s schedule.order none
  let amountIn ← (match schedule.order with
    | .sell _ _ amountIn _ _ => pure amountIn
    | .buy _ _ amountOut _ _ =>
      getAmountInForBuy cfg amountOut (schedule.order.getRouteOrDefault cfg.getRoute))
  ensure (Word.saturatingMul 128 transactionFee feeMultiplierForMinTradeLimit ≤ amountIn)
    .minTradeAmountNotReached
  ensure (cfg.minimumTradingLimit ≤ amountIn) .minTradeAmountNotReached
  let amountInWithTransactionFee := Word.saturatingMul 128 (Word.saturatingAdd 128 amountIn transactionFee) 2
  let reserveAmount ← reserveAmountOf schedule amountInWithTransactionFee minBudget
  let nextScheduleId := s.scheduleIdSequencer
  let sequencer ← okOr (Word.checkedAdd 32 nextScheduleId 1) (.runtime .overflow)
  let s := { s with
    scheduleIdSequencer := sequencer
    schedules := s.schedules.insert nextScheduleId schedule
    scheduleOwnership := s.scheduleOwnership.insert (who, nextScheduleId) ()
    remainingAmounts := s.remainingAmounts.insert nextScheduleId reserveAmount
    retriesOnError := s.retriesOnError.insert nextScheduleId 0 }
  let s ← reserveNamed s schedule.order.getAssetIn who reserveAmount
  let firstBlock ← getFirstExecutionBlock s.blockNumber startExecutionBlock
  let o := planScheduleForBlock cfg s firstBlock nextScheduleId
    ⟨cfg.generator s.blockNumber (some nextScheduleId), 0⟩
  match o.result with
  | .ok () => pure o.state
  | .error e => throw e

/-- The id out of a block's list; the list goes when it is empty. -/
def removeFromBlock (s : State AccountId AssetId) (block scheduleId : Nat) :
    Except Error (State AccountId AssetId) := do
  let ids ← okOr (s.scheduleIdsPerBlock.lookup block) .scheduleNotFound
  let idx ← okOr (ids.findIdx? (· == scheduleId)) .scheduleNotFound
  let ids := ids.eraseIdx idx
  pure { s with
    scheduleIdsPerBlock :=
      if ids.isEmpty then s.scheduleIdsPerBlock.erase block else s.scheduleIdsPerBlock.insert block ids }

/-- `terminate` (transactional): by the owner or the `TerminateOrigin`; the budget is unreserved
and the id taken out of the list of the given block or of its planned one. -/
def terminate (s : State AccountId AssetId) (origin : Origin AccountId) (scheduleId : Nat)
    (nextExecutionBlock : Option Nat) : Except Error (State AccountId AssetId) := do
  let schedule ← okOr (s.schedules.lookup scheduleId) .scheduleNotFound
  (match origin with
    | .terminateOrigin => pure ()
    | .signed who => ensure (who = schedule.owner) .forbidden)
  let s := tryUnreserveAll s scheduleId schedule
  let block ← okOr (nextExecutionBlock.or (s.scheduleExecutionBlock.lookup scheduleId)) .scheduleNotFound
  let s ← removeFromBlock s block scheduleId
  pure (removeScheduleFromStorages s schedule.owner scheduleId)

/-- `unlock_reserves`: for an account without schedules, everything it has reserved under the
pallet's id in an asset. -/
def unlockReserves (s : State AccountId AssetId) (who : AccountId) (assetId : AssetId) :
    Except Error (State AccountId AssetId) := do
  ensure (∀ k ∈ s.scheduleOwnership.keys, k.1 ≠ who) .hasActiveSchedules
  let reservedBalance := s.reserved.free assetId who
  ensure (reservedBalance ≠ 0) .noReservesLocked
  let unreserved := unreserveNamed s assetId who reservedBalance
  ensure (unreserved.2 = 0) .invalidState
  pure unreserved.1

/-- What happens to the pallet: its three calls, and a new block with its `on_initialize`. -/
inductive Call (AccountId AssetId : Type)
  | schedule (who : AccountId) (schedule : Schedule AccountId AssetId) (startExecutionBlock : Option Nat)
  | terminate (origin : Origin AccountId) (scheduleId : Nat) (nextExecutionBlock : Option Nat)
  | unlockReserves (who : AccountId) (assetId : AssetId)
  | newBlock

/-- One call on the pallet. -/
def step : Call AccountId AssetId → State AccountId AssetId → Except Error (State AccountId AssetId)
  | .schedule who sch start, s => schedule cfg s who sch start
  | .terminate origin id next, s => terminate s origin id next
  | .unlockReserves who assetId, s => unlockReserves s who assetId
  | .newBlock, s => .ok (onInitialize cfg { s with blockNumber := s.blockNumber + 1 } (s.blockNumber + 1))

end Pallet

/-! ## A runtime for examples -/

/-- One to one prices, swaps and fee conversions, and a fee of one unit per unit of weight; the
runtime's limits otherwise. -/
def exampleConfig : Config Nat Nat where
  nativeAssetId := 0
  polkadotNativeAssetId := 5
  feeReceiver := 100
  maxPriceDifferenceBetweenBlocks := ⟨15000, by decide⟩
  maxConfigurablePriceDifferenceBetweenBlocks := ⟨50000, by decide⟩
  maxSchedulePerBlock := 6
  maxNumberOfRetriesOnError := 3
  minimalPeriod := 5
  bumpChance := 17
  minimumTradingLimit := 1000
  minBudgetInNativeCurrency := 1000
  maxBlockWeight := 1000000
  retryOnError _ := false
  outOfGasError := 1
  getRoute a b := [⟨0, a, b⟩]
  isTransactionFeeCurrency _ := true
  tradeWeight _ := 10
  gasToWeight g := g
  weightToFee w := w
  nativePrice _ := some (1, 1)
  oraclePrice _ _ := some (1, 1)
  calculateInGivenOut _ _ a := .ok a
  calculateFeeAmount a := .ok (a / 100)
  swapBuy _ _ _ _ _ _ b := .ok b
  calculateSellTradeAmounts _ a := .ok [⟨a, a⟩]
  calculateBuyTradeAmounts _ a := .ok [⟨a, a⟩]
  routerSell who assetIn assetOut amountIn amountOut _ b :=
    okOr ((b.withdraw assetIn who amountIn).map fun b => b.deposit assetOut who amountOut)
      .fundsUnavailable
  routerBuy who assetIn assetOut amountOut amountIn _ b :=
    okOr ((b.withdraw assetIn who amountIn).map fun b => b.deposit assetOut who amountOut)
      .fundsUnavailable
  generator block _ i := block + i

/-- Block one, with a million of asset one in the hands of account seven. -/
def exampleGenesis : State Nat Nat where
  blockNumber := 1
  scheduleIdSequencer := 0
  schedules := ∅
  scheduleOwnership := ∅
  remainingAmounts := ∅
  retriesOnError := ∅
  scheduleExecutionBlock := ∅
  scheduleIdsPerBlock := ∅
  scheduleExtraGas := ∅
  free := ⟨fun asset who => if asset = 1 ∧ who = 7 then 1000000 else 0⟩
  reserved := ⟨fun _ _ => 0⟩

end Hydration.Dca
