import Hydration.Frame.Arith
import Hydration.Frame.Storage
import Hydration.Frame.Dispatch

/-!
# The OTC pallet

Over-the-counter orders: `place_order` reserves the whole `amount_out` of the maker under the
named reserve `NAMED_RESERVE_ID` (`"otcorder"`) and stores the order under a fresh id; a fill
(`fill_order`, `partial_fill_order`, or `fill_order_with_deferred_delivery`, through which
otc-settlements closes arbitrage) unreserves what it sells, the whole order or its floor-rounded
pro-rata part, and pays it out net of the fee; `cancel_order` unreserves what is left.

Every call is transactional: a call that fails leaves the state as it was, so each is a function
into `Except`. What the pallet does not own, the free balances of every account and the system's
reference counts, is the `World`; a delivery closure may change it as it likes, and nothing else.
The named reserve is kept apart from the free balances: no other pallet reserves under its id.
-/

namespace Hydration.Otc

open Frame FixedPoint

/-- An order: `amount_out` of `asset_out` offered for `amount_in` of `asset_in`. -/
structure Order (AccountId AssetId : Type) where
  owner : AccountId
  assetIn : AssetId
  assetOut : AssetId
  amountIn : Nat
  amountOut : Nat
  partiallyFillable : Bool
  deriving DecidableEq

/-- The pallet's errors. -/
inductive Error
  | assetNotRegistered
  | orderNotFound
  | orderIdOutOfBound
  | orderNotPartiallyFillable
  | orderAmountTooSmall
  | mathError
  | forbidden
  | insufficientReservedAmount
  deriving DecidableEq

/-- The errors of otc-settlements. -/
inductive SettlementsError
  | orderNotFound
  | notPartiallyFillable
  | invalidRoute
  | balanceInconsistency
  | tradeAmountTooHigh
  | tradeAmountTooLow
  | priceNotAvailable
  deriving DecidableEq

/-- What a call fails with: the errors of the two pallets, an arithmetic overflow, a balance too
low for a reserve or a transfer, and the system's refusal to drop the last provider of an
account that still has consumers. -/
inductive DispatchError
  | otc (e : Error)
  | settlements (e : SettlementsError)
  | arithmeticOverflow
  | balanceTooLow
  | consumerRemaining
  deriving DecidableEq

/-- What the pallet does not own: free balances, and the reference counts of `frame_system`. -/
structure World (AccountId AssetId : Type) where
  free : Balances AssetId AccountId
  providers : AccountId → Nat
  consumers : AccountId → Nat
  sufficients : AccountId → Nat

/-- The runtime around the pallet. `existentialDepositMultiplier` is a `u8`. -/
structure Config (AccountId AssetId : Type) where
  assetRegistered : AssetId → Bool
  existentialDeposits : AssetId → Nat
  existentialDepositMultiplier : Nat
  fee : Permill
  feeReceiver : AccountId

/-- The pallet's storage, its named reserve, and the world around it. -/
structure State (AccountId AssetId : Type) where
  nextOrderId : Nat
  orders : StorageMap Nat (Order AccountId AssetId)
  reserved : Balances AssetId AccountId
  world : World AccountId AssetId

section System

variable {AccountId AssetId : Type} [DecidableEq AccountId] [DecidableEq AssetId]

/-- `Currency::transfer`: nothing moves from an account to itself or for a zero amount. -/
def transfer (w : World AccountId AssetId) (asset : AssetId) (src dst : AccountId) (amount : Nat) :
    Except DispatchError (World AccountId AssetId) :=
  if amount = 0 ∨ src = dst then pure w
  else do
    let free ← okOr (w.free.transfer asset src dst amount) .balanceTooLow
    pure { w with free }

/-- `frame_system::inc_providers`: an account with neither providers nor sufficients is created
with one provider. -/
def incProviders (w : World AccountId AssetId) (who : AccountId) : World AccountId AssetId :=
  if w.providers who = 0 ∧ w.sufficients who = 0 then
    { w with providers := Function.update w.providers who 1 }
  else { w with providers := Function.update w.providers who (Word.saturatingAdd 32 (w.providers who) 1) }

/-- `frame_system::dec_providers`: the last provider goes with the account when nothing else holds
it, stays when consumers do; a count of zero is read as one. -/
def decProviders (w : World AccountId AssetId) (who : AccountId) :
    Except DispatchError (World AccountId AssetId) :=
  let providers := if w.providers who = 0 then 1 else w.providers who
  if providers = 1 ∧ w.consumers who = 0 ∧ w.sufficients who = 0 then
    pure { w with providers := Function.update w.providers who 0 }
  else if providers = 1 ∧ 0 < w.consumers who then throw .consumerRemaining
  else pure { w with providers := Function.update w.providers who (providers - 1) }

end System

section Pallet

variable {AccountId AssetId : Type} [DecidableEq AccountId] [DecidableEq AssetId]
  (cfg : Config AccountId AssetId)

/-! ## The named reserve -/

/-- `reserve_named` under `NAMED_RESERVE_ID`: the whole amount out of the free balance, or
nothing. -/
def reserveNamed (s : State AccountId AssetId) (asset : AssetId) (who : AccountId) (amount : Nat) :
    Except DispatchError (State AccountId AssetId) := do
  let free ← okOr (s.world.free.withdraw asset who amount) .balanceTooLow
  pure { s with world := { s.world with free }, reserved := s.reserved.deposit asset who amount }

/-- `unreserve_named`: what is reserved, up to `amount`, back to the free balance, and what of
`amount` was not reserved. -/
def unreserveNamed (s : State AccountId AssetId) (asset : AssetId) (who : AccountId) (amount : Nat) :
    State AccountId AssetId × Nat :=
  let actual := min amount (s.reserved.free asset who)
  ({ s with
      world := { s.world with free := s.world.free.deposit asset who actual }
      reserved := s.reserved.set asset who (s.reserved.free asset who - actual) },
    amount - actual)

/-! ## Amounts -/

/-- `calculate_fee`: the fee, rounded up, out of `amount`. -/
def calculateFee (amount : Nat) : Nat := cfg.fee.mulCeil amount

/-- `ensure_min_order_amount`: at least the existential deposit times the multiplier. -/
def ensureMinOrderAmount (asset : AssetId) (amount : Nat) : Except DispatchError Unit := do
  let minAmount ← okOr (Word.checkedMul 128 (cfg.existentialDeposits asset) cfg.existentialDepositMultiplier)
    (.otc .mathError)
  ensure (minAmount ≤ amount) (.otc .orderAmountTooSmall)

/-- `partial_amount_out`: `order_amount_out * amount_in / order_amount_in` in 256 bits, rounded
down, back into a `u128`. -/
def partialAmountOut (orderAmountOut amountIn orderAmountIn : Nat) : Except DispatchError Nat := do
  let product ← okOr (Word.checkedMul 256 orderAmountOut amountIn) (.otc .mathError)
  let amountOut ← okOr (Word.checkedDiv product orderAmountIn) (.otc .mathError)
  okOr (Word.tryFrom 128 amountOut) (.otc .mathError)

/-- `ensure_remaining_order_valid`: both legs of what is left clear the minimum, the `asset_out`
leg net of the fee the remaining order would pay. -/
def ensureRemainingOrderValid (assetIn assetOut : AssetId) (newAmountIn newAmountOut : Nat) :
    Except DispatchError Unit := do
  let remainingFee := calculateFee cfg newAmountOut
  ensureMinOrderAmount cfg assetIn newAmountIn
  let amountOutWithoutFee ← okOr (Word.checkedSub newAmountOut remainingFee) (.otc .mathError)
  ensureMinOrderAmount cfg assetOut amountOutWithoutFee

/-! ## Filling -/

/-- `release_reserved_asset_out`: the whole `amount_out` unreserved, then paid to the filler net of
the fee and the fee to the fee receiver. -/
def releaseReservedAssetOut (s : State AccountId AssetId) (assetOut : AssetId) (owner filler : AccountId)
    (amountOut fee : Nat) : Except DispatchError (State AccountId AssetId) := do
  let unreserved := unreserveNamed s assetOut owner amountOut
  ensure (unreserved.2 = 0) (.otc .insufficientReservedAmount)
  let s := unreserved.1
  let amountOutWithoutFee ← okOr (Word.checkedSub amountOut fee) (.otc .mathError)
  let world ← transfer s.world assetOut owner filler amountOutWithoutFee
  let world ← transfer world assetOut owner cfg.feeReceiver fee
  pure { s with world }

/-- `execute_order`: the filler pays the maker first, then the maker's reserve is released. -/
def executeOrder (s : State AccountId AssetId) (order : Order AccountId AssetId) (who : AccountId)
    (amountIn amountOut fee : Nat) : Except DispatchError (State AccountId AssetId) := do
  let world ← transfer s.world order.assetIn who order.owner amountIn
  releaseReservedAssetOut cfg { s with world } order.assetOut order.owner who amountOut fee

/-! ## The calls -/

/-- `place_order`, signed by `owner`. -/
def placeOrder (s : State AccountId AssetId) (owner : AccountId) (assetIn assetOut : AssetId)
    (amountIn amountOut : Nat) (partiallyFillable : Bool) :
    Except DispatchError (State AccountId AssetId) := do
  let order : Order AccountId AssetId :=
    { owner, assetIn, assetOut, amountIn, amountOut, partiallyFillable }
  ensure (cfg.assetRegistered order.assetIn = true) (.otc .assetNotRegistered)
  let fee := calculateFee cfg order.amountOut
  ensureMinOrderAmount cfg order.assetIn order.amountIn
  -- the fee is applied to `amount_out`
  let amountOutWithoutFee ← okOr (Word.checkedSub order.amountOut fee) (.otc .mathError)
  ensureMinOrderAmount cfg order.assetOut amountOutWithoutFee
  let orderId := s.nextOrderId
  let s ← reserveNamed s order.assetOut order.owner order.amountOut
  let s := { s with orders := s.orders.insert orderId order }
  let nextId ← okOr (Word.checkedAdd 32 orderId 1) (.otc .orderIdOutOfBound)
  pure { s with nextOrderId := nextId }

/-- `partial_fill_order`, signed by `who`: the order shrinks by the amounts filled. -/
def partialFillOrder (s : State AccountId AssetId) (who : AccountId) (orderId amountIn : Nat) :
    Except DispatchError (State AccountId AssetId) := do
  let order ← okOr (s.orders.lookup orderId) (.otc .orderNotFound)
  ensure (order.partiallyFillable = true) (.otc .orderNotPartiallyFillable)
  let amountOut ← partialAmountOut order.amountOut amountIn order.amountIn
  let fee := calculateFee cfg amountOut
  let newAmountIn ← okOr (Word.checkedSub order.amountIn amountIn) (.otc .mathError)
  let newAmountOut ← okOr (Word.checkedSub order.amountOut amountOut) (.otc .mathError)
  ensureRemainingOrderValid cfg order.assetIn order.assetOut newAmountIn newAmountOut
  let order := { order with amountIn := newAmountIn, amountOut := newAmountOut }
  let s ← executeOrder cfg s order who amountIn amountOut fee
  pure { s with orders := s.orders.insert orderId order }

/-- `fill_order`, signed by `who`: the whole order. -/
def fillOrder (s : State AccountId AssetId) (who : AccountId) (orderId : Nat) :
    Except DispatchError (State AccountId AssetId) := do
  let order ← okOr (s.orders.lookup orderId) (.otc .orderNotFound)
  let fee := calculateFee cfg order.amountOut
  let s ← executeOrder cfg s order who order.amountIn order.amountOut fee
  pure { s with orders := s.orders.erase orderId }

/-- `cancel_order`, signed by `who`, the owner. -/
def cancelOrder (s : State AccountId AssetId) (who : AccountId) (orderId : Nat) :
    Except DispatchError (State AccountId AssetId) := do
  let order ← okOr (s.orders.lookup orderId) (.otc .orderNotFound)
  ensure (order.owner = who) (.otc .forbidden)
  let unreserved := unreserveNamed s order.assetOut order.owner order.amountOut
  ensure (unreserved.2 = 0) (.otc .insufficientReservedAmount)
  pure { unreserved.1 with orders := unreserved.1.orders.erase orderId }

/-- `fill_order_with_deferred_delivery`: the maker's reserve is released to the filler first, under
an extra provider reference of the maker; `deliver` is then given what the filler received, and
the filler pays `amount_in` afterwards. -/
def fillOrderWithDeferredDelivery (s : State AccountId AssetId) (orderId : Nat) (filler : AccountId)
    (amountIn : Nat) (deliver : Nat → World AccountId AssetId → Except DispatchError (World AccountId AssetId)) :
    Except DispatchError (State AccountId AssetId) := do
  let order ← okOr (s.orders.lookup orderId) (.otc .orderNotFound)
  ensure (amountIn ≤ order.amountIn) (.otc .mathError)
  let isFullFill := decide (amountIn = order.amountIn)
  let amountOut ← (if isFullFill then pure order.amountOut
    else do
      ensure (order.partiallyFillable = true) (.otc .orderNotPartiallyFillable)
      partialAmountOut order.amountOut amountIn order.amountIn)
  let fee := calculateFee cfg amountOut
  let amountOutWithoutFee ← okOr (Word.checkedSub amountOut fee) (.otc .mathError)
  -- the residual order is checked before anything moves
  let remaining ← (if isFullFill then pure none
    else do
      let newAmountIn ← okOr (Word.checkedSub order.amountIn amountIn) (.otc .mathError)
      let newAmountOut ← okOr (Word.checkedSub order.amountOut amountOut) (.otc .mathError)
      ensureRemainingOrderValid cfg order.assetIn order.assetOut newAmountIn newAmountOut
      pure (some (newAmountIn, newAmountOut)))
  let s := { s with world := incProviders s.world order.owner }
  let s ← releaseReservedAssetOut cfg s order.assetOut order.owner filler amountOut fee
  let world ← deliver amountOutWithoutFee s.world
  let world ← transfer world order.assetIn filler order.owner amountIn
  let world ← decProviders world order.owner
  let s := { s with world }
  match remaining with
  | none => pure { s with orders := s.orders.erase orderId }
  | some (newAmountIn, newAmountOut) =>
    pure { s with orders := s.orders.insert orderId { order with amountIn := newAmountIn, amountOut := newAmountOut } }

end Pallet

end Hydration.Otc
