import Hydration.Omnipool.SlipFee
import Hydration.Frame.Returns

/-!
# Omnipool trade and liquidity math

`math/src/omnipool/math.rs`: every `calculate_*` function that the pallet calls.
Intermediate products are taken in `U256` (`Word.checkedMul u256`) and narrowed back
with `to_balance!` (`Word.tryFrom u128`), as the source does.

What the pallet's share accounting needs of these functions is their *shape*: which
share deltas are increases and which decreases, and how the removed shares split
between burned and protocol-owned ones. The lemmas at the end say that once, as
`Returns` specs, so the pallet proofs never unfold a calculation.
-/

namespace Hydration.Omnipool

open FixedPoint

/-- `amount_without_fee`: `(100% - fee).mul_floor(amount)`. -/
def amountWithoutFee (amount : Nat) (fee : Permill) : Option Nat :=
  (PerThing.one.checkedSub fee).map fun p => p.mulFloor amount

/-- The slip fee of one side of a trade, zero when slip fees are disabled. -/
def slipAmount {σ : Type} (slip : Option σ) (f : σ → Option Nat) : Option Nat :=
  match slip with
  | some s => f s
  | none => some 0

/-- `calculate_sell_state_changes`. -/
def calculateSellStateChanges (assetInState assetOutState : AssetReserveState) (amount : Nat)
    (assetFee protocolFee m : Permill) (slip : Option TradeSlipFees) :
    Option TradeStateChange := do
  let num ← Word.checkedMul u256 amount assetInState.hubReserve
  let den ← Word.checkedAdd u256 assetInState.reserve amount
  let deltaHubReserveIn ← Word.checkedDiv num den
  let deltaHubReserveIn ← Word.tryFrom u128 deltaHubReserveIn
  let protocolFeeAmount := protocolFee.mulFloor deltaHubReserveIn
  -- sell-side slip: hub asset leaves the sell pool
  let slipSellAmount ← slipAmount slip fun s =>
    calculateSlipFeeAmount s.assetInHubReserve s.assetInDelta (.negative deltaHubReserveIn)
      s.maxSlipFee deltaHubReserveIn
  let dGross ← Word.checkedSub deltaHubReserveIn protocolFeeAmount
  let dGross ← Word.checkedSub dGross slipSellAmount
  -- buy-side slip: hub asset enters the buy pool
  let slipBuyAmount ← slipAmount slip fun s =>
    calculateSlipFeeAmount s.assetOutHubReserve s.assetOutDelta (.positive dGross) s.maxSlipFee dGross
  let dNet ← Word.checkedSub dGross slipBuyAmount
  let num ← Word.checkedMul u256 assetOutState.reserve dNet
  let den ← Word.checkedAdd u256 assetOutState.hubReserve dNet
  let deltaReserveOutHp ← Word.checkedDiv num den
  let amountOut ← Word.tryFrom u128 deltaReserveOutHp
  let deltaReserveOut ← amountWithoutFee amountOut assetFee
  let assetFeeAmount := amountOut - deltaReserveOut
  let q ← Word.checkedAdd u256 assetOutState.hubReserve dNet
  let q ← Word.checkedMul u256 q dNet
  let q ← Word.checkedDiv q assetOutState.hubReserve
  let q ← Word.tryFrom u128 q
  let deltaOutM := assetFee.mulFloor q
  let totalProtocolFee ← Word.checkedAdd u128 protocolFeeAmount slipSellAmount
  let totalProtocolFee ← Word.checkedAdd u128 totalProtocolFee slipBuyAmount
  let burnedProtocolFee := m.mulFloor totalProtocolFee
  pure
    { assetIn := { deltaReserve := .increase amount, deltaHubReserve := .decrease deltaHubReserveIn }
      assetOut :=
        { deltaReserve := .decrease deltaReserveOut, deltaHubReserve := .increase dNet
          extraHubReserveAmount := .increase deltaOutM }
      fee := { assetFee := assetFeeAmount, protocolFee := totalProtocolFee, burnedProtocolFee } }

/-- `calculate_sell_hub_state_changes`: hub asset sold for `asset_out`. -/
def calculateSellHubStateChanges (assetOutState : AssetReserveState) (hubAssetAmount : Nat)
    (assetFee : Permill) (slip : Option HubTradeSlipFees) : Option HubTradeStateChange := do
  let slipBuyAmount ← slipAmount slip fun s =>
    calculateSlipFeeAmount s.assetHubReserve s.assetDelta (.positive hubAssetAmount) s.maxSlipFee
      hubAssetAmount
  let effectiveHub ← Word.checkedSub hubAssetAmount slipBuyAmount
  let num ← Word.checkedMul u256 assetOutState.reserve effectiveHub
  let den ← Word.checkedAdd u256 assetOutState.hubReserve effectiveHub
  let deltaReserveOutHp ← Word.checkedDiv num den
  let amountOut ← Word.tryFrom u128 deltaReserveOutHp
  let deltaReserveOut ← amountWithoutFee amountOut assetFee
  let assetFeeAmount := amountOut - deltaReserveOut
  let q ← Word.checkedAdd u256 assetOutState.hubReserve effectiveHub
  let q ← Word.checkedMul u256 q effectiveHub
  let q ← Word.checkedDiv q assetOutState.hubReserve
  let q ← Word.tryFrom u128 q
  let deltaQM := assetFee.mulFloor q
  pure
    { asset :=
        { deltaReserve := .decrease deltaReserveOut, deltaHubReserve := .increase hubAssetAmount
          extraHubReserveAmount := .increase deltaQM }
      fee := { assetFee := assetFeeAmount, protocolFee := slipBuyAmount } }

/-- `calculate_fee_amount_for_buy`: the fee on a buy amount, rounded up. -/
def calculateFeeAmountForBuy (fee : Permill) (amount : Nat) : Nat :=
  if fee.parts = 0 then 0
  else if fee.parts = 1000000 then amount
  else
    let numerator := fee.parts
    let denominator := 1000000
    if numerator = denominator then amount
    else Word.saturatingAdd u128 (Word.saturatingMul u128 numerator amount / (denominator - numerator)) 1

/-- `calculate_buy_for_hub_asset_state_changes`: `asset_out` bought with hub asset. -/
def calculateBuyForHubAssetStateChanges (assetOutState : AssetReserveState) (assetOutAmount : Nat)
    (assetFee : Permill) (slip : Option HubTradeSlipFees) : Option HubTradeStateChange := do
  let reserveNoFee ← amountWithoutFee assetOutState.reserve assetFee
  let hubDenominator ← Word.checkedSub reserveNoFee assetOutAmount
  let dNetHp ← Word.checkedMul u256 assetOutState.hubReserve assetOutAmount
  let dNetHp ← Word.checkedDiv dNetHp hubDenominator
  let dNetHp ← Word.checkedAdd u256 dNetHp 1
  let dNet ← Word.tryFrom u128 dNetHp
  let slipBuyAmount ← slipAmount slip fun s => do
    let dGross ← invertBuySideSlip dNet s.assetHubReserve s.assetDelta s.maxSlipFee
    Word.checkedSub dGross dNet
  let feeAmount := calculateFeeAmountForBuy assetFee assetOutAmount
  let n ← Word.checkedAdd u256 assetOutState.hubReserve dNet
  let n ← Word.checkedMul u256 n assetOutAmount
  let n ← Word.tryFrom u128 n
  let n := assetFee.mulFloor n
  let deltaQM ← Word.checkedDiv n hubDenominator
  let dGross ← Word.checkedAdd u128 dNet slipBuyAmount
  pure
    { asset :=
        { deltaReserve := .decrease assetOutAmount, deltaHubReserve := .increase dGross
          extraHubReserveAmount := .increase deltaQM }
      fee := { assetFee := feeAmount, protocolFee := slipBuyAmount } }

/-- Step 3 of `calculate_buy_state_changes` without slip fees:
`FixedU128::from_inner(d_net).checked_div((100% - protocol_fee).into())`; `d_net` is a
`u128` there, so `from_inner` does not clamp. -/
def invertProtocolFee (dNet : Nat) (protocolFee : Permill) : Option Nat :=
  (Fixed.checkedDiv (Fixed.ofInnerSat dNet : FixedU128) (Fixed.ofPerThing protocolFee.complement)).map
    Fixed.inner

/-- `calculate_buy_state_changes`. -/
def calculateBuyStateChanges (assetInState assetOutState : AssetReserveState) (amount : Nat)
    (assetFee protocolFee m : Permill) (slip : Option TradeSlipFees) :
    Option TradeStateChange := do
  let reserveNoFee ← amountWithoutFee assetOutState.reserve assetFee
  -- step 1: the hub amount the buy pool needs for `amount`
  let dNetHp ← Word.checkedMul u256 assetOutState.hubReserve amount
  let den ← Word.checkedSub reserveNoFee amount
  let dNetHp ← Word.checkedDiv dNetHp den
  let dNet ← Word.tryFrom u128 dNetHp
  let dNet ← Word.checkedAdd u128 dNet 1
  -- step 2: invert the buy-side slip
  let dGross ← (match slip with
    | some s => invertBuySideSlip dNet s.assetOutHubReserve s.assetOutDelta s.maxSlipFee
    | none => some dNet)
  -- step 3: invert the sell-side fees
  let deltaHubReserveIn ← (match slip with
    | some s => invertSellSideFees dGross protocolFee s.assetInHubReserve s.assetInDelta s.maxSlipFee
    | none => invertProtocolFee dNet protocolFee)
  if assetInState.hubReserve ≤ deltaHubReserveIn then none
  else
    let num ← Word.checkedMul u256 assetInState.reserve deltaHubReserveIn
    let den ← Word.checkedSub assetInState.hubReserve deltaHubReserveIn
    let deltaReserveIn ← Word.checkedDiv num den
    let deltaReserveIn ← Word.tryFrom u128 deltaReserveIn
    let deltaReserveIn ← Word.checkedAdd u128 deltaReserveIn 1
    let assetFeeAmount := calculateFeeAmountForBuy assetFee amount
    let protocolFeeAmount := protocolFee.mulFloor deltaHubReserveIn
    -- the actual slip amounts, forward from `delta_hub_reserve_in`
    let slipSellAmount ← slipAmount slip fun s =>
      calculateSlipFeeAmount s.assetInHubReserve s.assetInDelta (.negative deltaHubReserveIn)
        s.maxSlipFee deltaHubReserveIn
    let dGrossForward ← Word.checkedSub deltaHubReserveIn protocolFeeAmount
    let dGrossForward ← Word.checkedSub dGrossForward slipSellAmount
    let slipBuyAmount ← slipAmount slip fun s =>
      calculateSlipFeeAmount s.assetOutHubReserve s.assetOutDelta (.positive dGrossForward)
        s.maxSlipFee dGrossForward
    let dNetForward ← Word.checkedSub dGrossForward slipBuyAmount
    let totalProtocolFee ← Word.checkedAdd u128 protocolFeeAmount slipSellAmount
    let totalProtocolFee ← Word.checkedAdd u128 totalProtocolFee slipBuyAmount
    let q ← Word.checkedAdd u256 assetOutState.hubReserve dNetForward
    let q ← Word.checkedMul u256 q dNetForward
    let q ← Word.checkedDiv q assetOutState.hubReserve
    let q ← Word.tryFrom u128 q
    let deltaOutM := assetFee.mulFloor q
    let burnedProtocolFee := m.mulFloor totalProtocolFee
    pure
      { assetIn := { deltaReserve := .increase deltaReserveIn, deltaHubReserve := .decrease deltaHubReserveIn }
        assetOut :=
          { deltaReserve := .decrease amount, deltaHubReserve := .increase dNetForward
            extraHubReserveAmount := .increase deltaOutM }
        fee := { assetFee := assetFeeAmount, protocolFee := totalProtocolFee, burnedProtocolFee } }

/-- `calculate_add_liquidity_state_changes`. -/
def calculateAddLiquidityStateChanges (assetState : AssetReserveState) (amount : Nat) :
    Option LiquidityStateChange := do
  let price ← assetState.price
  let deltaHubReserve ← price.checkedMulInt amount
  let deltaSharesHp ← Word.checkedMul u256 assetState.shares amount
  let deltaSharesHp ← Word.checkedDiv deltaSharesHp assetState.reserve
  let deltaShares ← Word.tryFrom u128 deltaSharesHp
  pure
    { asset :=
        { deltaReserve := .increase amount, deltaHubReserve := .increase deltaHubReserve
          deltaShares := .increase deltaShares } }

/-- `calculate_withdrawal_fee`: the relative distance of spot and oracle price,
clamped between the minimal fee and one. The `Div` of the source panics where the
quotient overflows; that is an error here. -/
def calculateWithdrawalFee (spotPrice oraclePrice : FixedU128) (minWithdrawalFee : Permill) :
    Option FixedU128 :=
  let priceDiff :=
    if oraclePrice ≤ spotPrice then spotPrice.saturatingSub oraclePrice
    else oraclePrice.saturatingSub spotPrice
  let minFee : FixedU128 := Fixed.ofPerThing minWithdrawalFee
  if oraclePrice.isZero then some minFee
  else (priceDiff.checkedDiv oraclePrice).map fun q => q.clamp minFee Fixed.one

/-- `calculate_remove_liquidity_state_changes`. -/
def calculateRemoveLiquidityStateChanges (assetState : AssetReserveState) (sharesRemoved : Nat)
    (position : Position) (withdrawalFee : FixedU128) : Option LiquidityStateChange := do
  let currentShares := assetState.shares
  let currentReserve := assetState.reserve
  let currentHubReserve := assetState.hubReserve
  let currentPrice ← assetState.price
  let positionPrice ← position.price?
  let pxr ← positionPrice.checkedMulInt currentReserve
  let pxr ← Word.checkedAdd u256 pxr 1
  -- protocol shares update, rounded up
  let deltaBHp ←
    (if currentPrice < positionPrice then do
      let numer ← Word.checkedSub pxr currentHubReserve
      let numer ← Word.checkedMul u256 numer sharesRemoved
      let denom ← Word.checkedAdd u256 pxr currentHubReserve
      let q ← Word.checkedDiv numer denom
      Word.checkedAdd u256 q 1
    else some 0)
  let deltaSharesHp ← Word.checkedSub sharesRemoved deltaBHp
  let deltaReserveHp ← Word.checkedMul u256 currentReserve deltaSharesHp
  let deltaReserveHp ← Word.checkedDiv deltaReserveHp currentShares
  let deltaHubReserveHp ← Word.checkedMul u256 deltaReserveHp currentHubReserve
  let deltaHubReserveHp ← Word.checkedDiv deltaHubReserveHp currentReserve
  let deltaPositionAmountHp ← Word.checkedMul u256 sharesRemoved position.amount
  let deltaPositionAmountHp ← Word.checkedDiv deltaPositionAmountHp position.shares
  let deltaReserve ← Word.tryFrom u128 deltaReserveHp
  let deltaHubReserve ← Word.tryFrom u128 deltaHubReserveHp
  let deltaPositionAmount ← Word.tryFrom u128 deltaPositionAmountHp
  let deltaShares ← Word.tryFrom u128 deltaSharesHp
  let deltaB ← Word.tryFrom u128 deltaBHp
  -- the LP receives hub asset when the price rose since the position was opened
  let hubTransferred ←
    (if positionPrice < currentPrice then do
      let sub ← Word.checkedSub currentHubReserve pxr
      let sum ← Word.checkedAdd u256 currentHubReserve pxr
      let div1 ← Word.checkedMul u256 currentHubReserve sub
      let div1 ← Word.checkedDiv div1 sum
      let t ← Word.checkedMul u256 div1 deltaSharesHp
      let t ← Word.checkedDiv t currentShares
      Word.tryFrom u128 t
    else some 0)
  let feeComplement := (Fixed.one : FixedU128).saturatingSub withdrawalFee
  let deltaReserve ← feeComplement.checkedMulInt deltaReserve
  let deltaHubReserve ← feeComplement.checkedMulInt deltaHubReserve
  let hubTransferred ← feeComplement.checkedMulInt hubTransferred
  pure
    { asset :=
        { deltaReserve := .decrease deltaReserve, deltaHubReserve := .decrease deltaHubReserve
          deltaShares := .decrease deltaShares, deltaProtocolShares := .increase deltaB }
      lpHubAmount := hubTransferred
      deltaPositionReserve := .decrease deltaPositionAmount
      deltaPositionShares := .decrease sharesRemoved }

/-! ## Shapes -/

open Frame

section Shapes

variable (assetInState assetOutState assetState : AssetReserveState) (amount : Nat)
  (assetFee protocolFee m : Permill)

/-- Both legs of a sell move no shares. -/
theorem calculateSellStateChanges_keepsShares (slip : Option TradeSlipFees) :
    Returns (fun ch : TradeStateChange => ch.assetIn.KeepsShares ∧ ch.assetOut.KeepsShares)
      (calculateSellStateChanges assetInState assetOutState amount assetFee protocolFee m slip) := by
  unfold calculateSellStateChanges
  -- every bind passes through to the one record, whose legs keep the default share deltas
  repeat' refine returns_bind fun _ _ => ?_
  exact returns_pure ⟨⟨rfl, rfl⟩, ⟨rfl, rfl⟩⟩

theorem calculateBuyStateChanges_keepsShares (slip : Option TradeSlipFees) :
    Returns (fun ch : TradeStateChange => ch.assetIn.KeepsShares ∧ ch.assetOut.KeepsShares)
      (calculateBuyStateChanges assetInState assetOutState amount assetFee protocolFee m slip) := by
  unfold calculateBuyStateChanges
  repeat' refine returns_bind fun _ _ => ?_
  -- the pool that would be drained fails; the other branch ends in the record
  split
  · exact returns_none
  · repeat' refine returns_bind fun _ _ => ?_
    exact returns_pure ⟨⟨rfl, rfl⟩, ⟨rfl, rfl⟩⟩

theorem calculateSellHubStateChanges_keepsShares (slip : Option HubTradeSlipFees) :
    Returns (fun ch : HubTradeStateChange => ch.asset.KeepsShares)
      (calculateSellHubStateChanges assetOutState amount assetFee slip) := by
  unfold calculateSellHubStateChanges
  repeat' refine returns_bind fun _ _ => ?_
  exact returns_pure ⟨rfl, rfl⟩

theorem calculateBuyForHubAssetStateChanges_keepsShares (slip : Option HubTradeSlipFees) :
    Returns (fun ch : HubTradeStateChange => ch.asset.KeepsShares)
      (calculateBuyForHubAssetStateChanges assetOutState amount assetFee slip) := by
  unfold calculateBuyForHubAssetStateChanges
  repeat' refine returns_bind fun _ _ => ?_
  exact returns_pure ⟨rfl, rfl⟩

/-- Adding liquidity mints shares and gives the protocol none. -/
theorem calculateAddLiquidityStateChanges_shape :
    Returns (fun ch : LiquidityStateChange =>
        ch.asset.deltaShares = .increase ch.asset.deltaShares.amount ∧
          ch.asset.deltaProtocolShares = .increase 0)
      (calculateAddLiquidityStateChanges assetState amount) := by
  unfold calculateAddLiquidityStateChanges
  repeat' refine returns_bind fun _ _ => ?_
  exact returns_pure ⟨rfl, rfl⟩

/-- Removing `sharesRemoved` shares takes them all from the position and splits them into
burned shares and shares handed to the protocol. -/
theorem calculateRemoveLiquidityStateChanges_shape (sharesRemoved : Nat) (position : Position)
    (withdrawalFee : FixedU128) :
    Returns (fun ch : LiquidityStateChange => ∃ burned toProtocol,
        ch.asset.deltaShares = .decrease burned ∧
          ch.asset.deltaProtocolShares = .increase toProtocol ∧
          ch.deltaPositionShares = .decrease sharesRemoved ∧ burned + toProtocol = sharesRemoved)
      (calculateRemoveLiquidityStateChanges assetState sharesRemoved position withdrawalFee) := by
  unfold calculateRemoveLiquidityStateChanges
  refine returns_bind fun _ _ => returns_bind fun _ _ => returns_bind fun _ _ => ?_
  refine returns_bind fun _ _ => returns_bind fun deltaBHp _ => ?_
  -- `delta_shares_hp = shares_removed - delta_b_hp`, checked
  refine returns_bind fun deltaSharesHp hds => ?_
  obtain ⟨hle, rfl⟩ := Word.checkedSub_eq_some.mp hds
  iterate 9 refine returns_bind fun _ _ => ?_
  -- both narrowings to `u128` keep their values
  refine returns_bind fun deltaShares hs => returns_bind fun deltaB hb => ?_
  obtain ⟨-, rfl⟩ := Word.tryFrom_eq_some.mp hs
  obtain ⟨-, rfl⟩ := Word.tryFrom_eq_some.mp hb
  repeat' refine returns_bind fun _ _ => ?_
  exact returns_pure ⟨_, _, rfl, rfl, rfl, by omega⟩

end Shapes

end Hydration.Omnipool
