import Hydration.Omnipool.Math
import Hydration.Frame.Storage
import Hydration.Tokens

/-!
# The Omnipool pallet

`pallets/omnipool/src/lib.rs` and `types.rs`. The pallet state is the storage of
the pallet (`Assets`, `HubAssetTradability`, `Positions`, `NextPositionId`, the slip
fee items), the items of the position NFT collection, and the balances. Each
extrinsic is a function `State → Except Error State`: a returned error rolls the
whole call back, as `#[transactional]` does.

What the pallet gets from the runtime is a `Config`: the constants, the origins,
the asset registry, the dynamic fee provider, the price barrier, the external
oracle, and the hooks. The hooks write no storage of this pallet; only their
verdict (and, for `on_trade_fee`, the fee transfers) is modelled. Events are not
modelled.
-/

namespace Hydration.Omnipool.Pallet

open Frame FixedPoint

/-- The math crate's reserve state, as `types.rs` imports it. -/
abbrev MathReserveState := Omnipool.AssetReserveState

/-- The math crate's position. -/
abbrev MathPosition := Omnipool.Position

/-- `Tradability`: a `u8` of bit flags. -/
structure Tradability where
  bits : Nat
  deriving DecidableEq, Repr

namespace Tradability

def frozen : Tradability := ⟨0⟩

def sell : Tradability := ⟨1⟩

def buy : Tradability := ⟨2⟩

def addLiquidity : Tradability := ⟨4⟩

def removeLiquidity : Tradability := ⟨8⟩

/-- `Default`: `SELL | BUY | ADD_LIQUIDITY | REMOVE_LIQUIDITY`. -/
instance : Inhabited Tradability := ⟨⟨15⟩⟩

def contains (t f : Tradability) : Bool := t.bits &&& f.bits == f.bits

/-- `is_safe_withdrawal`: only liquidity operations are allowed. -/
def isSafeWithdrawal (t : Tradability) : Bool := t.bits == 12 || t.bits == 8

end Tradability

/-- An entry of `Assets`. -/
structure AssetState where
  hubReserve : Nat
  shares : Nat
  protocolShares : Nat
  cap : Nat
  tradable : Tradability
  deriving DecidableEq, Repr

/-- An asset state together with the pool's balance of the asset. -/
structure AssetReserveState where
  reserve : Nat
  hubReserve : Nat
  shares : Nat
  protocolShares : Nat
  cap : Nat
  tradable : Tradability
  deriving DecidableEq, Repr

instance : Inhabited AssetReserveState := ⟨⟨0, 0, 0, 0, 0, default⟩⟩

namespace AssetReserveState

/-- `From<(AssetState, Balance)>`. -/
def ofState (s : AssetState) (reserve : Nat) : AssetReserveState :=
  ⟨reserve, s.hubReserve, s.shares, s.protocolShares, s.cap, s.tradable⟩

/-- `Into<AssetState>`: the reserve is dropped. -/
def toState (s : AssetReserveState) : AssetState :=
  ⟨s.hubReserve, s.shares, s.protocolShares, s.cap, s.tradable⟩

/-- `Into<MathReserveState>`. -/
def toMath (s : AssetReserveState) : MathReserveState :=
  ⟨s.reserve, s.hubReserve, s.shares, s.protocolShares⟩

def price (s : AssetReserveState) : Option FixedU128 :=
  Fixed.checkedFromRational s.hubReserve s.reserve

def weightCap (s : AssetReserveState) : FixedU128 := Fixed.ofInnerSat s.cap

/-- `delta_update`: the hub reserve moves by the total hub delta, extra amount included. -/
def deltaUpdate (s : AssetReserveState) (delta : AssetStateChange) : Option AssetReserveState := do
  let reserve ← delta.deltaReserve.addTo s.reserve
  let hubReserve ← delta.totalDeltaHubReserve.addTo s.hubReserve
  let shares ← delta.deltaShares.addTo s.shares
  let protocolShares ← delta.deltaProtocolShares.addTo s.protocolShares
  pure { s with reserve, hubReserve, shares, protocolShares }

end AssetReserveState

/-- An entry of `Positions`. -/
structure Position (AssetId : Type) where
  assetId : AssetId
  amount : Nat
  shares : Nat
  price : Nat × Nat
  deriving DecidableEq, Repr

namespace Position

variable {AssetId : Type}

def toMath (p : Position AssetId) : MathPosition := ⟨p.amount, p.shares, p.price⟩

def priceFromRational (p : Position AssetId) : Option FixedU128 :=
  Fixed.checkedFromRational p.price.1 p.price.2

def deltaUpdate (p : Position AssetId) (deltaReserve deltaShares : BalanceUpdate) :
    Option (Position AssetId) := do
  let amount ← deltaReserve.addTo p.amount
  let shares ← deltaShares.addTo p.shares
  pure { p with amount, shares }

end Position

/-- `SlipFeeConfig`. -/
structure SlipFeeConfig where
  maxSlipFee : Permill
  deriving DecidableEq

/-- What the hooks are told about one asset. -/
structure AssetInfo (AssetId : Type) where
  assetId : AssetId
  before : AssetReserveState
  after : AssetReserveState
  deltaChanges : AssetStateChange
  safeWithdrawal : Bool

inductive Origin (AccountId : Type) where
  | root
  | signed (who : AccountId)
  | none
  deriving DecidableEq, Repr

/-- The errors of the pallet, with those of the runtime it passes on. -/
inductive Error where
  | badOrigin
  | arithmeticOverflow
  | divisionByZero
  | currency
  | nft
  | hook
  | oracle
  | insufficientBalance
  | assetAlreadyAdded
  | assetNotFound
  | assetNotRegistered
  | missingBalance
  | invalidInitialAssetPrice
  | existentialDepositNotAvailable
  | buyLimitNotReached
  | sellLimitExceeded
  | positionNotFound
  | insufficientShares
  | notAllowed
  | forbidden
  | assetWeightCapExceeded
  | insufficientLiquidity
  | insufficientTradingAmount
  | maxInRatioExceeded
  | maxOutRatioExceeded
  | sameAssetTradeNotAllowed
  | hubAssetUpdateError
  | invalidSharesAmount
  | invalidHubAssetTradableState
  | assetRefundNotAllowed
  | priceDifferenceTooHigh
  | assetNotFrozen
  | sharesRemaining
  | slippageLimit
  | invalidOraclePrice
  | zeroAmountOut
  | feeOverdraft
  | maxSlipFeeTooHigh
  | invalidOmnipoolHubReserve
  | invariantError
  deriving DecidableEq, Repr

/-- The storage the pallet reads and writes. -/
structure State (AssetId AccountId : Type) where
  assets : StorageMap AssetId AssetState
  hubAssetTradability : Tradability
  positions : StorageMap Nat (Position AssetId)
  nextPositionId : Nat
  slipFee : Option SlipFeeConfig
  slipFeeHubReserveAtBlockStart : StorageMap AssetId Nat
  slipFeeDelta : StorageMap AssetId SignedBalance
  /-- The items of the position NFT collection and their owners (`NFTHandler`). -/
  positionOwner : StorageMap Nat AccountId
  balances : Balances AssetId AccountId
  /-- The reserved balances, which only `total_balance` reads. No call of the pallet changes
  them: the LRNA the deposit limiter of the circuit breaker reserves is not modelled. -/
  reserved : AssetId → AccountId → Nat

/-- The runtime's side of `Config`. -/
structure Config (AssetId AccountId : Type) where
  hubAssetId : AssetId
  hdxAssetId : AssetId
  protocolAccount : AccountId
  minimumTradingLimit : Nat
  minimumPoolLiquidity : Nat
  maxInRatio : Nat
  maxOutRatio : Nat
  minWithdrawalFee : Permill
  burnProtocolFee : Permill
  authorityOrigin : Origin AccountId → Bool
  updateTradabilityOrigin : Origin AccountId → Bool
  /-- `AssetRegistry::exists`. -/
  assetRegistryExists : AssetId → Bool
  /-- `AssetRegistry::existential_deposit`. -/
  existentialDeposit : AssetId → Option Nat
  /-- `Fee::get_and_store((asset, reserve))`: asset fee and protocol fee. -/
  fee : AssetId → Nat → Permill × Permill
  /-- `PriceBarrier::ensure_price(who, hub, asset, price)`. -/
  ensurePrice : AccountId → AssetId → AssetId → Nat × Nat → Bool
  /-- `ExternalPriceOracle::get_price(hub, asset)`. -/
  externalPrice : AssetId → AssetId → Option (Nat × Nat)
  /-- `OmnipoolHooks::on_trade_fee(fee_account, trader, asset, amount)`: the fees the hook
  takes, each transferred from the pool account to its recipient. -/
  onTradeFee : AccountId → AccountId → AssetId → Nat → Option (List (Option (Nat × AccountId)))
  onLiquidityChanged : Origin AccountId → AssetInfo AssetId → Bool
  onTrade : Origin AccountId → AssetInfo AssetId → AssetInfo AssetId → Bool
  onHubAssetTrade : Origin AccountId → AssetInfo AssetId → Bool

/-- `EmaPrice::new(n, d)`: a zero denominator becomes one. -/
def emaPrice (n d : Nat) : Nat × Nat := (n, if 0 < d then d else 1)

/-- `ensure_signed`. -/
def ensureSigned {AccountId : Type} : Origin AccountId → Except Error AccountId
  | .signed who => .ok who
  | _ => .error .badOrigin

/-- `allow_assets`: SELL on the asset sold, BUY on the asset bought. -/
def allowAssets (assetIn assetOut : AssetReserveState) : Bool :=
  assetIn.tradable.contains .sell && assetOut.tradable.contains .buy

/-- `ensure_liquidity_invariant`: the price moves by less than `10^-6` relative units. -/
def ensureLiquidityInvariant (oldState newState : AssetReserveState) : Except Error Unit := do
  let one := 1000000000000
  let left ← okOr (Word.checkedMul u256 (newState.hubReserve - one) oldState.reserve) .invariantError
  let middle ← okOr (Word.checkedMul u256 oldState.hubReserve newState.reserve) .invariantError
  let right ← okOr (Word.checkedAdd u256 newState.hubReserve one) .invariantError
  let right ← okOr (Word.checkedMul u256 right oldState.reserve) .invariantError
  ensure (left ≤ middle) .invariantError
  ensure (middle ≤ right) .invariantError

section Helpers

variable {AssetId AccountId : Type} [DecidableEq AssetId] [DecidableEq AccountId]
variable (cfg : Config AssetId AccountId)

/-- `load_asset_state`: the stored state with the pool's balance as reserve. -/
def loadAssetState (s : State AssetId AccountId) (assetId : AssetId) :
    Except Error AssetReserveState :=
  match s.assets.lookup assetId with
  | some st => .ok (AssetReserveState.ofState st (s.balances.free assetId cfg.protocolAccount))
  | none => .error .assetNotFound

/-- `set_asset_state`. -/
def setAssetState (s : State AssetId AccountId) (assetId : AssetId) (newState : AssetReserveState) :
    State AssetId AccountId :=
  { s with assets := s.assets.insert assetId newState.toState }

def currencyTransfer (s : State AssetId AccountId) (asset : AssetId) (src dst : AccountId)
    (amount : Nat) : Except Error (State AssetId AccountId) :=
  match Tokens.transfer s.balances asset src dst amount with
  | some b => .ok { s with balances := b }
  | none => .error .currency

def currencyDeposit (s : State AssetId AccountId) (asset : AssetId) (who : AccountId)
    (amount : Nat) : Except Error (State AssetId AccountId) :=
  match Tokens.deposit s.balances asset who amount with
  | some b => .ok { s with balances := b }
  | none => .error .currency

def currencyWithdraw (s : State AssetId AccountId) (asset : AssetId) (who : AccountId)
    (amount : Nat) : Except Error (State AssetId AccountId) :=
  match Tokens.withdraw s.balances asset who amount with
  | some b => .ok { s with balances := b }
  | none => .error .currency

/-- `update_hub_asset_liquidity`: mint or burn hub asset in the pool account. -/
def updateHubAssetLiquidity (s : State AssetId AccountId) :
    BalanceUpdate → Except Error (State AssetId AccountId)
  | .increase amount => currencyDeposit s cfg.hubAssetId cfg.protocolAccount amount
  | .decrease amount => currencyWithdraw s cfg.hubAssetId cfg.protocolAccount amount

/-- `process_hub_amount`: pay hub asset to an LP; a failed transfer of less than
`400_000_000` is burned instead. -/
def processHubAmount (s : State AssetId AccountId) (amount : Nat) (dest : AccountId) :
    Except Error (State AssetId AccountId) :=
  if 0 < amount then
    match currencyTransfer s cfg.hubAssetId cfg.protocolAccount dest amount with
    | .ok s' => .ok s'
    | .error e =>
      if amount < 400000000 then currencyWithdraw s cfg.hubAssetId cfg.protocolAccount amount
      else .error e
  else .ok s

/-- `increase_hdx_subpool_hub_reserve`. -/
def increaseHdxSubpoolHubReserve (origin : Origin AccountId) (s : State AssetId AccountId)
    (amount : Nat) : Except Error (State AssetId AccountId) :=
  if amount = 0 then .ok s
  else do
    let hdxStateBefore ← loadAssetState cfg s cfg.hdxAssetId
    let st ← okOr (s.assets.lookup cfg.hdxAssetId) .assetNotFound
    let hubReserve ← okOr (Word.checkedAdd u128 st.hubReserve amount) .arithmeticOverflow
    let s := { s with assets := s.assets.insert cfg.hdxAssetId { st with hubReserve } }
    let hdxStateAfter ← loadAssetState cfg s cfg.hdxAssetId
    let info : AssetInfo AssetId :=
      ⟨cfg.hdxAssetId, hdxStateBefore, hdxStateAfter, { deltaHubReserve := .increase amount }, false⟩
    ensure (cfg.onHubAssetTrade origin info) .hook
    pure s

/-- `process_protocol_fee`: the unburned part of the protocol fee is minted into
the HDX subpool. -/
def processProtocolFee (origin : Origin AccountId) (s : State AssetId AccountId)
    (protocolFee burned : Nat) : Except Error (State AssetId AccountId) :=
  if protocolFee = 0 then .ok s
  else
    let remainingProtocolFee := protocolFee - burned
    if remainingProtocolFee = 0 then .ok s
    else do
      let s ← updateHubAssetLiquidity cfg s (.increase remainingProtocolFee)
      increaseHdxSubpoolHubReserve cfg origin s remainingProtocolFee

/-- The hook's fee transfers out of the pool account. -/
def payTradeFees (asset : AssetId) (s : State AssetId AccountId) :
    List (Option (Nat × AccountId)) → Except Error (State AssetId AccountId)
  | [] => .ok s
  | none :: fees => payTradeFees asset s fees
  | some (amount, recipient) :: fees => do
    let s ← currencyTransfer s asset cfg.protocolAccount recipient amount
    payTradeFees asset s fees

/-- The reported total of the hook's fees, with overflow check. -/
def takenFeeTotal (fees : List (Option (Nat × AccountId))) : Option Nat :=
  ((fees.filterMap id).filter fun f => 0 < f.1).foldlM (fun acc f => Word.checkedAdd u128 acc f.1) 0

/-- `process_trade_fee`: the hook takes at most the asset fee minus one. -/
def processTradeFee (s : State AssetId AccountId) (trader : AccountId) (asset : AssetId)
    (amount : Nat) : Except Error (Nat × State AssetId AccountId) := do
  let account := cfg.protocolAccount
  let originalAssetReserve := s.balances.free asset account
  let allowedAmount := amount - 1
  let takenFee ← okOr (cfg.onTradeFee account trader asset allowedAmount) .hook
  let s ← payTradeFees cfg asset s takenFee
  let total ← okOr (takenFeeTotal takenFee) .arithmeticOverflow
  let assetReserve := s.balances.free asset account
  let actualFeeTaken := originalAssetReserve - assetReserve
  ensure (actualFeeTaken ≤ Word.saturatingAdd u128 allowedAmount 10) .feeOverdraft
  pure (total, s)

/-- `snapshot_q0`: the hub reserve at the first trade of the block. -/
def snapshotQ0 (s : State AssetId AccountId) (assetId : AssetId) (currentHubReserve : Nat) :
    Nat × State AssetId AccountId :=
  match s.slipFeeHubReserveAtBlockStart.lookup assetId with
  | some q0 => (q0, s)
  | none =>
    (currentHubReserve,
      { s with
        slipFeeHubReserveAtBlockStart := s.slipFeeHubReserveAtBlockStart.insert assetId currentHubReserve })

def ensureQ0Snapshot (s : State AssetId AccountId) (assetId : AssetId) (currentHubReserve : Nat) :
    State AssetId AccountId :=
  if s.slipFee.isSome then (snapshotQ0 s assetId currentHubReserve).2 else s

/-- `SlipFeeDelta::get` (a `ValueQuery`). -/
def slipFeeDeltaOf (s : State AssetId AccountId) (assetId : AssetId) : SignedBalance :=
  (s.slipFeeDelta.lookup assetId).getD .zero

def loadTradeSlipFees (s : State AssetId AccountId) (assetIn : AssetId) (assetInHubReserve : Nat)
    (assetOut : AssetId) (assetOutHubReserve : Nat) : Option TradeSlipFees × State AssetId AccountId :=
  match s.slipFee with
  | none => (none, s)
  | some config =>
    let (q0In, s) := snapshotQ0 s assetIn assetInHubReserve
    let (q0Out, s) := snapshotQ0 s assetOut assetOutHubReserve
    (some ⟨q0In, slipFeeDeltaOf s assetIn, q0Out, slipFeeDeltaOf s assetOut, config.maxSlipFee⟩, s)

def loadHubTradeSlipFees (s : State AssetId AccountId) (assetOut : AssetId) (assetOutHubReserve : Nat) :
    Option HubTradeSlipFees × State AssetId AccountId :=
  match s.slipFee with
  | none => (none, s)
  | some config =>
    let (q0, s) := snapshotQ0 s assetOut assetOutHubReserve
    (some ⟨q0, slipFeeDeltaOf s assetOut, config.maxSlipFee⟩, s)

/-- `update_slip_fee_delta`: hub asset left the sell pool and entered the buy pool. -/
def updateSlipFeeDelta (s : State AssetId AccountId) (assetIn : AssetId) (deltaHubIn : Nat)
    (assetOut : AssetId) (deltaHubOut : Nat) : Except Error (State AssetId AccountId) :=
  if s.slipFee.isNone then .ok s
  else do
    let dIn ← okOr ((slipFeeDeltaOf s assetIn).checkedAdd (.negative deltaHubIn)) .arithmeticOverflow
    let s := { s with slipFeeDelta := s.slipFeeDelta.insert assetIn dIn }
    let dOut ← okOr ((slipFeeDeltaOf s assetOut).checkedAdd (.positive deltaHubOut)) .arithmeticOverflow
    pure { s with slipFeeDelta := s.slipFeeDelta.insert assetOut dOut }

def updateSlipFeeDeltaHubTrade (s : State AssetId AccountId) (assetOut : AssetId) (deltaHubOut : Nat) :
    Except Error (State AssetId AccountId) :=
  if s.slipFee.isNone then .ok s
  else do
    let d ← okOr ((slipFeeDeltaOf s assetOut).checkedAdd (.positive deltaHubOut)) .arithmeticOverflow
    pure { s with slipFeeDelta := s.slipFeeDelta.insert assetOut d }

/-- `create_and_mint_position_instance`: mint the NFT `NextPositionId` and bump the counter. -/
def createAndMintPositionInstance (s : State AssetId AccountId) (owner : AccountId) :
    Except Error (Nat × State AssetId AccountId) := do
  let nextPositionId := s.nextPositionId
  ensure (s.positionOwner.lookup nextPositionId = none) .nft
  let s := { s with positionOwner := s.positionOwner.insert nextPositionId owner }
  let n ← okOr (Word.checkedAdd u128 nextPositionId 1) .arithmeticOverflow
  pure (nextPositionId, { s with nextPositionId := n })

/-- `NFTHandler::burn(collection, id, Some(owner))`. -/
def burnPosition (s : State AssetId AccountId) (positionId : Nat) (who : AccountId) :
    Except Error (State AssetId AccountId) :=
  match s.positionOwner.lookup positionId with
  | some owner =>
    if owner = who then .ok { s with positionOwner := s.positionOwner.erase positionId }
    else .error .nft
  | none => .error .nft

/-- The end of the position in `do_remove_liquidity`: removed with its NFT when no shares
are left, overwritten otherwise. -/
def updateOrBurnPosition (s : State AssetId AccountId) (positionId : Nat) (who : AccountId)
    (updatedPosition : Position AssetId) : Except Error (State AssetId AccountId) :=
  if updatedPosition.shares = 0 then
    burnPosition { s with positions := s.positions.erase positionId } positionId who
  else do
    -- the `PositionUpdated` event carries the position's price, which must exist
    let _ ← okOr updatedPosition.priceFromRational .divisionByZero
    pure { s with positions := s.positions.insert positionId updatedPosition }

/-- `hub_balance_excluding_swap_assets`: the pool's hub balance minus the hub reserves
of the two traded assets and of HDX. -/
def hubBalanceExcludingSwapAssets (s : State AssetId AccountId) (assetIn : AssetId)
    (assetInState : AssetReserveState) (assetOut : AssetId) (assetOutState : AssetReserveState) :
    Except Error Nat := do
  let hubSupply := s.balances.free cfg.hubAssetId cfg.protocolAccount
  let sum ← okOr (Word.checkedAdd u128 assetInState.hubReserve assetOutState.hubReserve) .invariantError
  let sum ←
    if cfg.hdxAssetId ≠ assetIn ∧ cfg.hdxAssetId ≠ assetOut then do
      let hdxState ← loadAssetState cfg s cfg.hdxAssetId
      okOr (Word.checkedAdd u128 sum hdxState.hubReserve) .invariantError
    else pure sum
  ensure (sum ≤ hubSupply) .invalidOmnipoolHubReserve
  pure (hubSupply - sum)

/-- `ensure_trade_invariant`: `R·Q` of the sold asset does not fall, and the pool's hub
balance is what the stored hub reserves of the touched assets add up to. -/
def ensureTradeInvariant (s : State AssetId AccountId) (assetIn : AssetId)
    (oldInState newInState : AssetReserveState) (assetOut : AssetId) (hubBalanceExcl : Nat) :
    Except Error Unit := do
  let rqBefore ← okOr (Word.checkedMul u256 oldInState.reserve oldInState.hubReserve) .invariantError
  let rqAfter ← okOr (Word.checkedMul u256 newInState.reserve newInState.hubReserve) .invariantError
  ensure (rqBefore ≤ rqAfter) .invariantError
  let inStore ← okOr (s.assets.lookup assetIn) .invariantError
  let outStore ← okOr (s.assets.lookup assetOut) .invariantError
  let expected ← okOr (Word.checkedAdd u128 hubBalanceExcl inStore.hubReserve) .invariantError
  let expected ← okOr (Word.checkedAdd u128 expected outStore.hubReserve) .invariantError
  let expected ←
    if cfg.hdxAssetId ≠ assetIn ∧ cfg.hdxAssetId ≠ assetOut then do
      let hdxStore ← okOr (s.assets.lookup cfg.hdxAssetId) .invariantError
      okOr (Word.checkedAdd u128 expected hdxStore.hubReserve) .invariantError
    else pure expected
  ensure (expected = s.balances.free cfg.hubAssetId cfg.protocolAccount) .invariantError

end Helpers

section Calls

variable {AssetId AccountId : Type} [DecidableEq AssetId] [DecidableEq AccountId]
variable (cfg : Config AssetId AccountId)

/-- `add_token`: the pool's balance of `asset` becomes its first position. -/
def addToken (origin : Origin AccountId) (asset : AssetId) (initialPrice : FixedU128)
    (weightCap : Permill) (positionOwner : AccountId) (s : State AssetId AccountId) :
    Except Error (State AssetId AccountId) := do
  ensure (cfg.authorityOrigin origin) .badOrigin
  ensure (s.assets.lookup asset = none) .assetAlreadyAdded
  ensure (cfg.assetRegistryExists asset) .assetNotRegistered
  ensure (0 < initialPrice.inner) .invalidInitialAssetPrice
  let amount := s.balances.free asset cfg.protocolAccount
  let ed ← okOr (cfg.existentialDeposit asset) .existentialDepositNotAvailable
  let minimumPoolLiquidity := Word.saturatingMul u128 ed 20
  ensure (0 < ed ∧ minimumPoolLiquidity ≤ amount) .missingBalance
  let hubReserve ← okOr (initialPrice.checkedMulInt amount) .arithmeticOverflow
  let state : AssetState :=
    { hubReserve, shares := amount, protocolShares := 0
      cap := (Fixed.ofPerThing weightCap : FixedU128).inner, tradable := default }
  let lpPosition : Position AssetId :=
    { assetId := asset, amount, shares := amount, price := (initialPrice.inner, 1000000000000000000) }
  let (instanceId, s) ← createAndMintPositionInstance s positionOwner
  let s := { s with positions := s.positions.insert instanceId lpPosition }
  let deltaHubReserve := BalanceUpdate.increase hubReserve
  let s ← updateHubAssetLiquidity cfg s deltaHubReserve
  let reserve := s.balances.free asset cfg.protocolAccount
  let changes : AssetStateChange :=
    { deltaHubReserve, deltaReserve := .increase reserve, deltaShares := .increase amount
      deltaProtocolShares := .increase 0 }
  ensure (cfg.onLiquidityChanged origin ⟨asset, default, .ofState state reserve, changes, false⟩) .hook
  pure { s with assets := s.assets.insert asset state }

/-- `do_add_liquidity`: returns the new position's id. -/
def doAddLiquidity (origin : Origin AccountId) (asset : AssetId) (amount minSharesLimit : Nat)
    (s : State AssetId AccountId) : Except Error (Nat × State AssetId AccountId) := do
  let who ← ensureSigned origin
  ensure (cfg.minimumPoolLiquidity ≤ amount) .insufficientLiquidity
  ensure (amount ≤ s.balances.free asset who) .insufficientBalance
  let assetState ← loadAssetState cfg s asset
  let s := ensureQ0Snapshot s asset assetState.hubReserve
  ensure (assetState.tradable.contains .addLiquidity) .notAllowed
  ensure (cfg.ensurePrice who cfg.hubAssetId asset (emaPrice assetState.hubReserve assetState.reserve))
    .priceDifferenceTooHigh
  let stateChanges ← okOr (calculateAddLiquidityStateChanges assetState.toMath amount) .arithmeticOverflow
  ensure (minSharesLimit ≤ stateChanges.asset.deltaShares.amount) .slippageLimit
  let newAssetState ← okOr (assetState.deltaUpdate stateChanges.asset) .arithmeticOverflow
  -- `total_balance`: the reserved LRNA counts, so LRNA held back by a lockdown does not raise the
  -- ratio
  let totalBalance := Word.saturatingAdd u128 (s.balances.free cfg.hubAssetId cfg.protocolAccount)
    (s.reserved cfg.hubAssetId cfg.protocolAccount)
  let totalHub ← okOr (Word.checkedAdd u128 totalBalance
    stateChanges.asset.totalDeltaHubReserve.amount) .arithmeticOverflow
  let hubReserveRatio ← okOr (Fixed.checkedFromRational newAssetState.hubReserve totalHub : Option FixedU128)
    .divisionByZero
  ensure (hubReserveRatio ≤ newAssetState.weightCap) .assetWeightCapExceeded
  let lpPosition : Position AssetId :=
    { assetId := asset, amount, shares := stateChanges.asset.deltaShares.amount
      price := (newAssetState.hubReserve, newAssetState.reserve) }
  let (instanceId, s) ← createAndMintPositionInstance s who
  let s := { s with positions := s.positions.insert instanceId lpPosition }
  -- the `PositionCreated` event carries the new price, which must exist
  let _ ← okOr newAssetState.price .divisionByZero
  let s ← currencyTransfer s asset who cfg.protocolAccount stateChanges.asset.deltaReserve.amount
  let s ← updateHubAssetLiquidity cfg s stateChanges.asset.totalDeltaHubReserve
  let s := setAssetState s asset newAssetState
  ensure (cfg.onLiquidityChanged origin ⟨asset, assetState, newAssetState, stateChanges.asset, false⟩) .hook
  ensureLiquidityInvariant assetState newAssetState
  pure (instanceId, s)

def addLiquidityWithLimit (origin : Origin AccountId) (asset : AssetId) (amount minSharesLimit : Nat)
    (s : State AssetId AccountId) : Except Error (State AssetId AccountId) :=
  (doAddLiquidity cfg origin asset amount minSharesLimit s).map Prod.snd

def addLiquidity (origin : Origin AccountId) (asset : AssetId) (amount : Nat)
    (s : State AssetId AccountId) : Except Error (State AssetId AccountId) :=
  addLiquidityWithLimit cfg origin asset amount 0 s

def addAllLiquidity (origin : Origin AccountId) (asset : AssetId) (minSharesLimit : Nat)
    (s : State AssetId AccountId) : Except Error (State AssetId AccountId) := do
  let who ← ensureSigned origin
  let amount := s.balances.free asset who
  ensure (0 < amount) .insufficientBalance
  (doAddLiquidity cfg origin asset amount minSharesLimit s).map Prod.snd

/-- The payout shared by `do_remove_liquidity` and `withdraw_protocol_liquidity`: the
asset to `dest`, the hub delta minus the LP's hub amount burned, the LP's hub amount paid. -/
def payOutLiquidity (s : State AssetId AccountId) (assetId : AssetId) (dest : AccountId)
    (stateChanges : LiquidityStateChange) : Except Error (State AssetId AccountId) := do
  let s ← currencyTransfer s assetId cfg.protocolAccount dest stateChanges.asset.deltaReserve.amount
  let hubDelta ← okOr (stateChanges.asset.totalDeltaHubReserve.merge (.increase stateChanges.lpHubAmount))
    .arithmeticOverflow
  let s ← updateHubAssetLiquidity cfg s hubDelta
  processHubAmount cfg s stateChanges.lpHubAmount dest

/-- `do_remove_liquidity`: returns the amount of asset paid out. -/
def doRemoveLiquidity (origin : Origin AccountId) (positionId amount minLimit : Nat)
    (s : State AssetId AccountId) : Except Error (Nat × State AssetId AccountId) := do
  let who ← ensureSigned origin
  ensure (0 < amount) .invalidSharesAmount
  ensure (s.positionOwner.lookup positionId = some who) .forbidden
  let position ← okOr (s.positions.lookup positionId) .positionNotFound
  ensure (amount ≤ position.shares) .insufficientShares
  let assetId := position.assetId
  let assetState ← loadAssetState cfg s assetId
  let s := ensureQ0Snapshot s assetId assetState.hubReserve
  ensure (assetState.tradable.contains .removeLiquidity) .notAllowed
  let safeWithdrawal := assetState.tradable.isSafeWithdrawal
  -- the price barrier is skipped when trading is disabled
  ensure (safeWithdrawal ||
      cfg.ensurePrice who cfg.hubAssetId assetId (emaPrice assetState.hubReserve assetState.reserve))
    .priceDifferenceTooHigh
  let extAssetPrice ← okOr (cfg.externalPrice cfg.hubAssetId assetId) .oracle
  ensure (extAssetPrice.1 ≠ 0) .invalidOraclePrice
  let spotPrice ← okOr assetState.price .divisionByZero
  let oraclePrice ← okOr (Fixed.checkedFromRational extAssetPrice.1 extAssetPrice.2 : Option FixedU128)
    .invalidOraclePrice
  let withdrawalFee ← okOr (calculateWithdrawalFee spotPrice oraclePrice cfg.minWithdrawalFee)
    .arithmeticOverflow
  let stateChanges ← okOr
    (calculateRemoveLiquidityStateChanges assetState.toMath amount position.toMath withdrawalFee)
    .arithmeticOverflow
  ensure (minLimit ≤ stateChanges.asset.deltaReserve.amount) .slippageLimit
  let newAssetState ← okOr (assetState.deltaUpdate stateChanges.asset) .arithmeticOverflow
  let updatedPosition ← okOr
    (position.deltaUpdate stateChanges.deltaPositionReserve stateChanges.deltaPositionShares)
    .arithmeticOverflow
  let s ← payOutLiquidity cfg s assetId who stateChanges
  let s ← updateOrBurnPosition s positionId who updatedPosition
  let s := setAssetState s assetId newAssetState
  ensure (cfg.onLiquidityChanged origin ⟨assetId, assetState, newAssetState, stateChanges.asset,
    safeWithdrawal⟩) .hook
  ensureLiquidityInvariant assetState newAssetState
  pure (stateChanges.asset.deltaReserve.amount, s)

def removeLiquidityWithLimit (origin : Origin AccountId) (positionId amount minLimit : Nat)
    (s : State AssetId AccountId) : Except Error (State AssetId AccountId) :=
  (doRemoveLiquidity cfg origin positionId amount minLimit s).map Prod.snd

def removeLiquidity (origin : Origin AccountId) (positionId amount : Nat)
    (s : State AssetId AccountId) : Except Error (State AssetId AccountId) :=
  removeLiquidityWithLimit cfg origin positionId amount 0 s

def removeAllLiquidity (origin : Origin AccountId) (positionId minLimit : Nat)
    (s : State AssetId AccountId) : Except Error (State AssetId AccountId) := do
  let position ← okOr (s.positions.lookup positionId) .positionNotFound
  removeLiquidityWithLimit cfg origin positionId position.shares minLimit s

/-- `sacrifice_position`: the position's shares become protocol shares. -/
def sacrificePosition (origin : Origin AccountId) (positionId : Nat) (s : State AssetId AccountId) :
    Except Error (State AssetId AccountId) := do
  let who ← ensureSigned origin
  let position ← okOr (s.positions.lookup positionId) .positionNotFound
  ensure (s.positionOwner.lookup positionId = some who) .forbidden
  let st ← okOr (s.assets.lookup position.assetId) .assetNotFound
  let protocolShares ← okOr (Word.checkedAdd u128 st.protocolShares position.shares) .arithmeticOverflow
  let s := { s with assets := s.assets.insert position.assetId { st with protocolShares } }
  burnPosition { s with positions := s.positions.erase positionId } positionId who

/-- The settlement shared by `sell` and `buy` once the trade is priced and the fee
taken: both reserves move, the net hub delta is minted or burned in one call, and
the protocol fee is processed. -/
def settleTrade (origin : Origin AccountId) (who : AccountId) (assetIn assetOut : AssetId)
    (assetInState assetOutState : AssetReserveState) (stateChanges : TradeStateChange)
    (hubBalanceExcl : Nat) (s : State AssetId AccountId) : Except Error (State AssetId AccountId) := do
  let newAssetInState ← okOr (assetInState.deltaUpdate stateChanges.assetIn) .arithmeticOverflow
  let newAssetOutState ← okOr (assetOutState.deltaUpdate stateChanges.assetOut) .arithmeticOverflow
  let s ← currencyTransfer s assetIn who cfg.protocolAccount stateChanges.assetIn.deltaReserve.amount
  let s ← currencyTransfer s assetOut cfg.protocolAccount who stateChanges.assetOut.deltaReserve.amount
  let deltaHubAsset ← okOr
    (stateChanges.assetIn.totalDeltaHubReserve.merge stateChanges.assetOut.totalDeltaHubReserve)
    .arithmeticOverflow
  let s ← updateHubAssetLiquidity cfg s deltaHubAsset
  let s := setAssetState s assetIn newAssetInState
  let s := setAssetState s assetOut newAssetOutState
  let s ← updateSlipFeeDelta s assetIn stateChanges.assetIn.deltaHubReserve.amount assetOut
    stateChanges.assetOut.deltaHubReserve.amount
  ensure (cfg.onTrade origin ⟨assetIn, assetInState, newAssetInState, stateChanges.assetIn, false⟩
    ⟨assetOut, assetOutState, newAssetOutState, stateChanges.assetOut, false⟩) .hook
  let s ← processProtocolFee cfg origin s stateChanges.fee.protocolFee stateChanges.fee.burnedProtocolFee
  ensureTradeInvariant cfg s assetIn assetInState newAssetInState assetOut hubBalanceExcl
  pure s

/-- The settlement shared by `sell_hub_asset` and `buy_asset_for_hub_asset`: the trader
pays the hub amount, receives the asset, and only the extra hub amount is minted. -/
def settleHubTrade (origin : Origin AccountId) (who : AccountId) (assetOut : AssetId)
    (assetState : AssetReserveState) (stateChanges : HubTradeStateChange)
    (s : State AssetId AccountId) : Except Error (State AssetId AccountId) := do
  let newAssetOutState ← okOr (assetState.deltaUpdate stateChanges.asset) .arithmeticOverflow
  let s ← currencyTransfer s cfg.hubAssetId who cfg.protocolAccount stateChanges.asset.deltaHubReserve.amount
  let s ← currencyTransfer s assetOut cfg.protocolAccount who stateChanges.asset.deltaReserve.amount
  let s ← updateHubAssetLiquidity cfg s stateChanges.asset.extraHubReserveAmount
  let s := setAssetState s assetOut newAssetOutState
  let s ← updateSlipFeeDeltaHubTrade s assetOut stateChanges.asset.deltaHubReserve.amount
  ensure (cfg.onHubAssetTrade origin ⟨assetOut, assetState, newAssetOutState, stateChanges.asset, false⟩)
    .hook
  pure s

/-- `BalanceUpdate::Increase(_)`. -/
def isIncrease : BalanceUpdate → Bool
  | .increase _ => true
  | .decrease _ => false

/-- `sell_hub_asset`. -/
def sellHubAsset (origin : Origin AccountId) (who : AccountId) (assetOut : AssetId) (amount limit : Nat)
    (s : State AssetId AccountId) : Except Error (State AssetId AccountId) := do
  ensure (s.hubAssetTradability.contains .sell) .notAllowed
  let assetState ← loadAssetState cfg s assetOut
  ensure (assetState.tradable.contains .buy) .notAllowed
  let maxIn ← okOr (Word.checkedDiv assetState.hubReserve cfg.maxInRatio) .divisionByZero
  ensure (amount ≤ maxIn) .maxInRatioExceeded
  let assetFee := (cfg.fee assetOut assetState.reserve).1
  let (slip, s) := loadHubTradeSlipFees s assetOut assetState.hubReserve
  let stateChanges ← okOr (calculateSellHubStateChanges assetState.toMath amount assetFee slip)
    .arithmeticOverflow
  ensure (limit ≤ stateChanges.asset.deltaReserve.amount) .buyLimitNotReached
  let maxOut ← okOr (Word.checkedDiv assetState.reserve cfg.maxOutRatio) .divisionByZero
  ensure (stateChanges.asset.deltaReserve.amount ≤ maxOut) .maxOutRatioExceeded
  let (takenFee, s) ← processTradeFee cfg s who assetOut stateChanges.fee.assetFee
  let stateChanges := stateChanges.accountForFeeTaken takenFee
  ensure (isIncrease stateChanges.asset.deltaHubReserve) .hubAssetUpdateError
  settleHubTrade cfg origin who assetOut assetState stateChanges s

/-- `buy_asset_for_hub_asset`. -/
def buyAssetForHubAsset (origin : Origin AccountId) (who : AccountId) (assetOut : AssetId)
    (amount limit : Nat) (s : State AssetId AccountId) : Except Error (State AssetId AccountId) := do
  ensure (s.hubAssetTradability.contains .sell) .notAllowed
  let assetState ← loadAssetState cfg s assetOut
  ensure (assetState.tradable.contains .buy) .notAllowed
  let maxOut ← okOr (Word.checkedDiv assetState.reserve cfg.maxOutRatio) .divisionByZero
  ensure (amount ≤ maxOut) .maxOutRatioExceeded
  let assetFee := (cfg.fee assetOut assetState.reserve).1
  let (slip, s) := loadHubTradeSlipFees s assetOut assetState.hubReserve
  let stateChanges ← okOr (calculateBuyForHubAssetStateChanges assetState.toMath amount assetFee slip)
    .arithmeticOverflow
  ensure (stateChanges.asset.deltaHubReserve.amount ≤ limit) .sellLimitExceeded
  let maxIn ← okOr (Word.checkedDiv assetState.hubReserve cfg.maxInRatio) .divisionByZero
  ensure (stateChanges.asset.deltaHubReserve.amount ≤ maxIn) .maxInRatioExceeded
  ensure (isIncrease stateChanges.asset.deltaHubReserve) .hubAssetUpdateError
  let (takenFee, s) ← processTradeFee cfg s who assetOut stateChanges.fee.assetFee
  settleHubTrade cfg origin who assetOut assetState (stateChanges.accountForFeeTaken takenFee) s

/-- `buy_hub_asset`: not allowed. -/
def buyHubAsset (s : State AssetId AccountId) : Except Error (State AssetId AccountId) := do
  ensure (s.hubAssetTradability.contains .buy) .notAllowed
  throw .notAllowed

/-- `sell_asset_for_hub_asset`: not allowed. -/
def sellAssetForHubAsset (s : State AssetId AccountId) : Except Error (State AssetId AccountId) := do
  ensure (s.hubAssetTradability.contains .buy) .notAllowed
  throw .notAllowed

/-- `sell`. -/
def sell (origin : Origin AccountId) (assetIn assetOut : AssetId) (amount minBuyAmount : Nat)
    (s : State AssetId AccountId) : Except Error (State AssetId AccountId) := do
  let who ← ensureSigned origin
  ensure (assetIn ≠ assetOut) .sameAssetTradeNotAllowed
  ensure (cfg.minimumTradingLimit ≤ amount) .insufficientTradingAmount
  ensure (amount ≤ s.balances.free assetIn who) .insufficientBalance
  if assetIn = cfg.hubAssetId then sellHubAsset cfg origin who assetOut amount minBuyAmount s
  else if assetOut = cfg.hubAssetId then sellAssetForHubAsset s
  else do
    let assetInState ← loadAssetState cfg s assetIn
    let assetOutState ← loadAssetState cfg s assetOut
    let hubBalanceExcl ← hubBalanceExcludingSwapAssets cfg s assetIn assetInState assetOut assetOutState
    ensure (allowAssets assetInState assetOutState) .notAllowed
    let maxIn ← okOr (Word.checkedDiv assetInState.reserve cfg.maxInRatio) .divisionByZero
    ensure (amount ≤ maxIn) .maxInRatioExceeded
    let assetFee := (cfg.fee assetOut assetOutState.reserve).1
    let protocolFee := (cfg.fee assetIn assetInState.reserve).2
    let (slip, s) := loadTradeSlipFees s assetIn assetInState.hubReserve assetOut assetOutState.hubReserve
    let stateChanges ← okOr (calculateSellStateChanges assetInState.toMath assetOutState.toMath amount
      assetFee protocolFee cfg.burnProtocolFee slip) .arithmeticOverflow
    ensure (0 < stateChanges.assetOut.deltaReserve.amount) .zeroAmountOut
    ensure (minBuyAmount ≤ stateChanges.assetOut.deltaReserve.amount) .buyLimitNotReached
    let maxOut ← okOr (Word.checkedDiv assetOutState.reserve cfg.maxOutRatio) .divisionByZero
    ensure (stateChanges.assetOut.deltaReserve.amount ≤ maxOut) .maxOutRatioExceeded
    let (takenFee, s) ← processTradeFee cfg s who assetOut stateChanges.fee.assetFee
    settleTrade cfg origin who assetIn assetOut assetInState assetOutState
      (stateChanges.accountForFeeTaken takenFee) hubBalanceExcl s

/-- `buy`. -/
def buy (origin : Origin AccountId) (assetOut assetIn : AssetId) (amount maxSellAmount : Nat)
    (s : State AssetId AccountId) : Except Error (State AssetId AccountId) := do
  let who ← ensureSigned origin
  ensure (assetIn ≠ assetOut) .sameAssetTradeNotAllowed
  ensure (cfg.minimumTradingLimit ≤ amount) .insufficientTradingAmount
  if assetOut = cfg.hubAssetId then buyHubAsset s
  else if assetIn = cfg.hubAssetId then buyAssetForHubAsset cfg origin who assetOut amount maxSellAmount s
  else do
    let assetInState ← loadAssetState cfg s assetIn
    let assetOutState ← loadAssetState cfg s assetOut
    let hubBalanceExcl ← hubBalanceExcludingSwapAssets cfg s assetIn assetInState assetOut assetOutState
    ensure (allowAssets assetInState assetOutState) .notAllowed
    ensure (amount ≤ assetOutState.reserve) .insufficientLiquidity
    let maxOut ← okOr (Word.checkedDiv assetOutState.reserve cfg.maxOutRatio) .divisionByZero
    ensure (amount ≤ maxOut) .maxOutRatioExceeded
    let assetFee := (cfg.fee assetOut assetOutState.reserve).1
    let protocolFee := (cfg.fee assetIn assetInState.reserve).2
    let (slip, s) := loadTradeSlipFees s assetIn assetInState.hubReserve assetOut assetOutState.hubReserve
    let stateChanges ← okOr (calculateBuyStateChanges assetInState.toMath assetOutState.toMath amount
      assetFee protocolFee cfg.burnProtocolFee slip) .arithmeticOverflow
    ensure (stateChanges.assetIn.deltaReserve.amount ≤ s.balances.free assetIn who) .insufficientBalance
    ensure (stateChanges.assetIn.deltaReserve.amount ≤ maxSellAmount) .sellLimitExceeded
    let maxIn ← okOr (Word.checkedDiv assetInState.reserve cfg.maxInRatio) .divisionByZero
    ensure (stateChanges.assetIn.deltaReserve.amount ≤ maxIn) .maxInRatioExceeded
    let (takenFee, s) ← processTradeFee cfg s who assetOut stateChanges.fee.assetFee
    settleTrade cfg origin who assetIn assetOut assetInState assetOutState
      (stateChanges.accountForFeeTaken takenFee) hubBalanceExcl s

/-- `set_asset_tradable_state`: for the hub asset, the separate `HubAssetTradability`. -/
def setAssetTradableState (origin : Origin AccountId) (assetId : AssetId) (state : Tradability)
    (s : State AssetId AccountId) : Except Error (State AssetId AccountId) := do
  ensure (cfg.updateTradabilityOrigin origin) .badOrigin
  if assetId = cfg.hubAssetId then do
    ensure (!state.contains .addLiquidity && !state.contains .removeLiquidity)
      .invalidHubAssetTradableState
    pure { s with hubAssetTradability := state }
  else do
    let st ← okOr (s.assets.lookup assetId) .assetNotFound
    pure { s with assets := s.assets.insert assetId { st with tradable := state } }

/-- `refund_refused_asset`. -/
def refundRefusedAsset (origin : Origin AccountId) (assetId : AssetId) (amount : Nat)
    (recipient : AccountId) (s : State AssetId AccountId) : Except Error (State AssetId AccountId) := do
  ensure (cfg.authorityOrigin origin) .badOrigin
  ensure (assetId ≠ cfg.hubAssetId) .assetRefundNotAllowed
  ensure (s.assets.lookup assetId = none) .assetAlreadyAdded
  ensure (amount ≤ s.balances.free assetId cfg.protocolAccount) .insufficientBalance
  currencyTransfer s assetId cfg.protocolAccount recipient amount

/-- `set_asset_weight_cap`. -/
def setAssetWeightCap (origin : Origin AccountId) (assetId : AssetId) (cap : Permill)
    (s : State AssetId AccountId) : Except Error (State AssetId AccountId) := do
  ensure (cfg.authorityOrigin origin) .badOrigin
  let st ← okOr (s.assets.lookup assetId) .assetNotFound
  pure { s with assets := s.assets.insert assetId { st with cap := (Fixed.ofPerThing cap : FixedU128).inner } }

/-- `withdraw_protocol_liquidity`: removes protocol shares through a temporary position
at the given price, with no withdrawal fee. -/
def withdrawProtocolLiquidity (origin : Origin AccountId) (assetId : AssetId) (amount : Nat)
    (price : Nat × Nat) (dest : AccountId) (s : State AssetId AccountId) :
    Except Error (State AssetId AccountId) := do
  ensure (cfg.authorityOrigin origin) .badOrigin
  let assetState ← loadAssetState cfg s assetId
  ensure (amount ≤ assetState.protocolShares) .insufficientShares
  let position : MathPosition := { amount := 0, price, shares := amount }
  let stateChanges ← okOr (calculateRemoveLiquidityStateChanges assetState.toMath amount position Fixed.zero)
    .arithmeticOverflow
  let newAssetState ← okOr (assetState.deltaUpdate stateChanges.asset) .arithmeticOverflow
  let newAssetState := { newAssetState with protocolShares := newAssetState.protocolShares - amount }
  let s ← payOutLiquidity cfg s assetId dest stateChanges
  let s := setAssetState s assetId newAssetState
  ensure (cfg.onLiquidityChanged origin ⟨assetId, assetState, newAssetState, stateChanges.asset, true⟩) .hook
  pure s

/-- `remove_token`: a frozen asset owned by the protocol only leaves the pool. -/
def removeToken (origin : Origin AccountId) (assetId : AssetId) (beneficiary : AccountId)
    (s : State AssetId AccountId) : Except Error (State AssetId AccountId) := do
  ensure (cfg.authorityOrigin origin) .badOrigin
  let assetState ← loadAssetState cfg s assetId
  ensure (assetState.tradable = .frozen) .assetNotFrozen
  ensure (assetState.shares = assetState.protocolShares) .sharesRemaining
  let s ← currencyWithdraw s cfg.hubAssetId cfg.protocolAccount assetState.hubReserve
  let s ← currencyTransfer s assetId cfg.protocolAccount beneficiary assetState.reserve
  pure { s with assets := s.assets.erase assetId }

/-- `set_slip_fee`. -/
def setSlipFee (origin : Origin AccountId) (slipFee : Option SlipFeeConfig)
    (s : State AssetId AccountId) : Except Error (State AssetId AccountId) := do
  ensure (cfg.updateTradabilityOrigin origin) .badOrigin
  match slipFee with
  | some config => do
    ensure (config.maxSlipFee ≤ PerThing.fromPercent 90) .maxSlipFeeTooHigh
    pure { s with slipFee := some config }
  | none => pure { s with slipFee := none }

/-- `on_finalize`: the per-block slip fee items are cleared. -/
def onFinalize (s : State AssetId AccountId) : State AssetId AccountId :=
  { s with slipFeeHubReserveAtBlockStart := ∅, slipFeeDelta := ∅ }

end Calls

/-- The dispatchable calls of the pallet, and the end of a block. -/
inductive Call (AssetId AccountId : Type) where
  | addToken (origin : Origin AccountId) (asset : AssetId) (initialPrice : FixedU128)
      (weightCap : Permill) (positionOwner : AccountId)
  | addLiquidity (origin : Origin AccountId) (asset : AssetId) (amount : Nat)
  | addLiquidityWithLimit (origin : Origin AccountId) (asset : AssetId) (amount minSharesLimit : Nat)
  | addAllLiquidity (origin : Origin AccountId) (asset : AssetId) (minSharesLimit : Nat)
  | removeLiquidity (origin : Origin AccountId) (positionId amount : Nat)
  | removeLiquidityWithLimit (origin : Origin AccountId) (positionId amount minLimit : Nat)
  | removeAllLiquidity (origin : Origin AccountId) (positionId minLimit : Nat)
  | sacrificePosition (origin : Origin AccountId) (positionId : Nat)
  | sell (origin : Origin AccountId) (assetIn assetOut : AssetId) (amount minBuyAmount : Nat)
  | buy (origin : Origin AccountId) (assetOut assetIn : AssetId) (amount maxSellAmount : Nat)
  | setAssetTradableState (origin : Origin AccountId) (assetId : AssetId) (state : Tradability)
  | refundRefusedAsset (origin : Origin AccountId) (assetId : AssetId) (amount : Nat)
      (recipient : AccountId)
  | setAssetWeightCap (origin : Origin AccountId) (assetId : AssetId) (cap : Permill)
  | withdrawProtocolLiquidity (origin : Origin AccountId) (assetId : AssetId) (amount : Nat)
      (price : Nat × Nat) (dest : AccountId)
  | removeToken (origin : Origin AccountId) (assetId : AssetId) (beneficiary : AccountId)
  | setSlipFee (origin : Origin AccountId) (slipFee : Option SlipFeeConfig)
  | onFinalize

section Step

variable {AssetId AccountId : Type} [DecidableEq AssetId] [DecidableEq AccountId]

/-- One call, dispatched. -/
def step (cfg : Config AssetId AccountId) :
    Call AssetId AccountId → State AssetId AccountId → Except Error (State AssetId AccountId)
  | .addToken o a p w owner => addToken cfg o a p w owner
  | .addLiquidity o a n => addLiquidity cfg o a n
  | .addLiquidityWithLimit o a n m => addLiquidityWithLimit cfg o a n m
  | .addAllLiquidity o a m => addAllLiquidity cfg o a m
  | .removeLiquidity o i n => removeLiquidity cfg o i n
  | .removeLiquidityWithLimit o i n m => removeLiquidityWithLimit cfg o i n m
  | .removeAllLiquidity o i m => removeAllLiquidity cfg o i m
  | .sacrificePosition o i => sacrificePosition o i
  | .sell o i out n m => sell cfg o i out n m
  | .buy o out i n m => buy cfg o out i n m
  | .setAssetTradableState o a t => setAssetTradableState cfg o a t
  | .refundRefusedAsset o a n r => refundRefusedAsset cfg o a n r
  | .setAssetWeightCap o a c => setAssetWeightCap cfg o a c
  | .withdrawProtocolLiquidity o a n p d => withdrawProtocolLiquidity cfg o a n p d
  | .removeToken o a b => removeToken cfg o a b
  | .setSlipFee o f => setSlipFee cfg o f
  | .onFinalize => fun s => .ok (onFinalize s)

end Step

/-! ## A pool on natural-number ids

Asset `1` is the hub asset, account `100` the pool account; the pool account holds `1000`
of asset `2` and nothing else. -/

/-- A runtime with no fees, no price barrier, and hooks that accept everything. -/
def exampleConfig : Config Nat Nat where
  hubAssetId := 1
  hdxAssetId := 0
  protocolAccount := 100
  minimumTradingLimit := 0
  minimumPoolLiquidity := 0
  maxInRatio := 3
  maxOutRatio := 3
  minWithdrawalFee := PerThing.zero
  burnProtocolFee := PerThing.zero
  authorityOrigin o := decide (o = .root)
  updateTradabilityOrigin o := decide (o = .root)
  assetRegistryExists _ := true
  existentialDeposit _ := some 1
  fee _ _ := (PerThing.zero, PerThing.zero)
  ensurePrice _ _ _ _ := true
  externalPrice _ _ := some (1, 1)
  onTradeFee _ _ _ _ := some []
  onLiquidityChanged _ _ := true
  onTrade _ _ _ := true
  onHubAssetTrade _ _ := true

def exampleGenesis : State Nat Nat where
  assets := ∅
  hubAssetTradability := default
  positions := ∅
  nextPositionId := 0
  slipFee := none
  slipFeeHubReserveAtBlockStart := ∅
  slipFeeDelta := ∅
  positionOwner := ∅
  balances := ⟨fun a x => if a = 2 ∧ x = 100 then 1000 else 0⟩
  reserved _ _ := 0

end Hydration.Omnipool.Pallet
