import Hydration.LiquidityMining.Math
import Hydration.Frame.Storage
import Hydration.Tokens

/-!
# The liquidity mining pallet

`pallets/liquidity-mining/src/lib.rs` and `types.rs`. The pallet has no extrinsics of its
own: other pallets call its functions (the `Mutate` trait), each inside a transaction, so
each function is a map `State → Except Error (State × result)` whose error rolls the call
back. The state is the pallet's storage, the block number and the balances.

Rewards are held in two kinds of account. A global farm's account holds what the farm
has not yet handed out; each period `sync_global_farm` moves the period's reward from it
to the pallet's pot and books it as the farm's `pending_rewards`. `sync_yield_farm` then
moves a yield farm's part of the pending rewards to its `left_to_distribute` (and to the
global farm's `accumulated_paid_rewards`), and users are paid from the pot out of
`left_to_distribute`.

What the pallet gets from the runtime is a `Config`: the accounts derived from its
`PalletId`, the constants, the asset registry and the price adjustment source. The value
of LP shares, which the calling pallet passes as a callback, is the argument
`valuedShares` of the deposit functions. The dust-removal whitelist and events are not
modelled.
-/

namespace Hydration.LiquidityMining

open Frame FixedPoint

/-- `MIN_DEPOSIT`. -/
def minDeposit : Nat := 1000

/-- `MIN_YIELD_FARM_MULTIPLIER`: `0.001`. -/
def minYieldFarmMultiplier : FixedU128 := ⟨1000000000000000, by decide⟩

/-- `FarmState`. -/
inductive FarmState
  | active
  | stopped
  | terminated
  deriving DecidableEq, Repr

/-- `LoyaltyCurve`. -/
structure LoyaltyCurve where
  initialRewardPercentage : FixedU128
  scaleCoef : Nat
  deriving DecidableEq

/-- `GlobalFarmData`. -/
structure GlobalFarmData (AssetId AccountId : Type) where
  id : Nat
  owner : AccountId
  updatedAt : Nat
  totalSharesZ : Nat
  accumulatedRpz : FixedU128
  rewardCurrency : AssetId
  pendingRewards : Nat
  accumulatedPaidRewards : Nat
  yieldPerPeriod : Perquintill
  plannedYieldingPeriods : Nat
  blocksPerPeriod : Nat
  incentivizedAsset : AssetId
  maxRewardPerPeriod : Nat
  minDeposit : Nat
  liveYieldFarmsCount : Nat
  totalYieldFarmsCount : Nat
  priceAdjustment : FixedU128
  state : FarmState
  deriving DecidableEq

/-- `YieldFarmData`. -/
structure YieldFarmData where
  id : Nat
  updatedAt : Nat
  totalShares : Nat
  totalValuedShares : Nat
  accumulatedRpvs : FixedU128
  accumulatedRpz : FixedU128
  loyaltyCurve : Option LoyaltyCurve
  multiplier : FixedU128
  state : FarmState
  entriesCount : Nat
  leftToDistribute : Nat
  totalStopped : Nat
  deriving DecidableEq

/-- `YieldFarmEntry`: one lock of a deposit's shares in a yield farm. -/
structure YieldFarmEntry where
  globalFarmId : Nat
  yieldFarmId : Nat
  valuedShares : Nat
  accumulatedRpvs : FixedU128
  accumulatedClaimedRewards : Nat
  enteredAt : Nat
  updatedAt : Nat
  stoppedAtCreation : Nat
  deriving DecidableEq

/-- `DepositData`. -/
structure DepositData (AmmPoolId : Type) where
  shares : Nat
  ammPoolId : AmmPoolId
  yieldFarmEntries : List YieldFarmEntry
  deriving DecidableEq

/-- `InconsistentStateError`: the errors that should never happen. -/
inductive InconsistentStateError
  | yieldFarmNotFound
  | globalFarmNotFound
  | liquidityIsNotActive
  | globalFarmIsNotActive
  | depositNotFound
  | invalidPeriod
  | notEnoughRewardsInYieldFarm
  | invalidLiveYielFarmsCount
  | invalidTotalYieldFarmsCount
  | invalidYieldFarmEntriesCount
  | invalidTotalShares
  | invalidValuedShares
  | invalidTotalSharesZ
  | invalidPaidAccumulatedRewards
  | invalidFarmId
  | invalidLoyaltyMultiplier
  | noExistentialDepositForAsset
  deriving DecidableEq, Repr

/-- The errors of the pallet, with those of the runtime it passes on. -/
inductive Error
  | globalFarmNotFound
  | yieldFarmNotFound
  | doubleClaimInPeriod
  | liquidityMiningCanceled
  | liquidityMiningIsActive
  | liquidityMiningIsNotStopped
  | forbidden
  | invalidMultiplier
  | yieldFarmAlreadyExists
  | invalidInitialRewardPercentage
  | globalFarmIsNotEmpty
  | missingIncentivizedAsset
  | insufficientRewardCurrencyBalance
  | invalidBlocksPerPeriod
  | invalidYieldPerPeriod
  | invalidTotalRewards
  | invalidPlannedYieldingPeriods
  | maxEntriesPerDeposit
  | doubleLock
  | yieldFarmEntryNotFound
  | globalFarmIsFull
  | invalidMinDeposit
  | invalidPriceAdjustment
  | errorGetAccountId
  | incorrectValuedShares
  | rewardCurrencyNotRegistered
  | incentivizedAssetNotRegistered
  | ammPoolIdMismatch
  | inconsistentState (e : InconsistentStateError)
  | arithmeticOverflow
  | arithmeticDivisionByZero
  | currency
  deriving DecidableEq, Repr

/-- The runtime's side of `Config`. -/
structure Config (AssetId AccountId : Type) where
  /-- `pot_account_id()`: the account of the `PalletId`. -/
  potAccount : AccountId
  /-- `try_into_sub_account(farm_id)` of the `PalletId`. -/
  farmAccount : Nat → AccountId
  treasuryAccountId : AccountId
  minTotalFarmRewards : Nat
  minPlannedYieldingPeriods : Nat
  maxFarmEntriesPerDeposit : Nat
  maxYieldFarmsPerGlobalFarm : Nat
  /-- `AssetRegistry::exists`. -/
  assetRegistryExists : AssetId → Bool
  /-- `AssetRegistry::existential_deposit`. -/
  existentialDeposit : AssetId → Option Nat
  /-- `AssetRegistry::get`: the existential deposit `sync_global_farm` keeps in a farm. -/
  assetRegistryGet : AssetId → Nat
  /-- `PriceAdjustment::get`; an error keeps the stored value. -/
  priceAdjustment : GlobalFarmData AssetId AccountId → Option FixedU128

/-- The storage of the pallet, the block number and the balances. -/
structure State (AssetId AccountId AmmPoolId : Type) where
  blockNumber : Nat
  farmSequencer : Nat
  depositSequencer : Nat
  globalFarm : StorageMap Nat (GlobalFarmData AssetId AccountId)
  yieldFarm : StorageMap (AmmPoolId × Nat × Nat) YieldFarmData
  deposit : StorageMap Nat (DepositData AmmPoolId)
  activeYieldFarm : StorageMap (AmmPoolId × Nat) Nat
  balances : Balances AssetId AccountId

variable {AssetId AccountId AmmPoolId : Type}

namespace GlobalFarmData

variable (cfg : Config AssetId AccountId)

/-- `GlobalFarmData::new`. -/
def new (id updatedAt : Nat) (rewardCurrency : AssetId) (yieldPerPeriod : Perquintill)
    (plannedYieldingPeriods blocksPerPeriod : Nat) (owner : AccountId) (incentivizedAsset : AssetId)
    (maxRewardPerPeriod minDeposit : Nat) (priceAdjustment : FixedU128) :
    GlobalFarmData AssetId AccountId :=
  { id, owner, updatedAt, totalSharesZ := 0, accumulatedRpz := Fixed.zero, rewardCurrency,
    pendingRewards := 0, accumulatedPaidRewards := 0, yieldPerPeriod, plannedYieldingPeriods,
    blocksPerPeriod, incentivizedAsset, maxRewardPerPeriod, minDeposit, liveYieldFarmsCount := 0,
    totalYieldFarmsCount := 0, priceAdjustment, state := .active }

/-- `increase_yield_farm_counts`. -/
def increaseYieldFarmCounts (gf : GlobalFarmData AssetId AccountId) :
    Except Error (GlobalFarmData AssetId AccountId) := do
  let live ← okOr (Word.checkedAdd 32 gf.liveYieldFarmsCount 1) .arithmeticOverflow
  let total ← okOr (Word.checkedAdd 32 gf.totalYieldFarmsCount 1) .arithmeticOverflow
  pure { gf with liveYieldFarmsCount := live, totalYieldFarmsCount := total }

/-- `decrease_live_yield_farm_count`. -/
def decreaseLiveYieldFarmCount (gf : GlobalFarmData AssetId AccountId) :
    Except Error (GlobalFarmData AssetId AccountId) := do
  let live ← okOr (Word.checkedSub gf.liveYieldFarmsCount 1)
    (.inconsistentState .invalidLiveYielFarmsCount)
  pure { gf with liveYieldFarmsCount := live }

/-- `decrease_total_yield_farm_count`. -/
def decreaseTotalYieldFarmCount (gf : GlobalFarmData AssetId AccountId) :
    Except Error (GlobalFarmData AssetId AccountId) := do
  let total ← okOr (Word.checkedSub gf.totalYieldFarmsCount 1)
    (.inconsistentState .invalidTotalYieldFarmsCount)
  pure { gf with totalYieldFarmsCount := total }

def hasLiveFarms (gf : GlobalFarmData AssetId AccountId) : Bool := gf.liveYieldFarmsCount ≠ 0

/-- `can_be_removed`: terminated, and every yield farm removed from storage. -/
def canBeRemoved (gf : GlobalFarmData AssetId AccountId) : Bool :=
  gf.state = .terminated ∧ gf.totalYieldFarmsCount = 0

def isFull (gf : GlobalFarmData AssetId AccountId) : Bool :=
  cfg.maxYieldFarmsPerGlobalFarm ≤ gf.totalYieldFarmsCount

/-- `add_stake`. -/
def addStake (gf : GlobalFarmData AssetId AccountId) (amount : Nat) :
    Except Error (GlobalFarmData AssetId AccountId) := do
  let totalSharesZ ← okOr (Word.checkedAdd 128 gf.totalSharesZ amount) .arithmeticOverflow
  pure { gf with totalSharesZ }

/-- `remove_stake`: "this should never fail". -/
def removeStake (gf : GlobalFarmData AssetId AccountId) (amount : Nat) :
    Except Error (GlobalFarmData AssetId AccountId) := do
  let totalSharesZ ← okOr (Word.checkedSub gf.totalSharesZ amount)
    (.inconsistentState .invalidTotalSharesZ)
  pure { gf with totalSharesZ }

end GlobalFarmData

namespace YieldFarmData

/-- `YieldFarmData::new`. -/
def new (id updatedAt : Nat) (loyaltyCurve : Option LoyaltyCurve) (multiplier : FixedU128) :
    YieldFarmData :=
  { id, updatedAt, loyaltyCurve, multiplier, accumulatedRpvs := Fixed.zero,
    accumulatedRpz := Fixed.zero, totalShares := 0, totalValuedShares := 0, state := .active,
    entriesCount := 0, leftToDistribute := 0, totalStopped := 0 }

def canBeRemoved (yf : YieldFarmData) : Bool := yf.state = .terminated ∧ yf.entriesCount = 0

/-- `decrease_entries_count`. -/
def decreaseEntriesCount (yf : YieldFarmData) : Except Error YieldFarmData := do
  let entriesCount ← okOr (Word.checkedSub yf.entriesCount 1)
    (.inconsistentState .invalidYieldFarmEntriesCount)
  pure { yf with entriesCount }

/-- `increase_entries_count`. -/
def increaseEntriesCount (yf : YieldFarmData) : Except Error YieldFarmData := do
  let entriesCount ← okOr (Word.checkedAdd 64 yf.entriesCount 1) .arithmeticOverflow
  pure { yf with entriesCount }

def hasEntries (yf : YieldFarmData) : Bool := yf.entriesCount ≠ 0

end YieldFarmData

/-- `YieldFarmEntry::new`. -/
def YieldFarmEntry.new (globalFarmId yieldFarmId valuedShares : Nat) (accumulatedRpvs : FixedU128)
    (enteredAt stoppedAtCreation : Nat) : YieldFarmEntry :=
  { globalFarmId, yieldFarmId, valuedShares, accumulatedRpvs, accumulatedClaimedRewards := 0,
    enteredAt, updatedAt := enteredAt, stoppedAtCreation }

namespace DepositData

/-- `DepositData::new`. -/
def new (shares : Nat) (ammPoolId : AmmPoolId) : DepositData AmmPoolId :=
  { shares, ammPoolId, yieldFarmEntries := [] }

/-- `search_yield_farm_entry`: the position of the entry of a yield farm. -/
def searchYieldFarmEntry (d : DepositData AmmPoolId) (yieldFarmId : Nat) : Option Nat :=
  d.yieldFarmEntries.findIdx? fun e => e.yieldFarmId = yieldFarmId

/-- `add_yield_farm_entry`: no second entry for a yield farm, and at most
`MaxFarmEntriesPerDeposit` entries. -/
def addYieldFarmEntry (cfg : Config AssetId AccountId) (d : DepositData AmmPoolId)
    (entry : YieldFarmEntry) : Except Error (DepositData AmmPoolId) := do
  ensure (d.searchYieldFarmEntry entry.yieldFarmId).isNone .doubleLock
  ensure (d.yieldFarmEntries.length < cfg.maxFarmEntriesPerDeposit) .maxEntriesPerDeposit
  pure { d with yieldFarmEntries := d.yieldFarmEntries ++ [entry] }

/-- `Vec::swap_remove`: the last element takes the place of the removed one. -/
def swapRemove {α : Type} (l : List α) (idx : Nat) : List α :=
  match l.getLast? with
  | some last => (l.set idx last).dropLast
  | none => l

/-- `remove_yield_farm_entry`: the deposit without the entry, and the entry. -/
def removeYieldFarmEntry (d : DepositData AmmPoolId) (yieldFarmId : Nat) :
    Except Error (DepositData AmmPoolId × YieldFarmEntry) := do
  let idx ← okOr (d.searchYieldFarmEntry yieldFarmId) .yieldFarmEntryNotFound
  let entry ← okOr d.yieldFarmEntries[idx]? .yieldFarmEntryNotFound
  pure ({ d with yieldFarmEntries := swapRemove d.yieldFarmEntries idx }, entry)

def canBeRemoved (d : DepositData AmmPoolId) : Bool := d.yieldFarmEntries.isEmpty

end DepositData

section Helpers

variable [DecidableEq AssetId] [DecidableEq AccountId] [DecidableEq AmmPoolId]
variable (cfg : Config AssetId AccountId)

/-- `farm_account_id`: farm id zero is the pot itself and is refused. -/
def farmAccountId (farmId : Nat) : Except Error AccountId :=
  if farmId = 0 then .error (.inconsistentState .invalidFarmId) else .ok (cfg.farmAccount farmId)

/-- `get_period_number`. -/
def getPeriodNumber (block blocksPerPeriod : Nat) : Except Error Nat :=
  okOr (Word.checkedDiv block blocksPerPeriod) (.inconsistentState .invalidPeriod)

/-- `get_current_period`. -/
def getCurrentPeriod (s : State AssetId AccountId AmmPoolId) (blocksPerPeriod : Nat) :
    Except Error Nat :=
  getPeriodNumber s.blockNumber blocksPerPeriod

/-- `get_loyalty_multiplier`: one without a curve, and never above one. -/
def getLoyaltyMultiplier (periods : Nat) : Option LoyaltyCurve → Except Error FixedU128
  | none => .ok Fixed.one
  | some curve => do
    let m ← okOr (calculateLoyaltyMultiplier periods curve.initialRewardPercentage curve.scaleCoef)
      .arithmeticOverflow
    ensure (m ≤ Fixed.one) (.inconsistentState .invalidLoyaltyMultiplier)
    pure m

/-- `MultiCurrency::transfer`. -/
def currencyTransfer (b : Balances AssetId AccountId) (asset : AssetId) (src dst : AccountId)
    (amount : Nat) : Except Error (Balances AssetId AccountId) :=
  okOr (Tokens.transfer b asset src dst amount) .currency

/-- The price adjustment `sync_global_farm` uses: the source's, or the stored one. -/
def withPriceAdjustment (gf : GlobalFarmData AssetId AccountId) :
    GlobalFarmData AssetId AccountId :=
  match cfg.priceAdjustment gf with
  | some priceAdjustment => { gf with priceAdjustment }
  | none => gf

/-- Book a nonzero reward of a global farm: move it to the pot, grow `accumulated_rpz` and
`pending_rewards`. -/
def distributeGlobalFarmReward (b : Balances AssetId AccountId)
    (gf : GlobalFarmData AssetId AccountId) (globalFarmAccount : AccountId) (reward : Nat) :
    Except Error (Balances AssetId AccountId × GlobalFarmData AssetId AccountId) := do
  let b ← currencyTransfer b gf.rewardCurrency globalFarmAccount cfg.potAccount reward
  let accumulatedRpz ← okOr (calculateAccumulatedRps gf.accumulatedRpz gf.totalSharesZ reward)
    .arithmeticOverflow
  let pendingRewards ← okOr (Word.checkedAdd 128 gf.pendingRewards reward) .arithmeticOverflow
  pure (b, { gf with accumulatedRpz, pendingRewards })

/-- `sync_global_farm`: the rewards of the periods since the last update, capped by what the
farm account holds above its existential deposit, moved to the pot. Returns the new
balances, the farm and the reward. -/
def syncGlobalFarm (b : Balances AssetId AccountId) (gf : GlobalFarmData AssetId AccountId)
    (currentPeriod : Nat) :
    Except Error (Balances AssetId AccountId × GlobalFarmData AssetId AccountId × Nat) :=
  if gf.state ≠ .active then .ok (b, gf, 0)
  else if gf.updatedAt = currentPeriod then .ok (b, gf, 0)
  else if gf.totalSharesZ = 0 then .ok (b, { gf with updatedAt := currentPeriod }, 0)
  else do
    let globalFarmAccount ← farmAccountId cfg gf.id
    let rewardCurrencyEd := cfg.assetRegistryGet gf.rewardCurrency
    let leftToDistribute := b.free gf.rewardCurrency globalFarmAccount - rewardCurrencyEd
    let periodsSinceLastUpdate ← okOr (Word.checkedSub currentPeriod gf.updatedAt)
      (.inconsistentState .invalidPeriod)
    let gf := withPriceAdjustment cfg gf
    let reward ← okOr (calculateGlobalFarmRewards gf.totalSharesZ gf.priceAdjustment
      (Fixed.ofPerThing gf.yieldPerPeriod) gf.maxRewardPerPeriod periodsSinceLastUpdate)
      .arithmeticOverflow
    let reward := min reward leftToDistribute
    if reward = 0 then .ok (b, { gf with updatedAt := currentPeriod }, 0)
    else do
      let (b, gf) ← distributeGlobalFarmReward cfg b gf globalFarmAccount reward
      pure (b, { gf with updatedAt := currentPeriod }, reward)

/-- `sync_yield_farm`: the yield farm's part of the global farm's pending rewards, by its
stake recomputed from its valued shares, moved to its `left_to_distribute`. -/
def syncYieldFarm (yf : YieldFarmData) (gf : GlobalFarmData AssetId AccountId)
    (currentPeriod : Nat) : Except Error (YieldFarmData × GlobalFarmData AssetId AccountId) :=
  if yf.state ≠ .active then .ok (yf, gf)
  else if yf.updatedAt = currentPeriod then .ok (yf, gf)
  else if yf.totalValuedShares = 0 then
    -- no rewards for the periods without stake
    .ok ({ yf with accumulatedRpz := gf.accumulatedRpz, updatedAt := currentPeriod }, gf)
  else do
    let (deltaRpvs, yieldFarmRewards) ← okOr (calculateYieldFarmRewards yf.accumulatedRpz
      gf.accumulatedRpz yf.multiplier yf.totalValuedShares) .arithmeticOverflow
    let accumulatedPaidRewards ← okOr (Word.checkedAdd 128 gf.accumulatedPaidRewards
      yieldFarmRewards) .arithmeticOverflow
    let pendingRewards ← okOr (Word.checkedSub gf.pendingRewards yieldFarmRewards)
      .arithmeticOverflow
    let accumulatedRpvs ← okOr (yf.accumulatedRpvs.checkedAdd deltaRpvs) .arithmeticOverflow
    let leftToDistribute ← okOr (Word.checkedAdd 128 yf.leftToDistribute yieldFarmRewards)
      .arithmeticOverflow
    pure ({ yf with
        accumulatedRpz := gf.accumulatedRpz, accumulatedRpvs, updatedAt := currentPeriod,
        leftToDistribute },
      { gf with accumulatedPaidRewards, pendingRewards })

/-- Remove a terminated yield farm without entries from storage, as `terminate_yield_farm`
and `withdraw_lp_shares` do; otherwise store it. -/
def storeOrRemoveYieldFarm (gf : GlobalFarmData AssetId AccountId) (key : AmmPoolId × Nat × Nat)
    (yf : YieldFarmData) (yieldFarms : StorageMap (AmmPoolId × Nat × Nat) YieldFarmData) :
    Except Error (GlobalFarmData AssetId AccountId × StorageMap (AmmPoolId × Nat × Nat) YieldFarmData) :=
  if yf.canBeRemoved then do
    let gf ← gf.decreaseTotalYieldFarmCount
    pure (gf, yieldFarms.erase key)
  else .ok (gf, yieldFarms.insert key yf)

/-- A terminated global farm whose yield farms are all gone leaves storage. -/
def storeOrRemoveGlobalFarm (gf : GlobalFarmData AssetId AccountId) (globalFarmId : Nat)
    (globalFarms : StorageMap Nat (GlobalFarmData AssetId AccountId)) :
    StorageMap Nat (GlobalFarmData AssetId AccountId) :=
  if gf.canBeRemoved then globalFarms.erase globalFarmId else globalFarms.insert globalFarmId gf

/-- `get_next_farm_id`: farm ids are `u32`. -/
def getNextFarmId (s : State AssetId AccountId AmmPoolId) : Except Error Nat :=
  okOr (Word.checkedAdd 32 s.farmSequencer 1) .arithmeticOverflow

/-- `get_next_deposit_id`: deposit ids are `u128`. -/
def getNextDepositId (s : State AssetId AccountId AmmPoolId) : Except Error Nat :=
  okOr (Word.checkedAdd 128 s.depositSequencer 1) .arithmeticOverflow

/-- `validate_create_global_farm_data`. -/
def validateCreateGlobalFarmData (totalRewards plannedYieldingPeriods blocksPerPeriod : Nat)
    (yieldPerPeriod : Perquintill) (minDeposit' : Nat) (priceAdjustment : FixedU128) :
    Except Error Unit := do
  ensure (minDeposit ≤ minDeposit') .invalidMinDeposit
  ensure (priceAdjustment.inner ≠ 0) .invalidPriceAdjustment
  ensure (cfg.minTotalFarmRewards ≤ totalRewards) .invalidTotalRewards
  ensure (cfg.minPlannedYieldingPeriods ≤ plannedYieldingPeriods) .invalidPlannedYieldingPeriods
  ensure (blocksPerPeriod ≠ 0) .invalidBlocksPerPeriod
  ensure (yieldPerPeriod.parts ≠ 0) .invalidYieldPerPeriod

/-- `is_yield_farm_claimable`. -/
def isYieldFarmClaimable (s : State AssetId AccountId AmmPoolId) (globalFarmId yieldFarmId : Nat)
    (ammPoolId : AmmPoolId) : Bool :=
  match s.yieldFarm.lookup (ammPoolId, globalFarmId, yieldFarmId) with
  | some yf => yf.state ≠ .terminated && yf.hasEntries
  | none => false

/-- The loyalty curve a yield farm may be created with: initial percentage below one. -/
def validLoyaltyCurve : Option LoyaltyCurve → Bool
  | some curve => curve.initialRewardPercentage < Fixed.one
  | none => true

end Helpers

section Functions

variable [DecidableEq AssetId] [DecidableEq AccountId] [DecidableEq AmmPoolId]
variable (cfg : Config AssetId AccountId)

/-- `create_global_farm`: the owner funds the farm account with `total_rewards`. Returns
the farm id and `max_reward_per_period`. -/
def createGlobalFarm (s : State AssetId AccountId AmmPoolId)
    (totalRewards plannedYieldingPeriods blocksPerPeriod : Nat)
    (incentivizedAsset rewardCurrency : AssetId) (owner : AccountId) (yieldPerPeriod : Perquintill)
    (minDeposit' : Nat) (priceAdjustment : FixedU128) :
    Except Error (State AssetId AccountId AmmPoolId × Nat × Nat) := do
  validateCreateGlobalFarmData cfg totalRewards plannedYieldingPeriods blocksPerPeriod
    yieldPerPeriod minDeposit' priceAdjustment
  ensure (cfg.assetRegistryExists rewardCurrency) .rewardCurrencyNotRegistered
  ensure (cfg.assetRegistryExists incentivizedAsset) .incentivizedAssetNotRegistered
  -- `ensure_can_withdraw`
  ensure (totalRewards ≤ s.balances.free rewardCurrency owner) .insufficientRewardCurrencyBalance
  let maxRewardPerPeriod ← okOr (Word.checkedDiv totalRewards plannedYieldingPeriods)
    .arithmeticDivisionByZero
  let currentPeriod ← getCurrentPeriod s blocksPerPeriod
  let farmId ← getNextFarmId s
  let globalFarm := GlobalFarmData.new farmId currentPeriod rewardCurrency yieldPerPeriod
    plannedYieldingPeriods blocksPerPeriod owner incentivizedAsset maxRewardPerPeriod minDeposit'
    priceAdjustment
  let globalFarmAccount ← farmAccountId cfg farmId
  let b ← currencyTransfer s.balances rewardCurrency owner globalFarmAccount totalRewards
  pure ({ s with
      farmSequencer := farmId, globalFarm := s.globalFarm.insert farmId globalFarm,
      balances := b }, farmId, maxRewardPerPeriod)

/-- `update_global_farm_price_adjustment`. -/
def updateGlobalFarmPriceAdjustment (s : State AssetId AccountId AmmPoolId) (who : AccountId)
    (globalFarmId : Nat) (priceAdjustment : FixedU128) :
    Except Error (State AssetId AccountId AmmPoolId) := do
  ensure (priceAdjustment.inner ≠ 0) .invalidPriceAdjustment
  let gf ← okOr (s.globalFarm.lookup globalFarmId) .globalFarmNotFound
  ensure (gf.state = .active) .globalFarmNotFound
  ensure (who = gf.owner) .forbidden
  let currentPeriod ← getCurrentPeriod s gf.blocksPerPeriod
  let (b, gf, _) ← syncGlobalFarm cfg s.balances gf currentPeriod
  pure { s with
    balances := b,
    globalFarm := s.globalFarm.insert globalFarmId { gf with priceAdjustment } }

/-- `update_global_farm`: new planned periods, yield and minimum deposit; the reward per
period is recomputed from what the farm account holds. -/
def updateGlobalFarm (s : State AssetId AccountId AmmPoolId) (globalFarmId plannedYieldingPeriods : Nat)
    (yieldPerPeriod : Perquintill) (minDeposit' : Nat) :
    Except Error (State AssetId AccountId AmmPoolId) := do
  ensure (minDeposit ≤ minDeposit') .invalidMinDeposit
  ensure (cfg.minPlannedYieldingPeriods ≤ plannedYieldingPeriods) .invalidPlannedYieldingPeriods
  ensure (yieldPerPeriod.parts ≠ 0) .invalidYieldPerPeriod
  let gf ← okOr (s.globalFarm.lookup globalFarmId) .globalFarmNotFound
  ensure (gf.state = .active) .globalFarmNotFound
  let currentPeriod ← getCurrentPeriod s gf.blocksPerPeriod
  let (b, gf, _) ← syncGlobalFarm cfg s.balances gf currentPeriod
  let globalFarmAccount ← farmAccountId cfg gf.id
  let totalRewards := b.free gf.rewardCurrency globalFarmAccount
  let newMaxRewardPeriod ← okOr (Word.checkedDiv totalRewards plannedYieldingPeriods)
    .invalidPlannedYieldingPeriods
  ensure (newMaxRewardPeriod ≠ 0) .invalidPlannedYieldingPeriods
  pure { s with
    balances := b,
    globalFarm := s.globalFarm.insert globalFarmId
      { gf with
        plannedYieldingPeriods, yieldPerPeriod, minDeposit := minDeposit',
        maxRewardPerPeriod := newMaxRewardPeriod } }

/-- `terminate_global_farm`: the undistributed rewards go to the owner. Returns the reward
currency, the amount and the owner. -/
def terminateGlobalFarm (s : State AssetId AccountId AmmPoolId) (who : AccountId) (farmId : Nat) :
    Except Error (State AssetId AccountId AmmPoolId × AssetId × Nat × AccountId) := do
  let gf ← okOr (s.globalFarm.lookup farmId) .globalFarmNotFound
  ensure (who = gf.owner) .forbidden
  ensure (gf.state = .active) .globalFarmNotFound
  ensure (¬ gf.hasLiveFarms) .globalFarmIsNotEmpty
  let globalFarmAccount ← farmAccountId cfg gf.id
  let undistributedRewards := s.balances.free gf.rewardCurrency globalFarmAccount
  let b ← currencyTransfer s.balances gf.rewardCurrency globalFarmAccount who undistributedRewards
  let gf := { gf with state := .terminated }
  pure ({ s with balances := b, globalFarm := storeOrRemoveGlobalFarm gf farmId s.globalFarm },
    gf.rewardCurrency, undistributedRewards, who)

/-- `create_yield_farm`. Returns the yield farm id. -/
def createYieldFarm (s : State AssetId AccountId AmmPoolId) (who : AccountId) (globalFarmId : Nat)
    (multiplier : FixedU128) (loyaltyCurve : Option LoyaltyCurve) (ammPoolId : AmmPoolId)
    (assets : List AssetId) : Except Error (State AssetId AccountId AmmPoolId × Nat) := do
  ensure (minYieldFarmMultiplier ≤ multiplier) .invalidMultiplier
  ensure (validLoyaltyCurve loyaltyCurve) .invalidInitialRewardPercentage
  let gf ← okOr (s.globalFarm.lookup globalFarmId) .globalFarmNotFound
  ensure (gf.state = .active) .globalFarmNotFound
  ensure (who = gf.owner) .forbidden
  ensure (¬ gf.isFull cfg) .globalFarmIsFull
  ensure (gf.incentivizedAsset ∈ assets) .missingIncentivizedAsset
  ensure (s.activeYieldFarm.lookup (ammPoolId, globalFarmId) = none) .yieldFarmAlreadyExists
  let currentPeriod ← getCurrentPeriod s gf.blocksPerPeriod
  let (b, gf, _) ← syncGlobalFarm cfg s.balances gf currentPeriod
  let yieldFarmId ← getNextFarmId s
  let yieldFarm := YieldFarmData.new yieldFarmId currentPeriod loyaltyCurve multiplier
  let gf ← gf.increaseYieldFarmCounts
  pure ({ s with
      balances := b, farmSequencer := yieldFarmId,
      yieldFarm := s.yieldFarm.insert (ammPoolId, globalFarmId, yieldFarmId) yieldFarm,
      globalFarm := s.globalFarm.insert globalFarmId gf,
      activeYieldFarm := s.activeYieldFarm.insert (ammPoolId, globalFarmId) yieldFarmId },
    yieldFarmId)

/-- `update_yield_farm_multiplier`: the yield farm's stake in the global farm is recomputed
from its total valued shares under the new multiplier. -/
def updateYieldFarmMultiplier (s : State AssetId AccountId AmmPoolId) (who : AccountId)
    (globalFarmId : Nat) (ammPoolId : AmmPoolId) (multiplier : FixedU128) :
    Except Error (State AssetId AccountId AmmPoolId × Nat) := do
  ensure (minYieldFarmMultiplier ≤ multiplier) .invalidMultiplier
  let yieldFarmId ← okOr (s.activeYieldFarm.lookup (ammPoolId, globalFarmId)) .yieldFarmNotFound
  let key := (ammPoolId, globalFarmId, yieldFarmId)
  let yf ← okOr (s.yieldFarm.lookup key) (.inconsistentState .yieldFarmNotFound)
  ensure (yf.state = .active) .liquidityMiningCanceled
  let gf ← okOr (s.globalFarm.lookup globalFarmId) (.inconsistentState .globalFarmNotFound)
  ensure (who = gf.owner) .forbidden
  let oldStakeInGlobalFarm ← okOr (calculateGlobalFarmShares yf.totalValuedShares yf.multiplier)
    .arithmeticOverflow
  let currentPeriod ← getCurrentPeriod s gf.blocksPerPeriod
  let (b, gf, _) ← syncGlobalFarm cfg s.balances gf currentPeriod
  let (yf, gf) ← syncYieldFarm yf gf currentPeriod
  let newStakeInGlobalFarm ← okOr (calculateGlobalFarmShares yf.totalValuedShares multiplier)
    .arithmeticOverflow
  let gf ← gf.removeStake oldStakeInGlobalFarm
  let gf ← gf.addStake newStakeInGlobalFarm
  pure ({ s with
      balances := b, yieldFarm := s.yieldFarm.insert key { yf with multiplier },
      globalFarm := s.globalFarm.insert globalFarmId gf }, yf.id)

/-- `stop_yield_farm`: the yield farm's stake, recomputed from its total valued shares, leaves
the global farm. -/
def stopYieldFarm (s : State AssetId AccountId AmmPoolId) (who : AccountId) (globalFarmId : Nat)
    (ammPoolId : AmmPoolId) : Except Error (State AssetId AccountId AmmPoolId × Nat) := do
  let yieldFarmId ← okOr (s.activeYieldFarm.lookup (ammPoolId, globalFarmId)) .yieldFarmNotFound
  let key := (ammPoolId, globalFarmId, yieldFarmId)
  let yf ← okOr (s.yieldFarm.lookup key) (.inconsistentState .yieldFarmNotFound)
  ensure (yf.state = .active) (.inconsistentState .liquidityIsNotActive)
  let gf ← okOr (s.globalFarm.lookup globalFarmId) (.inconsistentState .globalFarmNotFound)
  ensure (gf.owner = who) .forbidden
  let currentPeriod ← getCurrentPeriod s gf.blocksPerPeriod
  let (b, gf, _) ← syncGlobalFarm cfg s.balances gf currentPeriod
  let (yf, gf) ← syncYieldFarm yf gf currentPeriod
  let oldStakeInGlobalFarm ← okOr (calculateGlobalFarmShares yf.totalValuedShares yf.multiplier)
    .arithmeticOverflow
  let gf ← gf.removeStake oldStakeInGlobalFarm
  pure ({ s with
      balances := b,
      yieldFarm := s.yieldFarm.insert key { yf with state := .stopped, multiplier := Fixed.zero },
      globalFarm := s.globalFarm.insert globalFarmId gf,
      activeYieldFarm := s.activeYieldFarm.erase (ammPoolId, globalFarmId) }, yieldFarmId)

/-- `resume_yield_farm`: the stake returns under the new multiplier; the stopped periods are
not rewarded. -/
def resumeYieldFarm (s : State AssetId AccountId AmmPoolId) (who : AccountId)
    (globalFarmId yieldFarmId : Nat) (ammPoolId : AmmPoolId) (multiplier : FixedU128) :
    Except Error (State AssetId AccountId AmmPoolId) := do
  ensure (minYieldFarmMultiplier ≤ multiplier) .invalidMultiplier
  ensure (s.activeYieldFarm.lookup (ammPoolId, globalFarmId) = none) .yieldFarmAlreadyExists
  let key := (ammPoolId, globalFarmId, yieldFarmId)
  let yf ← okOr (s.yieldFarm.lookup key) .yieldFarmNotFound
  ensure (yf.state = .stopped) .liquidityMiningIsNotStopped
  let gf ← okOr (s.globalFarm.lookup globalFarmId) (.inconsistentState .globalFarmNotFound)
  ensure (gf.owner = who) .forbidden
  let currentPeriod ← getCurrentPeriod s gf.blocksPerPeriod
  let (b, gf, _) ← syncGlobalFarm cfg s.balances gf currentPeriod
  let stoppedPeriods ← okOr (Word.checkedSub currentPeriod yf.updatedAt)
    (.inconsistentState .invalidPeriod)
  let newStakeInGlobalFarm ← okOr (calculateGlobalFarmShares yf.totalValuedShares multiplier)
    .arithmeticOverflow
  let gf ← gf.addStake newStakeInGlobalFarm
  let totalStopped ← okOr (Word.checkedAdd 32 yf.totalStopped stoppedPeriods) .arithmeticOverflow
  let yf := { yf with
    accumulatedRpz := gf.accumulatedRpz, updatedAt := currentPeriod,
    state := .active, multiplier, totalStopped }
  pure { s with
    balances := b, yieldFarm := s.yieldFarm.insert key yf,
    globalFarm := s.globalFarm.insert globalFarmId gf,
    activeYieldFarm := s.activeYieldFarm.insert (ammPoolId, globalFarmId) yf.id }

/-- `terminate_yield_farm`: the yield farm's undistributed rewards go back to the global
farm account. -/
def terminateYieldFarm (s : State AssetId AccountId AmmPoolId) (who : AccountId)
    (globalFarmId yieldFarmId : Nat) (ammPoolId : AmmPoolId) :
    Except Error (State AssetId AccountId AmmPoolId) := do
  ensure (s.activeYieldFarm.lookup (ammPoolId, globalFarmId) ≠ some yieldFarmId)
    .liquidityMiningIsActive
  let gf ← okOr (s.globalFarm.lookup globalFarmId) .globalFarmNotFound
  ensure (gf.owner = who) .forbidden
  let key := (ammPoolId, globalFarmId, yieldFarmId)
  let yf ← okOr (s.yieldFarm.lookup key) .yieldFarmNotFound
  ensure (yf.state = .stopped) .liquidityMiningIsNotStopped
  let globalFarmAccount ← farmAccountId cfg gf.id
  let accumulatedPaidRewards ← okOr (Word.checkedSub gf.accumulatedPaidRewards yf.leftToDistribute)
    .arithmeticOverflow
  let b ← currencyTransfer s.balances gf.rewardCurrency cfg.potAccount globalFarmAccount
    yf.leftToDistribute
  let yf := { yf with leftToDistribute := 0, state := .terminated }
  let gf ← ({ gf with accumulatedPaidRewards } : GlobalFarmData AssetId AccountId)
    |>.decreaseLiveYieldFarmCount
  let (gf, yieldFarms) ← storeOrRemoveYieldFarm gf key yf s.yieldFarm
  pure { s with
    balances := b, yieldFarm := yieldFarms,
    globalFarm := s.globalFarm.insert globalFarmId gf }

/-- `do_deposit_lp_shares`: lock a deposit's shares in a yield farm, with `valuedShares` the
value the calling pallet reports for them. -/
def doDepositLpShares (s : State AssetId AccountId AmmPoolId) (d : DepositData AmmPoolId)
    (globalFarmId yieldFarmId valuedShares : Nat) :
    Except Error (State AssetId AccountId AmmPoolId × DepositData AmmPoolId) := do
  ensure (d.searchYieldFarmEntry yieldFarmId).isNone .doubleLock
  let key := (d.ammPoolId, globalFarmId, yieldFarmId)
  let yf ← okOr (s.yieldFarm.lookup key) .yieldFarmNotFound
  ensure (yf.state = .active) .liquidityMiningCanceled
  let gf ← okOr (s.globalFarm.lookup globalFarmId) (.inconsistentState .globalFarmNotFound)
  ensure (gf.state = .active) (.inconsistentState .globalFarmNotFound)
  let currentPeriod ← getCurrentPeriod s gf.blocksPerPeriod
  let (b, gf, _) ← syncGlobalFarm cfg s.balances gf currentPeriod
  let (yf, gf) ← syncYieldFarm yf gf currentPeriod
  ensure (gf.minDeposit ≤ valuedShares) .incorrectValuedShares
  let depositStakeInGlobalFarm ← okOr (calculateGlobalFarmShares valuedShares yf.multiplier)
    .arithmeticOverflow
  let totalShares ← okOr (Word.checkedAdd 128 yf.totalShares d.shares) .arithmeticOverflow
  let totalValuedShares ← okOr (Word.checkedAdd 128 yf.totalValuedShares valuedShares)
    .arithmeticOverflow
  let gf ← gf.addStake depositStakeInGlobalFarm
  let farmEntry := YieldFarmEntry.new gf.id yf.id valuedShares yf.accumulatedRpvs currentPeriod
    yf.totalStopped
  let d ← d.addYieldFarmEntry cfg farmEntry
  let yf ← ({ yf with totalShares, totalValuedShares } : YieldFarmData).increaseEntriesCount
  pure ({ s with
    balances := b, yieldFarm := s.yieldFarm.insert key yf,
    globalFarm := s.globalFarm.insert globalFarmId gf }, d)

/-- `deposit_lp_shares`: a new deposit with one farm entry. Returns the deposit id. -/
def depositLpShares (s : State AssetId AccountId AmmPoolId) (globalFarmId yieldFarmId : Nat)
    (ammPoolId : AmmPoolId) (sharesAmount valuedShares : Nat) :
    Except Error (State AssetId AccountId AmmPoolId × Nat) := do
  let (s, d) ← doDepositLpShares cfg s (DepositData.new sharesAmount ammPoolId) globalFarmId
    yieldFarmId valuedShares
  let depositId ← getNextDepositId s
  pure ({ s with depositSequencer := depositId, deposit := s.deposit.insert depositId d }, depositId)

/-- `redeposit_lp_shares`: one more farm entry for an existing deposit. Returns the deposit's
shares and pool. -/
def redepositLpShares (s : State AssetId AccountId AmmPoolId) (globalFarmId yieldFarmId depositId : Nat)
    (valuedShares : Nat) : Except Error (State AssetId AccountId AmmPoolId × Nat × AmmPoolId) := do
  let d ← okOr (s.deposit.lookup depositId) (.inconsistentState .depositNotFound)
  let (s, d) ← doDepositLpShares cfg s d globalFarmId yieldFarmId valuedShares
  pure ({ s with deposit := s.deposit.insert depositId d }, d.shares, d.ammPoolId)

/-- The payment of a claim: out of the yield farm's `left_to_distribute`, from the pot to `dest`. -/
def payClaim (b : Balances AssetId AccountId) (yf : YieldFarmData) (entry : YieldFarmEntry)
    (rewardCurrency : AssetId) (dest : AccountId) (rewards currentPeriod : Nat) :
    Except Error (Balances AssetId AccountId × YieldFarmData × YieldFarmEntry) := do
  let leftToDistribute ← okOr (Word.checkedSub yf.leftToDistribute rewards)
    (.inconsistentState .notEnoughRewardsInYieldFarm)
  let accumulatedClaimedRewards ← okOr (Word.checkedAdd 128 entry.accumulatedClaimedRewards rewards)
    .arithmeticOverflow
  let b ← currencyTransfer b rewardCurrency cfg.potAccount dest rewards
  pure (b, { yf with leftToDistribute },
    { entry with accumulatedClaimedRewards, updatedAt := currentPeriod })

/-- `claim_rewards`: pay a farm entry what it has earned, scaled by the loyalty multiplier;
a reward below the existential deposit to an account without one goes to the treasury.
Returns the global farm, the reward currency, the amount the user got and the amount
forfeited. -/
def claimRewards (s : State AssetId AccountId AmmPoolId) (who : AccountId) (depositId yieldFarmId : Nat)
    (failOnDoubleclaim : Bool) :
    Except Error (State AssetId AccountId AmmPoolId × Nat × AssetId × Nat × Nat) := do
  let d ← okOr (s.deposit.lookup depositId) (.inconsistentState .depositNotFound)
  let idx ← okOr (d.searchYieldFarmEntry yieldFarmId) .yieldFarmEntryNotFound
  let entry ← okOr d.yieldFarmEntries[idx]? .yieldFarmEntryNotFound
  let key := (d.ammPoolId, entry.globalFarmId, yieldFarmId)
  let yf ← okOr (s.yieldFarm.lookup key) (.inconsistentState .yieldFarmNotFound)
  ensure (yf.state ≠ .terminated) .liquidityMiningCanceled
  let gf ← okOr (s.globalFarm.lookup entry.globalFarmId) (.inconsistentState .globalFarmNotFound)
  let currentPeriod ← getCurrentPeriod s gf.blocksPerPeriod
  ensure (¬ (failOnDoubleclaim ∧ entry.updatedAt = currentPeriod)) .doubleClaimInPeriod
  let (b, gf, _) ← syncGlobalFarm cfg s.balances gf currentPeriod
  let (yf, gf) ← syncYieldFarm yf gf currentPeriod
  let deltaStopped ← okOr (Word.checkedSub yf.totalStopped entry.stoppedAtCreation)
    (.inconsistentState .invalidPeriod)
  let periods ← okOr (Word.checkedSub yf.updatedAt entry.enteredAt) (.inconsistentState .invalidPeriod)
  let periods ← okOr (Word.checkedSub periods deltaStopped) (.inconsistentState .invalidPeriod)
  let loyaltyMultiplier ← getLoyaltyMultiplier periods yf.loyaltyCurve
  let (rewards, unclaimableRewards) ← okOr (calculateUserReward entry.accumulatedRpvs
    entry.valuedShares entry.accumulatedClaimedRewards yf.accumulatedRpvs loyaltyMultiplier)
    .arithmeticOverflow
  let ed ← okOr (cfg.existentialDeposit gf.rewardCurrency)
    (.inconsistentState .noExistentialDepositForAsset)
  let shouldSendRewardToTreasury : Bool := rewards < ed ∧ b.free gf.rewardCurrency who < ed
  let dest := if shouldSendRewardToTreasury then cfg.treasuryAccountId else who
  let (b, yf, entry) ← (if rewards = 0 then .ok (b, yf, entry)
    else payClaim cfg b yf entry gf.rewardCurrency dest rewards currentPeriod)
  let rewardsSentForUser := if shouldSendRewardToTreasury then 0 else rewards
  pure ({ s with
      balances := b,
      deposit := s.deposit.insert depositId { d with yieldFarmEntries := d.yieldFarmEntries.set idx entry },
      yieldFarm := s.yieldFarm.insert key yf, globalFarm := s.globalFarm.insert entry.globalFarmId gf },
    gf.id, gf.rewardCurrency, rewardsSentForUser, unclaimableRewards)

/-- The return of forfeited rewards in `withdraw_lp_shares`: out of the yield farm's
`left_to_distribute` and the global farm's paid rewards, from the pot to the farm account. -/
def returnUnclaimable (b : Balances AssetId AccountId) (yf : YieldFarmData)
    (gf : GlobalFarmData AssetId AccountId) (unclaimableRewards : Nat) :
    Except Error (Balances AssetId AccountId × YieldFarmData × GlobalFarmData AssetId AccountId) := do
  let leftToDistribute ← okOr (Word.checkedSub yf.leftToDistribute unclaimableRewards)
    (.inconsistentState .notEnoughRewardsInYieldFarm)
  let accumulatedPaidRewards ← okOr (Word.checkedSub gf.accumulatedPaidRewards unclaimableRewards)
    (.inconsistentState .invalidPaidAccumulatedRewards)
  let globalFarmAccount ← farmAccountId cfg gf.id
  let b ← currencyTransfer b gf.rewardCurrency cfg.potAccount globalFarmAccount unclaimableRewards
  pure (b, { yf with leftToDistribute }, { gf with accumulatedPaidRewards })

/-- `withdraw_lp_shares`: remove a deposit's entry from a yield farm, with its stake if the
yield farm is active, and return the caller-computed `unclaimable_rewards` to the global
farm. Returns the global farm, the deposit's shares and whether the deposit is gone. -/
def withdrawLpShares (s : State AssetId AccountId AmmPoolId) (depositId yieldFarmId unclaimableRewards : Nat)
    (ammPoolId : AmmPoolId) : Except Error (State AssetId AccountId AmmPoolId × Nat × Nat × Bool) := do
  let d ← okOr (s.deposit.lookup depositId) (.inconsistentState .depositNotFound)
  let (d, farmEntry) ← d.removeYieldFarmEntry yieldFarmId
  ensure (ammPoolId = d.ammPoolId) .ammPoolIdMismatch
  let gf ← okOr (s.globalFarm.lookup farmEntry.globalFarmId) (.inconsistentState .globalFarmNotFound)
  let key := (ammPoolId, farmEntry.globalFarmId, yieldFarmId)
  let yf ← okOr (s.yieldFarm.lookup key) (.inconsistentState .yieldFarmNotFound)
  let totalShares ← okOr (Word.checkedSub yf.totalShares d.shares)
    (.inconsistentState .invalidTotalShares)
  let totalValuedShares ← okOr (Word.checkedSub yf.totalValuedShares farmEntry.valuedShares)
    (.inconsistentState .invalidValuedShares)
  let yf := { yf with totalShares, totalValuedShares }
  -- a stopped yield farm's stake already left the global farm
  let gf ← (if yf.state = .active then do
      let stake ← okOr (calculateGlobalFarmShares farmEntry.valuedShares yf.multiplier)
        .arithmeticOverflow
      gf.removeStake stake
    else .ok gf)
  ensure (unclaimableRewards = 0 ∨ yf.state ≠ .terminated)
    (.inconsistentState .notEnoughRewardsInYieldFarm)
  let (b, yf, gf) ← (if unclaimableRewards = 0 then .ok (s.balances, yf, gf)
    else returnUnclaimable cfg s.balances yf gf unclaimableRewards)
  let yf ← yf.decreaseEntriesCount
  let (gf, yieldFarms) ← storeOrRemoveYieldFarm gf key yf s.yieldFarm
  let depositDestroyed := d.canBeRemoved
  pure ({ s with
      balances := b, yieldFarm := yieldFarms,
      globalFarm := storeOrRemoveGlobalFarm gf farmEntry.globalFarmId s.globalFarm,
      deposit := if depositDestroyed then s.deposit.erase depositId else s.deposit.insert depositId d },
    farmEntry.globalFarmId, d.shares, depositDestroyed)

/-- `Mutate::withdraw_lp_shares`: claim first (allowing a second claim in the period) when
the yield farm is claimable, and return what the claim forfeited. -/
def Mutate.withdrawLpShares (s : State AssetId AccountId AmmPoolId) (who : AccountId)
    (depositId globalFarmId yieldFarmId : Nat) (ammPoolId : AmmPoolId) :
    Except Error (State AssetId AccountId AmmPoolId × Nat × Option (AssetId × Nat × Nat) × Bool) := do
  let (s, claimData) ← (if isYieldFarmClaimable s globalFarmId yieldFarmId ammPoolId then do
      let (s, _, rewardCurrency, claimed, unclaimable) ← claimRewards cfg s who depositId yieldFarmId false
      pure (s, some (rewardCurrency, claimed, unclaimable))
    else .ok (s, none))
  let unclaimable := match claimData with
    | some (_, _, unclaimable) => unclaimable
    | none => 0
  let (s, _, withdrawnAmount, depositDestroyed) ←
    Hydration.LiquidityMining.withdrawLpShares cfg s depositId yieldFarmId
    unclaimable ammPoolId
  pure (s, withdrawnAmount, claimData, depositDestroyed)

end Functions

/-! ## Calls -/

/-- The functions other pallets call, and the passing of blocks. -/
inductive Call (AssetId AccountId AmmPoolId : Type)
  | createGlobalFarm (totalRewards plannedYieldingPeriods blocksPerPeriod : Nat)
      (incentivizedAsset rewardCurrency : AssetId) (owner : AccountId) (yieldPerPeriod : Perquintill)
      (minDeposit : Nat) (priceAdjustment : FixedU128)
  | updateGlobalFarmPriceAdjustment (who : AccountId) (globalFarmId : Nat)
      (priceAdjustment : FixedU128)
  | updateGlobalFarm (globalFarmId plannedYieldingPeriods : Nat) (yieldPerPeriod : Perquintill)
      (minDeposit : Nat)
  | terminateGlobalFarm (who : AccountId) (farmId : Nat)
  | createYieldFarm (who : AccountId) (globalFarmId : Nat) (multiplier : FixedU128)
      (loyaltyCurve : Option LoyaltyCurve) (ammPoolId : AmmPoolId) (assets : List AssetId)
  | updateYieldFarmMultiplier (who : AccountId) (globalFarmId : Nat) (ammPoolId : AmmPoolId)
      (multiplier : FixedU128)
  | stopYieldFarm (who : AccountId) (globalFarmId : Nat) (ammPoolId : AmmPoolId)
  | resumeYieldFarm (who : AccountId) (globalFarmId yieldFarmId : Nat) (ammPoolId : AmmPoolId)
      (multiplier : FixedU128)
  | terminateYieldFarm (who : AccountId) (globalFarmId yieldFarmId : Nat) (ammPoolId : AmmPoolId)
  | depositLpShares (globalFarmId yieldFarmId : Nat) (ammPoolId : AmmPoolId)
      (sharesAmount valuedShares : Nat)
  | redepositLpShares (globalFarmId yieldFarmId depositId valuedShares : Nat)
  | claimRewards (who : AccountId) (depositId yieldFarmId : Nat) (failOnDoubleclaim : Bool)
  | withdrawLpShares (depositId yieldFarmId unclaimableRewards : Nat) (ammPoolId : AmmPoolId)
  | advanceBlocks (n : Nat)

section Step

variable [DecidableEq AssetId] [DecidableEq AccountId] [DecidableEq AmmPoolId]
variable (cfg : Config AssetId AccountId)

/-- One call; what the functions return besides the state is dropped. -/
def step : Call AssetId AccountId AmmPoolId → State AssetId AccountId AmmPoolId →
    Except Error (State AssetId AccountId AmmPoolId)
  | .createGlobalFarm totalRewards planned blocksPerPeriod incentivizedAsset rewardCurrency owner
      yieldPerPeriod minDeposit' priceAdjustment, s =>
    Prod.fst <$> createGlobalFarm cfg s totalRewards planned blocksPerPeriod incentivizedAsset
      rewardCurrency owner yieldPerPeriod minDeposit' priceAdjustment
  | .updateGlobalFarmPriceAdjustment who globalFarmId priceAdjustment, s =>
    updateGlobalFarmPriceAdjustment cfg s who globalFarmId priceAdjustment
  | .updateGlobalFarm globalFarmId planned yieldPerPeriod minDeposit', s =>
    updateGlobalFarm cfg s globalFarmId planned yieldPerPeriod minDeposit'
  | .terminateGlobalFarm who farmId, s => Prod.fst <$> terminateGlobalFarm cfg s who farmId
  | .createYieldFarm who globalFarmId multiplier loyaltyCurve ammPoolId assets, s =>
    Prod.fst <$> createYieldFarm cfg s who globalFarmId multiplier loyaltyCurve ammPoolId assets
  | .updateYieldFarmMultiplier who globalFarmId ammPoolId multiplier, s =>
    Prod.fst <$> updateYieldFarmMultiplier cfg s who globalFarmId ammPoolId multiplier
  | .stopYieldFarm who globalFarmId ammPoolId, s =>
    Prod.fst <$> stopYieldFarm cfg s who globalFarmId ammPoolId
  | .resumeYieldFarm who globalFarmId yieldFarmId ammPoolId multiplier, s =>
    resumeYieldFarm cfg s who globalFarmId yieldFarmId ammPoolId multiplier
  | .terminateYieldFarm who globalFarmId yieldFarmId ammPoolId, s =>
    terminateYieldFarm cfg s who globalFarmId yieldFarmId ammPoolId
  | .depositLpShares globalFarmId yieldFarmId ammPoolId sharesAmount valuedShares, s =>
    Prod.fst <$> depositLpShares cfg s globalFarmId yieldFarmId ammPoolId sharesAmount valuedShares
  | .redepositLpShares globalFarmId yieldFarmId depositId valuedShares, s =>
    Prod.fst <$> redepositLpShares cfg s globalFarmId yieldFarmId depositId valuedShares
  | .claimRewards who depositId yieldFarmId failOnDoubleclaim, s =>
    Prod.fst <$> claimRewards cfg s who depositId yieldFarmId failOnDoubleclaim
  | .withdrawLpShares depositId yieldFarmId unclaimableRewards ammPoolId, s =>
    Prod.fst <$> withdrawLpShares cfg s depositId yieldFarmId unclaimableRewards ammPoolId
  | .advanceBlocks n, s => .ok { s with blockNumber := s.blockNumber + n }

end Step

/-! ## An example runtime -/

/-- Accounts are numbers: the pot is `0`, the treasury `2`, farm accounts odd from `3`. -/
def exampleConfig : Config Nat Nat where
  potAccount := 0
  farmAccount id := 2 * id + 3
  treasuryAccountId := 2
  minTotalFarmRewards := 1000
  minPlannedYieldingPeriods := 100
  maxFarmEntriesPerDeposit := 5
  maxYieldFarmsPerGlobalFarm := 10
  assetRegistryExists _ := true
  existentialDeposit _ := some 1
  assetRegistryGet _ := 0
  priceAdjustment _ := none

/-- No farms yet; account `4` holds `10^6` of asset `0`. -/
def exampleGenesis : State Nat Nat Nat where
  blockNumber := 0
  farmSequencer := 0
  depositSequencer := 0
  globalFarm := ∅
  yieldFarm := ∅
  deposit := ∅
  activeYieldFarm := ∅
  balances := ⟨fun a x => if a = 0 ∧ x = 4 then 1000000 else 0⟩

end Hydration.LiquidityMining
