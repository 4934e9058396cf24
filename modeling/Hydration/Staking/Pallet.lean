import Hydration.Staking.Math
import Hydration.Frame.Storage
import Hydration.Tokens

/-!
# The staking pallet

`pallets/staking/src/lib.rs` and `types.rs`. Stakers lock native tokens in a position; the
pallet's pot collects trade fees, and the part of the pot's balance that is not yet reserved
for stakers is distributed by growing `accumulated_reward_per_stake` (`update_rewards`), which
every call runs first. A position is paid, on `claim`, `increase_stake` or `unstake`, the
payable percentage of what it accrued since it last settled; the rest stays reserved as its
unpaid rewards, or goes back to the pot to be distributed again.

Each extrinsic is a map `State → Except Error State`; an error rolls the whole call back, as
the dispatch is transactional. The position NFTs are the map `positionOwner`. No call
modelled here records a vote (votes come from the conviction-voting hooks), so `Votes` and
`VotesRewarded` stay empty: `process_votes` changes nothing and the vote checks pass; they are
not modelled. Locks do not change free balances and nothing modelled reads them, so
`set_lock` is kept only for its failure (`get_total_locked`). Events are not modelled.
-/

namespace Hydration.Staking

open Frame FixedPoint

/-- `StakingData`. -/
structure StakingData where
  totalStake : Nat
  accumulatedRewardPerStake : FixedU128
  potReservedBalance : Nat
  deriving DecidableEq

/-- `Position`. -/
structure Position where
  stake : Nat
  actionPoints : Nat
  rewardPerStake : FixedU128
  createdAt : Nat
  accumulatedSlashPoints : Nat
  accumulatedUnpaidRewards : Nat
  accumulatedLockedRewards : Nat
  deriving DecidableEq

/-- `InconsistentStateError`. -/
inductive InconsistentStateError
  | positionNotFound
  | negativePendingRewards
  | negativeUnpaidRewards
  | tooManyPositions
  | arithmetic
  deriving DecidableEq, Repr

/-- The errors of the pallet, with those of the runtime it passes on. -/
inductive Error
  | insufficientBalance
  | insufficientStake
  | positionNotFound
  | maxVotesReached
  | notInitialized
  | alreadyInitialized
  | arithmetic
  | missingPotBalance
  | positionAlreadyExists
  | forbidden
  | existingVotes
  | existingProcessedVotes
  | activeVotesOngoing
  | blockedByExternalLock
  | inconsistentState (e : InconsistentStateError)
  /-- `ArithmeticError::Overflow`, from `add_stake` and `get_total_locked`. -/
  | arithmeticOverflow
  | badOrigin
  | currency
  /-- An error of the NFT pallet. -/
  | nonfungibles
  deriving DecidableEq, Repr

/-- The runtime's side of `Config`. -/
structure Config (AssetId AccountId : Type) where
  /-- `pot_account_id()`: the account of the `PalletId`. -/
  potAccount : AccountId
  nativeAssetId : AssetId
  minStake : Nat
  periodLength : Nat
  /-- The storage value `SixSecBlocksSince`, set by a migration. -/
  sixSecBlocksSince : Nat
  timePointsWeight : Permill
  actionPointsWeight : Perbill
  timePointsPerPeriod : Nat
  unclaimablePeriods : Nat
  currentStakeWeight : Nat
  /-- `PayablePercentage::get`. -/
  payablePercentage : Nat → Option FixedU128
  /-- `MinSlash::get`. -/
  minSlash : FixedU128 → Nat
  /-- `AuthorityOrigin`. -/
  isAuthority : AccountId → Bool
  /-- `Vesting::locked`. -/
  vestingLocked : AccountId → Nat
  /-- `ExternalClaims::on`. -/
  externalClaims : AccountId → Nat

/-- The storage of the pallet, the owners of the position NFTs, the block number and the
balances. `staking` is `none` until `initialize_staking` (`Staking::exists()`). -/
structure State (AssetId AccountId : Type) where
  blockNumber : Nat
  staking : Option StakingData
  positions : StorageMap Nat Position
  nextPositionId : Nat
  positionOwner : StorageMap Nat AccountId
  balances : Balances AssetId AccountId

variable {AssetId AccountId : Type}

/-- `Position::new`. -/
def Position.new (stake : Nat) (rewardPerStake : FixedU128) (createdAt : Nat) : Position :=
  ⟨stake, 0, rewardPerStake, createdAt, 0, 0, 0⟩

/-- `Position::get_total_locked`. -/
def Position.getTotalLocked (p : Position) : Except Error Nat :=
  okOr (Word.checkedAdd 128 p.stake p.accumulatedLockedRewards) .arithmeticOverflow

/-- `StakingData::add_stake`. -/
def StakingData.addStake (staking : StakingData) (amount : Nat) : Except Error StakingData := do
  let totalStake ← okOr (Word.checkedAdd 128 staking.totalStake amount) .arithmeticOverflow
  pure { staking with totalStake }

section Helpers

variable [DecidableEq AssetId] [DecidableEq AccountId]
variable (cfg : Config AssetId AccountId)

/-- `MultiCurrency::transfer`. -/
def currencyTransfer (b : Balances AssetId AccountId) (asset : AssetId) (src dst : AccountId)
    (amount : Nat) : Except Error (Balances AssetId AccountId) :=
  okOr (Tokens.transfer b asset src dst amount) .currency

/-- A payment from the pot, skipped when there is nothing to pay. -/
def payFromPot (b : Balances AssetId AccountId) (who : AccountId) (amount : Nat) :
    Except Error (Balances AssetId AccountId) :=
  if amount = 0 then pure b else currencyTransfer b cfg.nativeAssetId cfg.potAccount who amount

/-- The `if !rewards.is_zero()` block of `increase_stake`: pay the rewards and add them to
the locked ones. -/
def payAndLockRewards (b : Balances AssetId AccountId) (who : AccountId) (lockedRewards rewards : Nat) :
    Except Error (Balances AssetId AccountId × Nat) :=
  if rewards = 0 then pure (b, lockedRewards)
  else do
    let b ← currencyTransfer b cfg.nativeAssetId cfg.potAccount who rewards
    let lockedRewards ← okOr (Word.checkedAdd 128 lockedRewards rewards) .arithmetic
    pure (b, lockedRewards)

/-- `get_user_position_id`: the one position NFT `who` owns, if any. -/
def getUserPositionId (s : State AssetId AccountId) (who : AccountId) : Except Error (Option Nat) :=
  match s.positionOwner.entries.filterMap fun e => if e.2 = who then some e.1 else none with
  | [] => pure none
  | [positionId] => pure (some positionId)
  | _ :: _ :: _ => .error (.inconsistentState .tooManyPositions)

/-- `is_owner`. -/
def isOwner (s : State AssetId AccountId) (who : AccountId) (positionId : Nat) : Bool :=
  s.positionOwner.lookup positionId = some who

/-- `ensure_stakeable_balance`: free balance less vested, less what the position already
locks, must cover the stake. -/
def ensureStakeableBalance (s : State AssetId AccountId) (who : AccountId) (stake : Nat)
    (position : Option Position) : Except Error Unit := do
  ensure (cfg.externalClaims who = 0) .blockedByExternalLock
  let freeBalance := s.balances.free cfg.nativeAssetId who
  let staked := (position.map fun p => Word.saturatingAdd 128 p.stake p.accumulatedLockedRewards).getD 0
  let vested := cfg.vestingLocked who
  let stakeable ← okOr (Word.checkedSub freeBalance vested) .arithmetic
  ensure (stake ≤ stakeable - staked) .insufficientBalance

/-- `create_position_and_mint_nft`: the next position id, its position and its NFT. -/
def createPositionAndMintNft (s : State AssetId AccountId) (who : AccountId) (stakedAmount : Nat)
    (accumulatedRewardPerStake : FixedU128) : Except Error (State AssetId AccountId × Nat) := do
  let positionId := s.nextPositionId
  let nextPositionId ← okOr (Word.checkedAdd 128 positionId 1) .arithmetic
  let positions := s.positions.insert positionId
    (Position.new stakedAmount accumulatedRewardPerStake s.blockNumber)
  -- `mint_into` refuses an item that exists
  ensure (s.positionOwner.lookup positionId = none) .nonfungibles
  let positionOwner := s.positionOwner.insert positionId who
  pure ({ s with nextPositionId, positions, positionOwner }, positionId)

/-- `update_rewards`: distribute what the pot holds beyond its reserve, if the reward per
stake moves. -/
def updateRewards (b : Balances AssetId AccountId) (staking : StakingData) :
    Except Error StakingData :=
  if staking.totalStake = 0 then pure staking
  else do
    let pendingRewards ← okOr
      (Word.checkedSub (b.free cfg.nativeAssetId cfg.potAccount) staking.potReservedBalance)
      (.inconsistentState .negativePendingRewards)
    if pendingRewards = 0 then pure staking
    else do
      let accumulatedRps ← okOr (Math.calculateAccumulatedRps staking.accumulatedRewardPerStake
        pendingRewards staking.totalStake) .arithmetic
      if staking.accumulatedRewardPerStake = accumulatedRps then pure staking
      else do
        let potReservedBalance ← okOr (Word.checkedAdd 128 staking.potReservedBalance pendingRewards)
          .arithmetic
        pure { staking with accumulatedRewardPerStake := accumulatedRps, potReservedBalance }

/-- `get_period_number`: none if a period length is zero. -/
def getPeriodNumber (block : Nat) : Option Nat :=
  if cfg.periodLength = 0 ∨ cfg.sixSecBlocksSince = 0 then none
  else some (Math.calculatePeriodNumber cfg.periodLength block cfg.sixSecBlocksSince)

/-- `get_current_period`. -/
def getCurrentPeriod (s : State AssetId AccountId) : Option Nat := getPeriodNumber cfg s.blockNumber

/-- `get_points`. -/
def getPoints (position : Position) (currentPeriod positionCreatedAt : Nat) : Option Nat :=
  Math.calculatePoints positionCreatedAt currentPeriod cfg.timePointsPerPeriod cfg.timePointsWeight
    position.actionPoints cfg.actionPointsWeight position.accumulatedSlashPoints

/-- `calculate_rewards`: `(claimable, accumulated_unpaid, payable_percentage)`. Within the
unclaimable periods nothing is claimable and all is kept unpaid. -/
def calculateRewards (position : Position) (accumulatedRewardPerStake : FixedU128)
    (currentPeriod positionCreatedAt : Nat) : Option (Nat × Nat × FixedU128) := do
  let newRewards ← Math.calculateRewards accumulatedRewardPerStake position.rewardPerStake
    position.stake
  if currentPeriod - positionCreatedAt ≤ cfg.unclaimablePeriods then
    pure (0, Word.saturatingAdd 128 position.accumulatedUnpaidRewards newRewards, Fixed.zero)
  else do
    let points ← getPoints cfg position currentPeriod positionCreatedAt
    let payablePercentage ← cfg.payablePercentage points
    let totalRewards := Math.calculateTotalRewards newRewards position.accumulatedLockedRewards
      position.accumulatedUnpaidRewards
    let userRewards := Math.calculatePercentageAmount totalRewards payablePercentage
    let claimableRewards := userRewards - position.accumulatedLockedRewards
    let accumulatedUnpaidRewards := totalRewards - position.accumulatedLockedRewards - claimableRewards
    pure (claimableRewards, accumulatedUnpaidRewards, payablePercentage)

/-- `NFTHandler::burn` of the position's NFT, checking its owner. -/
def burnPosition (s : State AssetId AccountId) (who : AccountId) (positionId : Nat) :
    Except Error (StorageMap Nat AccountId) := do
  ensure (s.positionOwner.lookup positionId = some who) .nonfungibles
  pure (s.positionOwner.erase positionId)

end Helpers

section Calls

variable [DecidableEq AssetId] [DecidableEq AccountId]
variable (cfg : Config AssetId AccountId)

/-- `initialize_staking`: reserve the pot's balance, so that it is never distributed. -/
def initializeStaking (s : State AssetId AccountId) (who : AccountId) :
    Except Error (State AssetId AccountId) := do
  ensure (cfg.isAuthority who) .badOrigin
  ensure (s.staking = none) .alreadyInitialized
  let potBalance := s.balances.free cfg.nativeAssetId cfg.potAccount
  ensure (potBalance ≠ 0) .missingPotBalance
  pure { s with staking := some ⟨0, Fixed.zero, potBalance⟩ }

/-- `stake`: a new position at the current reward per stake. -/
def stake (s : State AssetId AccountId) (who : AccountId) (amount : Nat) :
    Except Error (State AssetId AccountId) := do
  ensure (cfg.minStake ≤ amount) .insufficientStake
  let staking ← okOr s.staking .notInitialized
  let existing ← getUserPositionId s who
  ensure (existing = none) .positionAlreadyExists
  let staking ← updateRewards cfg s.balances staking
  ensureStakeableBalance cfg s who amount none
  let (s, _) ← createPositionAndMintNft s who amount staking.accumulatedRewardPerStake
  let staking ← staking.addStake amount
  pure { s with staking := some staking }

/-- `increase_stake`: pay the claimable rewards and lock them with the stake, keep the rest
unpaid, slash points for the increase, and add the amount. -/
def increaseStake (s : State AssetId AccountId) (who : AccountId) (positionId amount : Nat) :
    Except Error (State AssetId AccountId) := do
  ensure (cfg.minStake ≤ amount) .insufficientStake
  let staking ← okOr s.staking .notInitialized
  ensure (isOwner s who positionId) .forbidden
  let staking ← updateRewards cfg s.balances staking
  let position ← okOr (s.positions.lookup positionId) (.inconsistentState .positionNotFound)
  ensureStakeableBalance cfg s who amount (some position)
  let currentPeriod ← okOr (getCurrentPeriod cfg s) (.inconsistentState .arithmetic)
  let createdAt ← okOr (getPeriodNumber cfg position.createdAt) (.inconsistentState .arithmetic)
  let (rewards, unpaidRewards, payablePercentage) ← okOr
    (calculateRewards cfg position staking.accumulatedRewardPerStake currentPeriod createdAt)
    .arithmetic
  let (balances, accumulatedLockedRewards) ← payAndLockRewards cfg s.balances who
    position.accumulatedLockedRewards rewards
  let position := { position with
    accumulatedLockedRewards
    accumulatedUnpaidRewards := unpaidRewards
    rewardPerStake := staking.accumulatedRewardPerStake }
  let points ← okOr (getPoints cfg position currentPeriod createdAt) .arithmetic
  let slashPoints ← okOr (Math.calculateSlashedPoints points position.stake amount
    cfg.currentStakeWeight (cfg.minSlash payablePercentage)) .arithmetic
  let accumulatedSlashPoints ← okOr (Word.checkedAdd 128 position.accumulatedSlashPoints slashPoints)
    .arithmetic
  let newStake ← okOr (Word.checkedAdd 128 position.stake amount) .arithmetic
  let position := { position with accumulatedSlashPoints, stake := newStake }
  let potReservedBalance ← okOr (Word.checkedSub staking.potReservedBalance rewards) .arithmetic
  let staking ← { staking with potReservedBalance }.addStake amount
  let _ ← position.getTotalLocked
  pure { s with balances, staking := some staking, positions := s.positions.insert positionId position }

/-- `claim`: pay the claimable rewards, unlock the locked ones, slash all points; past the
unclaimable periods the unpaid rewards go back to the pot. -/
def claim (s : State AssetId AccountId) (who : AccountId) (positionId : Nat) :
    Except Error (State AssetId AccountId) := do
  let staking ← okOr s.staking .notInitialized
  ensure (isOwner s who positionId) .forbidden
  let staking ← updateRewards cfg s.balances staking
  let position ← okOr (s.positions.lookup positionId) (.inconsistentState .positionNotFound)
  let currentPeriod ← okOr (getCurrentPeriod cfg s) (.inconsistentState .arithmetic)
  let createdAt ← okOr (getPeriodNumber cfg position.createdAt) (.inconsistentState .arithmetic)
  let (rewardsToPay, accumulatedUnpaidRewards, _) ← okOr
    (calculateRewards cfg position staking.accumulatedRewardPerStake currentPeriod createdAt)
    .arithmetic
  let balances ← payFromPot cfg s.balances who rewardsToPay
  let position := { position with accumulatedLockedRewards := 0, accumulatedUnpaidRewards }
  let pointsToSlash ← okOr (getPoints cfg position currentPeriod createdAt) .arithmetic
  let accumulatedSlashPoints ← okOr
    (Word.checkedAdd 128 position.accumulatedSlashPoints pointsToSlash) .arithmetic
  let expired := cfg.unclaimablePeriods < currentPeriod - createdAt
  let slashedUnpaidRewards := if expired then accumulatedUnpaidRewards else 0
  let position := { position with
    accumulatedSlashPoints
    accumulatedUnpaidRewards := if expired then 0 else accumulatedUnpaidRewards
    rewardPerStake := staking.accumulatedRewardPerStake }
  let _ ← position.getTotalLocked
  let reserved ← okOr (Word.checkedSub staking.potReservedBalance rewardsToPay)
    (.inconsistentState .arithmetic)
  let potReservedBalance ← okOr (Word.checkedSub reserved slashedUnpaidRewards)
    (.inconsistentState .arithmetic)
  pure { s with
    balances
    staking := some { staking with potReservedBalance }
    positions := s.positions.insert positionId position }

/-- `unstake`: pay the claimable rewards, return the rest to the pot, remove the position. -/
def unstake (s : State AssetId AccountId) (who : AccountId) (positionId : Nat) :
    Except Error (State AssetId AccountId) := do
  let staking ← okOr s.staking .notInitialized
  ensure (isOwner s who positionId) .forbidden
  let staking ← updateRewards cfg s.balances staking
  let position ← okOr (s.positions.lookup positionId) (.inconsistentState .positionNotFound)
  let currentPeriod ← okOr (getCurrentPeriod cfg s) (.inconsistentState .arithmetic)
  let createdAt ← okOr (getPeriodNumber cfg position.createdAt) (.inconsistentState .arithmetic)
  let (rewardsToPay, returnToPot, _) ← okOr
    (calculateRewards cfg position staking.accumulatedRewardPerStake currentPeriod createdAt)
    .arithmetic
  let balances ← payFromPot cfg s.balances who rewardsToPay
  let totalStake ← okOr (Word.checkedSub staking.totalStake position.stake)
    (.inconsistentState .arithmetic)
  let reserved ← okOr (Word.checkedSub staking.potReservedBalance rewardsToPay)
    (.inconsistentState .arithmetic)
  let potReservedBalance ← okOr (Word.checkedSub reserved returnToPot)
    (.inconsistentState .arithmetic)
  let positionOwner ← burnPosition s who positionId
  -- the `RewardsClaimed` event reports the points
  let _ ← okOr (getPoints cfg position currentPeriod createdAt) .arithmetic
  pure { s with
    balances
    staking := some { staking with totalStake, potReservedBalance }
    positions := s.positions.erase positionId
    positionOwner }

/-- `force_unstake`, for the GIGAHDX migration: pay all accrued and unpaid rewards, with no
payable percentage, and remove the position. Returns the amount unlocked. -/
def forceUnstake (s : State AssetId AccountId) (who : AccountId) :
    Except Error (State AssetId AccountId × Nat) := do
  let staking ← okOr s.staking .notInitialized
  let positionId ← okOr (← getUserPositionId s who) (.inconsistentState .positionNotFound)
  let staking ← updateRewards cfg s.balances staking
  let position ← okOr (s.positions.lookup positionId) (.inconsistentState .positionNotFound)
  let newRewards ← okOr (Math.calculateRewards staking.accumulatedRewardPerStake
    position.rewardPerStake position.stake) .arithmetic
  let paidRewards ← okOr (Word.checkedAdd 128 newRewards position.accumulatedUnpaidRewards)
    .arithmetic
  let balances ← payFromPot cfg s.balances who paidRewards
  let totalStake ← okOr (Word.checkedSub staking.totalStake position.stake)
    (.inconsistentState .arithmetic)
  let potReservedBalance ← okOr (Word.checkedSub staking.potReservedBalance paidRewards)
    (.inconsistentState .arithmetic)
  let positionOwner ← burnPosition s who positionId
  let unlocked ← okOr ((Word.checkedAdd 128 position.stake position.accumulatedLockedRewards).bind
    fun x => Word.checkedAdd 128 x paidRewards) .arithmetic
  pure ({ s with
    balances
    staking := some { staking with totalStake, potReservedBalance }
    positions := s.positions.erase positionId
    positionOwner }, unlocked)

/-- `process_trade_fee`: a fee in the native asset goes to the pot once staking is
initialized. Returns the amount taken and the pot, or nothing. -/
def processTradeFee (s : State AssetId AccountId) (source : AccountId) (asset : AssetId)
    (amount : Nat) : Except Error (State AssetId AccountId × Option (Nat × AccountId)) :=
  if asset = cfg.nativeAssetId ∧ s.staking.isSome then do
    let balanceBefore := s.balances.free asset cfg.potAccount
    let balances ← currencyTransfer s.balances asset source cfg.potAccount amount
    let balanceAfter := balances.free asset cfg.potAccount
    let actualTaken := balanceAfter - balanceBefore
    ensure (Word.absDiff actualTaken amount ≤ 1) .arithmetic
    pure ({ s with balances }, some (actualTaken, cfg.potAccount))
  else pure (s, none)

end Calls

/-- The calls of the pallet, and blocks passing. -/
inductive Call (AssetId AccountId : Type)
  | initializeStaking (who : AccountId)
  | stake (who : AccountId) (amount : Nat)
  | increaseStake (who : AccountId) (positionId amount : Nat)
  | claim (who : AccountId) (positionId : Nat)
  | unstake (who : AccountId) (positionId : Nat)
  | forceUnstake (who : AccountId)
  | processTradeFee (source : AccountId) (asset : AssetId) (amount : Nat)
  | advanceBlocks (n : Nat)

section Step

variable [DecidableEq AssetId] [DecidableEq AccountId]
variable (cfg : Config AssetId AccountId)

/-- One call; what the functions return besides the state is dropped. -/
def step : Call AssetId AccountId → State AssetId AccountId → Except Error (State AssetId AccountId)
  | .initializeStaking who, s => initializeStaking cfg s who
  | .stake who amount, s => stake cfg s who amount
  | .increaseStake who positionId amount, s => increaseStake cfg s who positionId amount
  | .claim who positionId, s => claim cfg s who positionId
  | .unstake who positionId, s => unstake cfg s who positionId
  | .forceUnstake who, s => Prod.fst <$> forceUnstake cfg s who
  | .processTradeFee source asset amount, s => Prod.fst <$> processTradeFee cfg s source asset amount
  | .advanceBlocks n, s => .ok { s with blockNumber := s.blockNumber + n }

end Step

/-! ## An example runtime -/

/-- The runtime's constants; accounts are numbers, the pot is `0` and the native asset `0`.
`PayablePercentage` is `SigmoidPercentage<PointPercentage, 2000>` with `PointPercentage`
`0.02`, and `MinSlash` is `5`. -/
def exampleConfig : Config Nat Nat where
  potAccount := 0
  nativeAssetId := 0
  minStake := 1000000000000000
  periodLength := 7200
  sixSecBlocksSince := 4294967295
  timePointsWeight := PerThing.one
  actionPointsWeight := ⟨200000000, by decide⟩
  timePointsPerPeriod := 1
  unclaimablePeriods := 1
  currentStakeWeight := 2
  payablePercentage points := Math.sigmoid points ⟨20000000000000000, by decide⟩ 2000
  minSlash _ := 5
  isAuthority who := who = 1
  vestingLocked _ := 0
  externalClaims _ := 0

/-- Staking not initialized; the pot holds one HDX, account `4` two thousand, account `6`
three thousand and account `5` ten, all in the native asset. -/
def exampleGenesis : State Nat Nat where
  blockNumber := 0
  staking := none
  positions := ∅
  nextPositionId := 0
  positionOwner := ∅
  balances := ⟨fun a x => if a ≠ 0 then 0 else if x = 0 then 1000000000000
    else if x = 4 then 2000000000000000 else if x = 6 then 3000000000000000
    else if x = 5 then 10000000000000 else 0⟩

end Hydration.Staking
