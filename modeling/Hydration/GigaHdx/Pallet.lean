import Hydration.Frame.Storage
import Hydration.Frame.Issuance
import Hydration.Tokens

/-!
# The gigahdx pallet

`pallets/gigahdx/src/lib.rs`. A staker locks HDX and receives GIGAHDX, the aToken of stHDX
supplied to a money market, at the exchange rate `(TotalLocked + gigapot) / stHDX supply`
floored at one. `Stakes[who]` books the HDX principal (`hdx`), the aTokens (`gigahdx`), the HDX
waiting out a cooldown (`unstaking`) and the number of those positions; the one balance lock
`ghdxlock` holds `hdx + unstaking`. Yield is HDX paid into the gigapot account: it raises the
rate, and is paid out on unstake or folded into the principal by `realize_yield`.

Each entry point is a map `State → Except Error State`, transactional as the dispatch is. The
native currency is `pallet_balances` over the exact ledger `Frame.Balances`, with its existential
deposit and the gigahdx lock as the only lock; a sender left below the existential deposit is
reaped and its dust paid to the treasury. The money market supplies and withdraws exactly the
amounts asked, so stHDX supply is a counter. Besides the pallet's extrinsics, the model has the callers that
reach `do_stake` and the seize hooks from other pallets: `claim_rewards` of
`pallet-gigahdx-rewards` and the gigahdx steps of `pallet-liquidation`. Events, weights, the
pool contract and conviction votes are not modelled; the HDX a caller has committed to votes
is a function of the caller.
-/

namespace Hydration.GigaHdx

open Frame FixedPoint

/-- `StakeRecord`. -/
structure StakeRecord where
  hdx : Nat
  gigahdx : Nat
  unstaking : Nat
  unstakingCount : Nat
  deriving DecidableEq, Repr

/-- `StakeRecord::default`. -/
def StakeRecord.empty : StakeRecord := ⟨0, 0, 0, 0⟩

/-- `StakeRecord::is_empty`. -/
def StakeRecord.isEmpty (s : StakeRecord) : Bool :=
  s.hdx == 0 && s.gigahdx == 0 && s.unstaking == 0 && s.unstakingCount == 0

/-- `MAX_GIGAPOT_ROUNDING_SHORTFALL`. -/
def maxGigapotRoundingShortfall : Nat := 1000000

/-- `Ratio` of `hydra-dx-math`: `n / d`. -/
structure Ratio where
  n : Nat
  d : Nat
  deriving DecidableEq, Repr

namespace Ratio

/-- `Ratio::new`: a zero denominator becomes one. -/
def new (n d : Nat) : Ratio := ⟨n, if 0 < d then d else 1⟩

/-- `Ratio::one`. -/
def one : Ratio := ⟨1, 1⟩

/-- `Ord for Ratio` answering `Greater`: equal denominators compare numerators, a zero
denominator is the largest, otherwise the cross products decide. -/
def gt (a b : Ratio) : Bool :=
  if a.d = b.d then b.n < a.n
  else if a.d = 0 then true
  else if b.d = 0 then false
  else b.n * a.d < a.n * b.d

/-- `core::cmp::max`, which returns its second argument on a tie. -/
def max (a b : Ratio) : Ratio := if a.gt b then a else b

end Ratio

/-- The errors of the pallet, with those it passes on from the balances pallet and those of the
two calling pallets. -/
inductive Error
  | belowMinStake
  | insufficientFreeBalance
  | blockedByExternalLock
  | insufficientStake
  | noStake
  | zeroAmount
  | stHdxMintFailed
  | moneyMarketSupplyFailed
  | moneyMarketWithdrawFailed
  | overflow
  | cooldownNotElapsed
  | pendingUnstakeNotFound
  | tooManyPendingUnstakes
  | stakeFrozen
  | seizeFailed
  | gigapotInsufficient
  /-- `pallet_balances`: the balance is short, a lock keeps it, a locked sender would be reaped,
  the receiver would stay below the existential deposit, or the receiver overflows. -/
  | insufficientBalance
  | liquidityRestrictions
  | onlyProvider
  | belowMinimum
  | arithmeticOverflow
  /-- `pallet-gigahdx-rewards`. -/
  | noPendingRewards
  | potInsufficient
  /-- `pallet-liquidation`. -/
  | noGigaHdxPosition
  | liquidationCallFailed
  deriving DecidableEq, Repr

/-- The runtime's side of `Config`, and the accounts of the calling pallets. -/
structure Config (AssetId AccountId : Type) where
  nativeAssetId : AssetId
  /-- `gigapot_account_id()`. -/
  gigapot : AccountId
  minStake : Nat
  cooldownPeriod : Nat
  maxPendingUnstakes : Nat
  /-- `ExternalClaims::on`. -/
  externalClaims : AccountId → Nat
  /-- `VotingCommitment::committed_with_count`, its HDX part. -/
  committed : AccountId → Nat
  /-- `allocated_rewards_pot()` of `pallet-gigahdx-rewards`. -/
  rewardsPot : AccountId
  /-- The pot of the legacy staking pallet, which pays a migrating position's rewards. -/
  legacyPot : AccountId
  /-- `GigaHdx::liquidation_account()`: receives what a liquidation seizes. -/
  liquidationAccount : AccountId
  /-- `ExistentialDeposit` of `pallet_balances` (`NativeExistentialDeposit`). -/
  existentialDeposit : Nat
  /-- The treasury, to which the runtime's `DustRemoval` pays the dust of a reaped account. -/
  treasury : AccountId

/-- The storage of the pallet (`Stakes`, `TotalLocked`, `PendingUnstakes` with its
`PendingUnstake.amount`), the stHDX supply, the block number, the native balances and the
gigahdx locks. -/
structure State (AssetId AccountId : Type) where
  blockNumber : Nat
  stakes : StorageMap AccountId StakeRecord
  totalLocked : Nat
  pendingUnstakes : StorageMap (AccountId × Nat) Nat
  stHdxSupply : Nat
  balances : Balances AssetId AccountId
  locks : StorageMap AccountId Nat

variable {AssetId AccountId : Type} [DecidableEq AssetId] [DecidableEq AccountId]

section Helpers

variable (cfg : Config AssetId AccountId)

/-- The HDX under `ghdxlock`. -/
def lockOf (s : State AssetId AccountId) (who : AccountId) : Nat := (s.locks.lookup who).getD 0

/-- The dust of a sender left with `newFrom`: all of it below the existential deposit. -/
def dustOf (newFrom : Nat) : Nat := if newFrom < cfg.existentialDeposit then newFrom else 0

/-- `Currency::transfer` of `pallet_balances` with `AllowDeath`, the requirement of every HDX
transfer of the pallet and its callers: nothing to do for zero or to oneself. `can_withdraw`
refuses a short balance, a sender that would fall below the existential deposit while a lock
holds a consumer reference on it, and a balance that no longer covers the lock; `can_deposit`
refuses a receiver that would stay below the existential deposit. A sender left below the
existential deposit is reaped, and `DustRemoval` pays its dust to the treasury. -/
def nativeTransfer (s : State AssetId AccountId) (src dst : AccountId) (amount : Nat) :
    Except Error (Balances AssetId AccountId) :=
  if amount = 0 ∨ src = dst then pure s.balances
  else do
    let newFrom ← okOr (Word.checkedSub (s.balances.free cfg.nativeAssetId src) amount)
      .insufficientBalance
    ensure (cfg.existentialDeposit ≤ newFrom ∨ lockOf s src = 0) .onlyProvider
    ensure (lockOf s src ≤ newFrom) .liquidityRestrictions
    ensure (cfg.existentialDeposit ≤ s.balances.free cfg.nativeAssetId dst + amount) .belowMinimum
    let balances ← okOr (Tokens.transfer s.balances cfg.nativeAssetId src dst amount)
      .arithmeticOverflow
    okOr (Tokens.transfer balances cfg.nativeAssetId src cfg.treasury (dustOf cfg newFrom))
      .arithmeticOverflow

/-- The lock `refresh_lock` sets: `hdx + unstaking`, zero without a record. -/
def lockAmount (stakes : StorageMap AccountId StakeRecord) (who : AccountId) : Nat :=
  ((stakes.lookup who).map fun st => Word.saturatingAdd 128 st.hdx st.unstaking).getD 0

/-- `refresh_lock`. -/
def refreshLock (s : State AssetId AccountId) (who : AccountId) : State AssetId AccountId :=
  let total := lockAmount s.stakes who
  if total = 0 then { s with locks := s.locks.erase who }
  else { s with locks := s.locks.insert who total }

section RefreshLock

omit [DecidableEq AssetId]

variable (s : State AssetId AccountId) (who : AccountId)

@[simp] theorem refreshLock_stakes : (refreshLock s who).stakes = s.stakes := by
  unfold refreshLock; dsimp only; split <;> rfl

@[simp] theorem refreshLock_totalLocked : (refreshLock s who).totalLocked = s.totalLocked := by
  unfold refreshLock; dsimp only; split <;> rfl

@[simp] theorem refreshLock_pendingUnstakes :
    (refreshLock s who).pendingUnstakes = s.pendingUnstakes := by
  unfold refreshLock; dsimp only; split <;> rfl

@[simp] theorem refreshLock_balances : (refreshLock s who).balances = s.balances := by
  unfold refreshLock; dsimp only; split <;> rfl

@[simp] theorem refreshLock_stHdxSupply : (refreshLock s who).stHdxSupply = s.stHdxSupply := by
  unfold refreshLock; dsimp only; split <;> rfl

@[simp] theorem refreshLock_blockNumber : (refreshLock s who).blockNumber = s.blockNumber := by
  unfold refreshLock; dsimp only; split <;> rfl

/-- `refresh_lock` sets `who`'s lock and leaves the others. -/
theorem lookup_refreshLock (a : AccountId) :
    (refreshLock s who).locks.lookup a =
      if a = who then (if lockAmount s.stakes who = 0 then none else some (lockAmount s.stakes who))
      else s.locks.lookup a := by
  unfold refreshLock
  dsimp only
  by_cases ha : a = who
  · subst ha
    split <;> simp [*]
  · split <;> simp [ha, AList.lookup_erase_ne, AList.lookup_insert_ne]

end RefreshLock

section NativeTransfer

variable {cfg} {s : State AssetId AccountId} {src dst : AccountId} {amount : Nat}
  {b : Balances AssetId AccountId}

/-- What a successful `nativeTransfer` does: nothing for zero or to oneself; otherwise the sender
had the amount, keeps its lock covered and falls below the existential deposit only without a
lock, the amount moves, and then the sender's dust moves to the treasury. -/
theorem nativeTransfer_eq_ok (h : nativeTransfer cfg s src dst amount = .ok b) :
    ((amount = 0 ∨ src = dst) ∧ b = s.balances) ∨
      (amount ≤ s.balances.free cfg.nativeAssetId src ∧ src ≠ dst ∧
        (cfg.existentialDeposit ≤ s.balances.free cfg.nativeAssetId src - amount ∨
          lockOf s src = 0) ∧
        lockOf s src ≤ s.balances.free cfg.nativeAssetId src - amount ∧
        ∃ b₁, Tokens.transfer s.balances cfg.nativeAssetId src dst amount = some b₁ ∧
          Tokens.transfer b₁ cfg.nativeAssetId src cfg.treasury
            (dustOf cfg (s.balances.free cfg.nativeAssetId src - amount)) = some b) := by
  unfold nativeTransfer at h
  split at h
  · rename_i hnop
    cases h
    exact .inl ⟨hnop, rfl⟩
  · rename_i hmove
    simp only [bind_eq_ok, okOr_eq_ok, ensure_eq_ok, Word.checkedSub_eq_some] at h
    obtain ⟨newFrom, ⟨hle, rfl⟩, -, hreap, -, hlock, -, -, b₁, htr, hdust⟩ := h
    exact .inr ⟨hle, fun he => hmove (.inr he), hreap, hlock, b₁, htr, hdust⟩

@[simp] theorem nativeTransfer_self (a : AccountId) :
    nativeTransfer cfg s a a amount = .ok s.balances := by
  simp [nativeTransfer, pure, Except.pure]

/-- An account other than the sender loses nothing to a `nativeTransfer`. -/
theorem nativeTransfer_free_le (h : nativeTransfer cfg s src dst amount = .ok b) {y : AccountId}
    (hy : y ≠ src) (c : AssetId) : s.balances.free c y ≤ b.free c y := by
  rcases nativeTransfer_eq_ok h with ⟨-, rfl⟩ | ⟨-, -, -, -, b₁, htr, hdust⟩
  · exact le_rfl
  · exact le_trans (Tokens.free_le_free_transfer_of_ne htr hy c)
      (Tokens.free_le_free_transfer_of_ne hdust hy c)

/-- The receiver of a `nativeTransfer` from another account gains at least the amount: exactly
it, unless the receiver is the treasury and the sender is reaped. -/
theorem nativeTransfer_free_dst (h : nativeTransfer cfg s src dst amount = .ok b)
    (hne : src ≠ dst) :
    s.balances.free cfg.nativeAssetId dst + amount ≤ b.free cfg.nativeAssetId dst := by
  rcases nativeTransfer_eq_ok h with ⟨hnop, rfl⟩ | ⟨-, -, -, -, b₁, htr, hdust⟩
  · rcases hnop with h0 | heq
    · simp [h0]
    · exact absurd heq hne
  · rw [← Tokens.free_transfer_dst htr hne]
    exact Tokens.free_le_free_transfer_of_ne hdust (Ne.symm hne) _

/-- The sender of a `nativeTransfer` keeps its balance or keeps its lock covered. -/
theorem nativeTransfer_lockOf_le (h : nativeTransfer cfg s src dst amount = .ok b) :
    b.free cfg.nativeAssetId src = s.balances.free cfg.nativeAssetId src ∨
      lockOf s src ≤ b.free cfg.nativeAssetId src := by
  rcases nativeTransfer_eq_ok h with ⟨-, rfl⟩ | ⟨hle, hne, hreap, hlock, b₁, htr, hdust⟩
  · exact .inl rfl
  · right
    unfold dustOf at hdust
    split at hdust
    · -- a reaped sender holds no lock
      have hnolock : lockOf s src = 0 := by omega
      rw [hnolock]
      exact Nat.zero_le _
    · -- no dust: the second transfer moves nothing
      simp only [Tokens.transfer, true_or, if_true, Option.some.injEq] at hdust
      subst hdust
      have hsrc := Tokens.free_transfer_src htr hne
      omega

/-- A `nativeTransfer` keeps the HDX issuance within its bound: it makes two moves. -/
theorem nativeTransfer_issuanceWithin {bound : Nat} (h : nativeTransfer cfg s src dst amount = .ok b)
    (hi : s.balances.IssuanceWithin cfg.nativeAssetId bound) :
    b.IssuanceWithin cfg.nativeAssetId bound := by
  rcases nativeTransfer_eq_ok h with ⟨-, rfl⟩ | ⟨-, -, -, -, b₁, htr, hdust⟩
  · exact hi
  · have h₁ : b₁.IssuanceWithin cfg.nativeAssetId bound :=
      hi.of_move fun y => by simpa using Tokens.free_transfer htr cfg.nativeAssetId y
    exact h₁.of_move fun y => by simpa using Tokens.free_transfer hdust cfg.nativeAssetId y

end NativeTransfer

/-- `total_staked_hdx`. -/
def totalStakedHdx (s : State AssetId AccountId) : Nat :=
  Word.saturatingAdd 128 s.totalLocked (s.balances.free cfg.nativeAssetId cfg.gigapot)

/-- `exchange_rate`: one while nothing is staked, and never below one. -/
def exchangeRate (s : State AssetId AccountId) : Ratio :=
  if s.stHdxSupply = 0 then Ratio.one
  else (Ratio.new (totalStakedHdx cfg s) s.stHdxSupply).max Ratio.one

/-- `calculate_gigahdx_given_hdx_amount`. -/
def calculateGigahdxGivenHdxAmount (s : State AssetId AccountId) (amount : Nat) : Option Nat :=
  let rate := exchangeRate cfg s
  multiplyByRationalWithRounding amount rate.d rate.n .down

/-- `calculate_hdx_amount_given_gigahdx`. -/
def calculateHdxAmountGivenGigahdx (s : State AssetId AccountId) (gigahdxAmount : Nat) :
    Option Nat :=
  let rate := exchangeRate cfg s
  multiplyByRationalWithRounding gigahdxAmount rate.n rate.d .down

/-- `ensure_stakeable`. -/
def ensureStakeable (s : State AssetId AccountId) (who : AccountId) (amount : Nat) :
    Except Error Unit := do
  ensure (cfg.minStake ≤ amount) .belowMinStake
  ensure (cfg.externalClaims who = 0) .blockedByExternalLock
  let stake := (s.stakes.lookup who).getD StakeRecord.empty
  let ownClaim := Word.saturatingAdd 128 stake.hdx stake.unstaking
  let stakeable := s.balances.free cfg.nativeAssetId who - ownClaim
  ensure (amount ≤ stakeable) .insufficientFreeBalance

/-- `do_stake`: mint stHDX at the current rate, supply it, and book the HDX and the aTokens.
Returns the aTokens minted. -/
def doStake (s : State AssetId AccountId) (who : AccountId) (amount : Nat) :
    Except Error (State AssetId AccountId × Nat) := do
  ensure (0 < amount) .zeroAmount
  let gigahdxToMint ← okOr (calculateGigahdxGivenHdxAmount cfg s amount) .overflow
  ensure (0 < gigahdxToMint) .zeroAmount
  let stHdxSupply ← okOr (Word.checkedAdd 128 s.stHdxSupply gigahdxToMint) .stHdxMintFailed
  let stake := (s.stakes.lookup who).getD StakeRecord.empty
  let hdx ← okOr (Word.checkedAdd 128 stake.hdx amount) .overflow
  let gigahdx ← okOr (Word.checkedAdd 128 stake.gigahdx gigahdxToMint) .overflow
  let s := { s with
    stHdxSupply
    stakes := s.stakes.insert who { stake with hdx, gigahdx }
    totalLocked := Word.saturatingAdd 128 s.totalLocked amount }
  pure (refreshLock s who, gigahdxToMint)

/-- `do_realize_yield`: move the value of `who`'s aTokens above its principal from the gigapot
into its principal. Returns what was moved. -/
def doRealizeYield (s : State AssetId AccountId) (who : AccountId) :
    Except Error (State AssetId AccountId × Nat) := do
  let stake := (s.stakes.lookup who).getD StakeRecord.empty
  let currentValue ← okOr (calculateHdxAmountGivenGigahdx cfg s stake.gigahdx) .overflow
  let accrued := currentValue - stake.hdx
  if accrued = 0 then pure (s, 0)
  else do
    let balances ← (nativeTransfer cfg s cfg.gigapot who accrued).mapError
      fun _ => .gigapotInsufficient
    let hdx ← okOr (Word.checkedAdd 128 stake.hdx accrued) .overflow
    let s := { s with
      balances
      stakes := s.stakes.insert who { stake with hdx }
      totalLocked := Word.saturatingAdd 128 s.totalLocked accrued }
    pure (refreshLock s who, accrued)

/-- The payout of `do_unstake` is taken from the active stake; what exceeds it is yield, paid
from the gigapot. Returns the new principal, the yield and the balances. -/
def takePayout (s : State AssetId AccountId) (who : AccountId) (hdx payout : Nat) :
    Except Error (Nat × Nat × Balances AssetId AccountId) :=
  if payout ≤ hdx then pure (hdx - payout, 0, s.balances)
  else do
    let balances ← nativeTransfer cfg s cfg.gigapot who (payout - hdx)
    pure (0, payout - hdx, balances)

/-- On a full exit the principal above the committed floor is folded into the payout. -/
def foldDust (newGigahdx committed newHdx payout : Nat) : Nat × Nat :=
  if newGigahdx = 0 then
    let dust := newHdx - committed
    (newHdx - dust, Word.saturatingAdd 128 payout dust)
  else (newHdx, payout)

/-- `do_unstake`: burn aTokens for their HDX value, which waits in the pending position of the
current block. -/
def doUnstake (s : State AssetId AccountId) (who : AccountId) (gigahdxAmount : Nat) :
    Except Error (State AssetId AccountId) := do
  let stake ← okOr (s.stakes.lookup who) .noStake
  let now := s.blockNumber
  let isNewPosition := (s.pendingUnstakes.lookup (who, now)).isNone
  ensure (isNewPosition = true → stake.unstakingCount < cfg.maxPendingUnstakes)
    .tooManyPendingUnstakes
  ensure (0 < gigahdxAmount) .zeroAmount
  ensure (gigahdxAmount ≤ stake.gigahdx) .insufficientStake
  let payout ← okOr (calculateHdxAmountGivenGigahdx cfg s gigahdxAmount) .overflow
  let committed := cfg.committed who
  ensure (committed ≤ stake.hdx - payout) .stakeFrozen
  let newGigahdx ← okOr (Word.checkedSub stake.gigahdx gigahdxAmount) .overflow
  -- the money market hands back the stHDX, which is burnt
  let stHdxSupply ← okOr (Word.checkedSub s.stHdxSupply gigahdxAmount) .moneyMarketWithdrawFailed
  let (newHdx, _, balances) ← takePayout cfg s who stake.hdx payout
  let (newHdx, payout) := foldDust newGigahdx committed newHdx payout
  let principalConsumed := stake.hdx - newHdx
  let _ ← okOr (Word.checkedAdd 32 now cfg.cooldownPeriod) .overflow
  let entry := (s.pendingUnstakes.lookup (who, now)).getD 0
  let s := { s with
    stHdxSupply
    balances
    pendingUnstakes := s.pendingUnstakes.insert (who, now) (Word.saturatingAdd 128 entry payout)
    stakes := s.stakes.insert who { stake with
      gigahdx := newGigahdx
      hdx := newHdx
      unstaking := Word.saturatingAdd 128 stake.unstaking payout
      unstakingCount := if isNewPosition then Word.saturatingAdd 16 stake.unstakingCount 1
        else stake.unstakingCount }
    totalLocked := s.totalLocked - principalConsumed }
  pure (refreshLock s who)

/-- The record after `unlock` released `amount`; `mutate_exists` removes an empty one. -/
def releaseUnstaking (stakes : StorageMap AccountId StakeRecord) (who : AccountId)
    (amount : Nat) : StorageMap AccountId StakeRecord :=
  match stakes.lookup who with
  | none => stakes
  | some st =>
    let st := { st with unstaking := st.unstaking - amount, unstakingCount := st.unstakingCount - 1 }
    if st.isEmpty then stakes.erase who else stakes.insert who st

/-- `on_pre_seize`: zero the borrower's gigahdx, returning what it was. -/
def onPreSeize (s : State AssetId AccountId) (borrower : AccountId) :
    Except Error (State AssetId AccountId × Nat) := do
  let st ← okOr (s.stakes.lookup borrower) .noStake
  pure ({ s with stakes := s.stakes.insert borrower { st with gigahdx := 0 } }, st.gigahdx)

/-- The HDX move of `on_seize`: a transfer when the lock allows it, else a slash of the free
balance, which ignores locks (reserved balances are not modelled, so a slash short of the free
balance fails). -/
def seizeTransfer (s : State AssetId AccountId) (borrower recipient : AccountId) (seizeHdx : Nat) :
    Except Error (Balances AssetId AccountId) :=
  if seizeHdx = 0 then pure s.balances
  else
    let free := s.balances.free cfg.nativeAssetId borrower
    if seizeHdx ≤ free ∧ lockOf s borrower ≤ free - seizeHdx then
      nativeTransfer cfg s borrower recipient seizeHdx
    else do
      ensure (seizeHdx ≤ free) .seizeFailed
      pure ((s.balances.set cfg.nativeAssetId borrower (free - seizeHdx)).deposit
        cfg.nativeAssetId recipient seizeHdx)

/-- `on_seize`: move the seized principal and aTokens from the borrower to the recipient. -/
def onSeize (s : State AssetId AccountId) (borrower recipient : AccountId)
    (seizeHdx seizeGigahdx origGigahdx : Nat) : Except Error (State AssetId AccountId) := do
  let seizeHdx := match s.stakes.lookup borrower with
    | some st => min seizeHdx st.hdx
    | none => seizeHdx
  let st ← okOr (s.stakes.lookup borrower) .noStake
  let st := { st with hdx := st.hdx - seizeHdx, gigahdx := origGigahdx - seizeGigahdx }
  let s := refreshLock { s with stakes := s.stakes.insert borrower st } borrower
  let balances ← seizeTransfer cfg s borrower recipient seizeHdx
  let r := (s.stakes.lookup recipient).getD StakeRecord.empty
  let hdx ← okOr (Word.checkedAdd 128 r.hdx seizeHdx) .overflow
  let gigahdx ← okOr (Word.checkedAdd 128 r.gigahdx seizeGigahdx) .overflow
  pure (refreshLock { s with
    balances
    stakes := s.stakes.insert recipient { r with hdx, gigahdx } } recipient)

end Helpers

section Calls

variable (cfg : Config AssetId AccountId)

/-- `giga_stake`. -/
def gigaStake (s : State AssetId AccountId) (who : AccountId) (amount : Nat) :
    Except Error (State AssetId AccountId) := do
  ensureStakeable cfg s who amount
  let (s, _) ← doStake cfg s who amount
  pure s

/-- `giga_unstake`. -/
def gigaUnstake (s : State AssetId AccountId) (who : AccountId) (gigahdxAmount : Nat) :
    Except Error (State AssetId AccountId) :=
  doUnstake cfg s who gigahdxAmount

/-- `unlock`: release a pending position whose cooldown has passed. -/
def unlock (s : State AssetId AccountId) (who : AccountId) (positionId : Nat) :
    Except Error (State AssetId AccountId) := do
  let amount ← okOr (s.pendingUnstakes.lookup (who, positionId)) .pendingUnstakeNotFound
  let expiresAt ← okOr (Word.checkedAdd 32 positionId cfg.cooldownPeriod) .overflow
  ensure (expiresAt ≤ s.blockNumber) .cooldownNotElapsed
  let s := { s with
    pendingUnstakes := s.pendingUnstakes.erase (who, positionId)
    stakes := releaseUnstaking s.stakes who amount }
  pure (refreshLock s who)

/-- `cancel_unstake`: a pending position goes back into the stake at the current rate. -/
def cancelUnstake (s : State AssetId AccountId) (who : AccountId) (positionId : Nat) :
    Except Error (State AssetId AccountId) := do
  let amount ← okOr (s.pendingUnstakes.lookup (who, positionId)) .pendingUnstakeNotFound
  let stakes := match s.stakes.lookup who with
    | some st => s.stakes.insert who
        { st with unstaking := st.unstaking - amount, unstakingCount := st.unstakingCount - 1 }
    | none => s.stakes
  let s := { s with pendingUnstakes := s.pendingUnstakes.erase (who, positionId), stakes }
  let (s, _) ← doStake cfg s who amount
  pure s

/-- `migrate`. `LegacyStaking::force_unstake` pays the legacy position's rewards from the
legacy pot and releases `hdxUnlocked`; both come from the legacy pallet's state. -/
def migrate (s : State AssetId AccountId) (who : AccountId) (paidRewards hdxUnlocked : Nat) :
    Except Error (State AssetId AccountId) := do
  let balances ← nativeTransfer cfg s cfg.legacyPot who paidRewards
  let s := { s with balances }
  ensureStakeable cfg s who hdxUnlocked
  let (s, _) ← doStake cfg s who hdxUnlocked
  pure s

/-- `realize_yield`. -/
def realizeYield (s : State AssetId AccountId) (who : AccountId) :
    Except Error (State AssetId AccountId) := do
  let (s, _) ← doRealizeYield cfg s who
  pure s

/-- `claim_rewards` of `pallet-gigahdx-rewards`: the `total` pending for `who` is paid from the
allocated pot and staked. -/
def claimRewards (s : State AssetId AccountId) (who : AccountId) (total : Nat) :
    Except Error (State AssetId AccountId) := do
  ensure (cfg.externalClaims who = 0) .blockedByExternalLock
  ensure (0 < total) .noPendingRewards
  let balances ← (nativeTransfer cfg s cfg.rewardsPot who total).mapError
    fun _ => .potInsufficient
  let (s, _) ← doStake cfg { s with balances } who total
  pure s

/-- The gigahdx steps of `liquidate_gigahdx` in `pallet-liquidation`: `seizedGigahdx` is the
aToken amount the money market's `liquidationCall` moved to the liquidation account, never
more than the borrower held. The seized HDX is the pro-rata floor. -/
def liquidateGigahdx (s : State AssetId AccountId) (borrower : AccountId) (seizedGigahdx : Nat) :
    Except Error (State AssetId AccountId) := do
  -- a failed `realize_yield` is logged and the liquidation goes on
  let s := match doRealizeYield cfg s borrower with
    | .ok (s', _) => s'
    | .error _ => s
  let st ← okOr (s.stakes.lookup borrower) .noGigaHdxPosition
  let origHdx := st.hdx
  let origGigahdx := st.gigahdx
  ensure (0 < origGigahdx) .noGigaHdxPosition
  let (s, _) ← (onPreSeize s borrower).mapError fun _ => .seizeFailed
  ensure (0 < seizedGigahdx ∧ seizedGigahdx ≤ origGigahdx) .liquidationCallFailed
  let seizeHdx ← okOr (multiplyByRationalWithRounding origHdx seizedGigahdx origGigahdx .down)
    .seizeFailed
  (onSeize cfg s borrower cfg.liquidationAccount seizeHdx seizedGigahdx origGigahdx).mapError
    fun _ => .seizeFailed

/-- `transfer_allow_death` of `pallet_balances`; among others, deposits into the gigapot. -/
def transfer (s : State AssetId AccountId) (src dst : AccountId) (amount : Nat) :
    Except Error (State AssetId AccountId) := do
  let balances ← nativeTransfer cfg s src dst amount
  pure { s with balances }

end Calls

/-- The calls that reach the pallet, and blocks passing. -/
inductive Call (AccountId : Type)
  | gigaStake (who : AccountId) (amount : Nat)
  | gigaUnstake (who : AccountId) (gigahdxAmount : Nat)
  | unlock (who : AccountId) (positionId : Nat)
  | cancelUnstake (who : AccountId) (positionId : Nat)
  | migrate (who : AccountId) (paidRewards hdxUnlocked : Nat)
  | realizeYield (who : AccountId)
  | claimRewards (who : AccountId) (total : Nat)
  | liquidate (borrower : AccountId) (seizedGigahdx : Nat)
  | transfer (src dst : AccountId) (amount : Nat)
  | advanceBlocks (n : Nat)

/-- One call, or blocks passing. -/
def step (cfg : Config AssetId AccountId) :
    Call AccountId → State AssetId AccountId → Except Error (State AssetId AccountId)
  | .gigaStake who amount, s => gigaStake cfg s who amount
  | .gigaUnstake who gigahdxAmount, s => gigaUnstake cfg s who gigahdxAmount
  | .unlock who positionId, s => unlock cfg s who positionId
  | .cancelUnstake who positionId, s => cancelUnstake cfg s who positionId
  | .migrate who paidRewards hdxUnlocked, s => migrate cfg s who paidRewards hdxUnlocked
  | .realizeYield who, s => realizeYield cfg s who
  | .claimRewards who total, s => claimRewards cfg s who total
  | .liquidate borrower seizedGigahdx, s => liquidateGigahdx cfg s borrower seizedGigahdx
  | .transfer src dst amount, s => transfer cfg s src dst amount
  | .advanceBlocks n, s => pure { s with blockNumber := s.blockNumber + n }

/-- A state with nothing staked: no records, positions, locks or stHDX, and an HDX issuance
that fits a `u128`. -/
structure Genesis (cfg : Config AssetId AccountId) (s : State AssetId AccountId) : Prop where
  stakes : s.stakes = ∅
  totalLocked : s.totalLocked = 0
  pendingUnstakes : s.pendingUnstakes = ∅
  stHdxSupply : s.stHdxSupply = 0
  locks : s.locks = ∅
  issuance : s.balances.IssuanceWithin cfg.nativeAssetId (Word.max 128)

/-- The runtime's parameters (`GigaHdxMinStake` and `NativeExistentialDeposit` are one HDX,
`CooldownPeriod` 28 days of six-second blocks, `MaxPendingUnstakes` ten), with no external locks
and no votes; the gigapot, the two pots and the liquidation account are accounts 0 to 3, the
treasury is account 7. -/
def exampleConfig : Config Nat Nat where
  nativeAssetId := 0
  gigapot := 0
  minStake := 1000000000000
  cooldownPeriod := 403200
  maxPendingUnstakes := 10
  externalClaims := fun _ => 0
  committed := fun _ => 0
  rewardsPot := 1
  legacyPot := 2
  liquidationAccount := 3
  existentialDeposit := 1000000000000
  treasury := 7

/-- A state with nothing staked, in which the accounts `4`, `5` and `6` hold HDX, and the
treasury one HDX. -/
def exampleGenesis : State Nat Nat where
  blockNumber := 1
  stakes := ∅
  totalLocked := 0
  pendingUnstakes := ∅
  stHdxSupply := 0
  balances := ⟨fun _ x => if x = 4 then 2000000000000 else if x = 5 then 5000000000000
    else if x = 6 then 10000000000000000000 else if x = 7 then 1000000000000 else 0⟩
  locks := ∅

theorem exampleGenesis_genesis : Genesis exampleConfig exampleGenesis where
  stakes := rfl
  totalLocked := rfl
  pendingUnstakes := rfl
  stHdxSupply := rfl
  locks := rfl
  issuance := Balances.IssuanceWithin.of_support (t := {4, 5, 6, 7})
    (fun x hx => by
      simp only [exampleGenesis, exampleConfig] at hx
      simp only [Finset.mem_insert, Finset.mem_singleton]
      split_ifs at hx <;> simp_all)
    (by decide)

end Hydration.GigaHdx
