import Hydration.Frame.Arith
import Hydration.Frame.Dispatch
import Hydration.Frame.Storage

/-!
# circuit-breaker: the limits per block

The Omnipool's hooks report each trade and each change of liquidity to the circuit breaker. For
every asset but the hub asset the pallet keeps, for the current block, the volume traded in and out
(`AllowedTradeVolumeLimitPerAsset`) and the liquidity added and removed
(`AllowedAddLiquidityAmountPerAsset`, `AllowedRemoveLiquidityAmountPerAsset`), each with a limit
computed once per block from the asset's reserve before the first such event:
`reserve * numerator / denominator`. An event that takes the net volume, or the liquidity added or
removed, past its limit fails, and the trade with it; root and the whitelisted accounts are not
limited in liquidity. `on_finalize` clears the three records.

The hooks run inside the Omnipool's extrinsics, so a failed check rolls back everything the call
wrote: each event is one call of `step`, and `Frame.run` drops the failed ones.
-/

namespace Hydration.CircuitBreaker.Limits

open Frame

/-- `MAX_LIMIT_VALUE`: the largest numerator or denominator of a limit. -/
def maxLimitValue : Nat := 10000

/-- The errors of the limits, with those of the runtime they pass on. -/
inductive Error
  | badOrigin
  | notAllowed
  | invalidLimitValue
  | tokenOutflowLimitReached
  | tokenInfluxLimitReached
  | maxLiquidityLimitPerBlockReached
  | liquidityLimitNotStoredForAsset
  | arithmeticOverflow
  | arithmeticUnderflow
  | divisionByZero
  deriving DecidableEq, Repr

inductive Origin (AccountId : Type)
  | root
  | signed (who : AccountId)
  | none
  deriving DecidableEq, Repr

/-- `TradeVolumeLimit`: the volumes of one asset traded in the block, and their limit. -/
structure TradeVolumeLimit where
  volumeIn : Nat
  volumeOut : Nat
  limit : Nat
  deriving DecidableEq, Repr

/-- `LiquidityLimit`: the liquidity of one asset added (or removed) in the block, and its
limit. -/
structure LiquidityLimit where
  liquidity : Nat
  limit : Nat
  deriving DecidableEq, Repr

/-- The check shared by `check_outflow_limit` and `check_influx_limit`: when `more` exceeds
`less`, their difference must be within `limit`. -/
def checkNetLimit (more less limit : Nat) (e : Error) : Except Error Unit :=
  if more > less then do
    let diff ← okOr (Word.checkedSub more less) .arithmeticUnderflow
    ensure (diff ≤ limit) e
  else pure ()

namespace TradeVolumeLimit

/-- `update_amounts`. -/
def updateAmounts (t : TradeVolumeLimit) (amountIn amountOut : Nat) :
    Except Error TradeVolumeLimit := do
  let volumeIn ← okOr (Word.checkedAdd 128 t.volumeIn amountIn) .arithmeticOverflow
  let volumeOut ← okOr (Word.checkedAdd 128 t.volumeOut amountOut) .arithmeticOverflow
  pure { t with volumeIn, volumeOut }

/-- `check_outflow_limit`. -/
def checkOutflowLimit (t : TradeVolumeLimit) : Except Error Unit :=
  checkNetLimit t.volumeOut t.volumeIn t.limit .tokenOutflowLimitReached

/-- `check_influx_limit`. -/
def checkInfluxLimit (t : TradeVolumeLimit) : Except Error Unit :=
  checkNetLimit t.volumeIn t.volumeOut t.limit .tokenInfluxLimitReached

/-- `check_limits`. -/
def checkLimits (t : TradeVolumeLimit) : Except Error Unit := do
  t.checkOutflowLimit
  t.checkInfluxLimit

end TradeVolumeLimit

namespace LiquidityLimit

/-- `update_amount`. -/
def updateAmount (l : LiquidityLimit) (liquidityIn : Nat) : Except Error LiquidityLimit := do
  let liquidity ← okOr (Word.checkedAdd 128 l.liquidity liquidityIn) .arithmeticOverflow
  pure { l with liquidity }

/-- `check_limit`. -/
def checkLimit (l : LiquidityLimit) : Except Error Unit :=
  ensure (l.liquidity ≤ l.limit) .maxLiquidityLimitPerBlockReached

end LiquidityLimit

/-- The runtime's parameters of the limits. -/
structure Config (AssetId AccountId : Type) where
  /-- `AuthorityOrigin` -/
  authorityOrigin : Origin AccountId → Bool
  /-- `WhitelistedAccounts` -/
  whitelistedAccounts : AccountId → Bool
  defaultMaxNetTradeVolumeLimitPerBlock : Nat × Nat
  defaultMaxAddLiquidityLimitPerBlock : Option (Nat × Nat)
  defaultMaxRemoveLiquidityLimitPerBlock : Option (Nat × Nat)
  omnipoolHubAsset : AssetId

/-- The storage of the limits. The three `Allowed*` maps are the records of the block. -/
structure State (AssetId : Type) where
  tradeVolumeLimitPerAsset : StorageMap AssetId (Nat × Nat)
  allowedTradeVolumeLimitPerAsset : StorageMap AssetId TradeVolumeLimit
  liquidityAddLimitPerAsset : StorageMap AssetId (Option (Nat × Nat))
  allowedAddLiquidityAmountPerAsset : StorageMap AssetId LiquidityLimit
  liquidityRemoveLimitPerAsset : StorageMap AssetId (Option (Nat × Nat))
  allowedRemoveLiquidityAmountPerAsset : StorageMap AssetId LiquidityLimit

/-- The two liquidity limits, which the pallet handles by two copies of the same code. -/
inductive Side
  | add
  | remove
  deriving DecidableEq, Repr

namespace State

variable {AssetId : Type}

/-- The configured liquidity limits of a side: `LiquidityAddLimitPerAsset` or
`LiquidityRemoveLimitPerAsset`. -/
def liquidityLimitPerAsset (s : State AssetId) : Side → StorageMap AssetId (Option (Nat × Nat))
  | .add => s.liquidityAddLimitPerAsset
  | .remove => s.liquidityRemoveLimitPerAsset

/-- The records of a side: `AllowedAddLiquidityAmountPerAsset` or
`AllowedRemoveLiquidityAmountPerAsset`. -/
def allowedLiquidity (s : State AssetId) : Side → StorageMap AssetId LiquidityLimit
  | .add => s.allowedAddLiquidityAmountPerAsset
  | .remove => s.allowedRemoveLiquidityAmountPerAsset

/-- Write the records of a side. -/
def setAllowedLiquidity (s : State AssetId) : Side → StorageMap AssetId LiquidityLimit → State AssetId
  | .add, m => { s with allowedAddLiquidityAmountPerAsset := m }
  | .remove, m => { s with allowedRemoveLiquidityAmountPerAsset := m }

end State

section Pallet

variable {AssetId AccountId : Type} [DecidableEq AssetId] (cfg : Config AssetId AccountId)

/-- `trade_volume_limit_per_asset`: the stored limit, or the default. -/
def tradeVolumeLimitPerAsset (s : State AssetId) (assetId : AssetId) : Nat × Nat :=
  (s.tradeVolumeLimitPerAsset.lookup assetId).getD cfg.defaultMaxNetTradeVolumeLimitPerBlock

/-- The default liquidity limit of a side. -/
def defaultLiquidityLimit : Side → Option (Nat × Nat)
  | .add => cfg.defaultMaxAddLiquidityLimitPerBlock
  | .remove => cfg.defaultMaxRemoveLiquidityLimitPerBlock

/-- The getter shared by `add_liquidity_limit_per_asset` and `remove_liquidity_limit_per_asset`:
the stored limit of the side, or its default. -/
def liquidityLimitPerAsset (s : State AssetId) (side : Side) (assetId : AssetId) :
    Option (Nat × Nat) :=
  ((s.liquidityLimitPerAsset side).lookup assetId).getD (defaultLiquidityLimit cfg side)

/-- `add_liquidity_limit_per_asset`. -/
def addLiquidityLimitPerAsset (s : State AssetId) (assetId : AssetId) : Option (Nat × Nat) :=
  liquidityLimitPerAsset cfg s .add assetId

/-- `remove_liquidity_limit_per_asset`. -/
def removeLiquidityLimitPerAsset (s : State AssetId) (assetId : AssetId) : Option (Nat × Nat) :=
  liquidityLimitPerAsset cfg s .remove assetId

/-- `validate_limit`. -/
def validateLimit (limit : Nat × Nat) : Except Error Unit := do
  ensure (limit.1 ≤ maxLimitValue ∧ limit.2 ≤ maxLimitValue) .invalidLimitValue
  ensure (limit.1 ≠ 0 ∧ limit.2 ≠ 0) .invalidLimitValue

/-- `calculate_limit`: `liquidity * numerator / denominator`, with the `u128` overflow check. -/
def calculateLimit (liquidity : Nat) (limit : Nat × Nat) : Except Error Nat := do
  let product ← okOr (Word.checkedMul 128 liquidity limit.1) .arithmeticOverflow
  okOr (Word.checkedDiv product limit.2) .divisionByZero

/-- `initialize_trade_limit`: the first trade of an asset in a block fixes its limit from the
reserve it reports. -/
def initializeTradeLimit (s : State AssetId) (assetId : AssetId) (initialAssetReserve : Nat) :
    Except Error (State AssetId) :=
  if assetId ≠ cfg.omnipoolHubAsset ∧ assetId ∉ s.allowedTradeVolumeLimitPerAsset then do
    let limit ← calculateLimit initialAssetReserve (tradeVolumeLimitPerAsset cfg s assetId)
    pure { s with
      allowedTradeVolumeLimitPerAsset :=
        s.allowedTradeVolumeLimitPerAsset.insert assetId ⟨0, 0, limit⟩ }
  else pure s

/-- One side of `ensure_and_update_trade_volume_limit`, which the code writes out twice: add the
amounts to the asset's record, check it, and store it. -/
def updateTradeVolume (s : State AssetId) (assetId : AssetId) (amountIn amountOut : Nat) :
    Except Error (State AssetId) :=
  if assetId ≠ cfg.omnipoolHubAsset then do
    let allowed ← okOr (s.allowedTradeVolumeLimitPerAsset.lookup assetId)
      .liquidityLimitNotStoredForAsset
    let allowed ← allowed.updateAmounts amountIn amountOut
    allowed.checkLimits
    pure { s with
      allowedTradeVolumeLimitPerAsset := s.allowedTradeVolumeLimitPerAsset.insert assetId allowed }
  else pure s

/-- `ensure_and_update_trade_volume_limit`. -/
def ensureAndUpdateTradeVolumeLimit (s : State AssetId) (assetIn : AssetId) (amountIn : Nat)
    (assetOut : AssetId) (amountOut : Nat) : Except Error (State AssetId) := do
  let s ← updateTradeVolume cfg s assetIn amountIn 0
  updateTradeVolume cfg s assetOut 0 amountOut

/-- `ensure_pool_state_change_limit`, called by the Omnipool's `on_trade` hook with the reserves
before the trade. -/
def ensurePoolStateChangeLimit (s : State AssetId) (assetIn : AssetId) (assetInReserve amountIn : Nat)
    (assetOut : AssetId) (assetOutReserve amountOut : Nat) : Except Error (State AssetId) := do
  let s ← initializeTradeLimit cfg s assetIn assetInReserve
  let s ← initializeTradeLimit cfg s assetOut assetOutReserve
  ensureAndUpdateTradeVolumeLimit cfg s assetIn amountIn assetOut amountOut

/-- One side of `calculate_and_store_liquidity_limits`, which the code writes out twice: store a
fresh record if the side is limited and the asset has none yet. -/
def storeLiquidityLimit (s : State AssetId) (side : Side) (assetId : AssetId)
    (initialLiquidity : Nat) : Except Error (State AssetId) :=
  match liquidityLimitPerAsset cfg s side assetId with
  | some limit =>
    if assetId ∉ s.allowedLiquidity side then do
      let maxLimit ← calculateLimit initialLiquidity limit
      pure (s.setAllowedLiquidity side ((s.allowedLiquidity side).insert assetId ⟨0, maxLimit⟩))
    else pure s
  | none => pure s

/-- `calculate_and_store_liquidity_limits`: both sides are stored, whichever event it is. -/
def calculateAndStoreLiquidityLimits (s : State AssetId) (assetId : AssetId)
    (initialLiquidity : Nat) : Except Error (State AssetId) :=
  if assetId = cfg.omnipoolHubAsset then pure s
  else do
    let s ← storeLiquidityLimit cfg s .add assetId initialLiquidity
    storeLiquidityLimit cfg s .remove assetId initialLiquidity

/-- The function shared by `ensure_and_update_add_liquidity_limit` and
`ensure_and_update_remove_liquidity_limit`. -/
def ensureAndUpdateLiquidityLimit (s : State AssetId) (side : Side) (assetId : AssetId)
    (amount : Nat) : Except Error (State AssetId) :=
  if assetId ≠ cfg.omnipoolHubAsset ∧ (liquidityLimitPerAsset cfg s side assetId).isSome then do
    let allowed ← okOr ((s.allowedLiquidity side).lookup assetId) .liquidityLimitNotStoredForAsset
    let allowed ← allowed.updateAmount amount
    allowed.checkLimit
    pure (s.setAllowedLiquidity side ((s.allowedLiquidity side).insert assetId allowed))
  else pure s

/-- `ensure_and_update_add_liquidity_limit`. -/
def ensureAndUpdateAddLiquidityLimit (s : State AssetId) (assetId : AssetId)
    (addedLiquidity : Nat) : Except Error (State AssetId) :=
  ensureAndUpdateLiquidityLimit cfg s .add assetId addedLiquidity

/-- `ensure_and_update_remove_liquidity_limit`. -/
def ensureAndUpdateRemoveLiquidityLimit (s : State AssetId) (assetId : AssetId)
    (removedLiquidity : Nat) : Except Error (State AssetId) :=
  ensureAndUpdateLiquidityLimit cfg s .remove assetId removedLiquidity

/-- `is_origin_whitelisted_or_root`. -/
def isOriginWhitelistedOrRoot : Origin AccountId → Except Error Bool
  | .signed account => pure (cfg.whitelistedAccounts account)
  | .root => pure true
  | .none => .error .badOrigin

/-- The function shared by `ensure_add_liquidity_limit` and `ensure_remove_liquidity_limit`,
called by the Omnipool's `on_liquidity_changed` hook with the reserve before the change. -/
def ensureLiquidityLimit (s : State AssetId) (side : Side) (origin : Origin AccountId)
    (assetId : AssetId) (initialLiquidity amount : Nat) : Except Error (State AssetId) := do
  let isWhitelisted ← isOriginWhitelistedOrRoot cfg origin
  if isWhitelisted then pure s
  else do
    let s ← calculateAndStoreLiquidityLimits cfg s assetId initialLiquidity
    ensureAndUpdateLiquidityLimit cfg s side assetId amount

/-- `ensure_add_liquidity_limit`. -/
def ensureAddLiquidityLimit (s : State AssetId) (origin : Origin AccountId) (assetId : AssetId)
    (initialLiquidity addedLiquidity : Nat) : Except Error (State AssetId) :=
  ensureLiquidityLimit cfg s .add origin assetId initialLiquidity addedLiquidity

/-- `ensure_remove_liquidity_limit`. -/
def ensureRemoveLiquidityLimit (s : State AssetId) (origin : Origin AccountId) (assetId : AssetId)
    (initialLiquidity removedLiquidity : Nat) : Except Error (State AssetId) :=
  ensureLiquidityLimit cfg s .remove origin assetId initialLiquidity removedLiquidity

/-- `set_trade_volume_limit`. -/
def setTradeVolumeLimit (s : State AssetId) (origin : Origin AccountId) (assetId : AssetId)
    (tradeVolumeLimit : Nat × Nat) : Except Error (State AssetId) := do
  ensure (cfg.authorityOrigin origin) .badOrigin
  ensure (assetId ≠ cfg.omnipoolHubAsset) .notAllowed
  validateLimit tradeVolumeLimit
  pure { s with tradeVolumeLimitPerAsset := s.tradeVolumeLimitPerAsset.insert assetId tradeVolumeLimit }

/-- Write the configured limits of a side. -/
def State.setLiquidityLimitPerAsset (s : State AssetId) :
    Side → StorageMap AssetId (Option (Nat × Nat)) → State AssetId
  | .add, m => { s with liquidityAddLimitPerAsset := m }
  | .remove, m => { s with liquidityRemoveLimitPerAsset := m }

/-- The extrinsic shared by `set_add_liquidity_limit` and `set_remove_liquidity_limit`. -/
def setLiquidityLimit (s : State AssetId) (side : Side) (origin : Origin AccountId)
    (assetId : AssetId) (liquidityLimit : Option (Nat × Nat)) : Except Error (State AssetId) := do
  ensure (cfg.authorityOrigin origin) .badOrigin
  ensure (assetId ≠ cfg.omnipoolHubAsset) .notAllowed
  match liquidityLimit with
  | some limit => validateLimit limit
  | none => pure ()
  pure (s.setLiquidityLimitPerAsset side ((s.liquidityLimitPerAsset side).insert assetId liquidityLimit))

/-- `set_add_liquidity_limit`. -/
def setAddLiquidityLimit (s : State AssetId) (origin : Origin AccountId) (assetId : AssetId)
    (liquidityLimit : Option (Nat × Nat)) : Except Error (State AssetId) :=
  setLiquidityLimit cfg s .add origin assetId liquidityLimit

/-- `set_remove_liquidity_limit`. -/
def setRemoveLiquidityLimit (s : State AssetId) (origin : Origin AccountId) (assetId : AssetId)
    (liquidityLimit : Option (Nat × Nat)) : Except Error (State AssetId) :=
  setLiquidityLimit cfg s .remove origin assetId liquidityLimit

/-- `on_finalize`: the records of the block are cleared. -/
def onFinalize (s : State AssetId) : State AssetId :=
  { s with
    allowedTradeVolumeLimitPerAsset := ∅
    allowedAddLiquidityAmountPerAsset := ∅
    allowedRemoveLiquidityAmountPerAsset := ∅ }

end Pallet

/-- The events the limits see: the three extrinsics, the hooks' calls, and the end of a block. -/
inductive Call (AssetId AccountId : Type)
  | setTradeVolumeLimit (origin : Origin AccountId) (assetId : AssetId) (limit : Nat × Nat)
  | setLiquidityLimit (side : Side) (origin : Origin AccountId) (assetId : AssetId)
      (limit : Option (Nat × Nat))
  | poolStateChange (assetIn : AssetId) (assetInReserve amountIn : Nat) (assetOut : AssetId)
      (assetOutReserve amountOut : Nat)
  | liquidityChange (side : Side) (origin : Origin AccountId) (assetId : AssetId)
      (initialLiquidity amount : Nat)
  | onFinalize

variable {AssetId AccountId : Type} [DecidableEq AssetId]

/-- One event. -/
def step (cfg : Config AssetId AccountId) :
    Call AssetId AccountId → State AssetId → Except Error (State AssetId)
  | .setTradeVolumeLimit origin assetId limit, s => setTradeVolumeLimit cfg s origin assetId limit
  | .setLiquidityLimit side origin assetId limit, s => setLiquidityLimit cfg s side origin assetId limit
  | .poolStateChange assetIn reserveIn amountIn assetOut reserveOut amountOut, s =>
    ensurePoolStateChangeLimit cfg s assetIn reserveIn amountIn assetOut reserveOut amountOut
  | .liquidityChange side origin assetId initialLiquidity amount, s =>
    ensureLiquidityLimit cfg s side origin assetId initialLiquidity amount
  | .onFinalize, s => .ok (onFinalize s)

/-- The runtime's limits: half of the reserve traded, and a twentieth added or removed, per
block; LRNA (asset `1`) is the hub asset, root the authority, and account `0` is whitelisted. -/
def exampleConfig : Config Nat Nat where
  authorityOrigin origin := decide (origin = .root)
  whitelistedAccounts who := decide (who = 0)
  defaultMaxNetTradeVolumeLimitPerBlock := (5000, 10000)
  defaultMaxAddLiquidityLimitPerBlock := some (500, 10000)
  defaultMaxRemoveLiquidityLimitPerBlock := some (500, 10000)
  omnipoolHubAsset := 1

/-- No limit configured and no record. -/
def emptyState : State Nat := ⟨∅, ∅, ∅, ∅, ∅, ∅⟩

/-- The first trade of asset `2` in a block, from a reserve of `1000`. -/
def firstTrade : Call Nat Nat := .poolStateChange 2 1000 300 5 4000 100

/-- The rest of the block: asset `2` goes out again, a lower limit is configured, a trade that
would take the net volume of asset `2` to `650` (past `500`) is refused, an account adds `40` of
the `52` it may, is refused `20` more, and the whitelisted account adds `20`. -/
def blockRest : List (Call Nat Nat) :=
  [.poolStateChange 5 3900 100 2 1300 250, .setTradeVolumeLimit .root 2 (1, 10000),
   .poolStateChange 2 1050 600 5 4100 100, .liquidityChange .add (.signed 3) 2 1050 40,
   .liquidityChange .add (.signed 3) 2 1090 20, .liquidityChange .add (.signed 0) 2 1090 20]

/-! ## What each check does -/

section Checks

theorem checkNetLimit_eq_ok {more less limit : Nat} {e : Error} {u : Unit} :
    checkNetLimit more less limit e = .ok u ↔ more - less ≤ limit := by
  unfold checkNetLimit
  split_ifs with h
  · simp only [bind_eq_ok, okOr_eq_ok, Word.checkedSub_eq_some, ensure_eq_ok]
    constructor
    · rintro ⟨_, ⟨-, rfl⟩, hle⟩
      exact hle
    · intro hle
      exact ⟨_, ⟨Nat.le_of_lt h, rfl⟩, hle⟩
  · have : more - less = 0 := by omega
    simp [this, pure, Except.pure]

namespace TradeVolumeLimit

variable {t t' : TradeVolumeLimit}

theorem checkLimits_eq_ok {u : Unit} :
    t.checkLimits = .ok u ↔ t.volumeOut - t.volumeIn ≤ t.limit ∧ t.volumeIn - t.volumeOut ≤ t.limit := by
  simp [checkLimits, checkOutflowLimit, checkInfluxLimit, bind_eq_ok, checkNetLimit_eq_ok]

theorem updateAmounts_eq_ok {amountIn amountOut : Nat} :
    t.updateAmounts amountIn amountOut = .ok t' ↔ t.volumeIn + amountIn ≤ Word.max 128 ∧
      t.volumeOut + amountOut ≤ Word.max 128 ∧
      t' = ⟨t.volumeIn + amountIn, t.volumeOut + amountOut, t.limit⟩ := by
  simp only [updateAmounts, bind_eq_ok, okOr_eq_ok, Word.checkedAdd_eq_some, pure, Except.pure,
    Except.ok.injEq]
  constructor
  · rintro ⟨_, ⟨hin, rfl⟩, _, ⟨hout, rfl⟩, rfl⟩
    exact ⟨hin, hout, rfl⟩
  · rintro ⟨hin, hout, rfl⟩
    exact ⟨_, ⟨hin, rfl⟩, _, ⟨hout, rfl⟩, rfl⟩

end TradeVolumeLimit

namespace LiquidityLimit

variable {l l' : LiquidityLimit}

theorem updateAmount_eq_ok {liquidityIn : Nat} :
    l.updateAmount liquidityIn = .ok l' ↔ l.liquidity + liquidityIn ≤ Word.max 128 ∧
      l' = ⟨l.liquidity + liquidityIn, l.limit⟩ := by
  simp only [updateAmount, bind_eq_ok, okOr_eq_ok, Word.checkedAdd_eq_some, pure, Except.pure,
    Except.ok.injEq]
  constructor
  · rintro ⟨_, ⟨hle, rfl⟩, rfl⟩
    exact ⟨hle, rfl⟩
  · rintro ⟨hle, rfl⟩
    exact ⟨_, ⟨hle, rfl⟩, rfl⟩

theorem checkLimit_eq_ok {u : Unit} : l.checkLimit = .ok u ↔ l.liquidity ≤ l.limit := by
  simp [checkLimit]

end LiquidityLimit

theorem validateLimit_eq_ok {limit : Nat × Nat} {u : Unit} :
    validateLimit limit = .ok u ↔
      limit.1 ≤ maxLimitValue ∧ limit.2 ≤ maxLimitValue ∧ limit.1 ≠ 0 ∧ limit.2 ≠ 0 := by
  simp [validateLimit, bind_eq_ok, and_assoc]

/-! ## Which storage each function writes -/

namespace State

variable {AssetId : Type} {s : State AssetId} {side side' : Side}

@[simp] theorem allowedLiquidity_setAllowedLiquidity (m : StorageMap AssetId LiquidityLimit) :
    (s.setAllowedLiquidity side m).allowedLiquidity side' =
      if side' = side then m else s.allowedLiquidity side' := by
  cases side <;> cases side' <;> rfl

@[simp] theorem liquidityLimitPerAsset_setAllowedLiquidity (m : StorageMap AssetId LiquidityLimit) :
    (s.setAllowedLiquidity side m).liquidityLimitPerAsset side' = s.liquidityLimitPerAsset side' := by
  cases side <;> cases side' <;> rfl

@[simp] theorem allowedTradeVolumeLimitPerAsset_setAllowedLiquidity
    (m : StorageMap AssetId LiquidityLimit) :
    (s.setAllowedLiquidity side m).allowedTradeVolumeLimitPerAsset =
      s.allowedTradeVolumeLimitPerAsset := by
  cases side <;> rfl

@[simp] theorem tradeVolumeLimitPerAsset_setAllowedLiquidity (m : StorageMap AssetId LiquidityLimit) :
    (s.setAllowedLiquidity side m).tradeVolumeLimitPerAsset = s.tradeVolumeLimitPerAsset := by
  cases side <;> rfl

@[simp] theorem liquidityLimitPerAsset_setLiquidityLimitPerAsset
    (m : StorageMap AssetId (Option (Nat × Nat))) :
    (s.setLiquidityLimitPerAsset side m).liquidityLimitPerAsset side' =
      if side' = side then m else s.liquidityLimitPerAsset side' := by
  cases side <;> cases side' <;> rfl

@[simp] theorem allowedLiquidity_setLiquidityLimitPerAsset
    (m : StorageMap AssetId (Option (Nat × Nat))) :
    (s.setLiquidityLimitPerAsset side m).allowedLiquidity side' = s.allowedLiquidity side' := by
  cases side <;> cases side' <;> rfl

@[simp] theorem allowedTradeVolumeLimitPerAsset_setLiquidityLimitPerAsset
    (m : StorageMap AssetId (Option (Nat × Nat))) :
    (s.setLiquidityLimitPerAsset side m).allowedTradeVolumeLimitPerAsset =
      s.allowedTradeVolumeLimitPerAsset := by
  cases side <;> rfl

@[simp] theorem tradeVolumeLimitPerAsset_setLiquidityLimitPerAsset
    (m : StorageMap AssetId (Option (Nat × Nat))) :
    (s.setLiquidityLimitPerAsset side m).tradeVolumeLimitPerAsset = s.tradeVolumeLimitPerAsset := by
  cases side <;> rfl

@[simp] theorem allowedLiquidity_withTrades (m : StorageMap AssetId TradeVolumeLimit) :
    ({ s with allowedTradeVolumeLimitPerAsset := m } : State AssetId).allowedLiquidity side =
      s.allowedLiquidity side := by
  cases side <;> rfl

@[simp] theorem liquidityLimitPerAsset_withTrades (m : StorageMap AssetId TradeVolumeLimit) :
    ({ s with allowedTradeVolumeLimitPerAsset := m } : State AssetId).liquidityLimitPerAsset side =
      s.liquidityLimitPerAsset side := by
  cases side <;> rfl

@[simp] theorem allowedLiquidity_withTradeLimits (m : StorageMap AssetId (Nat × Nat)) :
    ({ s with tradeVolumeLimitPerAsset := m } : State AssetId).allowedLiquidity side =
      s.allowedLiquidity side := by
  cases side <;> rfl

@[simp] theorem liquidityLimitPerAsset_withTradeLimits (m : StorageMap AssetId (Nat × Nat)) :
    ({ s with tradeVolumeLimitPerAsset := m } : State AssetId).liquidityLimitPerAsset side =
      s.liquidityLimitPerAsset side := by
  cases side <;> rfl

end State

end Checks

/-- `s'` differs from `s` in the records of traded volume at most. -/
structure TradesOnly {AssetId : Type} (s s' : State AssetId) : Prop where
  tradeLimits : s'.tradeVolumeLimitPerAsset = s.tradeVolumeLimitPerAsset
  liquidityLimits : ∀ side, s'.liquidityLimitPerAsset side = s.liquidityLimitPerAsset side
  liquidity : ∀ side, s'.allowedLiquidity side = s.allowedLiquidity side

/-- `s'` differs from `s` in the records of liquidity at most. -/
structure LiquidityOnly {AssetId : Type} (s s' : State AssetId) : Prop where
  tradeLimits : s'.tradeVolumeLimitPerAsset = s.tradeVolumeLimitPerAsset
  liquidityLimits : ∀ side, s'.liquidityLimitPerAsset side = s.liquidityLimitPerAsset side
  trades : s'.allowedTradeVolumeLimitPerAsset = s.allowedTradeVolumeLimitPerAsset

/-- `s'` differs from `s` in the configured limits at most. -/
structure LimitsOnly {AssetId : Type} (s s' : State AssetId) : Prop where
  trades : s'.allowedTradeVolumeLimitPerAsset = s.allowedTradeVolumeLimitPerAsset
  liquidity : ∀ side, s'.allowedLiquidity side = s.allowedLiquidity side

section Frames

variable {AssetId : Type} {s s' : State AssetId}

theorem tradesOnly_withTrades (m : StorageMap AssetId TradeVolumeLimit) :
    TradesOnly s { s with allowedTradeVolumeLimitPerAsset := m } :=
  ⟨rfl, fun _ => State.liquidityLimitPerAsset_withTrades m, fun _ => State.allowedLiquidity_withTrades m⟩

theorem TradesOnly.trans {s₁ : State AssetId} (h : TradesOnly s s₁) (h' : TradesOnly s₁ s') :
    TradesOnly s s' :=
  ⟨h'.tradeLimits.trans h.tradeLimits, fun side => (h'.liquidityLimits side).trans (h.liquidityLimits side),
    fun side => (h'.liquidity side).trans (h.liquidity side)⟩

theorem LiquidityOnly.trans {s₁ : State AssetId} (h : LiquidityOnly s s₁) (h' : LiquidityOnly s₁ s') :
    LiquidityOnly s s' :=
  ⟨h'.tradeLimits.trans h.tradeLimits, fun side => (h'.liquidityLimits side).trans (h.liquidityLimits side),
    h'.trades.trans h.trades⟩

end Frames

section Hooks

variable {AssetId AccountId : Type} [DecidableEq AssetId] {cfg : Config AssetId AccountId}
  {s s' : State AssetId}

/-- The configured limit of a side depends on the configured limits only. -/
theorem liquidityLimitPerAsset_congr {side : Side} {a : AssetId}
    (h : s'.liquidityLimitPerAsset side = s.liquidityLimitPerAsset side) :
    liquidityLimitPerAsset cfg s' side a = liquidityLimitPerAsset cfg s side a := by
  rw [liquidityLimitPerAsset, h, liquidityLimitPerAsset]

theorem initializeTradeLimit_eq_ok {a : AssetId} {r : Nat} (h : initializeTradeLimit cfg s a r = .ok s') :
    (s' = s ∧ (a = cfg.omnipoolHubAsset ∨ a ∈ s.allowedTradeVolumeLimitPerAsset)) ∨
    (a ≠ cfg.omnipoolHubAsset ∧ a ∉ s.allowedTradeVolumeLimitPerAsset ∧ ∃ limit,
      calculateLimit r (tradeVolumeLimitPerAsset cfg s a) = .ok limit ∧
      s' = { s with
        allowedTradeVolumeLimitPerAsset := s.allowedTradeVolumeLimitPerAsset.insert a ⟨0, 0, limit⟩ }) := by
  unfold initializeTradeLimit at h
  split_ifs at h with hc
  · simp only [bind_eq_ok, pure, Except.pure, Except.ok.injEq] at h
    obtain ⟨limit, hl, rfl⟩ := h
    exact .inr ⟨hc.1, hc.2, limit, hl, rfl⟩
  · simp only [pure, Except.pure, Except.ok.injEq] at h
    subst h
    left
    refine ⟨rfl, ?_⟩
    by_cases hh : a = cfg.omnipoolHubAsset
    · exact .inl hh
    · exact .inr (by_contra fun hm => hc ⟨hh, hm⟩)

theorem updateTradeVolume_eq_ok {a : AssetId} {i o : Nat} (h : updateTradeVolume cfg s a i o = .ok s') :
    (a = cfg.omnipoolHubAsset ∧ s' = s) ∨
    (a ≠ cfg.omnipoolHubAsset ∧ ∃ t, s.allowedTradeVolumeLimitPerAsset.lookup a = some t ∧
      t.volumeIn + i ≤ Word.max 128 ∧ t.volumeOut + o ≤ Word.max 128 ∧
      t.volumeOut + o - (t.volumeIn + i) ≤ t.limit ∧ t.volumeIn + i - (t.volumeOut + o) ≤ t.limit ∧
      s' = { s with
        allowedTradeVolumeLimitPerAsset :=
          s.allowedTradeVolumeLimitPerAsset.insert a ⟨t.volumeIn + i, t.volumeOut + o, t.limit⟩ }) := by
  unfold updateTradeVolume at h
  split_ifs at h with hc
  · simp only [bind_eq_ok, okOr_eq_ok, TradeVolumeLimit.updateAmounts_eq_ok,
      TradeVolumeLimit.checkLimits_eq_ok, pure, Except.pure, Except.ok.injEq] at h
    obtain ⟨t, ht, _, ⟨hin, hout, rfl⟩, _, ⟨hlo, hli⟩, rfl⟩ := h
    exact .inr ⟨hc, t, ht, hin, hout, hlo, hli, rfl⟩
  · simp only [pure, Except.pure, Except.ok.injEq] at h
    exact .inl ⟨not_not.mp hc, h.symm⟩

theorem initializeTradeLimit_tradesOnly {a : AssetId} {r : Nat}
    (h : initializeTradeLimit cfg s a r = .ok s') : TradesOnly s s' := by
  rcases initializeTradeLimit_eq_ok h with ⟨rfl, -⟩ | ⟨-, -, _, -, rfl⟩
  · exact ⟨rfl, fun _ => rfl, fun _ => rfl⟩
  · exact tradesOnly_withTrades _

theorem updateTradeVolume_tradesOnly {a : AssetId} {i o : Nat}
    (h : updateTradeVolume cfg s a i o = .ok s') : TradesOnly s s' := by
  rcases updateTradeVolume_eq_ok h with ⟨-, rfl⟩ | ⟨-, _, -, -, -, -, -, rfl⟩
  · exact ⟨rfl, fun _ => rfl, fun _ => rfl⟩
  · exact tradesOnly_withTrades _

theorem ensurePoolStateChangeLimit_eq_ok {ai ao : AssetId} {ri ni ro no : Nat}
    (h : ensurePoolStateChangeLimit cfg s ai ri ni ao ro no = .ok s') :
    ∃ s₁ s₂ s₃, initializeTradeLimit cfg s ai ri = .ok s₁ ∧ initializeTradeLimit cfg s₁ ao ro = .ok s₂ ∧
      updateTradeVolume cfg s₂ ai ni 0 = .ok s₃ ∧ updateTradeVolume cfg s₃ ao 0 no = .ok s' := by
  simp only [ensurePoolStateChangeLimit, ensureAndUpdateTradeVolumeLimit, bind_eq_ok] at h
  obtain ⟨s₁, h₁, s₂, h₂, s₃, h₃, h₄⟩ := h
  exact ⟨s₁, s₂, s₃, h₁, h₂, h₃, h₄⟩

theorem ensurePoolStateChangeLimit_tradesOnly {ai ao : AssetId} {ri ni ro no : Nat}
    (h : ensurePoolStateChangeLimit cfg s ai ri ni ao ro no = .ok s') : TradesOnly s s' := by
  obtain ⟨s₁, s₂, s₃, h₁, h₂, h₃, h₄⟩ := ensurePoolStateChangeLimit_eq_ok h
  exact ((initializeTradeLimit_tradesOnly h₁).trans (initializeTradeLimit_tradesOnly h₂)).trans
    ((updateTradeVolume_tradesOnly h₃).trans (updateTradeVolume_tradesOnly h₄))

theorem storeLiquidityLimit_eq_ok {side : Side} {a : AssetId} {L : Nat}
    (h : storeLiquidityLimit cfg s side a L = .ok s') :
    (s' = s ∧ ((liquidityLimitPerAsset cfg s side a).isSome → a ∈ s.allowedLiquidity side)) ∨
    (a ∉ s.allowedLiquidity side ∧ ∃ limit maxLimit, liquidityLimitPerAsset cfg s side a = some limit ∧
      calculateLimit L limit = .ok maxLimit ∧
      s' = s.setAllowedLiquidity side ((s.allowedLiquidity side).insert a ⟨0, maxLimit⟩)) := by
  unfold storeLiquidityLimit at h
  cases hl : liquidityLimitPerAsset cfg s side a with
  | none =>
    simp only [hl, pure, Except.pure, Except.ok.injEq] at h
    exact .inl ⟨h.symm, by simp⟩
  | some limit =>
    simp only [hl] at h
    split_ifs at h with hm
    · simp only [pure, Except.pure, Except.ok.injEq] at h
      exact .inl ⟨h.symm, fun _ => hm⟩
    · simp only [bind_eq_ok, pure, Except.pure, Except.ok.injEq] at h
      obtain ⟨maxLimit, hmax, rfl⟩ := h
      exact .inr ⟨hm, limit, maxLimit, rfl, hmax, rfl⟩

theorem storeLiquidityLimit_liquidityOnly {side : Side} {a : AssetId} {L : Nat}
    (h : storeLiquidityLimit cfg s side a L = .ok s') : LiquidityOnly s s' := by
  rcases storeLiquidityLimit_eq_ok h with ⟨rfl, -⟩ | ⟨-, _, _, -, -, rfl⟩
  · exact ⟨rfl, fun _ => rfl, rfl⟩
  · exact ⟨by simp, fun _ => by simp, by simp⟩

theorem calculateAndStoreLiquidityLimits_eq_ok {a : AssetId} {L : Nat}
    (h : calculateAndStoreLiquidityLimits cfg s a L = .ok s') :
    (a = cfg.omnipoolHubAsset ∧ s' = s) ∨
    (a ≠ cfg.omnipoolHubAsset ∧ ∃ s₁, storeLiquidityLimit cfg s .add a L = .ok s₁ ∧
      storeLiquidityLimit cfg s₁ .remove a L = .ok s') := by
  unfold calculateAndStoreLiquidityLimits at h
  split_ifs at h with hh
  · simp only [pure, Except.pure, Except.ok.injEq] at h
    exact .inl ⟨hh, h.symm⟩
  · rw [bind_eq_ok] at h
    exact .inr ⟨hh, h⟩

theorem calculateAndStoreLiquidityLimits_liquidityOnly {a : AssetId} {L : Nat}
    (h : calculateAndStoreLiquidityLimits cfg s a L = .ok s') : LiquidityOnly s s' := by
  rcases calculateAndStoreLiquidityLimits_eq_ok h with ⟨-, rfl⟩ | ⟨-, s₁, h₁, h₂⟩
  · exact ⟨rfl, fun _ => rfl, rfl⟩
  · exact (storeLiquidityLimit_liquidityOnly h₁).trans (storeLiquidityLimit_liquidityOnly h₂)

theorem ensureAndUpdateLiquidityLimit_eq_ok {side : Side} {a : AssetId} {x : Nat}
    (h : ensureAndUpdateLiquidityLimit cfg s side a x = .ok s') :
    (¬(a ≠ cfg.omnipoolHubAsset ∧ (liquidityLimitPerAsset cfg s side a).isSome) ∧ s' = s) ∨
    (a ≠ cfg.omnipoolHubAsset ∧ (liquidityLimitPerAsset cfg s side a).isSome ∧
      ∃ l, (s.allowedLiquidity side).lookup a = some l ∧ l.liquidity + x ≤ Word.max 128 ∧
        l.liquidity + x ≤ l.limit ∧
        s' = s.setAllowedLiquidity side ((s.allowedLiquidity side).insert a ⟨l.liquidity + x, l.limit⟩)) := by
  unfold ensureAndUpdateLiquidityLimit at h
  split_ifs at h with hc
  · simp only [bind_eq_ok, okOr_eq_ok, LiquidityLimit.updateAmount_eq_ok,
      LiquidityLimit.checkLimit_eq_ok, pure, Except.pure, Except.ok.injEq] at h
    obtain ⟨l, hl, _, ⟨hle, rfl⟩, _, hlim, rfl⟩ := h
    exact .inr ⟨hc.1, hc.2, l, hl, hle, hlim, rfl⟩
  · simp only [pure, Except.pure, Except.ok.injEq] at h
    exact .inl ⟨hc, h.symm⟩

theorem ensureAndUpdateLiquidityLimit_liquidityOnly {side : Side} {a : AssetId} {x : Nat}
    (h : ensureAndUpdateLiquidityLimit cfg s side a x = .ok s') : LiquidityOnly s s' := by
  rcases ensureAndUpdateLiquidityLimit_eq_ok h with ⟨-, rfl⟩ | ⟨-, -, _, -, -, -, rfl⟩
  · exact ⟨rfl, fun _ => rfl, rfl⟩
  · exact ⟨by simp, fun _ => by simp, by simp⟩

theorem ensureLiquidityLimit_eq_ok {side : Side} {origin : Origin AccountId} {a : AssetId}
    {L x : Nat} (h : ensureLiquidityLimit cfg s side origin a L x = .ok s') :
    (isOriginWhitelistedOrRoot cfg origin = .ok true ∧ s' = s) ∨
    (isOriginWhitelistedOrRoot cfg origin = .ok false ∧ ∃ s₁,
      calculateAndStoreLiquidityLimits cfg s a L = .ok s₁ ∧
      ensureAndUpdateLiquidityLimit cfg s₁ side a x = .ok s') := by
  simp only [ensureLiquidityLimit, bind_eq_ok] at h
  obtain ⟨w, hw, h⟩ := h
  cases w with
  | true =>
    simp only [if_true, pure, Except.pure, Except.ok.injEq] at h
    exact .inl ⟨hw, h.symm⟩
  | false =>
    simp only [Bool.false_eq_true, if_false, bind_eq_ok] at h
    exact .inr ⟨hw, h⟩

theorem ensureLiquidityLimit_liquidityOnly {side : Side} {origin : Origin AccountId} {a : AssetId}
    {L x : Nat} (h : ensureLiquidityLimit cfg s side origin a L x = .ok s') : LiquidityOnly s s' := by
  rcases ensureLiquidityLimit_eq_ok h with ⟨-, rfl⟩ | ⟨-, s₁, h₁, h₂⟩
  · exact ⟨rfl, fun _ => rfl, rfl⟩
  · exact (calculateAndStoreLiquidityLimits_liquidityOnly h₁).trans
      (ensureAndUpdateLiquidityLimit_liquidityOnly h₂)

theorem setTradeVolumeLimit_eq_ok {origin : Origin AccountId} {a : AssetId} {limit : Nat × Nat}
    (h : setTradeVolumeLimit cfg s origin a limit = .ok s') :
    validateLimit limit = .ok () ∧
      s' = { s with tradeVolumeLimitPerAsset := s.tradeVolumeLimitPerAsset.insert a limit } := by
  simp only [setTradeVolumeLimit, bind_eq_ok, ensure_eq_ok, pure, Except.pure,
    Except.ok.injEq] at h
  obtain ⟨_, -, _, -, u, hv, rfl⟩ := h
  exact ⟨hv, rfl⟩

theorem setLiquidityLimit_eq_ok {side : Side} {origin : Origin AccountId} {a : AssetId}
    {limit : Option (Nat × Nat)} (h : setLiquidityLimit cfg s side origin a limit = .ok s') :
    (∀ l, limit = some l → validateLimit l = .ok ()) ∧
      s' = s.setLiquidityLimitPerAsset side ((s.liquidityLimitPerAsset side).insert a limit) := by
  simp only [setLiquidityLimit, bind_eq_ok, ensure_eq_ok] at h
  obtain ⟨_, -, _, -, h⟩ := h
  -- the code's `if let Some(limit)` takes the rest of the call into each of its branches
  cases limit with
  | none =>
    simp only [pure, Except.pure, Except.ok.injEq] at h
    refine ⟨?_, h.symm⟩
    rintro l ⟨⟩
  | some l =>
    simp only [bind_eq_ok, pure, Except.pure, Except.ok.injEq] at h
    obtain ⟨u, hv, rfl⟩ := h
    refine ⟨?_, rfl⟩
    rintro l' ⟨⟩
    exact hv

theorem setTradeVolumeLimit_limitsOnly {origin : Origin AccountId} {a : AssetId}
    {limit : Nat × Nat} (h : setTradeVolumeLimit cfg s origin a limit = .ok s') : LimitsOnly s s' := by
  obtain ⟨-, rfl⟩ := setTradeVolumeLimit_eq_ok h
  exact ⟨rfl, fun _ => by simp⟩

theorem setLiquidityLimit_limitsOnly {side : Side} {origin : Origin AccountId} {a : AssetId}
    {limit : Option (Nat × Nat)} (h : setLiquidityLimit cfg s side origin a limit = .ok s') :
    LimitsOnly s s' := by
  obtain ⟨-, rfl⟩ := setLiquidityLimit_eq_ok h
  exact ⟨by simp, fun _ => by simp⟩

end Hooks

/-! ## The records of a block

What a block has accepted is the sum, over its successful events, of what each event reports
(`Frame.acceptedSum`). The two `Books` structures say that a record holds exactly that sum, within
its limit; each event moves them by its own contribution, and `Frame.run_accepted` carries them
through a block.
-/

section Books

variable {AssetId AccountId : Type} [DecidableEq AssetId] (cfg : Config AssetId AccountId)

/-- What an event reports of the volumes of `a`, in and out. -/
def Call.volumes (a : AssetId) : Call AssetId AccountId → Nat × Nat
  | .poolStateChange assetIn _ amountIn assetOut _ amountOut =>
    (if assetIn = a then (amountIn, 0) else 0) + (if assetOut = a then (0, amountOut) else 0)
  | .setTradeVolumeLimit .. | .setLiquidityLimit .. | .liquidityChange .. | .onFinalize => 0

/-- The origins whose changes of liquidity are limited: signed by an account that is not
whitelisted. -/
def limitedOrigin : Origin AccountId → Bool
  | .signed who => !cfg.whitelistedAccounts who
  | _ => false

/-- What an event reports of the liquidity of `a` on a side: a change by a limited origin, while
the side is limited for `a`. -/
def Call.liquidity (side : Side) (a : AssetId) (c : Call AssetId AccountId) (s : State AssetId) :
    Nat :=
  match c with
  | .liquidityChange side' origin assetId _ amount =>
    if side' = side ∧ assetId = a ∧ limitedOrigin cfg origin = true ∧
      (liquidityLimitPerAsset cfg s side a).isSome then amount else 0
  | .setTradeVolumeLimit .. | .setLiquidityLimit .. | .poolStateChange .. | .onFinalize => 0

/-- The record of the volume of `a` holds the volumes `v` accepted in the block, and their net is
within its limit. -/
structure VolumeBooks (a : AssetId) (v : Nat × Nat) (s : State AssetId) : Prop where
  absent : s.allowedTradeVolumeLimitPerAsset.lookup a = none → v = 0
  present : ∀ t, s.allowedTradeVolumeLimitPerAsset.lookup a = some t →
    t.volumeIn = v.1 ∧ t.volumeOut = v.2 ∧ t.volumeOut - t.volumeIn ≤ t.limit ∧
      t.volumeIn - t.volumeOut ≤ t.limit

/-- The record of the liquidity of `a` on a side holds the amount `n` accepted in the block, within
its limit. -/
structure LiquidityBooks (side : Side) (a : AssetId) (n : Nat) (s : State AssetId) : Prop where
  absent : (s.allowedLiquidity side).lookup a = none → n = 0
  present : ∀ l, (s.allowedLiquidity side).lookup a = some l → l.liquidity = n ∧ l.liquidity ≤ l.limit

variable {cfg} {s s' : State AssetId} {a : AssetId}

omit [DecidableEq AssetId] in
theorem isOriginWhitelistedOrRoot_eq_ok {origin : Origin AccountId} {w : Bool}
    (h : isOriginWhitelistedOrRoot cfg origin = .ok w) : limitedOrigin cfg origin = !w := by
  cases origin with
  | root =>
    simp only [isOriginWhitelistedOrRoot, pure, Except.pure, Except.ok.injEq] at h
    simp [limitedOrigin, ← h]
  | signed who =>
    simp only [isOriginWhitelistedOrRoot, pure, Except.pure, Except.ok.injEq] at h
    simp [limitedOrigin, h]
  | none => cases h

namespace VolumeBooks

variable {v : Nat × Nat}

theorem of_lookup (hb : VolumeBooks a v s)
    (h : s'.allowedTradeVolumeLimitPerAsset.lookup a = s.allowedTradeVolumeLimitPerAsset.lookup a) :
    VolumeBooks a v s' where
  absent h' := hb.absent (h ▸ h')
  present t ht := hb.present t (h ▸ ht)

theorem initializeTradeLimit (hb : VolumeBooks a v s) {b : AssetId} {r : Nat}
    (h : initializeTradeLimit cfg s b r = .ok s') : VolumeBooks a v s' := by
  rcases initializeTradeLimit_eq_ok h with ⟨rfl, -⟩ | ⟨-, hfresh, limit, -, rfl⟩
  · exact hb
  by_cases hab : b = a
  · -- a fresh record: nothing was accepted before it
    subst hab
    have hv : v = 0 := hb.absent (AList.lookup_eq_none.mpr hfresh)
    subst hv
    constructor
    · simp
    · intro t ht
      simp only [AList.lookup_insert, Option.some.injEq] at ht
      subst ht
      simp
  · exact hb.of_lookup (AList.lookup_insert_ne (Ne.symm hab))

theorem updateTradeVolume (ha : a ≠ cfg.omnipoolHubAsset) (hb : VolumeBooks a v s) {b : AssetId} {i o : Nat}
    (h : updateTradeVolume cfg s b i o = .ok s') :
    VolumeBooks a (v + if b = a then (i, o) else 0) s' := by
  rcases updateTradeVolume_eq_ok h with ⟨hbh, rfl⟩ | ⟨-, t, ht, -, -, hout, hin, rfl⟩
  · have hab : b ≠ a := fun e => ha (e ▸ hbh)
    simpa [hab] using hb
  by_cases hab : b = a
  · subst hab
    obtain ⟨h1, h2, -, -⟩ := hb.present t ht
    simp only [if_true]
    constructor
    · simp
    · intro t' ht'
      simp only [AList.lookup_insert, Option.some.injEq] at ht'
      subst ht'
      exact ⟨by simp [h1], by simp [h2], hout, hin⟩
  · simp only [hab, if_false, add_zero]
    exact hb.of_lookup (AList.lookup_insert_ne (Ne.symm hab))

theorem ensurePoolStateChangeLimit (ha : a ≠ cfg.omnipoolHubAsset) (hb : VolumeBooks a v s)
    {ai ao : AssetId} {ri ni ro no : Nat} (h : ensurePoolStateChangeLimit cfg s ai ri ni ao ro no = .ok s') :
    VolumeBooks a
      (v + (Call.poolStateChange ai ri ni ao ro no : Call AssetId AccountId).volumes a) s' := by
  obtain ⟨s₁, s₂, s₃, h₁, h₂, h₃, h₄⟩ := ensurePoolStateChangeLimit_eq_ok h
  have := (((hb.initializeTradeLimit h₁).initializeTradeLimit h₂).updateTradeVolume ha h₃).updateTradeVolume
    ha h₄
  simpa only [Call.volumes, add_assoc] using this

theorem step (ha : a ≠ cfg.omnipoolHubAsset) {c : Call AssetId AccountId} (hc : c ≠ .onFinalize)
    (hb : VolumeBooks a v s) (h : Limits.step cfg c s = .ok s') : VolumeBooks a (v + c.volumes a) s' := by
  cases c with
  | setTradeVolumeLimit origin b limit =>
    rw [Call.volumes, add_zero]
    exact hb.of_lookup (by rw [(setTradeVolumeLimit_limitsOnly h).trades])
  | setLiquidityLimit side origin b limit =>
    rw [Call.volumes, add_zero]
    exact hb.of_lookup (by rw [(setLiquidityLimit_limitsOnly h).trades])
  | poolStateChange ai ri ni ao ro no => exact hb.ensurePoolStateChangeLimit ha h
  | liquidityChange side origin b L x =>
    rw [Call.volumes, add_zero]
    exact hb.of_lookup (by rw [(ensureLiquidityLimit_liquidityOnly h).trades])
  | onFinalize => exact absurd rfl hc

theorem onFinalize (s : State AssetId) : VolumeBooks a 0 (Limits.onFinalize s) where
  absent _ := rfl
  present t ht := by simp [Limits.onFinalize] at ht

end VolumeBooks

namespace LiquidityBooks

variable {side : Side} {n : Nat}

theorem of_lookup (hb : LiquidityBooks side a n s)
    (h : (s'.allowedLiquidity side).lookup a = (s.allowedLiquidity side).lookup a) :
    LiquidityBooks side a n s' where
  absent h' := hb.absent (h ▸ h')
  present l hl := hb.present l (h ▸ hl)

/-- Writing the record of another asset, or of the other side, keeps the books of `a`. -/
theorem of_insert_ne (hb : LiquidityBooks side a n s) {side' : Side} {b : AssetId}
    {l : LiquidityLimit} (hne : ¬(side = side' ∧ b = a)) :
    LiquidityBooks side a n (s.setAllowedLiquidity side' ((s.allowedLiquidity side').insert b l)) := by
  apply hb.of_lookup
  rw [State.allowedLiquidity_setAllowedLiquidity]
  split_ifs with hs
  · subst hs
    exact AList.lookup_insert_ne fun e => hne ⟨rfl, e.symm⟩
  · rfl

theorem storeLiquidityLimit (hb : LiquidityBooks side a n s) {side' : Side} {b : AssetId} {L : Nat}
    (h : storeLiquidityLimit cfg s side' b L = .ok s') : LiquidityBooks side a n s' := by
  rcases storeLiquidityLimit_eq_ok h with ⟨rfl, -⟩ | ⟨hfresh, limit, maxLimit, -, -, rfl⟩
  · exact hb
  by_cases hsb : side = side' ∧ b = a
  · -- a fresh record: nothing was accepted before it
    obtain ⟨rfl, rfl⟩ := hsb
    have hn : n = 0 := hb.absent (AList.lookup_eq_none.mpr hfresh)
    subst hn
    constructor
    · simp
    · intro l hl
      simp only [State.allowedLiquidity_setAllowedLiquidity, if_true, AList.lookup_insert,
        Option.some.injEq] at hl
      subst hl
      simp
  · exact hb.of_insert_ne hsb

theorem ensureAndUpdateLiquidityLimit (ha : a ≠ cfg.omnipoolHubAsset) (hb : LiquidityBooks side a n s) {side' : Side}
    {b : AssetId} {x : Nat} (h : ensureAndUpdateLiquidityLimit cfg s side' b x = .ok s') :
    LiquidityBooks side a
      (n + if side' = side ∧ b = a ∧ (liquidityLimitPerAsset cfg s side a).isSome then x else 0) s' := by
  rcases ensureAndUpdateLiquidityLimit_eq_ok h with ⟨hc, hs⟩ | ⟨-, hsome, l, hl, -, hlim, rfl⟩
  · -- not limited: the change is not counted either
    have hnot : ¬(side' = side ∧ b = a ∧ (liquidityLimitPerAsset cfg s side a).isSome) := by
      rintro ⟨rfl, rfl, hsome⟩
      exact hc ⟨ha, hsome⟩
    rw [hs]
    simpa [hnot] using hb
  by_cases hsb : side = side' ∧ b = a
  · obtain ⟨rfl, rfl⟩ := hsb
    obtain ⟨hn, -⟩ := hb.present l hl
    simp only [true_and, hsome, if_true]
    constructor
    · simp
    · intro l' hl'
      simp only [State.allowedLiquidity_setAllowedLiquidity, if_true, AList.lookup_insert,
        Option.some.injEq] at hl'
      subst hl'
      exact ⟨by rw [hn], hlim⟩
  · have hnot : ¬(side' = side ∧ b = a ∧ (liquidityLimitPerAsset cfg s side a).isSome) := by
      rintro ⟨rfl, rfl, -⟩
      exact hsb ⟨rfl, rfl⟩
    simp only [hnot, if_false, add_zero]
    exact hb.of_insert_ne hsb

theorem step (ha : a ≠ cfg.omnipoolHubAsset) {c : Call AssetId AccountId} (hc : c ≠ .onFinalize)
    (hb : LiquidityBooks side a n s) (h : Limits.step cfg c s = .ok s') :
    LiquidityBooks side a (n + c.liquidity cfg side a s) s' := by
  cases c with
  | setTradeVolumeLimit origin b limit =>
    rw [Call.liquidity, add_zero]
    exact hb.of_lookup (by rw [(setTradeVolumeLimit_limitsOnly h).liquidity])
  | setLiquidityLimit side' origin b limit =>
    rw [Call.liquidity, add_zero]
    exact hb.of_lookup (by rw [(setLiquidityLimit_limitsOnly h).liquidity])
  | poolStateChange ai ri ni ao ro no =>
    rw [Call.liquidity, add_zero]
    exact hb.of_lookup (by rw [(ensurePoolStateChangeLimit_tradesOnly h).liquidity])
  | liquidityChange side' origin b L x =>
    rcases ensureLiquidityLimit_eq_ok h with ⟨hw, rfl⟩ | ⟨hw, s₁, h₁, h₂⟩
    · -- root and the whitelisted accounts pass unrecorded
      simpa [Call.liquidity, isOriginWhitelistedOrRoot_eq_ok hw] using hb
    · have hcfg : liquidityLimitPerAsset cfg s₁ side a = liquidityLimitPerAsset cfg s side a :=
        liquidityLimitPerAsset_congr ((calculateAndStoreLiquidityLimits_liquidityOnly h₁).liquidityLimits side)
      have hb₁ : LiquidityBooks side a n s₁ := by
        rcases calculateAndStoreLiquidityLimits_eq_ok h₁ with ⟨-, rfl⟩ | ⟨-, s₂, h₃, h₄⟩
        · exact hb
        · exact (hb.storeLiquidityLimit h₃).storeLiquidityLimit h₄
      have := hb₁.ensureAndUpdateLiquidityLimit ha h₂
      simpa [Call.liquidity, isOriginWhitelistedOrRoot_eq_ok hw, hcfg] using this
  | onFinalize => exact absurd rfl hc

theorem onFinalize (s : State AssetId) : LiquidityBooks side a 0 (Limits.onFinalize s) where
  absent _ := rfl
  present l hl := by cases side <;> simp [Limits.onFinalize, State.allowedLiquidity] at hl

end LiquidityBooks

end Books

/-! ## Whole blocks -/

section Block

variable {AssetId AccountId : Type} [DecidableEq AssetId] {cfg : Config AssetId AccountId}
  {a : AssetId}

/-- In every block the record of an asset's traded volume holds exactly the volumes of the trades
the block accepted, and their net stays within the record's limit, whatever the order of the
trades and of the other events of the block. -/
theorem block_trade_volume_within_limit (ha : a ≠ cfg.omnipoolHubAsset) (s : State AssetId)
    {cs : List (Call AssetId AccountId)} (hcs : ∀ c ∈ cs, c ≠ .onFinalize) :
    VolumeBooks a (acceptedSum (step cfg) (fun c _ => c.volumes a) cs (onFinalize s))
      (run (step cfg) cs (onFinalize s)) := by
  have hstep : ∀ (c : Call AssetId AccountId) (s s' : State AssetId) (v : Nat × Nat),
      c ≠ .onFinalize → VolumeBooks a v s → step cfg c s = .ok s' →
        VolumeBooks a (v + c.volumes a) s' :=
    fun c s s' v hc hb h => hb.step ha hc h
  have h := run_accepted hstep cs 0 hcs (VolumeBooks.onFinalize s)
  rwa [zero_add] at h

theorem block_trade_volume_within_limit_blockRun :
    (2 : Nat) ≠ exampleConfig.omnipoolHubAsset ∧ (∀ c ∈ firstTrade :: blockRest, c ≠ .onFinalize) ∧
      VolumeBooks 2 (acceptedSum (step exampleConfig) (fun c _ => c.volumes 2) (firstTrade :: blockRest)
        (onFinalize emptyState)) (run (step exampleConfig) (firstTrade :: blockRest) (onFinalize emptyState)) :=
  have hcs : ∀ c ∈ firstTrade :: blockRest, c ≠ .onFinalize := by simp [firstTrade, blockRest]
  ⟨by decide, hcs, block_trade_volume_within_limit (by decide) emptyState hcs⟩

example : (run (step exampleConfig) (firstTrade :: blockRest) (onFinalize emptyState)).allowedTradeVolumeLimitPerAsset.lookup 2 =
    some ⟨300, 250, 500⟩ := by decide

/-- In every block the record of an asset's liquidity added (or removed) holds exactly what the
block accepted from the origins it limits, and stays within the record's limit. -/
theorem block_liquidity_within_limit (ha : a ≠ cfg.omnipoolHubAsset) (side : Side) (s : State AssetId)
    {cs : List (Call AssetId AccountId)} (hcs : ∀ c ∈ cs, c ≠ .onFinalize) :
    LiquidityBooks side a (acceptedSum (step cfg) (Call.liquidity cfg side a) cs (onFinalize s))
      (run (step cfg) cs (onFinalize s)) := by
  have hstep : ∀ (c : Call AssetId AccountId) (s s' : State AssetId) (n : Nat),
      c ≠ .onFinalize → LiquidityBooks side a n s → step cfg c s = .ok s' →
        LiquidityBooks side a (n + c.liquidity cfg side a s) s' :=
    fun c s s' n hc hb h => hb.step ha hc h
  have h := run_accepted hstep cs 0 hcs (LiquidityBooks.onFinalize s)
  rwa [zero_add] at h

theorem block_liquidity_within_limit_blockRun :
    (2 : Nat) ≠ exampleConfig.omnipoolHubAsset ∧ (∀ c ∈ firstTrade :: blockRest, c ≠ .onFinalize) ∧
      LiquidityBooks .add 2 (acceptedSum (step exampleConfig) (Call.liquidity exampleConfig .add 2)
        (firstTrade :: blockRest) (onFinalize emptyState))
        (run (step exampleConfig) (firstTrade :: blockRest) (onFinalize emptyState)) :=
  have hcs : ∀ c ∈ firstTrade :: blockRest, c ≠ .onFinalize := by simp [firstTrade, blockRest]
  ⟨by decide, hcs, block_liquidity_within_limit (by decide) .add emptyState hcs⟩

example : (run (step exampleConfig) (firstTrade :: blockRest) (onFinalize emptyState)).allowedAddLiquidityAmountPerAsset.lookup 2 =
    some ⟨40, 52⟩ := by decide

/-- The reserve from which an event fixes the limit of `a` when `a` has no record yet:
`initialize_trade_limit` runs for the asset sold first. -/
def Call.firstReserve (a : AssetId) : Call AssetId AccountId → Option Nat
  | .poolStateChange assetIn assetInReserve _ assetOut assetOutReserve _ =>
    if assetIn = a then some assetInReserve
    else if assetOut = a then some assetOutReserve else none
  | .setTradeVolumeLimit .. | .setLiquidityLimit .. | .liquidityChange .. | .onFinalize => none

/-- The record of `a` exists with limit `L`. -/
def LimitIs (a : AssetId) (L : Nat) (s : State AssetId) : Prop :=
  ∃ t, s.allowedTradeVolumeLimitPerAsset.lookup a = some t ∧ t.limit = L

variable {s s' : State AssetId} {L : Nat}

theorem LimitIs.of_lookup (hl : LimitIs a L s)
    (h : s'.allowedTradeVolumeLimitPerAsset.lookup a = s.allowedTradeVolumeLimitPerAsset.lookup a) :
    LimitIs a L s' := by
  obtain ⟨t, ht, hL⟩ := hl
  exact ⟨t, h.trans ht, hL⟩

theorem LimitIs.initializeTradeLimit (hl : LimitIs a L s) {b : AssetId} {r : Nat}
    (h : initializeTradeLimit cfg s b r = .ok s') : LimitIs a L s' := by
  rcases initializeTradeLimit_eq_ok h with ⟨rfl, -⟩ | ⟨-, hfresh, limit, -, rfl⟩
  · exact hl
  apply hl.of_lookup
  apply AList.lookup_insert_ne
  -- `b` had no record, and `a` has one
  rintro rfl
  obtain ⟨t, ht, -⟩ := hl
  exact hfresh (AList.lookup_isSome.mp (by rw [ht]; rfl))

theorem LimitIs.updateTradeVolume (hl : LimitIs a L s) {b : AssetId} {i o : Nat}
    (h : updateTradeVolume cfg s b i o = .ok s') : LimitIs a L s' := by
  rcases updateTradeVolume_eq_ok h with ⟨-, rfl⟩ | ⟨-, t, ht, -, -, -, -, rfl⟩
  · exact hl
  by_cases hab : b = a
  · subst hab
    obtain ⟨t', ht', hL⟩ := hl
    rw [ht, Option.some.injEq] at ht'
    subst ht'
    exact ⟨_, AList.lookup_insert _, hL⟩
  · exact hl.of_lookup (AList.lookup_insert_ne (Ne.symm hab))

/-- Once a record exists, no event of the block changes its limit. -/
theorem LimitIs.step (hl : LimitIs a L s) {c : Call AssetId AccountId} (hc : c ≠ .onFinalize)
    (h : Limits.step cfg c s = .ok s') : LimitIs a L s' := by
  cases c with
  | setTradeVolumeLimit origin b limit =>
    exact hl.of_lookup (by rw [(setTradeVolumeLimit_limitsOnly h).trades])
  | setLiquidityLimit side origin b limit =>
    exact hl.of_lookup (by rw [(setLiquidityLimit_limitsOnly h).trades])
  | poolStateChange ai ri ni ao ro no =>
    obtain ⟨s₁, s₂, s₃, h₁, h₂, h₃, h₄⟩ := ensurePoolStateChangeLimit_eq_ok h
    exact (((hl.initializeTradeLimit h₁).initializeTradeLimit h₂).updateTradeVolume h₃).updateTradeVolume h₄
  | liquidityChange side origin b L x =>
    exact hl.of_lookup (by rw [(ensureLiquidityLimit_liquidityOnly h).trades])
  | onFinalize => exact absurd rfl hc

/-- A trade of `a` when `a` has no record fixes its limit from the reserve it reports and the
limit configured at that moment. -/
theorem LimitIs.first (ha : a ≠ cfg.omnipoolHubAsset) (habs : s.allowedTradeVolumeLimitPerAsset.lookup a = none)
    {c : Call AssetId AccountId} {r : Nat} (hr : c.firstReserve a = some r)
    (h : Limits.step cfg c s = .ok s') :
    ∃ L, calculateLimit r (tradeVolumeLimitPerAsset cfg s a) = .ok L ∧ LimitIs a L s' := by
  cases c
  case poolStateChange ai ri ni ao ro no =>
    obtain ⟨s₁, s₂, s₃, h₁, h₂, h₃, h₄⟩ := ensurePoolStateChangeLimit_eq_ok h
    -- the initialization that creates the record, from the state `s₀` before it
    have hnew : ∀ {s₀ s₁ : State AssetId} {r₀ : Nat},
        s₀.allowedTradeVolumeLimitPerAsset.lookup a = none →
        s₀.tradeVolumeLimitPerAsset = s.tradeVolumeLimitPerAsset →
        Limits.initializeTradeLimit cfg s₀ a r₀ = .ok s₁ →
        ∃ L, calculateLimit r₀ (tradeVolumeLimitPerAsset cfg s a) = .ok L ∧ LimitIs a L s₁ := by
      intro s₀ s₁ r₀ habs₀ hcfg h₀
      rcases initializeTradeLimit_eq_ok h₀ with ⟨-, hh | hm⟩ | ⟨-, -, limit, hlimit, rfl⟩
      · exact absurd hh ha
      · exact absurd (AList.lookup_eq_none.mp habs₀) (not_not.mpr hm)
      · rw [tradeVolumeLimitPerAsset, hcfg] at hlimit
        exact ⟨limit, hlimit, ⟨_, AList.lookup_insert _, rfl⟩⟩
    simp only [Call.firstReserve] at hr
    split_ifs at hr with hi ho
    · subst ai
      cases hr
      obtain ⟨L, hL, hl₁⟩ := hnew habs rfl h₁
      exact ⟨L, hL, ((hl₁.initializeTradeLimit h₂).updateTradeVolume h₃).updateTradeVolume h₄⟩
    · subst ao
      cases hr
      have habs₁ : s₁.allowedTradeVolumeLimitPerAsset.lookup a = none := by
        rcases initializeTradeLimit_eq_ok h₁ with ⟨rfl, -⟩ | ⟨-, -, limit, -, rfl⟩
        · exact habs
        · rw [AList.lookup_insert_ne (Ne.symm hi)]
          exact habs
      obtain ⟨L, hL, hl₂⟩ := hnew habs₁ (initializeTradeLimit_tradesOnly h₁).tradeLimits h₂
      exact ⟨L, hL, (hl₂.updateTradeVolume h₃).updateTradeVolume h₄⟩
  all_goals simp [Call.firstReserve] at hr

/-- The limit of a block is fixed by its first accepted trade of the asset, from the reserve that
trade reports and the limit configured then, and stays for the rest of the block, whatever else
happens in it (a new configured limit included). -/
theorem block_limit_fixed_at_first_trade (ha : a ≠ cfg.omnipoolHubAsset) {s₁ : State AssetId}
    (habs : s.allowedTradeVolumeLimitPerAsset.lookup a = none) {c : Call AssetId AccountId}
    {r : Nat} (hr : c.firstReserve a = some r) (hc : step cfg c s = .ok s₁)
    {cs : List (Call AssetId AccountId)} (hcs : ∀ c ∈ cs, c ≠ .onFinalize) :
    ∃ L, calculateLimit r (tradeVolumeLimitPerAsset cfg s a) = .ok L ∧
      ∃ t, (run (step cfg) cs s₁).allowedTradeVolumeLimitPerAsset.lookup a = some t ∧ t.limit = L := by
  obtain ⟨L, hL, hl⟩ := LimitIs.first ha habs hr hc
  exact ⟨L, hL, run_induction (fun c s s' hc hl h => LimitIs.step hl hc h) cs hcs hl⟩

theorem block_limit_fixed_at_first_trade_blockRun :
    (2 : Nat) ≠ exampleConfig.omnipoolHubAsset ∧
      ∃ L, calculateLimit 1000 (tradeVolumeLimitPerAsset exampleConfig emptyState 2) = .ok L ∧
        ∃ t, (run (step exampleConfig) blockRest
          (applyCall (step exampleConfig) firstTrade emptyState)).allowedTradeVolumeLimitPerAsset.lookup 2 =
            some t ∧ t.limit = L :=
  ⟨by decide, block_limit_fixed_at_first_trade (c := firstTrade) (by decide) rfl rfl rfl
    (by simp [blockRest])⟩

end Block

/-! ## What the limits never fail with -/

section Errors

variable {AssetId AccountId : Type} [DecidableEq AssetId] {cfg : Config AssetId AccountId}
  {s s' : State AssetId}

/-- The errors an event may fail with, when `V` says the configured limits are valid: never for a
missing record (`LiquidityLimitNotStoredForAsset`), and never by a division by zero under `V`. -/
def SafeError (V : Prop) (e : Error) : Prop :=
  e ≠ .liquidityLimitNotStoredForAsset ∧ (V → e ≠ .divisionByZero)

/-- The configured limits that `set_trade_volume_limit`, `set_add_liquidity_limit` and
`set_remove_liquidity_limit` store are valid. -/
structure ValidLimits (s : State AssetId) : Prop where
  trade : ∀ a l, s.tradeVolumeLimitPerAsset.lookup a = some l → validateLimit l = .ok ()
  liquidity : ∀ side a l, (s.liquidityLimitPerAsset side).lookup a = some (some l) →
    validateLimit l = .ok ()

/-- What `integrity_test` asserts of the runtime's default limits. -/
def Config.ValidDefaults (cfg : Config AssetId AccountId) : Prop :=
  validateLimit cfg.defaultMaxNetTradeVolumeLimitPerBlock = .ok () ∧
    ∀ side l, defaultLiquidityLimit cfg side = some l → validateLimit l = .ok ()

variable {V : Prop}

theorem safeError_of_ne {e : Error}
    (h : e ≠ .liquidityLimitNotStoredForAsset ∧ e ≠ .divisionByZero) : SafeError V e :=
  ⟨h.1, fun _ => h.2⟩

theorem calculateLimit_errorsIn {L : Nat} {limit : Nat × Nat} (hv : V → validateLimit limit = .ok ()) :
    ErrorsIn (SafeError V) (calculateLimit L limit) := by
  unfold calculateLimit
  refine errorsIn_bind (errorsIn_okOr (safeError_of_ne (by decide))) fun product _ => ?_
  intro e he
  cases hd : Word.checkedDiv product limit.2 with
  | some q =>
    rw [hd] at he
    cases he
  | none =>
    rw [hd] at he
    cases he
    -- the division fails by a zero denominator only, which a valid limit does not have
    refine ⟨by decide, fun hV => absurd hd ?_⟩
    have hden : limit.2 ≠ 0 := (validateLimit_eq_ok.mp (hv hV)).2.2.2
    simp [Word.checkedDiv, hden]

theorem initializeTradeLimit_errorsIn {a : AssetId} {r : Nat}
    (hv : V → validateLimit (tradeVolumeLimitPerAsset cfg s a) = .ok ()) :
    ErrorsIn (SafeError V) (initializeTradeLimit cfg s a r) := by
  unfold initializeTradeLimit
  split_ifs
  · exact errorsIn_bind (calculateLimit_errorsIn hv) fun _ _ => errorsIn_pure _
  · exact errorsIn_pure _

theorem checkNetLimit_errorsIn {more less limit : Nat} {e : Error}
    (he : e ≠ .liquidityLimitNotStoredForAsset ∧ e ≠ .divisionByZero) :
    ErrorsIn (SafeError V) (checkNetLimit more less limit e) := by
  unfold checkNetLimit
  split_ifs
  · exact errorsIn_bind (errorsIn_okOr (safeError_of_ne (by decide))) fun _ _ =>
      errorsIn_ensure (safeError_of_ne he)
  · exact errorsIn_pure _

theorem initializeTradeLimit_mem {b : AssetId} {r : Nat} (h : initializeTradeLimit cfg s b r = .ok s') :
    (b ≠ cfg.omnipoolHubAsset → b ∈ s'.allowedTradeVolumeLimitPerAsset) ∧
      ∀ x ∈ s.allowedTradeVolumeLimitPerAsset, x ∈ s'.allowedTradeVolumeLimitPerAsset := by
  rcases initializeTradeLimit_eq_ok h with ⟨rfl, hh | hm⟩ | ⟨-, -, limit, -, rfl⟩
  · exact ⟨fun hb => absurd hh hb, fun _ hx => hx⟩
  · exact ⟨fun _ => hm, fun _ hx => hx⟩
  · exact ⟨fun _ => (AList.mem_insert _).mpr (.inl rfl), fun _ hx => (AList.mem_insert _).mpr (.inr hx)⟩

theorem updateTradeVolume_mem {b : AssetId} {i o : Nat} (h : updateTradeVolume cfg s b i o = .ok s') :
    ∀ x ∈ s.allowedTradeVolumeLimitPerAsset, x ∈ s'.allowedTradeVolumeLimitPerAsset := by
  rcases updateTradeVolume_eq_ok h with ⟨-, rfl⟩ | ⟨-, t, -, -, -, -, -, rfl⟩
  · exact fun _ hx => hx
  · exact fun _ hx => (AList.mem_insert _).mpr (.inr hx)

/-- The update of a side finds its record whenever the side is not the hub asset's. -/
theorem updateTradeVolume_errorsIn {b : AssetId} {i o : Nat}
    (hm : b ≠ cfg.omnipoolHubAsset → b ∈ s.allowedTradeVolumeLimitPerAsset) :
    ErrorsIn (SafeError V) (updateTradeVolume cfg s b i o) := by
  unfold updateTradeVolume
  split_ifs with hb
  · obtain ⟨t, ht⟩ := Option.isSome_iff_exists.mp (AList.lookup_isSome.mpr (hm hb))
    rw [ht]
    refine errorsIn_bind errorsIn_okOr_some fun t _ => ?_
    refine errorsIn_bind ?_ fun t' _ => ?_
    · unfold TradeVolumeLimit.updateAmounts
      exact errorsIn_bind (errorsIn_okOr (safeError_of_ne (by decide))) fun _ _ =>
        errorsIn_bind (errorsIn_okOr (safeError_of_ne (by decide))) fun _ _ => errorsIn_pure _
    · refine errorsIn_bind ?_ fun _ _ => errorsIn_pure _
      unfold TradeVolumeLimit.checkLimits TradeVolumeLimit.checkOutflowLimit
        TradeVolumeLimit.checkInfluxLimit
      refine errorsIn_bind (checkNetLimit_errorsIn ?_) fun _ _ => checkNetLimit_errorsIn ?_
      all_goals decide
  · exact errorsIn_pure _

theorem ensurePoolStateChangeLimit_errorsIn {ai ao : AssetId} {ri ni ro no : Nat}
    (hv : V → validateLimit (tradeVolumeLimitPerAsset cfg s ai) = .ok () ∧
      validateLimit (tradeVolumeLimitPerAsset cfg s ao) = .ok ()) :
    ErrorsIn (SafeError V) (ensurePoolStateChangeLimit cfg s ai ri ni ao ro no) := by
  unfold ensurePoolStateChangeLimit ensureAndUpdateTradeVolumeLimit
  refine errorsIn_bind (initializeTradeLimit_errorsIn fun hV => (hv hV).1) fun s₁ h₁ => ?_
  have hcfg := (initializeTradeLimit_tradesOnly h₁).tradeLimits
  refine errorsIn_bind (initializeTradeLimit_errorsIn fun hV => ?_) fun s₂ h₂ => ?_
  · rw [tradeVolumeLimitPerAsset, hcfg]
    exact (hv hV).2
  -- both initializations leave a record for each side that is not the hub asset
  obtain ⟨hi₁, -⟩ := initializeTradeLimit_mem h₁
  obtain ⟨ho₂, hk₂⟩ := initializeTradeLimit_mem h₂
  refine errorsIn_bind (updateTradeVolume_errorsIn fun hb => hk₂ _ (hi₁ hb)) fun s₃ h₃ => ?_
  exact updateTradeVolume_errorsIn fun hb => updateTradeVolume_mem h₃ _ (ho₂ hb)

theorem storeLiquidityLimit_errorsIn {side : Side} {b : AssetId} {L : Nat}
    (hv : V → ∀ l, liquidityLimitPerAsset cfg s side b = some l → validateLimit l = .ok ()) :
    ErrorsIn (SafeError V) (storeLiquidityLimit cfg s side b L) := by
  unfold storeLiquidityLimit
  cases hl : liquidityLimitPerAsset cfg s side b with
  | none => exact errorsIn_pure _
  | some limit =>
    dsimp only
    split_ifs
    · exact errorsIn_pure _
    · exact errorsIn_bind (calculateLimit_errorsIn fun hV => hv hV limit hl) fun _ _ => errorsIn_pure _

theorem storeLiquidityLimit_mem {side : Side} {b : AssetId} {L : Nat}
    (h : storeLiquidityLimit cfg s side b L = .ok s') :
    ((liquidityLimitPerAsset cfg s side b).isSome → b ∈ s'.allowedLiquidity side) ∧
      ∀ side' x, x ∈ s.allowedLiquidity side' → x ∈ s'.allowedLiquidity side' := by
  rcases storeLiquidityLimit_eq_ok h with ⟨rfl, hm⟩ | ⟨-, limit, maxLimit, -, -, rfl⟩
  · exact ⟨hm, fun _ _ hx => hx⟩
  refine ⟨fun _ => by simp, fun side' x hx => ?_⟩
  rw [State.allowedLiquidity_setAllowedLiquidity]
  split_ifs with hs
  · subst hs
    exact (AList.mem_insert _).mpr (.inr hx)
  · exact hx

theorem calculateAndStoreLiquidityLimits_errorsIn {b : AssetId} {L : Nat}
    (hv : V → ∀ side l, liquidityLimitPerAsset cfg s side b = some l → validateLimit l = .ok ()) :
    ErrorsIn (SafeError V) (calculateAndStoreLiquidityLimits cfg s b L) := by
  unfold calculateAndStoreLiquidityLimits
  split_ifs
  · exact errorsIn_pure _
  refine errorsIn_bind (storeLiquidityLimit_errorsIn fun hV => hv hV .add) fun s₁ h₁ => ?_
  refine storeLiquidityLimit_errorsIn fun hV l hl => hv hV .remove l ?_
  rwa [liquidityLimitPerAsset_congr ((storeLiquidityLimit_liquidityOnly h₁).liquidityLimits .remove)] at hl

/-- After `calculate_and_store_liquidity_limits`, each limited side of the asset has its record. -/
theorem calculateAndStoreLiquidityLimits_mem {b : AssetId} {L : Nat}
    (h : calculateAndStoreLiquidityLimits cfg s b L = .ok s') (hb : b ≠ cfg.omnipoolHubAsset) :
    ∀ side, (liquidityLimitPerAsset cfg s side b).isSome → b ∈ s'.allowedLiquidity side := by
  rcases calculateAndStoreLiquidityLimits_eq_ok h with ⟨hh, -⟩ | ⟨-, s₁, h₁, h₂⟩
  · exact absurd hh hb
  intro side hsome
  obtain ⟨hadd, -⟩ := storeLiquidityLimit_mem h₁
  obtain ⟨hrem, hk₂⟩ := storeLiquidityLimit_mem h₂
  cases side with
  | add => exact hk₂ .add b (hadd hsome)
  | remove =>
    apply hrem
    rwa [liquidityLimitPerAsset_congr ((storeLiquidityLimit_liquidityOnly h₁).liquidityLimits .remove)]

theorem ensureAndUpdateLiquidityLimit_errorsIn {side : Side} {b : AssetId} {x : Nat}
    (hm : b ≠ cfg.omnipoolHubAsset → (liquidityLimitPerAsset cfg s side b).isSome →
      b ∈ s.allowedLiquidity side) :
    ErrorsIn (SafeError V) (ensureAndUpdateLiquidityLimit cfg s side b x) := by
  unfold ensureAndUpdateLiquidityLimit
  split_ifs with hc
  · obtain ⟨l, hl⟩ := Option.isSome_iff_exists.mp (AList.lookup_isSome.mpr (hm hc.1 hc.2))
    rw [hl]
    refine errorsIn_bind errorsIn_okOr_some fun l _ => ?_
    refine errorsIn_bind ?_ fun l' _ => ?_
    · unfold LiquidityLimit.updateAmount
      exact errorsIn_bind (errorsIn_okOr (safeError_of_ne (by decide))) fun _ _ => errorsIn_pure _
    · exact errorsIn_bind (errorsIn_ensure (safeError_of_ne (by decide))) fun _ _ => errorsIn_pure _
  · exact errorsIn_pure _

theorem ensureLiquidityLimit_errorsIn {side : Side} {origin : Origin AccountId} {b : AssetId}
    {L x : Nat}
    (hv : V → ∀ side l, liquidityLimitPerAsset cfg s side b = some l → validateLimit l = .ok ()) :
    ErrorsIn (SafeError V) (ensureLiquidityLimit cfg s side origin b L x) := by
  unfold ensureLiquidityLimit
  refine errorsIn_bind ?_ fun w _ => ?_
  · cases origin with
    | root => exact errorsIn_pure _
    | signed who => exact errorsIn_pure _
    | none =>
      intro e he
      cases he
      exact safeError_of_ne (by decide)
  cases w with
  | true => exact errorsIn_pure _
  | false =>
    refine errorsIn_bind (calculateAndStoreLiquidityLimits_errorsIn hv) fun s₁ h₁ => ?_
    refine ensureAndUpdateLiquidityLimit_errorsIn fun hb hsome => ?_
    apply calculateAndStoreLiquidityLimits_mem h₁ hb side
    rwa [liquidityLimitPerAsset_congr
      ((calculateAndStoreLiquidityLimits_liquidityOnly h₁).liquidityLimits side)] at hsome

theorem ValidLimits.tradeVolumeLimitPerAsset (hs : ValidLimits s) (hd : cfg.ValidDefaults)
    (a : AssetId) : validateLimit (tradeVolumeLimitPerAsset cfg s a) = .ok () := by
  unfold Limits.tradeVolumeLimitPerAsset
  cases h : s.tradeVolumeLimitPerAsset.lookup a with
  | none => exact hd.1
  | some l => exact hs.trade a l h

theorem ValidLimits.liquidityLimitPerAsset (hs : ValidLimits s) (hd : cfg.ValidDefaults)
    (side : Side) (a : AssetId) (l : Nat × Nat) (h : liquidityLimitPerAsset cfg s side a = some l) :
    validateLimit l = .ok () := by
  unfold Limits.liquidityLimitPerAsset at h
  cases h' : (s.liquidityLimitPerAsset side).lookup a with
  | none =>
    rw [h', Option.getD_none] at h
    exact hd.2 side l h
  | some o =>
    rw [h', Option.getD_some] at h
    subst h
    exact hs.liquidity side a l h'

theorem step_errorsIn (hv : V → ValidLimits s ∧ cfg.ValidDefaults) (c : Call AssetId AccountId) :
    ErrorsIn (SafeError V) (step cfg c s) := by
  cases c with
  | setTradeVolumeLimit origin b limit =>
    unfold step setTradeVolumeLimit validateLimit
    refine errorsIn_bind (errorsIn_ensure (safeError_of_ne (by decide))) fun _ _ => ?_
    refine errorsIn_bind (errorsIn_ensure (safeError_of_ne (by decide))) fun _ _ => ?_
    refine errorsIn_bind ?_ fun _ _ => errorsIn_pure _
    exact errorsIn_bind (errorsIn_ensure (safeError_of_ne (by decide))) fun _ _ =>
      errorsIn_ensure (safeError_of_ne (by decide))
  | setLiquidityLimit side origin b limit =>
    unfold step setLiquidityLimit
    refine errorsIn_bind (errorsIn_ensure (safeError_of_ne (by decide))) fun _ _ => ?_
    refine errorsIn_bind (errorsIn_ensure (safeError_of_ne (by decide))) fun _ _ => ?_
    cases limit with
    | none => exact errorsIn_pure _
    | some l =>
      refine errorsIn_bind ?_ fun _ _ => errorsIn_pure _
      unfold validateLimit
      exact errorsIn_bind (errorsIn_ensure (safeError_of_ne (by decide))) fun _ _ =>
        errorsIn_ensure (safeError_of_ne (by decide))
  | poolStateChange ai ri ni ao ro no =>
    exact ensurePoolStateChangeLimit_errorsIn fun hV =>
      ⟨(hv hV).1.tradeVolumeLimitPerAsset (hv hV).2 ai, (hv hV).1.tradeVolumeLimitPerAsset (hv hV).2 ao⟩
  | liquidityChange side origin b L x =>
    exact ensureLiquidityLimit_errorsIn fun hV side' l hl =>
      (hv hV).1.liquidityLimitPerAsset (hv hV).2 side' b l hl
  | onFinalize => exact errorsIn_pure _

/-- A check of an event never fails for want of a record: the hooks store the record of every
asset they check before they check it. -/
theorem limits_never_miss_a_record (s : State AssetId) (c : Call AssetId AccountId) :
    step cfg c s ≠ .error .liquidityLimitNotStoredForAsset :=
  fun h => (step_errorsIn (V := False) (fun h => h.elim) c _ h).1 rfl

theorem ValidLimits.step (hs : ValidLimits s) {c : Call AssetId AccountId}
    (h : Limits.step cfg c s = .ok s') : ValidLimits s' := by
  cases c with
  | setTradeVolumeLimit origin b limit =>
    obtain ⟨hv, rfl⟩ := setTradeVolumeLimit_eq_ok h
    refine ⟨fun a l hl => ?_, fun side a l hl => hs.liquidity side a l (by simpa using hl)⟩
    by_cases hab : a = b
    · subst hab
      simp only [AList.lookup_insert, Option.some.injEq] at hl
      exact hl ▸ hv
    · exact hs.trade a l (by rwa [AList.lookup_insert_ne hab] at hl)
  | setLiquidityLimit side origin b limit =>
    obtain ⟨hv, rfl⟩ := setLiquidityLimit_eq_ok h
    refine ⟨fun a l hl => hs.trade a l (by simpa using hl), fun side' a l hl => ?_⟩
    simp only [State.liquidityLimitPerAsset_setLiquidityLimitPerAsset] at hl
    split_ifs at hl with hs'
    · by_cases hab : a = b
      · subst hab
        simp only [AList.lookup_insert, Option.some.injEq] at hl
        exact hv l hl
      · rw [AList.lookup_insert_ne hab] at hl
        exact hs.liquidity side' a l (hs' ▸ hl)
    · exact hs.liquidity side' a l hl
  | poolStateChange ai ri ni ao ro no =>
    have hf := ensurePoolStateChangeLimit_tradesOnly h
    exact ⟨fun a l hl => hs.trade a l (hf.tradeLimits ▸ hl),
      fun side a l hl => hs.liquidity side a l (hf.liquidityLimits side ▸ hl)⟩
  | liquidityChange side origin b L x =>
    have hf := ensureLiquidityLimit_liquidityOnly h
    exact ⟨fun a l hl => hs.trade a l (hf.tradeLimits ▸ hl),
      fun side a l hl => hs.liquidity side a l (hf.liquidityLimits side ▸ hl)⟩
  | onFinalize =>
    cases h
    exact ⟨hs.trade, fun side => hs.liquidity side⟩

/-- Under the defaults `integrity_test` asserts, no event of any run from valid configured limits
divides by zero: the extrinsics store valid limits only. -/
theorem limits_never_divide_by_zero (hd : cfg.ValidDefaults) {s : State AssetId}
    (hs : Reachable ValidLimits (step cfg) s) (c : Call AssetId AccountId) :
    step cfg c s ≠ .error .divisionByZero := by
  have hv : ValidLimits s := hs.induction (fun _ h => h) fun _ _ _ hs h => hs.step h
  exact fun h => (step_errorsIn (V := True) (fun _ => ⟨hv, hd⟩) c _ h).2 trivial rfl

theorem exampleConfig_validDefaults : exampleConfig.ValidDefaults := by
  refine ⟨rfl, ?_⟩
  intro side l h
  cases side <;>
  · simp only [defaultLiquidityLimit, exampleConfig, Option.some.injEq] at h
    subst h
    rfl

theorem emptyState_validLimits : ValidLimits emptyState where
  trade _ _ h := by simp [emptyState] at h
  liquidity side _ _ h := by cases side <;> simp [emptyState, State.liquidityLimitPerAsset] at h

theorem limits_never_divide_by_zero_blockRun :
    exampleConfig.ValidDefaults ∧ step exampleConfig firstTrade
      (run (step exampleConfig) blockRest emptyState) ≠ .error .divisionByZero :=
  ⟨exampleConfig_validDefaults, limits_never_divide_by_zero exampleConfig_validDefaults
    (reachable_run blockRest (.init emptyState_validLimits)) firstTrade⟩

end Errors

end Hydration.CircuitBreaker.Limits
