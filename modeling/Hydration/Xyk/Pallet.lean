import Hydration.Xyk.Math
import Hydration.Frame.Storage
import Hydration.Frame.Dispatch

/-!
# The XYK pallet

`pallets/xyk/src/lib.rs`. A pool of two assets lives at the account
`AssetPairAccountId::from_assets(a, b, "xyk")`, a hash of the ordered pair, and holds its
reserves as that account's free balances. Its storage is `ShareToken` (the registry's asset for
the pool's shares, whose keys are the pools that exist), `PoolAssets` (the two assets in the
order `create_pool` was given them) and `TotalLiquidity` (the shares issued).

Each call is a function `State → Except DispatchError State`: an error rolls the whole call
back, as every dispatchable is transactional. What the pallet does not own is the `World`: the
free balances of every account and the total issuance of every asset, as `orml_tokens` keeps
them (`deposit` and `withdraw` move the issuance, `transfer` does not). A signed `transfer` of
the currencies pallet is a call too: it moves balances between accounts, into pool accounts
included, and leaves the pallet's storage alone.

The runtime gives the pallet a `Config`: the constants, the pair account hash, the asset
registry's answer for the name of a pair, `CanCreatePool`, and the verdict of the
`AMMHandler` hooks, which write no storage of this pallet. `on_create_pool` is called and its
result ignored, and the dust whitelist of the duster always accepts a pool account, so neither
is modelled; nor are events.
-/

namespace Hydration.Xyk

open Frame

/-- The pallet's errors. -/
inductive Error
  | cannotCreatePoolWithSameAssets
  | insufficientLiquidity
  | insufficientTradingAmount
  | zeroLiquidity
  | invalidMintedLiquidity
  | invalidLiquidityAmount
  | assetAmountExceededLimit
  | assetAmountNotReachedLimit
  | insufficientAssetBalance
  | insufficientPoolAssetBalance
  | insufficientNativeCurrencyBalance
  | tokenPoolNotFound
  | tokenPoolAlreadyExists
  | addAssetAmountInvalid
  | removeAssetAmountInvalid
  | sellAssetAmountInvalid
  | buyAssetAmountInvalid
  | feeAmountInvalid
  | maxOutRatioExceeded
  | maxInRatioExceeded
  | overflow
  | cannotCreatePool
  | slippageLimit
  deriving DecidableEq, Repr

/-- What a call fails with: the pallet's errors, a balance too low for a transfer or a burn, an
issuance that would overflow, the registry's refusal of a share token, and a hook's refusal. -/
inductive DispatchError
  | xyk (e : Error)
  | balanceTooLow
  | arithmeticOverflow
  | registry
  | hook
  deriving DecidableEq, Repr

/-- `AssetPair`: `asset_in` comes into the pool, `asset_out` goes out. -/
structure AssetPair (AssetId : Type) where
  assetIn : AssetId
  assetOut : AssetId
  deriving DecidableEq, Repr

/-- What the pallet does not own: free balances and `orml_tokens::TotalIssuance`. -/
structure World (AccountId AssetId : Type) where
  free : Balances AssetId AccountId
  totalIssuance : AssetId → Nat

/-- The runtime around the pallet. `exchangeFee` is `GetExchangeFee`, a numerator and a
denominator. -/
structure Config (AccountId AssetId : Type) where
  /-- The hash `from_assets` takes of `"xyk"` and the little-endian bytes of the smaller and then
  the larger id. -/
  assetPairAccountId : AssetId × AssetId → AccountId
  /-- `get_or_register_insufficient_asset` of the name of a pair, whose bytes are those of its
  ordered pair around `HDT`; `none` when the registry fails. -/
  shareTokenOf : AssetId × AssetId → Option AssetId
  canCreatePool : AssetId → AssetId → Bool
  /-- `on_liquidity_changed(asset_a, asset_b, amount_a, amount_b, liquidity_a, liquidity_b,
  issuance)` accepts. -/
  onLiquidityChanged : AssetId → AssetId → Nat → Nat → Nat → Nat → Nat → Bool
  /-- `on_trade(asset_in, asset_out, amount_in, amount_out, liquidity_in, liquidity_out,
  issuance)` accepts. -/
  onTrade : AssetId → AssetId → Nat → Nat → Nat → Nat → Nat → Bool
  minTradingLimit : Nat
  minPoolLiquidity : Nat
  maxInRatio : Nat
  maxOutRatio : Nat
  exchangeFee : Nat × Nat

/-- The pallet's storage and the world around it. -/
structure State (AccountId AssetId : Type) where
  shareToken : StorageMap AccountId AssetId
  totalLiquidity : StorageMap AccountId Nat
  poolAssets : StorageMap AccountId (AssetId × AssetId)
  world : World AccountId AssetId

/-- `AMMTransfer`: a validated trade. `amount_b` is what the pool pays out on a sale and the
price before the fee on a purchase. -/
structure AMMTransfer (AccountId AssetId : Type) where
  origin : AccountId
  assets : AssetPair AssetId
  amount : Nat
  amountB : Nat
  fee : AssetId × Nat

section Currency

variable {AccountId AssetId : Type} [DecidableEq AccountId] [DecidableEq AssetId]

/-- `MultiCurrency::transfer`: nothing moves for a zero amount or from an account to itself. -/
def transfer (w : World AccountId AssetId) (asset : AssetId) (src dst : AccountId) (amount : Nat) :
    Except DispatchError (World AccountId AssetId) :=
  if amount = 0 ∨ src = dst then pure w
  else do
    let free ← okOr (w.free.transfer asset src dst amount) .balanceTooLow
    pure { w with free }

/-- `MultiCurrency::deposit`: mints into `who`, failing when the issuance would overflow. -/
def deposit (w : World AccountId AssetId) (asset : AssetId) (who : AccountId) (amount : Nat) :
    Except DispatchError (World AccountId AssetId) :=
  if amount = 0 then pure w
  else do
    let issuance ← okOr (Word.checkedAdd u128 (w.totalIssuance asset) amount) .arithmeticOverflow
    pure ⟨w.free.deposit asset who amount, Function.update w.totalIssuance asset issuance⟩

/-- `MultiCurrency::withdraw`: burns from `who`, failing when the balance is short. -/
def withdraw (w : World AccountId AssetId) (asset : AssetId) (who : AccountId) (amount : Nat) :
    Except DispatchError (World AccountId AssetId) :=
  if amount = 0 then pure w
  else do
    let free ← okOr (w.free.withdraw asset who amount) .balanceTooLow
    pure ⟨free, Function.update w.totalIssuance asset (w.totalIssuance asset - amount)⟩

namespace World

variable {w w' : World AccountId AssetId} {asset : AssetId} {src dst who y : AccountId} {amount : Nat}

/-- A transfer moves `amount` of `asset` from `src` to `dst` when they are two accounts. -/
theorem transfer_free (h : transfer w asset src dst amount = .ok w') (c : AssetId) (y : AccountId) :
    w'.free.free c y + (if c = asset ∧ y = src ∧ src ≠ dst then amount else 0) =
      w.free.free c y + (if c = asset ∧ y = dst ∧ src ≠ dst then amount else 0) := by
  unfold transfer at h
  split at h
  · next hskip =>
    obtain rfl := Except.ok.inj h
    rcases hskip with rfl | rfl <;> simp
  · next hmove =>
    have hne : src ≠ dst := fun he => hmove (.inr he)
    simp only [bind_eq_ok, okOr_eq_ok] at h
    obtain ⟨free, hfree, h⟩ := h
    obtain rfl := Except.ok.inj h
    simpa only [ne_eq, hne, not_false_eq_true, and_true] using Balances.free_transfer hfree c y

theorem transfer_totalIssuance (h : transfer w asset src dst amount = .ok w') :
    w'.totalIssuance = w.totalIssuance := by
  unfold transfer at h
  split at h
  · rw [← Except.ok.inj h]
  · simp only [bind_eq_ok, okOr_eq_ok] at h
    obtain ⟨free, -, h⟩ := h
    rw [← Except.ok.inj h]

/-- Only the source of a transfer loses. -/
theorem transfer_free_le (h : transfer w asset src dst amount = .ok w') (hs : y ≠ src) (c : AssetId) :
    w.free.free c y ≤ w'.free.free c y := by
  have := transfer_free h c y
  simp only [hs, false_and, and_false, if_false, Nat.add_zero] at this
  omega

/-- A transfer of one asset leaves every other asset where it is. -/
theorem transfer_free_of_ne_asset (h : transfer w asset src dst amount = .ok w') {c : AssetId}
    (hc : c ≠ asset) (y : AccountId) : w'.free.free c y = w.free.free c y := by
  simpa [hc] using transfer_free h c y

theorem transfer_free_dst (h : transfer w asset src dst amount = .ok w') (hne : src ≠ dst) (c : AssetId) :
    w'.free.free c dst = w.free.free c dst + if c = asset then amount else 0 := by
  simpa [hne, Ne.symm hne] using transfer_free h c dst

theorem transfer_free_src (h : transfer w asset src dst amount = .ok w') (hne : src ≠ dst) (c : AssetId) :
    w'.free.free c src + (if c = asset then amount else 0) = w.free.free c src := by
  simpa [hne] using transfer_free h c src

theorem transfer_self (h : transfer w asset src src amount = .ok w') : w' = w := by
  unfold transfer at h
  rw [if_pos (.inr rfl)] at h
  exact (Except.ok.inj h).symm

theorem deposit_totalIssuance (h : deposit w asset who amount = .ok w') :
    w'.totalIssuance = Function.update w.totalIssuance asset (w.totalIssuance asset + amount) := by
  unfold deposit at h
  split at h
  · next h0 =>
    rw [← Except.ok.inj h, h0, Nat.add_zero, Function.update_eq_self]
  · simp only [bind_eq_ok, okOr_eq_ok, Word.checkedAdd_eq_some] at h
    obtain ⟨issuance, ⟨-, rfl⟩, h⟩ := h
    rw [← Except.ok.inj h]

theorem deposit_free_of_ne (h : deposit w asset who amount = .ok w') (hy : y ≠ who) (c : AssetId) :
    w'.free.free c y = w.free.free c y := by
  unfold deposit at h
  split at h
  · rw [← Except.ok.inj h]
  · simp only [bind_eq_ok, okOr_eq_ok] at h
    obtain ⟨issuance, -, h⟩ := h
    rw [← Except.ok.inj h]
    simp [Balances.free_deposit, hy]

theorem withdraw_totalIssuance (h : withdraw w asset who amount = .ok w') :
    w'.totalIssuance = Function.update w.totalIssuance asset (w.totalIssuance asset - amount) := by
  unfold withdraw at h
  split at h
  · next h0 =>
    rw [← Except.ok.inj h, h0, Nat.sub_zero, Function.update_eq_self]
  · simp only [bind_eq_ok, okOr_eq_ok] at h
    obtain ⟨free, -, h⟩ := h
    rw [← Except.ok.inj h]

theorem withdraw_free_of_ne (h : withdraw w asset who amount = .ok w') (hy : y ≠ who) (c : AssetId) :
    w'.free.free c y = w.free.free c y := by
  unfold withdraw at h
  split at h
  · rw [← Except.ok.inj h]
  · simp only [bind_eq_ok, okOr_eq_ok] at h
    obtain ⟨free, hfree, h⟩ := h
    rw [← Except.ok.inj h]
    have := Balances.free_withdraw hfree c y
    simpa [hy] using this

end World

end Currency

section Pallet

variable {AccountId AssetId : Type} [DecidableEq AccountId] [LinearOrder AssetId] [Inhabited AssetId]
  (cfg : Config AccountId AssetId)

/-- `AssetPair::ordered_pair`: the smaller id first. -/
def orderedPair (assetIn assetOut : AssetId) : AssetId × AssetId :=
  if assetIn ≤ assetOut then (assetIn, assetOut) else (assetOut, assetIn)

/-- `get_pair_id`, through `pair_account_from_assets` and the runtime's `from_assets`. -/
def getPairId (assetIn assetOut : AssetId) : AccountId :=
  cfg.assetPairAccountId (if assetIn < assetOut then (assetIn, assetOut) else (assetOut, assetIn))

omit [DecidableEq AccountId] [Inhabited AssetId] in
/-- The two orders agree: `from_assets` and `ordered_pair` put the smaller id first. -/
theorem getPairId_eq (assetIn assetOut : AssetId) :
    getPairId cfg assetIn assetOut = cfg.assetPairAccountId (orderedPair assetIn assetOut) := by
  unfold getPairId orderedPair
  by_cases hlt : assetIn < assetOut
  · rw [if_pos hlt, if_pos hlt.le]
  · by_cases hle : assetIn ≤ assetOut
    · rw [if_neg hlt, if_pos hle, le_antisymm hle (not_lt.mp hlt)]
    · rw [if_neg hlt, if_neg hle]

omit [DecidableEq AccountId] [Inhabited AssetId] in
/-- Two pairs with one ordered pair are one pair of assets, in one order or the other. -/
theorem orderedPair_eq_orderedPair {a b c d : AssetId} (h : orderedPair a b = orderedPair c d) :
    (c = a ∧ d = b) ∨ (c = b ∧ d = a) := by
  unfold orderedPair at h
  split_ifs at h with hab hcd hcd <;> simp only [Prod.mk.injEq] at h <;> obtain ⟨rfl, rfl⟩ := h
  · exact .inl ⟨rfl, rfl⟩
  · exact .inr ⟨rfl, rfl⟩
  · exact .inr ⟨rfl, rfl⟩
  · exact .inl ⟨rfl, rfl⟩

/-- `exists`: `ShareToken` holds the pair account. -/
def «exists» (s : State AccountId AssetId) (assetIn assetOut : AssetId) : Prop :=
  getPairId cfg assetIn assetOut ∈ s.shareToken

instance (s : State AccountId AssetId) (assetIn assetOut : AssetId) :
    Decidable («exists» cfg s assetIn assetOut) :=
  inferInstanceAs (Decidable (_ ∈ s.shareToken))

/-- The getter `share_token`, a `ValueQuery`: the default asset for a missing key. -/
def State.getShareToken (s : State AccountId AssetId) (p : AccountId) : AssetId :=
  (s.shareToken.lookup p).getD default

omit [LinearOrder AssetId] in
theorem State.getShareToken_of_lookup {s : State AccountId AssetId} {p : AccountId} {t : AssetId}
    (hp : s.shareToken.lookup p = some t) : s.getShareToken p = t := by
  simp [State.getShareToken, hp]

/-- The getter `total_liquidity`, a `ValueQuery`: zero for a missing key. -/
def State.getTotalLiquidity (s : State AccountId AssetId) (p : AccountId) : Nat :=
  (s.totalLiquidity.lookup p).getD 0

/-- `free_balance`. -/
def State.freeBalance (s : State AccountId AssetId) (asset : AssetId) (who : AccountId) : Nat :=
  s.world.free.free asset who

/-! ## Liquidity -/

/-- `create_pool`, signed by `who`. The shares are the amount of the asset with the smaller id;
the storage is written before the transfers, which a failure rolls back with it. -/
def createPool (s : State AccountId AssetId) (who : AccountId) (assetA : AssetId) (amountA : Nat)
    (assetB : AssetId) (amountB : Nat) : Except DispatchError (State AccountId AssetId) := do
  ensure (cfg.canCreatePool assetA assetB = true) (.xyk .cannotCreatePool)
  ensure (cfg.minPoolLiquidity ≤ amountA ∧ cfg.minPoolLiquidity ≤ amountB) (.xyk .insufficientLiquidity)
  ensure (assetA ≠ assetB) (.xyk .cannotCreatePoolWithSameAssets)
  ensure (¬ «exists» cfg s assetA assetB) (.xyk .tokenPoolAlreadyExists)
  let sharesAdded := if assetA < assetB then amountA else amountB
  ensure (amountA ≤ s.freeBalance assetA who) (.xyk .insufficientAssetBalance)
  ensure (amountB ≤ s.freeBalance assetB who) (.xyk .insufficientAssetBalance)
  let pairAccount := getPairId cfg assetA assetB
  let shareToken ← okOr (cfg.shareTokenOf (orderedPair assetA assetB)) .registry
  let s := { s with
    shareToken := s.shareToken.insert pairAccount shareToken
    poolAssets := s.poolAssets.insert pairAccount (assetA, assetB) }
  let world ← transfer s.world assetA who pairAccount amountA
  let world ← transfer world assetB who pairAccount amountB
  let world ← deposit world shareToken who sharesAdded
  pure { s with world, totalLiquidity := s.totalLiquidity.insert pairAccount sharesAdded }

/-- `do_add_liquidity`: `amount_a` of the first asset, the second priced by
`calculate_liquidity_in` and the shares by `calculate_shares`, both off the first reserve. -/
def doAddLiquidity (s : State AccountId AssetId) (who : AccountId) (assetA assetB : AssetId)
    (amountA amountBMaxLimit minShares : Nat) :
    Except DispatchError (State AccountId AssetId × Nat) := do
  ensure («exists» cfg s assetA assetB) (.xyk .tokenPoolNotFound)
  ensure (cfg.minTradingLimit ≤ amountA) (.xyk .insufficientTradingAmount)
  ensure (amountBMaxLimit ≠ 0) (.xyk .zeroLiquidity)
  ensure (amountA ≤ s.freeBalance assetA who) (.xyk .insufficientAssetBalance)
  let pairAccount := getPairId cfg assetA assetB
  let shareToken := s.getShareToken pairAccount
  let accountShares := s.freeBalance shareToken who
  let assetAReserve := s.freeBalance assetA pairAccount
  let assetBReserve := s.freeBalance assetB pairAccount
  let shareIssuance := s.getTotalLiquidity pairAccount
  let amountB ← okOr (calculateLiquidityIn assetAReserve assetBReserve amountA)
    (.xyk .addAssetAmountInvalid)
  ensure (amountB ≤ s.freeBalance assetB who) (.xyk .insufficientAssetBalance)
  ensure (amountB ≤ amountBMaxLimit) (.xyk .assetAmountExceededLimit)
  let sharesAdded ← okOr (calculateShares assetAReserve amountA shareIssuance) (.xyk .overflow)
  ensure (sharesAdded ≠ 0) (.xyk .invalidMintedLiquidity)
  ensure (minShares ≤ sharesAdded) (.xyk .slippageLimit)
  -- the account keeps at least `MinPoolLiquidity` shares
  let accountTotal ← okOr (Word.checkedAdd u128 accountShares sharesAdded) (.xyk .invalidMintedLiquidity)
  ensure (cfg.minPoolLiquidity ≤ accountTotal) (.xyk .insufficientLiquidity)
  let liquidityAmount ← okOr (Word.checkedAdd u128 shareIssuance sharesAdded)
    (.xyk .invalidLiquidityAmount)
  let world ← transfer s.world assetA who pairAccount amountA
  let world ← transfer world assetB who pairAccount amountB
  let world ← deposit world shareToken who sharesAdded
  let s := { s with world, totalLiquidity := s.totalLiquidity.insert pairAccount liquidityAmount }
  ensure (cfg.onLiquidityChanged assetA assetB amountA amountB (s.freeBalance assetA pairAccount)
    (s.freeBalance assetB pairAccount) liquidityAmount = true) .hook
  pure (s, sharesAdded)

/-- `do_remove_liquidity`: `share_amount` shares burnt for the floor of their part of each
reserve; the pool is destroyed when no shares are left. -/
def doRemoveLiquidity (s : State AccountId AssetId) (who : AccountId) (assetA assetB : AssetId)
    (shareAmount minAmountA minAmountB : Nat) : Except DispatchError (State AccountId AssetId) := do
  ensure (0 < shareAmount) (.xyk .zeroLiquidity)
  ensure («exists» cfg s assetA assetB) (.xyk .tokenPoolNotFound)
  let pairAccount := getPairId cfg assetA assetB
  let shareToken := s.getShareToken pairAccount
  let totalShares := s.getTotalLiquidity pairAccount
  let accountShares := s.freeBalance shareToken who
  ensure (shareAmount ≤ totalShares) (.xyk .insufficientLiquidity)
  ensure (shareAmount ≤ accountShares) (.xyk .insufficientAssetBalance)
  -- what the account keeps is either nothing or at least `MinPoolLiquidity`
  ensure (cfg.minPoolLiquidity ≤ accountShares - shareAmount ∨ accountShares = shareAmount)
    (.xyk .insufficientLiquidity)
  let assetAReserve := s.freeBalance assetA pairAccount
  let assetBReserve := s.freeBalance assetB pairAccount
  let (removeAmountA, removeAmountB) ←
    okOr (calculateLiquidityOut assetAReserve assetBReserve shareAmount totalShares)
      (.xyk .removeAssetAmountInvalid)
  ensure (removeAmountA ≤ s.freeBalance assetA pairAccount) (.xyk .insufficientPoolAssetBalance)
  ensure (removeAmountB ≤ s.freeBalance assetB pairAccount) (.xyk .insufficientPoolAssetBalance)
  ensure (minAmountA ≤ removeAmountA) (.xyk .slippageLimit)
  ensure (minAmountB ≤ removeAmountB) (.xyk .slippageLimit)
  let liquidityLeft ← okOr (Word.checkedSub totalShares shareAmount) (.xyk .invalidLiquidityAmount)
  let world ← transfer s.world assetA pairAccount who removeAmountA
  let world ← transfer world assetB pairAccount who removeAmountB
  let world ← withdraw world shareToken who shareAmount
  let s := { s with world, totalLiquidity := s.totalLiquidity.insert pairAccount liquidityLeft }
  ensure (cfg.onLiquidityChanged assetA assetB removeAmountA removeAmountB
    (s.freeBalance assetA pairAccount) (s.freeBalance assetB pairAccount) liquidityLeft = true) .hook
  if liquidityLeft = 0 then
    pure { s with
      shareToken := s.shareToken.erase pairAccount
      poolAssets := s.poolAssets.erase pairAccount
      totalLiquidity := s.totalLiquidity.erase pairAccount }
  else pure s

/-! ## Trades -/

/-- `calculate_fee`: `calculate_pool_trade_fee` at `GetExchangeFee`. -/
def calculateFee (amount : Nat) : Except DispatchError Nat :=
  okOr (calculatePoolTradeFee amount cfg.exchangeFee) (.xyk .feeAmountInvalid)

/-- `validate_sell`: the pool pays the floor of the constant-product amount less the fee, which
stays in the pool. -/
def validateSell (s : State AccountId AssetId) (who : AccountId) (assets : AssetPair AssetId)
    (amount minBought : Nat) : Except DispatchError (AMMTransfer AccountId AssetId) := do
  ensure (cfg.minTradingLimit ≤ amount) (.xyk .insufficientTradingAmount)
  ensure («exists» cfg s assets.assetIn assets.assetOut) (.xyk .tokenPoolNotFound)
  ensure (amount ≤ s.freeBalance assets.assetIn who) (.xyk .insufficientAssetBalance)
  let pairAccount := getPairId cfg assets.assetIn assets.assetOut
  let assetInReserve := s.freeBalance assets.assetIn pairAccount
  let assetOutReserve := s.freeBalance assets.assetOut pairAccount
  let maxIn ← okOr (Word.checkedDiv assetInReserve cfg.maxInRatio) (.xyk .overflow)
  ensure (amount ≤ maxIn) (.xyk .maxInRatioExceeded)
  let amountOut ← okOr (calculateOutGivenIn assetInReserve assetOutReserve amount)
    (.xyk .sellAssetAmountInvalid)
  let maxOut ← okOr (Word.checkedDiv assetOutReserve cfg.maxOutRatio) (.xyk .overflow)
  ensure (amountOut ≤ maxOut) (.xyk .maxOutRatioExceeded)
  let transferFee ← calculateFee cfg amountOut
  let amountOutWithoutFee ← okOr (Word.checkedSub amountOut transferFee) (.xyk .sellAssetAmountInvalid)
  ensure (amountOut < assetOutReserve) (.xyk .insufficientAssetBalance)
  ensure (minBought ≤ amountOutWithoutFee) (.xyk .assetAmountNotReachedLimit)
  pure { origin := who, assets, amount, amountB := amountOutWithoutFee, fee := (assets.assetOut, transferFee) }

/-- `execute_sell`. -/
def executeSell (s : State AccountId AssetId) (t : AMMTransfer AccountId AssetId) :
    Except DispatchError (State AccountId AssetId) := do
  let pairAccount := getPairId cfg t.assets.assetIn t.assets.assetOut
  let world ← transfer s.world t.assets.assetIn t.origin pairAccount t.amount
  let world ← transfer world t.assets.assetOut pairAccount t.origin t.amountB
  let s := { s with world }
  ensure (cfg.onTrade t.assets.assetIn t.assets.assetOut t.amount t.amountB
    (s.freeBalance t.assets.assetIn pairAccount) (s.freeBalance t.assets.assetOut pairAccount)
    (s.getTotalLiquidity pairAccount) = true) .hook
  pure s

/-- `validate_buy`: the buyer pays the floor plus one of the constant-product price, and the
fee on top of it. -/
def validateBuy (s : State AccountId AssetId) (who : AccountId) (assets : AssetPair AssetId)
    (amount maxLimit : Nat) : Except DispatchError (AMMTransfer AccountId AssetId) := do
  ensure (cfg.minTradingLimit ≤ amount) (.xyk .insufficientTradingAmount)
  ensure («exists» cfg s assets.assetIn assets.assetOut) (.xyk .tokenPoolNotFound)
  let pairAccount := getPairId cfg assets.assetIn assets.assetOut
  let assetOutReserve := s.freeBalance assets.assetOut pairAccount
  let assetInReserve := s.freeBalance assets.assetIn pairAccount
  ensure (amount < assetOutReserve) (.xyk .insufficientPoolAssetBalance)
  let maxOut ← okOr (Word.checkedDiv assetOutReserve cfg.maxOutRatio) (.xyk .overflow)
  ensure (amount ≤ maxOut) (.xyk .maxOutRatioExceeded)
  let buyPrice ← okOr (calculateInGivenOut assetOutReserve assetInReserve amount)
    (.xyk .buyAssetAmountInvalid)
  let maxIn ← okOr (Word.checkedDiv assetInReserve cfg.maxInRatio) (.xyk .overflow)
  ensure (buyPrice ≤ maxIn) (.xyk .maxInRatioExceeded)
  let transferFee ← calculateFee cfg buyPrice
  let buyPriceWithFee ← okOr (Word.checkedAdd u128 buyPrice transferFee) (.xyk .buyAssetAmountInvalid)
  ensure (buyPriceWithFee ≤ maxLimit) (.xyk .assetAmountExceededLimit)
  ensure (buyPriceWithFee ≤ s.freeBalance assets.assetIn who) (.xyk .insufficientAssetBalance)
  pure { origin := who, assets, amount, amountB := buyPrice, fee := (assets.assetIn, transferFee) }

/-- `execute_buy`: the bought amount goes to `destination`, the buyer by default. -/
def executeBuy (s : State AccountId AssetId) (t : AMMTransfer AccountId AssetId)
    (destination : Option AccountId) : Except DispatchError (State AccountId AssetId) := do
  let pairAccount := getPairId cfg t.assets.assetIn t.assets.assetOut
  let world ← transfer s.world t.assets.assetOut pairAccount (destination.getD t.origin) t.amount
  let world ← transfer world t.assets.assetIn t.origin pairAccount (t.amountB + t.fee.2)
  let s := { s with world }
  ensure (cfg.onTrade t.assets.assetIn t.assets.assetOut t.amountB t.amount
    (s.freeBalance t.assets.assetIn pairAccount) (s.freeBalance t.assets.assetOut pairAccount)
    (s.getTotalLiquidity pairAccount) = true) .hook
  pure s

/-! ## The calls -/

/-- The pallet's calls, `buy_for` as the router calls it, and a signed transfer of the
currencies pallet. -/
inductive Call (AccountId AssetId : Type)
  | createPool (who : AccountId) (assetA : AssetId) (amountA : Nat) (assetB : AssetId) (amountB : Nat)
  | addLiquidity (who : AccountId) (assetA assetB : AssetId) (amountA amountBMaxLimit : Nat)
  | addLiquidityWithLimits (who : AccountId) (assetA assetB : AssetId)
      (amountA amountBMaxLimit minShares : Nat)
  | removeLiquidity (who : AccountId) (assetA assetB : AssetId) (shareAmount : Nat)
  | removeLiquidityWithLimits (who : AccountId) (assetA assetB : AssetId)
      (shareAmount minAmountA minAmountB : Nat)
  | sell (who : AccountId) (assetIn assetOut : AssetId) (amount maxLimit : Nat) (discount : Bool)
  | buy (who : AccountId) (assetOut assetIn : AssetId) (amount maxLimit : Nat) (discount : Bool)
  | buyFor (who : AccountId) (assets : AssetPair AssetId) (amount maxLimit : Nat) (dest : AccountId)
  | transfer (who dest : AccountId) (asset : AssetId) (amount : Nat)

/-- The account that signs a call. -/
def Call.signer : Call AccountId AssetId → AccountId
  | .createPool who .. | .addLiquidity who .. | .addLiquidityWithLimits who ..
  | .removeLiquidity who .. | .removeLiquidityWithLimits who .. | .sell who ..
  | .buy who .. | .buyFor who .. | .transfer who .. => who

/-- The trades: a sale, a purchase, a purchase for another account. -/
def Call.isTrade : Call AccountId AssetId → Bool
  | .sell .. | .buy .. | .buyFor .. => true
  | _ => false

/-- One call. -/
def step : Call AccountId AssetId → State AccountId AssetId →
    Except DispatchError (State AccountId AssetId)
  | .createPool who assetA amountA assetB amountB, s => createPool cfg s who assetA amountA assetB amountB
  | .addLiquidity who assetA assetB amountA amountBMaxLimit, s =>
      Prod.fst <$> doAddLiquidity cfg s who assetA assetB amountA amountBMaxLimit 0
  | .addLiquidityWithLimits who assetA assetB amountA amountBMaxLimit minShares, s =>
      Prod.fst <$> doAddLiquidity cfg s who assetA assetB amountA amountBMaxLimit minShares
  | .removeLiquidity who assetA assetB shareAmount, s =>
      doRemoveLiquidity cfg s who assetA assetB shareAmount 0 0
  | .removeLiquidityWithLimits who assetA assetB shareAmount minAmountA minAmountB, s =>
      doRemoveLiquidity cfg s who assetA assetB shareAmount minAmountA minAmountB
  | .sell who assetIn assetOut amount maxLimit _, s => do
      executeSell cfg s (← validateSell cfg s who ⟨assetIn, assetOut⟩ amount maxLimit)
  | .buy who assetOut assetIn amount maxLimit _, s => do
      executeBuy cfg s (← validateBuy cfg s who ⟨assetIn, assetOut⟩ amount maxLimit) none
  | .buyFor who assets amount maxLimit dest, s => do
      executeBuy cfg s (← validateBuy cfg s who assets amount maxLimit) (some dest)
  | .transfer who dest asset amount, s => do
      pure { s with world := ← Xyk.transfer s.world asset who dest amount }

end Pallet

end Hydration.Xyk
