import Hydration.Xyk.Pallet

/-!
# The value of a share of an XYK pool

The value of a share of a pool with reserves `x`, `y` and `S` shares is measured by
`x * y / S ^ 2`. Over every run of the pallet from a state without pools in which no pool account
signs, the shares of every pool are the whole issuance of its share token, and no call lowers the
value of a share of a pool it leaves alive; no trade lowers the product of its reserves
(`xyk_lp_value_never_decreases`).

What carries it is the invariant `Inv`: every pool sits at the pair account of its two distinct
assets, with the registry's token for their pair, so that distinct pools have distinct tokens and
a call that names the two assets in either order reaches the pool of those assets. A call on
another pool, or a transfer, only adds to a pool's balances (`Grows`); a call on the pool itself
moves its reserves by the amounts `Xyk.Math` computes, each rounded toward the pool.
-/

namespace Hydration.Xyk

open Frame World

variable {AccountId AssetId : Type} [DecidableEq AccountId] [LinearOrder AssetId]

/-! ## The runtime and the runs -/

/-- What the runtime guarantees of the pair account hash and of the registry: distinct ordered
pairs get distinct pair accounts and distinct share tokens. -/
structure Config.Sound (cfg : Config AccountId AssetId) : Prop where
  assetPairAccountId_injective : Function.Injective cfg.assetPairAccountId
  shareTokenOf_injective : ∀ P Q t, cfg.shareTokenOf P = some t → cfg.shareTokenOf Q = some t → P = Q

/-- A state before any pool, in which no share token of a pair is issued. -/
structure Genesis (cfg : Config AccountId AssetId) (s : State AccountId AssetId) : Prop where
  shareToken : s.shareToken = ∅
  poolAssets : s.poolAssets = ∅
  shareTokenIssuance : ∀ P t, cfg.shareTokenOf P = some t → s.world.totalIssuance t = 0

/-- No pool account signs: a pair account is a hash with no key behind it. -/
def Call.Admissible (cfg : Config AccountId AssetId) (c : Call AccountId AssetId) : Prop :=
  ∀ P, c.signer ≠ cfg.assetPairAccountId P

/-- The admissible calls, dispatched. -/
def admissibleStep [Inhabited AssetId] (cfg : Config AccountId AssetId) :
    {c : Call AccountId AssetId // c.Admissible cfg} → State AccountId AssetId →
      Except DispatchError (State AccountId AssetId) :=
  fun c => step cfg c.1

/-! ## What each call does -/

section Calls

variable {cfg : Config AccountId AssetId} {s s' : State AccountId AssetId} {who : AccountId}

theorem createPool_eq_ok {assetA assetB : AssetId} {amountA amountB : Nat}
    (h : createPool cfg s who assetA amountA assetB amountB = .ok s') :
    let p := getPairId cfg assetA assetB
    assetA ≠ assetB ∧ p ∉ s.shareToken ∧ ∃ t w₁ w₂, cfg.shareTokenOf (orderedPair assetA assetB) = some t ∧
      transfer s.world assetA who p amountA = .ok w₁ ∧ transfer w₁ assetB who p amountB = .ok w₂ ∧
      deposit w₂ t who (if assetA < assetB then amountA else amountB) = .ok s'.world ∧
      s'.shareToken = s.shareToken.insert p t ∧ s'.poolAssets = s.poolAssets.insert p (assetA, assetB) ∧
      s'.totalLiquidity = s.totalLiquidity.insert p (if assetA < assetB then amountA else amountB) := by
  unfold createPool at h
  simp only [bind_eq_ok, ensure_eq_ok, okOr_eq_ok] at h
  obtain ⟨_, -, _, -, _, hne, _, hnew, _, -, _, -, t, ht, w₁, h₁, w₂, h₂, w₃, h₃, h⟩ := h
  obtain rfl := Except.ok.inj h
  exact ⟨hne, hnew, t, w₁, w₂, ht, h₁, h₂, h₃, rfl, rfl, rfl⟩

variable [Inhabited AssetId] in
theorem doAddLiquidity_eq_ok {assetA assetB : AssetId} {amountA amountBMaxLimit minShares shares : Nat}
    (h : doAddLiquidity cfg s who assetA assetB amountA amountBMaxLimit minShares = .ok (s', shares)) :
    let p := getPairId cfg assetA assetB
    p ∈ s.shareToken ∧ ∃ amountB w₁ w₂,
      calculateLiquidityIn (s.freeBalance assetA p) (s.freeBalance assetB p) amountA = some amountB ∧
      calculateShares (s.freeBalance assetA p) amountA (s.getTotalLiquidity p) = some shares ∧
      transfer s.world assetA who p amountA = .ok w₁ ∧ transfer w₁ assetB who p amountB = .ok w₂ ∧
      deposit w₂ (s.getShareToken p) who shares = .ok s'.world ∧
      s'.shareToken = s.shareToken ∧ s'.poolAssets = s.poolAssets ∧
      s'.totalLiquidity = s.totalLiquidity.insert p (s.getTotalLiquidity p + shares) := by
  unfold doAddLiquidity at h
  simp only [bind_eq_ok, ensure_eq_ok, okOr_eq_ok, Word.checkedAdd_eq_some] at h
  obtain ⟨_, hex, _, -, _, -, _, -, amountB, hin, _, -, _, -, sh, hsh, _, -, _, -, _, ⟨-, rfl⟩, _, -,
    _, ⟨-, rfl⟩, w₁, h₁, w₂, h₂, w₃, h₃, _, -, h⟩ := h
  obtain ⟨rfl, rfl⟩ := Prod.mk.inj (Except.ok.inj h)
  exact ⟨hex, amountB, w₁, w₂, hin, hsh, h₁, h₂, h₃, rfl, rfl, rfl⟩

variable [Inhabited AssetId] in
/-- A withdrawal either burns every share and removes the pool, or leaves it with fewer. -/
theorem doRemoveLiquidity_eq_ok {assetA assetB : AssetId} {shareAmount minAmountA minAmountB : Nat}
    (h : doRemoveLiquidity cfg s who assetA assetB shareAmount minAmountA minAmountB = .ok s') :
    let p := getPairId cfg assetA assetB
    p ∈ s.shareToken ∧ shareAmount ≤ s.getTotalLiquidity p ∧ ∃ removeA removeB w₁ w₂,
      calculateLiquidityOut (s.freeBalance assetA p) (s.freeBalance assetB p) shareAmount
        (s.getTotalLiquidity p) = some (removeA, removeB) ∧
      transfer s.world assetA p who removeA = .ok w₁ ∧ transfer w₁ assetB p who removeB = .ok w₂ ∧
      withdraw w₂ (s.getShareToken p) who shareAmount = .ok s'.world ∧
      ((shareAmount = s.getTotalLiquidity p ∧ s'.shareToken = s.shareToken.erase p ∧
          s'.poolAssets = s.poolAssets.erase p ∧
          s'.totalLiquidity = (s.totalLiquidity.insert p 0).erase p) ∨
        (shareAmount < s.getTotalLiquidity p ∧ s'.shareToken = s.shareToken ∧
          s'.poolAssets = s.poolAssets ∧
          s'.totalLiquidity = s.totalLiquidity.insert p (s.getTotalLiquidity p - shareAmount))) := by
  unfold doRemoveLiquidity at h
  simp only [bind_eq_ok, ensure_eq_ok, okOr_eq_ok, Word.checkedSub_eq_some] at h
  obtain ⟨_, -, _, hex, _, hle, _, -, _, -, ⟨removeA, removeB⟩, hout, _, -, _, -, _, -, _, -, _, ⟨-, rfl⟩,
    w₁, h₁, w₂, h₂, w₃, h₃, _, -, h⟩ := h
  refine ⟨hex, hle, removeA, removeB, w₁, w₂, hout, h₁, h₂, ?_⟩
  split at h
  · next h0 =>
    obtain rfl := Except.ok.inj h
    exact ⟨h₃, .inl ⟨by omega, rfl, rfl, by rw [h0]⟩⟩
  · next h0 =>
    obtain rfl := Except.ok.inj h
    exact ⟨h₃, .inr ⟨by omega, rfl, rfl, rfl⟩⟩

theorem validateSell_eq_ok {assets : AssetPair AssetId} {amount minBought : Nat}
    {t : AMMTransfer AccountId AssetId} (h : validateSell cfg s who assets amount minBought = .ok t) :
    let p := getPairId cfg assets.assetIn assets.assetOut
    p ∈ s.shareToken ∧ ∃ amountOut fee,
      calculateOutGivenIn (s.freeBalance assets.assetIn p) (s.freeBalance assets.assetOut p) amount =
        some amountOut ∧ amountOut < s.freeBalance assets.assetOut p ∧
      t = { origin := who, assets, amount, amountB := amountOut - fee, fee := (assets.assetOut, fee) } := by
  unfold validateSell at h
  simp only [bind_eq_ok, ensure_eq_ok, okOr_eq_ok, Word.checkedSub_eq_some] at h
  obtain ⟨_, -, _, hex, _, -, _, -, _, -, amountOut, hout, _, -, _, -, fee, -, _, ⟨-, rfl⟩, _, hlt,
    _, -, h⟩ := h
  exact ⟨hex, amountOut, fee, hout, hlt, (Except.ok.inj h).symm⟩

theorem executeSell_eq_ok {t : AMMTransfer AccountId AssetId} (h : executeSell cfg s t = .ok s') :
    let p := getPairId cfg t.assets.assetIn t.assets.assetOut
    ∃ w₁ w₂, transfer s.world t.assets.assetIn t.origin p t.amount = .ok w₁ ∧
      transfer w₁ t.assets.assetOut p t.origin t.amountB = .ok w₂ ∧ s' = { s with world := w₂ } := by
  unfold executeSell at h
  simp only [bind_eq_ok, ensure_eq_ok] at h
  obtain ⟨w₁, h₁, w₂, h₂, _, -, h⟩ := h
  exact ⟨w₁, w₂, h₁, h₂, (Except.ok.inj h).symm⟩

theorem validateBuy_eq_ok {assets : AssetPair AssetId} {amount maxLimit : Nat}
    {t : AMMTransfer AccountId AssetId} (h : validateBuy cfg s who assets amount maxLimit = .ok t) :
    let p := getPairId cfg assets.assetIn assets.assetOut
    p ∈ s.shareToken ∧ ∃ buyPrice fee,
      calculateInGivenOut (s.freeBalance assets.assetOut p) (s.freeBalance assets.assetIn p) amount =
        some buyPrice ∧
      t = { origin := who, assets, amount, amountB := buyPrice, fee := (assets.assetIn, fee) } := by
  unfold validateBuy at h
  simp only [bind_eq_ok, ensure_eq_ok, okOr_eq_ok, Word.checkedAdd_eq_some] at h
  obtain ⟨_, -, _, hex, _, -, _, -, _, -, buyPrice, hprice, _, -, _, -, fee, -, _, ⟨-, rfl⟩, _, -,
    _, -, h⟩ := h
  exact ⟨hex, buyPrice, fee, hprice, (Except.ok.inj h).symm⟩

theorem executeBuy_eq_ok {t : AMMTransfer AccountId AssetId} {destination : Option AccountId}
    (h : executeBuy cfg s t destination = .ok s') :
    let p := getPairId cfg t.assets.assetIn t.assets.assetOut
    ∃ w₁ w₂, transfer s.world t.assets.assetOut p (destination.getD t.origin) t.amount = .ok w₁ ∧
      transfer w₁ t.assets.assetIn t.origin p (t.amountB + t.fee.2) = .ok w₂ ∧
      s' = { s with world := w₂ } := by
  unfold executeBuy at h
  simp only [bind_eq_ok, ensure_eq_ok] at h
  obtain ⟨w₁, h₁, w₂, h₂, _, -, h⟩ := h
  exact ⟨w₁, w₂, h₁, h₂, (Except.ok.inj h).symm⟩

end Calls

/-! ## The invariant -/

/-- What every reachable state keeps. -/
structure Inv (cfg : Config AccountId AssetId) (s : State AccountId AssetId) : Prop where
  /-- A pool sits at the pair account of its two distinct assets and holds the registry's token
  for their pair. -/
  pool : ∀ p t, s.shareToken.lookup p = some t → ∃ a b, a ≠ b ∧ s.poolAssets.lookup p = some (a, b) ∧
    p = cfg.assetPairAccountId (orderedPair a b) ∧ cfg.shareTokenOf (orderedPair a b) = some t
  /-- `PoolAssets` holds pools only. -/
  assets : ∀ p ab, s.poolAssets.lookup p = some ab → p ∈ s.shareToken
  /-- The shares of a pool are the whole issuance of its token. -/
  liquidity : ∀ p t, s.shareToken.lookup p = some t → s.getTotalLiquidity p = s.world.totalIssuance t
  /-- The token of a pair without a pool is not issued. -/
  unused : ∀ P t, cfg.assetPairAccountId P ∉ s.shareToken → cfg.shareTokenOf P = some t →
    s.world.totalIssuance t = 0

section Invariant

variable {cfg : Config AccountId AssetId} {s s' : State AccountId AssetId}

theorem Inv.of_genesis (h : Genesis cfg s) : Inv cfg s where
  pool p t hp := by simp [h.shareToken] at hp
  assets p ab hp := by simp [h.poolAssets] at hp
  liquidity p t hp := by simp [h.shareToken] at hp
  unused P t _ ht := h.shareTokenIssuance P t ht

omit [LinearOrder AssetId] in
theorem mem_of_lookup_eq_some {V : Type} {m : StorageMap AccountId V} {p : AccountId} {v : V}
    (h : m.lookup p = some v) : p ∈ m :=
  AList.lookup_isSome.mp (by rw [h]; rfl)

section Sound

variable (hcfg : cfg.Sound) (hs : Inv cfg s)
include hcfg hs

/-- Two pools hold two tokens. -/
theorem Inv.token_ne {p q : AccountId} {t u : AssetId} (hp : s.shareToken.lookup p = some t)
    (hq : s.shareToken.lookup q = some u) (hne : p ≠ q) : t ≠ u := by
  rintro rfl
  obtain ⟨a, b, -, -, rfl, ha⟩ := hs.pool p t hp
  obtain ⟨c, d, -, -, rfl, hc⟩ := hs.pool q t hq
  exact hne (congrArg cfg.assetPairAccountId (hcfg.shareTokenOf_injective _ _ t ha hc))

/-- A pool's token is not the token of a pair without a pool. -/
theorem Inv.token_ne_unused {p : AccountId} {t u : AssetId} {P : AssetId × AssetId}
    (hp : s.shareToken.lookup p = some t) (hP : cfg.assetPairAccountId P ∉ s.shareToken)
    (hu : cfg.shareTokenOf P = some u) : t ≠ u := by
  rintro rfl
  obtain ⟨a, b, -, -, rfl, ha⟩ := hs.pool p t hp
  apply hP
  rw [← hcfg.shareTokenOf_injective _ _ t ha hu]
  exact mem_of_lookup_eq_some hp

/-- A call that names the two assets of a pool, in either order, reaches that pool, and the pool's
token is the registry's for that pair. -/
theorem Inv.pair {A B : AssetId} (h : getPairId cfg A B ∈ s.shareToken) :
    A ≠ B ∧ ∃ t, s.shareToken.lookup (getPairId cfg A B) = some t ∧
      cfg.shareTokenOf (orderedPair A B) = some t ∧
      (s.poolAssets.lookup (getPairId cfg A B) = some (A, B) ∨
        s.poolAssets.lookup (getPairId cfg A B) = some (B, A)) := by
  obtain ⟨t, ht⟩ := Option.isSome_iff_exists.mp (AList.lookup_isSome.mpr h)
  obtain ⟨a, b, hab, hpa, hp, htok⟩ := hs.pool _ t ht
  have hpair : orderedPair A B = orderedPair a b :=
    hcfg.assetPairAccountId_injective ((getPairId_eq cfg A B).symm.trans hp)
  have htok' : cfg.shareTokenOf (orderedPair A B) = some t := by rw [hpair]; exact htok
  rcases orderedPair_eq_orderedPair hpair.symm with ⟨rfl, rfl⟩ | ⟨rfl, rfl⟩
  · exact ⟨hab, t, ht, htok', .inl hpa⟩
  · exact ⟨hab.symm, t, ht, htok', .inr hpa⟩

/-- A step that keeps the pools and changes the shares of one pool only, to the issuance of its
token, keeps the invariant; the other tokens' issuance stays. -/
theorem Inv.of_pool {p : AccountId} {t : AssetId} (hp : s.shareToken.lookup p = some t)
    (hshare : s'.shareToken = s.shareToken) (hassets : s'.poolAssets = s.poolAssets)
    (hliq : ∀ q, q ≠ p → s'.getTotalLiquidity q = s.getTotalLiquidity q)
    (hiss : ∀ u, u ≠ t → s'.world.totalIssuance u = s.world.totalIssuance u)
    (hpt : s'.getTotalLiquidity p = s'.world.totalIssuance t) : Inv cfg s' where
  pool q u hq := by
    rw [hshare] at hq
    rw [hassets]
    exact hs.pool q u hq
  assets q ab hq := by
    rw [hassets] at hq
    rw [hshare]
    exact hs.assets q ab hq
  liquidity q u hq := by
    rw [hshare] at hq
    by_cases hqp : q = p
    · subst hqp
      obtain rfl := Option.some.inj (hp.symm.trans hq)
      exact hpt
    · rw [hliq q hqp, hs.liquidity q u hq, hiss u (hs.token_ne hcfg hp hq (Ne.symm hqp)).symm]
  unused P u hP hu := by
    rw [hshare] at hP
    rw [hiss u (hs.token_ne_unused hcfg hp hP hu).symm]
    exact hs.unused P u hP hu

/-- Removing a pool whose token's issuance falls to zero keeps the invariant. -/
theorem Inv.of_destroy {p : AccountId} {t : AssetId} (hp : s.shareToken.lookup p = some t)
    (hshare : s'.shareToken = s.shareToken.erase p) (hassets : s'.poolAssets = s.poolAssets.erase p)
    (hliq : ∀ q, q ≠ p → s'.getTotalLiquidity q = s.getTotalLiquidity q)
    (hiss : ∀ u, u ≠ t → s'.world.totalIssuance u = s.world.totalIssuance u)
    (ht : s'.world.totalIssuance t = 0) : Inv cfg s' where
  pool q u hq := by
    rw [hshare] at hq
    have hqp : q ≠ p := by rintro rfl; simp at hq
    rw [AList.lookup_erase_ne hqp] at hq
    obtain ⟨a, b, hab, hpa, hacc, htok⟩ := hs.pool q u hq
    exact ⟨a, b, hab, by rw [hassets, AList.lookup_erase_ne hqp]; exact hpa, hacc, htok⟩
  assets q ab hq := by
    rw [hassets] at hq
    have hqp : q ≠ p := by rintro rfl; simp at hq
    rw [AList.lookup_erase_ne hqp] at hq
    rw [hshare, AList.mem_erase]
    exact ⟨hqp, hs.assets q ab hq⟩
  liquidity q u hq := by
    rw [hshare] at hq
    have hqp : q ≠ p := by rintro rfl; simp at hq
    rw [AList.lookup_erase_ne hqp] at hq
    rw [hliq q hqp, hs.liquidity q u hq, hiss u (hs.token_ne hcfg hp hq (Ne.symm hqp)).symm]
  unused P u hP hu := by
    rw [hshare, AList.mem_erase, not_and_or, not_not] at hP
    rcases hP with hPp | hP
    · -- the pair of the removed pool: its token is `t`
      obtain ⟨a, b, -, -, hacc, htok⟩ := hs.pool p t hp
      have hP : P = orderedPair a b := hcfg.assetPairAccountId_injective (hPp.trans hacc)
      rw [hP, htok] at hu
      rw [← Option.some.inj hu]
      exact ht
    · rw [hiss u (hs.token_ne_unused hcfg hp hP hu).symm]
      exact hs.unused P u hP hu

/-- Adding a pool at the pair account of two distinct assets without a pool, with the registry's
token for their pair and its issuance as shares, keeps the invariant. -/
theorem Inv.of_create {p : AccountId} {a b t : AssetId} (hab : a ≠ b)
    (hacc : p = cfg.assetPairAccountId (orderedPair a b)) (hnew : p ∉ s.shareToken)
    (htok : cfg.shareTokenOf (orderedPair a b) = some t)
    (hshare : s'.shareToken = s.shareToken.insert p t)
    (hassets : s'.poolAssets = s.poolAssets.insert p (a, b))
    (hliq : ∀ q, q ≠ p → s'.getTotalLiquidity q = s.getTotalLiquidity q)
    (hiss : ∀ u, u ≠ t → s'.world.totalIssuance u = s.world.totalIssuance u)
    (hpt : s'.getTotalLiquidity p = s'.world.totalIssuance t) : Inv cfg s' where
  pool q u hq := by
    rw [hshare] at hq
    by_cases hqp : q = p
    · subst hqp
      rw [AList.lookup_insert] at hq
      obtain rfl := Option.some.inj hq
      exact ⟨a, b, hab, by rw [hassets, AList.lookup_insert], hacc, htok⟩
    · rw [AList.lookup_insert_ne hqp] at hq
      obtain ⟨c, d, hcd, hpa, hqacc, hqtok⟩ := hs.pool q u hq
      exact ⟨c, d, hcd, by rw [hassets, AList.lookup_insert_ne hqp]; exact hpa, hqacc, hqtok⟩
  assets q ab hq := by
    rw [hassets] at hq
    rw [hshare, AList.mem_insert]
    by_cases hqp : q = p
    · exact .inl hqp
    · rw [AList.lookup_insert_ne hqp] at hq
      exact .inr (hs.assets q ab hq)
  liquidity q u hq := by
    rw [hshare] at hq
    by_cases hqp : q = p
    · subst hqp
      rw [AList.lookup_insert] at hq
      obtain rfl := Option.some.inj hq
      exact hpt
    · rw [AList.lookup_insert_ne hqp] at hq
      have hut : u ≠ t := hs.token_ne_unused hcfg hq (hacc ▸ hnew) htok
      rw [hliq q hqp, hs.liquidity q u hq, hiss u hut]
  unused P u hP hu := by
    rw [hshare, AList.mem_insert, not_or] at hP
    have hut : u ≠ t := by
      rintro rfl
      exact hP.1 (by rw [hacc, hcfg.shareTokenOf_injective _ _ u hu htok])
    rw [hiss u hut]
    exact hs.unused P u hP.2 hu

end Sound

/-- A step that moves balances only keeps the invariant. -/
theorem Inv.of_world (hs : Inv cfg s) {w : World AccountId AssetId}
    (hw : w.totalIssuance = s.world.totalIssuance) : Inv cfg { s with world := w } where
  pool := hs.pool
  assets := hs.assets
  liquidity p t hp := by
    rw [hw]
    exact hs.liquidity p t hp
  unused P t hP ht := by
    rw [hw]
    exact hs.unused P t hP ht

end Invariant

/-! ## Every call keeps the invariant -/

section Step

variable [Inhabited AssetId] {cfg : Config AccountId AssetId} {s s' : State AccountId AssetId}
  {who : AccountId} (hcfg : cfg.Sound) (hs : Inv cfg s)
include hcfg hs

omit [Inhabited AssetId] in
theorem Inv.of_createPool {assetA assetB : AssetId} {amountA amountB : Nat}
    (h : createPool cfg s who assetA amountA assetB amountB = .ok s') : Inv cfg s' := by
  obtain ⟨hab, hnew, t, w₁, w₂, htok, h₁, h₂, h₃, hshare, hassets, hliq⟩ := createPool_eq_ok h
  have hiss := deposit_totalIssuance h₃
  rw [transfer_totalIssuance h₂, transfer_totalIssuance h₁] at hiss
  have hunused := hs.unused _ t (getPairId_eq cfg assetA assetB ▸ hnew) htok
  apply hs.of_create hcfg hab (getPairId_eq cfg assetA assetB) hnew htok hshare hassets
  · intro q hq
    simp [State.getTotalLiquidity, hliq, AList.lookup_insert_ne hq]
  · intro u hu
    rw [hiss, Function.update_of_ne hu]
  · rw [hiss, Function.update_self, hunused, Nat.zero_add]
    simp [State.getTotalLiquidity, hliq]

theorem Inv.of_doAddLiquidity {assetA assetB : AssetId} {amountA amountBMaxLimit minShares shares : Nat}
    (h : doAddLiquidity cfg s who assetA assetB amountA amountBMaxLimit minShares = .ok (s', shares)) :
    Inv cfg s' := by
  obtain ⟨hex, amountB, w₁, w₂, -, -, h₁, h₂, h₃, hshare, hassets, hliq⟩ := doAddLiquidity_eq_ok h
  obtain ⟨-, t, ht, -, -⟩ := hs.pair hcfg hex
  rw [State.getShareToken_of_lookup ht] at h₃
  have hiss := deposit_totalIssuance h₃
  rw [transfer_totalIssuance h₂, transfer_totalIssuance h₁] at hiss
  apply hs.of_pool hcfg ht hshare hassets
  · intro q hq
    simp [State.getTotalLiquidity, hliq, AList.lookup_insert_ne hq]
  · intro u hu
    rw [hiss, Function.update_of_ne hu]
  · rw [hiss, Function.update_self, ← hs.liquidity _ t ht]
    simp [State.getTotalLiquidity, hliq]

theorem Inv.of_doRemoveLiquidity {assetA assetB : AssetId} {shareAmount minAmountA minAmountB : Nat}
    (h : doRemoveLiquidity cfg s who assetA assetB shareAmount minAmountA minAmountB = .ok s') :
    Inv cfg s' := by
  obtain ⟨hex, hle, ra, rb, w₁, w₂, -, h₁, h₂, h₃, hcase⟩ := doRemoveLiquidity_eq_ok h
  obtain ⟨-, t, ht, -, -⟩ := hs.pair hcfg hex
  rw [State.getShareToken_of_lookup ht] at h₃
  have hiss := withdraw_totalIssuance h₃
  rw [transfer_totalIssuance h₂, transfer_totalIssuance h₁] at hiss
  have hTL := hs.liquidity _ t ht
  have hother : ∀ u, u ≠ t → s'.world.totalIssuance u = s.world.totalIssuance u := by
    intro u hu
    rw [hiss, Function.update_of_ne hu]
  rcases hcase with ⟨heq, hshare, hassets, hliq⟩ | ⟨-, hshare, hassets, hliq⟩
  · apply hs.of_destroy hcfg ht hshare hassets _ hother
    · rw [hiss, Function.update_self]
      omega
    · intro q hq
      simp [State.getTotalLiquidity, hliq, AList.lookup_erase_ne hq, AList.lookup_insert_ne hq]
  · apply hs.of_pool hcfg ht hshare hassets _ hother
    · rw [hiss, Function.update_self, ← hTL]
      simp [State.getTotalLiquidity, hliq]
    · intro q hq
      simp [State.getTotalLiquidity, hliq, AList.lookup_insert_ne hq]

omit hcfg [Inhabited AssetId] in
theorem Inv.of_executeSell {t : AMMTransfer AccountId AssetId} (h : executeSell cfg s t = .ok s') :
    Inv cfg s' := by
  obtain ⟨w₁, w₂, h₁, h₂, rfl⟩ := executeSell_eq_ok h
  exact hs.of_world ((transfer_totalIssuance h₂).trans (transfer_totalIssuance h₁))

omit hcfg [Inhabited AssetId] in
theorem Inv.of_executeBuy {t : AMMTransfer AccountId AssetId} {destination : Option AccountId}
    (h : executeBuy cfg s t destination = .ok s') : Inv cfg s' := by
  obtain ⟨w₁, w₂, h₁, h₂, rfl⟩ := executeBuy_eq_ok h
  exact hs.of_world ((transfer_totalIssuance h₂).trans (transfer_totalIssuance h₁))

/-- Every call keeps the invariant. -/
theorem Inv.of_step {c : Call AccountId AssetId} (h : step cfg c s = .ok s') : Inv cfg s' := by
  cases c with
  | createPool who assetA amountA assetB amountB => exact hs.of_createPool hcfg h
  | addLiquidity who assetA assetB amountA amountBMaxLimit =>
    obtain ⟨⟨s₁, shares⟩, hadd, rfl⟩ := map_eq_ok.mp h
    exact hs.of_doAddLiquidity hcfg hadd
  | addLiquidityWithLimits who assetA assetB amountA amountBMaxLimit minShares =>
    obtain ⟨⟨s₁, shares⟩, hadd, rfl⟩ := map_eq_ok.mp h
    exact hs.of_doAddLiquidity hcfg hadd
  | removeLiquidity who assetA assetB shareAmount => exact hs.of_doRemoveLiquidity hcfg h
  | removeLiquidityWithLimits who assetA assetB shareAmount minAmountA minAmountB =>
    exact hs.of_doRemoveLiquidity hcfg h
  | sell who assetIn assetOut amount maxLimit discount =>
    obtain ⟨t, -, he⟩ := bind_eq_ok.mp h
    exact hs.of_executeSell he
  | buy who assetOut assetIn amount maxLimit discount =>
    obtain ⟨t, -, he⟩ := bind_eq_ok.mp h
    exact hs.of_executeBuy he
  | buyFor who assets amount maxLimit dest =>
    obtain ⟨t, -, he⟩ := bind_eq_ok.mp h
    exact hs.of_executeBuy he
  | transfer who dest asset amount =>
    obtain ⟨w, hw, h⟩ := bind_eq_ok.mp h
    obtain rfl := Except.ok.inj h
    exact hs.of_world (transfer_totalIssuance hw)

end Step

/-- Every reachable state keeps the invariant. -/
theorem Inv.reachable [Inhabited AssetId] {cfg : Config AccountId AssetId} {s : State AccountId AssetId}
    (hcfg : cfg.Sound) (h : Reachable (Genesis cfg) (admissibleStep cfg) s) : Inv cfg s :=
  Reachable.induction (fun _ hg => Inv.of_genesis hg) (fun _ _ _ hs hc => hs.of_step hcfg hc) h

/-! ## The value of a share -/

section Value

variable {cfg : Config AccountId AssetId} {s s' : State AccountId AssetId} {who p : AccountId}

/-- From `s` to `s'` the account `p` only gains, and its pool's shares stay. -/
structure Grows (s s' : State AccountId AssetId) (p : AccountId) : Prop where
  free : ∀ c, s.freeBalance c p ≤ s'.freeBalance c p
  totalLiquidity : s'.getTotalLiquidity p = s.getTotalLiquidity p

/-- The value of a share of the pool at `p` with assets `a` and `b` does not fall from `s` to `s'`,
and on a trade neither does the product of its reserves. -/
def ValueKept (s s' : State AccountId AssetId) (p : AccountId) (a b : AssetId) (trade : Bool) : Prop :=
  s.freeBalance a p * s.freeBalance b p * s'.getTotalLiquidity p ^ 2 ≤
      s'.freeBalance a p * s'.freeBalance b p * s.getTotalLiquidity p ^ 2 ∧
    (trade = true → s.freeBalance a p * s.freeBalance b p ≤ s'.freeBalance a p * s'.freeBalance b p)

omit [LinearOrder AssetId] in
/-- A step that keeps the shares and the product keeps the value. -/
theorem valueKept_of_product {a b : AssetId} {trade : Bool}
    (hS : s'.getTotalLiquidity p = s.getTotalLiquidity p)
    (hprod : s.freeBalance a p * s.freeBalance b p ≤ s'.freeBalance a p * s'.freeBalance b p) :
    ValueKept s s' p a b trade := by
  refine ⟨?_, fun _ => hprod⟩
  rw [hS]
  exact lpValue_of_product hprod _

omit [LinearOrder AssetId] in
theorem Grows.valueKept (h : Grows s s' p) (a b : AssetId) (trade : Bool) :
    ValueKept s s' p a b trade :=
  valueKept_of_product h.totalLiquidity (Nat.mul_le_mul (h.free a) (h.free b))

omit [LinearOrder AssetId] in
/-- The value does not depend on the order of the two assets. -/
theorem ValueKept.orient {A B a b : AssetId} {trade : Bool} (h : ValueKept s s' p A B trade)
    (hor : (A = a ∧ B = b) ∨ (A = b ∧ B = a)) : ValueKept s s' p a b trade := by
  rcases hor with ⟨rfl, rfl⟩ | ⟨rfl, rfl⟩
  · exact h
  · unfold ValueKept at h ⊢
    rw [Nat.mul_comm (s.freeBalance B p), Nat.mul_comm (s'.freeBalance B p)]
    exact h

/-! ### A call on another pool -/

section Other

variable {A B : AssetId}

/-- A transfer out of an account other than `p` followed by a mint or burn elsewhere only adds to
`p`. -/
theorem free_le_of_moves {w₁ w₂ w₃ : World AccountId AssetId} {a₁ a₂ : AssetId} {src₁ dst₁ src₂ dst₂ : AccountId}
    {n₁ n₂ : Nat} (h₁ : transfer s.world a₁ src₁ dst₁ n₁ = .ok w₁) (h₂ : transfer w₁ a₂ src₂ dst₂ n₂ = .ok w₂)
    (h₃ : ∀ c, w₂.free.free c p = w₃.free.free c p) (hs₁ : p ≠ src₁) (hs₂ : p ≠ src₂) (c : AssetId) :
    s.world.free.free c p ≤ w₃.free.free c p :=
  calc s.world.free.free c p ≤ w₁.free.free c p := transfer_free_le h₁ hs₁ c
    _ ≤ w₂.free.free c p := transfer_free_le h₂ hs₂ c
    _ = w₃.free.free c p := h₃ c

theorem createPool_grows {amountA amountB : Nat}
    (h : createPool cfg s who A amountA B amountB = .ok s') (hwho : p ≠ who) (hp : p ∈ s.shareToken) :
    Grows s s' p := by
  obtain ⟨-, hnew, t, w₁, w₂, -, h₁, h₂, h₃, -, -, hliq⟩ := createPool_eq_ok h
  have hr : p ≠ getPairId cfg A B := by rintro rfl; exact hnew hp
  exact ⟨free_le_of_moves h₁ h₂ (fun c => (deposit_free_of_ne h₃ hwho c).symm) hwho hwho,
    by simp [State.getTotalLiquidity, hliq, AList.lookup_insert_ne hr]⟩

variable [Inhabited AssetId]

theorem doAddLiquidity_grows {amountA amountBMaxLimit minShares shares : Nat}
    (h : doAddLiquidity cfg s who A B amountA amountBMaxLimit minShares = .ok (s', shares))
    (hwho : p ≠ who) (hr : p ≠ getPairId cfg A B) : Grows s s' p := by
  obtain ⟨-, amountB, w₁, w₂, -, -, h₁, h₂, h₃, -, -, hliq⟩ := doAddLiquidity_eq_ok h
  exact ⟨free_le_of_moves h₁ h₂ (fun c => (deposit_free_of_ne h₃ hwho c).symm) hwho hwho,
    by simp [State.getTotalLiquidity, hliq, AList.lookup_insert_ne hr]⟩

theorem doRemoveLiquidity_grows {shareAmount minAmountA minAmountB : Nat}
    (h : doRemoveLiquidity cfg s who A B shareAmount minAmountA minAmountB = .ok s')
    (hwho : p ≠ who) (hr : p ≠ getPairId cfg A B) : Grows s s' p := by
  obtain ⟨-, -, ra, rb, w₁, w₂, -, h₁, h₂, h₃, hcase⟩ := doRemoveLiquidity_eq_ok h
  refine ⟨free_le_of_moves h₁ h₂ (fun c => (withdraw_free_of_ne h₃ hwho c).symm) hr hr, ?_⟩
  rcases hcase with ⟨-, -, -, hliq⟩ | ⟨-, -, -, hliq⟩
  · simp [State.getTotalLiquidity, hliq, AList.lookup_erase_ne hr, AList.lookup_insert_ne hr]
  · simp [State.getTotalLiquidity, hliq, AList.lookup_insert_ne hr]

omit [Inhabited AssetId] in
theorem executeSell_grows {t : AMMTransfer AccountId AssetId} (h : executeSell cfg s t = .ok s')
    (hwho : p ≠ t.origin) (hr : p ≠ getPairId cfg t.assets.assetIn t.assets.assetOut) :
    Grows s s' p := by
  obtain ⟨w₁, w₂, h₁, h₂, rfl⟩ := executeSell_eq_ok h
  exact ⟨free_le_of_moves h₁ h₂ (fun _ => rfl) hwho hr, rfl⟩

omit [Inhabited AssetId] in
theorem executeBuy_grows {t : AMMTransfer AccountId AssetId} {destination : Option AccountId}
    (h : executeBuy cfg s t destination = .ok s') (hwho : p ≠ t.origin)
    (hr : p ≠ getPairId cfg t.assets.assetIn t.assets.assetOut) : Grows s s' p := by
  obtain ⟨w₁, w₂, h₁, h₂, rfl⟩ := executeBuy_eq_ok h
  exact ⟨free_le_of_moves h₁ h₂ (fun _ => rfl) hr hwho, rfl⟩

end Other

/-! ### A call on the pool itself -/

section Own

variable {A B : AssetId}

variable [Inhabited AssetId] in
/-- A deposit adds `amount_a` and the asked `amount_b` to the reserves and mints the floor of the
pro-rata shares. -/
theorem doAddLiquidity_onPool {amountA amountBMaxLimit minShares shares : Nat}
    (h : doAddLiquidity cfg s who A B amountA amountBMaxLimit minShares = .ok (s', shares))
    (hne : A ≠ B) (hwho : getPairId cfg A B ≠ who) : ValueKept s s' (getPairId cfg A B) A B false := by
  obtain ⟨-, amountB, w₁, w₂, hin, hsh, h₁, h₂, h₃, -, -, hliq⟩ := doAddLiquidity_eq_ok h
  generalize getPairId cfg A B = pool at *
  have hA : s'.freeBalance A pool = s.freeBalance A pool + amountA := by
    unfold State.freeBalance
    rw [deposit_free_of_ne h₃ hwho, transfer_free_of_ne_asset h₂ hne, transfer_free_dst h₁ (Ne.symm hwho),
      if_pos rfl]
  have hB : s'.freeBalance B pool = s.freeBalance B pool + amountB := by
    unfold State.freeBalance
    rw [deposit_free_of_ne h₃ hwho, transfer_free_dst h₂ (Ne.symm hwho), if_pos rfl,
      transfer_free_of_ne_asset h₁ (Ne.symm hne)]
  have hS : s'.getTotalLiquidity pool = s.getTotalLiquidity pool + shares := by
    simp [State.getTotalLiquidity, hliq]
  obtain ⟨hx, hb⟩ := calculateLiquidityIn_spec hin
  obtain ⟨-, hs⟩ := calculateShares_spec hsh
  refine ⟨?_, fun h => absurd h Bool.false_ne_true⟩
  rw [hA, hB, hS]
  exact lpValue_of_deposit hx hb hs

variable [Inhabited AssetId] in
/-- A withdrawal that leaves the pool alive pays the floor of each pro-rata part and burns the
shares. -/
theorem doRemoveLiquidity_onPool {shareAmount minAmountA minAmountB : Nat}
    (h : doRemoveLiquidity cfg s who A B shareAmount minAmountA minAmountB = .ok s')
    (hne : A ≠ B) (hwho : getPairId cfg A B ≠ who) (hlive : getPairId cfg A B ∈ s'.shareToken) :
    ValueKept s s' (getPairId cfg A B) A B false := by
  obtain ⟨-, -, ra, rb, w₁, w₂, hout, h₁, h₂, h₃, hcase⟩ := doRemoveLiquidity_eq_ok h
  generalize getPairId cfg A B = pool at *
  rcases hcase with ⟨-, hshare, -, -⟩ | ⟨-, -, -, hliq⟩
  · -- the last shares: the pool is gone
    rw [hshare, AList.mem_erase] at hlive
    exact absurd rfl hlive.1
  have hA : s'.freeBalance A pool = s.freeBalance A pool - ra := by
    have hsrc := transfer_free_src h₁ hwho A
    rw [if_pos rfl] at hsrc
    unfold State.freeBalance
    rw [withdraw_free_of_ne h₃ hwho, transfer_free_of_ne_asset h₂ hne]
    omega
  have hB : s'.freeBalance B pool = s.freeBalance B pool - rb := by
    have hsrc := transfer_free_src h₂ hwho B
    rw [if_pos rfl, transfer_free_of_ne_asset h₁ (Ne.symm hne)] at hsrc
    unfold State.freeBalance
    rw [withdraw_free_of_ne h₃ hwho]
    omega
  have hS : s'.getTotalLiquidity pool = s.getTotalLiquidity pool - shareAmount := by
    simp [State.getTotalLiquidity, hliq]
  obtain ⟨-, ha, hb⟩ := calculateLiquidityOut_spec hout
  refine ⟨?_, fun h => absurd h Bool.false_ne_true⟩
  rw [hA, hB, hS]
  exact lpValue_of_withdraw ha hb

/-- A sale adds `amount` to the reserve in and pays out at most the constant-product amount, the
fee staying in the pool. -/
theorem sell_onPool {assets : AssetPair AssetId} {amount minBought : Nat}
    {t : AMMTransfer AccountId AssetId} (hv : validateSell cfg s who assets amount minBought = .ok t)
    (he : executeSell cfg s t = .ok s') (hne : assets.assetIn ≠ assets.assetOut)
    (hwho : getPairId cfg assets.assetIn assets.assetOut ≠ who) :
    ValueKept s s' (getPairId cfg assets.assetIn assets.assetOut) assets.assetIn assets.assetOut true := by
  obtain ⟨-, o, f, hout, hlt, rfl⟩ := validateSell_eq_ok hv
  obtain ⟨w₁, w₂, h₁, h₂, rfl⟩ := executeSell_eq_ok he
  dsimp only at h₁ h₂
  generalize getPairId cfg assets.assetIn assets.assetOut = pool at *
  have hin : w₂.free.free assets.assetIn pool = s.freeBalance assets.assetIn pool + amount := by
    rw [transfer_free_of_ne_asset h₂ hne, transfer_free_dst h₁ (Ne.symm hwho), if_pos rfl]
    rfl
  have hsrc := transfer_free_src h₂ hwho assets.assetOut
  rw [if_pos rfl, transfer_free_of_ne_asset h₁ (Ne.symm hne)] at hsrc
  have hout' : w₂.free.free assets.assetOut pool = s.freeBalance assets.assetOut pool - (o - f) := by
    unfold State.freeBalance
    omega
  refine valueKept_of_product rfl ?_
  show _ ≤ w₂.free.free assets.assetIn pool * w₂.free.free assets.assetOut pool
  rw [hin, hout']
  exact product_of_sell (calculateOutGivenIn_spec hout) hlt.le

/-- A purchase adds the price and the fee to the reserve in and pays out `amount`, unless it buys
for the pool account itself. -/
theorem buy_onPool {assets : AssetPair AssetId} {amount maxLimit : Nat}
    {t : AMMTransfer AccountId AssetId} {destination : Option AccountId}
    (hv : validateBuy cfg s who assets amount maxLimit = .ok t) (he : executeBuy cfg s t destination = .ok s')
    (hne : assets.assetIn ≠ assets.assetOut) (hwho : getPairId cfg assets.assetIn assets.assetOut ≠ who) :
    ValueKept s s' (getPairId cfg assets.assetIn assets.assetOut) assets.assetIn assets.assetOut true := by
  obtain ⟨-, price, f, hprice, rfl⟩ := validateBuy_eq_ok hv
  obtain ⟨w₁, w₂, h₁, h₂, rfl⟩ := executeBuy_eq_ok he
  dsimp only at h₁ h₂
  generalize getPairId cfg assets.assetIn assets.assetOut = pool at *
  have hin : w₂.free.free assets.assetIn pool = s.freeBalance assets.assetIn pool + (price + f) := by
    rw [transfer_free_dst h₂ (Ne.symm hwho), if_pos rfl, transfer_free_of_ne_asset h₁ hne]
    rfl
  have hout : s.freeBalance assets.assetOut pool - amount ≤ w₂.free.free assets.assetOut pool := by
    rw [transfer_free_of_ne_asset h₂ (Ne.symm hne)]
    by_cases hd : pool = destination.getD who
    · -- bought for the pool account: the transfer out moves nothing
      rw [hd] at h₁
      rw [transfer_self h₁]
      exact Nat.sub_le _ _
    · have hsrc := transfer_free_src h₁ hd assets.assetOut
      rw [if_pos rfl] at hsrc
      unfold State.freeBalance
      omega
  have hprod : s.freeBalance assets.assetIn pool * s.freeBalance assets.assetOut pool ≤
      (s.freeBalance assets.assetIn pool + (price + f)) * (s.freeBalance assets.assetOut pool - amount) := by
    rcases calculateInGivenOut_spec hprice with ⟨hle, hlt⟩ | ⟨rfl, rfl⟩
    · exact product_of_buy hlt hle
    · exact Nat.mul_le_mul (Nat.le_add_right _ _) (Nat.sub_zero _).ge
  refine valueKept_of_product rfl ?_
  show _ ≤ w₂.free.free assets.assetIn pool * w₂.free.free assets.assetOut pool
  rw [hin]
  exact hprod.trans (Nat.mul_le_mul_left _ hout)

end Own

/-! ### Any call -/

section Any

variable [Inhabited AssetId] {A B a b : AssetId} (hcfg : cfg.Sound) (hs : Inv cfg s)
  (hpool : s.poolAssets.lookup p = some (a, b))
include hcfg hs hpool

omit [Inhabited AssetId] in
/-- A call that names two assets and reaches the pool at `p` names the pool's two assets. -/
theorem Inv.orient (hAB : getPairId cfg A B = p) : A ≠ B ∧ ((A = a ∧ B = b) ∨ (A = b ∧ B = a)) := by
  subst hAB
  obtain ⟨hne, t, -, -, hor⟩ := hs.pair hcfg (hs.assets _ _ hpool)
  rw [hpool] at hor
  refine ⟨hne, ?_⟩
  rcases hor with h | h <;> obtain ⟨rfl, rfl⟩ := Prod.mk.inj (Option.some.inj h)
  · exact .inl ⟨rfl, rfl⟩
  · exact .inr ⟨rfl, rfl⟩

theorem Inv.doAddLiquidity_valueKept {amountA amountBMaxLimit minShares shares : Nat}
    (h : doAddLiquidity cfg s who A B amountA amountBMaxLimit minShares = .ok (s', shares))
    (hwho : p ≠ who) : ValueKept s s' p a b false := by
  by_cases hr : getPairId cfg A B = p
  · obtain ⟨hne, hor⟩ := hs.orient hcfg hpool hr
    subst hr
    exact (doAddLiquidity_onPool h hne hwho).orient hor
  · exact (doAddLiquidity_grows h hwho (Ne.symm hr)).valueKept a b false

theorem Inv.doRemoveLiquidity_valueKept {shareAmount minAmountA minAmountB : Nat}
    (h : doRemoveLiquidity cfg s who A B shareAmount minAmountA minAmountB = .ok s')
    (hwho : p ≠ who) (hlive : p ∈ s'.shareToken) : ValueKept s s' p a b false := by
  by_cases hr : getPairId cfg A B = p
  · obtain ⟨hne, hor⟩ := hs.orient hcfg hpool hr
    subst hr
    exact (doRemoveLiquidity_onPool h hne hwho hlive).orient hor
  · exact (doRemoveLiquidity_grows h hwho (Ne.symm hr)).valueKept a b false

omit [Inhabited AssetId] in
theorem Inv.sell_valueKept {assets : AssetPair AssetId} {amount minBought : Nat}
    {t : AMMTransfer AccountId AssetId} (hv : validateSell cfg s who assets amount minBought = .ok t)
    (he : executeSell cfg s t = .ok s') (hwho : p ≠ who) : ValueKept s s' p a b true := by
  by_cases hr : getPairId cfg assets.assetIn assets.assetOut = p
  · obtain ⟨hne, hor⟩ := hs.orient hcfg hpool hr
    subst hr
    exact (sell_onPool hv he hne hwho).orient hor
  · obtain ⟨-, o, f, -, -, rfl⟩ := validateSell_eq_ok hv
    exact (executeSell_grows he hwho (Ne.symm hr)).valueKept a b true

omit [Inhabited AssetId] in
theorem Inv.buy_valueKept {assets : AssetPair AssetId} {amount maxLimit : Nat}
    {t : AMMTransfer AccountId AssetId} {destination : Option AccountId}
    (hv : validateBuy cfg s who assets amount maxLimit = .ok t)
    (he : executeBuy cfg s t destination = .ok s') (hwho : p ≠ who) : ValueKept s s' p a b true := by
  by_cases hr : getPairId cfg assets.assetIn assets.assetOut = p
  · obtain ⟨hne, hor⟩ := hs.orient hcfg hpool hr
    subst hr
    exact (buy_onPool hv he hne hwho).orient hor
  · obtain ⟨-, price, f, -, rfl⟩ := validateBuy_eq_ok hv
    exact (executeBuy_grows he hwho (Ne.symm hr)).valueKept a b true

omit hcfg [Inhabited AssetId] in
/-- No admissible call is signed by a pool account. -/
theorem Inv.ne_signer {c : Call AccountId AssetId} (hc : c.Admissible cfg) : p ≠ c.signer := by
  obtain ⟨t, ht⟩ := Option.isSome_iff_exists.mp (AList.lookup_isSome.mpr (hs.assets _ _ hpool))
  obtain ⟨a', b', -, -, hacc, -⟩ := hs.pool p t ht
  rw [hacc]
  exact fun h => hc _ h.symm

/-- No admissible call lowers the value of a share of a pool it leaves alive, and no trade lowers
the product of the pool's reserves. -/
theorem Inv.valueKept {c : Call AccountId AssetId} (hc : c.Admissible cfg) (h : step cfg c s = .ok s')
    (hlive : p ∈ s'.shareToken) : ValueKept s s' p a b c.isTrade := by
  have hwho := hs.ne_signer hpool hc
  cases c with
  | createPool who assetA amountA assetB amountB =>
    exact (createPool_grows h hwho (hs.assets _ _ hpool)).valueKept a b false
  | addLiquidity who assetA assetB amountA amountBMaxLimit =>
    obtain ⟨⟨s₁, shares⟩, hadd, rfl⟩ := map_eq_ok.mp h
    exact hs.doAddLiquidity_valueKept hcfg hpool hadd hwho
  | addLiquidityWithLimits who assetA assetB amountA amountBMaxLimit minShares =>
    obtain ⟨⟨s₁, shares⟩, hadd, rfl⟩ := map_eq_ok.mp h
    exact hs.doAddLiquidity_valueKept hcfg hpool hadd hwho
  | removeLiquidity who assetA assetB shareAmount =>
    exact hs.doRemoveLiquidity_valueKept hcfg hpool h hwho hlive
  | removeLiquidityWithLimits who assetA assetB shareAmount minAmountA minAmountB =>
    exact hs.doRemoveLiquidity_valueKept hcfg hpool h hwho hlive
  | sell who assetIn assetOut amount maxLimit discount =>
    obtain ⟨t, hv, he⟩ := bind_eq_ok.mp h
    exact hs.sell_valueKept hcfg hpool hv he hwho
  | buy who assetOut assetIn amount maxLimit discount =>
    obtain ⟨t, hv, he⟩ := bind_eq_ok.mp h
    exact hs.buy_valueKept hcfg hpool hv he hwho
  | buyFor who assets amount maxLimit dest =>
    obtain ⟨t, hv, he⟩ := bind_eq_ok.mp h
    exact hs.buy_valueKept hcfg hpool hv he hwho
  | transfer who dest asset amount =>
    obtain ⟨w, hw, h⟩ := bind_eq_ok.mp h
    obtain rfl := Except.ok.inj h
    have hgrow : Grows s { s with world := w } p := ⟨transfer_free_le hw hwho, rfl⟩
    exact hgrow.valueKept a b false

end Any

end Value

/-! ## Over every run -/

/-- Over every run from a state without pools in which no pool account signs: the shares of every
pool are the whole issuance of its share token, and every call maps the reserves `x`, `y` and the
shares `S` of a pool it leaves alive, its assets in the order `PoolAssets` holds them, to `x'`,
`y'` and `S'` with `x * y * S' ^ 2 ≤ x' * y' * S ^ 2`, and a trade to `x * y ≤ x' * y'`. -/
theorem xyk_lp_value_never_decreases [Inhabited AssetId] (cfg : Config AccountId AssetId)
    (hcfg : cfg.Sound) {s : State AccountId AssetId}
    (hs : Reachable (Genesis cfg) (admissibleStep cfg) s) :
    (∀ p t, s.shareToken.lookup p = some t → s.getTotalLiquidity p = s.world.totalIssuance t) ∧
      ∀ c : Call AccountId AssetId, c.Admissible cfg → ∀ s', step cfg c s = .ok s' →
        ∀ p a b, s.poolAssets.lookup p = some (a, b) → p ∈ s'.shareToken →
          s.freeBalance a p * s.freeBalance b p * s'.getTotalLiquidity p ^ 2 ≤
              s'.freeBalance a p * s'.freeBalance b p * s.getTotalLiquidity p ^ 2 ∧
            (c.isTrade = true →
              s.freeBalance a p * s.freeBalance b p ≤ s'.freeBalance a p * s'.freeBalance b p) := by
  have hinv : Inv cfg s := Inv.reachable hcfg hs
  refine ⟨hinv.liquidity, ?_⟩
  intro c hc s' h p a b hpool hlive
  exact hinv.valueKept hcfg hpool hc h hlive

/-- Pair accounts and share tokens numbered by `Nat.pair`, the accounts from one and the tokens from
a thousand, with the runtime's constants and hooks that accept. -/
def exampleConfig : Config Nat Nat where
  assetPairAccountId P := Nat.pair P.1 P.2 + 1
  shareTokenOf P := some (Nat.pair P.1 P.2 + 1000)
  canCreatePool _ _ := true
  onLiquidityChanged _ _ _ _ _ _ _ := true
  onTrade _ _ _ _ _ _ _ := true
  minTradingLimit := 1000
  minPoolLiquidity := 1000000
  maxInRatio := 3
  maxOutRatio := 3
  exchangeFee := (3, 1000)

theorem exampleConfig_sound : exampleConfig.Sound where
  assetPairAccountId_injective P Q h := by
    have hpair := Nat.pair_eq_pair.mp (Nat.succ.inj h)
    exact Prod.ext hpair.1 hpair.2
  shareTokenOf_injective P Q t hP hQ := by
    simp only [exampleConfig, Option.some.injEq] at hP hQ
    have hpair := Nat.pair_eq_pair.mp (by omega : Nat.pair P.1 P.2 = Nat.pair Q.1 Q.2)
    exact Prod.ext hpair.1 hpair.2

/-- Account zero holds ten million of every asset below a thousand; no share token is issued. -/
def exampleGenesis : State Nat Nat where
  shareToken := ∅
  totalLiquidity := ∅
  poolAssets := ∅
  world := ⟨⟨fun a x => if x = 0 ∧ a < 1000 then 10000000 else 0⟩, fun a => if a < 1000 then 10000000 else 0⟩

theorem exampleGenesis_genesis : Genesis exampleConfig exampleGenesis where
  shareToken := rfl
  poolAssets := rfl
  shareTokenIssuance P t ht := by
    simp only [exampleConfig, Option.some.injEq] at ht
    subst ht
    simp [exampleGenesis]

theorem admissible_of_signer_zero {c : Call Nat Nat} (h : c.signer = 0) : c.Admissible exampleConfig :=
  fun _ hP => Nat.succ_ne_zero _ (h ▸ hP).symm

/-- A pool of assets one and two, a sale, a deposit, a purchase and a withdrawal, all signed by
account zero. -/
def xykRun : List {c : Call Nat Nat // c.Admissible exampleConfig} :=
  [⟨.createPool 0 1 2000000 2 3000000, admissible_of_signer_zero rfl⟩,
    ⟨.sell 0 1 2 100000 0 false, admissible_of_signer_zero rfl⟩,
    ⟨.addLiquidity 0 1 2 1000000 2000000, admissible_of_signer_zero rfl⟩,
    ⟨.buy 0 2 1 50000 1000000 false, admissible_of_signer_zero rfl⟩,
    ⟨.removeLiquidity 0 2 1 500000, admissible_of_signer_zero rfl⟩]

/-- The state after `xykRun`. -/
def xykRunState : State Nat Nat := run (admissibleStep exampleConfig) xykRun exampleGenesis

/-- Every call of the run succeeds: the pool is there with two million shares, plus the 952380 the
deposit mints, minus the half million withdrawn. -/
example : xykRunState.shareToken.lookup (exampleConfig.assetPairAccountId (1, 2)) = some (Nat.pair 1 2 + 1000) ∧
    xykRunState.getTotalLiquidity (exampleConfig.assetPairAccountId (1, 2)) = 2452380 := by
  decide +kernel

theorem xyk_lp_value_never_decreases_xykRun :
    (∀ p t, xykRunState.shareToken.lookup p = some t →
        xykRunState.getTotalLiquidity p = xykRunState.world.totalIssuance t) ∧
      ∀ c : Call Nat Nat, c.Admissible exampleConfig → ∀ s', step exampleConfig c xykRunState = .ok s' →
        ∀ p a b, xykRunState.poolAssets.lookup p = some (a, b) → p ∈ s'.shareToken →
          xykRunState.freeBalance a p * xykRunState.freeBalance b p * s'.getTotalLiquidity p ^ 2 ≤
              s'.freeBalance a p * s'.freeBalance b p * xykRunState.getTotalLiquidity p ^ 2 ∧
            (c.isTrade = true → xykRunState.freeBalance a p * xykRunState.freeBalance b p ≤
              s'.freeBalance a p * s'.freeBalance b p) :=
  xyk_lp_value_never_decreases exampleConfig exampleConfig_sound
    (reachable_run xykRun (.init exampleGenesis_genesis))

end Hydration.Xyk
