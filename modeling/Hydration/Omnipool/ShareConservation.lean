import Hydration.Omnipool.Effects

/-!
# Share bookkeeping

`try_state` asserts that, for every asset of the pool, the shares held by positions
are the asset's shares less its protocol shares. This module proves it over every
run of the pallet, with no restriction on the calls.

The invariant is stated per asset (`BalancedAt`): an asset in the pool has
`positionShares + protocol_shares = shares`, an asset not in the pool has no shares
in positions (so that `add_token` of a removed asset starts balanced). It also needs
that every stored position has its NFT: a new position takes the next free NFT id,
which then cannot hold an old position.

Each call writes the entry of at most one asset and the positions of that asset, or
leaves every share count alone (`SharesUntouched`); `SharesInv.update` and
`SharesInv.untouched` turn either into preservation.
-/

namespace Hydration.Omnipool.Pallet

open Frame FixedPoint

variable {AssetId AccountId : Type} [DecidableEq AssetId]

/-- The shares position `p` holds in `asset`. -/
def sharesIn (asset : AssetId) (_ : Nat) (p : Position AssetId) : Nat :=
  if p.assetId = asset then p.shares else 0

/-- The shares held by all positions in `asset`. -/
def positionShares (s : State AssetId AccountId) (asset : AssetId) : Nat :=
  StorageMap.sumBy (sharesIn asset) s.positions

/-- The share counts of a pool asset: total and protocol-owned. -/
def shareView (s : State AssetId AccountId) (a : AssetId) : Option (Nat × Nat) :=
  (s.assets.lookup a).map fun st => (st.shares, st.protocolShares)

/-- The positions of `a` hold the shares of `a` the protocol does not; an asset out of
the pool has none in positions. -/
def BalancedAt (s : State AssetId AccountId) (a : AssetId) : Prop :=
  match shareView s a with
  | some (n, m) => positionShares s a + m = n
  | none => positionShares s a = 0

/-- The invariant of the share bookkeeping. -/
structure SharesInv (s : State AssetId AccountId) : Prop where
  balanced : ∀ a, BalancedAt s a
  owned : ∀ id, s.positionOwner.lookup id = none → s.positions.lookup id = none

/-- A step that moves no share count and no position, and mints no NFT away. -/
structure SharesUntouched (s s' : State AssetId AccountId) : Prop where
  view : ∀ a, shareView s' a = shareView s a
  positions : s'.positions = s.positions
  owners : ∀ id, s'.positionOwner.lookup id = none → s.positionOwner.lookup id = none

section Views

variable {s s' : State AssetId AccountId}

theorem sharesIn_of_ne {a : AssetId} {p : Position AssetId} (h : p.assetId ≠ a) (id : Nat) :
    sharesIn a id p = 0 :=
  if_neg h

@[simp] theorem sharesIn_self (p : Position AssetId) (id : Nat) : sharesIn p.assetId id p = p.shares :=
  if_pos rfl

theorem shareView_of_lookup {a : AssetId} {st : AssetState} (h : s.assets.lookup a = some st) :
    shareView s a = some (st.shares, st.protocolShares) := by
  simp only [shareView, h, Option.map_some]

theorem shareView_of_lookup_none {a : AssetId} (h : s.assets.lookup a = none) : shareView s a = none := by
  simp only [shareView, h, Option.map_none]

theorem balancedAt_of_lookup {a : AssetId} {st : AssetState} (h : s.assets.lookup a = some st) :
    BalancedAt s a ↔ positionShares s a + st.protocolShares = st.shares := by
  unfold BalancedAt
  rw [shareView_of_lookup h]

theorem balancedAt_of_lookup_none {a : AssetId} (h : s.assets.lookup a = none) :
    BalancedAt s a ↔ positionShares s a = 0 := by
  unfold BalancedAt
  rw [shareView_of_lookup_none h]

theorem balancedAt_congr {a : AssetId} (hv : shareView s' a = shareView s a)
    (hp : positionShares s' a = positionShares s a) : BalancedAt s' a ↔ BalancedAt s a := by
  unfold BalancedAt
  rw [hv, hp]

/-- Overwriting one entry leaves the views of the others alone. -/
theorem shareView_of_insert_ne {a b : AssetId} {st : AssetState}
    (ha : s'.assets = s.assets.insert a st) (hb : b ≠ a) : shareView s' b = shareView s b := by
  simp only [shareView, ha, AList.lookup_insert_ne hb]

theorem shareView_of_erase_ne {a b : AssetId} (ha : s'.assets = s.assets.erase a) (hb : b ≠ a) :
    shareView s' b = shareView s b := by
  simp only [shareView, ha, AList.lookup_erase_ne hb]

theorem balancedAt_of_insert {a : AssetId} {st : AssetState} (ha : s'.assets = s.assets.insert a st) :
    BalancedAt s' a ↔ positionShares s' a + st.protocolShares = st.shares :=
  balancedAt_of_lookup (by rw [ha, AList.lookup_insert])

theorem balancedAt_of_erase {a : AssetId} (ha : s'.assets = s.assets.erase a) :
    BalancedAt s' a ↔ positionShares s' a = 0 :=
  balancedAt_of_lookup_none (by rw [ha, AList.lookup_erase])

/-- Overwriting an entry with the same share counts leaves every view alone. -/
theorem shareView_of_insert_same {a : AssetId} {old new : AssetState}
    (ha : s'.assets = s.assets.insert a new) (h : s.assets.lookup a = some old)
    (hs : new.shares = old.shares) (hp : new.protocolShares = old.protocolShares) (b : AssetId) :
    shareView s' b = shareView s b := by
  by_cases hb : b = a
  · subst hb
    rw [shareView_of_lookup h, shareView_of_lookup (by rw [ha, AList.lookup_insert]), hs, hp]
  · exact shareView_of_insert_ne ha hb

theorem positionShares_of_insert_fresh {id : Nat} {p : Position AssetId}
    (hp : s'.positions = s.positions.insert id p) (h : s.positions.lookup id = none) (a : AssetId) :
    positionShares s' a = positionShares s a + sharesIn a id p := by
  unfold positionShares
  rw [hp]
  exact StorageMap.sumBy_insert_of_lookup_none (sharesIn a) p h

theorem positionShares_of_insert {id : Nat} {old p : Position AssetId}
    (hp : s'.positions = s.positions.insert id p) (h : s.positions.lookup id = some old) (a : AssetId) :
    positionShares s' a + sharesIn a id old = positionShares s a + sharesIn a id p := by
  unfold positionShares
  rw [hp, ← StorageMap.at?_of_lookup (sharesIn a) h]
  exact StorageMap.sumBy_insert_add (sharesIn a) s.positions id p

theorem positionShares_of_erase {id : Nat} {old : Position AssetId}
    (hp : s'.positions = s.positions.erase id) (h : s.positions.lookup id = some old) (a : AssetId) :
    positionShares s' a + sharesIn a id old = positionShares s a := by
  unfold positionShares
  rw [hp]
  exact StorageMap.sumBy_erase_of_lookup (sharesIn a) h

end Views

namespace SharesUntouched

variable {s₁ s₂ s₃ : State AssetId AccountId}

theorem refl (s : State AssetId AccountId) : SharesUntouched s s :=
  ⟨fun _ => rfl, rfl, fun _ h => h⟩

theorem trans (h₁ : SharesUntouched s₁ s₂) (h₂ : SharesUntouched s₂ s₃) : SharesUntouched s₁ s₃ :=
  ⟨fun a => (h₂.view a).trans (h₁.view a), h₂.positions.trans h₁.positions,
    fun id h => h₁.owners id (h₂.owners id h)⟩

theorem of_eq (ha : s₂.assets = s₁.assets) (hp : s₂.positions = s₁.positions)
    (ho : s₂.positionOwner = s₁.positionOwner) : SharesUntouched s₁ s₂ :=
  ⟨fun a => by simp only [shareView, ha], hp, fun id h => by rwa [ho] at h⟩

theorem positionShares (h : SharesUntouched s₁ s₂) (a : AssetId) :
    Pallet.positionShares s₂ a = Pallet.positionShares s₁ a := by
  simp only [Pallet.positionShares, h.positions]

end SharesUntouched

theorem BalancesOnly.sharesUntouched {s₁ s₂ : State AssetId AccountId} (h : BalancesOnly s₁ s₂) :
    SharesUntouched s₁ s₂ :=
  .of_eq h.assets h.positions h.positionOwner

theorem SlipOnly.sharesUntouched {s₁ s₂ : State AssetId AccountId} (h : SlipOnly s₁ s₂) :
    SharesUntouched s₁ s₂ :=
  .of_eq h.assets h.positions h.positionOwner

namespace SharesInv

variable {s s' : State AssetId AccountId}

theorem untouched (hI : SharesInv s) (h : SharesUntouched s s') : SharesInv s' where
  balanced a := (balancedAt_congr (h.view a) (h.positionShares a)).mpr (hI.balanced a)
  owned id hid := by
    rw [h.positions]
    exact hI.owned id (h.owners id hid)

/-- A step that writes the entry and the positions of one asset `A` only keeps the
invariant once `A` is balanced afterwards. -/
theorem update (A : AssetId) (hI : SharesInv s)
    (hview : ∀ b, b ≠ A → shareView s' b = shareView s b)
    (hpos : ∀ b, b ≠ A → positionShares s' b = positionShares s b) (hA : BalancedAt s' A)
    (howned : ∀ id, s'.positionOwner.lookup id = none → s'.positions.lookup id = none) :
    SharesInv s' where
  balanced b := by
    by_cases hb : b = A
    · subst hb
      exact hA
    · exact (balancedAt_congr (hview b hb) (hpos b hb)).mpr (hI.balanced b)
  owned := howned

/-- The positions of a pool asset hold its shares less the protocol's. -/
theorem positionShares_add {a : AssetId} {st : AssetState} (hI : SharesInv s)
    (h : s.assets.lookup a = some st) : positionShares s a + st.protocolShares = st.shares :=
  (balancedAt_of_lookup h).mp (hI.balanced a)

theorem positionShares_eq_zero {a : AssetId} (hI : SharesInv s) (h : s.assets.lookup a = none) :
    positionShares s a = 0 :=
  (balancedAt_of_lookup_none h).mp (hI.balanced a)

end SharesInv

section Helpers

variable [DecidableEq AccountId] {cfg : Config AssetId AccountId} {s s' : State AssetId AccountId}

omit [DecidableEq AccountId] in
/-- Writing back an asset state with the share counts it was loaded with. -/
theorem setAssetState_sharesUntouched {a : AssetId} {old : AssetState} {new : AssetReserveState}
    (h : s.assets.lookup a = some old) (hs : new.shares = old.shares)
    (hp : new.protocolShares = old.protocolShares) : SharesUntouched s (setAssetState s a new) :=
  ⟨shareView_of_insert_same rfl h hs hp, rfl, fun _ h => h⟩

omit [DecidableEq AccountId] in
/-- A trade leg moves no shares. -/
theorem deltaUpdate_keepsShares {st st' : AssetReserveState} {d : AssetStateChange}
    (h : st.deltaUpdate d = some st') (hd : d.KeepsShares) :
    st'.shares = st.shares ∧ st'.protocolShares = st.protocolShares := by
  have hs := deltaUpdate_shares h
  have hp := deltaUpdate_protocolShares h
  rw [hd.1, BalanceUpdate.toInt_increase] at hs
  rw [hd.2, BalanceUpdate.toInt_increase] at hp
  omega

omit [DecidableEq AccountId] in
theorem increaseHdxSubpoolHubReserve_sharesUntouched {origin : Origin AccountId} {amt : Nat}
    (h : increaseHdxSubpoolHubReserve cfg origin s amt = .ok s') : SharesUntouched s s' := by
  unfold increaseHdxSubpoolHubReserve at h
  split at h
  · cases h
    exact .refl s
  simp only [Frame.bind_eq_ok, Frame.okOr_eq_ok, Frame.ensure_eq_ok, pure, Except.pure,
    Except.ok.injEq] at h
  obtain ⟨-, -, st, hst, hub, -, -, -, -, -, rfl⟩ := h
  -- only the hub reserve of the HDX entry is raised
  exact ⟨shareView_of_insert_same rfl hst rfl rfl, rfl, fun _ h => h⟩

theorem processProtocolFee_sharesUntouched {origin : Origin AccountId} {fee burned : Nat}
    (h : processProtocolFee cfg origin s fee burned = .ok s') : SharesUntouched s s' := by
  unfold processProtocolFee at h
  by_cases h0 : fee = 0
  · simp only [h0, if_true, Except.ok.injEq] at h
    subst h
    exact .refl s
  by_cases hr : fee - burned = 0
  · simp only [h0, hr, if_false, if_true, Except.ok.injEq] at h
    subst h
    exact .refl s
  simp only [h0, hr, if_false, Frame.bind_eq_ok] at h
  obtain ⟨s₁, h₁, h₂⟩ := h
  exact (updateHubAssetLiquidity_balancesOnly h₁).sharesUntouched.trans
    (increaseHdxSubpoolHubReserve_sharesUntouched h₂)

/-- Settling a trade writes both assets back with their share counts. -/
theorem settleTrade_sharesUntouched {origin : Origin AccountId} {who : AccountId} {aIn aOut : AssetId}
    {inSt outSt : AssetReserveState} {ch : TradeStateChange} {hx : Nat} {stIn stOut : AssetState}
    (h : settleTrade cfg origin who aIn aOut inSt outSt ch hx s = .ok s')
    (hIn : s.assets.lookup aIn = some stIn) (hOut : s.assets.lookup aOut = some stOut)
    (hInSt : inSt.shares = stIn.shares ∧ inSt.protocolShares = stIn.protocolShares)
    (hOutSt : outSt.shares = stOut.shares ∧ outSt.protocolShares = stOut.protocolShares)
    (hne : aIn ≠ aOut) (hch : ch.assetIn.KeepsShares ∧ ch.assetOut.KeepsShares) :
    SharesUntouched s s' := by
  simp only [settleTrade, Frame.bind_eq_ok, Frame.okOr_eq_ok, Frame.ensure_eq_ok, pure, Except.pure,
    Except.ok.injEq] at h
  obtain ⟨newIn, hnewIn, newOut, hnewOut, s₁, h₁, s₂, h₂, d, -, s₃, h₃, s₆, h₆, -, -, s₇, h₇,
    -, -, rfl⟩ := h
  have b₃ := (currencyTransfer_balancesOnly h₁).trans ((currencyTransfer_balancesOnly h₂).trans
    (updateHubAssetLiquidity_balancesOnly h₃))
  have hIn₃ : s₃.assets.lookup aIn = some stIn := by rw [b₃.assets, hIn]
  obtain ⟨hsIn, hpIn⟩ := deltaUpdate_keepsShares hnewIn hch.1
  obtain ⟨hsOut, hpOut⟩ := deltaUpdate_keepsShares hnewOut hch.2
  have u₄ := setAssetState_sharesUntouched hIn₃ (hsIn.trans hInSt.1) (hpIn.trans hInSt.2)
  have hOut₄ : (setAssetState s₃ aIn newIn).assets.lookup aOut = some stOut := by
    simp only [setAssetState, AList.lookup_insert_ne (Ne.symm hne), b₃.assets, hOut]
  have u₅ := setAssetState_sharesUntouched hOut₄ (hsOut.trans hOutSt.1) (hpOut.trans hOutSt.2)
  exact b₃.sharesUntouched.trans (u₄.trans (u₅.trans ((updateSlipFeeDelta_slipOnly h₆).sharesUntouched.trans
    (processProtocolFee_sharesUntouched h₇))))

/-- Settling a hub-asset trade writes the asset back with its share counts. -/
theorem settleHubTrade_sharesUntouched {origin : Origin AccountId} {who : AccountId} {aOut : AssetId}
    {st : AssetReserveState} {ch : HubTradeStateChange} {stOut : AssetState}
    (h : settleHubTrade cfg origin who aOut st ch s = .ok s')
    (hOut : s.assets.lookup aOut = some stOut)
    (hSt : st.shares = stOut.shares ∧ st.protocolShares = stOut.protocolShares)
    (hch : ch.asset.KeepsShares) : SharesUntouched s s' := by
  simp only [settleHubTrade, Frame.bind_eq_ok, Frame.okOr_eq_ok, Frame.ensure_eq_ok, pure, Except.pure,
    Except.ok.injEq] at h
  obtain ⟨newOut, hnewOut, s₁, h₁, s₂, h₂, s₃, h₃, s₄, h₄, -, -, rfl⟩ := h
  have b₃ := (currencyTransfer_balancesOnly h₁).trans ((currencyTransfer_balancesOnly h₂).trans
    (updateHubAssetLiquidity_balancesOnly h₃))
  have hOut₃ : s₃.assets.lookup aOut = some stOut := by rw [b₃.assets, hOut]
  obtain ⟨hs, hp⟩ := deltaUpdate_keepsShares hnewOut hch
  exact b₃.sharesUntouched.trans ((setAssetState_sharesUntouched hOut₃ (hs.trans hSt.1)
    (hp.trans hSt.2)).trans (updateSlipFeeDeltaHubTrade_slipOnly h₄).sharesUntouched)

end Helpers

section Frames

variable {s s' : State AssetId AccountId}

/-- Writing an asset entry leaves the positions alone. -/
@[simp] theorem positionShares_withAssets (s : State AssetId AccountId) (m : StorageMap AssetId AssetState)
    (a : AssetId) : positionShares { s with assets := m } a = positionShares s a := rfl

@[simp] theorem positionShares_setAssetState (s : State AssetId AccountId) (a b : AssetId)
    (st : AssetReserveState) : positionShares (setAssetState s a st) b = positionShares s b := rfl

omit [DecidableEq AssetId] in
/-- A position added under a freshly minted NFT. -/
theorem owned_of_insert_fresh {AccountId : Type} {s s' : State AssetId AccountId} {id : Nat}
    {owner : AccountId} {p : Position AssetId}
    (howned : ∀ i, s.positionOwner.lookup i = none → s.positions.lookup i = none)
    (ho : s'.positionOwner = s.positionOwner.insert id owner) (hp : s'.positions = s.positions.insert id p) :
    ∀ i, s'.positionOwner.lookup i = none → s'.positions.lookup i = none := by
  intro i hi
  have hne : i ≠ id := by
    rintro rfl
    simp only [ho, AList.lookup_insert, reduceCtorEq] at hi
  rw [ho, AList.lookup_insert_ne hne] at hi
  rw [hp, AList.lookup_insert_ne hne]
  exact howned i hi

omit [DecidableEq AssetId] in
/-- A position removed with its NFT. -/
theorem owned_of_erase {AccountId : Type} {s s' : State AssetId AccountId} {id : Nat}
    (howned : ∀ i, s.positionOwner.lookup i = none → s.positions.lookup i = none)
    (ho : s'.positionOwner = s.positionOwner.erase id) (hp : s'.positions = s.positions.erase id) :
    ∀ i, s'.positionOwner.lookup i = none → s'.positions.lookup i = none := by
  intro i hi
  rw [hp]
  by_cases hne : i = id
  · subst hne
    exact AList.lookup_erase i s.positions
  · rw [ho, AList.lookup_erase_ne hne] at hi
    rw [AList.lookup_erase_ne hne]
    exact howned i hi

variable [DecidableEq AccountId]

/-- The end of a position in `remove_liquidity`: its shares become those of the updated
position, which is dropped when it has none. -/
theorem updateOrBurnPosition_positionShares {id : Nat} {who : AccountId} {old upd : Position AssetId}
    (h : updateOrBurnPosition s id who upd = .ok s') (hold : s.positions.lookup id = some old)
    (a : AssetId) : positionShares s' a + sharesIn a id old = positionShares s a + sharesIn a id upd := by
  rcases updateOrBurnPosition_ok h with ⟨h0, rfl⟩ | ⟨-, rfl⟩
  · have hzero : sharesIn a id upd = 0 := by
      unfold sharesIn
      split <;> omega
    rw [hzero, Nat.add_zero]
    exact positionShares_of_erase rfl hold a
  · exact positionShares_of_insert rfl hold a

omit [DecidableEq AssetId] in
theorem updateOrBurnPosition_owned {id : Nat} {who : AccountId} {upd : Position AssetId} {o : AccountId}
    (h : updateOrBurnPosition s id who upd = .ok s') (howner : s.positionOwner.lookup id = some o)
    (howned : ∀ i, s.positionOwner.lookup i = none → s.positions.lookup i = none) :
    ∀ i, s'.positionOwner.lookup i = none → s'.positions.lookup i = none := by
  rcases updateOrBurnPosition_ok h with ⟨-, rfl⟩ | ⟨-, rfl⟩
  · exact owned_of_erase howned rfl rfl
  · intro i hi
    -- the position keeps its NFT, so `i` is another id
    have hne : i ≠ id := by
      rintro rfl
      rw [howner] at hi
      cases hi
    show (s.positions.insert id upd).lookup i = none
    rw [AList.lookup_insert_ne hne]
    exact howned i hi

omit [DecidableEq AssetId] in
theorem updateOrBurnPosition_assets {id : Nat} {who : AccountId} {upd : Position AssetId}
    (h : updateOrBurnPosition s id who upd = .ok s') : s'.assets = s.assets := by
  rcases updateOrBurnPosition_ok h with ⟨-, rfl⟩ | ⟨-, rfl⟩ <;> rfl

end Frames

section Calls

variable [DecidableEq AccountId] {cfg : Config AssetId AccountId} {s s' : State AssetId AccountId}

/-- `add_token`: the new asset starts with all its shares in its one position. -/
theorem addToken_sharesInv {origin : Origin AccountId} {asset : AssetId} {price : FixedU128}
    {cap : Permill} {owner : AccountId} (h : addToken cfg origin asset price cap owner s = .ok s')
    (hI : SharesInv s) : SharesInv s' := by
  simp only [addToken, Frame.bind_eq_ok, Frame.okOr_eq_ok, Frame.ensure_eq_ok, pure, Except.pure,
    Except.ok.injEq] at h
  obtain ⟨-, -, -, hnew, -, -, -, -, ed, -, -, -, hub, -, ⟨t, s₁⟩, h₁, s₂, h₂, -, -, rfl⟩ := h
  obtain ⟨rfl, hfree, n, rfl⟩ := createAndMintPositionInstance_ok h₁
  have b₂ := updateHubAssetLiquidity_balancesOnly h₂
  -- the position lands on the NFT id just minted, which held no position
  have hp (b : AssetId) : positionShares s₂ b = positionShares s b + sharesIn b s.nextPositionId _ :=
    positionShares_of_insert_fresh b₂.positions (hI.owned _ hfree) b
  refine hI.update asset (fun b hb => ?_) (fun b hb => ?_) ?_
    (owned_of_insert_fresh hI.owned b₂.positionOwner b₂.positions)
  · exact shareView_of_insert_ne (by rw [b₂.assets]) hb
  · rw [positionShares_withAssets, hp b, sharesIn_of_ne (Ne.symm hb), Nat.add_zero]
  · rw [balancedAt_of_insert rfl, positionShares_withAssets, hp asset, hI.positionShares_eq_zero hnew]
    simp only [sharesIn, if_true]
    omega

/-- `add_liquidity`: the shares minted for the asset are the new position's. -/
theorem doAddLiquidity_sharesInv {origin : Origin AccountId} {asset : AssetId} {amount minShares : Nat}
    {r : Nat × State AssetId AccountId}
    (h : doAddLiquidity cfg origin asset amount minShares s = .ok r) (hI : SharesInv s) :
    SharesInv r.2 := by
  simp only [doAddLiquidity, Frame.bind_eq_ok, Frame.okOr_eq_ok, Frame.ensure_eq_ok, pure, Except.pure,
    Except.ok.injEq] at h
  obtain ⟨who, -, -, -, -, -, st, hst, -, -, -, -, ch, hch, -, -, new, hnew, -, -, -, -, -, -,
    ⟨t, s₁⟩, h₁, -, -, s₂, h₂, s₃, h₃, -, -, -, -, rfl⟩ := h
  have u₀ : SlipOnly s (ensureQ0Snapshot s asset st.hubReserve) := ensureQ0Snapshot_slipOnly _ _
  generalize ensureQ0Snapshot s asset st.hubReserve = q₀ at u₀ h₁
  have hI₀ := hI.untouched u₀.sharesUntouched
  obtain ⟨stA, hlook, rfl⟩ := loadAssetState_ok hst
  obtain ⟨rfl, hfree, n, rfl⟩ := createAndMintPositionInstance_ok h₁
  have b₃ := (currencyTransfer_balancesOnly h₂).trans (updateHubAssetLiquidity_balancesOnly h₃)
  -- the shares minted: the asset's grow by them, the protocol's do not move
  obtain ⟨hsh, hps⟩ := (calculateAddLiquidityStateChanges_shape _ _).of_eq hch
  have hs := deltaUpdate_shares hnew
  have hpr := deltaUpdate_protocolShares hnew
  rw [hsh, BalanceUpdate.toInt_increase] at hs
  rw [hps, BalanceUpdate.toInt_increase] at hpr
  simp only [ofState_shares, ofState_protocolShares] at hs hpr
  have hp (b : AssetId) : positionShares s₃ b = positionShares q₀ b + sharesIn b q₀.nextPositionId _ :=
    positionShares_of_insert_fresh b₃.positions (hI₀.owned _ hfree) b
  have ha₃ : s₃.assets = s.assets := b₃.assets.trans u₀.assets
  have hbal := hI.positionShares_add hlook
  refine hI.update asset (fun b hb => ?_) (fun b hb => ?_) ?_
    (owned_of_insert_fresh hI₀.owned b₃.positionOwner b₃.positions)
  · exact (shareView_of_insert_ne rfl hb).trans (by simp only [shareView, ha₃])
  · rw [positionShares_setAssetState, hp b, sharesIn_of_ne (Ne.symm hb), Nat.add_zero,
      u₀.sharesUntouched.positionShares]
  · rw [balancedAt_of_insert rfl, positionShares_setAssetState, hp asset,
      u₀.sharesUntouched.positionShares]
    simp only [sharesIn, if_true, toState_shares, toState_protocolShares]
    omega

/-- `remove_liquidity`: the shares removed leave the position and the asset's shares not
owned by the protocol alike. -/
theorem doRemoveLiquidity_sharesInv {origin : Origin AccountId} {id amount minLimit : Nat}
    {r : Nat × State AssetId AccountId}
    (h : doRemoveLiquidity cfg origin id amount minLimit s = .ok r) (hI : SharesInv s) :
    SharesInv r.2 := by
  simp only [doRemoveLiquidity, Frame.bind_eq_ok, Frame.okOr_eq_ok, Frame.ensure_eq_ok, pure, Except.pure,
    Except.ok.injEq] at h
  obtain ⟨who, -, -, -, -, howner, pos, hpos, -, hle, st, hst, -, -, -, -, -, -, -, -, -, -, -, -,
    fee, -, ch, hch, -, -, new, hnew, upd, hupd, s₁, h₁, s₂, h₂, -, -, -, -, rfl⟩ := h
  have u₀ : SlipOnly s (ensureQ0Snapshot s pos.assetId st.hubReserve) := ensureQ0Snapshot_slipOnly _ _
  generalize ensureQ0Snapshot s pos.assetId st.hubReserve = q₀ at u₀ h₁
  obtain ⟨stA, hlook, rfl⟩ := loadAssetState_ok hst
  have u₁ := u₀.sharesUntouched.trans (payOutLiquidity_balancesOnly h₁).sharesUntouched
  have b₁ := payOutLiquidity_balancesOnly h₁
  -- the removed shares split into burned ones and ones handed to the protocol
  obtain ⟨burned, toProtocol, hds, hdp, hdps, hsum⟩ :=
    (calculateRemoveLiquidityStateChanges_shape _ _ _ _).of_eq hch
  have hs := deltaUpdate_shares hnew
  have hpr := deltaUpdate_protocolShares hnew
  rw [hds, BalanceUpdate.toInt_decrease] at hs
  rw [hdp, BalanceUpdate.toInt_increase] at hpr
  simp only [ofState_shares, ofState_protocolShares] at hs hpr
  obtain ⟨hupdA, hupdS⟩ := Position.deltaUpdate_eq_some hupd
  rw [hdps, BalanceUpdate.toInt_decrease] at hupdS
  have hpos₁ : s₁.positions.lookup id = some pos := by rw [u₁.positions, hpos]
  have hp := updateOrBurnPosition_positionShares h₂ hpos₁
  have ha₂ : s₂.assets = s.assets := by
    rw [updateOrBurnPosition_assets h₂, b₁.assets, u₀.assets]
  have hbal := hI.positionShares_add hlook
  refine hI.update pos.assetId (fun b hb => ?_) (fun b hb => ?_) ?_ ?_
  · exact (shareView_of_insert_ne rfl hb).trans (by simp only [shareView, ha₂])
  · have := hp b
    rw [sharesIn_of_ne (Ne.symm hb), sharesIn_of_ne (by rw [hupdA]; exact Ne.symm hb),
      u₁.positionShares] at this
    rw [positionShares_setAssetState]
    omega
  · have := hp pos.assetId
    rw [u₁.positionShares, sharesIn_self] at this
    rw [balancedAt_of_insert rfl, positionShares_setAssetState]
    simp only [sharesIn, hupdA, if_true, toState_shares, toState_protocolShares] at this ⊢
    omega
  · have howner₁ : s₁.positionOwner.lookup id = some who := by
      rw [b₁.positionOwner, u₀.positionOwner, howner]
    have howned := updateOrBurnPosition_owned h₂ howner₁ (hI.untouched u₁).owned
    exact howned

/-- `sacrifice_position`: the position's shares become protocol shares. -/
theorem sacrificePosition_sharesInv {origin : Origin AccountId} {id : Nat}
    (h : sacrificePosition origin id s = .ok s') (hI : SharesInv s) : SharesInv s' := by
  simp only [sacrificePosition, Frame.bind_eq_ok, Frame.okOr_eq_ok, Frame.ensure_eq_ok] at h
  obtain ⟨who, -, pos, hpos, -, -, st, hst, ps, hps, h₁⟩ := h
  rw [burnPosition_ok h₁]
  obtain ⟨-, rfl⟩ := Word.checkedAdd_eq_some.mp hps
  have hp (b : AssetId) :
      positionShares { s with positions := s.positions.erase id } b + sharesIn b id pos = positionShares s b :=
    positionShares_of_erase rfl hpos b
  have hbal := hI.positionShares_add hst
  refine hI.update pos.assetId (fun b hb => ?_) (fun b hb => ?_) ?_ (owned_of_erase hI.owned rfl rfl)
  · exact shareView_of_insert_ne rfl hb
  · have := hp b
    rw [sharesIn_of_ne (Ne.symm hb), Nat.add_zero] at this
    exact this
  · have := hp pos.assetId
    rw [sharesIn_self] at this
    rw [balancedAt_of_insert rfl]
    change positionShares { s with positions := s.positions.erase id } pos.assetId + _ = _
    dsimp only
    omega

/-- `withdraw_protocol_liquidity`: the protocol shares withdrawn are burned with the
shares the removal burns, so shares and protocol shares fall together. -/
theorem withdrawProtocolLiquidity_sharesInv {origin : Origin AccountId} {a : AssetId} {amount : Nat}
    {price : Nat × Nat} {dest : AccountId}
    (h : withdrawProtocolLiquidity cfg origin a amount price dest s = .ok s') (hI : SharesInv s) :
    SharesInv s' := by
  simp only [withdrawProtocolLiquidity, Frame.bind_eq_ok, Frame.okOr_eq_ok, Frame.ensure_eq_ok, pure,
    Except.pure, Except.ok.injEq] at h
  obtain ⟨-, -, st, hst, -, hle, ch, hch, new, hnew, s₁, h₁, -, -, rfl⟩ := h
  obtain ⟨stA, hlook, rfl⟩ := loadAssetState_ok hst
  have b₁ := payOutLiquidity_balancesOnly h₁
  obtain ⟨burned, toProtocol, hds, hdp, -, hsum⟩ :=
    (calculateRemoveLiquidityStateChanges_shape _ _ _ _).of_eq hch
  have hs := deltaUpdate_shares hnew
  have hpr := deltaUpdate_protocolShares hnew
  rw [hds, BalanceUpdate.toInt_decrease] at hs
  rw [hdp, BalanceUpdate.toInt_increase] at hpr
  simp only [ofState_shares, ofState_protocolShares] at hs hpr hle
  have hbal := hI.positionShares_add hlook
  refine hI.update a (fun b hb => ?_) (fun b _ => ?_) ?_ ?_
  · exact (shareView_of_insert_ne rfl hb).trans (by simp only [shareView, b₁.assets])
  · exact b₁.sharesUntouched.positionShares b
  · rw [balancedAt_of_insert rfl, positionShares_setAssetState, b₁.sharesUntouched.positionShares]
    simp only [toState_shares, toState_protocolShares]
    omega
  · exact (hI.untouched b₁.sharesUntouched).owned

/-- `remove_token`: only an asset whose shares are all the protocol's leaves the pool, and
then no position holds any of it. -/
theorem removeToken_sharesInv {origin : Origin AccountId} {a : AssetId} {beneficiary : AccountId}
    (h : removeToken cfg origin a beneficiary s = .ok s') (hI : SharesInv s) : SharesInv s' := by
  simp only [removeToken, Frame.bind_eq_ok, Frame.ensure_eq_ok, pure, Except.pure, Except.ok.injEq] at h
  obtain ⟨-, -, st, hst, -, -, -, heq, s₁, h₁, s₂, h₂, rfl⟩ := h
  obtain ⟨stA, hlook, rfl⟩ := loadAssetState_ok hst
  have b₂ := (currencyWithdraw_balancesOnly h₁).trans (currencyTransfer_balancesOnly h₂)
  have hbal := hI.positionShares_add hlook
  simp only [ofState_shares, ofState_protocolShares] at heq
  refine hI.update a (fun b hb => ?_) (fun b _ => ?_) ?_ ?_
  · exact (shareView_of_erase_ne rfl hb).trans (by simp only [shareView, b₂.assets])
  · exact b₂.sharesUntouched.positionShares b
  · rw [balancedAt_of_erase rfl, positionShares_withAssets, b₂.sharesUntouched.positionShares]
    omega
  · exact (hI.untouched b₂.sharesUntouched).owned

omit [DecidableEq AccountId] in
/-- `set_asset_tradable_state` and `set_asset_weight_cap` rewrite an entry with its shares. -/
theorem setAssetTradableState_sharesUntouched {origin : Origin AccountId} {a : AssetId} {t : Tradability}
    (h : setAssetTradableState cfg origin a t s = .ok s') : SharesUntouched s s' := by
  simp only [setAssetTradableState, Frame.bind_eq_ok, Frame.ensure_eq_ok] at h
  obtain ⟨-, -, h⟩ := h
  split at h
  · simp only [Frame.bind_eq_ok, Frame.ensure_eq_ok, pure, Except.pure, Except.ok.injEq] at h
    obtain ⟨-, -, rfl⟩ := h
    exact .of_eq rfl rfl rfl
  · simp only [Frame.bind_eq_ok, Frame.okOr_eq_ok, pure, Except.pure, Except.ok.injEq] at h
    obtain ⟨st, hst, rfl⟩ := h
    exact ⟨shareView_of_insert_same rfl hst rfl rfl, rfl, fun _ h => h⟩

omit [DecidableEq AccountId] in
theorem setAssetWeightCap_sharesUntouched {origin : Origin AccountId} {a : AssetId} {cap : Permill}
    (h : setAssetWeightCap cfg origin a cap s = .ok s') : SharesUntouched s s' := by
  simp only [setAssetWeightCap, Frame.bind_eq_ok, Frame.okOr_eq_ok, Frame.ensure_eq_ok, pure, Except.pure,
    Except.ok.injEq] at h
  obtain ⟨-, -, st, hst, rfl⟩ := h
  exact ⟨shareView_of_insert_same rfl hst rfl rfl, rfl, fun _ h => h⟩

theorem refundRefusedAsset_sharesUntouched {origin : Origin AccountId} {a : AssetId} {amount : Nat}
    {recipient : AccountId} (h : refundRefusedAsset cfg origin a amount recipient s = .ok s') :
    SharesUntouched s s' := by
  simp only [refundRefusedAsset, Frame.bind_eq_ok, Frame.ensure_eq_ok] at h
  obtain ⟨-, -, -, -, -, -, -, -, h⟩ := h
  exact (currencyTransfer_balancesOnly h).sharesUntouched

omit [DecidableEq AccountId] in
theorem setSlipFee_sharesUntouched {origin : Origin AccountId} {f : Option SlipFeeConfig}
    (h : setSlipFee cfg origin f s = .ok s') : SharesUntouched s s' := by
  simp only [setSlipFee, Frame.bind_eq_ok, Frame.ensure_eq_ok] at h
  obtain ⟨-, -, h⟩ := h
  split at h
  · simp only [Frame.bind_eq_ok, Frame.ensure_eq_ok, pure, Except.pure, Except.ok.injEq] at h
    obtain ⟨-, -, rfl⟩ := h
    exact .of_eq rfl rfl rfl
  · cases h
    exact .of_eq rfl rfl rfl

/-- Selling the hub asset moves no shares. -/
theorem sellHubAsset_sharesUntouched {origin : Origin AccountId} {who : AccountId} {aOut : AssetId}
    {amount limit : Nat} (h : sellHubAsset cfg origin who aOut amount limit s = .ok s') :
    SharesUntouched s s' := by
  simp only [sellHubAsset, Frame.bind_eq_ok, Frame.okOr_eq_ok, Frame.ensure_eq_ok] at h
  obtain ⟨-, -, st, hst, -, -, -, -, -, -, ch, hch, -, -, -, -, -, -, ⟨t, s₂⟩, h₂, -, -, h₃⟩ := h
  have u₂ := (loadHubTradeSlipFees_slipOnly aOut st.hubReserve : SlipOnly s _).sharesUntouched.trans
    (processTradeFee_balancesOnly h₂).sharesUntouched
  have ha₂ : s₂.assets = s.assets :=
    (processTradeFee_balancesOnly h₂).assets.trans (loadHubTradeSlipFees_slipOnly aOut st.hubReserve).assets
  have hk := (calculateSellHubStateChanges_keepsShares _ _ _ _).of_eq hch
  obtain ⟨stA, hlook, rfl⟩ := loadAssetState_ok hst
  exact u₂.trans (settleHubTrade_sharesUntouched h₃ (by rw [ha₂, hlook]) ⟨rfl, rfl⟩
    (hk.accountForFeeTaken _))

theorem buyAssetForHubAsset_sharesUntouched {origin : Origin AccountId} {who : AccountId}
    {aOut : AssetId} {amount limit : Nat}
    (h : buyAssetForHubAsset cfg origin who aOut amount limit s = .ok s') : SharesUntouched s s' := by
  simp only [buyAssetForHubAsset, Frame.bind_eq_ok, Frame.okOr_eq_ok, Frame.ensure_eq_ok] at h
  obtain ⟨-, -, st, hst, -, -, -, -, -, -, ch, hch, -, -, -, -, -, -, -, -, ⟨t, s₂⟩, h₂, h₃⟩ := h
  have u₂ := (loadHubTradeSlipFees_slipOnly aOut st.hubReserve : SlipOnly s _).sharesUntouched.trans
    (processTradeFee_balancesOnly h₂).sharesUntouched
  have ha₂ : s₂.assets = s.assets :=
    (processTradeFee_balancesOnly h₂).assets.trans (loadHubTradeSlipFees_slipOnly aOut st.hubReserve).assets
  have hk := (calculateBuyForHubAssetStateChanges_keepsShares _ _ _ _).of_eq hch
  obtain ⟨stA, hlook, rfl⟩ := loadAssetState_ok hst
  exact u₂.trans (settleHubTrade_sharesUntouched h₃ (by rw [ha₂, hlook]) ⟨rfl, rfl⟩
    (hk.accountForFeeTaken _))

/-- A trade between two pool assets, once priced: both are written back with their shares. -/
theorem settleTrade_loaded_sharesUntouched {origin : Origin AccountId} {who : AccountId}
    {aIn aOut : AssetId} {inSt outSt : AssetReserveState} {ch : TradeStateChange} {hx : Nat}
    {s₂ : State AssetId AccountId}
    (hIn : loadAssetState cfg s aIn = .ok inSt) (hOut : loadAssetState cfg s aOut = .ok outSt)
    (ha₂ : s₂.assets = s.assets) (h : settleTrade cfg origin who aIn aOut inSt outSt ch hx s₂ = .ok s')
    (hne : aIn ≠ aOut) (hch : ch.assetIn.KeepsShares ∧ ch.assetOut.KeepsShares) :
    SharesUntouched s₂ s' := by
  obtain ⟨stIn, hlookIn, rfl⟩ := loadAssetState_ok hIn
  obtain ⟨stOut, hlookOut, rfl⟩ := loadAssetState_ok hOut
  exact settleTrade_sharesUntouched h (by rw [ha₂, hlookIn]) (by rw [ha₂, hlookOut]) ⟨rfl, rfl⟩
    ⟨rfl, rfl⟩ hne hch

/-- `sell` moves no shares. -/
theorem sell_sharesUntouched {origin : Origin AccountId} {aIn aOut : AssetId} {amount limit : Nat}
    (h : sell cfg origin aIn aOut amount limit s = .ok s') : SharesUntouched s s' := by
  simp only [sell, Frame.bind_eq_ok, Frame.ensure_eq_ok] at h
  obtain ⟨who, -, -, hne, -, -, -, -, h⟩ := h
  split at h
  · exact sellHubAsset_sharesUntouched h
  split at h
  · exact absurd h sellAssetForHubAsset_ne_ok
  simp only [Frame.bind_eq_ok, Frame.okOr_eq_ok, Frame.ensure_eq_ok] at h
  obtain ⟨inSt, hIn, outSt, hOut, x, -, -, -, -, -, -, -, ch, hch, -, -, -, -, -, -, -, -,
    ⟨t, s₂⟩, h₂, h₃⟩ := h
  have b₂ := processTradeFee_balancesOnly h₂
  have u₁ : SlipOnly s (loadTradeSlipFees s aIn inSt.hubReserve aOut outSt.hubReserve).2 :=
    loadTradeSlipFees_slipOnly _ _ _ _
  have hk := (calculateSellStateChanges_keepsShares _ _ _ _ _ _ _).of_eq hch
  exact (u₁.sharesUntouched.trans b₂.sharesUntouched).trans
    (settleTrade_loaded_sharesUntouched hIn hOut (b₂.assets.trans u₁.assets) h₃ hne
      ⟨hk.1, hk.2.accountForFeeTaken _⟩)

/-- `buy` moves no shares. -/
theorem buy_sharesUntouched {origin : Origin AccountId} {aOut aIn : AssetId} {amount limit : Nat}
    (h : buy cfg origin aOut aIn amount limit s = .ok s') : SharesUntouched s s' := by
  simp only [buy, Frame.bind_eq_ok, Frame.ensure_eq_ok] at h
  obtain ⟨who, -, -, hne, -, -, h⟩ := h
  split at h
  · exact absurd h buyHubAsset_ne_ok
  split at h
  · exact buyAssetForHubAsset_sharesUntouched h
  simp only [Frame.bind_eq_ok, Frame.okOr_eq_ok, Frame.ensure_eq_ok] at h
  obtain ⟨inSt, hIn, outSt, hOut, x, -, -, -, -, -, -, -, -, -, ch, hch, -, -, -, -, -, -, -, -,
    ⟨t, s₂⟩, h₂, h₃⟩ := h
  have b₂ := processTradeFee_balancesOnly h₂
  have u₁ : SlipOnly s (loadTradeSlipFees s aIn inSt.hubReserve aOut outSt.hubReserve).2 :=
    loadTradeSlipFees_slipOnly _ _ _ _
  have hk := (calculateBuyStateChanges_keepsShares _ _ _ _ _ _ _).of_eq hch
  exact (u₁.sharesUntouched.trans b₂.sharesUntouched).trans
    (settleTrade_loaded_sharesUntouched hIn hOut (b₂.assets.trans u₁.assets) h₃ hne
      ⟨hk.1, hk.2.accountForFeeTaken _⟩)

theorem addLiquidityWithLimit_sharesInv {origin : Origin AccountId} {asset : AssetId}
    {amount minShares : Nat} (h : addLiquidityWithLimit cfg origin asset amount minShares s = .ok s')
    (hI : SharesInv s) : SharesInv s' := by
  unfold addLiquidityWithLimit at h
  cases hr : doAddLiquidity cfg origin asset amount minShares s with
  | error e =>
    rw [hr] at h
    cases h
  | ok r =>
    rw [hr] at h
    cases h
    exact doAddLiquidity_sharesInv hr hI

theorem addAllLiquidity_sharesInv {origin : Origin AccountId} {asset : AssetId} {minShares : Nat}
    (h : addAllLiquidity cfg origin asset minShares s = .ok s') (hI : SharesInv s) : SharesInv s' := by
  simp only [addAllLiquidity, Frame.bind_eq_ok, Frame.ensure_eq_ok] at h
  obtain ⟨who, -, -, -, h⟩ := h
  exact addLiquidityWithLimit_sharesInv h hI

theorem removeLiquidityWithLimit_sharesInv {origin : Origin AccountId} {id amount minLimit : Nat}
    (h : removeLiquidityWithLimit cfg origin id amount minLimit s = .ok s') (hI : SharesInv s) :
    SharesInv s' := by
  unfold removeLiquidityWithLimit at h
  cases hr : doRemoveLiquidity cfg origin id amount minLimit s with
  | error e =>
    rw [hr] at h
    cases h
  | ok r =>
    rw [hr] at h
    cases h
    exact doRemoveLiquidity_sharesInv hr hI

theorem removeAllLiquidity_sharesInv {origin : Origin AccountId} {id minLimit : Nat}
    (h : removeAllLiquidity cfg origin id minLimit s = .ok s') (hI : SharesInv s) : SharesInv s' := by
  simp only [removeAllLiquidity, Frame.bind_eq_ok, Frame.okOr_eq_ok] at h
  obtain ⟨pos, -, h⟩ := h
  exact removeLiquidityWithLimit_sharesInv h hI

end Calls

section Run

variable [DecidableEq AccountId] {cfg : Config AssetId AccountId} {s s' : State AssetId AccountId}

/-- Every call keeps the share bookkeeping. -/
theorem SharesInv.step {c : Call AssetId AccountId} (h : step cfg c s = .ok s') (hI : SharesInv s) :
    SharesInv s' := by
  cases c with
  | addToken o a p w owner => exact addToken_sharesInv h hI
  | addLiquidity o a n => exact addLiquidityWithLimit_sharesInv h hI
  | addLiquidityWithLimit o a n m => exact addLiquidityWithLimit_sharesInv h hI
  | addAllLiquidity o a m => exact addAllLiquidity_sharesInv h hI
  | removeLiquidity o i n => exact removeLiquidityWithLimit_sharesInv h hI
  | removeLiquidityWithLimit o i n m => exact removeLiquidityWithLimit_sharesInv h hI
  | removeAllLiquidity o i m => exact removeAllLiquidity_sharesInv h hI
  | sacrificePosition o i => exact sacrificePosition_sharesInv h hI
  | sell o i out n m => exact hI.untouched (sell_sharesUntouched h)
  | buy o out i n m => exact hI.untouched (buy_sharesUntouched h)
  | setAssetTradableState o a t => exact hI.untouched (setAssetTradableState_sharesUntouched h)
  | refundRefusedAsset o a n r => exact hI.untouched (refundRefusedAsset_sharesUntouched h)
  | setAssetWeightCap o a c => exact hI.untouched (setAssetWeightCap_sharesUntouched h)
  | withdrawProtocolLiquidity o a n p d => exact withdrawProtocolLiquidity_sharesInv h hI
  | removeToken o a b => exact removeToken_sharesInv h hI
  | setSlipFee o f => exact hI.untouched (setSlipFee_sharesUntouched h)
  | onFinalize =>
    cases h
    exact hI.untouched (.of_eq rfl rfl rfl)

/-- Share bookkeeping: in every state reached from one where it holds, by any calls, the
positions of a pool asset hold exactly its shares less the protocol's, and the protocol
never owns more shares than there are. -/
theorem positionShares_eq_shares_sub_protocolShares {a : AssetId} {st : AssetState}
    (hs : Frame.Reachable SharesInv (step cfg) s) (h : s.assets.lookup a = some st) :
    positionShares s a = st.shares - st.protocolShares ∧ st.protocolShares ≤ st.shares := by
  have hI : SharesInv s := Frame.Reachable.induction (fun _ h => h) (fun _ _ _ hI h => hI.step h) hs
  have := hI.positionShares_add h
  omega

end Run

/-- A pool with no assets and no positions. -/
theorem SharesInv.empty {s : State AssetId AccountId} (ha : s.assets = ∅)
    (hp : s.positions = ∅) : SharesInv s where
  balanced a := by
    rw [balancedAt_of_lookup_none (by rw [ha]; rfl)]
    simp only [positionShares, hp, StorageMap.sumBy_empty]
  owned id _ := by
    rw [hp]
    rfl

/-- The example pool with accounts `100` (the pool) and `8` holding HDX and asset `2`. -/
def liquidityGenesis : State Nat Nat :=
  { exampleGenesis with
    balances := ⟨fun a x => if (x = 100 ∨ x = 8) ∧ (a = 0 ∨ a = 2) then 1000000 else 0⟩ }

/-- HDX and asset `2` added at price one, liquidity added to asset `2`, asset `2` sold for HDX,
then half of the new position removed below its entry price, so that the protocol keeps
`delta_b` of the shares removed. -/
def liquidityRun : List (Call Nat Nat) :=
  [.addToken .root 0 Fixed.one PerThing.one 7, .addToken .root 2 Fixed.one PerThing.one 7,
   .addLiquidity (.signed 8) 2 100000, .sell (.signed 8) 2 0 50000 0,
   .removeLiquidity (.signed 8) 2 50000]

theorem positionShares_liquidityRun :
    Frame.acceptedSum (step exampleConfig) (fun _ _ => 1) liquidityRun liquidityGenesis = 5 ∧
      positionShares (Frame.run (step exampleConfig) liquidityRun liquidityGenesis) 2 =
        1052222 - 2222 ∧ 2222 ≤ 1052222 :=
  ⟨by decide +kernel,
    positionShares_eq_shares_sub_protocolShares
      (Frame.reachable_run liquidityRun (.init (.empty rfl rfl)))
      (by decide +kernel : (Frame.run (step exampleConfig) liquidityRun liquidityGenesis).assets.lookup 2 =
        some ⟨1010362, 1052222, 2222, 1000000000000000000, default⟩)⟩

end Hydration.Omnipool.Pallet
