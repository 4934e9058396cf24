import Hydration.Omnipool.Pallet

/-!
# What each helper of the pallet writes

One inversion lemma per helper of `Pallet`: which fields of the state a successful
call may change, and how. The invariant proofs of the pallet use only these and
never unfold a helper. Two frame notions carry most of it: a helper that moves
balances only (`BalancesOnly`) and one that writes the per-block slip fee items
only (`SlipOnly`).
-/

namespace Hydration.Omnipool.Pallet

open Frame FixedPoint

variable {AssetId AccountId : Type}

/-- `s'` differs from `s` at most in the balances. -/
def BalancesOnly (s s' : State AssetId AccountId) : Prop :=
  s' = { s with balances := s'.balances }

/-- `s'` differs from `s` at most in the per-block slip fee items. -/
def SlipOnly (s s' : State AssetId AccountId) : Prop :=
  s' = { s with slipFeeHubReserveAtBlockStart := s'.slipFeeHubReserveAtBlockStart
                slipFeeDelta := s'.slipFeeDelta }

namespace BalancesOnly

variable {s₁ s₂ s₃ : State AssetId AccountId}

theorem refl (s : State AssetId AccountId) : BalancesOnly s s := rfl

theorem trans (h₁ : BalancesOnly s₁ s₂) (h₂ : BalancesOnly s₂ s₃) : BalancesOnly s₁ s₃ := by
  unfold BalancesOnly at *
  rw [h₂]
  conv_lhs => rw [h₁]

theorem assets (h : BalancesOnly s₁ s₂) : s₂.assets = s₁.assets := by rw [h]

theorem positions (h : BalancesOnly s₁ s₂) : s₂.positions = s₁.positions := by rw [h]

theorem positionOwner (h : BalancesOnly s₁ s₂) : s₂.positionOwner = s₁.positionOwner := by rw [h]

theorem nextPositionId (h : BalancesOnly s₁ s₂) : s₂.nextPositionId = s₁.nextPositionId := by rw [h]

end BalancesOnly

namespace SlipOnly

variable {s₁ s₂ s₃ : State AssetId AccountId}

theorem refl (s : State AssetId AccountId) : SlipOnly s s := rfl

theorem trans (h₁ : SlipOnly s₁ s₂) (h₂ : SlipOnly s₂ s₃) : SlipOnly s₁ s₃ := by
  unfold SlipOnly at *
  rw [h₂]
  conv_lhs => rw [h₁]

theorem assets (h : SlipOnly s₁ s₂) : s₂.assets = s₁.assets := by rw [h]

theorem balances (h : SlipOnly s₁ s₂) : s₂.balances = s₁.balances := by rw [h]

theorem positions (h : SlipOnly s₁ s₂) : s₂.positions = s₁.positions := by rw [h]

theorem positionOwner (h : SlipOnly s₁ s₂) : s₂.positionOwner = s₁.positionOwner := by rw [h]

theorem nextPositionId (h : SlipOnly s₁ s₂) : s₂.nextPositionId = s₁.nextPositionId := by rw [h]

theorem slipFee (h : SlipOnly s₁ s₂) : s₂.slipFee = s₁.slipFee := by rw [h]

end SlipOnly

@[simp] theorem ofState_hubReserve (st : AssetState) (r : Nat) :
    (AssetReserveState.ofState st r).hubReserve = st.hubReserve := rfl

@[simp] theorem ofState_shares (st : AssetState) (r : Nat) :
    (AssetReserveState.ofState st r).shares = st.shares := rfl

@[simp] theorem ofState_protocolShares (st : AssetState) (r : Nat) :
    (AssetReserveState.ofState st r).protocolShares = st.protocolShares := rfl

@[simp] theorem ofState_reserve (st : AssetState) (r : Nat) :
    (AssetReserveState.ofState st r).reserve = r := rfl

@[simp] theorem toState_hubReserve (s : AssetReserveState) : s.toState.hubReserve = s.hubReserve := rfl

@[simp] theorem toState_shares (s : AssetReserveState) : s.toState.shares = s.shares := rfl

@[simp] theorem toState_protocolShares (s : AssetReserveState) :
    s.toState.protocolShares = s.protocolShares := rfl

/-- `delta_update` applies each delta to its field. -/
theorem deltaUpdate_eq_some {st st' : AssetReserveState} {d : AssetStateChange}
    (h : st.deltaUpdate d = some st') :
    d.deltaReserve.addTo st.reserve = some st'.reserve ∧
      d.totalDeltaHubReserve.addTo st.hubReserve = some st'.hubReserve ∧
      d.deltaShares.addTo st.shares = some st'.shares ∧
      d.deltaProtocolShares.addTo st.protocolShares = some st'.protocolShares ∧
      st'.cap = st.cap ∧ st'.tradable = st.tradable := by
  simp only [AssetReserveState.deltaUpdate, Option.bind_eq_bind, Option.bind_eq_some_iff,
    Option.pure_def, Option.some.injEq] at h
  obtain ⟨r, hr, q, hq, sh, hsh, p, hp, rfl⟩ := h
  exact ⟨hr, hq, hsh, hp, rfl, rfl⟩

/-- `delta_update` moves the hub reserve by the total hub delta. -/
theorem deltaUpdate_hubReserve {st st' : AssetReserveState} {d : AssetStateChange}
    (h : st.deltaUpdate d = some st') :
    (st'.hubReserve : Int) = st.hubReserve + d.totalDeltaHubReserve.toInt :=
  BalanceUpdate.addTo_toInt (deltaUpdate_eq_some h).2.1

theorem deltaUpdate_shares {st st' : AssetReserveState} {d : AssetStateChange}
    (h : st.deltaUpdate d = some st') :
    (st'.shares : Int) = st.shares + d.deltaShares.toInt :=
  BalanceUpdate.addTo_toInt (deltaUpdate_eq_some h).2.2.1

theorem deltaUpdate_protocolShares {st st' : AssetReserveState} {d : AssetStateChange}
    (h : st.deltaUpdate d = some st') :
    (st'.protocolShares : Int) = st.protocolShares + d.deltaProtocolShares.toInt :=
  BalanceUpdate.addTo_toInt (deltaUpdate_eq_some h).2.2.2.1

theorem Position.deltaUpdate_eq_some {p p' : Position AssetId} {dr ds : BalanceUpdate}
    (h : p.deltaUpdate dr ds = some p') :
    p'.assetId = p.assetId ∧ (p'.shares : Int) = p.shares + ds.toInt := by
  simp only [Position.deltaUpdate, Option.bind_eq_bind, Option.bind_eq_some_iff, Option.pure_def,
    Option.some.injEq] at h
  obtain ⟨a, -, sh, hsh, rfl⟩ := h
  exact ⟨rfl, BalanceUpdate.addTo_toInt hsh⟩

theorem ensureSigned_ok {o : Origin AccountId} {who : AccountId} (h : ensureSigned o = .ok who) :
    o = .signed who := by
  cases o with
  | signed x =>
    cases h
    rfl
  | root => cases h
  | none => cases h

theorem isIncrease_eq_true {d : BalanceUpdate} (h : isIncrease d = true) : d = .increase d.amount := by
  cases d with
  | increase a => rfl
  | decrease a => cases h

section Helpers

variable [DecidableEq AssetId] [DecidableEq AccountId]
variable {cfg : Config AssetId AccountId} {s s' : State AssetId AccountId}

omit [DecidableEq AccountId] in
theorem loadAssetState_ok {a : AssetId} {r : AssetReserveState}
    (h : loadAssetState cfg s a = .ok r) :
    ∃ st, s.assets.lookup a = some st ∧ r = .ofState st (s.balances.free a cfg.protocolAccount) := by
  unfold loadAssetState at h
  split at h
  · rename_i st hst
    cases h
    exact ⟨st, hst, rfl⟩
  · cases h

theorem currencyTransfer_ok {a : AssetId} {src dst : AccountId} {amt : Nat}
    (h : currencyTransfer s a src dst amt = .ok s') :
    ∃ b, Tokens.transfer s.balances a src dst amt = some b ∧ s' = { s with balances := b } := by
  unfold currencyTransfer at h
  split at h
  · rename_i b hb
    cases h
    exact ⟨b, hb, rfl⟩
  · cases h

theorem currencyDeposit_ok {a : AssetId} {x : AccountId} {amt : Nat}
    (h : currencyDeposit s a x amt = .ok s') :
    ∃ b, Tokens.deposit s.balances a x amt = some b ∧ s' = { s with balances := b } := by
  unfold currencyDeposit at h
  split at h
  · rename_i b hb
    cases h
    exact ⟨b, hb, rfl⟩
  · cases h

theorem currencyWithdraw_ok {a : AssetId} {x : AccountId} {amt : Nat}
    (h : currencyWithdraw s a x amt = .ok s') :
    ∃ b, Tokens.withdraw s.balances a x amt = some b ∧ s' = { s with balances := b } := by
  unfold currencyWithdraw at h
  split at h
  · rename_i b hb
    cases h
    exact ⟨b, hb, rfl⟩
  · cases h

theorem currencyTransfer_balancesOnly {a : AssetId} {src dst : AccountId} {amt : Nat}
    (h : currencyTransfer s a src dst amt = .ok s') : BalancesOnly s s' := by
  obtain ⟨b, -, rfl⟩ := currencyTransfer_ok h
  rfl

theorem currencyWithdraw_balancesOnly {a : AssetId} {x : AccountId} {amt : Nat}
    (h : currencyWithdraw s a x amt = .ok s') : BalancesOnly s s' := by
  obtain ⟨b, -, rfl⟩ := currencyWithdraw_ok h
  rfl

theorem updateHubAssetLiquidity_balancesOnly {d : BalanceUpdate}
    (h : updateHubAssetLiquidity cfg s d = .ok s') : BalancesOnly s s' := by
  cases d with
  | increase amt =>
    obtain ⟨b, -, rfl⟩ := currencyDeposit_ok h
    rfl
  | decrease amt => exact currencyWithdraw_balancesOnly h

theorem processHubAmount_balancesOnly {amt : Nat} {dest : AccountId}
    (h : processHubAmount cfg s amt dest = .ok s') : BalancesOnly s s' := by
  unfold processHubAmount at h
  split at h
  · split at h
    · cases h
      rename_i s₁ ht
      exact currencyTransfer_balancesOnly ht
    · split at h
      · exact currencyWithdraw_balancesOnly h
      · cases h
  · cases h
    rfl

theorem payOutLiquidity_balancesOnly {a : AssetId} {dest : AccountId} {ch : LiquidityStateChange}
    (h : payOutLiquidity cfg s a dest ch = .ok s') : BalancesOnly s s' := by
  simp only [payOutLiquidity, Frame.bind_eq_ok, Frame.okOr_eq_ok] at h
  obtain ⟨s₁, h₁, d, -, s₂, h₂, h₃⟩ := h
  exact (currencyTransfer_balancesOnly h₁).trans
    ((updateHubAssetLiquidity_balancesOnly h₂).trans (processHubAmount_balancesOnly h₃))

theorem payTradeFees_balancesOnly {asset : AssetId} :
    ∀ (fees : List (Option (Nat × AccountId))) {s s' : State AssetId AccountId},
      payTradeFees cfg asset s fees = .ok s' → BalancesOnly s s'
  | [], s, s', h => by
    cases h
    rfl
  | none :: fees, _, _, h => payTradeFees_balancesOnly fees h
  | some (amt, r) :: fees, s, s', h => by
    simp only [payTradeFees, Frame.bind_eq_ok] at h
    obtain ⟨s₁, h₁, h₂⟩ := h
    exact (currencyTransfer_balancesOnly h₁).trans (payTradeFees_balancesOnly fees h₂)

theorem processTradeFee_ok {trader : AccountId} {asset : AssetId} {amt t : Nat}
    (h : processTradeFee cfg s trader asset amt = .ok (t, s')) :
    ∃ fees, payTradeFees cfg asset s fees = .ok s' := by
  simp only [processTradeFee, Frame.bind_eq_ok, Frame.okOr_eq_ok, Frame.ensure_eq_ok, pure,
    Except.pure, Except.ok.injEq, Prod.mk.injEq] at h
  obtain ⟨fees, -, s₁, h₁, -, -, -, -, -, rfl⟩ := h
  exact ⟨fees, h₁⟩

theorem processTradeFee_balancesOnly {who : AccountId} {asset : AssetId} {amt t : Nat}
    (h : processTradeFee cfg s who asset amt = .ok (t, s')) : BalancesOnly s s' := by
  obtain ⟨fees, hf⟩ := processTradeFee_ok h
  exact payTradeFees_balancesOnly fees hf

omit [DecidableEq AccountId] in
theorem snapshotQ0_slipOnly (a : AssetId) (q : Nat) : SlipOnly s (snapshotQ0 s a q).2 := by
  unfold snapshotQ0
  split <;> rfl

omit [DecidableEq AccountId] in
theorem ensureQ0Snapshot_slipOnly (a : AssetId) (q : Nat) : SlipOnly s (ensureQ0Snapshot s a q) := by
  unfold ensureQ0Snapshot
  split
  · exact snapshotQ0_slipOnly a q
  · rfl

omit [DecidableEq AccountId] in
theorem loadTradeSlipFees_slipOnly (a : AssetId) (qa : Nat) (b : AssetId) (qb : Nat) :
    SlipOnly s (loadTradeSlipFees s a qa b qb).2 := by
  unfold loadTradeSlipFees
  split
  · rfl
  · exact (snapshotQ0_slipOnly a qa).trans (snapshotQ0_slipOnly b qb)

omit [DecidableEq AccountId] in
theorem loadHubTradeSlipFees_slipOnly (a : AssetId) (q : Nat) :
    SlipOnly s (loadHubTradeSlipFees s a q).2 := by
  unfold loadHubTradeSlipFees
  split
  · rfl
  · exact snapshotQ0_slipOnly a q

omit [DecidableEq AccountId] in
theorem updateSlipFeeDelta_slipOnly {a b : AssetId} {x y : Nat}
    (h : updateSlipFeeDelta s a x b y = .ok s') : SlipOnly s s' := by
  unfold updateSlipFeeDelta at h
  split at h
  · cases h
    rfl
  · simp only [Frame.bind_eq_ok, Frame.okOr_eq_ok, pure, Except.pure, Except.ok.injEq] at h
    obtain ⟨-, -, -, -, rfl⟩ := h
    rfl

omit [DecidableEq AccountId] in
theorem updateSlipFeeDeltaHubTrade_slipOnly {a : AssetId} {y : Nat}
    (h : updateSlipFeeDeltaHubTrade s a y = .ok s') : SlipOnly s s' := by
  unfold updateSlipFeeDeltaHubTrade at h
  split at h
  · cases h
    rfl
  · simp only [Frame.bind_eq_ok, Frame.okOr_eq_ok, pure, Except.pure, Except.ok.injEq] at h
    obtain ⟨-, -, rfl⟩ := h
    rfl

omit [DecidableEq AssetId] [DecidableEq AccountId] in
/-- Minting a position NFT takes the next id, which must be free, and bumps the counter. -/
theorem createAndMintPositionInstance_ok {owner : AccountId} {t : Nat}
    (h : createAndMintPositionInstance s owner = .ok (t, s')) :
    t = s.nextPositionId ∧ s.positionOwner.lookup t = none ∧
      ∃ n, s' = { s with positionOwner := s.positionOwner.insert t owner, nextPositionId := n } := by
  simp only [createAndMintPositionInstance, Frame.bind_eq_ok, Frame.okOr_eq_ok, Frame.ensure_eq_ok,
    pure, Except.pure, Except.ok.injEq, Prod.mk.injEq] at h
  obtain ⟨-, hfree, n, -, rfl, rfl⟩ := h
  exact ⟨rfl, hfree, n, rfl⟩

omit [DecidableEq AssetId] in
theorem burnPosition_ok {id : Nat} {who : AccountId} (h : burnPosition s id who = .ok s') :
    s' = { s with positionOwner := s.positionOwner.erase id } := by
  unfold burnPosition at h
  split at h
  · split at h
    · cases h
      rfl
    · cases h
  · cases h

omit [DecidableEq AssetId] in
/-- The position either goes, with its NFT, or is overwritten. -/
theorem updateOrBurnPosition_ok {id : Nat} {who : AccountId} {p : Position AssetId}
    (h : updateOrBurnPosition s id who p = .ok s') :
    (p.shares = 0 ∧ s' = { s with positions := s.positions.erase id,
                                  positionOwner := s.positionOwner.erase id }) ∨
      (p.shares ≠ 0 ∧ s' = { s with positions := s.positions.insert id p }) := by
  unfold updateOrBurnPosition at h
  split at h
  · rename_i h0
    exact .inl ⟨h0, burnPosition_ok h⟩
  · rename_i h0
    simp only [Frame.bind_eq_ok, Frame.okOr_eq_ok, pure, Except.pure, Except.ok.injEq] at h
    obtain ⟨-, -, rfl⟩ := h
    exact .inr ⟨h0, rfl⟩

omit [DecidableEq AssetId] [DecidableEq AccountId] in
theorem buyHubAsset_ne_ok : buyHubAsset s ≠ .ok s' := by
  simp only [buyHubAsset, ne_eq, Frame.bind_eq_ok, Frame.ensure_eq_ok, throw, throwThe,
    MonadExceptOf.throw, reduceCtorEq, and_false, exists_false, not_false_eq_true]

omit [DecidableEq AssetId] [DecidableEq AccountId] in
theorem sellAssetForHubAsset_ne_ok : sellAssetForHubAsset s ≠ .ok s' := by
  simp only [sellAssetForHubAsset, ne_eq, Frame.bind_eq_ok, Frame.ensure_eq_ok, throw, throwThe,
    MonadExceptOf.throw, reduceCtorEq, and_false, exists_false, not_false_eq_true]

end Helpers

end Hydration.Omnipool.Pallet
