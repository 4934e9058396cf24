import Hydration.Omnipool.Effects

/-!
# Hub asset conservation

The hub asset (LRNA) held by the pool account backs the hub reserves of the pool's
assets: `try_state` asserts that the pool's LRNA balance is the sum of `hub_reserve`
over `Assets`. This module proves it over every run, from the effect of each helper
on the *gap* `hubBalance - hubReserveSum`: every mint, burn and transfer of LRNA
is matched by a write of the same amount to some hub reserve.

The invariant needs three things of the calls, none of which the pallet checks:
the hub asset is never added to `Assets`, protocol liquidity is never paid out to
the pool account itself, and no call is signed by the (keyless) pool account.
`hubBacking_broken` shows that the first is needed: with `add_token` of the hub
asset, `sacrifice_position` and `withdraw_protocol_liquidity` break the invariant.
-/

namespace Hydration.Omnipool.Pallet

open Frame FixedPoint

variable {AssetId AccountId : Type} [DecidableEq AssetId]

/-- The sum of `hub_reserve` over `Assets`. -/
def hubReserveSum (s : State AssetId AccountId) : Nat :=
  StorageMap.sumBy (fun _ st => st.hubReserve) s.assets

/-- The pool account's free hub asset balance. -/
def hubBalance (cfg : Config AssetId AccountId) (s : State AssetId AccountId) : Nat :=
  s.balances.free cfg.hubAssetId cfg.protocolAccount

/-- How far the pool's hub balance exceeds the hub reserves it backs. -/
def gap (cfg : Config AssetId AccountId) (s : State AssetId AccountId) : Int :=
  hubBalance cfg s - hubReserveSum s

/-- The invariant: the hub balance backs the hub reserves exactly, and the hub asset
is not itself a pool asset. -/
structure HubInv (cfg : Config AssetId AccountId) (s : State AssetId AccountId) : Prop where
  backed : hubBalance cfg s = hubReserveSum s
  hubAbsent : s.assets.lookup cfg.hubAssetId = none

/-- A step that touches neither `Assets` nor the pool's hub balance. -/
structure HubUntouched (cfg : Config AssetId AccountId) (s s' : State AssetId AccountId) : Prop where
  assets : s'.assets = s.assets
  balance : hubBalance cfg s' = hubBalance cfg s

namespace HubUntouched

variable {cfg : Config AssetId AccountId} {s₁ s₂ s₃ : State AssetId AccountId}

omit [DecidableEq AssetId] in
theorem refl (s : State AssetId AccountId) : HubUntouched cfg s s := ⟨rfl, rfl⟩

omit [DecidableEq AssetId] in
theorem trans (h₁ : HubUntouched cfg s₁ s₂) (h₂ : HubUntouched cfg s₂ s₃) : HubUntouched cfg s₁ s₃ :=
  ⟨h₂.assets.trans h₁.assets, h₂.balance.trans h₁.balance⟩

omit [DecidableEq AssetId] in
theorem of_balances (ha : s₂.assets = s₁.assets) (hb : s₂.balances = s₁.balances) :
    HubUntouched cfg s₁ s₂ :=
  ⟨ha, by simp only [hubBalance, hb]⟩

omit [DecidableEq AssetId] in
theorem gap_eq (h : HubUntouched cfg s₁ s₂) : gap cfg s₂ = gap cfg s₁ := by
  simp only [gap, hubReserveSum, h.assets, h.balance]

theorem hubAbsent (h : HubUntouched cfg s₁ s₂) (h₁ : s₁.assets.lookup cfg.hubAssetId = none) :
    s₂.assets.lookup cfg.hubAssetId = none := by
  rw [h.assets]
  exact h₁

end HubUntouched

section Helpers

variable [DecidableEq AccountId] {cfg : Config AssetId AccountId} {s s' : State AssetId AccountId}

omit [DecidableEq AccountId] in
/-- A loaded asset is not the hub asset while the hub asset is absent. -/
theorem loadAssetState_ne_hub {a : AssetId} {r : AssetReserveState}
    (h : loadAssetState cfg s a = .ok r) (habs : s.assets.lookup cfg.hubAssetId = none) :
    a ≠ cfg.hubAssetId := by
  rintro rfl
  obtain ⟨st, hst, -⟩ := loadAssetState_ok h
  rw [habs] at hst
  cases hst

/-- A transfer of another asset leaves the hub view alone. -/
theorem currencyTransfer_untouched {a : AssetId} {src dst : AccountId} {amt : Nat}
    (h : currencyTransfer s a src dst amt = .ok s') (ha : a ≠ cfg.hubAssetId) :
    HubUntouched cfg s s' := by
  obtain ⟨b, hb, rfl⟩ := currencyTransfer_ok h
  exact ⟨rfl, Tokens.free_transfer_of_ne hb (Ne.symm ha) _⟩

/-- A hub asset transfer into the pool account. -/
theorem hubBalance_transfer_in {src : AccountId} {amt : Nat}
    (h : currencyTransfer s cfg.hubAssetId src cfg.protocolAccount amt = .ok s')
    (hsrc : src ≠ cfg.protocolAccount) :
    s'.assets = s.assets ∧ hubBalance cfg s' = hubBalance cfg s + amt := by
  obtain ⟨b, hb, rfl⟩ := currencyTransfer_ok h
  have := Tokens.free_transfer hb cfg.hubAssetId cfg.protocolAccount
  simp only [Ne.symm hsrc, and_false, if_false, true_and, if_true, Nat.add_zero] at this
  exact ⟨rfl, this⟩

/-- What enters the pool's hub balance keeps it a `u128`. -/
theorem hubBalance_transfer_in_le {src : AccountId} {amt : Nat}
    (h : currencyTransfer s cfg.hubAssetId src cfg.protocolAccount amt = .ok s')
    (hsrc : src ≠ cfg.protocolAccount) (hpos : 0 < amt) :
    hubBalance cfg s + amt ≤ Word.max u128 := by
  obtain ⟨b, hb, rfl⟩ := currencyTransfer_ok h
  exact Tokens.transfer_le hb hpos hsrc

/-- A hub asset transfer out of the pool account. -/
theorem hubBalance_transfer_out {dst : AccountId} {amt : Nat}
    (h : currencyTransfer s cfg.hubAssetId cfg.protocolAccount dst amt = .ok s')
    (hdst : dst ≠ cfg.protocolAccount) :
    s'.assets = s.assets ∧ hubBalance cfg s' + amt = hubBalance cfg s := by
  obtain ⟨b, hb, rfl⟩ := currencyTransfer_ok h
  have := Tokens.free_transfer hb cfg.hubAssetId cfg.protocolAccount
  simp only [Ne.symm hdst, and_false, if_false, true_and, if_true, Nat.add_zero] at this
  exact ⟨rfl, this⟩

/-- Minting or burning moves the pool's hub balance by the signed update. -/
theorem updateHubAssetLiquidity_ok {d : BalanceUpdate} (h : updateHubAssetLiquidity cfg s d = .ok s') :
    s'.assets = s.assets ∧ (hubBalance cfg s' : Int) = hubBalance cfg s + d.toInt := by
  cases d with
  | increase amt =>
    simp only [updateHubAssetLiquidity, currencyDeposit] at h
    split at h
    · rename_i b hb
      cases h
      have := Tokens.free_deposit hb cfg.hubAssetId cfg.protocolAccount
      simp only [and_self, if_true] at this
      refine ⟨rfl, ?_⟩
      simp only [hubBalance, this, BalanceUpdate.toInt_increase]
      push_cast
      rfl
    · cases h
  | decrease amt =>
    simp only [updateHubAssetLiquidity, currencyWithdraw] at h
    split at h
    · rename_i b hb
      cases h
      have := Tokens.free_withdraw hb cfg.hubAssetId cfg.protocolAccount
      simp only [and_self, if_true] at this
      refine ⟨rfl, ?_⟩
      simp only [hubBalance, BalanceUpdate.toInt_decrease]
      omega
    · cases h

theorem updateHubAssetLiquidity_increase_le {amt : Nat}
    (h : updateHubAssetLiquidity cfg s (.increase amt) = .ok s') (hpos : 0 < amt) :
    hubBalance cfg s + amt ≤ Word.max u128 := by
  simp only [updateHubAssetLiquidity, currencyDeposit] at h
  split at h
  · rename_i b hb
    exact Tokens.deposit_le hb hpos
  · cases h

theorem gap_updateHubAssetLiquidity {d : BalanceUpdate} (h : updateHubAssetLiquidity cfg s d = .ok s') :
    gap cfg s' = gap cfg s + d.toInt := by
  obtain ⟨ha, hb⟩ := updateHubAssetLiquidity_ok h
  simp only [gap, hubReserveSum, ha, hb]
  ring

omit [DecidableEq AccountId] in
/-- Overwriting an asset's entry moves the sum by the new hub reserve minus the old one. -/
theorem hubReserveSum_insert {a : AssetId} {old : AssetState} (new : AssetState)
    (h : s.assets.lookup a = some old) :
    hubReserveSum { s with assets := s.assets.insert a new } + old.hubReserve =
      hubReserveSum s + new.hubReserve := by
  have := StorageMap.sumBy_insert_add (fun _ st => st.hubReserve) s.assets a new
  rw [StorageMap.at?_of_lookup _ h] at this
  exact this

omit [DecidableEq AccountId] in
variable (cfg) in
theorem gap_insert {a : AssetId} {old : AssetState} (new : AssetState)
    (h : s.assets.lookup a = some old) :
    gap cfg { s with assets := s.assets.insert a new } = gap cfg s + old.hubReserve - new.hubReserve := by
  have := hubReserveSum_insert new h
  simp only [gap, hubBalance] at *
  omega

omit [DecidableEq AccountId] in
theorem insert_hubAbsent {a : AssetId} {old : AssetState} (new : AssetState)
    (h : s.assets.lookup a = some old) (habs : s.assets.lookup cfg.hubAssetId = none) :
    (s.assets.insert a new).lookup cfg.hubAssetId = none := by
  have hne : cfg.hubAssetId ≠ a := by
    rintro rfl
    rw [habs] at h
    cases h
  simp only [AList.lookup_insert_ne hne, habs]

omit [DecidableEq AccountId] in
variable (cfg) in
theorem gap_setAssetState {a : AssetId} {old : AssetState} (new : AssetReserveState)
    (h : s.assets.lookup a = some old) :
    gap cfg (setAssetState s a new) = gap cfg s + old.hubReserve - new.hubReserve :=
  gap_insert cfg new.toState h

omit [DecidableEq AccountId] in
theorem setAssetState_hubAbsent {a : AssetId} {old : AssetState} (new : AssetReserveState)
    (h : s.assets.lookup a = some old) (habs : s.assets.lookup cfg.hubAssetId = none) :
    (setAssetState s a new).assets.lookup cfg.hubAssetId = none :=
  insert_hubAbsent new.toState h habs

/-- Paying hub asset to an LP other than the pool lowers the hub balance by the amount,
whether it is transferred or burned. -/
theorem processHubAmount_ok {amt : Nat} {dest : AccountId}
    (h : processHubAmount cfg s amt dest = .ok s') (hdest : dest ≠ cfg.protocolAccount) :
    s'.assets = s.assets ∧ hubBalance cfg s' + amt = hubBalance cfg s := by
  unfold processHubAmount at h
  split at h
  · split at h
    · cases h
      rename_i s₁ ht
      exact hubBalance_transfer_out ht hdest
    · split at h
      · unfold currencyWithdraw at h
        split at h
        · rename_i b hb
          cases h
          have := Tokens.free_withdraw hb cfg.hubAssetId cfg.protocolAccount
          simp only [and_self, if_true] at this
          exact ⟨rfl, this⟩
        · cases h
      · cases h
  · cases h
    rename_i hz
    exact ⟨rfl, by omega⟩

omit [DecidableEq AccountId] in
theorem increaseHdxSubpoolHubReserve_ok {origin : Origin AccountId} {amt : Nat}
    (h : increaseHdxSubpoolHubReserve cfg origin s amt = .ok s')
    (habs : s.assets.lookup cfg.hubAssetId = none) :
    hubReserveSum s' = hubReserveSum s + amt ∧ hubBalance cfg s' = hubBalance cfg s ∧
      s'.assets.lookup cfg.hubAssetId = none := by
  unfold increaseHdxSubpoolHubReserve at h
  by_cases hz : amt = 0
  · simp only [hz, if_true, Except.ok.injEq] at h
    subst h
    exact ⟨by omega, rfl, habs⟩
  simp only [hz, if_false, Frame.bind_eq_ok, Frame.okOr_eq_ok, Frame.ensure_eq_ok, pure,
    Except.pure, Except.ok.injEq] at h
  obtain ⟨-, -, st, hst, hub, hhub, -, -, -, -, rfl⟩ := h
  have hhub' := (Word.checkedAdd_eq_some.mp hhub).2
  -- the HDX entry is rewritten with its hub reserve raised by `amt`
  have hsum := StorageMap.sumBy_insert_add (fun _ st => st.hubReserve) s.assets cfg.hdxAssetId
    { st with hubReserve := hub }
  rw [StorageMap.at?_of_lookup _ hst] at hsum
  have hne : cfg.hubAssetId ≠ cfg.hdxAssetId := by
    rintro heq
    rw [heq, hst] at habs
    cases habs
  refine ⟨?_, rfl, ?_⟩
  · simp only [hubReserveSum] at hsum ⊢
    omega
  · simp only [AList.lookup_insert_ne hne, habs]

omit [DecidableEq AssetId] [DecidableEq AccountId] in
variable (cfg) in
theorem SlipOnly.hubUntouched {s₁ s₂ : State AssetId AccountId} (h : SlipOnly s₁ s₂) :
    HubUntouched cfg s₁ s₂ :=
  .of_balances h.assets h.balances

/-- The unburned protocol fee is minted and credited to the HDX subpool: the gap is kept. -/
theorem processProtocolFee_ok {origin : Origin AccountId} {protocolFee burned : Nat}
    (h : processProtocolFee cfg origin s protocolFee burned = .ok s')
    (habs : s.assets.lookup cfg.hubAssetId = none) :
    gap cfg s' = gap cfg s ∧ s'.assets.lookup cfg.hubAssetId = none := by
  unfold processProtocolFee at h
  by_cases h0 : protocolFee = 0
  · simp only [h0, if_true, Except.ok.injEq] at h
    subst h
    exact ⟨rfl, habs⟩
  by_cases hr : protocolFee - burned = 0
  · simp only [h0, hr, if_false, if_true, Except.ok.injEq] at h
    subst h
    exact ⟨rfl, habs⟩
  simp only [h0, hr, if_false, Frame.bind_eq_ok] at h
  obtain ⟨s₁, h₁, h₂⟩ := h
  obtain ⟨ha₁, hb₁⟩ := updateHubAssetLiquidity_ok h₁
  obtain ⟨hs₂, hb₂, habs₂⟩ := increaseHdxSubpoolHubReserve_ok h₂ (by rw [ha₁]; exact habs)
  refine ⟨?_, habs₂⟩
  have hs₁ : hubReserveSum s₁ = hubReserveSum s := by simp only [hubReserveSum, ha₁]
  simp only [BalanceUpdate.toInt_increase] at hb₁
  simp only [gap, hs₂, hb₂, hs₁]
  push_cast
  omega

/-- The trade fee hook moves only the fee asset. -/
theorem payTradeFees_untouched {asset : AssetId} (ha : asset ≠ cfg.hubAssetId) :
    ∀ (fees : List (Option (Nat × AccountId))) {s s' : State AssetId AccountId},
      payTradeFees cfg asset s fees = .ok s' → HubUntouched cfg s s'
  | [], s, s', h => by
    cases h
    exact .refl s
  | none :: fees, _, _, h => payTradeFees_untouched ha fees h
  | some (amt, r) :: fees, s, s', h => by
    simp only [payTradeFees, Frame.bind_eq_ok] at h
    obtain ⟨s₁, h₁, h₂⟩ := h
    exact (currencyTransfer_untouched h₁ ha).trans (payTradeFees_untouched ha fees h₂)

theorem processTradeFee_untouched {who : AccountId} {asset : AssetId} {amt t : Nat}
    (h : processTradeFee cfg s who asset amt = .ok (t, s')) (ha : asset ≠ cfg.hubAssetId) :
    HubUntouched cfg s s' := by
  obtain ⟨fees, hf⟩ := processTradeFee_ok h
  exact payTradeFees_untouched ha fees hf

/-- Settling a trade keeps the gap: the one mint or burn is the merge of the two total
hub deltas, each of which is what one of the two hub reserves moves by, and the
unburned protocol fee is minted into the HDX subpool. -/
theorem settleTrade_ok {origin : Origin AccountId} {who : AccountId} {aIn aOut : AssetId}
    {inSt outSt : AssetReserveState} {ch : TradeStateChange} {hx : Nat} {stIn stOut : AssetState}
    (h : settleTrade cfg origin who aIn aOut inSt outSt ch hx s = .ok s')
    (hIn : s.assets.lookup aIn = some stIn) (hOut : s.assets.lookup aOut = some stOut)
    (hInHub : inSt.hubReserve = stIn.hubReserve) (hOutHub : outSt.hubReserve = stOut.hubReserve)
    (hne : aIn ≠ aOut) (haIn : aIn ≠ cfg.hubAssetId) (haOut : aOut ≠ cfg.hubAssetId)
    (habs : s.assets.lookup cfg.hubAssetId = none) :
    gap cfg s' = gap cfg s ∧ s'.assets.lookup cfg.hubAssetId = none := by
  simp only [settleTrade, Frame.bind_eq_ok, Frame.okOr_eq_ok, Frame.ensure_eq_ok, pure, Except.pure,
    Except.ok.injEq] at h
  obtain ⟨newIn, hnewIn, newOut, hnewOut, s₁, h₁, s₂, h₂, d, hd, s₃, h₃, s₆, h₆, -, -, s₇, h₇,
    -, -, rfl⟩ := h
  -- the two reserve transfers are of pool assets, not of the hub asset
  have u₂ := (currencyTransfer_untouched h₁ haIn).trans (currencyTransfer_untouched h₂ haOut)
  obtain ⟨ha₃, -⟩ := updateHubAssetLiquidity_ok h₃
  have g₃ := gap_updateHubAssetLiquidity h₃
  have hIn₃ : s₃.assets.lookup aIn = some stIn := by rw [ha₃, u₂.assets, hIn]
  have hOut₄ : (setAssetState s₃ aIn newIn).assets.lookup aOut = some stOut := by
    simp only [setAssetState, AList.lookup_insert_ne (Ne.symm hne), ha₃, u₂.assets, hOut]
  have g₄ := gap_setAssetState cfg newIn hIn₃
  have g₅ := gap_setAssetState cfg newOut hOut₄
  have abs₃ : s₃.assets.lookup cfg.hubAssetId = none := by rw [ha₃, u₂.assets, habs]
  have abs₅ := setAssetState_hubAbsent newOut hOut₄ (setAssetState_hubAbsent newIn hIn₃ abs₃)
  have u₆ := (updateSlipFeeDelta_slipOnly h₆).hubUntouched cfg
  obtain ⟨g₇, abs₇⟩ := processProtocolFee_ok h₇ (u₆.hubAbsent abs₅)
  refine ⟨?_, abs₇⟩
  have hd' := BalanceUpdate.merge_toInt hd
  have hnIn := deltaUpdate_hubReserve hnewIn
  have hnOut := deltaUpdate_hubReserve hnewOut
  rw [g₇, u₆.gap_eq, g₅, g₄, g₃, hd', u₂.gap_eq]
  omega

/-- Settling a hub-asset trade keeps the gap: the trader's hub payment and the minted
extra amount are what the asset's hub reserve moves by. -/
theorem settleHubTrade_ok {origin : Origin AccountId} {who : AccountId} {aOut : AssetId}
    {st : AssetReserveState} {ch : HubTradeStateChange} {stOut : AssetState}
    (h : settleHubTrade cfg origin who aOut st ch s = .ok s')
    (hOut : s.assets.lookup aOut = some stOut) (hHub : st.hubReserve = stOut.hubReserve)
    (hinc : ch.asset.deltaHubReserve = .increase ch.asset.deltaHubReserve.amount)
    (haOut : aOut ≠ cfg.hubAssetId) (hwho : who ≠ cfg.protocolAccount)
    (habs : s.assets.lookup cfg.hubAssetId = none) :
    gap cfg s' = gap cfg s ∧ s'.assets.lookup cfg.hubAssetId = none := by
  simp only [settleHubTrade, Frame.bind_eq_ok, Frame.okOr_eq_ok, Frame.ensure_eq_ok, pure, Except.pure,
    Except.ok.injEq] at h
  obtain ⟨newOut, hnewOut, s₁, h₁, s₂, h₂, s₃, h₃, s₄, h₄, -, -, rfl⟩ := h
  obtain ⟨ha₁, hb₁⟩ := hubBalance_transfer_in h₁ hwho
  have u₂ := currencyTransfer_untouched h₂ haOut
  obtain ⟨ha₃, -⟩ := updateHubAssetLiquidity_ok h₃
  have g₃ := gap_updateHubAssetLiquidity h₃
  have hOut₃ : s₃.assets.lookup aOut = some stOut := by rw [ha₃, u₂.assets, ha₁, hOut]
  have g₄ := gap_setAssetState cfg newOut hOut₃
  have abs₃ : s₃.assets.lookup cfg.hubAssetId = none := by rw [ha₃, u₂.assets, ha₁, habs]
  have u₄ := (updateSlipFeeDeltaHubTrade_slipOnly h₄).hubUntouched cfg
  refine ⟨?_, u₄.hubAbsent (setAssetState_hubAbsent newOut hOut₃ abs₃)⟩
  -- the paid amount and a minted extra amount both entered the pool's hub balance,
  -- so merging them does not saturate
  have hfit : ∀ e, ch.asset.extraHubReserveAmount = .increase e →
      ch.asset.deltaHubReserve.amount + e ≤ Word.max u128 := by
    intro e he
    rw [he] at h₃
    rcases Nat.eq_zero_or_pos e with rfl | he₀
    · rcases Nat.eq_zero_or_pos ch.asset.deltaHubReserve.amount with h0 | hpos
      · rw [h0]
        exact Nat.zero_le _
      · have := hubBalance_transfer_in_le h₁ hwho hpos
        omega
    · have := updateHubAssetLiquidity_increase_le h₃ he₀
      rw [u₂.balance] at this
      omega
  have htot : ch.asset.totalDeltaHubReserve.toInt =
      ch.asset.deltaHubReserve.amount + ch.asset.extraHubReserveAmount.toInt := by
    unfold AssetStateChange.totalDeltaHubReserve
    rw [hinc]
    exact BalanceUpdate.saturatingMerge_increase_toInt hfit
  have hn := deltaUpdate_hubReserve hnewOut
  have g₁ : gap cfg s₁ = gap cfg s + ch.asset.deltaHubReserve.amount := by
    simp only [gap, hubReserveSum, ha₁, hb₁]
    push_cast
    ring
  rw [u₄.gap_eq, g₄, g₃, u₂.gap_eq, g₁]
  omega

end Helpers

section Calls

/-! Each call keeps the gap and keeps the hub asset out of `Assets`, under what the
call itself must not do (`Call.Admissible` below collects these). -/

variable [DecidableEq AccountId] {cfg : Config AssetId AccountId} {s s' : State AssetId AccountId}

/-- `add_token` of a pool asset: the minted hub reserve is the new entry's. -/
theorem addToken_gap {origin : Origin AccountId} {asset : AssetId} {price : FixedU128} {cap : Permill}
    {owner : AccountId} (h : addToken cfg origin asset price cap owner s = .ok s')
    (hasset : asset ≠ cfg.hubAssetId) (habs : s.assets.lookup cfg.hubAssetId = none) :
    gap cfg s' = gap cfg s ∧ s'.assets.lookup cfg.hubAssetId = none := by
  simp only [addToken, Frame.bind_eq_ok, Frame.okOr_eq_ok, Frame.ensure_eq_ok, pure, Except.pure,
    Except.ok.injEq] at h
  obtain ⟨-, -, -, hnew, -, -, -, -, ed, -, -, -, hub, -, ⟨t, s₁⟩, h₁, s₂, h₂, -, -, rfl⟩ := h
  obtain ⟨-, -, n, rfl⟩ := createAndMintPositionInstance_ok h₁
  obtain ⟨ha₂, -⟩ := updateHubAssetLiquidity_ok h₂
  have ha : s₂.assets = s.assets := ha₂
  have g₂ : gap cfg s₂ = gap cfg s + hub := gap_updateHubAssetLiquidity h₂
  refine ⟨?_, by simp only [AList.lookup_insert_ne (Ne.symm hasset), ha, habs]⟩
  -- the new entry's hub reserve is exactly what was minted
  have hsum := StorageMap.sumBy_insert_of_lookup_none (fun _ st => st.hubReserve)
    { hubReserve := hub, shares := s.balances.free asset cfg.protocolAccount, protocolShares := 0,
      cap := (Fixed.ofPerThing cap : FixedU128).inner, tradable := default } hnew
  simp only [gap, hubReserveSum, hubBalance, ha] at hsum g₂ ⊢
  rw [hsum]
  push_cast
  omega

/-- `add_liquidity`: the asset's hub reserve grows by the minted hub amount. -/
theorem doAddLiquidity_gap {origin : Origin AccountId} {asset : AssetId} {amount minShares : Nat}
    {r : Nat × State AssetId AccountId}
    (h : doAddLiquidity cfg origin asset amount minShares s = .ok r)
    (habs : s.assets.lookup cfg.hubAssetId = none) :
    gap cfg r.2 = gap cfg s ∧ r.2.assets.lookup cfg.hubAssetId = none := by
  simp only [doAddLiquidity, Frame.bind_eq_ok, Frame.okOr_eq_ok, Frame.ensure_eq_ok, pure, Except.pure,
    Except.ok.injEq] at h
  obtain ⟨who, -, -, -, -, -, st, hst, -, -, -, -, ch, -, -, -, new, hnew, -, -, -, -, -, -,
    ⟨t, s₁⟩, h₁, -, -, s₂, h₂, s₃, h₃, -, -, -, -, rfl⟩ := h
  have hne := loadAssetState_ne_hub hst habs
  -- up to the hub mint only the slip snapshot, the position and the asset balances moved
  have u₀ := (ensureQ0Snapshot_slipOnly asset st.hubReserve : SlipOnly s _).hubUntouched cfg
  obtain ⟨stA, hlook, rfl⟩ := loadAssetState_ok hst
  obtain ⟨-, -, n, rfl⟩ := createAndMintPositionInstance_ok h₁
  have u₂ := currencyTransfer_untouched h₂ hne
  have g₂ : gap cfg s₂ = gap cfg s := u₂.gap_eq.trans u₀.gap_eq
  have ha₂ : s₂.assets = s.assets := u₂.assets.trans u₀.assets
  obtain ⟨ha₃, -⟩ := updateHubAssetLiquidity_ok h₃
  have g₃ := gap_updateHubAssetLiquidity h₃
  have hlook₃ : s₃.assets.lookup asset = some stA := by rw [ha₃, ha₂, hlook]
  have g₄ := gap_setAssetState cfg new hlook₃
  have hn := deltaUpdate_hubReserve hnew
  simp only [ofState_hubReserve] at hn
  refine ⟨?_, setAssetState_hubAbsent new hlook₃ (by rw [ha₃, ha₂, habs])⟩
  rw [g₄, g₃, g₂]
  omega

/-- Paying out liquidity moves the gap by the asset's total hub delta: the delta merged
with the LP's hub amount is minted or burned, and the LP's hub amount is paid out. -/
theorem payOutLiquidity_gap {a : AssetId} {dest : AccountId} {ch : LiquidityStateChange}
    (h : payOutLiquidity cfg s a dest ch = .ok s') (ha : a ≠ cfg.hubAssetId)
    (hdest : dest ≠ cfg.protocolAccount) :
    s'.assets = s.assets ∧ gap cfg s' = gap cfg s + ch.asset.totalDeltaHubReserve.toInt := by
  simp only [payOutLiquidity, Frame.bind_eq_ok, Frame.okOr_eq_ok] at h
  obtain ⟨s₁, h₁, d, hd, s₂, h₂, h₃⟩ := h
  have u₁ := currencyTransfer_untouched h₁ ha
  obtain ⟨ha₂, -⟩ := updateHubAssetLiquidity_ok h₂
  have g₂ := gap_updateHubAssetLiquidity h₂
  obtain ⟨ha₃, hb₃⟩ := processHubAmount_ok h₃ hdest
  have hd' := BalanceUpdate.merge_toInt hd
  simp only [BalanceUpdate.toInt_increase] at hd'
  have g₃ : gap cfg s' + ch.lpHubAmount = gap cfg s₂ := by
    simp only [gap, hubReserveSum, ha₃]
    omega
  refine ⟨by rw [ha₃, ha₂, u₁.assets], ?_⟩
  rw [← u₁.gap_eq]
  omega

/-- `remove_liquidity` by an LP other than the pool account. -/
theorem doRemoveLiquidity_gap {origin : Origin AccountId} {id amount minLimit : Nat}
    {r : Nat × State AssetId AccountId}
    (h : doRemoveLiquidity cfg origin id amount minLimit s = .ok r)
    (horigin : origin ≠ .signed cfg.protocolAccount) (habs : s.assets.lookup cfg.hubAssetId = none) :
    gap cfg r.2 = gap cfg s ∧ r.2.assets.lookup cfg.hubAssetId = none := by
  simp only [doRemoveLiquidity, Frame.bind_eq_ok, Frame.okOr_eq_ok, Frame.ensure_eq_ok, pure, Except.pure,
    Except.ok.injEq] at h
  obtain ⟨who, hwho, -, -, -, -, pos, -, -, -, st, hst, -, -, -, -, -, -, -, -, -, -, -, -, -, -,
    ch, -, -, -, new, hnew, upd, -, s₁, h₁, s₂, h₂, -, -, -, -, rfl⟩ := h
  have hwho' : who ≠ cfg.protocolAccount := by
    rintro rfl
    exact horigin (ensureSigned_ok hwho)
  have hne := loadAssetState_ne_hub hst habs
  have u₀ := (ensureQ0Snapshot_slipOnly pos.assetId st.hubReserve : SlipOnly s _).hubUntouched cfg
  obtain ⟨stA, hlook, rfl⟩ := loadAssetState_ok hst
  obtain ⟨ha₁, g₁⟩ := payOutLiquidity_gap h₁ hne hwho'
  -- the position's end touches positions and NFTs only
  have u₂ : HubUntouched cfg s₁ s₂ := by
    rcases updateOrBurnPosition_ok h₂ with ⟨-, rfl⟩ | ⟨-, rfl⟩ <;> exact .of_balances rfl rfl
  have hlook₂ : s₂.assets.lookup pos.assetId = some stA := by rw [u₂.assets, ha₁, u₀.assets, hlook]
  have g₃ := gap_setAssetState cfg new hlook₂
  have hn := deltaUpdate_hubReserve hnew
  simp only [ofState_hubReserve] at hn
  refine ⟨?_, setAssetState_hubAbsent new hlook₂ (by rw [u₂.assets, ha₁, u₀.assets, habs])⟩
  rw [g₃, u₂.gap_eq, g₁, u₀.gap_eq]
  omega

/-- `sacrifice_position` moves shares only. -/
theorem sacrificePosition_gap {origin : Origin AccountId} {id : Nat}
    (h : sacrificePosition origin id s = .ok s') (habs : s.assets.lookup cfg.hubAssetId = none) :
    gap cfg s' = gap cfg s ∧ s'.assets.lookup cfg.hubAssetId = none := by
  simp only [sacrificePosition, Frame.bind_eq_ok, Frame.okOr_eq_ok, Frame.ensure_eq_ok] at h
  obtain ⟨who, -, pos, -, -, -, st, hst, ps, -, h₁⟩ := h
  rw [burnPosition_ok h₁]
  have g := gap_insert cfg { st with protocolShares := ps } hst
  exact ⟨by simp only [gap, hubReserveSum, hubBalance] at g ⊢; omega,
    insert_hubAbsent _ hst habs⟩

/-- The part of a hub-asset trade before settling: the slip fee items are read and the fee
hook is paid in the bought asset. -/
theorem hubTradePrelude_untouched {aOut : AssetId} {q fee t : Nat} {who : AccountId}
    {s₂ : State AssetId AccountId}
    (h : processTradeFee cfg (loadHubTradeSlipFees s aOut q).2 who aOut fee = .ok (t, s₂))
    (hne : aOut ≠ cfg.hubAssetId) : HubUntouched cfg s s₂ :=
  ((loadHubTradeSlipFees_slipOnly aOut q : SlipOnly s _).hubUntouched cfg).trans
    (processTradeFee_untouched h hne)

/-- `sell` of the hub asset: the trader's hub payment lands in the bought asset's hub reserve. -/
theorem sellHubAsset_gap {origin : Origin AccountId} {who : AccountId} {aOut : AssetId}
    {amount limit : Nat} (h : sellHubAsset cfg origin who aOut amount limit s = .ok s')
    (hwho : who ≠ cfg.protocolAccount) (habs : s.assets.lookup cfg.hubAssetId = none) :
    gap cfg s' = gap cfg s ∧ s'.assets.lookup cfg.hubAssetId = none := by
  simp only [sellHubAsset, Frame.bind_eq_ok, Frame.okOr_eq_ok, Frame.ensure_eq_ok] at h
  obtain ⟨-, -, st, hst, -, -, -, -, -, -, ch, -, -, -, -, -, -, -, ⟨t, s₂⟩, h₂, -, hinc, h₃⟩ := h
  have hne := loadAssetState_ne_hub hst habs
  have u₂ := hubTradePrelude_untouched h₂ hne
  obtain ⟨stA, hlook, rfl⟩ := loadAssetState_ok hst
  obtain ⟨g, abs'⟩ := settleHubTrade_ok h₃ (by rw [u₂.assets, hlook]) (ofState_hubReserve _ _)
    (isIncrease_eq_true hinc) hne hwho (u₂.hubAbsent habs)
  exact ⟨g.trans u₂.gap_eq, abs'⟩

/-- `buy` of an asset for the hub asset. -/
theorem buyAssetForHubAsset_gap {origin : Origin AccountId} {who : AccountId} {aOut : AssetId}
    {amount limit : Nat} (h : buyAssetForHubAsset cfg origin who aOut amount limit s = .ok s')
    (hwho : who ≠ cfg.protocolAccount) (habs : s.assets.lookup cfg.hubAssetId = none) :
    gap cfg s' = gap cfg s ∧ s'.assets.lookup cfg.hubAssetId = none := by
  simp only [buyAssetForHubAsset, Frame.bind_eq_ok, Frame.okOr_eq_ok, Frame.ensure_eq_ok] at h
  obtain ⟨-, -, st, hst, -, -, -, -, -, -, ch, -, -, -, -, -, -, -, -, hinc, ⟨t, s₂⟩, h₂, h₃⟩ := h
  have hne := loadAssetState_ne_hub hst habs
  have u₂ := hubTradePrelude_untouched h₂ hne
  obtain ⟨stA, hlook, rfl⟩ := loadAssetState_ok hst
  obtain ⟨g, abs'⟩ := settleHubTrade_ok h₃ (by rw [u₂.assets, hlook]) (ofState_hubReserve _ _)
    (isIncrease_eq_true hinc) hne hwho (u₂.hubAbsent habs)
  exact ⟨g.trans u₂.gap_eq, abs'⟩

/-- The part of a trade between two pool assets before settling. -/
theorem tradePrelude_untouched {aIn aOut : AssetId} {qIn qOut fee t : Nat} {who : AccountId}
    {s₂ : State AssetId AccountId}
    (h : processTradeFee cfg (loadTradeSlipFees s aIn qIn aOut qOut).2 who aOut fee = .ok (t, s₂))
    (hne : aOut ≠ cfg.hubAssetId) : HubUntouched cfg s s₂ :=
  ((loadTradeSlipFees_slipOnly aIn qIn aOut qOut : SlipOnly s _).hubUntouched cfg).trans
    (processTradeFee_untouched h hne)

/-- A trade between two pool assets, settled once both states are loaded. -/
theorem settleTrade_loaded_gap {origin : Origin AccountId} {who : AccountId} {aIn aOut : AssetId}
    {inSt outSt : AssetReserveState} {ch : TradeStateChange} {hx : Nat} {s₂ : State AssetId AccountId}
    (hIn : loadAssetState cfg s aIn = .ok inSt) (hOut : loadAssetState cfg s aOut = .ok outSt)
    (u₂ : HubUntouched cfg s s₂) (h : settleTrade cfg origin who aIn aOut inSt outSt ch hx s₂ = .ok s')
    (hne : aIn ≠ aOut) (habs : s.assets.lookup cfg.hubAssetId = none) :
    gap cfg s' = gap cfg s ∧ s'.assets.lookup cfg.hubAssetId = none := by
  have hneIn := loadAssetState_ne_hub hIn habs
  have hneOut := loadAssetState_ne_hub hOut habs
  obtain ⟨stIn, hlookIn, rfl⟩ := loadAssetState_ok hIn
  obtain ⟨stOut, hlookOut, rfl⟩ := loadAssetState_ok hOut
  obtain ⟨g, abs'⟩ := settleTrade_ok h (by rw [u₂.assets, hlookIn]) (by rw [u₂.assets, hlookOut])
    (ofState_hubReserve _ _) (ofState_hubReserve _ _) hne hneIn hneOut (u₂.hubAbsent habs)
  exact ⟨g.trans u₂.gap_eq, abs'⟩

/-- `sell`, by a trader other than the pool account. -/
theorem sell_gap {origin : Origin AccountId} {aIn aOut : AssetId} {amount limit : Nat}
    (h : sell cfg origin aIn aOut amount limit s = .ok s')
    (horigin : origin ≠ .signed cfg.protocolAccount) (habs : s.assets.lookup cfg.hubAssetId = none) :
    gap cfg s' = gap cfg s ∧ s'.assets.lookup cfg.hubAssetId = none := by
  simp only [sell, Frame.bind_eq_ok, Frame.ensure_eq_ok] at h
  obtain ⟨who, hwho, -, hne, -, -, -, -, h⟩ := h
  have hwho' : who ≠ cfg.protocolAccount := by
    rintro rfl
    exact horigin (ensureSigned_ok hwho)
  -- selling the hub asset, buying it (never allowed), or a trade between two pool assets
  split at h
  · exact sellHubAsset_gap h hwho' habs
  split at h
  · exact absurd h sellAssetForHubAsset_ne_ok
  simp only [Frame.bind_eq_ok, Frame.okOr_eq_ok, Frame.ensure_eq_ok] at h
  -- the hub balance excluding the two assets stays bound: the settlement reads it
  obtain ⟨inSt, hIn, outSt, hOut, x, -, -, -, -, -, -, -, ch, -, -, -, -, -, -, -, -, -,
    ⟨t, s₂⟩, h₂, h₃⟩ := h
  exact settleTrade_loaded_gap hIn hOut (tradePrelude_untouched h₂ (loadAssetState_ne_hub hOut habs))
    h₃ hne habs

/-- `buy`, by a trader other than the pool account. -/
theorem buy_gap {origin : Origin AccountId} {aOut aIn : AssetId} {amount limit : Nat}
    (h : buy cfg origin aOut aIn amount limit s = .ok s')
    (horigin : origin ≠ .signed cfg.protocolAccount) (habs : s.assets.lookup cfg.hubAssetId = none) :
    gap cfg s' = gap cfg s ∧ s'.assets.lookup cfg.hubAssetId = none := by
  simp only [buy, Frame.bind_eq_ok, Frame.ensure_eq_ok] at h
  obtain ⟨who, hwho, -, hne, -, -, h⟩ := h
  have hwho' : who ≠ cfg.protocolAccount := by
    rintro rfl
    exact horigin (ensureSigned_ok hwho)
  -- buying the hub asset (never allowed), paying with it, or a trade between two pool assets
  split at h
  · exact absurd h buyHubAsset_ne_ok
  split at h
  · exact buyAssetForHubAsset_gap h hwho' habs
  simp only [Frame.bind_eq_ok, Frame.okOr_eq_ok, Frame.ensure_eq_ok] at h
  obtain ⟨inSt, hIn, outSt, hOut, x, -, -, -, -, -, -, -, -, -, ch, -, -, -, -, -, -, -, -, -,
    ⟨t, s₂⟩, h₂, h₃⟩ := h
  exact settleTrade_loaded_gap hIn hOut (tradePrelude_untouched h₂ (loadAssetState_ne_hub hOut habs))
    h₃ hne habs

theorem addLiquidityWithLimit_gap {origin : Origin AccountId} {asset : AssetId} {amount minShares : Nat}
    (h : addLiquidityWithLimit cfg origin asset amount minShares s = .ok s')
    (habs : s.assets.lookup cfg.hubAssetId = none) :
    gap cfg s' = gap cfg s ∧ s'.assets.lookup cfg.hubAssetId = none := by
  unfold addLiquidityWithLimit at h
  cases hr : doAddLiquidity cfg origin asset amount minShares s with
  | error e =>
    rw [hr] at h
    cases h
  | ok r =>
    rw [hr] at h
    cases h
    exact doAddLiquidity_gap hr habs

theorem addAllLiquidity_gap {origin : Origin AccountId} {asset : AssetId} {minShares : Nat}
    (h : addAllLiquidity cfg origin asset minShares s = .ok s')
    (habs : s.assets.lookup cfg.hubAssetId = none) :
    gap cfg s' = gap cfg s ∧ s'.assets.lookup cfg.hubAssetId = none := by
  simp only [addAllLiquidity, Frame.bind_eq_ok, Frame.ensure_eq_ok] at h
  obtain ⟨who, -, -, -, h⟩ := h
  exact addLiquidityWithLimit_gap h habs

theorem removeLiquidityWithLimit_gap {origin : Origin AccountId} {id amount minLimit : Nat}
    (h : removeLiquidityWithLimit cfg origin id amount minLimit s = .ok s')
    (horigin : origin ≠ .signed cfg.protocolAccount) (habs : s.assets.lookup cfg.hubAssetId = none) :
    gap cfg s' = gap cfg s ∧ s'.assets.lookup cfg.hubAssetId = none := by
  unfold removeLiquidityWithLimit at h
  cases hr : doRemoveLiquidity cfg origin id amount minLimit s with
  | error e =>
    rw [hr] at h
    cases h
  | ok r =>
    rw [hr] at h
    cases h
    exact doRemoveLiquidity_gap hr horigin habs

theorem removeAllLiquidity_gap {origin : Origin AccountId} {id minLimit : Nat}
    (h : removeAllLiquidity cfg origin id minLimit s = .ok s')
    (horigin : origin ≠ .signed cfg.protocolAccount) (habs : s.assets.lookup cfg.hubAssetId = none) :
    gap cfg s' = gap cfg s ∧ s'.assets.lookup cfg.hubAssetId = none := by
  simp only [removeAllLiquidity, Frame.bind_eq_ok, Frame.okOr_eq_ok] at h
  obtain ⟨pos, -, h⟩ := h
  exact removeLiquidityWithLimit_gap h horigin habs

omit [DecidableEq AccountId] in
/-- `set_asset_tradable_state` writes a tradability, never a hub reserve. -/
theorem setAssetTradableState_gap {origin : Origin AccountId} {a : AssetId} {t : Tradability}
    (h : setAssetTradableState cfg origin a t s = .ok s') (habs : s.assets.lookup cfg.hubAssetId = none) :
    gap cfg s' = gap cfg s ∧ s'.assets.lookup cfg.hubAssetId = none := by
  simp only [setAssetTradableState, Frame.bind_eq_ok, Frame.ensure_eq_ok] at h
  obtain ⟨-, -, h⟩ := h
  split at h
  · simp only [Frame.bind_eq_ok, Frame.ensure_eq_ok, pure, Except.pure, Except.ok.injEq] at h
    obtain ⟨-, -, rfl⟩ := h
    exact ⟨rfl, habs⟩
  · simp only [Frame.bind_eq_ok, Frame.okOr_eq_ok, pure, Except.pure, Except.ok.injEq] at h
    obtain ⟨st, hst, rfl⟩ := h
    have g := gap_insert cfg { st with tradable := t } hst
    exact ⟨by simp only [gap, hubReserveSum, hubBalance] at g ⊢; omega, insert_hubAbsent _ hst habs⟩

omit [DecidableEq AccountId] in
/-- `set_asset_weight_cap` writes a cap, never a hub reserve. -/
theorem setAssetWeightCap_gap {origin : Origin AccountId} {a : AssetId} {cap : Permill}
    (h : setAssetWeightCap cfg origin a cap s = .ok s') (habs : s.assets.lookup cfg.hubAssetId = none) :
    gap cfg s' = gap cfg s ∧ s'.assets.lookup cfg.hubAssetId = none := by
  simp only [setAssetWeightCap, Frame.bind_eq_ok, Frame.okOr_eq_ok, Frame.ensure_eq_ok, pure, Except.pure,
    Except.ok.injEq] at h
  obtain ⟨-, -, st, hst, rfl⟩ := h
  have g := gap_insert cfg { st with cap := (Fixed.ofPerThing cap : FixedU128).inner } hst
  exact ⟨by simp only [gap, hubReserveSum, hubBalance] at g ⊢; omega, insert_hubAbsent _ hst habs⟩

/-- `refund_refused_asset` refuses the hub asset, so it moves another asset only. -/
theorem refundRefusedAsset_gap {origin : Origin AccountId} {a : AssetId} {amount : Nat}
    {recipient : AccountId} (h : refundRefusedAsset cfg origin a amount recipient s = .ok s')
    (habs : s.assets.lookup cfg.hubAssetId = none) :
    gap cfg s' = gap cfg s ∧ s'.assets.lookup cfg.hubAssetId = none := by
  simp only [refundRefusedAsset, Frame.bind_eq_ok, Frame.ensure_eq_ok] at h
  obtain ⟨-, -, -, ha, -, -, -, -, h⟩ := h
  have u := currencyTransfer_untouched h ha
  exact ⟨u.gap_eq, u.hubAbsent habs⟩

/-- `withdraw_protocol_liquidity` to an account other than the pool: a payout whose hub
delta is what the asset's hub reserve moves by. -/
theorem withdrawProtocolLiquidity_gap {origin : Origin AccountId} {a : AssetId} {amount : Nat}
    {price : Nat × Nat} {dest : AccountId}
    (h : withdrawProtocolLiquidity cfg origin a amount price dest s = .ok s')
    (hdest : dest ≠ cfg.protocolAccount) (habs : s.assets.lookup cfg.hubAssetId = none) :
    gap cfg s' = gap cfg s ∧ s'.assets.lookup cfg.hubAssetId = none := by
  simp only [withdrawProtocolLiquidity, Frame.bind_eq_ok, Frame.okOr_eq_ok, Frame.ensure_eq_ok, pure,
    Except.pure, Except.ok.injEq] at h
  obtain ⟨-, -, st, hst, -, -, ch, -, new, hnew, s₁, h₁, -, -, rfl⟩ := h
  have hne := loadAssetState_ne_hub hst habs
  obtain ⟨stA, hlook, rfl⟩ := loadAssetState_ok hst
  obtain ⟨ha₁, g₁⟩ := payOutLiquidity_gap h₁ hne hdest
  have hlook₁ : s₁.assets.lookup a = some stA := by rw [ha₁, hlook]
  -- only the protocol shares of the new state are lowered afterwards
  have g₂ := gap_setAssetState cfg { new with protocolShares := new.protocolShares - amount } hlook₁
  dsimp only at g₂
  have hn := deltaUpdate_hubReserve hnew
  simp only [ofState_hubReserve] at hn
  refine ⟨?_, setAssetState_hubAbsent _ hlook₁ (by rw [ha₁, habs])⟩
  rw [g₂, g₁]
  omega

/-- `remove_token` burns the asset's whole hub reserve with its entry. -/
theorem removeToken_gap {origin : Origin AccountId} {a : AssetId} {beneficiary : AccountId}
    (h : removeToken cfg origin a beneficiary s = .ok s') (habs : s.assets.lookup cfg.hubAssetId = none) :
    gap cfg s' = gap cfg s ∧ s'.assets.lookup cfg.hubAssetId = none := by
  simp only [removeToken, Frame.bind_eq_ok, Frame.ensure_eq_ok, pure, Except.pure, Except.ok.injEq] at h
  obtain ⟨-, -, st, hst, -, -, -, -, s₁, h₁, s₂, h₂, rfl⟩ := h
  have hne := loadAssetState_ne_hub hst habs
  obtain ⟨stA, hlook, rfl⟩ := loadAssetState_ok hst
  -- the burn is `update_hub_asset_liquidity` with a decrease
  obtain ⟨ha₁, hb₁⟩ := updateHubAssetLiquidity_ok (d := .decrease stA.hubReserve) h₁
  have u₂ := currencyTransfer_untouched h₂ hne
  have hsum := StorageMap.sumBy_erase_of_lookup (fun _ st => st.hubReserve) hlook
  simp only [BalanceUpdate.toInt_decrease] at hb₁
  have hb₂ : hubBalance cfg s₂ + stA.hubReserve = hubBalance cfg s := by
    rw [u₂.balance]
    omega
  refine ⟨?_, ?_⟩
  · simp only [gap, hubReserveSum, hubBalance] at hsum hb₂ ⊢
    rw [u₂.assets, ha₁]
    omega
  · simp only [AList.lookup_erase_ne (Ne.symm hne), u₂.assets, ha₁, habs]

omit [DecidableEq AccountId] in
theorem setSlipFee_gap {origin : Origin AccountId} {f : Option SlipFeeConfig}
    (h : setSlipFee cfg origin f s = .ok s') (habs : s.assets.lookup cfg.hubAssetId = none) :
    gap cfg s' = gap cfg s ∧ s'.assets.lookup cfg.hubAssetId = none := by
  simp only [setSlipFee, Frame.bind_eq_ok, Frame.ensure_eq_ok] at h
  obtain ⟨-, -, h⟩ := h
  split at h
  · simp only [Frame.bind_eq_ok, Frame.ensure_eq_ok, pure, Except.pure, Except.ok.injEq] at h
    obtain ⟨-, -, rfl⟩ := h
    exact ⟨rfl, habs⟩
  · cases h
    exact ⟨rfl, habs⟩

end Calls

/-- The origin a call is dispatched with; the end of a block has none. -/
def Call.origin : Call AssetId AccountId → Option (Origin AccountId)
  | .addToken o .. | .addLiquidity o .. | .addLiquidityWithLimit o .. | .addAllLiquidity o ..
  | .removeLiquidity o .. | .removeLiquidityWithLimit o .. | .removeAllLiquidity o ..
  | .sacrificePosition o .. | .sell o .. | .buy o .. | .setAssetTradableState o ..
  | .refundRefusedAsset o .. | .setAssetWeightCap o .. | .withdrawProtocolLiquidity o ..
  | .removeToken o .. | .setSlipFee o .. => some o
  | .onFinalize => none

/-- What the hub invariant needs of a call and the pallet does not check: the call is not
signed by the pool account (an account derived from the pallet id, which nobody holds a key
for), `add_token` does not add the hub asset itself, and protocol liquidity is not paid out
to the pool account. -/
def Call.Admissible (cfg : Config AssetId AccountId) (c : Call AssetId AccountId) : Prop :=
  c.origin ≠ some (.signed cfg.protocolAccount) ∧
    match c with
    | .addToken _ asset _ _ _ => asset ≠ cfg.hubAssetId
    | .withdrawProtocolLiquidity _ _ _ _ dest => dest ≠ cfg.protocolAccount
    | _ => True

instance [DecidableEq AccountId] (cfg : Config AssetId AccountId) (c : Call AssetId AccountId) :
    Decidable (c.Admissible cfg) := by
  unfold Call.Admissible
  cases c <;> infer_instance

section Run

variable [DecidableEq AccountId] {cfg : Config AssetId AccountId} {s s' : State AssetId AccountId}

/-- One step: every admissible call keeps the gap and keeps the hub asset out of `Assets`. -/
theorem step_gap {c : Call AssetId AccountId} (hc : c.Admissible cfg) (h : step cfg c s = .ok s')
    (habs : s.assets.lookup cfg.hubAssetId = none) :
    gap cfg s' = gap cfg s ∧ s'.assets.lookup cfg.hubAssetId = none := by
  obtain ⟨horigin, hc⟩ := hc
  -- the origin of a signed call, as the lemmas about the calls take it
  have ho : ∀ o, c.origin = some o → o ≠ .signed cfg.protocolAccount := by
    rintro o hco rfl
    exact horigin hco
  cases c with
  | addToken o a p w owner => exact addToken_gap h hc habs
  | addLiquidity o a n => exact addLiquidityWithLimit_gap h habs
  | addLiquidityWithLimit o a n m => exact addLiquidityWithLimit_gap h habs
  | addAllLiquidity o a m => exact addAllLiquidity_gap h habs
  | removeLiquidity o i n => exact removeLiquidityWithLimit_gap h (ho o rfl) habs
  | removeLiquidityWithLimit o i n m => exact removeLiquidityWithLimit_gap h (ho o rfl) habs
  | removeAllLiquidity o i m => exact removeAllLiquidity_gap h (ho o rfl) habs
  | sacrificePosition o i => exact sacrificePosition_gap h habs
  | sell o i out n m => exact sell_gap h (ho o rfl) habs
  | buy o out i n m => exact buy_gap h (ho o rfl) habs
  | setAssetTradableState o a t => exact setAssetTradableState_gap h habs
  | refundRefusedAsset o a n r => exact refundRefusedAsset_gap h habs
  | setAssetWeightCap o a c => exact setAssetWeightCap_gap h habs
  | withdrawProtocolLiquidity o a n p d => exact withdrawProtocolLiquidity_gap h hc habs
  | removeToken o a b => exact removeToken_gap h habs
  | setSlipFee o f => exact setSlipFee_gap h habs
  | onFinalize =>
    cases h
    exact ⟨rfl, habs⟩

/-- The invariant is kept by every admissible call: a gap of zero stays zero. -/
theorem HubInv.step {c : Call AssetId AccountId} (hc : c.Admissible cfg) (h : step cfg c s = .ok s')
    (hI : HubInv cfg s) : HubInv cfg s' := by
  obtain ⟨g, habs⟩ := step_gap hc h hI.hubAbsent
  have g₀ : gap cfg s = 0 := by simp only [gap, hI.backed, sub_self]
  have g' : gap cfg s' = 0 := g.trans g₀
  refine ⟨?_, habs⟩
  simp only [gap] at g'
  omega

/-- The admissible calls, dispatched. -/
def admissibleStep (cfg : Config AssetId AccountId) :
    {c : Call AssetId AccountId // c.Admissible cfg} → State AssetId AccountId →
      Except Error (State AssetId AccountId) :=
  fun c => step cfg c.1

/-- Hub asset conservation: from a state where the pool's hub balance backs the hub
reserves exactly, every run of admissible calls keeps it so. -/
theorem hubBalance_eq_hubReserveSum (hs : Frame.Reachable (HubInv cfg) (admissibleStep cfg) s) :
    hubBalance cfg s = hubReserveSum s :=
  (Frame.Reachable.induction (fun _ h => h) (fun c _ _ hI h => hI.step c.2 h) hs).backed

end Run

/-! ## Runs of the example pool -/

theorem exampleGenesis_hubInv : HubInv exampleConfig exampleGenesis := ⟨rfl, rfl⟩

/-- Asset `2` added at price one, its position sacrificed, half of it withdrawn by root. -/
def admissibleRun : List {c : Call Nat Nat // c.Admissible exampleConfig} :=
  [⟨.addToken .root 2 Fixed.one PerThing.one 7, by decide⟩,
   ⟨.sacrificePosition (.signed 7) 0, by decide⟩,
   ⟨.withdrawProtocolLiquidity .root 2 500 (1, 1) 8, by decide⟩]

theorem hubBalance_eq_hubReserveSum_admissibleRun :
    hubBalance exampleConfig (Frame.run (admissibleStep exampleConfig) admissibleRun exampleGenesis) =
      hubReserveSum (Frame.run (admissibleStep exampleConfig) admissibleRun exampleGenesis) :=
  hubBalance_eq_hubReserveSum (Frame.reachable_run admissibleRun (.init exampleGenesis_hubInv))

/-- The same with the hub asset added as a pool asset as well: its hub reserve is minted,
but the hub asset withdrawn with its protocol liquidity leaves the pool account as that
asset's reserve, and only the hub reserve's share of it is burned. -/
def brokenRun : List (Call Nat Nat) :=
  [.addToken .root 2 Fixed.one PerThing.one 7,
   .addToken .root 1 Fixed.one PerThing.one 7,
   .sacrificePosition (.signed 7) 1,
   .withdrawProtocolLiquidity .root 1 500 (1, 2) 8]

/-- Hub asset conservation fails over unrestricted calls: after `brokenRun` the pool holds
`500` of the hub asset against hub reserves of `1500`. -/
theorem hubBacking_broken :
    ∃ s, Frame.Reachable (· = exampleGenesis) (step exampleConfig) s ∧
      hubBalance exampleConfig s ≠ hubReserveSum s :=
  ⟨_, Frame.reachable_run brokenRun (.init rfl), by decide +kernel⟩

end Hydration.Omnipool.Pallet
