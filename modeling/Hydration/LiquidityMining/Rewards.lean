import Hydration.LiquidityMining.Books

/-!
# Reward conservation in liquidity mining

Over every run of the pallet's functions from a state without farms, with a ghost that
records the `total_rewards` each global farm was created with:

* every global farm that is not terminated holds exactly its `total_rewards` in its
  account, its pending rewards and its paid rewards (`farmRewards`);
* the pot holds, in every currency, at least the rewards booked in it (`rewardsDue`).

The pot may hold more than is booked. A terminated global farm leaves storage when its
last yield farm does, and its `pending_rewards` then stay in the pot with no farm to pay
them; `sync_yield_farm` rounds the rewards of a yield farm down, so pending rewards can
remain (`dustRun`).

Every function except `create_global_farm` settles (`Books.Settles`); the proof of each is
the chain of its helpers' lemmas.
-/

namespace Hydration.LiquidityMining

open Frame FixedPoint

variable {AssetId AccountId AmmPoolId : Type}

section Inv

variable [DecidableEq AssetId] [DecidableEq AmmPoolId]

/-- The invariant of the books, given the rewards each global farm was created with. -/
structure RewardInv (cfg : Config AssetId AccountId) (B : Books AssetId AccountId AmmPoolId)
    (funds : Nat → Nat) : Prop where
  keyed : ∀ g gf, B.globalFarm.lookup g = some gf → gf.id = g ∧ g ≤ B.farmSequencer
  yieldKeyed : ∀ k yf, B.yieldFarm.lookup k = some yf → k.2.1 ≤ B.farmSequencer
  unfunded : ∀ i c, B.farmSequencer < i → B.balances.free c (cfg.farmAccount i) = 0
  funded : ∀ g gf, B.globalFarm.lookup g = some gf → gf.state ≠ .terminated →
    farmRewards cfg B.balances g gf = funds g
  solvent : ∀ c, rewardsDue B.globalFarm B.yieldFarm c ≤ B.balances.free c cfg.potAccount

variable {cfg : Config AssetId AccountId} {B B' : Books AssetId AccountId AmmPoolId}
  {funds : Nat → Nat}

/-- The invariant holds after every step that settles. -/
theorem RewardInv.settles (hI : RewardInv cfg B funds) (h : Settles cfg B B') :
    RewardInv cfg B' funds where
  keyed g gf' hg := by
    obtain ⟨gf, hgf, hid, -⟩ := h.globalFarm g gf' hg
    obtain ⟨hid₀, hle⟩ := hI.keyed g gf hgf
    exact ⟨hid.trans hid₀, hle.trans h.sequencer⟩
  yieldKeyed k yf' hk := by
    rcases h.yieldFarm k yf' hk with ⟨yf, hyf⟩ | ⟨gf, hgf⟩
    · exact (hI.yieldKeyed k yf hyf).trans h.sequencer
    · exact (hI.keyed _ gf hgf).2.trans h.sequencer
  unfunded i c hi := by
    -- a farm id beyond the sequencer is not stored
    have hnone : B.globalFarm.lookup i = none := by
      cases hgf : B.globalFarm.lookup i with
      | none => rfl
      | some gf =>
        have := (hI.keyed i gf hgf).2
        have := h.sequencer
        omega
    rw [h.unfunded i c hnone]
    exact hI.unfunded i c (lt_of_le_of_lt h.sequencer hi)
  funded g gf' hg hlive := by
    obtain ⟨gf, hgf, -, hfund⟩ := h.globalFarm g gf' hg
    obtain ⟨hlive₀, heq⟩ := hfund hlive
    rw [heq]
    exact hI.funded g gf hgf hlive₀
  solvent c := by
    have h₁ := h.solvent c
    have h₀ := hI.solvent c
    omega

/-- A state before any farm: nothing stored and no farm account funded. -/
def Genesis (cfg : Config AssetId AccountId) (s : State AssetId AccountId AmmPoolId) : Prop :=
  s.globalFarm = ∅ ∧ s.yieldFarm = ∅ ∧ ∀ i c, s.balances.free c (cfg.farmAccount i) = 0

theorem RewardInv.genesis {s : State AssetId AccountId AmmPoolId} (h : Genesis cfg s)
    (funds : Nat → Nat) : RewardInv cfg s.books funds := by
  obtain ⟨hg, hy, hb⟩ := h
  refine ⟨fun g gf hgf => ?_, fun k yf hk => ?_, fun i c _ => hb i c, fun g gf hgf => ?_,
    fun c => ?_⟩
  · simp [State.books, hg] at hgf
  · simp [State.books, hy] at hk
  · simp [State.books, hg] at hgf
  · simp [State.books, rewardsDue, hg, hy]

end Inv

/-! ## Each function settles -/

section Calls

variable [DecidableEq AssetId] [DecidableEq AccountId] [DecidableEq AmmPoolId]
  {cfg : Config AssetId AccountId} (hd : cfg.AccountsDistinct)
  {s : State AssetId AccountId AmmPoolId} {funds : Nat → Nat}

include hd

theorem updateGlobalFarmPriceAdjustment_settles {who : AccountId} {g : Nat}
    {priceAdjustment : FixedU128} {s' : State AssetId AccountId AmmPoolId}
    (hI : RewardInv cfg s.books funds)
    (h : updateGlobalFarmPriceAdjustment cfg s who g priceAdjustment = .ok s') :
    Settles cfg s.books s'.books := by
  simp only [updateGlobalFarmPriceAdjustment, Frame.bind_eq_ok, Frame.okOr_eq_ok,
    Frame.ensure_eq_ok, pure, Except.pure, Except.ok.injEq] at h
  obtain ⟨-, -, gf, hgf, -, -, -, -, _, -, ⟨b₁, gf₁, _⟩, hsync, rfl⟩ := h
  exact settles_syncGlobalFarm hd hgf (hI.keyed g gf hgf).1 hsync rfl

theorem updateGlobalFarm_settles {g planned : Nat} {yieldPerPeriod : Perquintill} {minDeposit' : Nat}
    {s' : State AssetId AccountId AmmPoolId} (hI : RewardInv cfg s.books funds)
    (h : updateGlobalFarm cfg s g planned yieldPerPeriod minDeposit' = .ok s') :
    Settles cfg s.books s'.books := by
  simp only [updateGlobalFarm, Frame.bind_eq_ok, Frame.okOr_eq_ok, Frame.ensure_eq_ok, pure,
    Except.pure, Except.ok.injEq] at h
  obtain ⟨-, -, -, -, -, -, gf, hgf, -, -, _, -, ⟨b₁, gf₁, _⟩, hsync, _, -, _, -, -, -, rfl⟩ := h
  exact settles_syncGlobalFarm hd hgf (hI.keyed g gf hgf).1 hsync rfl

theorem terminateGlobalFarm_settles {who : AccountId} {g : Nat}
    {r : State AssetId AccountId AmmPoolId × AssetId × Nat × AccountId}
    (hwho : cfg.OutsideFarms who) (hI : RewardInv cfg s.books funds)
    (h : terminateGlobalFarm cfg s who g = .ok r) : Settles cfg s.books r.1.books := by
  simp only [terminateGlobalFarm, currencyTransfer, Frame.bind_eq_ok, Frame.okOr_eq_ok,
    Frame.ensure_eq_ok, pure, Except.pure, Except.ok.injEq] at h
  obtain ⟨gf, hgf, -, -, -, -, -, -, a, ha, b₁, ht, rfl⟩ := h
  rw [farmAccountId_eq_ok ha, (hI.keyed g gf hgf).1] at ht
  exact (settles_terminateGlobal hd hgf hwho ht).trans settles_storeOrRemoveGlobalFarm

theorem createYieldFarm_settles {who : AccountId} {g : Nat} {multiplier : FixedU128}
    {loyaltyCurve : Option LoyaltyCurve} {ammPoolId : AmmPoolId} {assets : List AssetId}
    {r : State AssetId AccountId AmmPoolId × Nat} (hI : RewardInv cfg s.books funds)
    (h : createYieldFarm cfg s who g multiplier loyaltyCurve ammPoolId assets = .ok r) :
    Settles cfg s.books r.1.books := by
  simp only [createYieldFarm, getNextFarmId, Frame.bind_eq_ok, Frame.okOr_eq_ok,
    Frame.ensure_eq_ok, Word.checkedAdd_eq_some, pure, Except.pure, Except.ok.injEq] at h
  obtain ⟨-, -, -, -, gf, hgf, -, -, -, -, -, -, -, -, -, -, p, -, ⟨b₁, gf₁, _⟩, hsync, id,
    ⟨-, hid⟩, gf₂, hinc, rfl⟩ := h
  -- the global farm is synced and counts one more yield farm, and the new yield farm is empty
  refine (settles_syncGlobalFarm hd hgf (hI.keyed g gf hgf).1 hsync
    (GlobalFarmData.increaseYieldFarmCounts_books hinc)).trans ?_
  refine settles_newYield (AList.lookup_insert _) ?_ ?_ ?_
  · rfl
  · rfl
  · dsimp only
    omega

/-- A global farm synced, then one of its yield farms synced, then both stored with other
fields changed. -/
theorem settles_syncBoth {g : Nat} {gf gf₁ gf₂ gf' : GlobalFarmData AssetId AccountId}
    {k : AmmPoolId × Nat × Nat} {yf yf₂ yf' : YieldFarmData} {b₁ : Balances AssetId AccountId}
    {p r : Nat} (hI : RewardInv cfg s.books funds) (hgf : s.globalFarm.lookup g = some gf)
    (hyf : s.yieldFarm.lookup k = some yf) (hkg : k.2.1 = g)
    (hsync : syncGlobalFarm cfg s.balances gf p = .ok (b₁, gf₁, r))
    (hsy : syncYieldFarm yf gf₁ p = .ok (yf₂, gf₂)) (hb : gf'.books = gf₂.books)
    (hleft : yf'.leftToDistribute = yf₂.leftToDistribute) :
    Settles cfg s.books
      ⟨s.farmSequencer, s.globalFarm.insert g gf', s.yieldFarm.insert k yf', b₁⟩ :=
  (settles_syncGlobalFarm hd hgf (hI.keyed g gf hgf).1 hsync rfl).trans
    (settles_syncYieldFarm hyf hkg hsy hb hleft)

theorem updateYieldFarmMultiplier_settles {who : AccountId} {g : Nat} {ammPoolId : AmmPoolId}
    {multiplier : FixedU128} {r : State AssetId AccountId AmmPoolId × Nat}
    (hI : RewardInv cfg s.books funds)
    (h : updateYieldFarmMultiplier cfg s who g ammPoolId multiplier = .ok r) :
    Settles cfg s.books r.1.books := by
  simp only [updateYieldFarmMultiplier, Frame.bind_eq_ok, Frame.okOr_eq_ok, Frame.ensure_eq_ok,
    pure, Except.pure, Except.ok.injEq] at h
  obtain ⟨-, -, _, -, yf, hyf, -, -, gf, hgf, -, -, _, -, _, -, ⟨b₁, gf₁, _⟩, hsync, ⟨yf₂, gf₂⟩,
    hsy, _, -, gf₃, hrm, gf₄, hadd, rfl⟩ := h
  exact settles_syncBoth hd hI hgf hyf rfl hsync hsy
    ((GlobalFarmData.addStake_books hadd).trans (GlobalFarmData.removeStake_books hrm)) rfl

theorem stopYieldFarm_settles {who : AccountId} {g : Nat} {ammPoolId : AmmPoolId}
    {r : State AssetId AccountId AmmPoolId × Nat} (hI : RewardInv cfg s.books funds)
    (h : stopYieldFarm cfg s who g ammPoolId = .ok r) : Settles cfg s.books r.1.books := by
  simp only [stopYieldFarm, Frame.bind_eq_ok, Frame.okOr_eq_ok, Frame.ensure_eq_ok, pure,
    Except.pure, Except.ok.injEq] at h
  obtain ⟨_, -, yf, hyf, -, -, gf, hgf, -, -, _, -, ⟨b₁, gf₁, _⟩, hsync, ⟨yf₂, gf₂⟩, hsy, _, -,
    gf₃, hrm, rfl⟩ := h
  exact settles_syncBoth hd hI hgf hyf rfl hsync hsy (GlobalFarmData.removeStake_books hrm) rfl

theorem resumeYieldFarm_settles {who : AccountId} {g yid : Nat} {ammPoolId : AmmPoolId}
    {multiplier : FixedU128} {s' : State AssetId AccountId AmmPoolId}
    (hI : RewardInv cfg s.books funds)
    (h : resumeYieldFarm cfg s who g yid ammPoolId multiplier = .ok s') :
    Settles cfg s.books s'.books := by
  simp only [resumeYieldFarm, Frame.bind_eq_ok, Frame.okOr_eq_ok, Frame.ensure_eq_ok, pure,
    Except.pure, Except.ok.injEq] at h
  obtain ⟨-, -, -, -, yf, hyf, -, -, gf, hgf, -, -, _, -, ⟨b₁, gf₁, _⟩, hsync, _, -, _, -, gf₂,
    hadd, _, -, rfl⟩ := h
  -- the stopped yield farm is not synced: only its stake and state change
  exact (settles_syncGlobalFarm hd hgf (hI.keyed g gf hgf).1 hsync
    (GlobalFarmData.addStake_books hadd)).trans (settles_editYield hyf rfl)

theorem terminateYieldFarm_settles {who : AccountId} {g yid : Nat} {ammPoolId : AmmPoolId}
    {s' : State AssetId AccountId AmmPoolId} (hI : RewardInv cfg s.books funds)
    (h : terminateYieldFarm cfg s who g yid ammPoolId = .ok s') : Settles cfg s.books s'.books := by
  simp only [terminateYieldFarm, currencyTransfer, Frame.bind_eq_ok, Frame.okOr_eq_ok,
    Frame.ensure_eq_ok, Word.checkedSub_eq_some, pure, Except.pure, Except.ok.injEq] at h
  obtain ⟨-, -, gf, hgf, -, -, yf, hyf, -, -, a, ha, _, ⟨hle, rfl⟩, b₁, ht, gf₂, hdec,
    ⟨gf₃, ym₁⟩, hstore, rfl⟩ := h
  rw [farmAccountId_eq_ok ha, (hI.keyed g gf hgf).1] at ht
  -- what the yield farm has left goes back to the farm's account, then it may leave storage
  exact (settles_refund hd hgf hyf rfl le_rfl hle ht
    (GlobalFarmData.decreaseLiveYieldFarmCount_books hdec) (Nat.sub_self _).symm).trans
    (settles_storeOrRemoveYieldFarm hstore)

theorem doDepositLpShares_settles {d : DepositData AmmPoolId} {g yid valuedShares : Nat}
    {r : State AssetId AccountId AmmPoolId × DepositData AmmPoolId}
    (hI : RewardInv cfg s.books funds) (h : doDepositLpShares cfg s d g yid valuedShares = .ok r) :
    Settles cfg s.books r.1.books := by
  simp only [doDepositLpShares, Frame.bind_eq_ok, Frame.okOr_eq_ok, Frame.ensure_eq_ok, pure,
    Except.pure, Except.ok.injEq] at h
  obtain ⟨-, -, yf, hyf, -, -, gf, hgf, -, -, _, -, ⟨b₁, gf₁, _⟩, hsync, ⟨yf₂, gf₂⟩, hsy, -, -,
    _, -, _, -, _, -, gf₃, hadd, _, -, yf₃, hinc, rfl⟩ := h
  exact settles_syncBoth hd hI hgf hyf rfl hsync hsy (GlobalFarmData.addStake_books hadd)
    (by rw [YieldFarmData.increaseEntriesCount_left hinc])

theorem depositLpShares_settles {g yid sharesAmount valuedShares : Nat} {ammPoolId : AmmPoolId}
    {r : State AssetId AccountId AmmPoolId × Nat} (hI : RewardInv cfg s.books funds)
    (h : depositLpShares cfg s g yid ammPoolId sharesAmount valuedShares = .ok r) :
    Settles cfg s.books r.1.books := by
  simp only [depositLpShares, Frame.bind_eq_ok, pure, Except.pure, Except.ok.injEq] at h
  obtain ⟨⟨s₁, d⟩, hdep, _, -, rfl⟩ := h
  exact doDepositLpShares_settles hd hI hdep

theorem redepositLpShares_settles {g yid depositId valuedShares : Nat}
    {r : State AssetId AccountId AmmPoolId × Nat × AmmPoolId} (hI : RewardInv cfg s.books funds)
    (h : redepositLpShares cfg s g yid depositId valuedShares = .ok r) :
    Settles cfg s.books r.1.books := by
  simp only [redepositLpShares, Frame.bind_eq_ok, Frame.okOr_eq_ok, pure, Except.pure,
    Except.ok.injEq] at h
  obtain ⟨_, -, ⟨s₁, d⟩, hdep, rfl⟩ := h
  exact doDepositLpShares_settles hd hI hdep

theorem claimRewards_settles {who : AccountId} {depositId yid : Nat} {failOnDoubleclaim : Bool}
    {r : State AssetId AccountId AmmPoolId × Nat × AssetId × Nat × Nat}
    (hwho : cfg.OutsideFarms who) (hI : RewardInv cfg s.books funds)
    (h : claimRewards cfg s who depositId yid failOnDoubleclaim = .ok r) :
    Settles cfg s.books r.1.books := by
  simp only [claimRewards, Frame.bind_eq_ok, Frame.okOr_eq_ok, Frame.ensure_eq_ok, pure,
    Except.pure, Except.ok.injEq] at h
  obtain ⟨d, -, _, -, entry, -, yf, hyf, -, -, gf, hgf, _, -, -, -, ⟨b₁, gf₁, _⟩, hsync,
    ⟨yf₂, gf₂⟩, hsy, _, -, _, -, _, -, _, -, ⟨_, _⟩, -, _, -, ⟨b₂, yf₃, e₃⟩, hpay, rfl⟩ := h
  have h₁ := settles_syncBoth hd hI hgf hyf rfl hsync hsy rfl rfl
  split at hpay
  · -- nothing to pay
    cases hpay
    exact h₁
  · -- the reward goes to the claimant, or to the treasury if it is below the deposit
    have hdest : ∀ dest : AccountId, dest = cfg.treasuryAccountId ∨ dest = who →
        cfg.OutsideFarms dest := by
      rintro dest (rfl | rfl)
      · exact hd.farmAccount_ne_treasury
      · exact hwho
    -- the claimed entry keeps its global farm
    dsimp only
    rw [(payClaim_spec hpay).2.2.2]
    refine h₁.trans (settles_payClaim hd ?_ (hdest _ ?_) hpay)
    · simp [currencyOf]
    · split <;> simp

theorem withdrawLpShares_settles {depositId yid u : Nat} {ammPoolId : AmmPoolId}
    {r : State AssetId AccountId AmmPoolId × Nat × Nat × Bool} (hI : RewardInv cfg s.books funds)
    (h : withdrawLpShares cfg s depositId yid u ammPoolId = .ok r) : Settles cfg s.books r.1.books := by
  simp only [withdrawLpShares, Frame.bind_eq_ok, Frame.okOr_eq_ok, Frame.ensure_eq_ok, pure,
    Except.pure, Except.ok.injEq] at h
  obtain ⟨_, -, ⟨_, entry⟩, -, -, -, gf, hgf, yf, hyf, _, -, _, -, gf₁, hgf₁, -, -,
    ⟨b₁, yf₂, gf₂⟩, hret, yf₃, hdec, ⟨gf₃, ym₁⟩, hstore, rfl⟩ := h
  -- an active yield farm's stake leaves the global farm; nothing else of it changes
  have hb₁ : gf₁.books = gf.books := by
    split at hgf₁
    · simp only [Frame.bind_eq_ok, Frame.okOr_eq_ok] at hgf₁
      obtain ⟨_, -, hrm⟩ := hgf₁
      exact GlobalFarmData.removeStake_books hrm
    · cases hgf₁
      rfl
  have hleft₃ := YieldFarmData.decreaseEntriesCount_left hdec
  have h₁ : Settles cfg s.books
      ⟨s.farmSequencer, s.globalFarm.insert entry.globalFarmId gf₂,
        s.yieldFarm.insert (ammPoolId, entry.globalFarmId, yid) yf₃, b₁⟩ := by
    split at hret
    · -- nothing forfeited: the two records are rewritten in place
      cases hret
      exact (settles_editGlobal hgf hb₁).trans (settles_editYield hyf hleft₃)
    · -- what was forfeited goes back to the farm's account
      obtain ⟨hul, hup, hleft₂, hb₂, ht⟩ := returnUnclaimable_spec hret
      simp only [GlobalFarmData.books, Prod.mk.injEq] at hb₁
      obtain ⟨hid, hrc, hpending, hpaid, hstate⟩ := hb₁
      rw [hid, hrc, (hI.keyed _ gf hgf).1] at ht
      refine settles_refund hd hgf hyf rfl hul (hpaid ▸ hup) ht ?_ (hleft₃.trans hleft₂)
      rw [hb₂, hid, hrc, hpending, hpaid, hstate]
  exact (h₁.trans (settles_storeOrRemoveYieldFarm hstore)).trans settles_storeOrRemoveGlobalFarm

end Calls

/-! ## Runs -/

section Run

variable [DecidableEq AssetId] [DecidableEq AccountId] [DecidableEq AmmPoolId]
  {cfg : Config AssetId AccountId}

/-- A new global farm, funded with `totalRewards` by an account outside the farms and the
pot, under the id after the sequencer. -/
theorem RewardInv.create {seq : Nat} {gm : StorageMap Nat (GlobalFarmData AssetId AccountId)}
    {ym : StorageMap (AmmPoolId × Nat × Nat) YieldFarmData} {b b₁ : Balances AssetId AccountId}
    {funds : Nat → Nat} (hd : cfg.AccountsDistinct) (hI : RewardInv cfg ⟨seq, gm, ym, b⟩ funds)
    {owner : AccountId} (howner : cfg.OutsideFarms owner) (hpot : owner ≠ cfg.potAccount)
    {gf : GlobalFarmData AssetId AccountId} (hid : gf.id = seq + 1) (hpending : gf.pendingRewards = 0)
    (hpaid : gf.accumulatedPaidRewards = 0) {totalRewards : Nat}
    (ht : Tokens.transfer b gf.rewardCurrency owner (cfg.farmAccount (seq + 1)) totalRewards = some b₁) :
    RewardInv cfg ⟨seq + 1, gm.insert (seq + 1) gf, ym, b₁⟩
      (Function.update funds (seq + 1) totalRewards) := by
  -- no farm, and no yield farm, is keyed by the new id
  have hfresh : gm.lookup (seq + 1) = none := by
    cases hg : gm.lookup (seq + 1) with
    | none => rfl
    | some gf' =>
      have := (hI.keyed _ gf' hg).2
      dsimp only at this
      omega
  have hyfresh : ∀ k yf, ym.lookup k = some yf → k.2.1 ≠ seq + 1 := by
    intro k yf hk
    have := hI.yieldKeyed k yf hk
    dsimp only at this
    omega
  have hframe : ∀ i c, i ≠ seq + 1 → b₁.free c (cfg.farmAccount i) = b.free c (cfg.farmAccount i) :=
    fun i c hi => free_farmAccount_of_transfer hd ht (.inr howner) (.inl rfl) hi c
  refine ⟨fun g x hg => ?_, fun k yf hk => ?_, fun i c hi => ?_, fun g x hg hlive => ?_, fun c => ?_⟩
  · rcases StorageMap.lookup_insert_eq_some hg with ⟨rfl, rfl⟩ | ⟨-, hg'⟩
    · exact ⟨hid, le_rfl⟩
    · obtain ⟨hx, hle⟩ := hI.keyed g x hg'
      exact ⟨hx, Nat.le_succ_of_le hle⟩
  · exact Nat.le_succ_of_le (hI.yieldKeyed k yf hk)
  · dsimp only at hi ⊢
    rw [hframe i c (by omega)]
    exact hI.unfunded i c (by dsimp only; omega)
  · rcases StorageMap.lookup_insert_eq_some hg with ⟨rfl, rfl⟩ | ⟨hne, hg'⟩
    · -- the new farm's account held nothing and now holds the total rewards
      have hA := Tokens.free_transfer_dst ht (howner _).symm
      have h₀ := hI.unfunded (seq + 1) x.rewardCurrency (by dsimp only; omega)
      dsimp only at hA h₀ ⊢
      simp only [farmRewards, Function.update_self, hpending, hpaid, hA, h₀]
      omega
    · dsimp only
      rw [Function.update_of_ne hne, ← hI.funded g x hg' hlive]
      simp only [farmRewards, hframe g _ hne]
  · have hP := Tokens.free_transfer_of_ne_account ht (Ne.symm hpot) (hd.farmAccount_ne_pot _).symm c
    have hdue := rewardsDue_insertNew hfresh hyfresh gf c
    have hnew : pendingIn c (seq + 1) gf = 0 := by simp [pendingIn, hpending]
    have h₀ := hI.solvent c
    dsimp only at hP h₀ ⊢
    omega

theorem createGlobalFarm_rewardInv {s : State AssetId AccountId AmmPoolId} {funds : Nat → Nat}
    (hd : cfg.AccountsDistinct) {totalRewards planned blocksPerPeriod : Nat}
    {incentivizedAsset rewardCurrency : AssetId} {owner : AccountId} {yieldPerPeriod : Perquintill}
    {minDeposit' : Nat} {priceAdjustment : FixedU128} {r : State AssetId AccountId AmmPoolId × Nat × Nat}
    (howner : cfg.OutsideFarms owner) (hpot : owner ≠ cfg.potAccount)
    (hI : RewardInv cfg s.books funds)
    (h : createGlobalFarm cfg s totalRewards planned blocksPerPeriod incentivizedAsset rewardCurrency
      owner yieldPerPeriod minDeposit' priceAdjustment = .ok r) :
    RewardInv cfg r.1.books (Function.update funds (s.farmSequencer + 1) totalRewards) := by
  simp only [createGlobalFarm, getNextFarmId, currencyTransfer, Frame.bind_eq_ok, Frame.okOr_eq_ok,
    Frame.ensure_eq_ok, Word.checkedAdd_eq_some, pure, Except.pure, Except.ok.injEq] at h
  obtain ⟨_, -, -, -, -, -, -, -, _, -, _, -, _, ⟨-, rfl⟩, a, ha, b₁, ht, rfl⟩ := h
  rw [farmAccountId_eq_ok ha] at ht
  exact RewardInv.create hd hI howner hpot rfl rfl rfl ht

variable (cfg)

/-- What the invariant needs of a call and the pallet does not check: an account that funds a
farm or receives rewards is no farm's account (no one holds their keys), and the owner who
funds a new global farm is not the pot. -/
def Call.Admissible : Call AssetId AccountId AmmPoolId → Prop
  | .createGlobalFarm _ _ _ _ _ owner _ _ _ => cfg.OutsideFarms owner ∧ owner ≠ cfg.potAccount
  | .terminateGlobalFarm who _ => cfg.OutsideFarms who
  | .claimRewards who _ _ _ => cfg.OutsideFarms who
  | _ => True

/-- The ghost of a run: the `total_rewards` each global farm was created with, under its id. -/
def recordFunds (s : State AssetId AccountId AmmPoolId) :
    Call AssetId AccountId AmmPoolId → (Nat → Nat) → Nat → Nat
  | .createGlobalFarm totalRewards _ _ _ _ _ _ _ _, funds =>
    Function.update funds (s.farmSequencer + 1) totalRewards
  | _, funds => funds

/-- An admissible call, recording the ghost. -/
def fundedStep (c : {c : Call AssetId AccountId AmmPoolId // c.Admissible cfg})
    (t : State AssetId AccountId AmmPoolId × (Nat → Nat)) :
    Except Error (State AssetId AccountId AmmPoolId × (Nat → Nat)) := do
  let s' ← step cfg c.1 t.1
  pure (s', recordFunds t.1 c.1 t.2)

variable {cfg}

/-- One step: every admissible call keeps the invariant, with the ghost it records. -/
theorem RewardInv.step (hd : cfg.AccountsDistinct) {c : Call AssetId AccountId AmmPoolId}
    (hc : c.Admissible cfg) {s s' : State AssetId AccountId AmmPoolId} {funds : Nat → Nat}
    (hI : RewardInv cfg s.books funds) (h : step cfg c s = .ok s') :
    RewardInv cfg s'.books (recordFunds s c funds) := by
  cases c with
  | createGlobalFarm =>
    obtain ⟨r, hr, rfl⟩ := Frame.map_eq_ok.mp h
    exact createGlobalFarm_rewardInv hd hc.1 hc.2 hI hr
  | updateGlobalFarmPriceAdjustment => exact hI.settles (updateGlobalFarmPriceAdjustment_settles hd hI h)
  | updateGlobalFarm => exact hI.settles (updateGlobalFarm_settles hd hI h)
  | terminateGlobalFarm =>
    obtain ⟨r, hr, rfl⟩ := Frame.map_eq_ok.mp h
    exact hI.settles (terminateGlobalFarm_settles hd hc hI hr)
  | createYieldFarm =>
    obtain ⟨r, hr, rfl⟩ := Frame.map_eq_ok.mp h
    exact hI.settles (createYieldFarm_settles hd hI hr)
  | updateYieldFarmMultiplier =>
    obtain ⟨r, hr, rfl⟩ := Frame.map_eq_ok.mp h
    exact hI.settles (updateYieldFarmMultiplier_settles hd hI hr)
  | stopYieldFarm =>
    obtain ⟨r, hr, rfl⟩ := Frame.map_eq_ok.mp h
    exact hI.settles (stopYieldFarm_settles hd hI hr)
  | resumeYieldFarm => exact hI.settles (resumeYieldFarm_settles hd hI h)
  | terminateYieldFarm => exact hI.settles (terminateYieldFarm_settles hd hI h)
  | depositLpShares =>
    obtain ⟨r, hr, rfl⟩ := Frame.map_eq_ok.mp h
    exact hI.settles (depositLpShares_settles hd hI hr)
  | redepositLpShares =>
    obtain ⟨r, hr, rfl⟩ := Frame.map_eq_ok.mp h
    exact hI.settles (redepositLpShares_settles hd hI hr)
  | claimRewards =>
    obtain ⟨r, hr, rfl⟩ := Frame.map_eq_ok.mp h
    exact hI.settles (claimRewards_settles hd hc hI hr)
  | withdrawLpShares =>
    obtain ⟨r, hr, rfl⟩ := Frame.map_eq_ok.mp h
    exact hI.settles (withdrawLpShares_settles hd hI hr)
  | advanceBlocks =>
    cases h
    exact hI

/-- Reward conservation: over every run of admissible calls from a state without farms,
every global farm that is not terminated holds the `total_rewards` it was created with in its
account, its pending rewards and its paid rewards, and the pot holds in every currency at
least the pending rewards and the rewards left to distribute booked in it. -/
theorem rewards_conserved (hd : cfg.AccountsDistinct)
    {t : State AssetId AccountId AmmPoolId × (Nat → Nat)}
    (ht : Frame.Reachable (fun t => Genesis cfg t.1) (fundedStep cfg) t) :
    (∀ g gf, t.1.globalFarm.lookup g = some gf → gf.state ≠ .terminated →
      t.1.balances.free gf.rewardCurrency (cfg.farmAccount g) + gf.pendingRewards +
        gf.accumulatedPaidRewards = t.2 g) ∧
    ∀ c, rewardsDue t.1.globalFarm t.1.yieldFarm c ≤ t.1.balances.free c cfg.potAccount := by
  have hI : RewardInv cfg t.1.books t.2 := by
    induction ht with
    | init h => exact RewardInv.genesis h _
    | step c _ h ih =>
      simp only [fundedStep, Frame.bind_eq_ok, pure, Except.pure, Except.ok.injEq] at h
      obtain ⟨s', hs', rfl⟩ := h
      exact RewardInv.step hd c.2 ih hs'
  exact ⟨hI.funded, hI.solvent⟩

end Run

/-! ## The example runtime -/

theorem exampleConfig_accountsDistinct : exampleConfig.AccountsDistinct where
  farmAccount_injective i j h := by
    change 2 * i + 3 = 2 * j + 3 at h
    omega
  farmAccount_ne_pot i := by
    change 2 * i + 3 ≠ 0
    omega
  farmAccount_ne_treasury i := by
    change 2 * i + 3 ≠ 2
    omega

theorem exampleGenesis_genesis : Genesis exampleConfig exampleGenesis := by
  refine ⟨rfl, rfl, fun i c => ?_⟩
  change (if c = 0 ∧ 2 * i + 3 = 4 then 1000000 else 0) = 0
  rw [if_neg (by omega)]

/-- Account `4`, the owner of the example farm, is no farm's account. -/
theorem exampleConfig_outsideFarms_four : exampleConfig.OutsideFarms 4 := fun i => by
  change 2 * i + 3 ≠ 4
  omega

/-- A global farm of `100000` over `100` periods, one yield farm, one deposit of `3001`
valued shares held for one period and withdrawn, then both farms terminated. The period's
reward `30` is booked pending, but the yield farm's part rounds down to `29`: the `1` left
pending stays in the pot when the terminated global farm leaves storage. -/
def dustRun : List {c : Call Nat Nat Nat // c.Admissible exampleConfig} :=
  [⟨.createGlobalFarm 100000 100 1 0 0 4 ⟨10000000000000000, by decide⟩ 1000 Fixed.one,
     exampleConfig_outsideFarms_four, by decide⟩,
   ⟨.createYieldFarm 4 1 Fixed.one none 7 [0], trivial⟩,
   ⟨.depositLpShares 1 2 7 10 3001, trivial⟩,
   ⟨.advanceBlocks 1, trivial⟩,
   ⟨.stopYieldFarm 4 1 7, trivial⟩,
   ⟨.withdrawLpShares 1 2 0 7, trivial⟩,
   ⟨.terminateYieldFarm 4 1 2 7, trivial⟩,
   ⟨.terminateGlobalFarm 4 1, exampleConfig_outsideFarms_four⟩]

def dustState : State Nat Nat Nat × (Nat → Nat) :=
  Frame.run (fundedStep exampleConfig) dustRun (exampleGenesis, fun _ => 0)

theorem rewards_conserved_dustRun :
    (∀ g gf, dustState.1.globalFarm.lookup g = some gf → gf.state ≠ .terminated →
      dustState.1.balances.free gf.rewardCurrency (exampleConfig.farmAccount g) + gf.pendingRewards +
        gf.accumulatedPaidRewards = dustState.2 g) ∧
    ∀ c, rewardsDue dustState.1.globalFarm dustState.1.yieldFarm c ≤
      dustState.1.balances.free c exampleConfig.potAccount :=
  rewards_conserved exampleConfig_accountsDistinct
    (Frame.reachable_run dustRun (.init exampleGenesis_genesis))

/-- The pot's balance does not equal what is booked in it: after `dustRun` it holds `1` of
the reward currency and no farm is left to owe it. -/
theorem pot_exceeds_rewardsDue :
    ∃ t : State Nat Nat Nat × (Nat → Nat),
      Frame.Reachable (fun t => Genesis exampleConfig t.1) (fundedStep exampleConfig) t ∧
      rewardsDue t.1.globalFarm t.1.yieldFarm 0 < t.1.balances.free 0 exampleConfig.potAccount :=
  ⟨dustState, Frame.reachable_run dustRun (.init exampleGenesis_genesis), by decide +kernel⟩

end Hydration.LiquidityMining
