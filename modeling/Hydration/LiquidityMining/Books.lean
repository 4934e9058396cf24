import Hydration.LiquidityMining.Pallet

/-!
# The reward books of liquidity mining

The rewards of a global farm are in one of three places: in the farm's account, in the
pot as the farm's `pending_rewards`, or paid to its yield farms (its
`accumulated_paid_rewards`), which hold them in the pot as `left_to_distribute` until
users claim them. `Books` is the part of the state that says where rewards are, and
`Settles B B'` says what a step of the pallet may do to it: keep each live global farm's
rewards where they were counted, and never let the pot fall further behind what is
booked in it. Each helper of the pallet that moves rewards gets one lemma saying that it
settles, so that `Rewards` proves the invariant once, for `Settles`.
-/

namespace Hydration.LiquidityMining

open Frame FixedPoint

variable {AssetId AccountId AmmPoolId : Type}

/-- The storage and the balances that book rewards. -/
structure Books (AssetId AccountId AmmPoolId : Type) where
  farmSequencer : Nat
  globalFarm : StorageMap Nat (GlobalFarmData AssetId AccountId)
  yieldFarm : StorageMap (AmmPoolId × Nat × Nat) YieldFarmData
  balances : Balances AssetId AccountId

def State.books (s : State AssetId AccountId AmmPoolId) : Books AssetId AccountId AmmPoolId :=
  ⟨s.farmSequencer, s.globalFarm, s.yieldFarm, s.balances⟩

/-- The fields of a global farm that book its rewards. -/
def GlobalFarmData.books (gf : GlobalFarmData AssetId AccountId) :
    Nat × AssetId × Nat × Nat × FarmState :=
  (gf.id, gf.rewardCurrency, gf.pendingRewards, gf.accumulatedPaidRewards, gf.state)

namespace GlobalFarmData

variable {gf gf' : GlobalFarmData AssetId AccountId}

theorem addStake_books {amount : Nat} (h : gf.addStake amount = .ok gf') :
    gf'.books = gf.books := by
  simp only [addStake, Frame.bind_eq_ok, Frame.okOr_eq_ok, pure, Except.pure, Except.ok.injEq] at h
  obtain ⟨_, -, rfl⟩ := h
  rfl

theorem removeStake_books {amount : Nat} (h : gf.removeStake amount = .ok gf') :
    gf'.books = gf.books := by
  simp only [removeStake, Frame.bind_eq_ok, Frame.okOr_eq_ok, pure, Except.pure,
    Except.ok.injEq] at h
  obtain ⟨_, -, rfl⟩ := h
  rfl

theorem increaseYieldFarmCounts_books (h : gf.increaseYieldFarmCounts = .ok gf') :
    gf'.books = gf.books := by
  simp only [increaseYieldFarmCounts, Frame.bind_eq_ok, Frame.okOr_eq_ok, pure, Except.pure,
    Except.ok.injEq] at h
  obtain ⟨_, -, _, -, rfl⟩ := h
  rfl

theorem decreaseLiveYieldFarmCount_books (h : gf.decreaseLiveYieldFarmCount = .ok gf') :
    gf'.books = gf.books := by
  simp only [decreaseLiveYieldFarmCount, Frame.bind_eq_ok, Frame.okOr_eq_ok, pure, Except.pure,
    Except.ok.injEq] at h
  obtain ⟨_, -, rfl⟩ := h
  rfl

theorem decreaseTotalYieldFarmCount_books (h : gf.decreaseTotalYieldFarmCount = .ok gf') :
    gf'.books = gf.books := by
  simp only [decreaseTotalYieldFarmCount, Frame.bind_eq_ok, Frame.okOr_eq_ok, pure, Except.pure,
    Except.ok.injEq] at h
  obtain ⟨_, -, rfl⟩ := h
  rfl

end GlobalFarmData

namespace YieldFarmData

variable {yf yf' : YieldFarmData}

theorem increaseEntriesCount_left (h : yf.increaseEntriesCount = .ok yf') :
    yf'.leftToDistribute = yf.leftToDistribute := by
  simp only [increaseEntriesCount, Frame.bind_eq_ok, Frame.okOr_eq_ok, pure, Except.pure,
    Except.ok.injEq] at h
  obtain ⟨_, -, rfl⟩ := h
  rfl

theorem decreaseEntriesCount_left (h : yf.decreaseEntriesCount = .ok yf') :
    yf'.leftToDistribute = yf.leftToDistribute := by
  simp only [decreaseEntriesCount, Frame.bind_eq_ok, Frame.okOr_eq_ok, pure, Except.pure,
    Except.ok.injEq] at h
  obtain ⟨_, -, rfl⟩ := h
  rfl

end YieldFarmData

theorem withPriceAdjustment_eq (cfg : Config AssetId AccountId) (gf : GlobalFarmData AssetId AccountId) :
    withPriceAdjustment cfg gf =
      { gf with priceAdjustment := (cfg.priceAdjustment gf).getD gf.priceAdjustment } := by
  unfold withPriceAdjustment
  cases cfg.priceAdjustment gf <;> rfl

/-! ## The pallet's accounts -/

section Accounts

variable (cfg : Config AssetId AccountId)

/-- What the runtime's accounts satisfy: the sub-accounts of the pallet id are distinct for
distinct farm ids, and none of them is the pot or the treasury. -/
structure Config.AccountsDistinct : Prop where
  farmAccount_injective : Function.Injective cfg.farmAccount
  farmAccount_ne_pot : ∀ i, cfg.farmAccount i ≠ cfg.potAccount
  farmAccount_ne_treasury : ∀ i, cfg.farmAccount i ≠ cfg.treasuryAccountId

/-- An account that is no farm's account. -/
def Config.OutsideFarms (x : AccountId) : Prop := ∀ i, cfg.farmAccount i ≠ x

theorem Config.AccountsDistinct.pot_outside {cfg : Config AssetId AccountId} (hd : cfg.AccountsDistinct) :
    cfg.OutsideFarms cfg.potAccount :=
  hd.farmAccount_ne_pot

variable [DecidableEq AssetId] [DecidableEq AccountId] {cfg}

/-- A transfer between the account of farm `g` and accounts outside the farms leaves the
account of every other farm alone. -/
theorem free_farmAccount_of_transfer (hd : cfg.AccountsDistinct) {b b' : Balances AssetId AccountId}
    {a : AssetId} {x y : AccountId} {amt g : Nat} (h : Tokens.transfer b a x y amt = some b')
    (hx : x = cfg.farmAccount g ∨ cfg.OutsideFarms x) (hy : y = cfg.farmAccount g ∨ cfg.OutsideFarms y)
    {i : Nat} (hi : i ≠ g) (c : AssetId) :
    b'.free c (cfg.farmAccount i) = b.free c (cfg.farmAccount i) := by
  have hne : ∀ z, (z = cfg.farmAccount g ∨ cfg.OutsideFarms z) → cfg.farmAccount i ≠ z := by
    rintro z (rfl | hz)
    · exact fun he => hi (hd.farmAccount_injective he)
    · exact hz i
  exact Tokens.free_transfer_of_ne_account h (hne x hx) (hne y hy) c

end Accounts

/-! ## What is booked -/

section Due

/-- The reward currency of the stored global farm `g`. -/
def currencyOf (globalFarms : StorageMap Nat (GlobalFarmData AssetId AccountId)) (g : Nat) :
    Option AssetId :=
  (globalFarms.lookup g).map GlobalFarmData.rewardCurrency

theorem currencyOf_insert {gm : StorageMap Nat (GlobalFarmData AssetId AccountId)} {g : Nat}
    {gf gf' : GlobalFarmData AssetId AccountId} (hg : gm.lookup g = some gf)
    (hrc : gf'.rewardCurrency = gf.rewardCurrency) : currencyOf (gm.insert g gf') = currencyOf gm := by
  funext i
  by_cases hi : i = g
  · subst hi
    simp [currencyOf, hg, hrc]
  · simp [currencyOf, AList.lookup_insert_ne hi]

variable [DecidableEq AssetId]

/-- Where the rewards of global farm `g` are: its account, its pending rewards, and what it
paid to its yield farms. -/
def farmRewards (cfg : Config AssetId AccountId) (b : Balances AssetId AccountId) (g : Nat)
    (gf : GlobalFarmData AssetId AccountId) : Nat :=
  b.free gf.rewardCurrency (cfg.farmAccount g) + gf.pendingRewards + gf.accumulatedPaidRewards

/-- A global farm's pending rewards, if it pays in `c`. -/
def pendingIn (c : AssetId) (_ : Nat) (gf : GlobalFarmData AssetId AccountId) : Nat :=
  if gf.rewardCurrency = c then gf.pendingRewards else 0

/-- A yield farm's rewards left to distribute, if its global farm pays in `c`. -/
def leftIn (currency : Nat → Option AssetId) (c : AssetId) (k : AmmPoolId × Nat × Nat)
    (yf : YieldFarmData) : Nat :=
  if currency k.2.1 = some c then yf.leftToDistribute else 0

/-- What the pot owes in `c`: the pending rewards of the global farms paying in `c`, and
what their yield farms have left to distribute. -/
def rewardsDue (globalFarms : StorageMap Nat (GlobalFarmData AssetId AccountId))
    (yieldFarms : StorageMap (AmmPoolId × Nat × Nat) YieldFarmData) (c : AssetId) : Nat :=
  StorageMap.sumBy (pendingIn c) globalFarms +
    StorageMap.sumBy (leftIn (currencyOf globalFarms) c) yieldFarms

variable {gm : StorageMap Nat (GlobalFarmData AssetId AccountId)}
  {ym : StorageMap (AmmPoolId × Nat × Nat) YieldFarmData} {g : Nat}
  {gf gf' : GlobalFarmData AssetId AccountId}

variable (ym) in
/-- Rewriting a global farm in its currency changes what is owed by its pending rewards. -/
theorem rewardsDue_insertGlobal (hg : gm.lookup g = some gf)
    (hrc : gf'.rewardCurrency = gf.rewardCurrency) (c : AssetId) :
    rewardsDue (gm.insert g gf') ym c + pendingIn c g gf = rewardsDue gm ym c + pendingIn c g gf' := by
  have h := StorageMap.sumBy_insert_add (pendingIn c) gm g gf'
  rw [StorageMap.at?_of_lookup _ hg] at h
  unfold rewardsDue
  rw [currencyOf_insert hg hrc]
  omega

variable [DecidableEq AmmPoolId]

variable (gm) in
/-- Rewriting a yield farm changes what is owed by what it has left. -/
theorem rewardsDue_insertYield {k : AmmPoolId × Nat × Nat} {yf : YieldFarmData}
    (hk : ym.lookup k = some yf) (yf' : YieldFarmData) (c : AssetId) :
    rewardsDue gm (ym.insert k yf') c + leftIn (currencyOf gm) c k yf =
      rewardsDue gm ym c + leftIn (currencyOf gm) c k yf' := by
  have h := StorageMap.sumBy_insert_add (leftIn (currencyOf gm) c) ym k yf'
  rw [StorageMap.at?_of_lookup _ hk] at h
  unfold rewardsDue
  omega

variable (gm ym) in
theorem rewardsDue_insertYield_le {yf' : YieldFarmData} (hleft : yf'.leftToDistribute = 0)
    (k : AmmPoolId × Nat × Nat) (c : AssetId) :
    rewardsDue gm (ym.insert k yf') c ≤ rewardsDue gm ym c := by
  have h := StorageMap.sumBy_insert_add (leftIn (currencyOf gm) c) ym k yf'
  have h₀ : leftIn (currencyOf gm) c k yf' = 0 := by simp [leftIn, hleft]
  unfold rewardsDue
  omega

variable (gm ym) in
theorem rewardsDue_eraseYield_le (k : AmmPoolId × Nat × Nat) (c : AssetId) :
    rewardsDue gm (ym.erase k) c ≤ rewardsDue gm ym c := by
  have := StorageMap.sumBy_erase_le (leftIn (currencyOf gm) c) ym k
  unfold rewardsDue
  omega

variable (gm ym) in
/-- Removing a global farm drops its pending rewards and what its yield farms have left. -/
theorem rewardsDue_eraseGlobal_le (g : Nat) (c : AssetId) :
    rewardsDue (gm.erase g) ym c ≤ rewardsDue gm ym c := by
  have h₁ := StorageMap.sumBy_erase_le (pendingIn c) gm g
  have h₂ : StorageMap.sumBy (leftIn (currencyOf (gm.erase g)) c) ym ≤
      StorageMap.sumBy (leftIn (currencyOf gm) c) ym := by
    apply StorageMap.sumBy_le_sumBy
    intro k yf _
    by_cases hk : k.2.1 = g
    · have hnone : currencyOf (gm.erase g) k.2.1 = none := by
        rw [currencyOf, hk, AList.lookup_erase, Option.map_none]
      simp only [leftIn, hnone, reduceCtorEq, if_false]
      exact Nat.zero_le _
    · simp [leftIn, currencyOf, AList.lookup_erase_ne hk]
  unfold rewardsDue
  omega

/-- A global farm under a new id, which no yield farm is keyed by, owes only its own
pending rewards. -/
theorem rewardsDue_insertNew (hg : gm.lookup g = none)
    (hy : ∀ k yf, ym.lookup k = some yf → k.2.1 ≠ g) (gf' : GlobalFarmData AssetId AccountId)
    (c : AssetId) : rewardsDue (gm.insert g gf') ym c = rewardsDue gm ym c + pendingIn c g gf' := by
  have h₁ := StorageMap.sumBy_insert_of_lookup_none (pendingIn c) gf' hg
  have h₂ : StorageMap.sumBy (leftIn (currencyOf (gm.insert g gf')) c) ym =
      StorageMap.sumBy (leftIn (currencyOf gm) c) ym := by
    apply StorageMap.sumBy_congr
    intro k yf hk
    simp [leftIn, currencyOf, AList.lookup_insert_ne (hy k yf hk)]
  unfold rewardsDue
  omega

end Due

/-! ## Steps that settle -/

section Settles

variable [DecidableEq AssetId] [DecidableEq AmmPoolId] (cfg : Config AssetId AccountId)

/-- What a step may do to the books: no global farm appears from nothing; each live global
farm keeps its rewards and was live before; a new yield farm belongs to a stored global
farm; the accounts of farms not stored do not move; and the pot's balance does not fall
further behind what it owes. -/
structure Settles (B B' : Books AssetId AccountId AmmPoolId) : Prop where
  sequencer : B.farmSequencer ≤ B'.farmSequencer
  globalFarm : ∀ g gf', B'.globalFarm.lookup g = some gf' → ∃ gf,
    B.globalFarm.lookup g = some gf ∧ gf'.id = gf.id ∧
      (gf'.state ≠ .terminated → gf.state ≠ .terminated ∧
        farmRewards cfg B'.balances g gf' = farmRewards cfg B.balances g gf)
  yieldFarm : ∀ k yf', B'.yieldFarm.lookup k = some yf' →
    (∃ yf, B.yieldFarm.lookup k = some yf) ∨ ∃ gf, B.globalFarm.lookup k.2.1 = some gf
  unfunded : ∀ i c, B.globalFarm.lookup i = none →
    B'.balances.free c (cfg.farmAccount i) = B.balances.free c (cfg.farmAccount i)
  solvent : ∀ c, B.balances.free c cfg.potAccount + rewardsDue B'.globalFarm B'.yieldFarm c ≤
    B'.balances.free c cfg.potAccount + rewardsDue B.globalFarm B.yieldFarm c

variable {cfg}

theorem Settles.refl (B : Books AssetId AccountId AmmPoolId) : Settles cfg B B where
  sequencer := le_rfl
  globalFarm _ gf h := ⟨gf, h, rfl, fun ht => ⟨ht, rfl⟩⟩
  yieldFarm _ yf h := .inl ⟨yf, h⟩
  unfunded _ _ _ := rfl
  solvent _ := le_rfl

theorem Settles.trans {B₁ B₂ B₃ : Books AssetId AccountId AmmPoolId} (h₁ : Settles cfg B₁ B₂)
    (h₂ : Settles cfg B₂ B₃) : Settles cfg B₁ B₃ where
  sequencer := h₁.sequencer.trans h₂.sequencer
  globalFarm g gf₃ hg := by
    obtain ⟨gf₂, hg₂, hid₂, hf₂⟩ := h₂.globalFarm g gf₃ hg
    obtain ⟨gf₁, hg₁, hid₁, hf₁⟩ := h₁.globalFarm g gf₂ hg₂
    refine ⟨gf₁, hg₁, hid₂.trans hid₁, fun ht₃ => ?_⟩
    obtain ⟨ht₂, he₂⟩ := hf₂ ht₃
    obtain ⟨ht₁, he₁⟩ := hf₁ ht₂
    exact ⟨ht₁, he₂.trans he₁⟩
  yieldFarm k yf₃ hk := by
    rcases h₂.yieldFarm k yf₃ hk with ⟨yf₂, hk₂⟩ | ⟨gf₂, hg₂⟩
    · exact h₁.yieldFarm k yf₂ hk₂
    · obtain ⟨gf₁, hg₁, -⟩ := h₁.globalFarm _ gf₂ hg₂
      exact .inr ⟨gf₁, hg₁⟩
  unfunded i c hi := by
    -- a farm not stored before the first step is not stored before the second either
    have hi₂ : B₂.globalFarm.lookup i = none := by
      cases h : B₂.globalFarm.lookup i with
      | none => rfl
      | some gf₂ =>
        obtain ⟨gf₁, hg₁, -⟩ := h₁.globalFarm i gf₂ h
        rw [hi] at hg₁
        cases hg₁
    rw [h₂.unfunded i c hi₂, h₁.unfunded i c hi]
  solvent c := by
    have := h₁.solvent c
    have := h₂.solvent c
    omega

variable {seq : Nat} {gm : StorageMap Nat (GlobalFarmData AssetId AccountId)}
  {ym ym' : StorageMap (AmmPoolId × Nat × Nat) YieldFarmData} {b b' : Balances AssetId AccountId}
  {g : Nat} {gf gf' : GlobalFarmData AssetId AccountId}

/-- A step that writes the global farm `g`: what remains to show is that `g` keeps its
rewards, that no other farm's account moved, and that the pot stays solvent. -/
theorem settles_of_write (hg : gm.lookup g = some gf) (hid : gf'.id = gf.id)
    (hfund : gf'.state ≠ .terminated → gf.state ≠ .terminated ∧
      farmRewards cfg b' g gf' = farmRewards cfg b g gf)
    (hframe : ∀ i c, i ≠ g → b'.free c (cfg.farmAccount i) = b.free c (cfg.farmAccount i))
    (hyield : ∀ k yf', ym'.lookup k = some yf' → (∃ yf, ym.lookup k = some yf) ∨
      ∃ gf, gm.lookup k.2.1 = some gf)
    (hsolvent : ∀ c, b.free c cfg.potAccount + rewardsDue (gm.insert g gf') ym' c ≤
      b'.free c cfg.potAccount + rewardsDue gm ym c) :
    Settles cfg ⟨seq, gm, ym, b⟩ ⟨seq, gm.insert g gf', ym', b'⟩ where
  sequencer := le_rfl
  globalFarm i x hi := by
    rcases StorageMap.lookup_insert_eq_some hi with ⟨rfl, rfl⟩ | ⟨hig, hi'⟩
    · exact ⟨gf, hg, hid, hfund⟩
    · refine ⟨x, hi', rfl, fun ht => ⟨ht, ?_⟩⟩
      simp only [farmRewards, hframe i _ hig]
  yieldFarm := hyield
  unfunded i c hi := by
    apply hframe i c
    rintro rfl
    rw [hg] at hi
    cases hi
  solvent := hsolvent

end Settles

/-! ## What the helpers do to the books -/

section Helpers

variable [DecidableEq AssetId] [DecidableEq AccountId] {cfg : Config AssetId AccountId}
  {b b₁ : Balances AssetId AccountId} {gf gf₁ : GlobalFarmData AssetId AccountId}
  {yf yf₁ : YieldFarmData}

omit [DecidableEq AssetId] [DecidableEq AccountId] in
theorem farmAccountId_eq_ok {i : Nat} {a : AccountId} (h : farmAccountId cfg i = .ok a) :
    a = cfg.farmAccount i := by
  unfold farmAccountId at h
  split at h
  · cases h
  · cases h
    rfl

theorem distributeGlobalFarmReward_spec {a : AccountId} {r : Nat}
    (h : distributeGlobalFarmReward cfg b gf a r = .ok (b₁, gf₁)) :
    gf₁.books = (gf.id, gf.rewardCurrency, gf.pendingRewards + r, gf.accumulatedPaidRewards, gf.state) ∧
      Tokens.transfer b gf.rewardCurrency a cfg.potAccount r = some b₁ := by
  simp only [distributeGlobalFarmReward, currencyTransfer, Frame.bind_eq_ok, Frame.okOr_eq_ok,
    Word.checkedAdd_eq_some, pure, Except.pure, Except.ok.injEq, Prod.mk.injEq] at h
  obtain ⟨b₂, ht, _, -, _, ⟨-, rfl⟩, rfl, rfl⟩ := h
  exact ⟨rfl, ht⟩

/-- `sync_global_farm` moves its reward from the farm's account to the pot and books it as
pending; the branches that reward nothing move nothing. -/
theorem syncGlobalFarm_spec {p r : Nat} (h : syncGlobalFarm cfg b gf p = .ok (b₁, gf₁, r)) :
    gf₁.books = (gf.id, gf.rewardCurrency, gf.pendingRewards + r, gf.accumulatedPaidRewards, gf.state) ∧
      Tokens.transfer b gf.rewardCurrency (cfg.farmAccount gf.id) cfg.potAccount r = some b₁ := by
  have hstay : ∀ gf' : GlobalFarmData AssetId AccountId, gf'.books = gf.books →
      gf'.books = (gf.id, gf.rewardCurrency, gf.pendingRewards + 0, gf.accumulatedPaidRewards, gf.state) ∧
        Tokens.transfer b gf.rewardCurrency (cfg.farmAccount gf.id) cfg.potAccount 0 = some b :=
    fun _ hb => ⟨hb, by simp [Tokens.transfer]⟩
  unfold syncGlobalFarm at h
  split at h
  · cases h
    exact hstay gf rfl
  split at h
  · cases h
    exact hstay gf rfl
  split at h
  · cases h
    exact hstay _ rfl
  simp only [Frame.bind_eq_ok, Frame.okOr_eq_ok] at h
  obtain ⟨a, ha, _, -, _, -, h⟩ := h
  rw [farmAccountId_eq_ok ha] at h
  split at h
  · cases h
    exact hstay _ (by simp [withPriceAdjustment_eq, GlobalFarmData.books])
  · simp only [Frame.bind_eq_ok, pure, Except.pure, Except.ok.injEq] at h
    obtain ⟨⟨b₂, gf₂⟩, hdist, h⟩ := h
    cases h
    obtain ⟨hb, ht⟩ := distributeGlobalFarmReward_spec hdist
    refine ⟨?_, by simpa [withPriceAdjustment_eq] using ht⟩
    simpa [withPriceAdjustment_eq, GlobalFarmData.books] using hb

omit [DecidableEq AssetId] [DecidableEq AccountId] in
/-- `sync_yield_farm` moves the yield farm's rewards from the global farm's pending rewards
to its paid rewards and to the yield farm's rewards left to distribute. -/
theorem syncYieldFarm_spec {p : Nat} (h : syncYieldFarm yf gf p = .ok (yf₁, gf₁)) :
    ∃ y, y ≤ gf.pendingRewards ∧
      gf₁.books = (gf.id, gf.rewardCurrency, gf.pendingRewards - y, gf.accumulatedPaidRewards + y,
        gf.state) ∧
      yf₁.leftToDistribute = yf.leftToDistribute + y := by
  unfold syncYieldFarm at h
  split at h
  · cases h
    exact ⟨0, Nat.zero_le _, rfl, rfl⟩
  split at h
  · cases h
    exact ⟨0, Nat.zero_le _, rfl, rfl⟩
  split at h
  · cases h
    exact ⟨0, Nat.zero_le _, rfl, rfl⟩
  simp only [Frame.bind_eq_ok, Frame.okOr_eq_ok, Word.checkedAdd_eq_some, Word.checkedSub_eq_some,
    pure, Except.pure, Except.ok.injEq, Prod.mk.injEq] at h
  obtain ⟨⟨_, y⟩, -, _, ⟨-, rfl⟩, _, ⟨hle, rfl⟩, _, -, _, ⟨-, rfl⟩, rfl, rfl⟩ := h
  exact ⟨y, hle, rfl, rfl⟩

/-- A claim is paid from the pot out of the yield farm's rewards left to distribute. -/
theorem payClaim_spec {e e₁ : YieldFarmEntry} {rc : AssetId} {dest : AccountId} {r p : Nat}
    (h : payClaim cfg b yf e rc dest r p = .ok (b₁, yf₁, e₁)) :
    r ≤ yf.leftToDistribute ∧ yf₁.leftToDistribute = yf.leftToDistribute - r ∧
      Tokens.transfer b rc cfg.potAccount dest r = some b₁ ∧ e₁.globalFarmId = e.globalFarmId := by
  simp only [payClaim, currencyTransfer, Frame.bind_eq_ok, Frame.okOr_eq_ok, Word.checkedSub_eq_some,
    pure, Except.pure, Except.ok.injEq, Prod.mk.injEq] at h
  obtain ⟨_, ⟨hle, rfl⟩, _, -, _, ht, rfl, rfl, rfl⟩ := h
  exact ⟨hle, rfl, ht, rfl⟩

/-- Forfeited rewards go back from the pot to the farm's account, out of the yield farm's
rewards left and the global farm's paid rewards. -/
theorem returnUnclaimable_spec {u : Nat} (h : returnUnclaimable cfg b yf gf u = .ok (b₁, yf₁, gf₁)) :
    u ≤ yf.leftToDistribute ∧ u ≤ gf.accumulatedPaidRewards ∧
      yf₁.leftToDistribute = yf.leftToDistribute - u ∧
      gf₁.books = (gf.id, gf.rewardCurrency, gf.pendingRewards, gf.accumulatedPaidRewards - u, gf.state) ∧
      Tokens.transfer b gf.rewardCurrency cfg.potAccount (cfg.farmAccount gf.id) u = some b₁ := by
  simp only [returnUnclaimable, currencyTransfer, Frame.bind_eq_ok, Frame.okOr_eq_ok,
    Word.checkedSub_eq_some, pure, Except.pure, Except.ok.injEq, Prod.mk.injEq] at h
  obtain ⟨_, ⟨hle, rfl⟩, _, ⟨hpaid, rfl⟩, a, ha, _, ht, rfl, rfl, rfl⟩ := h
  rw [farmAccountId_eq_ok ha] at ht
  exact ⟨hle, hpaid, rfl, rfl, ht⟩

end Helpers

/-! ## The steps of the helpers settle -/

section Steps

variable [DecidableEq AssetId] [DecidableEq AmmPoolId] {cfg : Config AssetId AccountId}
  {seq : Nat} {gm : StorageMap Nat (GlobalFarmData AssetId AccountId)}
  {ym : StorageMap (AmmPoolId × Nat × Nat) YieldFarmData} {b b₁ : Balances AssetId AccountId}
  {g : Nat} {gf gf₁ gf' : GlobalFarmData AssetId AccountId} {k : AmmPoolId × Nat × Nat}
  {yf yf₁ yf' : YieldFarmData}

/-- Rewriting a global farm's other fields. -/
theorem settles_editGlobal (hg : gm.lookup g = some gf) (hb : gf'.books = gf.books) :
    Settles cfg ⟨seq, gm, ym, b⟩ ⟨seq, gm.insert g gf', ym, b⟩ := by
  simp only [GlobalFarmData.books, Prod.mk.injEq] at hb
  obtain ⟨hid, hrc, hpending, hpaid, hstate⟩ := hb
  refine settles_of_write hg hid (fun _ => ⟨by rwa [← hstate], ?_⟩) (fun _ _ _ => rfl)
    (fun k yf hk => .inl ⟨yf, hk⟩) (fun c => ?_)
  · simp only [farmRewards, hrc, hpending, hpaid]
  · have h := rewardsDue_insertGlobal ym hg hrc c
    have hp : pendingIn c g gf' = pendingIn c g gf := by simp only [pendingIn, hrc, hpending]
    omega

/-- `sync_yield_farm` keeps the farm's rewards and what the pot owes: the yield farm's
rewards move from the global farm's pending rewards to its paid ones and to the yield
farm's rewards left. -/
theorem settles_syncYieldFarm (hk : ym.lookup k = some yf) (hkg : k.2.1 = g) {p : Nat}
    (hsync : syncYieldFarm yf gf p = .ok (yf₁, gf₁)) (hb : gf'.books = gf₁.books)
    (hleft : yf'.leftToDistribute = yf₁.leftToDistribute) :
    Settles cfg ⟨seq, gm.insert g gf, ym, b⟩ ⟨seq, gm.insert g gf', ym.insert k yf', b⟩ := by
  -- the global farm was just written by `sync_global_farm`
  suffices h : Settles cfg ⟨seq, gm.insert g gf, ym, b⟩
      ⟨seq, (gm.insert g gf).insert g gf', ym.insert k yf', b⟩ by
    rwa [AList.insert_insert] at h
  have hg : (gm.insert g gf).lookup g = some gf := AList.lookup_insert gm
  obtain ⟨y, hy, hb₁, hleft₁⟩ := syncYieldFarm_spec hsync
  have hb' := hb.trans hb₁
  simp only [GlobalFarmData.books, Prod.mk.injEq] at hb'
  obtain ⟨hid, hrc, hpending, hpaid, hstate⟩ := hb'
  refine settles_of_write hg hid (fun _ => ⟨by rwa [← hstate], ?_⟩) (fun _ _ _ => rfl)
    (fun k' yf'' hk' => ?_) (fun c => ?_)
  · simp only [farmRewards, hrc, hpending, hpaid]
    omega
  · rcases StorageMap.lookup_insert_eq_some hk' with ⟨rfl, -⟩ | ⟨-, hk''⟩
    · exact .inl ⟨yf, hk⟩
    · exact .inl ⟨yf'', hk''⟩
  · have h₁ := rewardsDue_insertGlobal (ym.insert k yf') hg hrc c
    have h₂ := rewardsDue_insertYield (gm.insert g gf) hk yf' c
    have hcur : currencyOf (gm.insert g gf) k.2.1 = some gf.rewardCurrency := by
      rw [currencyOf, hkg, hg]
      rfl
    by_cases hc : gf.rewardCurrency = c
    · simp only [pendingIn, leftIn, hcur, hc, hrc, if_true, hpending, hleft, hleft₁] at h₁ h₂
      omega
    · have hc' : ¬some gf.rewardCurrency = some c := fun h => hc (Option.some.inj h)
      simp only [pendingIn, leftIn, hcur, hc, hc', if_false, hrc] at h₁ h₂
      omega

/-- A yield farm whose rewards left do not change. -/
theorem settles_editYield (hk : ym.lookup k = some yf)
    (hleft : yf'.leftToDistribute = yf.leftToDistribute) :
    Settles cfg ⟨seq, gm, ym, b⟩ ⟨seq, gm, ym.insert k yf', b⟩ := by
  refine ⟨le_rfl, fun i x hi => ⟨x, hi, rfl, fun ht => ⟨ht, rfl⟩⟩, fun k' yf'' hk' => ?_,
    fun _ _ _ => rfl, fun c => ?_⟩
  · rcases StorageMap.lookup_insert_eq_some hk' with ⟨rfl, -⟩ | ⟨-, hk''⟩
    · exact .inl ⟨yf, hk⟩
    · exact .inl ⟨yf'', hk''⟩
  · dsimp only
    have h := rewardsDue_insertYield gm hk yf' c
    have hl : leftIn (currencyOf gm) c k yf' = leftIn (currencyOf gm) c k yf := by
      simp only [leftIn, hleft]
    omega

/-- A new yield farm of a stored global farm, with nothing left to distribute. -/
theorem settles_newYield (hg : gm.lookup g = some gf) (hkg : k.2.1 = g)
    (hleft : yf'.leftToDistribute = 0)
    {seq' : Nat} (hseq : seq ≤ seq') :
    Settles cfg ⟨seq, gm, ym, b⟩ ⟨seq', gm, ym.insert k yf', b⟩ := by
  refine ⟨hseq, fun i x hi => ⟨x, hi, rfl, fun ht => ⟨ht, rfl⟩⟩, fun k' yf'' hk' => ?_,
    fun _ _ _ => rfl, fun c => ?_⟩
  · rcases StorageMap.lookup_insert_eq_some hk' with ⟨rfl, -⟩ | ⟨-, hk''⟩
    · exact .inr ⟨gf, hkg ▸ hg⟩
    · exact .inl ⟨yf'', hk''⟩
  · have := rewardsDue_insertYield_le gm ym hleft k c
    dsimp only
    omega

theorem settles_eraseYield : Settles cfg ⟨seq, gm, ym, b⟩ ⟨seq, gm, ym.erase k, b⟩ := by
  refine ⟨le_rfl, fun i x hi => ⟨x, hi, rfl, fun ht => ⟨ht, rfl⟩⟩, fun k' yf'' hk' => ?_,
    fun _ _ _ => rfl, fun c => ?_⟩
  · exact .inl ⟨yf'', (StorageMap.lookup_erase_eq_some hk').2⟩
  · have := rewardsDue_eraseYield_le gm ym k c
    dsimp only
    omega

theorem settles_eraseGlobal : Settles cfg ⟨seq, gm, ym, b⟩ ⟨seq, gm.erase g, ym, b⟩ := by
  refine ⟨le_rfl, fun i x hi => ?_, fun k' yf'' hk' => .inl ⟨yf'', hk'⟩, fun _ _ _ => rfl,
    fun c => ?_⟩
  · exact ⟨x, (StorageMap.lookup_erase_eq_some hi).2, rfl, fun ht => ⟨ht, rfl⟩⟩
  · have := rewardsDue_eraseGlobal_le gm ym g c
    dsimp only
    omega

/-- Storing a yield farm, or removing it with its count in the global farm. -/
theorem settles_storeOrRemoveYieldFarm {ym₁ : StorageMap (AmmPoolId × Nat × Nat) YieldFarmData}
    (h : storeOrRemoveYieldFarm gf k yf ym = .ok (gf₁, ym₁)) :
    Settles cfg ⟨seq, gm.insert g gf, ym.insert k yf, b⟩ ⟨seq, gm.insert g gf₁, ym₁, b⟩ := by
  unfold storeOrRemoveYieldFarm at h
  split at h
  · simp only [Frame.bind_eq_ok, pure, Except.pure, Except.ok.injEq, Prod.mk.injEq] at h
    obtain ⟨gf₂, hdec, rfl, rfl⟩ := h
    have h₁ : Settles cfg ⟨seq, gm.insert g gf, ym.insert k yf, b⟩
        ⟨seq, (gm.insert g gf).insert g gf₂, ym.insert k yf, b⟩ :=
      settles_editGlobal (AList.lookup_insert gm) (GlobalFarmData.decreaseTotalYieldFarmCount_books hdec)
    rw [AList.insert_insert] at h₁
    have h₂ : Settles cfg ⟨seq, gm.insert g gf₂, ym.insert k yf, b⟩
        ⟨seq, gm.insert g gf₂, (ym.insert k yf).erase k, b⟩ := settles_eraseYield
    rw [StorageMap.erase_insert] at h₂
    exact h₁.trans h₂
  · cases h
    exact .refl _

/-- Storing a global farm, or removing it once it is terminated and empty. -/
theorem settles_storeOrRemoveGlobalFarm :
    Settles cfg ⟨seq, gm.insert g gf, ym, b⟩ ⟨seq, storeOrRemoveGlobalFarm gf g gm, ym, b⟩ := by
  unfold storeOrRemoveGlobalFarm
  split
  · have h : Settles cfg ⟨seq, gm.insert g gf, ym, b⟩ ⟨seq, (gm.insert g gf).erase g, ym, b⟩ :=
      settles_eraseGlobal
    rwa [StorageMap.erase_insert] at h
  · exact .refl _

/-! Steps that move balances: they keep other farms' accounts by `AccountsDistinct`. -/

variable [DecidableEq AccountId] (hd : cfg.AccountsDistinct)

include hd in
/-- `sync_global_farm` keeps the farm's rewards: what leaves its account is pending in the
pot. -/
theorem settles_syncGlobalFarm (hg : gm.lookup g = some gf) (hid : gf.id = g) {p r : Nat}
    (hsync : syncGlobalFarm cfg b gf p = .ok (b₁, gf₁, r)) (hb : gf'.books = gf₁.books) :
    Settles cfg ⟨seq, gm, ym, b⟩ ⟨seq, gm.insert g gf', ym, b₁⟩ := by
  obtain ⟨hb₁, ht⟩ := syncGlobalFarm_spec hsync
  have hb' := hb.trans hb₁
  simp only [GlobalFarmData.books, Prod.mk.injEq] at hb'
  obtain ⟨hid', hrc, hpending, hpaid, hstate⟩ := hb'
  rw [hid] at ht
  have hne : cfg.farmAccount g ≠ cfg.potAccount := hd.farmAccount_ne_pot g
  refine settles_of_write hg hid' (fun _ => ⟨by rwa [← hstate], ?_⟩)
    (fun i c hi => free_farmAccount_of_transfer hd ht (.inl rfl) (.inr hd.pot_outside) hi c)
    (fun k yf hk => .inl ⟨yf, hk⟩) (fun c => ?_)
  · have hA := Tokens.free_transfer_src ht hne
    simp only [farmRewards, hrc, hpending, hpaid]
    omega
  · have h := rewardsDue_insertGlobal ym hg hrc c
    by_cases hc : c = gf.rewardCurrency
    · subst hc
      have hP := Tokens.free_transfer_dst ht hne
      simp only [pendingIn, if_true, hrc, hpending] at h
      omega
    · have hP := Tokens.free_transfer_of_ne ht hc cfg.potAccount
      have hp : pendingIn c g gf' = pendingIn c g gf := by
        simp only [pendingIn, hrc, Ne.symm hc, if_false]
      omega

include hd in
/-- A claim paid from the pot to an account outside the farms settles: the pot and the
yield farm's rewards left fall together. -/
theorem settles_payClaim {rc : AssetId} (hcur : currencyOf gm k.2.1 = some rc) {dest : AccountId}
    (hdest : cfg.OutsideFarms dest) {e e₁ : YieldFarmEntry} {r p : Nat}
    (hpay : payClaim cfg b yf e rc dest r p = .ok (b₁, yf₁, e₁)) :
    Settles cfg ⟨seq, gm, ym.insert k yf, b⟩ ⟨seq, gm, ym.insert k yf₁, b₁⟩ := by
  -- the yield farm was just written by `sync_yield_farm`
  suffices h : Settles cfg ⟨seq, gm, ym.insert k yf, b⟩ ⟨seq, gm, (ym.insert k yf).insert k yf₁, b₁⟩ by
    rwa [AList.insert_insert] at h
  have hk : (ym.insert k yf).lookup k = some yf := AList.lookup_insert ym
  obtain ⟨hr, hleft, ht, -⟩ := payClaim_spec hpay
  have hframe : ∀ i c, b₁.free c (cfg.farmAccount i) = b.free c (cfg.farmAccount i) := fun i c =>
    Tokens.free_transfer_of_ne_account ht (hd.pot_outside i) (hdest i) c
  refine ⟨le_rfl, fun i x hi => ⟨x, hi, rfl, fun ht => ⟨ht, by simp only [farmRewards, hframe]⟩⟩,
    fun k' yf'' hk' => ?_, fun i c _ => hframe i c, fun c => ?_⟩
  · rcases StorageMap.lookup_insert_eq_some hk' with ⟨rfl, -⟩ | ⟨-, hk''⟩
    · exact .inl ⟨yf, hk⟩
    · exact .inl ⟨yf'', hk''⟩
  · dsimp only
    have h := rewardsDue_insertYield gm hk yf₁ c
    -- the pot pays at most `r`, and nothing if it pays itself
    have hP := Tokens.free_transfer ht c cfg.potAccount
    by_cases hc : c = rc
    · subst hc
      simp only [leftIn, hcur, if_true, hleft, and_self, true_and] at h hP
      split at hP <;> omega
    · have hc' : ¬some rc = some c := fun h => hc (Option.some.inj h).symm
      simp only [leftIn, hcur, hc, hc', false_and, if_false] at h hP
      omega

include hd in
/-- Rewards going back from the pot to the account of farm `g`, out of what one of its yield
farms has left and out of its paid rewards: `return_unclaimable` and the refund of
`terminate_yield_farm`. -/
theorem settles_refund (hg : gm.lookup g = some gf) (hk : ym.lookup k = some yf)
    (hkg : k.2.1 = g) {u : Nat} (hul : u ≤ yf.leftToDistribute) (hup : u ≤ gf.accumulatedPaidRewards)
    (ht : Tokens.transfer b gf.rewardCurrency cfg.potAccount (cfg.farmAccount g) u = some b₁)
    (hb : gf'.books = (gf.id, gf.rewardCurrency, gf.pendingRewards, gf.accumulatedPaidRewards - u,
      gf.state))
    (hleft : yf'.leftToDistribute = yf.leftToDistribute - u) :
    Settles cfg ⟨seq, gm, ym, b⟩ ⟨seq, gm.insert g gf', ym.insert k yf', b₁⟩ := by
  simp only [GlobalFarmData.books, Prod.mk.injEq] at hb
  obtain ⟨hid', hrc, hpending, hpaid, hstate⟩ := hb
  have hne : cfg.potAccount ≠ cfg.farmAccount g := (hd.farmAccount_ne_pot g).symm
  refine settles_of_write hg hid' (fun _ => ⟨by rwa [← hstate], ?_⟩)
    (fun i c hi => free_farmAccount_of_transfer hd ht (.inr hd.pot_outside) (.inl rfl) hi c)
    (fun k' yf'' hk' => ?_) (fun c => ?_)
  · have hA := Tokens.free_transfer_dst ht hne
    simp only [farmRewards, hrc, hpending, hpaid]
    omega
  · rcases StorageMap.lookup_insert_eq_some hk' with ⟨rfl, -⟩ | ⟨-, hk''⟩
    · exact .inl ⟨yf, hk⟩
    · exact .inl ⟨yf'', hk''⟩
  · have h₁ := rewardsDue_insertGlobal (ym.insert k yf') hg hrc c
    have h₂ := rewardsDue_insertYield gm hk yf' c
    have hcur : currencyOf gm k.2.1 = some gf.rewardCurrency := by rw [currencyOf, hkg, hg]; rfl
    have hp : pendingIn c g gf' = pendingIn c g gf := by simp only [pendingIn, hrc, hpending]
    by_cases hc : c = gf.rewardCurrency
    · subst hc
      have hP := Tokens.free_transfer_src ht hne
      simp only [leftIn, hcur, if_true, hleft] at h₂
      omega
    · have hP := Tokens.free_transfer_of_ne ht hc cfg.potAccount
      have hc' : ¬some gf.rewardCurrency = some c := fun h => hc (Option.some.inj h).symm
      simp only [leftIn, hcur, hc', if_false] at h₂
      omega

include hd in
/-- `terminate_global_farm` pays the farm's account out to the owner; the farm is no longer
live, and nothing the pot owes changes. -/
theorem settles_terminateGlobal (hg : gm.lookup g = some gf) {who : AccountId}
    (hwho : cfg.OutsideFarms who) {u : Nat}
    (ht : Tokens.transfer b gf.rewardCurrency (cfg.farmAccount g) who u = some b₁) :
    Settles cfg ⟨seq, gm, ym, b⟩ ⟨seq, gm.insert g { gf with state := .terminated }, ym, b₁⟩ := by
  refine settles_of_write hg rfl (fun hlive => absurd rfl hlive)
    (fun i c hi => free_farmAccount_of_transfer hd ht (.inl rfl) (.inr hwho) hi c)
    (fun k yf hk => .inl ⟨yf, hk⟩) (fun c => ?_)
  have h := rewardsDue_insertGlobal ym hg
    (show ({ gf with state := .terminated } : GlobalFarmData AssetId AccountId).rewardCurrency =
      gf.rewardCurrency from rfl) c
  -- the pot may be the owner, and only gain
  have hP := Tokens.free_transfer ht c cfg.potAccount
  have hne : ¬(c = gf.rewardCurrency ∧ cfg.potAccount = cfg.farmAccount g) :=
    fun h => hd.farmAccount_ne_pot g h.2.symm
  simp only [hne, if_false, pendingIn] at hP h
  split at hP <;> omega

end Steps

end Hydration.LiquidityMining
