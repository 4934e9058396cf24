import Hydration.Staking.Pallet

/-!
# Staking solvency

Over every run of the pallet's calls from a state before `initialize_staking`, once staking
is initialized:

* `total_stake` is the sum of the positions' stakes;
* the pot holds at least `pot_reserved_balance`;
* the reserve covers what every position is owed: its `calculate_rewards` and its unpaid
  rewards, summed over the positions.

So `update_rewards` never finds the pot short of its reserve, and the reserve never
underflows in `claim` and `unstake`.

The reserve is compared with what positions are owed exactly (`owedInner`, in inner units
of `FixedU128`), not with the rounded rewards. `update_rewards` reserves all the pending
rewards while the reward per stake grows by `pending / total_stake` rounded down, so the
exact owed grows by at most what is reserved; a payment is at most the exact owed,
because `calculate_rewards` rounds down and the payable percentage is at most one. The
rounded rewards of the positions then sum to at most the reserve.
-/

namespace Hydration.Staking

open Frame FixedPoint

variable {AssetId AccountId : Type}

/-! ## What positions are owed -/

/-- What a position is owed at the reward per stake `rps`, in inner units of `FixedU128`:
the growth since it settled times its stake, and its unpaid rewards. -/
def owedInner (rps : FixedU128) (p : Position) : Nat :=
  (rps.inner - p.rewardPerStake.inner) * p.stake + Math.unit * p.accumulatedUnpaidRewards

/-- What a position is owed as the code computes it: `calculate_rewards` of its stake, and its
unpaid rewards. -/
def rewardsOwed (rps : FixedU128) (p : Position) : Nat :=
  (Math.calculateRewards rps p.rewardPerStake p.stake).getD 0 + p.accumulatedUnpaidRewards

theorem unit_mul_rewardsOwed_le (rps : FixedU128) (p : Position) :
    Math.unit * rewardsOwed rps p ≤ owedInner rps p := by
  unfold rewardsOwed owedInner
  rw [Nat.mul_add]
  cases h : Math.calculateRewards rps p.rewardPerStake p.stake with
  | none => simp
  | some n =>
    have hn := Math.calculateRewards_mul_le h
    rw [Option.getD_some, Nat.mul_comm Math.unit n]
    omega

/-- A position behind the reward per stake is owed the growth on top. -/
theorem owedInner_grow {rps rps' : FixedU128} {p : Position}
    (hp : p.rewardPerStake.inner ≤ rps.inner) (h : rps.inner ≤ rps'.inner) :
    owedInner rps' p = owedInner rps p + (rps'.inner - rps.inner) * p.stake := by
  unfold owedInner
  have hsplit : rps'.inner - p.rewardPerStake.inner =
      (rps.inner - p.rewardPerStake.inner) + (rps'.inner - rps.inner) := by omega
  rw [hsplit, Nat.add_mul]
  omega

/-- A settled position is owed its unpaid rewards. -/
theorem owedInner_settled {rps : FixedU128} {p : Position} (h : p.rewardPerStake = rps) :
    owedInner rps p = Math.unit * p.accumulatedUnpaidRewards := by
  simp [owedInner, h]

/-! ## The runtime's side -/

/-- What the runtime's `PayablePercentage` satisfies: it never pays more than all. -/
def Config.PayableAtMostOne (cfg : Config AssetId AccountId) : Prop :=
  ∀ points pct, cfg.payablePercentage points = some pct → pct.inner ≤ Math.unit

/-- The period lengths are nonzero, so that periods are defined. -/
def Config.PeriodsDefined (cfg : Config AssetId AccountId) : Prop :=
  cfg.periodLength ≠ 0 ∧ cfg.sixSecBlocksSince ≠ 0

variable {cfg : Config AssetId AccountId}

/-- What `calculate_rewards` pays and keeps unpaid is at most what the position is owed. -/
theorem calculateRewards_covered (hpct : cfg.PayableAtMostOne) {p : Position} {rps : FixedU128}
    {currentPeriod createdAt r u : Nat} {pct : FixedU128}
    (h : calculateRewards cfg p rps currentPeriod createdAt = some (r, u, pct)) :
    Math.unit * (r + u) ≤ owedInner rps p := by
  simp only [calculateRewards, Option.bind_eq_bind, Option.bind_eq_some_iff] at h
  obtain ⟨n, hn, h⟩ := h
  have hmul := Math.calculateRewards_mul_le hn
  have hle : r + u ≤ n + p.accumulatedUnpaidRewards := by
    split at h
    · -- within the unclaimable periods everything is kept unpaid
      simp only [pure, Option.some.injEq, Prod.mk.injEq] at h
      obtain ⟨rfl, rfl, -⟩ := h
      unfold Word.saturatingAdd
      omega
    · simp only [Option.bind_eq_some_iff, pure, Option.some.injEq, Prod.mk.injEq] at h
      obtain ⟨points, -, pct', hpct', rfl, rfl, -⟩ := h
      have huser := Math.calculatePercentageAmount_le (hpct _ _ hpct')
        (Math.calculateTotalRewards n p.accumulatedLockedRewards p.accumulatedUnpaidRewards)
      have htotal := Math.calculateTotalRewards_sub_le n p.accumulatedLockedRewards
        p.accumulatedUnpaidRewards
      omega
  calc Math.unit * (r + u) ≤ Math.unit * (n + p.accumulatedUnpaidRewards) :=
        Nat.mul_le_mul_left _ hle
    _ = n * Math.unit + Math.unit * p.accumulatedUnpaidRewards := by
        rw [Nat.mul_add, Nat.mul_comm Math.unit n]
    _ ≤ owedInner rps p := by
        unfold owedInner
        omega

/-! ## The books of an initialized pallet -/

/-- The total stake is the positions' stakes, the pot holds its reserve, every position is
behind the reward per stake, and the reserve covers what the positions are owed. -/
structure Solvent (cfg : Config AssetId AccountId) (positions : StorageMap Nat Position)
    (b : Balances AssetId AccountId) (d : StakingData) : Prop where
  totalStake : d.totalStake = StorageMap.sumBy (fun _ p => p.stake) positions
  funded : d.potReservedBalance ≤ b.free cfg.nativeAssetId cfg.potAccount
  behind : ∀ id p, positions.lookup id = some p →
    p.rewardPerStake.inner ≤ d.accumulatedRewardPerStake.inner
  covered : StorageMap.sumBy (fun _ p => owedInner d.accumulatedRewardPerStake p) positions ≤
    Math.unit * d.potReservedBalance

variable {ps : StorageMap Nat Position} {b b' : Balances AssetId AccountId} {d d' : StakingData}

/-- The rounded rewards of the positions sum to at most the reserve. -/
theorem Solvent.rewardsOwed_le (h : Solvent cfg ps b d) :
    StorageMap.sumBy (fun _ p => rewardsOwed d.accumulatedRewardPerStake p) ps ≤
      d.potReservedBalance := by
  have hle : Math.unit * StorageMap.sumBy (fun _ p => rewardsOwed d.accumulatedRewardPerStake p) ps ≤
      Math.unit * d.potReservedBalance := by
    rw [← StorageMap.sumBy_mul]
    exact le_trans (StorageMap.sumBy_le_sumBy _ fun _ p _ => unit_mul_rewardsOwed_le _ p) h.covered
  exact Nat.le_of_mul_le_mul_left hle (by decide)

/-- One position's owed rewards are within the reserve. -/
theorem Solvent.owedInner_le (h : Solvent cfg ps b d) {id : Nat} {p : Position}
    (hp : ps.lookup id = some p) :
    owedInner d.accumulatedRewardPerStake p ≤ Math.unit * d.potReservedBalance :=
  le_trans (StorageMap.le_sumBy (fun _ p => owedInner d.accumulatedRewardPerStake p) hp) h.covered

/-- Every position's `calculate_rewards` succeeds while the pot's balance is a `u128`. -/
theorem Solvent.calculateRewards_isSome (h : Solvent cfg ps b d)
    (hb : b.free cfg.nativeAssetId cfg.potAccount ≤ Word.max 128) {id : Nat} {p : Position}
    (hp : ps.lookup id = some p) :
    (Math.calculateRewards d.accumulatedRewardPerStake p.rewardPerStake p.stake).isSome := by
  have hown := h.owedInner_le hp
  have hfit : (d.accumulatedRewardPerStake.inner - p.rewardPerStake.inner) * p.stake / Math.unit ≤
      Word.max 128 := by
    apply le_trans (Nat.div_le_of_le_mul _) (le_trans h.funded hb)
    unfold owedInner at hown
    omega
  rw [Math.calculateRewards_of_le (h.behind id p hp) hfit]
  rfl

/-- `update_rewards` keeps the books: it reserves all it distributes. -/
theorem Solvent.updateRewards (h : Solvent cfg ps b d) (hu : updateRewards cfg b d = .ok d') :
    Solvent cfg ps b d' := by
  unfold Hydration.Staking.updateRewards at hu
  split at hu
  · simp only [pure, Except.pure, Except.ok.injEq] at hu
    exact hu ▸ h
  simp only [bind_eq_ok, okOr_eq_ok, Word.checkedSub_eq_some] at hu
  obtain ⟨pending, ⟨-, hpending⟩, hu⟩ := hu
  split at hu
  · simp only [pure, Except.pure, Except.ok.injEq] at hu
    exact hu ▸ h
  simp only [bind_eq_ok, okOr_eq_ok] at hu
  obtain ⟨rps', hrps, hu⟩ := hu
  split at hu
  · simp only [pure, Except.pure, Except.ok.injEq] at hu
    exact hu ▸ h
  simp only [bind_eq_ok, okOr_eq_ok, Word.checkedAdd_eq_some, pure, Except.pure,
    Except.ok.injEq] at hu
  obtain ⟨reserved, ⟨-, hreserved⟩, rfl⟩ := hu
  obtain ⟨hge, hgrowth⟩ := Math.calculateAccumulatedRps_growth hrps
  -- the owed rewards grow by the growth times the total stake, within what is reserved
  have hsum : StorageMap.sumBy (fun _ p => owedInner rps' p) ps =
      StorageMap.sumBy (fun _ p => owedInner d.accumulatedRewardPerStake p) ps +
        (rps'.inner - d.accumulatedRewardPerStake.inner) * d.totalStake := by
    rw [StorageMap.sumBy_congr _ fun id p hp => owedInner_grow (h.behind id p hp) hge,
      StorageMap.sumBy_add, StorageMap.sumBy_mul, h.totalStake]
  refine ⟨h.totalStake, ?_, fun id p hp => le_trans (h.behind id p hp) hge, ?_⟩
  · dsimp only
    omega
  · dsimp only
    rw [hsum, ← hreserved, Nat.mul_add]
    have hcov := h.covered
    rw [Nat.mul_comm pending] at hgrowth
    omega

/-- A position settled at the reward per stake: it is paid `paid` out of the `released` the
reserve gives up, keeps its unpaid rewards and may grow by `added`. -/
theorem Solvent.settle (h : Solvent cfg ps b d) {id : Nat} {p p' : Position}
    (hp : ps.lookup id = some p) (hrps : p'.rewardPerStake = d.accumulatedRewardPerStake)
    {added paid released : Nat} (hstake : p'.stake = p.stake + added)
    (hcover : Math.unit * (released + p'.accumulatedUnpaidRewards) ≤
      owedInner d.accumulatedRewardPerStake p)
    (hpaid : paid ≤ released)
    (hb : b.free cfg.nativeAssetId cfg.potAccount ≤ b'.free cfg.nativeAssetId cfg.potAccount + paid)
    (hd'rps : d'.accumulatedRewardPerStake = d.accumulatedRewardPerStake)
    (hd'total : d'.totalStake = d.totalStake + added)
    (hd'reserved : d'.potReservedBalance + released = d.potReservedBalance) :
    Solvent cfg (ps.insert id p') b' d' := by
  have hstakes := StorageMap.sumBy_insert_add (fun _ p => p.stake) ps id p'
  have howed := StorageMap.sumBy_insert_add (fun _ p => owedInner d.accumulatedRewardPerStake p)
    ps id p'
  rw [StorageMap.at?_of_lookup _ hp] at hstakes howed
  refine ⟨?_, ?_, fun i q hq => ?_, ?_⟩
  · have := h.totalStake
    omega
  · have := h.funded
    omega
  · rw [hd'rps]
    rcases StorageMap.lookup_insert_eq_some hq with ⟨-, rfl⟩ | ⟨-, hq⟩
    · rw [hrps]
    · exact h.behind i q hq
  · rw [hd'rps]
    rw [owedInner_settled hrps] at howed
    rw [Nat.mul_add] at hcover
    have hcov := h.covered
    have hres : Math.unit * d.potReservedBalance =
        Math.unit * d'.potReservedBalance + Math.unit * released := by
      rw [← hd'reserved, Nat.mul_add]
    omega

/-- A position removed, the reserve giving up `released` of what it was owed. -/
theorem Solvent.remove (h : Solvent cfg ps b d) {id : Nat} {p : Position}
    (hp : ps.lookup id = some p) {paid released : Nat}
    (hcover : Math.unit * released ≤ owedInner d.accumulatedRewardPerStake p)
    (hpaid : paid ≤ released)
    (hb : b.free cfg.nativeAssetId cfg.potAccount ≤ b'.free cfg.nativeAssetId cfg.potAccount + paid)
    (hd'rps : d'.accumulatedRewardPerStake = d.accumulatedRewardPerStake)
    (hd'total : d'.totalStake + p.stake = d.totalStake)
    (hd'reserved : d'.potReservedBalance + released = d.potReservedBalance) :
    Solvent cfg (ps.erase id) b' d' := by
  have hstakes := StorageMap.sumBy_erase_of_lookup (fun _ p => p.stake) hp
  have howed := StorageMap.sumBy_erase_of_lookup
    (fun _ p => owedInner d.accumulatedRewardPerStake p) hp
  refine ⟨?_, ?_, fun i q hq => ?_, ?_⟩
  · have := h.totalStake
    omega
  · have := h.funded
    omega
  · rw [hd'rps]
    exact h.behind i q (StorageMap.lookup_erase_eq_some hq).2
  · rw [hd'rps]
    have hcov := h.covered
    have hres : Math.unit * d.potReservedBalance =
        Math.unit * d'.potReservedBalance + Math.unit * released := by
      rw [← hd'reserved, Nat.mul_add]
    omega

/-- A new position at the reward per stake is owed nothing. -/
theorem Solvent.open (h : Solvent cfg ps b d) {id : Nat} (hid : ps.lookup id = none)
    (amount createdAt : Nat)
    (hd'rps : d'.accumulatedRewardPerStake = d.accumulatedRewardPerStake)
    (hd'total : d'.totalStake = d.totalStake + amount)
    (hd'reserved : d'.potReservedBalance = d.potReservedBalance) :
    Solvent cfg (ps.insert id (Position.new amount d.accumulatedRewardPerStake createdAt)) b d' := by
  have hstakes := StorageMap.sumBy_insert_of_lookup_none (fun _ p => p.stake)
    (Position.new amount d.accumulatedRewardPerStake createdAt) hid
  have howed := StorageMap.sumBy_insert_of_lookup_none
    (fun _ p => owedInner d.accumulatedRewardPerStake p)
    (Position.new amount d.accumulatedRewardPerStake createdAt) hid
  have hnew : owedInner d.accumulatedRewardPerStake
      (Position.new amount d.accumulatedRewardPerStake createdAt) = 0 := by
    simp [owedInner, Position.new]
  rw [hnew] at howed
  refine ⟨?_, ?_, fun i q hq => ?_, ?_⟩
  · rw [hd'total, h.totalStake, hstakes]
    rfl
  · rw [hd'reserved]
    exact h.funded
  · rw [hd'rps]
    rcases StorageMap.lookup_insert_eq_some hq with ⟨-, rfl⟩ | ⟨-, hq⟩
    · exact le_rfl
    · exact h.behind i q hq
  · rw [hd'rps, hd'reserved, howed]
    exact h.covered

/-- More in the pot keeps the books. -/
theorem Solvent.deposit (h : Solvent cfg ps b d)
    (hb : b.free cfg.nativeAssetId cfg.potAccount ≤ b'.free cfg.nativeAssetId cfg.potAccount) :
    Solvent cfg ps b' d :=
  ⟨h.totalStake, le_trans h.funded hb, h.behind, h.covered⟩

/-! ## Each call keeps the books -/

section Calls

variable [DecidableEq AssetId] [DecidableEq AccountId]

/-- A payment from the pot takes at most the amount from it, and adds nothing. -/
theorem payFromPot_pot {who : AccountId} {amount : Nat} (h : payFromPot cfg b who amount = .ok b') :
    b.free cfg.nativeAssetId cfg.potAccount ≤ b'.free cfg.nativeAssetId cfg.potAccount + amount ∧
      b'.free cfg.nativeAssetId cfg.potAccount ≤ b.free cfg.nativeAssetId cfg.potAccount := by
  unfold payFromPot at h
  split at h
  · simp only [pure, Except.pure, Except.ok.injEq] at h
    subst h
    omega
  · have ht := okOr_eq_ok.mp h
    exact ⟨Tokens.free_le_free_transfer_add ht _ _, Tokens.free_transfer_src_le ht⟩

theorem payAndLockRewards_pot {who : AccountId} {locked rewards l : Nat}
    (h : payAndLockRewards cfg b who locked rewards = .ok (b', l)) :
    payFromPot cfg b who rewards = .ok b' := by
  unfold payAndLockRewards at h
  unfold payFromPot
  split at h
  · rename_i h0
    simp only [pure, Except.pure, Except.ok.injEq, Prod.mk.injEq] at h
    rw [if_pos h0, h.1]
    rfl
  · rename_i h0
    simp only [bind_eq_ok, okOr_eq_ok, pure, Except.pure, Except.ok.injEq, Prod.mk.injEq] at h
    obtain ⟨b₁, hb₁, l₁, -, rfl, -⟩ := h
    rw [if_neg h0, hb₁]

omit [DecidableEq AssetId] [DecidableEq AccountId] in
theorem createPositionAndMintNft_spec {s s' : State AssetId AccountId} {who : AccountId}
    {amount id : Nat} {rps : FixedU128} (h : createPositionAndMintNft s who amount rps = .ok (s', id)) :
    id = s.nextPositionId ∧ s'.nextPositionId = s.nextPositionId + 1 ∧
      s'.positions = s.positions.insert id (Position.new amount rps s.blockNumber) ∧
      s'.staking = s.staking ∧ s'.balances = s.balances := by
  simp only [createPositionAndMintNft, bind_eq_ok, okOr_eq_ok, ensure_eq_ok,
    Word.checkedAdd_eq_some, pure, Except.pure, Except.ok.injEq, Prod.mk.injEq] at h
  obtain ⟨next, ⟨-, rfl⟩, -, -, rfl, rfl⟩ := h
  exact ⟨rfl, rfl, rfl, rfl, rfl⟩

omit [DecidableEq AssetId] [DecidableEq AccountId] in
theorem StakingData.addStake_spec {amount : Nat} (h : d.addStake amount = .ok d') :
    d'.totalStake = d.totalStake + amount ∧
      d'.accumulatedRewardPerStake = d.accumulatedRewardPerStake ∧
      d'.potReservedBalance = d.potReservedBalance := by
  simp only [StakingData.addStake, bind_eq_ok, okOr_eq_ok, Word.checkedAdd_eq_some, pure,
    Except.pure, Except.ok.injEq] at h
  obtain ⟨t, ⟨-, rfl⟩, rfl⟩ := h
  exact ⟨rfl, rfl, rfl⟩

/-- The invariant of every reachable state: fresh position ids, the pot's balance a `u128`,
no position before initialization, and solvent books after. -/
structure Inv (cfg : Config AssetId AccountId) (s : State AssetId AccountId) : Prop where
  fresh : ∀ id p, s.positions.lookup id = some p → id < s.nextPositionId
  potBounded : s.balances.free cfg.nativeAssetId cfg.potAccount ≤ Word.max 128
  uninitialized : s.staking = none → s.positions = ∅
  solvent : ∀ d, s.staking = some d → Solvent cfg s.positions s.balances d

/-- A state before `initialize_staking`: no position, and the pot's balance a `u128`. -/
def Genesis (cfg : Config AssetId AccountId) (s : State AssetId AccountId) : Prop :=
  s.staking = none ∧ s.positions = ∅ ∧ s.balances.free cfg.nativeAssetId cfg.potAccount ≤ Word.max 128

variable {s s' : State AssetId AccountId}

omit [DecidableEq AssetId] [DecidableEq AccountId] in
theorem Inv.genesis (h : Genesis cfg s) : Inv cfg s := by
  obtain ⟨hst, hps, hb⟩ := h
  refine ⟨fun id p hp => ?_, hb, fun _ => hps, fun d hd => ?_⟩
  · simp [hps] at hp
  · rw [hst] at hd
    cases hd

omit [DecidableEq AssetId] [DecidableEq AccountId] in
theorem initializeStaking_inv {who : AccountId} (hI : Inv cfg s)
    (h : initializeStaking cfg s who = .ok s') : Inv cfg s' := by
  simp only [initializeStaking, bind_eq_ok, ensure_eq_ok, pure, Except.pure,
    Except.ok.injEq] at h
  obtain ⟨-, -, -, hnone, -, -, rfl⟩ := h
  have hps := hI.uninitialized hnone
  refine ⟨hI.fresh, hI.potBounded, (fun h => by cases h), fun d hd => ?_⟩
  simp only [Option.some.injEq] at hd
  subst hd
  refine ⟨?_, le_rfl, fun id p hp => ?_, ?_⟩
  · simp [hps]
  · simp [hps] at hp
  · simp [hps]

omit [DecidableEq AssetId] in
theorem stake_inv {who : AccountId} {amount : Nat} (hI : Inv cfg s)
    (h : stake cfg s who amount = .ok s') : Inv cfg s' := by
  simp only [stake, bind_eq_ok, okOr_eq_ok, ensure_eq_ok, pure, Except.pure,
    Except.ok.injEq] at h
  obtain ⟨-, -, d, hd, -, -, -, -, d₁, hupd, -, -, ⟨s₁, id⟩, hcreate, d₂, hadd, rfl⟩ := h
  obtain ⟨rfl, hnext, hps, hst, hbal⟩ := createPositionAndMintNft_spec hcreate
  obtain ⟨htotal, hrps, hres⟩ := StakingData.addStake_spec hadd
  dsimp only
  -- the new id is past every stored one
  have hid : s.positions.lookup s.nextPositionId = none := by
    cases hlook : s.positions.lookup s.nextPositionId with
    | none => rfl
    | some p => exact absurd (hI.fresh _ p hlook) (lt_irrefl _)
  refine ⟨fun i p hp => ?_, hbal ▸ hI.potBounded, (fun h => by cases h), fun d' hd' => ?_⟩
  · rw [hps] at hp
    show i < s₁.nextPositionId
    rw [hnext]
    rcases StorageMap.lookup_insert_eq_some hp with ⟨rfl, -⟩ | ⟨-, hp⟩
    · omega
    · have := hI.fresh i p hp
      omega
  · simp only [Option.some.injEq] at hd'
    subst hd'
    rw [hps, hbal]
    exact ((hI.solvent d hd).updateRewards hupd).open hid amount s.blockNumber hrps htotal hres

theorem increaseStake_inv (hpct : cfg.PayableAtMostOne) {who : AccountId} {id amount : Nat}
    (hI : Inv cfg s) (h : increaseStake cfg s who id amount = .ok s') : Inv cfg s' := by
  simp only [increaseStake, bind_eq_ok, okOr_eq_ok, ensure_eq_ok, pure, Except.pure,
    Except.ok.injEq, Word.checkedAdd_eq_some, Word.checkedSub_eq_some] at h
  obtain ⟨-, -, d, hd, -, -, d₁, hupd, p, hp, -, -, cur, -, cr, -, ⟨r, u, pct⟩, hcalc, ⟨b', l⟩,
    hlock, pts, -, sl, -, asp, -, ns, ⟨-, hns⟩, res, ⟨hr, hres⟩, d₂, hadd, -, -, rfl⟩ := h
  obtain ⟨htotal, hrps, hreserved⟩ := StakingData.addStake_spec hadd
  obtain ⟨hpaid, hless⟩ := payFromPot_pot (payAndLockRewards_pot hlock)
  refine ⟨fun i q hq => ?_, le_trans hless hI.potBounded, (fun h => by cases h), fun d' hd' => ?_⟩
  · rcases StorageMap.lookup_insert_eq_some hq with ⟨rfl, -⟩ | ⟨-, hq⟩
    · exact hI.fresh i p hp
    · exact hI.fresh i q hq
  · simp only [Option.some.injEq] at hd'
    subst hd'
    refine ((hI.solvent d hd).updateRewards hupd).settle hp rfl hns.symm
      (calculateRewards_covered hpct hcalc) le_rfl hpaid hrps htotal ?_
    dsimp only at hreserved
    omega

theorem claim_inv (hpct : cfg.PayableAtMostOne) {who : AccountId} {id : Nat}
    (hI : Inv cfg s) (h : claim cfg s who id = .ok s') : Inv cfg s' := by
  simp only [claim, bind_eq_ok, okOr_eq_ok, ensure_eq_ok, pure, Except.pure,
    Except.ok.injEq, Word.checkedAdd_eq_some, Word.checkedSub_eq_some] at h
  obtain ⟨d, hd, -, -, d₁, hupd, p, hp, cur, -, cr, -, ⟨r, u, pct⟩, hcalc, b', hpay,
    pts, -, asp, -, -, -, res, ⟨hr, hres⟩, res', ⟨hslashed, hres'⟩, rfl⟩ := h
  obtain ⟨hpaid, hless⟩ := payFromPot_pot hpay
  have hcover := calculateRewards_covered hpct hcalc
  dsimp only at hslashed hres'
  refine ⟨fun i q hq => ?_, le_trans hless hI.potBounded, (fun h => by cases h), fun d' hd' => ?_⟩
  · rcases StorageMap.lookup_insert_eq_some hq with ⟨rfl, -⟩ | ⟨-, hq⟩
    · exact hI.fresh i p hp
    · exact hI.fresh i q hq
  · simp only [Option.some.injEq] at hd'
    subst hd'
    -- past the unclaimable periods the unpaid rewards are released with the payment
    refine ((hI.solvent d hd).updateRewards hupd).settle hp rfl (Nat.add_zero _).symm ?_
      (Nat.le_add_right r (if cfg.unclaimablePeriods < cur - cr then u else 0)) hpaid rfl
      (Nat.add_zero _).symm (by dsimp only; omega)
    split <;> simpa using hcover

theorem unstake_inv (hpct : cfg.PayableAtMostOne) {who : AccountId} {id : Nat}
    (hI : Inv cfg s) (h : unstake cfg s who id = .ok s') : Inv cfg s' := by
  simp only [unstake, bind_eq_ok, okOr_eq_ok, ensure_eq_ok, pure, Except.pure,
    Except.ok.injEq, Word.checkedSub_eq_some] at h
  obtain ⟨d, hd, -, -, d₁, hupd, p, hp, cur, -, cr, -, ⟨r, u, pct⟩, hcalc, b', hpay,
    total, ⟨hst, htotal⟩, res, ⟨hr, hres⟩, res', ⟨hu, hres'⟩, owners, -, -, -, rfl⟩ := h
  obtain ⟨hpaid, hless⟩ := payFromPot_pot hpay
  dsimp only at hu hres'
  refine ⟨fun i q hq => hI.fresh i q (StorageMap.lookup_erase_eq_some hq).2,
    le_trans hless hI.potBounded, (fun h => by cases h), fun d' hd' => ?_⟩
  simp only [Option.some.injEq] at hd'
  subst hd'
  exact ((hI.solvent d hd).updateRewards hupd).remove hp (calculateRewards_covered hpct hcalc)
    (Nat.le_add_right r u) hpaid rfl (by dsimp only; omega) (by dsimp only; omega)

theorem forceUnstake_inv {who : AccountId} {r : State AssetId AccountId × Nat}
    (hI : Inv cfg s) (h : forceUnstake cfg s who = .ok r) : Inv cfg r.1 := by
  simp only [forceUnstake, bind_eq_ok, okOr_eq_ok, pure, Except.pure,
    Except.ok.injEq, Word.checkedAdd_eq_some, Word.checkedSub_eq_some] at h
  obtain ⟨d, hd, o, -, id, rfl, d₁, hupd, p, hp, n, hn, paid, ⟨-, hpaidEq⟩, b', hpay,
    total, ⟨hst, htotal⟩, res, ⟨hr, hres⟩, owners, -, -, -, rfl⟩ := h
  obtain ⟨hpaid, hless⟩ := payFromPot_pot hpay
  -- everything accrued is paid, which is at most what the position is owed
  have hcover : Math.unit * paid ≤ owedInner d₁.accumulatedRewardPerStake p := by
    have hmul := Math.calculateRewards_mul_le hn
    unfold owedInner
    rw [← hpaidEq, Nat.mul_add, Nat.mul_comm Math.unit n]
    omega
  refine ⟨fun i q hq => hI.fresh i q (StorageMap.lookup_erase_eq_some hq).2,
    le_trans hless hI.potBounded, (fun h => by cases h), fun d' hd' => ?_⟩
  simp only [Option.some.injEq] at hd'
  subst hd'
  exact ((hI.solvent d hd).updateRewards hupd).remove hp hcover le_rfl hpaid rfl
    (by dsimp only; omega) (by dsimp only; omega)

theorem processTradeFee_inv {source : AccountId} {asset : AssetId} {amount : Nat}
    {r : State AssetId AccountId × Option (Nat × AccountId)}
    (hI : Inv cfg s) (h : processTradeFee cfg s source asset amount = .ok r) : Inv cfg r.1 := by
  unfold processTradeFee at h
  split at h
  · rename_i hnative
    simp only [bind_eq_ok, okOr_eq_ok, ensure_eq_ok, currencyTransfer, pure, Except.pure,
      Except.ok.injEq] at h
    obtain ⟨b', ht, -, -, rfl⟩ := h
    rw [hnative.1] at ht
    refine ⟨hI.fresh, Tokens.free_transfer_le_max ht hI.potBounded, hI.uninitialized,
      fun d hd => (hI.solvent d hd).deposit (Tokens.free_dst_le_free_transfer ht)⟩
  · simp only [pure, Except.pure, Except.ok.injEq] at h
    exact h ▸ hI

/-- Every call keeps the invariant. -/
theorem Inv.step (hpct : cfg.PayableAtMostOne) {c : Call AssetId AccountId} (hI : Inv cfg s)
    (h : step cfg c s = .ok s') : Inv cfg s' := by
  cases c with
  | initializeStaking => exact initializeStaking_inv hI h
  | stake => exact stake_inv hI h
  | increaseStake => exact increaseStake_inv hpct hI h
  | claim => exact claim_inv hpct hI h
  | unstake => exact unstake_inv hpct hI h
  | forceUnstake =>
    obtain ⟨r, hr, rfl⟩ := Frame.map_eq_ok.mp h
    exact forceUnstake_inv hI hr
  | processTradeFee =>
    obtain ⟨r, hr, rfl⟩ := Frame.map_eq_ok.mp h
    exact processTradeFee_inv hI hr
  | advanceBlocks n =>
    simp only [Hydration.Staking.step, Except.ok.injEq] at h
    subst h
    exact ⟨hI.fresh, hI.potBounded, hI.uninitialized, hI.solvent⟩

theorem reachable_inv (hpct : cfg.PayableAtMostOne)
    (hs : Frame.Reachable (Genesis cfg) (step cfg) s) : Inv cfg s := by
  induction hs with
  | init h => exact Inv.genesis h
  | step c _ h ih => exact ih.step hpct h

end Calls

/-! ## No defensive error -/

section Avoids

variable [DecidableEq AssetId] [DecidableEq AccountId]

omit [DecidableEq AssetId] [DecidableEq AccountId] in
theorem getPeriodNumber_isSome (hper : cfg.PeriodsDefined) (block : Nat) :
    (getPeriodNumber cfg block).isSome := by
  simp [getPeriodNumber, hper.1, hper.2]

omit [DecidableEq AssetId] [DecidableEq AccountId] in
/-- `update_rewards` never reports an inconsistent arithmetic. -/
theorem updateRewards_avoids (b : Balances AssetId AccountId) (d : StakingData) :
    Avoids (.inconsistentState .arithmetic) (updateRewards cfg b d) := by
  unfold Hydration.Staking.updateRewards
  split
  · exact avoids_pure _
  refine avoids_bind (avoids_okOr (.inl (by decide))) fun pending _ => ?_
  split
  · exact avoids_pure _
  refine avoids_bind (avoids_okOr (.inl (by decide))) fun rps _ => ?_
  split
  · exact avoids_pure _
  exact avoids_bind (avoids_okOr (.inl (by decide))) fun _ _ => avoids_pure _

omit [DecidableEq AssetId] [DecidableEq AccountId] in
/-- With the pot holding its reserve, `update_rewards` never finds negative pending rewards. -/
theorem Solvent.avoids_negativePendingRewards (h : Solvent cfg ps b d) :
    Avoids (.inconsistentState .negativePendingRewards) (Hydration.Staking.updateRewards cfg b d) := by
  unfold Hydration.Staking.updateRewards
  split
  · exact avoids_pure _
  refine avoids_bind (avoids_okOr (.inr ?_)) fun pending _ => ?_
  · simp [Word.checkedSub, h.funded]
  split
  · exact avoids_pure _
  refine avoids_bind (avoids_okOr (.inl (by decide))) fun rps _ => ?_
  split
  · exact avoids_pure _
  exact avoids_bind (avoids_okOr (.inl (by decide))) fun _ _ => avoids_pure _

theorem payFromPot_avoids (who : AccountId) (amount : Nat) (e : InconsistentStateError) :
    Avoids (.inconsistentState e) (payFromPot cfg b who amount) := by
  unfold payFromPot currencyTransfer
  split
  · exact avoids_pure _
  · exact avoids_okOr (.inl (by simp))

omit [DecidableEq AssetId] [DecidableEq AccountId] in
/-- The reserve can give up what a position is paid and released. -/
theorem Solvent.reserve_covers (hpct : cfg.PayableAtMostOne) (h : Solvent cfg ps b d) {id : Nat}
    {p : Position} (hp : ps.lookup id = some p) {currentPeriod createdAt r u : Nat} {pct : FixedU128}
    (hcalc : calculateRewards cfg p d.accumulatedRewardPerStake currentPeriod createdAt =
      some (r, u, pct)) :
    r + u ≤ d.potReservedBalance :=
  Nat.le_of_mul_le_mul_left (le_trans (calculateRewards_covered hpct hcalc) (h.owedInner_le hp))
    (by decide)

/-- `claim` never underflows the reserve: it never fails with `InconsistentState(Arithmetic)`. -/
theorem claim_avoids (hpct : cfg.PayableAtMostOne) (hper : cfg.PeriodsDefined)
    {s : State AssetId AccountId} (hI : Inv cfg s) (who : AccountId) (id : Nat) :
    Avoids (.inconsistentState .arithmetic) (claim cfg s who id) := by
  unfold claim
  refine avoids_bind (avoids_okOr (.inl (by decide))) fun d hd => ?_
  refine avoids_bind (avoids_ensure (by decide)) fun _ _ => ?_
  refine avoids_bind (updateRewards_avoids _ _) fun d₁ hupd => ?_
  have hsol := (hI.solvent d (okOr_eq_ok.mp hd)).updateRewards hupd
  refine avoids_bind (avoids_okOr (.inl (by decide))) fun p hp => ?_
  refine avoids_bind (avoids_okOr (.inr (getPeriodNumber_isSome hper _))) fun cur _ => ?_
  refine avoids_bind (avoids_okOr (.inr (getPeriodNumber_isSome hper _))) fun cr _ => ?_
  refine avoids_bind (avoids_okOr (.inl (by decide))) fun x hcalc => ?_
  obtain ⟨r, u, pct⟩ := x
  have hle := hsol.reserve_covers hpct (okOr_eq_ok.mp hp) (okOr_eq_ok.mp hcalc)
  refine avoids_bind (payFromPot_avoids _ _ _) fun b' _ => ?_
  refine avoids_bind (avoids_okOr (.inl (by decide))) fun pts _ => ?_
  refine avoids_bind (avoids_okOr (.inl (by decide))) fun asp _ => ?_
  refine avoids_bind (avoids_okOr (.inl (by decide))) fun _ _ => ?_
  -- both subtractions from the reserve succeed
  refine avoids_bind (avoids_okOr (.inr (by simp [Word.checkedSub]; omega))) fun res hres => ?_
  obtain ⟨-, rfl⟩ := Word.checkedSub_eq_some.mp (okOr_eq_ok.mp hres)
  refine avoids_bind (avoids_okOr (.inr ?_)) fun _ _ => avoids_pure _
  -- past the unclaimable periods the unpaid rewards are released too
  split
  · have hu : u ≤ d₁.potReservedBalance - r := by omega
    simp [Word.checkedSub, hu]
  · simp [Word.checkedSub]

/-- `unstake` never underflows the total stake or the reserve. -/
theorem unstake_avoids (hpct : cfg.PayableAtMostOne) (hper : cfg.PeriodsDefined)
    {s : State AssetId AccountId} (hI : Inv cfg s) (who : AccountId) (id : Nat) :
    Avoids (.inconsistentState .arithmetic) (unstake cfg s who id) := by
  unfold unstake
  refine avoids_bind (avoids_okOr (.inl (by decide))) fun d hd => ?_
  refine avoids_bind (avoids_ensure (by decide)) fun _ _ => ?_
  refine avoids_bind (updateRewards_avoids _ _) fun d₁ hupd => ?_
  have hsol := (hI.solvent d (okOr_eq_ok.mp hd)).updateRewards hupd
  refine avoids_bind (avoids_okOr (.inl (by decide))) fun p hp => ?_
  refine avoids_bind (avoids_okOr (.inr (getPeriodNumber_isSome hper _))) fun cur _ => ?_
  refine avoids_bind (avoids_okOr (.inr (getPeriodNumber_isSome hper _))) fun cr _ => ?_
  refine avoids_bind (avoids_okOr (.inl (by decide))) fun x hcalc => ?_
  obtain ⟨r, u, pct⟩ := x
  have hle := hsol.reserve_covers hpct (okOr_eq_ok.mp hp) (okOr_eq_ok.mp hcalc)
  -- the position's stake is part of the total
  have hstake : p.stake ≤ d₁.totalStake := by
    rw [hsol.totalStake]
    exact StorageMap.le_sumBy (fun _ p => p.stake) (okOr_eq_ok.mp hp)
  refine avoids_bind (payFromPot_avoids _ _ _) fun b' _ => ?_
  refine avoids_bind (avoids_okOr (.inr (by simp [Word.checkedSub, hstake]))) fun _ _ => ?_
  refine avoids_bind (avoids_okOr (.inr (by simp [Word.checkedSub]; omega))) fun res hres => ?_
  obtain ⟨-, rfl⟩ := Word.checkedSub_eq_some.mp (okOr_eq_ok.mp hres)
  refine avoids_bind (avoids_okOr (.inr (by simp [Word.checkedSub]; omega))) fun _ _ => ?_
  refine avoids_bind (avoids_bind (avoids_ensure (by decide)) fun _ _ => avoids_pure _) fun _ _ => ?_
  exact avoids_bind (avoids_okOr (.inl (by decide))) fun _ _ => avoids_pure _

end Avoids

/-! ## Every reachable state -/

variable [DecidableEq AssetId] [DecidableEq AccountId] {s : State AssetId AccountId}

theorem staking_solvent (hpct : cfg.PayableAtMostOne) (hper : cfg.PeriodsDefined)
    (hs : Frame.Reachable (Genesis cfg) (step cfg) s) {d : StakingData}
    (hd : s.staking = some d) :
    d.totalStake = StorageMap.sumBy (fun _ p => p.stake) s.positions ∧
    d.potReservedBalance ≤ s.balances.free cfg.nativeAssetId cfg.potAccount ∧
    (∀ id p, s.positions.lookup id = some p →
      (Math.calculateRewards d.accumulatedRewardPerStake p.rewardPerStake p.stake).isSome) ∧
    StorageMap.sumBy (fun _ p => rewardsOwed d.accumulatedRewardPerStake p) s.positions ≤
      d.potReservedBalance ∧
    updateRewards cfg s.balances d ≠ .error (.inconsistentState .negativePendingRewards) ∧
    ∀ who id, claim cfg s who id ≠ .error (.inconsistentState .arithmetic) ∧
      unstake cfg s who id ≠ .error (.inconsistentState .arithmetic) := by
  have hI := reachable_inv hpct hs
  have hsol := hI.solvent d hd
  exact ⟨hsol.totalStake, hsol.funded, fun id p hp => hsol.calculateRewards_isSome hI.potBounded hp,
    hsol.rewardsOwed_le, hsol.avoids_negativePendingRewards,
    fun who id => ⟨claim_avoids hpct hper hI who id, unstake_avoids hpct hper hI who id⟩⟩

/-! ## The example runtime -/

theorem exampleConfig_payableAtMostOne : exampleConfig.PayableAtMostOne :=
  fun _ _ h => Math.sigmoid_le_one h

theorem exampleConfig_periodsDefined : exampleConfig.PeriodsDefined :=
  ⟨by decide, by decide⟩

theorem exampleGenesis_genesis : Genesis exampleConfig exampleGenesis :=
  ⟨rfl, rfl, by decide⟩

/-- Two stakers over five days: fees paid into the pot twice, a claim, a stake increase that
pays and locks rewards, and an unstake. -/
def stakingRun : List (Call Nat Nat) :=
  [.initializeStaking 1, .stake 4 1000000000000000, .processTradeFee 5 0 1000000000000,
   .advanceBlocks 21600, .stake 6 1500000000000000, .processTradeFee 5 0 3000000000000,
   .advanceBlocks 14400, .claim 4 0, .increaseStake 6 1 1000000000000000, .unstake 4 0]

def stakingState : State Nat Nat := Frame.run (step exampleConfig) stakingRun exampleGenesis

theorem staking_solvent_stakingRun :
    ∃ d, stakingState.staking = some d ∧
      d.totalStake = StorageMap.sumBy (fun _ p => p.stake) stakingState.positions ∧
      d.potReservedBalance ≤ stakingState.balances.free exampleConfig.nativeAssetId
        exampleConfig.potAccount ∧
      (∀ id p, stakingState.positions.lookup id = some p →
        (Math.calculateRewards d.accumulatedRewardPerStake p.rewardPerStake p.stake).isSome) ∧
      StorageMap.sumBy (fun _ p => rewardsOwed d.accumulatedRewardPerStake p) stakingState.positions ≤
        d.potReservedBalance ∧
      updateRewards exampleConfig stakingState.balances d ≠
        .error (.inconsistentState .negativePendingRewards) ∧
      ∀ who id, claim exampleConfig stakingState who id ≠ .error (.inconsistentState .arithmetic) ∧
        unstake exampleConfig stakingState who id ≠ .error (.inconsistentState .arithmetic) := by
  have hd : stakingState.staking =
      some ⟨2500000000000000, ⟨3079999956000400, by decide⟩, 4119999930008⟩ := by
    decide +kernel
  exact ⟨_, hd, staking_solvent exampleConfig_payableAtMostOne exampleConfig_periodsDefined
    (Frame.reachable_run stakingRun (.init exampleGenesis_genesis)) hd⟩

end Hydration.Staking
