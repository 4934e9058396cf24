import Hydration.LiquidityMining.Books

/-!
# Loyalty: what a farm entry may claim never shrinks

`claim_rewards` pays a farm entry `claimable - accumulated_claimed_rewards`, where
`claimable` is the loyalty multiplier of the entry's farming periods applied to what the entry
earned since it entered, `(rpvs_now - rpvs_entry) * valued_shares`. A claim that found
`claimable` below what was already claimed would fail, and the entry could never be claimed
again. This module proves that this cannot happen.

* The loyalty curve `(initial * scale + periods) / (periods + scale)` is non-decreasing in the
  periods when the initial percentage is below one, through the saturations and floors of
  `FixedU128` (`calculateLoyaltyMultiplier_le`), so the claimable amount grows with the periods
  and with the yield farm's `rpvs` (`claimableRewards_le`).
* A yield farm only moves forward: every call keeps its loyalty curve and its `rpvs` or grows
  it, and grows `updated_at` at least by what it adds to `total_stopped` (`Evolves`): a stop and
  a resume skip the stopped periods without moving an entry's periods back.
* Every entry keeps `EntryOk` against its yield farm, which is kept by every evolution of the
  farm; a claim records the claimable amount of the moment, which later claims can only exceed.
-/

namespace Hydration.LiquidityMining

open Frame FixedPoint

variable {AssetId AccountId AmmPoolId : Type}

/-! ## The loyalty curve -/

/-- Floors of two fractions scaled by `D` keep the order of the fractions. -/
theorem div_le_div_of_mul_le_mul {n d n' d' : Nat} (D : Nat) (hd : 0 < d) (hd' : 0 < d')
    (h : n * d' ≤ n' * d) : n * D / d ≤ n' * D / d' := by
  rw [Nat.le_div_iff_mul_le hd']
  apply Nat.le_of_mul_le_mul_right _ hd
  calc n * D / d * d' * d = n * D / d * d * d' := by ring
    _ ≤ n * D * d' := Nat.mul_le_mul_right _ (Nat.div_mul_le_self _ _)
    _ = n * d' * D := by ring
    _ ≤ n' * d * D := Nat.mul_le_mul_right _ h
    _ = n' * D * d := by ring

/-- `(a + x) / (x + s)` grows with `x` when `a ≤ s`. -/
theorem add_mul_add_le_of_le {a s x x' : Nat} (has : a ≤ s) (hx : x ≤ x') :
    (a + x) * (x' + s) ≤ (a + x') * (x + s) := by
  obtain ⟨t, rfl⟩ := Nat.exists_eq_add_of_le hx
  calc (a + x) * (x + t + s) = (a + x) * (x + s) + (a + x) * t := by ring
    _ ≤ (a + x) * (x + s) + (x + s) * t := by
      apply Nat.add_le_add_left
      apply Nat.mul_le_mul_right
      omega
    _ = (a + (x + t)) * (x + s) := by ring

theorem calculateLoyaltyMultiplier_eq_some {periods scaleCoef : Nat} {I m : FixedU128}
    (h : calculateLoyaltyMultiplier periods I scaleCoef = some m) :
    let x := (Fixed.saturatingFromInteger periods : FixedU128).inner
    let s := (Fixed.saturatingFromInteger scaleCoef : FixedU128).inner
    0 < x + s ∧ m.inner = (I.inner * s / (Fixed.one : FixedU128).inner + x) * (Fixed.one : FixedU128).inner / (x + s) := by
  simp only [calculateLoyaltyMultiplier, Option.bind_eq_bind, Option.bind_eq_some_iff] at h
  obtain ⟨num, hnum, num', hnum', denom, hdenom, hdiv⟩ := h
  simp only [Fixed.checkedMul, if_neg (by decide : (1000000000000000000 : Nat) ≠ 0),
    Fixed.ofInner?_eq_some, Fixed.checkedAdd] at hnum hnum' hdenom
  obtain ⟨hne, hm⟩ := Fixed.checkedDiv_eq_some.mp hdiv
  refine ⟨by omega, ?_⟩
  rw [hm, hnum', hnum, hdenom]
  rfl

/-- The loyalty multiplier never decreases with the periods while the initial percentage is
at most one. -/
theorem calculateLoyaltyMultiplier_le {p p' scaleCoef : Nat} {I m m' : FixedU128}
    (hI : I.inner ≤ (Fixed.one : FixedU128).inner) (hp : p ≤ p')
    (h : calculateLoyaltyMultiplier p I scaleCoef = some m)
    (h' : calculateLoyaltyMultiplier p' I scaleCoef = some m') : m.inner ≤ m'.inner := by
  obtain ⟨hpos, hm⟩ := calculateLoyaltyMultiplier_eq_some h
  obtain ⟨hpos', hm'⟩ := calculateLoyaltyMultiplier_eq_some h'
  rw [hm, hm']
  apply div_le_div_of_mul_le_mul _ hpos hpos'
  apply add_mul_add_le_of_le
  · -- the scaled initial percentage stays below the scale
    apply Nat.div_le_of_le_mul
    exact Nat.mul_le_mul_right _ hI
  · exact min_le_min_right _ (Nat.mul_le_mul_right _ hp)

theorem getLoyaltyMultiplier_le_one {p : Nat} {curve : Option LoyaltyCurve} {m : FixedU128}
    (h : getLoyaltyMultiplier p curve = .ok m) : m.inner ≤ (Fixed.one : FixedU128).inner := by
  cases curve with
  | none =>
    cases h
    exact le_rfl
  | some curve =>
    simp only [getLoyaltyMultiplier, bind_eq_ok, okOr_eq_ok, ensure_eq_ok, pure,
      Except.pure, Except.ok.injEq] at h
    obtain ⟨_, -, _, hle, rfl⟩ := h
    exact hle

theorem getLoyaltyMultiplier_le {p p' : Nat} {curve : Option LoyaltyCurve} {m m' : FixedU128}
    (hc : validLoyaltyCurve curve) (hp : p ≤ p') (h : getLoyaltyMultiplier p curve = .ok m)
    (h' : getLoyaltyMultiplier p' curve = .ok m') : m.inner ≤ m'.inner := by
  cases curve with
  | none =>
    cases h
    cases h'
    exact le_rfl
  | some curve =>
    simp only [getLoyaltyMultiplier, bind_eq_ok, okOr_eq_ok, ensure_eq_ok, pure,
      Except.pure, Except.ok.injEq] at h h'
    obtain ⟨_, hm, _, -, rfl⟩ := h
    obtain ⟨_, hm', _, -, rfl⟩ := h'
    have hI : curve.initialRewardPercentage < Fixed.one := by
      simpa [validLoyaltyCurve] using hc
    exact calculateLoyaltyMultiplier_le (Nat.le_of_lt hI) hp hm hm'

/-! ## What an entry may claim -/

theorem calculateReward_eq_some {start now : FixedU128} {shares M : Nat}
    (h : calculateReward start now shares = some M) :
    start.inner ≤ now.inner ∧
      M = (now.inner - start.inner) * shares / (Fixed.one : FixedU128).inner := by
  simp only [calculateReward, Option.bind_eq_bind, Option.bind_eq_some_iff] at h
  obtain ⟨delta, hdelta, hM⟩ := h
  unfold Fixed.checkedSub at hdelta
  split at hdelta
  · cases hdelta
    exact ⟨‹_›, (Fixed.checkedMulInt_eq_some.mp hM).2.2.symm⟩
  · cases hdelta

/-- What an entry earned grows with the yield farm's `rpvs`. -/
theorem calculateReward_le {start now now' : FixedU128} {shares M M' : Nat}
    (hnow : now.inner ≤ now'.inner) (h : calculateReward start now shares = some M)
    (h' : calculateReward start now' shares = some M') : M ≤ M' := by
  obtain ⟨-, rfl⟩ := calculateReward_eq_some h
  obtain ⟨-, rfl⟩ := calculateReward_eq_some h'
  apply Nat.div_le_div_right
  apply Nat.mul_le_mul_right
  omega

/-- The `claimable_rewards` of `calculate_user_reward` for an entry after `periods` of farming
at the yield farm's `rpvs`: the loyalty multiplier applied to what the entry earned. -/
def claimableRewards (loyaltyCurve : Option LoyaltyCurve) (e : YieldFarmEntry) (periods : Nat)
    (accumulatedRpvsNow : FixedU128) : Option Nat := do
  let maxRewards ← calculateReward e.accumulatedRpvs accumulatedRpvsNow e.valuedShares
  let loyaltyMultiplier ← (getLoyaltyMultiplier periods loyaltyCurve).toOption
  loyaltyMultiplier.checkedMulInt maxRewards

section Claimable

variable {curve : Option LoyaltyCurve} {e : YieldFarmEntry} {p p' : Nat} {r r' m : FixedU128}
  {M v v' : Nat}

theorem claimableRewards_eq_some (h : claimableRewards curve e p r = some v) :
    ∃ M m, calculateReward e.accumulatedRpvs r e.valuedShares = some M ∧
      getLoyaltyMultiplier p curve = .ok m ∧ m.checkedMulInt M = some v := by
  simp only [claimableRewards, Option.bind_eq_bind, Option.bind_eq_some_iff] at h
  obtain ⟨M, hM, m, hm, hv⟩ := h
  refine ⟨M, m, hM, ?_, hv⟩
  cases hx : getLoyaltyMultiplier p curve <;> simp_all [Except.toOption]

theorem claimableRewards_of (hM : calculateReward e.accumulatedRpvs r e.valuedShares = some M)
    (hm : getLoyaltyMultiplier p curve = .ok m) (hv : m.checkedMulInt M = some v) :
    claimableRewards curve e p r = some v := by
  simp [claimableRewards, hM, hm, hv, Except.toOption]

/-- The claimable amount grows with the periods and with the yield farm's `rpvs`. -/
theorem claimableRewards_le (hc : validLoyaltyCurve curve) (hp : p ≤ p') (hr : r.inner ≤ r'.inner)
    (h : claimableRewards curve e p r = some v) (h' : claimableRewards curve e p' r' = some v') :
    v ≤ v' := by
  obtain ⟨M, m, hM, hm, hv⟩ := claimableRewards_eq_some h
  obtain ⟨M', m', hM', hm', hv'⟩ := claimableRewards_eq_some h'
  obtain ⟨-, -, rfl⟩ := Fixed.checkedMulInt_eq_some.mp hv
  obtain ⟨-, -, rfl⟩ := Fixed.checkedMulInt_eq_some.mp hv'
  apply Nat.div_le_div_right
  exact Nat.mul_le_mul (getLoyaltyMultiplier_le hc hp hm hm') (calculateReward_le hr hM hM')

end Claimable

section UserReward

variable {start now m : FixedU128} {shares claimed M v : Nat}

/-- `calculate_user_reward` pays what the loyalty leaves claimable less what was claimed and
forfeits the rest of what the entry earned, once the claimable amount lies between the two. -/
theorem calculateUserReward_of_le (hM : calculateReward start now shares = some M)
    (hv : m.checkedMulInt M = some v) (hcl : claimed ≤ v) (hvM : v ≤ M) :
    calculateUserReward start shares claimed now m = some (v - claimed, M - v) := by
  by_cases h0 : M = 0
  · -- nothing earned: nothing claimable and nothing claimed
    subst h0
    obtain rfl : v = 0 := by omega
    obtain rfl : claimed = 0 := by omega
    simp [calculateUserReward, hM]
  · simp [calculateUserReward, hM, h0, hv, Word.checkedSub_of_le hvM, Word.checkedSub_of_le hcl]

/-- A nonzero reward of `calculate_user_reward` is the claimable amount less what was claimed. -/
theorem calculateUserReward_eq_some {u x : Nat}
    (h : calculateUserReward start shares claimed now m = some (u, x)) (hu : u ≠ 0) :
    ∃ M v, calculateReward start now shares = some M ∧ m.checkedMulInt M = some v ∧
      claimed + u = v := by
  simp only [calculateUserReward, Option.bind_eq_bind, Option.bind_eq_some_iff] at h
  obtain ⟨M, hM, h⟩ := h
  split at h
  · simp only [pure, Option.some.injEq, Prod.mk.injEq] at h
    omega
  · simp only [Option.bind_eq_some_iff, Word.checkedSub_eq_some, pure, Option.some.injEq,
      Prod.mk.injEq] at h
    obtain ⟨v, hv, _, -, _, ⟨hle, rfl⟩, rfl, -⟩ := h
    exact ⟨M, v, hM, hv, by omega⟩

end UserReward

/-! ## Yield farms move forward -/

/-- What the loyalty of an entry reads of its yield farm. -/
structure FarmClock where
  id : Nat
  updatedAt : Nat
  totalStopped : Nat
  accumulatedRpvs : FixedU128
  loyaltyCurve : Option LoyaltyCurve

def YieldFarmData.clock (yf : YieldFarmData) : FarmClock :=
  ⟨yf.id, yf.updatedAt, yf.totalStopped, yf.accumulatedRpvs, yf.loyaltyCurve⟩

/-- A yield farm moved forward: same farm and curve, `rpvs` and `total_stopped` grown, and
`updated_at` grown at least by the periods added to `total_stopped`. -/
structure Evolves (c c' : FarmClock) : Prop where
  id : c'.id = c.id
  loyaltyCurve : c'.loyaltyCurve = c.loyaltyCurve
  accumulatedRpvs : c.accumulatedRpvs.inner ≤ c'.accumulatedRpvs.inner
  totalStopped : c.totalStopped ≤ c'.totalStopped
  updatedAt : c.updatedAt + (c'.totalStopped - c.totalStopped) ≤ c'.updatedAt

theorem Evolves.refl (c : FarmClock) : Evolves c c :=
  ⟨rfl, rfl, le_rfl, le_rfl, by omega⟩

/-- The periods an entry has farmed: since it entered, less the periods its yield farm was
stopped since. -/
def stakedPeriods (e : YieldFarmEntry) (c : FarmClock) : Nat :=
  c.updatedAt - e.enteredAt - (c.totalStopped - e.stoppedAtCreation)

/-- The periods of an entry as `claim_rewards` computes them, failing where its subtractions
would underflow. -/
def entryPeriods (e : YieldFarmEntry) (c : FarmClock) : Option Nat := do
  let deltaStopped ← Word.checkedSub c.totalStopped e.stoppedAtCreation
  let periods ← Word.checkedSub c.updatedAt e.enteredAt
  Word.checkedSub periods deltaStopped

/-- An entry against its yield farm: it entered before the farm's clock and at an `rpvs` the
farm has reached, and what it claimed is what was claimable at some earlier clock. -/
structure EntryOk (e : YieldFarmEntry) (c : FarmClock) : Prop where
  stoppedAtCreation : e.stoppedAtCreation ≤ c.totalStopped
  enteredAt : e.enteredAt + (c.totalStopped - e.stoppedAtCreation) ≤ c.updatedAt
  accumulatedRpvs : e.accumulatedRpvs.inner ≤ c.accumulatedRpvs.inner
  claimed : e.accumulatedClaimedRewards = 0 ∨
    ∃ p r, p ≤ stakedPeriods e c ∧ r.inner ≤ c.accumulatedRpvs.inner ∧
      claimableRewards c.loyaltyCurve e p r = some e.accumulatedClaimedRewards

namespace EntryOk

variable {e : YieldFarmEntry} {c c' : FarmClock}

theorem entryPeriods_eq (h : EntryOk e c) : entryPeriods e c = some (stakedPeriods e c) := by
  have hs := h.stoppedAtCreation
  have he := h.enteredAt
  have hu : e.enteredAt ≤ c.updatedAt := by omega
  have hp : c.totalStopped - e.stoppedAtCreation ≤ c.updatedAt - e.enteredAt := by omega
  simp [entryPeriods, stakedPeriods, Word.checkedSub_of_le hs, Word.checkedSub_of_le hu,
    Word.checkedSub_of_le hp]

/-- The periods of an entry never go back as its yield farm moves forward: a resume adds to
`total_stopped` no more than it moves `updated_at`. -/
theorem stakedPeriods_le (h : EntryOk e c) (hev : Evolves c c') :
    stakedPeriods e c ≤ stakedPeriods e c' := by
  have hs := h.stoppedAtCreation
  have he := h.enteredAt
  have ht := hev.totalStopped
  have hu := hev.updatedAt
  unfold stakedPeriods
  omega

theorem evolve (h : EntryOk e c) (hev : Evolves c c') : EntryOk e c' where
  stoppedAtCreation := h.stoppedAtCreation.trans hev.totalStopped
  enteredAt := by
    have hs := h.stoppedAtCreation
    have he := h.enteredAt
    have ht := hev.totalStopped
    have hu := hev.updatedAt
    omega
  accumulatedRpvs := h.accumulatedRpvs.trans hev.accumulatedRpvs
  claimed := by
    rcases h.claimed with h0 | ⟨p, r, hp, hr, hv⟩
    · exact .inl h0
    · refine .inr ⟨p, r, hp.trans (h.stakedPeriods_le hev), hr.trans hev.accumulatedRpvs, ?_⟩
      rw [hev.loyaltyCurve]
      exact hv

/-- What an entry claimed never exceeds what it may claim now. -/
theorem claimed_le (hc : validLoyaltyCurve c.loyaltyCurve) (h : EntryOk e c) {v : Nat}
    (hv : claimableRewards c.loyaltyCurve e (stakedPeriods e c) c.accumulatedRpvs = some v) :
    e.accumulatedClaimedRewards ≤ v := by
  rcases h.claimed with h0 | ⟨p, r, hp, hr, hv₀⟩
  · omega
  · exact claimableRewards_le hc hp hr hv₀ hv

end EntryOk

/-- A new entry at the yield farm's clock and `rpvs`, as `do_deposit_lp_shares` writes it. -/
theorem EntryOk.new (c : FarmClock) (globalFarmId valuedShares : Nat) :
    EntryOk (YieldFarmEntry.new globalFarmId c.id valuedShares c.accumulatedRpvs c.updatedAt
      c.totalStopped) c :=
  ⟨le_rfl, by simp [YieldFarmEntry.new], le_rfl, .inl rfl⟩

/-- A paid claim records what was claimable at the farm's clock. -/
theorem EntryOk.claim {e : YieldFarmEntry} {c : FarmClock} {periods rewards u p : Nat}
    {m : FixedU128} (h : EntryOk e c) (hper : entryPeriods e c = some periods)
    (hm : getLoyaltyMultiplier periods c.loyaltyCurve = .ok m)
    (hur : calculateUserReward e.accumulatedRpvs e.valuedShares e.accumulatedClaimedRewards
      c.accumulatedRpvs m = some (rewards, u)) (hr : rewards ≠ 0) :
    EntryOk
      { e with accumulatedClaimedRewards := e.accumulatedClaimedRewards + rewards, updatedAt := p }
      c := by
  obtain rfl : periods = stakedPeriods e c := Option.some.inj (hper.symm.trans h.entryPeriods_eq)
  obtain ⟨M, v, hM, hv, hsum⟩ := calculateUserReward_eq_some hur hr
  refine ⟨h.stoppedAtCreation, h.enteredAt, h.accumulatedRpvs, .inr ⟨_, _, le_rfl, le_rfl, ?_⟩⟩
  rw [hsum]
  exact claimableRewards_of hM hm hv

/-- What `claim_rewards` computes for an entry against its yield farm cannot fail in its
subtractions: the periods are defined, and whatever the loyalty multiplier and the rewards
earned, the claimable amount covers what was claimed and is covered by what was earned. -/
def ClaimBounded (e : YieldFarmEntry) (yf : YieldFarmData) : Prop :=
  entryPeriods e yf.clock = some (stakedPeriods e yf.clock) ∧
    ∀ m M v, getLoyaltyMultiplier (stakedPeriods e yf.clock) yf.loyaltyCurve = .ok m →
      calculateReward e.accumulatedRpvs yf.accumulatedRpvs e.valuedShares = some M →
      m.checkedMulInt M = some v →
      e.accumulatedClaimedRewards ≤ v ∧ v ≤ M ∧
        calculateUserReward e.accumulatedRpvs e.valuedShares e.accumulatedClaimedRewards
          yf.accumulatedRpvs m = some (v - e.accumulatedClaimedRewards, M - v)

theorem EntryOk.claimBounded {e : YieldFarmEntry} {yf : YieldFarmData}
    (hc : validLoyaltyCurve yf.loyaltyCurve) (h : EntryOk e yf.clock) : ClaimBounded e yf := by
  refine ⟨h.entryPeriods_eq, fun m M v hm hM hv => ?_⟩
  have hcl := h.claimed_le hc (claimableRewards_of hM hm hv)
  have hvM := Fixed.checkedMulInt_le_of_le_one (getLoyaltyMultiplier_le_one hm) hv
  exact ⟨hcl, hvM, calculateUserReward_of_le hM hv hcl hvM⟩

/-! ## What the pallet's helpers do to the clocks -/

/-- The fields of a global farm that fix its periods. -/
def GlobalFarmData.clock (gf : GlobalFarmData AssetId AccountId) : Nat × Nat :=
  (gf.id, gf.blocksPerPeriod)

namespace GlobalFarmData

variable {gf gf' : GlobalFarmData AssetId AccountId}

theorem addStake_clock {amount : Nat} (h : gf.addStake amount = .ok gf') :
    gf'.clock = gf.clock := by
  simp only [addStake, bind_eq_ok, okOr_eq_ok, pure, Except.pure, Except.ok.injEq] at h
  obtain ⟨_, -, rfl⟩ := h
  rfl

theorem removeStake_clock {amount : Nat} (h : gf.removeStake amount = .ok gf') :
    gf'.clock = gf.clock := by
  simp only [removeStake, bind_eq_ok, okOr_eq_ok, pure, Except.pure, Except.ok.injEq] at h
  obtain ⟨_, -, rfl⟩ := h
  rfl

theorem increaseYieldFarmCounts_clock (h : gf.increaseYieldFarmCounts = .ok gf') :
    gf'.clock = gf.clock := by
  simp only [increaseYieldFarmCounts, bind_eq_ok, okOr_eq_ok, pure, Except.pure,
    Except.ok.injEq] at h
  obtain ⟨_, -, _, -, rfl⟩ := h
  rfl

theorem decreaseLiveYieldFarmCount_clock (h : gf.decreaseLiveYieldFarmCount = .ok gf') :
    gf'.clock = gf.clock := by
  simp only [decreaseLiveYieldFarmCount, bind_eq_ok, okOr_eq_ok, pure, Except.pure,
    Except.ok.injEq] at h
  obtain ⟨_, -, rfl⟩ := h
  rfl

theorem decreaseTotalYieldFarmCount_clock (h : gf.decreaseTotalYieldFarmCount = .ok gf') :
    gf'.clock = gf.clock := by
  simp only [decreaseTotalYieldFarmCount, bind_eq_ok, okOr_eq_ok, pure, Except.pure,
    Except.ok.injEq] at h
  obtain ⟨_, -, rfl⟩ := h
  rfl

end GlobalFarmData

namespace YieldFarmData

variable {yf yf' : YieldFarmData}

theorem increaseEntriesCount_clock (h : yf.increaseEntriesCount = .ok yf') :
    yf'.clock = yf.clock := by
  simp only [increaseEntriesCount, bind_eq_ok, okOr_eq_ok, pure, Except.pure,
    Except.ok.injEq] at h
  obtain ⟨_, -, rfl⟩ := h
  rfl

theorem decreaseEntriesCount_clock (h : yf.decreaseEntriesCount = .ok yf') :
    yf'.clock = yf.clock := by
  simp only [decreaseEntriesCount, bind_eq_ok, okOr_eq_ok, pure, Except.pure,
    Except.ok.injEq] at h
  obtain ⟨_, -, rfl⟩ := h
  rfl

end YieldFarmData

section Helpers

variable [DecidableEq AssetId] [DecidableEq AccountId] {cfg : Config AssetId AccountId}
  {b b₁ : Balances AssetId AccountId} {gf gf₁ : GlobalFarmData AssetId AccountId}
  {yf yf₁ : YieldFarmData}

omit [DecidableEq AssetId] [DecidableEq AccountId] in
theorem getCurrentPeriod_eq_ok {s : State AssetId AccountId AmmPoolId} {bpp p : Nat}
    (h : getCurrentPeriod s bpp = .ok p) : p = s.blockNumber / bpp := by
  simp only [getCurrentPeriod, getPeriodNumber, okOr_eq_ok, Word.checkedDiv_eq_some] at h
  exact h.2.symm

theorem distributeGlobalFarmReward_clock {a : AccountId} {r : Nat}
    (h : distributeGlobalFarmReward cfg b gf a r = .ok (b₁, gf₁)) : gf₁.clock = gf.clock := by
  simp only [distributeGlobalFarmReward, bind_eq_ok, okOr_eq_ok, pure, Except.pure,
    Except.ok.injEq, Prod.mk.injEq] at h
  obtain ⟨_, -, _, -, _, -, -, rfl⟩ := h
  rfl

theorem syncGlobalFarm_clock {p r : Nat} (h : syncGlobalFarm cfg b gf p = .ok (b₁, gf₁, r)) :
    gf₁.clock = gf.clock := by
  unfold syncGlobalFarm at h
  split at h
  · cases h
    rfl
  split at h
  · cases h
    rfl
  split at h
  · cases h
    rfl
  simp only [bind_eq_ok, okOr_eq_ok] at h
  obtain ⟨a, -, _, -, _, -, h⟩ := h
  split at h
  · cases h
    simp [withPriceAdjustment_eq, GlobalFarmData.clock]
  · simp only [bind_eq_ok, pure, Except.pure, Except.ok.injEq] at h
    obtain ⟨⟨b₂, gf₂⟩, hdist, h⟩ := h
    cases h
    exact (distributeGlobalFarmReward_clock hdist).trans
      (by simp [withPriceAdjustment_eq, GlobalFarmData.clock])

omit [DecidableEq AssetId] [DecidableEq AccountId] in
theorem syncYieldFarm_clock {p : Nat} (h : syncYieldFarm yf gf p = .ok (yf₁, gf₁)) :
    gf₁.clock = gf.clock := by
  unfold syncYieldFarm at h
  split at h
  · cases h
    rfl
  split at h
  · cases h
    rfl
  split at h
  · cases h
    rfl
  simp only [bind_eq_ok, okOr_eq_ok, pure, Except.pure, Except.ok.injEq, Prod.mk.injEq] at h
  obtain ⟨_, -, _, -, _, -, _, -, _, -, -, rfl⟩ := h
  rfl

omit [DecidableEq AssetId] [DecidableEq AccountId] in
/-- `sync_yield_farm` moves a yield farm forward to the current period, and an active one
exactly there. -/
theorem syncYieldFarm_evolves {p : Nat} (h : syncYieldFarm yf gf p = .ok (yf₁, gf₁))
    (hp : yf.updatedAt ≤ p) :
    Evolves yf.clock yf₁.clock ∧ yf₁.updatedAt ≤ p ∧ (yf.state = .active → yf₁.updatedAt = p) := by
  unfold syncYieldFarm at h
  split at h
  · cases h
    exact ⟨Evolves.refl _, hp, fun ha => absurd ha ‹_›⟩
  split at h
  · cases h
    exact ⟨Evolves.refl _, hp, fun _ => ‹_›⟩
  split at h
  · -- no valued shares: only the clock moves
    cases h
    refine ⟨⟨rfl, rfl, le_rfl, le_rfl, ?_⟩, le_rfl, fun _ => rfl⟩
    change yf.updatedAt + (yf.totalStopped - yf.totalStopped) ≤ p
    omega
  simp only [bind_eq_ok, okOr_eq_ok, pure, Except.pure, Except.ok.injEq, Prod.mk.injEq] at h
  obtain ⟨_, -, _, -, _, -, rpvs, hrpvs, _, -, rfl, -⟩ := h
  simp only [Fixed.checkedAdd, Fixed.ofInner?_eq_some] at hrpvs
  refine ⟨⟨rfl, rfl, ?_, le_rfl, ?_⟩, le_rfl, fun _ => rfl⟩
  · change yf.accumulatedRpvs.inner ≤ rpvs.inner
    omega
  · change yf.updatedAt + (yf.totalStopped - yf.totalStopped) ≤ p
    omega

theorem returnUnclaimable_clock {u : Nat} (h : returnUnclaimable cfg b yf gf u = .ok (b₁, yf₁, gf₁)) :
    yf₁.clock = yf.clock ∧ gf₁.clock = gf.clock := by
  simp only [returnUnclaimable, bind_eq_ok, okOr_eq_ok, pure, Except.pure, Except.ok.injEq,
    Prod.mk.injEq] at h
  obtain ⟨_, -, _, -, _, -, _, -, -, rfl, rfl⟩ := h
  exact ⟨rfl, rfl⟩

/-- A payment records the reward as claimed in the period of the claim. -/
theorem payClaim_eq_ok {e e₁ : YieldFarmEntry} {rc : AssetId} {dest : AccountId} {r p : Nat}
    (h : payClaim cfg b yf e rc dest r p = .ok (b₁, yf₁, e₁)) :
    yf₁.clock = yf.clock ∧
      e₁ = { e with accumulatedClaimedRewards := e.accumulatedClaimedRewards + r, updatedAt := p } := by
  simp only [payClaim, bind_eq_ok, okOr_eq_ok, Word.checkedAdd_eq_some, pure, Except.pure,
    Except.ok.injEq, Prod.mk.injEq] at h
  obtain ⟨_, -, _, ⟨-, rfl⟩, _, -, -, rfl, rfl⟩ := h
  exact ⟨rfl, rfl⟩

end Helpers

namespace DepositData

variable {d d' : DepositData AmmPoolId} {e : YieldFarmEntry} {y idx : Nat}

theorem searchYieldFarmEntry_getElem (h : d.searchYieldFarmEntry y = some idx)
    (he : d.yieldFarmEntries[idx]? = some e) : e.yieldFarmId = y := by
  unfold searchYieldFarmEntry at h
  obtain ⟨hlt, hp, -⟩ := List.findIdx?_eq_some_iff_getElem.mp h
  rw [List.getElem?_eq_getElem hlt, Option.some.injEq] at he
  subst he
  simpa using hp

theorem addYieldFarmEntry_eq_ok {cfg : Config AssetId AccountId}
    (h : d.addYieldFarmEntry cfg e = .ok d') :
    d' = { d with yieldFarmEntries := d.yieldFarmEntries ++ [e] } := by
  simp only [addYieldFarmEntry, bind_eq_ok, ensure_eq_ok, pure, Except.pure,
    Except.ok.injEq] at h
  obtain ⟨_, -, _, -, rfl⟩ := h
  rfl

/-- `swap_remove` keeps only elements of the list. -/
theorem mem_of_mem_swapRemove {α : Type} {l : List α} {x : α} (h : x ∈ swapRemove l idx) :
    x ∈ l := by
  unfold swapRemove at h
  split at h
  · rename_i last hlast
    rcases List.mem_or_eq_of_mem_set (List.dropLast_subset _ h) with hx | rfl
    · exact hx
    · exact List.mem_of_getLast? hlast
  · exact h

theorem removeYieldFarmEntry_eq_ok (h : d.removeYieldFarmEntry y = .ok (d', e)) :
    d'.ammPoolId = d.ammPoolId ∧ ∀ x ∈ d'.yieldFarmEntries, x ∈ d.yieldFarmEntries := by
  simp only [removeYieldFarmEntry, bind_eq_ok, okOr_eq_ok, pure, Except.pure, Except.ok.injEq,
    Prod.mk.injEq] at h
  obtain ⟨_, -, _, -, rfl, -⟩ := h
  exact ⟨rfl, fun x hx => mem_of_mem_swapRemove hx⟩

end DepositData

/-! ## The invariant -/

/-- The storage that the loyalty of entries reads, and the block number. -/
structure Ledger (AssetId AccountId AmmPoolId : Type) where
  blockNumber : Nat
  farmSequencer : Nat
  globalFarm : StorageMap Nat (GlobalFarmData AssetId AccountId)
  yieldFarm : StorageMap (AmmPoolId × Nat × Nat) YieldFarmData
  deposit : StorageMap Nat (DepositData AmmPoolId)

def State.ledger (s : State AssetId AccountId AmmPoolId) : Ledger AssetId AccountId AmmPoolId :=
  ⟨s.blockNumber, s.farmSequencer, s.globalFarm, s.yieldFarm, s.deposit⟩

section Inv

variable [DecidableEq AmmPoolId]

/-- Every entry of a deposit names a yield farm id handed out, and is `EntryOk` against its
yield farm where that is stored. -/
def EntriesOk (seq : Nat) (ym : StorageMap (AmmPoolId × Nat × Nat) YieldFarmData)
    (d : DepositData AmmPoolId) : Prop :=
  ∀ e ∈ d.yieldFarmEntries, e.yieldFarmId ≤ seq ∧ ∀ yf,
    ym.lookup (d.ammPoolId, e.globalFarmId, e.yieldFarmId) = some yf → EntryOk e yf.clock

/-- A deposit keeps its entries' bookkeeping when it loses entries. -/
theorem EntriesOk.mono {seq : Nat} {ym : StorageMap (AmmPoolId × Nat × Nat) YieldFarmData}
    {d d' : DepositData AmmPoolId} (h : EntriesOk seq ym d) (hamm : d'.ammPoolId = d.ammPoolId)
    (hsub : ∀ e ∈ d'.yieldFarmEntries, e ∈ d.yieldFarmEntries) : EntriesOk seq ym d' := by
  intro e he
  rw [hamm]
  exact h e (hsub e he)

/-- Farms are stored under ids the sequencer handed out; every yield farm has a valid loyalty
curve and was updated no later than its global farm's current period; every deposit's
entries are `EntriesOk`. -/
structure LoyaltyInv (L : Ledger AssetId AccountId AmmPoolId) : Prop where
  globalKeyed : ∀ g gf, L.globalFarm.lookup g = some gf → gf.id = g ∧ g ≤ L.farmSequencer
  yieldKeyed : ∀ k yf, L.yieldFarm.lookup k = some yf →
    yf.id = k.2.2 ∧ k.2.1 ≤ L.farmSequencer ∧ k.2.2 ≤ L.farmSequencer
  curve : ∀ k yf, L.yieldFarm.lookup k = some yf → validLoyaltyCurve yf.loyaltyCurve
  updatedAt : ∀ k yf gf, L.yieldFarm.lookup k = some yf → L.globalFarm.lookup k.2.1 = some gf →
    yf.updatedAt ≤ L.blockNumber / gf.blocksPerPeriod
  entries : ∀ i d, L.deposit.lookup i = some d → EntriesOk L.farmSequencer L.yieldFarm d

/-- Every yield farm stored before and after moved forward. -/
def FarmsEvolve (ym ym' : StorageMap (AmmPoolId × Nat × Nat) YieldFarmData) : Prop :=
  ∀ k yf yf', ym.lookup k = some yf → ym'.lookup k = some yf' → Evolves yf.clock yf'.clock

variable {bn seq : Nat} {gm : StorageMap Nat (GlobalFarmData AssetId AccountId)}
  {ym : StorageMap (AmmPoolId × Nat × Nat) YieldFarmData} {dm : StorageMap Nat (DepositData AmmPoolId)}
  {g : Nat} {gf gf' : GlobalFarmData AssetId AccountId} {k : AmmPoolId × Nat × Nat}
  {yf yf' : YieldFarmData}

namespace LoyaltyInv

/-- A global farm rewritten with the same id and period length. -/
theorem insertGlobal (hI : LoyaltyInv ⟨bn, seq, gm, ym, dm⟩) (hg : gm.lookup g = some gf)
    (hc : gf'.clock = gf.clock) : LoyaltyInv ⟨bn, seq, gm.insert g gf', ym, dm⟩ where
  globalKeyed i x hi := by
    rcases StorageMap.lookup_insert_eq_some hi with ⟨rfl, rfl⟩ | ⟨-, hi'⟩
    · obtain ⟨hid, hle⟩ := hI.globalKeyed i gf hg
      exact ⟨(Prod.ext_iff.mp hc).1.trans hid, hle⟩
    · exact hI.globalKeyed i x hi'
  yieldKeyed := hI.yieldKeyed
  curve := hI.curve
  updatedAt k y x hk hx := by
    have hb : gf'.blocksPerPeriod = gf.blocksPerPeriod := (Prod.ext_iff.mp hc).2
    rcases StorageMap.lookup_insert_eq_some hx with ⟨hkg, rfl⟩ | ⟨-, hx'⟩
    · rw [hb]
      exact hI.updatedAt k y gf hk (hkg ▸ hg)
    · exact hI.updatedAt k y x hk hx'
  entries := hI.entries

theorem eraseGlobal (hI : LoyaltyInv ⟨bn, seq, gm, ym, dm⟩) :
    LoyaltyInv ⟨bn, seq, gm.erase g, ym, dm⟩ where
  globalKeyed i x hi := hI.globalKeyed i x (StorageMap.lookup_erase_eq_some hi).2
  yieldKeyed := hI.yieldKeyed
  curve := hI.curve
  updatedAt k y x hk hx := hI.updatedAt k y x hk (StorageMap.lookup_erase_eq_some hx).2
  entries := hI.entries

/-- A new global farm under the next id: no yield farm belongs to it yet. -/
theorem newGlobal (hI : LoyaltyInv ⟨bn, seq, gm, ym, dm⟩) (hid : gf.id = seq + 1) :
    LoyaltyInv ⟨bn, seq + 1, gm.insert (seq + 1) gf, ym, dm⟩ where
  globalKeyed i x hi := by
    rcases StorageMap.lookup_insert_eq_some hi with ⟨rfl, rfl⟩ | ⟨-, hi'⟩
    · exact ⟨hid, le_rfl⟩
    · obtain ⟨hx, hle⟩ := hI.globalKeyed i x hi'
      exact ⟨hx, Nat.le_succ_of_le hle⟩
  yieldKeyed k y hk := by
    obtain ⟨hid, h₁, h₂⟩ := hI.yieldKeyed k y hk
    exact ⟨hid, Nat.le_succ_of_le h₁, Nat.le_succ_of_le h₂⟩
  curve := hI.curve
  updatedAt k y x hk hx := by
    have hle := (hI.yieldKeyed k y hk).2.1
    rcases StorageMap.lookup_insert_eq_some hx with ⟨hkg, -⟩ | ⟨-, hx'⟩
    · dsimp only at hle
      omega
    · exact hI.updatedAt k y x hk hx'
  entries i d hd e he := by
    obtain ⟨hle, hok⟩ := hI.entries i d hd e he
    exact ⟨Nat.le_succ_of_le hle, hok⟩

/-- A yield farm rewritten after moving forward, no later than its global farm's period. -/
theorem insertYield (hI : LoyaltyInv ⟨bn, seq, gm, ym, dm⟩) (hk : ym.lookup k = some yf)
    (hev : Evolves yf.clock yf'.clock)
    (hu : ∀ gf, gm.lookup k.2.1 = some gf → yf'.updatedAt ≤ bn / gf.blocksPerPeriod) :
    LoyaltyInv ⟨bn, seq, gm, ym.insert k yf', dm⟩ where
  globalKeyed := hI.globalKeyed
  yieldKeyed j y hj := by
    rcases StorageMap.lookup_insert_eq_some hj with ⟨rfl, rfl⟩ | ⟨-, hj'⟩
    · obtain ⟨hid, hle⟩ := hI.yieldKeyed j yf hk
      exact ⟨hev.id.trans hid, hle⟩
    · exact hI.yieldKeyed j y hj'
  curve j y hj := by
    have hcv : yf'.loyaltyCurve = yf.loyaltyCurve := hev.loyaltyCurve
    rcases StorageMap.lookup_insert_eq_some hj with ⟨rfl, rfl⟩ | ⟨-, hj'⟩
    · rw [hcv]
      exact hI.curve _ yf hk
    · exact hI.curve j y hj'
  updatedAt j y x hj hx := by
    rcases StorageMap.lookup_insert_eq_some hj with ⟨rfl, rfl⟩ | ⟨-, hj'⟩
    · exact hu x hx
    · exact hI.updatedAt j y x hj' hx
  entries i d hd e he := by
    obtain ⟨hle, hok⟩ := hI.entries i d hd e he
    refine ⟨hle, fun y hy => ?_⟩
    rcases StorageMap.lookup_insert_eq_some hy with ⟨hkey, rfl⟩ | ⟨-, hy'⟩
    · -- the entry's own yield farm moved forward, and the entry with it
      exact (hok yf (hkey ▸ hk)).evolve hev
    · exact hok y hy'

theorem eraseYield (hI : LoyaltyInv ⟨bn, seq, gm, ym, dm⟩) :
    LoyaltyInv ⟨bn, seq, gm, ym.erase k, dm⟩ where
  globalKeyed := hI.globalKeyed
  yieldKeyed j y hj := hI.yieldKeyed j y (StorageMap.lookup_erase_eq_some hj).2
  curve j y hj := hI.curve j y (StorageMap.lookup_erase_eq_some hj).2
  updatedAt j y x hj hx := hI.updatedAt j y x (StorageMap.lookup_erase_eq_some hj).2 hx
  entries i d hd e he := by
    obtain ⟨hle, hok⟩ := hI.entries i d hd e he
    exact ⟨hle, fun y hy => hok y (StorageMap.lookup_erase_eq_some hy).2⟩

/-- A new yield farm of a stored global farm under the next id: no entry names it yet. -/
theorem newYield {a : AmmPoolId} (hI : LoyaltyInv ⟨bn, seq, gm, ym, dm⟩)
    (hg : gm.lookup g = some gf) (hid : yf.id = seq + 1) (hc : validLoyaltyCurve yf.loyaltyCurve)
    (hu : yf.updatedAt ≤ bn / gf.blocksPerPeriod) :
    LoyaltyInv ⟨bn, seq + 1, gm, ym.insert (a, g, seq + 1) yf, dm⟩ where
  globalKeyed i x hi := by
    obtain ⟨hx, hle⟩ := hI.globalKeyed i x hi
    exact ⟨hx, Nat.le_succ_of_le hle⟩
  yieldKeyed j y hj := by
    rcases StorageMap.lookup_insert_eq_some hj with ⟨rfl, rfl⟩ | ⟨-, hj'⟩
    · exact ⟨hid, Nat.le_succ_of_le (hI.globalKeyed g gf hg).2, le_rfl⟩
    · obtain ⟨hid, h₁, h₂⟩ := hI.yieldKeyed j y hj'
      exact ⟨hid, Nat.le_succ_of_le h₁, Nat.le_succ_of_le h₂⟩
  curve j y hj := by
    rcases StorageMap.lookup_insert_eq_some hj with ⟨rfl, rfl⟩ | ⟨-, hj'⟩
    · exact hc
    · exact hI.curve j y hj'
  updatedAt j y x hj hx := by
    rcases StorageMap.lookup_insert_eq_some hj with ⟨rfl, rfl⟩ | ⟨-, hj'⟩
    · rw [hg] at hx
      cases hx
      exact hu
    · exact hI.updatedAt j y x hj' hx
  entries i d hd e he := by
    obtain ⟨hle, hok⟩ := hI.entries i d hd e he
    refine ⟨Nat.le_succ_of_le hle, fun y hy => ?_⟩
    rcases StorageMap.lookup_insert_eq_some hy with ⟨hkey, -⟩ | ⟨-, hy'⟩
    · -- the entry names an id handed out before this one
      have := congrArg (fun k => k.2.2) hkey
      dsimp only at this hle
      omega
    · exact hok y hy'

/-- A deposit written whose entries hold against the yield farms. -/
theorem insertDeposit {i : Nat} {d : DepositData AmmPoolId} (hI : LoyaltyInv ⟨bn, seq, gm, ym, dm⟩)
    (hd : EntriesOk seq ym d) : LoyaltyInv ⟨bn, seq, gm, ym, dm.insert i d⟩ where
  globalKeyed := hI.globalKeyed
  yieldKeyed := hI.yieldKeyed
  curve := hI.curve
  updatedAt := hI.updatedAt
  entries j x hj := by
    rcases StorageMap.lookup_insert_eq_some hj with ⟨rfl, rfl⟩ | ⟨-, hj'⟩
    · exact hd
    · exact hI.entries j x hj'

theorem eraseDeposit {i : Nat} (hI : LoyaltyInv ⟨bn, seq, gm, ym, dm⟩) :
    LoyaltyInv ⟨bn, seq, gm, ym, dm.erase i⟩ where
  globalKeyed := hI.globalKeyed
  yieldKeyed := hI.yieldKeyed
  curve := hI.curve
  updatedAt := hI.updatedAt
  entries j x hj := hI.entries j x (StorageMap.lookup_erase_eq_some hj).2

/-- Blocks pass: no yield farm is ahead of its global farm's period. -/
theorem advance {bn' : Nat} (hI : LoyaltyInv ⟨bn, seq, gm, ym, dm⟩) (h : bn ≤ bn') :
    LoyaltyInv ⟨bn', seq, gm, ym, dm⟩ where
  globalKeyed := hI.globalKeyed
  yieldKeyed := hI.yieldKeyed
  curve := hI.curve
  updatedAt k y x hk hx := (hI.updatedAt k y x hk hx).trans (Nat.div_le_div_right h)
  entries := hI.entries

end LoyaltyInv

namespace FarmsEvolve

theorem refl (ym : StorageMap (AmmPoolId × Nat × Nat) YieldFarmData) : FarmsEvolve ym ym := by
  intro k yf yf' h h'
  rw [h] at h'
  cases h'
  exact Evolves.refl _

theorem insert (hk : ym.lookup k = some yf) (hev : Evolves yf.clock yf'.clock) :
    FarmsEvolve ym (ym.insert k yf') := by
  intro j y y' hj hj'
  rcases StorageMap.lookup_insert_eq_some hj' with ⟨rfl, rfl⟩ | ⟨-, hj''⟩
  · rw [hk] at hj
    cases hj
    exact hev
  · exact refl ym j y y' hj hj''

theorem insert_fresh (hk : ym.lookup k = none) : FarmsEvolve ym (ym.insert k yf') := by
  intro j y y' hj hj'
  rcases StorageMap.lookup_insert_eq_some hj' with ⟨rfl, -⟩ | ⟨-, hj''⟩
  · rw [hk] at hj
    cases hj
  · exact refl ym j y y' hj hj''

theorem erase : FarmsEvolve ym (ym.erase k) := fun j y y' hj hj' =>
  refl ym j y y' hj (StorageMap.lookup_erase_eq_some hj').2

end FarmsEvolve

end Inv

/-! ## Every call moves the yield farms forward and keeps the invariant -/

section Calls

variable [DecidableEq AssetId] [DecidableEq AccountId] [DecidableEq AmmPoolId]
  {cfg : Config AssetId AccountId} {bn seq : Nat}
  {gm : StorageMap Nat (GlobalFarmData AssetId AccountId)}
  {ym ym' : StorageMap (AmmPoolId × Nat × Nat) YieldFarmData}
  {dm : StorageMap Nat (DepositData AmmPoolId)} {g : Nat} {gf gf' : GlobalFarmData AssetId AccountId}
  {k : AmmPoolId × Nat × Nat} {yf yf' : YieldFarmData}

omit [DecidableEq AssetId] [DecidableEq AccountId] in
theorem storeOrRemoveYieldFarm_eq_ok {gf₁ : GlobalFarmData AssetId AccountId}
    (h : storeOrRemoveYieldFarm gf k yf ym = .ok (gf₁, ym')) :
    gf₁.clock = gf.clock ∧ (ym' = ym.insert k yf ∨ ym' = ym.erase k) := by
  unfold storeOrRemoveYieldFarm at h
  split at h
  · simp only [bind_eq_ok, pure, Except.pure, Except.ok.injEq, Prod.mk.injEq] at h
    obtain ⟨_, hdec, rfl, rfl⟩ := h
    exact ⟨GlobalFarmData.decreaseTotalYieldFarmCount_clock hdec, .inr rfl⟩
  · cases h
    exact ⟨rfl, .inl rfl⟩

omit [DecidableEq AssetId] [DecidableEq AccountId] in
/-- A global farm stored or removed after keeping its id and period length. -/
theorem LoyaltyInv.storeOrRemoveGlobal (hI : LoyaltyInv ⟨bn, seq, gm, ym, dm⟩)
    (hg : gm.lookup g = some gf) (hc : gf'.clock = gf.clock) :
    LoyaltyInv ⟨bn, seq, storeOrRemoveGlobalFarm gf' g gm, ym, dm⟩ := by
  unfold storeOrRemoveGlobalFarm
  split
  · exact hI.eraseGlobal
  · exact hI.insertGlobal hg hc

omit [DecidableEq AssetId] [DecidableEq AccountId] in
/-- A yield farm stored or removed after keeping its clock. -/
theorem LoyaltyInv.storeOrRemoveYield (hI : LoyaltyInv ⟨bn, seq, gm, ym, dm⟩)
    (hk : ym.lookup k = some yf) (h : ym' = ym.insert k yf' ∨ ym' = ym.erase k)
    (hc : yf'.clock = yf.clock) :
    LoyaltyInv ⟨bn, seq, gm, ym', dm⟩ ∧ FarmsEvolve ym ym' := by
  have hev : Evolves yf.clock yf'.clock := hc ▸ Evolves.refl _
  rcases h with rfl | rfl
  · refine ⟨hI.insertYield hk hev fun x hx => ?_, FarmsEvolve.insert hk hev⟩
    have hu : yf'.updatedAt = yf.updatedAt := congrArg FarmClock.updatedAt hc
    rw [hu]
    exact hI.updatedAt k yf x hk hx
  · exact ⟨hI.eraseYield, FarmsEvolve.erase⟩

/-- A global farm and one of its yield farms synced to the current period, then written
with other fields changed: the shape of most of the pallet's functions. -/
theorem LoyaltyInv.syncBoth (hI : LoyaltyInv ⟨bn, seq, gm, ym, dm⟩) (hg : gm.lookup g = some gf)
    (hk : ym.lookup k = some yf) (hkg : k.2.1 = g) {p r : Nat} (hp : p = bn / gf.blocksPerPeriod)
    {b b₁ : Balances AssetId AccountId} {gf₁ gf₂ : GlobalFarmData AssetId AccountId}
    {yf₂ : YieldFarmData} (hsync : syncGlobalFarm cfg b gf p = .ok (b₁, gf₁, r))
    (hsy : syncYieldFarm yf gf₁ p = .ok (yf₂, gf₂)) (hc : gf'.clock = gf₂.clock)
    (hcy : yf'.clock = yf₂.clock) :
    LoyaltyInv ⟨bn, seq, gm.insert g gf', ym.insert k yf', dm⟩ ∧ FarmsEvolve ym (ym.insert k yf') := by
  have hu : yf.updatedAt ≤ p := hp ▸ hI.updatedAt k yf gf hk (hkg ▸ hg)
  obtain ⟨hev, hu₂, -⟩ := syncYieldFarm_evolves hsy hu
  have hev' : Evolves yf.clock yf'.clock := hcy ▸ hev
  have hgc : gf'.clock = gf.clock :=
    hc.trans ((syncYieldFarm_clock hsy).trans (syncGlobalFarm_clock hsync))
  refine ⟨(hI.insertYield hk hev' fun x hx => ?_).insertGlobal hg hgc, FarmsEvolve.insert hk hev'⟩
  -- the yield farm's global farm is `g`, synced to its current period
  rw [hkg, hg] at hx
  cases hx
  have hup : yf'.updatedAt = yf₂.updatedAt := congrArg FarmClock.updatedAt hcy
  rw [hup, ← hp]
  exact hu₂

variable {s : State AssetId AccountId AmmPoolId}

theorem createGlobalFarm_loyalty {totalRewards planned blocksPerPeriod : Nat}
    {incentivizedAsset rewardCurrency : AssetId} {owner : AccountId} {yieldPerPeriod : Perquintill}
    {minDeposit' : Nat} {priceAdjustment : FixedU128} {r : State AssetId AccountId AmmPoolId × Nat × Nat}
    (hI : LoyaltyInv s.ledger)
    (h : createGlobalFarm cfg s totalRewards planned blocksPerPeriod incentivizedAsset rewardCurrency
      owner yieldPerPeriod minDeposit' priceAdjustment = .ok r) :
    LoyaltyInv r.1.ledger ∧ FarmsEvolve s.yieldFarm r.1.yieldFarm := by
  simp only [createGlobalFarm, getNextFarmId, currencyTransfer, bind_eq_ok, okOr_eq_ok,
    ensure_eq_ok, Word.checkedAdd_eq_some, pure, Except.pure, Except.ok.injEq] at h
  obtain ⟨_, -, -, -, -, -, -, -, _, -, _, -, _, ⟨-, rfl⟩, _, -, _, -, rfl⟩ := h
  exact ⟨hI.newGlobal rfl, FarmsEvolve.refl _⟩

theorem updateGlobalFarmPriceAdjustment_loyalty {who : AccountId} {g : Nat}
    {priceAdjustment : FixedU128} {s' : State AssetId AccountId AmmPoolId}
    (hI : LoyaltyInv s.ledger)
    (h : updateGlobalFarmPriceAdjustment cfg s who g priceAdjustment = .ok s') :
    LoyaltyInv s'.ledger ∧ FarmsEvolve s.yieldFarm s'.yieldFarm := by
  simp only [updateGlobalFarmPriceAdjustment, bind_eq_ok, okOr_eq_ok, ensure_eq_ok, pure,
    Except.pure, Except.ok.injEq] at h
  obtain ⟨-, -, gf, hgf, -, -, -, -, _, -, ⟨b₁, gf₁, _⟩, hsync, rfl⟩ := h
  have hc := syncGlobalFarm_clock hsync
  exact ⟨hI.insertGlobal hgf hc, FarmsEvolve.refl _⟩

theorem updateGlobalFarm_loyalty {g planned : Nat} {yieldPerPeriod : Perquintill} {minDeposit' : Nat}
    {s' : State AssetId AccountId AmmPoolId} (hI : LoyaltyInv s.ledger)
    (h : updateGlobalFarm cfg s g planned yieldPerPeriod minDeposit' = .ok s') :
    LoyaltyInv s'.ledger ∧ FarmsEvolve s.yieldFarm s'.yieldFarm := by
  simp only [updateGlobalFarm, bind_eq_ok, okOr_eq_ok, ensure_eq_ok, pure, Except.pure,
    Except.ok.injEq] at h
  obtain ⟨-, -, -, -, -, -, gf, hgf, -, -, _, -, ⟨b₁, gf₁, _⟩, hsync, _, -, _, -, -, -, rfl⟩ := h
  have hc := syncGlobalFarm_clock hsync
  exact ⟨hI.insertGlobal hgf hc, FarmsEvolve.refl _⟩

theorem terminateGlobalFarm_loyalty {who : AccountId} {g : Nat}
    {r : State AssetId AccountId AmmPoolId × AssetId × Nat × AccountId} (hI : LoyaltyInv s.ledger)
    (h : terminateGlobalFarm cfg s who g = .ok r) :
    LoyaltyInv r.1.ledger ∧ FarmsEvolve s.yieldFarm r.1.yieldFarm := by
  simp only [terminateGlobalFarm, currencyTransfer, bind_eq_ok, okOr_eq_ok, ensure_eq_ok, pure,
    Except.pure, Except.ok.injEq] at h
  obtain ⟨gf, hgf, -, -, -, -, -, -, _, -, _, -, rfl⟩ := h
  exact ⟨hI.storeOrRemoveGlobal hgf rfl, FarmsEvolve.refl _⟩

omit [DecidableEq AssetId] [DecidableEq AccountId] in
/-- A key whose yield farm id the sequencer has not handed out holds no yield farm. -/
theorem LoyaltyInv.lookup_fresh {L : Ledger AssetId AccountId AmmPoolId} (hI : LoyaltyInv L)
    {a : AmmPoolId} {g : Nat} : L.yieldFarm.lookup (a, g, L.farmSequencer + 1) = none := by
  cases hk : L.yieldFarm.lookup (a, g, L.farmSequencer + 1) with
  | none => rfl
  | some yf =>
    have := (hI.yieldKeyed _ yf hk).2.2
    dsimp only at this
    omega

theorem createYieldFarm_loyalty {who : AccountId} {g : Nat} {multiplier : FixedU128}
    {loyaltyCurve : Option LoyaltyCurve} {ammPoolId : AmmPoolId} {assets : List AssetId}
    {r : State AssetId AccountId AmmPoolId × Nat} (hI : LoyaltyInv s.ledger)
    (h : createYieldFarm cfg s who g multiplier loyaltyCurve ammPoolId assets = .ok r) :
    LoyaltyInv r.1.ledger ∧ FarmsEvolve s.yieldFarm r.1.yieldFarm := by
  simp only [createYieldFarm, getNextFarmId, bind_eq_ok, okOr_eq_ok, ensure_eq_ok,
    Word.checkedAdd_eq_some, pure, Except.pure, Except.ok.injEq] at h
  obtain ⟨_, -, _, hcurve, gf, hgf, _, -, _, -, _, -, _, -, _, -, p, hp, ⟨b₁, gf₁, _⟩, hsync, _,
    ⟨-, rfl⟩, gf₂, hinc, rfl⟩ := h
  have hc : gf₂.clock = gf.clock :=
    (GlobalFarmData.increaseYieldFarmCounts_clock hinc).trans (syncGlobalFarm_clock hsync)
  have hb : gf₂.blocksPerPeriod = gf.blocksPerPeriod := (Prod.ext_iff.mp hc).2
  -- the new yield farm starts at the current period, under the next id
  refine ⟨(hI.insertGlobal hgf hc).newYield (AList.lookup_insert _) rfl hcurve ?_,
    FarmsEvolve.insert_fresh hI.lookup_fresh⟩
  rw [hb]
  exact (getCurrentPeriod_eq_ok hp).le

theorem updateYieldFarmMultiplier_loyalty {who : AccountId} {g : Nat} {ammPoolId : AmmPoolId}
    {multiplier : FixedU128} {r : State AssetId AccountId AmmPoolId × Nat}
    (hI : LoyaltyInv s.ledger)
    (h : updateYieldFarmMultiplier cfg s who g ammPoolId multiplier = .ok r) :
    LoyaltyInv r.1.ledger ∧ FarmsEvolve s.yieldFarm r.1.yieldFarm := by
  simp only [updateYieldFarmMultiplier, bind_eq_ok, okOr_eq_ok, ensure_eq_ok, pure,
    Except.pure, Except.ok.injEq] at h
  obtain ⟨-, -, _, -, yf, hyf, -, -, gf, hgf, -, -, _, -, p, hp, ⟨b₁, gf₁, _⟩, hsync, ⟨yf₂, gf₂⟩,
    hsy, _, -, gf₃, hrm, gf₄, hadd, rfl⟩ := h
  have hc := (GlobalFarmData.addStake_clock hadd).trans (GlobalFarmData.removeStake_clock hrm)
  exact hI.syncBoth hgf hyf rfl (getCurrentPeriod_eq_ok hp) hsync hsy hc rfl

theorem stopYieldFarm_loyalty {who : AccountId} {g : Nat} {ammPoolId : AmmPoolId}
    {r : State AssetId AccountId AmmPoolId × Nat} (hI : LoyaltyInv s.ledger)
    (h : stopYieldFarm cfg s who g ammPoolId = .ok r) :
    LoyaltyInv r.1.ledger ∧ FarmsEvolve s.yieldFarm r.1.yieldFarm := by
  simp only [stopYieldFarm, bind_eq_ok, okOr_eq_ok, ensure_eq_ok, pure, Except.pure,
    Except.ok.injEq] at h
  obtain ⟨_, -, yf, hyf, -, -, gf, hgf, -, -, p, hp, ⟨b₁, gf₁, _⟩, hsync, ⟨yf₂, gf₂⟩, hsy, _, -,
    gf₃, hrm, rfl⟩ := h
  have hc := GlobalFarmData.removeStake_clock hrm
  exact hI.syncBoth hgf hyf rfl (getCurrentPeriod_eq_ok hp) hsync hsy hc rfl

/-- A resume moves `updated_at` to the current period and adds exactly the periods it skips
to `total_stopped`. -/
theorem resumeYieldFarm_loyalty {who : AccountId} {g yid : Nat} {ammPoolId : AmmPoolId}
    {multiplier : FixedU128} {s' : State AssetId AccountId AmmPoolId} (hI : LoyaltyInv s.ledger)
    (h : resumeYieldFarm cfg s who g yid ammPoolId multiplier = .ok s') :
    LoyaltyInv s'.ledger ∧ FarmsEvolve s.yieldFarm s'.yieldFarm := by
  simp only [resumeYieldFarm, bind_eq_ok, okOr_eq_ok, ensure_eq_ok, Word.checkedSub_eq_some,
    Word.checkedAdd_eq_some, pure, Except.pure, Except.ok.injEq] at h
  obtain ⟨-, -, -, -, yf, hyf, -, -, gf, hgf, -, -, p, hp, ⟨b₁, gf₁, _⟩, hsync, _, ⟨hle, rfl⟩, _, -,
    gf₂, hadd, _, ⟨-, rfl⟩, rfl⟩ := h
  have hc := (GlobalFarmData.addStake_clock hadd).trans (syncGlobalFarm_clock hsync)
  have hev : Evolves yf.clock (YieldFarmData.clock
      { yf with
        accumulatedRpz := gf₂.accumulatedRpz, updatedAt := p, state := .active, multiplier,
        totalStopped := yf.totalStopped + (p - yf.updatedAt) }) := by
    refine ⟨rfl, rfl, le_rfl, Nat.le_add_right _ _, ?_⟩
    change yf.updatedAt + (yf.totalStopped + (p - yf.updatedAt) - yf.totalStopped) ≤ p
    omega
  refine ⟨(hI.insertYield hyf hev fun x hx => ?_).insertGlobal hgf hc, FarmsEvolve.insert hyf hev⟩
  rw [hgf] at hx
  cases hx
  exact (getCurrentPeriod_eq_ok hp).le

theorem terminateYieldFarm_loyalty {who : AccountId} {g yid : Nat} {ammPoolId : AmmPoolId}
    {s' : State AssetId AccountId AmmPoolId} (hI : LoyaltyInv s.ledger)
    (h : terminateYieldFarm cfg s who g yid ammPoolId = .ok s') :
    LoyaltyInv s'.ledger ∧ FarmsEvolve s.yieldFarm s'.yieldFarm := by
  simp only [terminateYieldFarm, currencyTransfer, bind_eq_ok, okOr_eq_ok, ensure_eq_ok, pure,
    Except.pure, Except.ok.injEq] at h
  obtain ⟨-, -, gf, hgf, -, -, yf, hyf, -, -, _, -, _, -, _, -, gf₂, hdec, ⟨gf₃, ym₁⟩, hstore,
    rfl⟩ := h
  obtain ⟨hc₃, hym⟩ := storeOrRemoveYieldFarm_eq_ok hstore
  have hc₂ := GlobalFarmData.decreaseLiveYieldFarmCount_clock hdec
  have hc : gf₃.clock = gf.clock := hc₃.trans hc₂
  obtain ⟨hI₁, hev⟩ := hI.storeOrRemoveYield hyf hym rfl
  exact ⟨hI₁.insertGlobal hgf hc, hev⟩

/-- `do_deposit_lp_shares` syncs both farms and writes them back, leaves the deposits alone,
and appends to the deposit an entry that holds against its yield farm. -/
theorem doDepositLpShares_loyalty {d : DepositData AmmPoolId} {g yid valuedShares : Nat}
    {r : State AssetId AccountId AmmPoolId × DepositData AmmPoolId} (hI : LoyaltyInv s.ledger)
    (h : doDepositLpShares cfg s d g yid valuedShares = .ok r) :
    (LoyaltyInv r.1.ledger ∧ FarmsEvolve s.yieldFarm r.1.yieldFarm) ∧ r.1.deposit = s.deposit ∧
      (EntriesOk r.1.farmSequencer r.1.yieldFarm d →
        EntriesOk r.1.farmSequencer r.1.yieldFarm r.2) := by
  simp only [doDepositLpShares, bind_eq_ok, okOr_eq_ok, ensure_eq_ok, pure, Except.pure,
    Except.ok.injEq] at h
  obtain ⟨-, -, yf, hyf, -, hactive, gf, hgf, -, -, p, hp, ⟨b₁, gf₁, _⟩, hsync, ⟨yf₂, gf₂⟩, hsy,
    -, -, _, -, _, -, _, -, gf₃, hadd, d₁, hd₁, yf₃, hinc, rfl⟩ := h
  have hp' := getCurrentPeriod_eq_ok hp
  have hu : yf.updatedAt ≤ p := hp' ▸ hI.updatedAt _ yf gf hyf hgf
  obtain ⟨hev, -, hact⟩ := syncYieldFarm_evolves hsy hu
  have hc₃ := GlobalFarmData.addStake_clock hadd
  have hy₃ := YieldFarmData.increaseEntriesCount_clock hinc
  refine ⟨hI.syncBoth hgf hyf rfl hp' hsync hsy hc₃ hy₃, rfl, fun hd => ?_⟩
  rw [DepositData.addYieldFarmEntry_eq_ok hd₁]
  intro e he
  rcases List.mem_append.mp he with he | he
  · exact hd e he
  -- the new entry names the synced farms, whose ids are the keys of the write
  obtain rfl := List.mem_singleton.mp he
  have hg₃ : gf₃.id = g := by
    have hc : gf₃.clock = gf.clock :=
      hc₃.trans ((syncYieldFarm_clock hsy).trans (syncGlobalFarm_clock hsync))
    exact (Prod.ext_iff.mp hc).1.trans (hI.globalKeyed g gf hgf).1
  obtain ⟨hyid, -, hle⟩ := hI.yieldKeyed _ yf hyf
  have hy₂ : yf₂.id = yid := hev.id.trans hyid
  refine ⟨hy₂ ▸ hle, fun y hy => ?_⟩
  dsimp only [YieldFarmEntry.new] at hy
  rw [hg₃, hy₂, AList.lookup_insert, Option.some.injEq] at hy
  subst hy
  rw [hy₃, ← hact hactive]
  exact EntryOk.new yf₂.clock gf₃.id valuedShares

theorem depositLpShares_loyalty {g yid sharesAmount valuedShares : Nat} {ammPoolId : AmmPoolId}
    {r : State AssetId AccountId AmmPoolId × Nat} (hI : LoyaltyInv s.ledger)
    (h : depositLpShares cfg s g yid ammPoolId sharesAmount valuedShares = .ok r) :
    LoyaltyInv r.1.ledger ∧ FarmsEvolve s.yieldFarm r.1.yieldFarm := by
  simp only [depositLpShares, bind_eq_ok, pure, Except.pure, Except.ok.injEq] at h
  obtain ⟨⟨s₁, d⟩, hdep, _, -, rfl⟩ := h
  obtain ⟨⟨hI₁, hev⟩, -, hnew⟩ := doDepositLpShares_loyalty hI hdep
  -- a new deposit has no entries of its own
  have hd : EntriesOk s₁.farmSequencer s₁.yieldFarm d :=
    hnew fun e he => by simp [DepositData.new] at he
  exact ⟨hI₁.insertDeposit hd, hev⟩

theorem redepositLpShares_loyalty {g yid depositId valuedShares : Nat}
    {r : State AssetId AccountId AmmPoolId × Nat × AmmPoolId} (hI : LoyaltyInv s.ledger)
    (h : redepositLpShares cfg s g yid depositId valuedShares = .ok r) :
    LoyaltyInv r.1.ledger ∧ FarmsEvolve s.yieldFarm r.1.yieldFarm := by
  simp only [redepositLpShares, bind_eq_ok, okOr_eq_ok, pure, Except.pure, Except.ok.injEq] at h
  obtain ⟨d₀, hd₀, ⟨s₁, d⟩, hdep, rfl⟩ := h
  obtain ⟨⟨hI₁, hev⟩, hdm, hnew⟩ := doDepositLpShares_loyalty hI hdep
  -- the deposit's earlier entries hold in the state after the deposit
  have hd₁ : s₁.deposit.lookup depositId = some d₀ := by
    rw [show s₁.deposit = s.deposit from hdm]
    exact hd₀
  have hd₀' : EntriesOk s₁.farmSequencer s₁.yieldFarm d₀ := hI₁.entries depositId d₀ hd₁
  exact ⟨hI₁.insertDeposit (hnew hd₀'), hev⟩

/-- `claim_rewards` syncs both farms and records the claim in the entry: what it records is
what was claimable at the synced farm. -/
theorem claimRewards_loyalty {who : AccountId} {depositId yid : Nat} {failOnDoubleclaim : Bool}
    {r : State AssetId AccountId AmmPoolId × Nat × AssetId × Nat × Nat} (hI : LoyaltyInv s.ledger)
    (h : claimRewards cfg s who depositId yid failOnDoubleclaim = .ok r) :
    LoyaltyInv r.1.ledger ∧ FarmsEvolve s.yieldFarm r.1.yieldFarm := by
  simp only [claimRewards, bind_eq_ok, okOr_eq_ok, ensure_eq_ok, pure, Except.pure,
    Except.ok.injEq] at h
  obtain ⟨d, hd, idx, hidx, entry, hentry, yf, hyf, -, -, gf, hgf, p, hp, -, -, ⟨b₁, gf₁, _⟩,
    hsync, ⟨yf₂, gf₂⟩, hsy, _, hds, _, hpe, periods, hperiods, m, hm, ⟨rewards, u⟩, hur, _, -,
    ⟨b₂, yf₃, e₃⟩, hpay, rfl⟩ := h
  have hey : entry.yieldFarmId = yid := DepositData.searchYieldFarmEntry_getElem hidx hentry
  obtain ⟨hle, hok⟩ := hI.entries _ d hd entry (List.mem_of_getElem? hentry)
  rw [hey] at hle hok
  have hp' := getCurrentPeriod_eq_ok hp
  have hu : yf.updatedAt ≤ p := hp' ▸ hI.updatedAt _ yf gf hyf hgf
  have hok₂ : EntryOk entry yf₂.clock := (hok yf hyf).evolve (syncYieldFarm_evolves hsy hu).1
  -- a reward of zero leaves the entry as it is; a paid one records the claim
  have hpaid : yf₃.clock = yf₂.clock ∧ (e₃ = entry ∨ rewards ≠ 0 ∧
      e₃ = { entry with
        accumulatedClaimedRewards := entry.accumulatedClaimedRewards + rewards, updatedAt := p }) := by
    split at hpay
    · cases hpay
      exact ⟨rfl, .inl rfl⟩
    · obtain ⟨hc, rfl⟩ := payClaim_eq_ok hpay
      exact ⟨hc, .inr ⟨‹_›, rfl⟩⟩
  obtain ⟨hy₃, he₃⟩ := hpaid
  have hper : entryPeriods entry yf₂.clock = some periods := by
    simp [entryPeriods, YieldFarmData.clock, hds, hpe, hperiods]
  have hok₃ : EntryOk e₃ yf₃.clock ∧ e₃.globalFarmId = entry.globalFarmId ∧
      e₃.yieldFarmId = entry.yieldFarmId := by
    rw [hy₃]
    rcases he₃ with rfl | ⟨hr, rfl⟩
    · exact ⟨hok₂, rfl, rfl⟩
    · exact ⟨hok₂.claim hper hm hur hr, rfl, rfl⟩
  obtain ⟨hok₃, hg₃, hy₃'⟩ := hok₃
  obtain ⟨hI₁, hfe⟩ := hI.syncBoth hgf hyf rfl hp' hsync hsy rfl hy₃
  -- the global farm is written under the id the recorded entry names, which is the same
  dsimp only
  rw [hg₃]
  refine ⟨hI₁.insertDeposit fun x hx => ?_, hfe⟩
  rcases List.mem_or_eq_of_mem_set hx with hx | rfl
  · exact hI₁.entries _ d hd x hx
  · rw [hey] at hy₃'
    refine ⟨hy₃' ▸ hle, fun y hy => ?_⟩
    rw [hg₃, hy₃', AList.lookup_insert, Option.some.injEq] at hy
    subst hy
    exact hok₃

theorem withdrawLpShares_loyalty {depositId yid u : Nat} {ammPoolId : AmmPoolId}
    {r : State AssetId AccountId AmmPoolId × Nat × Nat × Bool} (hI : LoyaltyInv s.ledger)
    (h : withdrawLpShares cfg s depositId yid u ammPoolId = .ok r) :
    LoyaltyInv r.1.ledger ∧ FarmsEvolve s.yieldFarm r.1.yieldFarm := by
  simp only [withdrawLpShares, bind_eq_ok, okOr_eq_ok, ensure_eq_ok, pure, Except.pure,
    Except.ok.injEq] at h
  obtain ⟨d₀, hd₀, ⟨d₁, fe⟩, hrem, -, -, gf, hgf, yf, hyf, _, -, _, -, gf₁, hgf₁, -, -,
    ⟨b₁, yf₂, gf₂⟩, hret, yf₃, hdec, ⟨gf₃, ym₁⟩, hstore, rfl⟩ := h
  -- only counters and totals change: both farms keep their clocks
  have hc₁ : gf₁.clock = gf.clock := by
    split at hgf₁
    · simp only [bind_eq_ok, okOr_eq_ok] at hgf₁
      obtain ⟨_, -, hrm⟩ := hgf₁
      exact GlobalFarmData.removeStake_clock hrm
    · cases hgf₁
      rfl
  have hc₂ : yf₂.clock = yf.clock ∧ gf₂.clock = gf₁.clock := by
    split at hret
    · cases hret
      exact ⟨rfl, rfl⟩
    · have hc := returnUnclaimable_clock hret
      exact hc
  have hy₃ := YieldFarmData.decreaseEntriesCount_clock hdec
  obtain ⟨hc₃, hym⟩ := storeOrRemoveYieldFarm_eq_ok hstore
  obtain ⟨hI₁, hfe⟩ := hI.storeOrRemoveYield hyf hym (hy₃.trans hc₂.1)
  have hI₂ := hI₁.storeOrRemoveGlobal hgf (hc₃.trans (hc₂.2.trans hc₁))
  -- the deposit keeps the entries it has left, or leaves storage
  obtain ⟨hamm, hsub⟩ := DepositData.removeYieldFarmEntry_eq_ok hrem
  refine ⟨?_, hfe⟩
  cases hcan : d₁.canBeRemoved
  · simp only [Bool.false_eq_true, if_false]
    exact hI₂.insertDeposit ((hI₂.entries _ d₀ hd₀).mono hamm hsub)
  · simp only [if_true]
    exact hI₂.eraseDeposit

end Calls

/-! ## Runs -/

section Run

variable [DecidableEq AssetId] [DecidableEq AccountId] [DecidableEq AmmPoolId]
  {cfg : Config AssetId AccountId}

/-- Every call moves every yield farm forward and keeps the invariant. -/
theorem LoyaltyInv.of_step {c : Call AssetId AccountId AmmPoolId}
    {s s' : State AssetId AccountId AmmPoolId} (hI : LoyaltyInv s.ledger)
    (h : step cfg c s = .ok s') : LoyaltyInv s'.ledger ∧ FarmsEvolve s.yieldFarm s'.yieldFarm := by
  cases c with
  | createGlobalFarm =>
    obtain ⟨r, hr, rfl⟩ := map_eq_ok.mp h
    exact createGlobalFarm_loyalty hI hr
  | updateGlobalFarmPriceAdjustment => exact updateGlobalFarmPriceAdjustment_loyalty hI h
  | updateGlobalFarm => exact updateGlobalFarm_loyalty hI h
  | terminateGlobalFarm =>
    obtain ⟨r, hr, rfl⟩ := map_eq_ok.mp h
    exact terminateGlobalFarm_loyalty hI hr
  | createYieldFarm =>
    obtain ⟨r, hr, rfl⟩ := map_eq_ok.mp h
    exact createYieldFarm_loyalty hI hr
  | updateYieldFarmMultiplier =>
    obtain ⟨r, hr, rfl⟩ := map_eq_ok.mp h
    exact updateYieldFarmMultiplier_loyalty hI hr
  | stopYieldFarm =>
    obtain ⟨r, hr, rfl⟩ := map_eq_ok.mp h
    exact stopYieldFarm_loyalty hI hr
  | resumeYieldFarm => exact resumeYieldFarm_loyalty hI h
  | terminateYieldFarm => exact terminateYieldFarm_loyalty hI h
  | depositLpShares =>
    obtain ⟨r, hr, rfl⟩ := map_eq_ok.mp h
    exact depositLpShares_loyalty hI hr
  | redepositLpShares =>
    obtain ⟨r, hr, rfl⟩ := map_eq_ok.mp h
    exact redepositLpShares_loyalty hI hr
  | claimRewards =>
    obtain ⟨r, hr, rfl⟩ := map_eq_ok.mp h
    exact claimRewards_loyalty hI hr
  | withdrawLpShares =>
    obtain ⟨r, hr, rfl⟩ := map_eq_ok.mp h
    exact withdrawLpShares_loyalty hI hr
  | advanceBlocks =>
    cases h
    exact ⟨hI.advance (Nat.le_add_right _ _), FarmsEvolve.refl _⟩

/-- A state without farms and without deposits. -/
def Unfarmed (s : State AssetId AccountId AmmPoolId) : Prop :=
  s.globalFarm = ∅ ∧ s.yieldFarm = ∅ ∧ s.deposit = ∅

omit [DecidableEq AssetId] [DecidableEq AccountId] in
theorem LoyaltyInv.of_unfarmed {s : State AssetId AccountId AmmPoolId} (h : Unfarmed s) :
    LoyaltyInv s.ledger := by
  obtain ⟨hg, hy, hd⟩ := h
  refine ⟨fun g gf h => ?_, fun k yf h => ?_, fun k yf h => ?_, fun k yf gf h => ?_,
    fun i d h => ?_⟩
  all_goals simp [State.ledger, hg, hy, hd] at h

theorem LoyaltyInv.reachable {s : State AssetId AccountId AmmPoolId}
    (hs : Reachable Unfarmed (step cfg) s) : LoyaltyInv s.ledger :=
  Reachable.induction (fun _ h => LoyaltyInv.of_unfarmed h) (fun _ _ _ hI h => (hI.of_step h).1) hs

variable (cfg) in
/-- Over every run from a state without farms, every entry of a deposit against its stored
yield farm: what `claim_rewards` computes cannot fail in its subtractions, neither against the
stored farm nor against the farm synced to the current period as a claim syncs it, so the
claimed rewards never exceed the claimable ones, which never exceed the rewards earned; and
no call makes the claimable amount of the entry decrease. -/
theorem loyalty_claims_monotone_bounded {s : State AssetId AccountId AmmPoolId} (hs : Reachable Unfarmed (step cfg) s) :
    ∀ i d, s.deposit.lookup i = some d → ∀ e ∈ d.yieldFarmEntries, ∀ yf,
      s.yieldFarm.lookup (d.ammPoolId, e.globalFarmId, e.yieldFarmId) = some yf →
        ClaimBounded e yf ∧
        (∀ gf gf' : GlobalFarmData AssetId AccountId, ∀ yf₁ gf₁,
          s.globalFarm.lookup e.globalFarmId = some gf →
          syncYieldFarm yf gf' (s.blockNumber / gf.blocksPerPeriod) = .ok (yf₁, gf₁) →
            ClaimBounded e yf₁) ∧
        ∀ c s', step cfg c s = .ok s' → ∀ yf',
          s'.yieldFarm.lookup (d.ammPoolId, e.globalFarmId, e.yieldFarmId) = some yf' →
          ∀ v v', claimableRewards yf.loyaltyCurve e (stakedPeriods e yf.clock) yf.accumulatedRpvs = some v →
            claimableRewards yf'.loyaltyCurve e (stakedPeriods e yf'.clock) yf'.accumulatedRpvs =
              some v' → v ≤ v' := by
  intro i d hd e he yf hyf
  have hI := LoyaltyInv.reachable hs
  have hok : EntryOk e yf.clock := (hI.entries i d hd e he).2 yf hyf
  have hc := hI.curve _ yf hyf
  refine ⟨hok.claimBounded hc, fun gf gf' yf₁ gf₁ hgf hsy => ?_,
    fun c s' h yf' hyf' v v' hv hv' => ?_⟩
  · -- a claim first syncs the yield farm, which only moves it forward
    have hev := (syncYieldFarm_evolves hsy (hI.updatedAt _ yf gf hyf hgf)).1
    have hc₁ : validLoyaltyCurve yf₁.loyaltyCurve := by
      rw [show yf₁.loyaltyCurve = yf.loyaltyCurve from hev.loyaltyCurve]
      exact hc
    exact (hok.evolve hev).claimBounded hc₁
  · have hev := (hI.of_step h).2 _ yf yf' hyf hyf'
    rw [show yf'.loyaltyCurve = yf.loyaltyCurve from hev.loyaltyCurve] at hv'
    exact claimableRewards_le hc (hok.stakedPeriods_le hev) hev.accumulatedRpvs hv hv'

end Run

/-! ## The example runtime -/

theorem exampleGenesis_unfarmed : Unfarmed exampleGenesis := ⟨rfl, rfl, rfl⟩

/-- A yield farm with a loyalty curve from one half over ten periods, one deposit claimed
after five periods, stopped for three periods, resumed and claimed again two periods later. -/
def loyaltyRun : List (Call Nat Nat Nat) :=
  [.createGlobalFarm 100000 100 1 0 0 4 (PerThing.fromPercent 1) 1000 Fixed.one,
   .createYieldFarm 4 1 Fixed.one (some ⟨⟨500000000000000000, by decide⟩, 10⟩) 7 [0],
   .depositLpShares 1 2 7 10 3001,
   .advanceBlocks 5,
   .claimRewards 4 1 2 true,
   .stopYieldFarm 4 1 7,
   .advanceBlocks 3,
   .resumeYieldFarm 4 1 2 7 Fixed.one,
   .advanceBlocks 2,
   .claimRewards 4 1 2 true]

def loyaltyState : State Nat Nat Nat := run (step exampleConfig) loyaltyRun exampleGenesis

/-- The deposit's one entry after the run: `146` claimed over seven farmed periods. -/
def loyaltyEntry : YieldFarmEntry :=
  { globalFarmId := 1, yieldFarmId := 2, valuedShares := 3001, accumulatedRpvs := Fixed.zero,
    accumulatedClaimedRewards := 146, enteredAt := 0, updatedAt := 10, stoppedAtCreation := 0 }

/-- The yield farm after the run: updated at period `10`, three periods of it stopped. -/
def loyaltyYieldFarm : YieldFarmData :=
  { id := 2, updatedAt := 10, totalShares := 10, totalValuedShares := 3001,
    accumulatedRpvs := ⟨69310229923358879, by decide⟩,
    accumulatedRpz := ⟨69976674441852715, by decide⟩,
    loyaltyCurve := some ⟨⟨500000000000000000, by decide⟩, 10⟩, multiplier := Fixed.one,
    state := .active, entriesCount := 1, leftToDistribute := 62, totalStopped := 3 }

theorem loyalty_claims_monotone_bounded_loyaltyRun :
    loyaltyState.deposit.lookup 1 = some ⟨10, 7, [loyaltyEntry]⟩ ∧
      loyaltyState.yieldFarm.lookup (7, 1, 2) = some loyaltyYieldFarm ∧
      ClaimBounded loyaltyEntry loyaltyYieldFarm ∧
      (∀ gf gf' : GlobalFarmData Nat Nat, ∀ yf₁ gf₁, loyaltyState.globalFarm.lookup 1 = some gf →
        syncYieldFarm loyaltyYieldFarm gf' (loyaltyState.blockNumber / gf.blocksPerPeriod) =
          .ok (yf₁, gf₁) → ClaimBounded loyaltyEntry yf₁) ∧
      ∀ c s', step exampleConfig c loyaltyState = .ok s' → ∀ yf',
        s'.yieldFarm.lookup (7, 1, 2) = some yf' →
        ∀ v v', claimableRewards loyaltyYieldFarm.loyaltyCurve loyaltyEntry
            (stakedPeriods loyaltyEntry loyaltyYieldFarm.clock) loyaltyYieldFarm.accumulatedRpvs = some v →
          claimableRewards yf'.loyaltyCurve loyaltyEntry (stakedPeriods loyaltyEntry yf'.clock)
            yf'.accumulatedRpvs = some v' → v ≤ v' := by
  have hd : loyaltyState.deposit.lookup 1 = some ⟨10, 7, [loyaltyEntry]⟩ := by decide +kernel
  have hyf : loyaltyState.yieldFarm.lookup (7, 1, 2) = some loyaltyYieldFarm := by decide +kernel
  exact ⟨hd, hyf, loyalty_claims_monotone_bounded exampleConfig
    (reachable_run loyaltyRun (.init exampleGenesis_unfarmed)) 1 _ hd loyaltyEntry
    (List.mem_singleton_self _) _ hyf⟩

end Hydration.LiquidityMining
