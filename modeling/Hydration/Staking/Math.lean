import Hydration.Frame.Arith

/-!
# The staking math

`math/src/staking/math.rs`. Rewards are paid lazily: a global reward per stake grows by
`pending_rewards / total_stake` (rounded down) each time the pot is found to hold more than
it has reserved, and a position is owed the growth since it last settled, times its stake
(`calculate_rewards`, rounded down). The sigmoid turns a position's points into the
percentage of its rewards it may take.

The facts proved here are the ones the pallet's solvency rests on: rounding is always
toward the pot, and the payable percentage of the runtime never exceeds one.
-/

namespace Hydration.Staking.Math

open FixedPoint

/-- `FixedU128::DIV`: the inner units of one. -/
def unit : Nat := 1000000000000000000

/-- `calculate_accumulated_rps`. -/
def calculateAccumulatedRps (currentRewardPerStake : FixedU128) (pendingRewards totalStake : Nat) :
    Option FixedU128 := do
  let rps ← Fixed.checkedFromRational pendingRewards totalStake
  currentRewardPerStake.checkedAdd rps

/-- `calculate_slashed_points`. -/
def calculateSlashedPoints (points currentStake stakeIncrease stakeWeight minSlash : Nat) :
    Option Nat := do
  let stakeWeighted ← Word.checkedMul 128 currentStake stakeWeight
  let p ← Word.checkedMul 128 stakeIncrease points
  let slashed ← Word.checkedDiv p stakeWeighted
  pure (min (max (min slashed points) minSlash) points)

/-- `calculate_period_number`, for a nonzero `period_length` and `six_sec_block_since`: after
the switch to six-second blocks a period is twice as many blocks. -/
def calculatePeriodNumber (periodLength blockNumber sixSecBlockSince : Nat) : Nat :=
  if blockNumber ≤ sixSecBlockSince then blockNumber / periodLength
  else Word.saturatingAdd 128 sixSecBlockSince blockNumber / Word.saturatingMul 128 periodLength 2

/-- `calculate_points`: weighted time and action points, less the slashed points. -/
def calculatePoints (positionCreatedAt now timePointsPerPeriod : Nat) (timePointsWeight : Permill)
    (actionPoints : Nat) (actionPointsWeight : Perbill) (slashedPoints : Nat) : Option Nat := do
  let periods ← Word.checkedSub now positionCreatedAt
  let timePoints ← Word.checkedMul 128 periods timePointsPerPeriod
  let timePointsWeighted ←
    (Fixed.ofPerThing timePointsWeight : FixedU128).checkedMulInt timePoints
  let actionPointsWeighted ←
    (Fixed.ofPerThing actionPointsWeight : FixedU128).checkedMulInt actionPoints
  let points ← Word.checkedAdd 128 actionPointsWeighted timePointsWeighted
  Word.checkedSub points slashedPoints

/-- `saturating_mul` of two `FixedU128`, rounded down. -/
def saturatingMul (a b : FixedU128) : FixedU128 := Fixed.ofInnerSat (a.inner * b.inner / unit)

/-- `sigmoid`: `(ax)^4 / (b + (ax)^4)`. The fourth power is `saturating_pow(4)`, whose
square-and-multiply squares twice and multiplies the result, one, by the last square. -/
def sigmoid (x : Nat) (a : FixedU128) (b : Nat) : Option FixedU128 := do
  let ax ← a.checkedMul (Fixed.saturatingFromInteger x)
  let ax2 := saturatingMul ax ax
  let ax4 := saturatingMul Fixed.one (saturatingMul ax2 ax2)
  let denom ← ax4.checkedAdd (Fixed.saturatingFromInteger b)
  ax4.checkedDiv denom

/-- `calculate_rewards`: the growth of the reward per stake times the stake, rounded down. -/
def calculateRewards (accumulatedRewardPerStake rewardPerStake : FixedU128) (stake : Nat) :
    Option Nat := do
  let delta ← accumulatedRewardPerStake.checkedSub rewardPerStake
  delta.checkedMulInt stake

/-- `calculate_percentage_amount`. -/
def calculatePercentageAmount (amount : Nat) (percentage : FixedU128) : Nat :=
  percentage.saturatingMulInt amount

/-- `calculate_total_rewards`. -/
def calculateTotalRewards (newRewards lockedRewards unpaidRewards : Nat) : Nat :=
  Word.saturatingAdd 128 (Word.saturatingAdd 128 newRewards lockedRewards) unpaidRewards

/-! ## Rounding toward the pot -/

/-- The reward per stake grows by at most `pending_rewards / total_stake`. -/
theorem calculateAccumulatedRps_growth {rps rps' : FixedU128} {pending total : Nat}
    (h : calculateAccumulatedRps rps pending total = some rps') :
    rps.inner ≤ rps'.inner ∧ (rps'.inner - rps.inner) * total ≤ pending * unit := by
  simp only [calculateAccumulatedRps, Option.bind_eq_bind, Option.bind_eq_some_iff] at h
  obtain ⟨r, hr, hadd⟩ := h
  obtain ⟨htotal, hinner⟩ := Fixed.checkedFromRational_eq_some.mp hr
  have hsum : rps'.inner = rps.inner + r.inner := Fixed.ofInner?_eq_some.mp hadd
  refine ⟨by omega, ?_⟩
  rw [hsum, Nat.add_sub_cancel_left, hinner]
  exact Nat.div_mul_le_self _ _

/-- What a position is owed, times `unit`, is at most the growth times the stake. -/
theorem calculateRewards_mul_le {rps rps' : FixedU128} {stake n : Nat}
    (h : calculateRewards rps rps' stake = some n) : n * unit ≤ (rps.inner - rps'.inner) * stake := by
  simp only [calculateRewards, Option.bind_eq_bind, Option.bind_eq_some_iff] at h
  obtain ⟨delta, hsub, hmul⟩ := h
  have hdelta : delta.inner = rps.inner - rps'.inner := by
    unfold Fixed.checkedSub at hsub
    split at hsub
    · cases hsub
      rfl
    · cases hsub
  rw [← hdelta]
  exact Fixed.checkedMulInt_mul_le hmul

/-- `calculate_rewards` succeeds when the position is behind and the reward fits a word. -/
theorem calculateRewards_of_le {rps rps' : FixedU128} {stake : Nat} (hle : rps'.inner ≤ rps.inner)
    (hfit : (rps.inner - rps'.inner) * stake / unit ≤ Word.max 128) :
    calculateRewards rps rps' stake = some ((rps.inner - rps'.inner) * stake / unit) := by
  have hsub : rps.checkedSub rps' = some ⟨rps.inner - rps'.inner, le_trans (Nat.sub_le _ _) rps.le_max⟩ := by
    simp [Fixed.checkedSub, hle]
  simp only [calculateRewards, Option.bind_eq_bind, hsub, Option.bind_some]
  exact (Fixed.checkedMulInt_eq_some (n := stake)).mpr ⟨by decide, hfit, rfl⟩

/-- A percentage of at most one takes at most the amount. -/
theorem calculatePercentageAmount_le {percentage : FixedU128} (hp : percentage.inner ≤ unit)
    (amount : Nat) : calculatePercentageAmount amount percentage ≤ amount := by
  unfold calculatePercentageAmount Fixed.saturatingMulInt
  refine le_trans (min_le_left _ _) (Nat.div_le_of_le_mul ?_)
  calc percentage.inner * amount ≤ unit * amount := Nat.mul_le_mul_right _ hp
    _ = 1000000000000000000 * amount := rfl

/-- The total less what is locked is at most the new and the unpaid rewards. -/
theorem calculateTotalRewards_sub_le (newRewards lockedRewards unpaidRewards : Nat) :
    calculateTotalRewards newRewards lockedRewards unpaidRewards - lockedRewards ≤
      newRewards + unpaidRewards := by
  unfold calculateTotalRewards Word.saturatingAdd
  omega

/-- The sigmoid is at most one: the fourth power is at most the denominator. -/
theorem sigmoid_le_one {x b : Nat} {a p : FixedU128} (h : sigmoid x a b = some p) :
    p.inner ≤ unit := by
  simp only [sigmoid, Option.bind_eq_bind, Option.bind_eq_some_iff] at h
  obtain ⟨ax, -, denom, hdenom, hdiv⟩ := h
  have hd : denom.inner = (saturatingMul Fixed.one (saturatingMul (saturatingMul ax ax)
      (saturatingMul ax ax))).inner + (Fixed.saturatingFromInteger b : FixedU128).inner :=
    Fixed.ofInner?_eq_some.mp hdenom
  unfold Fixed.checkedDiv at hdiv
  split at hdiv
  · cases hdiv
  · rw [Fixed.ofInner?_eq_some] at hdiv
    rw [hdiv]
    apply Nat.div_le_of_le_mul
    rw [hd]
    exact Nat.mul_le_mul (Nat.le_add_right _ _) le_rfl

end Hydration.Staking.Math
