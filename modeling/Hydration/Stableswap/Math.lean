import Hydration.Frame.Arith
import Hydration.Frame.Returns

/-!
# Stableswap math

`math/src/stableswap/math.rs`: the invariant `D` of a Curve-style pool and the amounts
of its liquidity operations and trades. Reserves are first normalized to eighteen
decimals and multiplied by their pegs; `D` and the reserve `y` that keeps a given `D`
are then found by Newton's method over `U256` (`Word.checkedMul u256`), each step
adding two so that the result errs upward, and stopping as soon as two successive
values are within `PRECISION` of each other or the iterations run out.

The iteration counts are the const generics `D` and `Y` of the source, passed here
as `dIterations` and `yIterations`; the pallet uses `MAX_D_ITERATIONS` and
`MAX_Y_ITERATIONS`. Rust's `sort` of the reserves is `List.insertionSort`, which the
Newton steps depend on, since every product in them is rounded down in order.
-/

namespace Hydration.Stableswap

open FixedPoint

abbrev u128 : Nat := 128

abbrev u256 : Nat := 256

/-- `MAX_D_ITERATIONS`. -/
def maxDIterations : Nat := 64

/-- `MAX_Y_ITERATIONS`. -/
def maxYIterations : Nat := 128

/-- `TARGET_PRECISION`: every reserve is normalized to eighteen decimals. -/
def targetPrecision : Nat := 18

/-- `PRECISION`: the convergence bound of Newton's method. -/
def precision : Nat := 1

/-- `AssetReserve`: an amount and the decimals of its asset. -/
structure AssetReserve where
  amount : Nat
  decimals : Nat
  deriving DecidableEq, Repr

/-- The math crate's own `Rounding` of `normalize_value`. -/
inductive Rounding
  | down
  | up
  deriving DecidableEq

/-! ## Normalization and pegs -/

/-- `normalize_value`: scale `amount` from `decimals` to `targetDecimals`. -/
def normalizeValue (amount decimals targetDecimals : Nat) (rounding : Rounding) : Nat :=
  if targetDecimals = decimals then amount
  else
    let diff := Word.absDiff targetDecimals decimals
    if decimals < targetDecimals then
      Word.saturatingMul u128 amount (Word.saturatingPow u128 10 diff)
    else
      match rounding with
      | .down => amount / Word.saturatingPow u128 10 diff
      | .up => Word.saturatingAdd u128 (amount / Word.saturatingPow u128 10 diff) 1

/-- `normalize_reserves`: every amount at eighteen decimals, rounded down. -/
def normalizeReserves (reserves : List AssetReserve) : List Nat :=
  reserves.map fun v => normalizeValue v.amount v.decimals targetPrecision .down

/-- `peg_reserves`: each reserve times its peg `(numerator, denominator)`, rounded down. -/
def pegReserves (reserves : List Nat) (pegs : List (Nat × Nat)) : Option (List Nat) :=
  (reserves.zip pegs).mapM fun (v, peg) => multiplyByRationalWithRounding v peg.1 peg.2 .down

/-- `calculate_ann`: `amplification * n`, checked. -/
def calculateAnn (n amplification : Nat) : Option Nat :=
  Word.checkedMul u128 amplification n

/-- `has_converged`: a step up may move by `precision`, a step down by less. -/
def hasConverged (v0 v1 prec : Nat) : Bool :=
  let diff := Word.absDiff v0 v1
  (v1 ≤ v0 && diff < prec) || (v0 < v1 && diff ≤ prec)

/-- The pegged reserves with zeros dropped and sorted, as `calculate_d_internal` and
`calculate_y_internal` prepare them; none when some but not all reserves are zero. -/
def sortedNonzero (xp : List Nat) : Option (List Nat) :=
  let nonzero := xp.filter (· ≠ 0)
  if nonzero.length ≠ xp.length ∧ nonzero ≠ [] then none
  else some (nonzero.insertionSort (· ≤ ·))

/-- The sum of the reserves over `U256`. -/
def sumU256 (xp : List Nat) : Option Nat :=
  xp.foldlM (fun acc x => Word.checkedAdd u256 acc x) 0

/-! ## The invariant `D` -/

/-- `d_p = d^(n+1) / (n^n * Π xp)`, rounded down after each factor, as the `try_fold` of
`calculate_d_internal` computes it. -/
def dProduct (xp : List Nat) (nCoins d : Nat) : Option Nat :=
  xp.foldlM (fun acc v => do
    let num ← Word.checkedMul u256 acc d
    let den ← Word.checkedMul u256 v nCoins
    Word.checkedDiv num den) d

/-- One Newton step for `D`, two added for rounding. -/
def nextD (xp : List Nat) (ann s nCoins d : Nat) : Option Nat := do
  let dP ← dProduct xp nCoins d
  let a ← Word.checkedMul u256 ann s
  let b ← Word.checkedMul u256 dP nCoins
  let num ← Word.checkedAdd u256 a b
  let num ← Word.checkedMul u256 num d
  let annMinusOne ← Word.checkedSub ann 1
  let den ← Word.checkedMul u256 annMinusOne d
  let nPlusOne ← Word.checkedAdd u256 nCoins 1
  let c ← Word.checkedMul u256 nPlusOne dP
  let den ← Word.checkedAdd u256 den c
  let d ← Word.checkedDiv num den
  Word.checkedAdd u256 d 2

/-- The loop of `calculate_d_internal`: at most `fuel` more steps from `d`, returning as
soon as a step has converged, and the last value when the steps run out. -/
def iterateD (xp : List Nat) (ann s nCoins : Nat) : Nat → Nat → Option Nat
  | 0, d => Word.tryFrom u128 d
  | fuel + 1, d => do
    let d' ← nextD xp ann s nCoins d
    if hasConverged d d' precision then Word.tryFrom u128 d'
    else iterateD xp ann s nCoins fuel d'

/-- `calculate_d_internal`: the invariant of reserves already normalized. -/
def calculateDInternal (dIterations : Nat) (xp : List Nat) (amplification : Nat)
    (pegs : List (Nat × Nat)) : Option Nat := do
  let xp ← pegReserves xp pegs
  let xpHp ← sortedNonzero xp
  let ann ← calculateAnn xpHp.length amplification
  let nCoins := xpHp.length
  let s ← sumU256 xpHp
  if s = 0 then some 0
  else iterateD xpHp ann s nCoins dIterations s

/-- `calculate_d`. -/
def calculateD (dIterations : Nat) (reserves : List AssetReserve) (amplification : Nat)
    (pegs : List (Nat × Nat)) : Option Nat :=
  if reserves.length ≤ 1 ∨ pegs.length ≠ reserves.length then none
  else calculateDInternal dIterations (normalizeReserves reserves) amplification pegs

/-! ## The reserve `y` for a given `D` -/

/-- One Newton step for `y`: `(y² + c) / (2y + b - D) + 2`. -/
def nextY (b c d y : Nat) : Option Nat := do
  let yy ← Word.checkedMul u256 y y
  let num ← Word.checkedAdd u256 yy c
  let twoY ← Word.checkedMul u256 2 y
  let den ← Word.checkedAdd u256 twoY b
  let den ← Word.checkedSub den d
  let y ← Word.checkedDiv num den
  Word.checkedAdd u256 y 2

/-- The loop of `calculate_y_internal`. -/
def iterateY (b c d : Nat) : Nat → Nat → Option Nat
  | 0, y => some y
  | fuel + 1, y => do
    let y' ← nextY b c d y
    if hasConverged y y' precision then some y'
    else iterateY b c d fuel y'

/-- `calculate_y_internal`: the reserve of the omitted asset that gives the others
invariant `d`, converted back through the omitted asset's peg, rounded down. -/
def calculateYInternal (yIterations : Nat) (xp : List Nat) (d amplification : Nat)
    (pegs : List (Nat × Nat)) (pegOmit : Nat × Nat) : Option Nat := do
  let xp ← pegReserves xp pegs
  let xpHp ← sortedNonzero xp
  -- the omitted asset counts among the coins
  let nCoins := xpHp.length + 1
  let ann ← calculateAnn nCoins amplification
  let s ← sumU256 xpHp
  let c ← xpHp.foldlM (fun c reserve => do
    let num ← Word.checkedMul u256 c d
    let den ← Word.checkedMul u256 reserve nCoins
    Word.checkedDiv num den) d
  let num ← Word.checkedMul u256 c d
  let den ← Word.checkedMul u256 ann nCoins
  let c ← Word.checkedDiv num den
  let dOverAnn ← Word.checkedDiv d ann
  let b ← Word.checkedAdd u256 s dOverAnn
  let y ← iterateY b c d yIterations d
  let r ← Word.tryFrom u128 y
  multiplyByRationalWithRounding r pegOmit.2 pegOmit.1 .down

/-! ## Liquidity -/

/-- The fee on imbalance, `fee * n / (4 * (n - 1))` in `FixedU128`, computed the same way
at the start of every liquidity function. -/
def imbalanceFee (fee : Permill) (assetsCt : Nat) : Option FixedU128 := do
  let fixedFee : FixedU128 := Fixed.ofPerThing fee
  let f ← fixedFee.checkedMul (Fixed.saturatingFromInteger assetsCt)
  f.checkedDiv (Fixed.saturatingFromInteger (4 * (assetsCt - 1)))

/-- The closure of `calculate_shares` and `calculate_shares_for_amount` that charges the
imbalance fee on one reserve: its distance from the ideal `d1 / d0` share of the initial
reserve, times the fee, is taken off. Returns the fee amount and the adjusted reserve. -/
def adjustReserve (fee : FixedU128) (d0 d1 : Nat) (initial updated : AssetReserve) :
    Option (Nat × AssetReserve) := do
  let num ← Word.checkedMul u256 d1 initial.amount
  let idealBalance ← Word.checkedDiv num d0
  let diff ← Word.tryFrom u128 (Word.absDiff updated.amount idealBalance)
  let feeAmount ← fee.checkedMulInt diff
  pure (feeAmount, ⟨updated.amount - feeAmount, updated.decimals⟩)

/-- `adjustReserve` over all reserves: the fee amounts and the adjusted reserves. -/
def adjustReserves (fee : FixedU128) (d0 d1 : Nat) (initial updated : List AssetReserve) :
    Option (List Nat × List AssetReserve) :=
  ((initial.zip updated).mapM fun (i, u) => adjustReserve fee d0 d1 i u).map List.unzip

/-- `calculate_shares`: the shares for moving the pool from `initialReserves` to
`updatedReserves` by adding liquidity, and the fee charged on each asset. -/
def calculateShares (dIterations : Nat) (initialReserves updatedReserves : List AssetReserve)
    (amplification shareIssuance : Nat) (fee : Permill) (pegs : List (Nat × Nat)) :
    Option (Nat × List Nat) :=
  let assetsCt := initialReserves.length
  if assetsCt ≤ 1 ∨ updatedReserves.length ≠ assetsCt ∨ pegs.length ≠ assetsCt then none
  else do
    let initialD ← calculateD dIterations initialReserves amplification pegs
    -- `D` errs upward by up to two, so two is taken off to round the new `D` down
    let updatedD ← calculateD dIterations updatedReserves amplification pegs
    let updatedD ← Word.checkedSub updatedD 2
    if updatedD < initialD then none
    else do
      let fee ← imbalanceFee fee assetsCt
      let (fees, adjustedReserves) ← (if 0 < shareIssuance then
          adjustReserves fee initialD updatedD initialReserves updatedReserves
        else some ([], updatedReserves))
      let adjustedD ← calculateD dIterations adjustedReserves amplification pegs
      if shareIssuance = 0 then some (updatedD, fees)
      else do
        let dDiff ← Word.checkedSub adjustedD initialD
        let num ← Word.checkedMul u256 shareIssuance dDiff
        let shareAmount ← Word.checkedDiv num initialD
        let sharesAmount ← Word.tryFrom u128 shareAmount
        pure (sharesAmount, fees)

/-- The reserves after `amount` of asset `assetIdx` is withdrawn. -/
def withdrawReserve (reserves : List AssetReserve) (assetIdx amount : Nat) :
    Option (List AssetReserve) :=
  reserves.zipIdx.mapM fun (v, idx) =>
    if idx = assetIdx then (Word.checkedSub v.amount amount).map fun a => ⟨a, v.decimals⟩
    else some v

/-- `calculate_shares_for_amount`: the shares to burn for withdrawing `amount` of asset
`assetIdx`, rounded up by one, and the fee charged on each asset. -/
def calculateSharesForAmount (dIterations : Nat) (initialReserves : List AssetReserve)
    (assetIdx amount amplification shareIssuance : Nat) (fee : Permill)
    (pegs : List (Nat × Nat)) : Option (Nat × List Nat) :=
  let assetsCt := initialReserves.length
  if assetsCt ≤ 1 ∨ assetsCt ≤ assetIdx ∨ pegs.length ≠ assetsCt then none
  else do
    let fee ← imbalanceFee fee assetsCt
    let updatedReserves ← withdrawReserve initialReserves assetIdx amount
    let initialD ← calculateD dIterations initialReserves amplification pegs
    let updatedD ← calculateD dIterations updatedReserves amplification pegs
    let (fees, adjustedReserves) ←
      adjustReserves fee initialD updatedD initialReserves updatedReserves
    let adjustedD ← calculateD dIterations adjustedReserves amplification pegs
    let dDiff ← Word.checkedSub initialD adjustedD
    let num ← Word.checkedMul u256 shareIssuance dDiff
    let shareAmount ← Word.checkedDiv num initialD
    let shareAmount ← Word.checkedAdd u256 shareAmount 1
    let shares ← Word.tryFrom u128 shareAmount
    pure (shares, fees)

/-- `calculate_liquidity_out`: the pro-rata amount of one reserve for `shareAmount`
shares, rounded down. (`as_u128` panics where the model fails.) -/
def calculateLiquidityOut (reserve shareAmount shareIssuance : Nat) : Option Nat := do
  let num ← Word.checkedMul u256 reserve shareAmount
  let amount ← Word.checkedDiv num shareIssuance
  Word.tryFrom u128 amount

/-- The loop of `calculate_withdraw_one_asset` and `calculate_add_one_asset`: each reserve
less the fee on its expected change `dxExpected idx reserve`. -/
def reduceReserves (fee : FixedU128) (xp : List Nat) (dxExpected : Nat → Nat → Option Nat) :
    Option (List Nat) :=
  xp.zipIdx.mapM fun (reserve, idx) => do
    let dx ← dxExpected idx reserve
    let expected ← Word.tryFrom u128 dx
    let r ← Word.tryFrom u128 reserve
    let f ← fee.checkedMulInt expected
    Word.checkedSub r f

/-- The guard shared by the two one-asset functions. -/
def oneAssetGuard (reserves : List AssetReserve) (shares assetIdx shareAssetIssuance : Nat)
    (pegs : List (Nat × Nat)) : Bool :=
  reserves.length ≤ 1 || reserves.length ≤ assetIdx || pegs.length != reserves.length ||
    shares == 0 || shareAssetIssuance < shares

/-- `calculate_withdraw_one_asset`: the amount of asset `assetIdx` paid for burning `shares`
shares, and the fee kept by the pool. -/
def calculateWithdrawOneAsset (dIterations yIterations : Nat) (reserves : List AssetReserve)
    (shares assetIdx shareAssetIssuance amplification : Nat) (fee : Permill)
    (pegs : List (Nat × Nat)) : Option (Nat × Nat) :=
  if oneAssetGuard reserves shares assetIdx shareAssetIssuance pegs then none
  else do
    let assetOutDecimals := (reserves.getD assetIdx ⟨0, 0⟩).decimals
    let reserves := normalizeReserves reserves
    let fee ← imbalanceFee fee reserves.length
    let initialD ← calculateDInternal dIterations reserves amplification pegs
    let num ← Word.checkedMul u256 shares initialD
    let burned ← Word.checkedDiv num shareAssetIssuance
    let d1 ← Word.checkedSub initialD burned
    let xp := reserves.eraseIdx assetIdx
    let pegOmit := pegs.getD assetIdx (0, 0)
    let rPegs := pegs.eraseIdx assetIdx
    let d1' ← Word.tryFrom u128 d1
    let y ← calculateYInternal yIterations xp d1' amplification rPegs pegOmit
    let scaled := fun reserve => do
      let num ← Word.checkedMul u256 reserve d1
      Word.checkedDiv num initialD
    let reduced ← reduceReserves fee reserves fun idx reserve =>
      if idx = assetIdx then scaled reserve >>= fun r => Word.checkedSub r y
      else scaled reserve >>= fun r => Word.checkedSub reserve r
    let assetReserve := reduced.getD assetIdx 0
    let y1 ← calculateYInternal yIterations (reduced.eraseIdx assetIdx) d1' amplification rPegs
      pegOmit
    let dy ← Word.checkedSub assetReserve y1
    let dy0 ← Word.checkedSub (reserves.getD assetIdx 0) y
    let fee ← Word.checkedSub dy0 dy
    let amountOut := normalizeValue dy targetPrecision assetOutDecimals .down
    let fee := normalizeValue fee targetPrecision assetOutDecimals .down
    pure (amountOut, fee)

/-- `calculate_add_one_asset`: the amount of asset `assetIdx` to pay for `shares` new
shares, and the fee included in it. -/
def calculateAddOneAsset (dIterations yIterations : Nat) (reserves : List AssetReserve)
    (shares assetIdx shareAssetIssuance amplification : Nat) (fee : Permill)
    (pegs : List (Nat × Nat)) : Option (Nat × Nat) :=
  if oneAssetGuard reserves shares assetIdx shareAssetIssuance pegs then none
  else do
    let assetInDecimals := (reserves.getD assetIdx ⟨0, 0⟩).decimals
    let reserves := normalizeReserves reserves
    let initialD ← calculateDInternal dIterations reserves amplification pegs
    let num ← Word.checkedMul u256 shares initialD
    let minted ← Word.checkedDiv num shareAssetIssuance
    let d1 ← Word.checkedAdd u256 initialD minted
    let xp := reserves.eraseIdx assetIdx
    let pegOmit := pegs.getD assetIdx (0, 0)
    let rPegs := pegs.eraseIdx assetIdx
    let d1' ← Word.tryFrom u128 d1
    let y ← calculateYInternal yIterations xp d1' amplification rPegs pegOmit
    let fee ← imbalanceFee fee reserves.length
    let scaled := fun reserve => do
      let num ← Word.checkedMul u256 reserve d1
      Word.checkedDiv num initialD
    let reduced ← reduceReserves fee reserves fun idx reserve =>
      if idx = assetIdx then scaled reserve >>= fun r => Word.checkedSub y r
      else scaled reserve >>= fun r => Word.checkedSub r reserve
    let assetReserve := reduced.getD assetIdx 0
    let y1 ← calculateYInternal yIterations (reduced.eraseIdx assetIdx) d1' amplification rPegs
      pegOmit
    let dy ← Word.checkedSub y1 assetReserve
    let dy0 ← Word.checkedSub y assetReserve
    let fee ← Word.checkedSub dy dy0
    let amountIn := normalizeValue dy targetPrecision assetInDecimals .up
    let fee := normalizeValue fee targetPrecision assetInDecimals .down
    pure (amountIn, fee)

end Hydration.Stableswap
