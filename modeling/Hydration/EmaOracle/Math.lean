import Hydration.Frame.Arith
import Hydration.GigaHdx.Pallet

/-!
# EMA math

The `ema` module of `hydra-dx-math`: the weighted averages an EMA oracle takes of its previous
value and an incoming one, and the smoothing factor of several blocks at once.

A price is a `u128` rational (`Ratio`). Its difference to the incoming price and the product
with the weight are kept exact in 256 and 512 bits, reduced to 383 bits before the sum with the
previous price and rounded back to 128 bits by shifting numerator and denominator alike, with a
bias of one on one side. A balance is averaged with `multiply_by_rational_with_rounding`. The
weight is a `Fraction`, the bits of a `U1F127` over `2^127`; the weight of `k` blocks is
`1 - (1 - α)^k`, computed by the fixed-point power of `transcendental`.

* `multiplyByBalance_le`, `balanceWeightedAverage_between`: a balance average lies between the
  previous and the incoming balance for every weight of at most one;
* `saturatingPowiHighPrecision_le_one`: the power of a fraction of at most one is at most one,
  on both branches of the code, square-and-multiply and the alternating Taylor series near one;
* `expSmoothing_le_one`: so the weight of an outdated oracle is a weight of at most one.
-/

namespace Hydration.GigaHdx.Ratio

/-- `Ratio::is_zero`. -/
def isZero (r : Ratio) : Bool := r.n == 0

/-- `Ratio::inverted`: zero inverts to zero. -/
def inverted (r : Ratio) : Ratio := if r.isZero then r else ⟨r.d, r.n⟩

end Hydration.GigaHdx.Ratio

namespace Hydration.EmaOracle

open GigaHdx (Ratio)

/-! ## Fixed-point powers (`transcendental`) -/

/-- `bits()` of an unsigned integer: the position of its highest set bit. -/
def bits (n : Nat) : Nat := if n = 0 then 0 else Nat.log2 n + 1

section Transcendental

/- An unsigned fixed-point number of the `fixed` crate, with `frac` fractional bits in a word
of `width` bits, is its bits: `one()` is `2 ^ frac`. -/
variable (width frac : Nat)

/-- `saturating_mul` of two fixed-point numbers: the exact product truncated to `frac`
fractional bits, saturated at the word's bound. -/
def fixedSaturatingMul (a b : Nat) : Nat := min (a * b / 2 ^ frac) (Word.max width)

/-- `checked_mul` of two fixed-point numbers. -/
def fixedCheckedMul (a b : Nat) : Option Nat := Word.tryFrom width (a * b / 2 ^ frac)

/-- The loop of `saturating_pow` over the bits of the exponent, lowest first: `result`
collects the squares `powVal` of the set bits. -/
def saturatingPowLoop : Nat → Nat → Nat → Nat → Nat
  | 0, _, result, _ => result
  | steps + 1, exp, result, powVal =>
    saturatingPowLoop steps (exp / 2)
      (if exp % 2 = 1 then fixedSaturatingMul width frac result powVal else result)
      (fixedSaturatingMul width frac powVal powVal)

/-- `saturating_pow`: square-and-multiply over the `32 - exp.leading_zeros()` bits of `exp`. -/
def saturatingPow (operand exp : Nat) : Nat :=
  if exp = 0 then 2 ^ frac
  else saturatingPowLoop width frac (bits exp) exp (2 ^ frac) operand

/-- The Taylor loop of `powi_near_one` from term `i` on, with `fuel` iterations left: the sums of
the positive and of the negative terms and the last term `t`. -/
def powiNearOneLoop (operand n oneMinusOperand : Nat) :
    Nat → Nat → Nat → Nat → Nat → Option Nat
  | 0, _, _, _, _ => none
  | fuel + 1, i, sPos, sMinus, t => do
    let b ← Word.checkedMul width oneMinusOperand (n - i + 1)
    let tFactor ← Word.checkedDiv b i
    let t ← fixedCheckedMul width frac t tFactor
    let sums ← (if i % 2 = 0 ∨ 2 ^ frac < operand then
        (Word.checkedAdd width sPos t).map fun s => (s, sMinus)
      else (Word.checkedAdd width sMinus t).map fun s => (sPos, s))
    if n ≤ i ∨ t = 0 then Word.checkedSub sums.1 sums.2
    else powiNearOneLoop operand n oneMinusOperand fuel (i + 1) sums.1 sums.2 t

/-- `powi_near_one`: `operand ^ n` by the binomial series of `(1 - x) ^ n`, for `x` below
`1 / n`, in at most 31 terms. -/
def powiNearOne (operand n : Nat) : Option Nat :=
  if n = 0 then some (2 ^ frac)
  else if n = 1 then some operand
  else do
    let oneMinusOperand ← Word.checkedSub (2 ^ frac) operand
    let bound ← Word.checkedDiv (2 ^ frac) n
    if bound ≤ oneMinusOperand then none
    else powiNearOneLoop width frac operand n oneMinusOperand 31 1 (2 ^ frac) 0 (2 ^ frac)

/-- `saturating_powi_high_precision` with the same source and target type: the Taylor series
when `1 - operand` is below a tenth over `n`, square-and-multiply otherwise or when the series
fails. -/
def saturatingPowiHighPrecision (operand n : Nat) : Nat :=
  if operand = 0 then 0
  else if n = 0 then 2 ^ frac
  else if n = 1 then operand
  else
    let boundary := 2 ^ frac / 10
    match Word.checkedDiv boundary n, Word.checkedSub (2 ^ frac) operand with
    | some b, some oneMinusOperand =>
      if oneMinusOperand < b then
        (powiNearOne width frac operand n).getD (saturatingPow width frac operand n)
      else saturatingPow width frac operand n
    | _, _ => saturatingPow width frac operand n

end Transcendental

section PowerBounds

/-! ### A power of at most one is at most one -/

variable {width frac : Nat}

theorem fixedSaturatingMul_le_left {a b : Nat} (hb : b ≤ 2 ^ frac) :
    fixedSaturatingMul width frac a b ≤ a := by
  have hprod : a * b ≤ 2 ^ frac * a := by
    rw [Nat.mul_comm (2 ^ frac)]
    exact Nat.mul_le_mul_left a hb
  exact (min_le_left _ _).trans (Nat.div_le_of_le_mul hprod)

theorem saturatingPowLoop_le {steps exp result powVal : Nat} (hr : result ≤ 2 ^ frac)
    (hp : powVal ≤ 2 ^ frac) : saturatingPowLoop width frac steps exp result powVal ≤ 2 ^ frac := by
  induction steps generalizing exp result powVal with
  | zero => exact hr
  | succ steps ih =>
    apply ih
    · split
      · exact (fixedSaturatingMul_le_left hp).trans hr
      · exact hr
    · exact (fixedSaturatingMul_le_left hp).trans hp

theorem saturatingPow_le {operand exp : Nat} (h : operand ≤ 2 ^ frac) :
    saturatingPow width frac operand exp ≤ 2 ^ frac := by
  unfold saturatingPow
  split
  · exact le_rfl
  · exact saturatingPowLoop_le le_rfl h

/-- The Taylor loop's partial sums alternate below one. Entering term `i`, the positive sum is
at most the negative sum plus one, and so is the positive sum with the last term when that term
was a positive one. Each term is at most the one before, since `(1 - operand) * n` is below
one. -/
theorem powiNearOneLoop_le {operand n omo fuel i sPos sMinus t v : Nat}
    (hop : operand ≤ 2 ^ frac) (hfactor : omo * n < 2 ^ frac) (hn : 1 ≤ n) (hi : 1 ≤ i)
    (hsums : sPos ≤ sMinus + 2 ^ frac) (heven : i % 2 = 0 → sPos + t ≤ sMinus + 2 ^ frac)
    (h : powiNearOneLoop width frac operand n omo fuel i sPos sMinus t = some v) :
    v ≤ 2 ^ frac := by
  induction fuel generalizing i sPos sMinus t with
  | zero => simp [powiNearOneLoop] at h
  | succ fuel ih =>
    simp only [powiNearOneLoop, Option.bind_eq_bind, Option.bind_eq_some_iff,
      Word.checkedMul_eq_some, Word.checkedDiv_eq_some, fixedCheckedMul, Word.tryFrom_eq_some]
      at h
    obtain ⟨b, ⟨-, rfl⟩, tFactor, ⟨-, rfl⟩, t', ⟨-, rfl⟩, sums, hsums', hret⟩ := h
    -- the new term is at most the last one
    have hb : omo * (n - i + 1) ≤ omo * n := Nat.mul_le_mul_left omo (by omega)
    have hfac : omo * (n - i + 1) / i ≤ 2 ^ frac :=
      (Nat.div_le_self _ _).trans (hb.trans hfactor.le)
    have hterm : t * (omo * (n - i + 1) / i) / 2 ^ frac ≤ t :=
      Nat.div_le_of_le_mul (by rw [Nat.mul_comm (2 ^ frac)]; exact Nat.mul_le_mul_left t hfac)
    generalize t * (omo * (n - i + 1) / i) / 2 ^ frac = t' at hterm hsums' hret ⊢
    -- a positive term on even `i`, a negative one on odd `i`
    have hnext : sums.1 ≤ sums.2 + 2 ^ frac ∧
        ((i + 1) % 2 = 0 → sums.1 + t' ≤ sums.2 + 2 ^ frac) := by
      by_cases hpar : i % 2 = 0
      · rw [if_pos (.inl hpar)] at hsums'
        simp only [Option.map_eq_some_iff, Word.checkedAdd_eq_some] at hsums'
        obtain ⟨s, ⟨-, rfl⟩, rfl⟩ := hsums'
        have := heven hpar
        constructor <;> dsimp only <;> omega
      · rw [if_neg (by omega)] at hsums'
        simp only [Option.map_eq_some_iff, Word.checkedAdd_eq_some] at hsums'
        obtain ⟨s, ⟨-, rfl⟩, rfl⟩ := hsums'
        constructor <;> dsimp only <;> omega
    split at hret
    · simp only [Word.checkedSub_eq_some] at hret
      omega
    · exact ih (by omega) hnext.1 hnext.2 hret

theorem powiNearOne_le {operand n v : Nat} (hop : operand ≤ 2 ^ frac)
    (h : powiNearOne width frac operand n = some v) : v ≤ 2 ^ frac := by
  unfold powiNearOne at h
  split at h
  · simp only [Option.some.injEq] at h
    omega
  split at h
  · simp only [Option.some.injEq] at h
    omega
  simp only [Option.bind_eq_bind, Option.bind_eq_some_iff, Word.checkedSub_eq_some,
    Word.checkedDiv_eq_some] at h
  obtain ⟨omo, ⟨-, rfl⟩, bound, ⟨hn0, rfl⟩, hloop⟩ := h
  split at hloop
  · simp at hloop
  -- `1 - operand` is below `1 / n`, so `(1 - operand) * n` is below one
  have hfactor : (2 ^ frac - operand) * n < 2 ^ frac := by
    have hlt : 2 ^ frac - operand + 1 ≤ 2 ^ frac / n := by omega
    have := (Nat.le_div_iff_mul_le (Nat.pos_of_ne_zero hn0)).mp hlt
    rw [Nat.add_mul, Nat.one_mul] at this
    omega
  exact powiNearOneLoop_le hop hfactor (by omega) le_rfl (by omega) (by omega) hloop

/-- Both branches of `saturating_powi_high_precision` keep a fraction of at most one at most
one. -/
theorem saturatingPowiHighPrecision_le_one (width : Nat) {operand : Nat} (n : Nat)
    (hop : operand ≤ 2 ^ frac) : saturatingPowiHighPrecision width frac operand n ≤ 2 ^ frac := by
  unfold saturatingPowiHighPrecision
  split_ifs
  · exact Nat.zero_le _
  · exact le_rfl
  · exact hop
  dsimp only
  split
  · split
    · cases hp : powiNearOne width frac operand n with
      | none => exact saturatingPow_le hop
      | some v => exact powiNearOne_le hop hp
    · exact saturatingPow_le hop
  · exact saturatingPow_le hop

end PowerBounds

/-- `fraction::DIV`: a `Fraction` (`U1F127`) is its bits over `2 ^ 127`. -/
def fractionDiv : Nat := 2 ^ 127

/-- Subtraction of two `Fraction`s, which wraps in a release build. -/
def fractionSub (a b : Nat) : Nat := (a + 2 ^ 128 - b) % 2 ^ 128

/-- `exp_smoothing`: the weight of `iterations` blocks at once, one minus the power of the
complement. -/
def expSmoothing (smoothing iterations : Nat) : Nat :=
  let complement := fractionSub fractionDiv smoothing
  let expComplement := saturatingPowiHighPrecision 128 127 complement iterations
  fractionSub fractionDiv expComplement

theorem fractionSub_of_le {a b : Nat} (h : b ≤ a) (ha : a < 2 ^ 128) : fractionSub a b = a - b := by
  unfold fractionSub
  rw [show a + 2 ^ 128 - b = a - b + 2 ^ 128 by omega, Nat.add_mod_right, Nat.mod_eq_of_lt (by omega)]

/-- The smoothing factor of any number of blocks is a weight of at most one. -/
theorem expSmoothing_le_one {smoothing : Nat} (iterations : Nat) (h : smoothing ≤ fractionDiv) :
    expSmoothing smoothing iterations ≤ fractionDiv := by
  have hdiv : fractionDiv < 2 ^ 128 := by unfold fractionDiv; omega
  have hc : fractionSub fractionDiv smoothing ≤ 2 ^ 127 := by
    rw [fractionSub_of_le h hdiv]
    exact (Nat.sub_le _ _).trans le_rfl
  have hp := saturatingPowiHighPrecision_le_one 128 iterations hc
  unfold expSmoothing
  dsimp only
  rw [fractionSub_of_le (a := fractionDiv) hp hdiv]
  exact Nat.sub_le _ _

/-! ## Weighted averages -/

/-- `Rounding` of `support::rational`. -/
inductive Rounding
  | nearest
  | down
  | up
  deriving DecidableEq, Repr

/-- `Rounding::to_bias`: what is added to the numerator and the denominator. -/
def Rounding.toBias : Rounding → Nat → Nat × Nat
  | .nearest, _ => (0, 0)
  | .down, magnitude => (0, magnitude)
  | .up, magnitude => (magnitude, 0)

/-- `saturating_sub` of two prices, exact in 256 bits; the first price when either is zero. -/
def saturatingSub (l r : Ratio) : Nat × Nat :=
  if l.n = 0 ∨ r.n = 0 then (l.n, l.d)
  else (l.n * r.d - r.n * l.d, l.d * r.d)

/-- `multiply` of a weight and a 256-bit rational, exact in 512 bits. -/
def multiply (f : Nat) (r : Nat × Nat) : Nat × Nat :=
  if f = 0 ∨ r.1 = 0 then (0, 1)
  else if f = fractionDiv then r
  else (r.1 * f, r.2 * fractionDiv)

/-- `round`: a 512-bit rational reduced to 383 bits by shifting both parts. -/
def round (nd : Nat × Nat) (rounding : Rounding) : Nat × Nat :=
  let shift := max (bits nd.1) (bits nd.2) - 383
  if 0 < shift then
    let minN := if nd.1 = 0 then 0 else 1
    let bias := rounding.toBias 1
    (max (Word.saturatingAdd 512 (nd.1 >>> shift) bias.1) minN,
      max (Word.saturatingAdd 512 (nd.2 >>> shift) bias.2) 1)
  else nd

/-- `round_to_rational`: a 512-bit rational rounded to a price by shifting both parts into 128
bits; the bias of `Down` goes to the denominator and that of `Up` to the numerator. -/
def roundToRational (nd : Nat × Nat) (rounding : Rounding) : Ratio :=
  let shift := max (bits nd.1) (bits nd.2) - 128
  let r : Nat × Nat :=
    if 0 < shift then
      let minN := if nd.1 = 0 then 0 else 1
      let bias := rounding.toBias 1
      (max (Word.saturatingAdd 128 ((nd.1 >>> shift) % 2 ^ 128) bias.1) minN,
        max (Word.saturatingAdd 128 ((nd.2 >>> shift) % 2 ^ 128) bias.2) 1)
    else (nd.1 % 2 ^ 128, nd.2 % 2 ^ 128)
  Ratio.new r.1 r.2

/-- `rounding_add`: `l + r` rounded to a price. -/
def roundingAdd (l : Ratio) (r : Nat × Nat) (rounding : Rounding) : Ratio :=
  if l.isZero then roundToRational r .nearest
  else if r.1 = 0 then l
  else
    let r := round r rounding
    let n := Word.saturatingAdd 512 (Word.saturatingMul 512 l.n r.2) (Word.saturatingMul 512 r.1 l.d)
    let d := Word.saturatingMul 512 l.d r.2
    roundToRational (n, d) rounding

/-- `rounding_sub`: `l - r`, saturating at zero, rounded to a price. -/
def roundingSub (l : Ratio) (r : Nat × Nat) (rounding : Rounding) : Ratio :=
  if l.isZero ∨ r.1 = 0 then l
  else
    let r := round r rounding
    let n := Word.saturatingMul 512 l.n r.2 - Word.saturatingMul 512 r.1 l.d
    let d := Word.saturatingMul 512 l.d r.2
    roundToRational (n, d) rounding

/-- `price_weighted_average`: `prev` moved by `weight` towards `incoming`, rounded down when it
moves up and up when it moves down. The code asks `incoming >= prev`, the negation of
`prev > incoming` under the total order of `Ratio`. -/
def priceWeightedAverage (prev incoming : Ratio) (weight : Nat) : Ratio :=
  if prev.gt incoming then roundingSub prev (multiply weight (saturatingSub prev incoming)) .up
  else roundingAdd prev (multiply weight (saturatingSub incoming prev)) .down

/-- `fraction::multiply_by_balance`. -/
def multiplyByBalance (f b : Nat) : Nat :=
  (FixedPoint.multiplyByRationalWithRounding b f fractionDiv .nearestPrefDown).getD fractionDiv

/-- `balance_weighted_average`: `prev` moved by `weight` towards `incoming`. -/
def balanceWeightedAverage (prev incoming weight : Nat) : Nat :=
  if prev ≤ incoming then prev + multiplyByBalance weight (incoming - prev)
  else prev - multiplyByBalance weight (prev - incoming)

/-- `Volume` of `hydradx-traits`, which the math takes as the tuple
`(a_in, b_out, a_out, b_in)`. -/
structure Volume where
  aIn : Nat
  bOut : Nat
  aOut : Nat
  bIn : Nat
  deriving DecidableEq, Repr

/-- `Liquidity` of `hydradx-traits`, which the math takes as the pair `(a, b)`. -/
structure Liquidity where
  a : Nat
  b : Nat
  deriving DecidableEq, Repr

/-- `volume_weighted_average`, field by field. -/
def volumeWeightedAverage (prev incoming : Volume) (weight : Nat) : Volume :=
  ⟨balanceWeightedAverage prev.aIn incoming.aIn weight,
    balanceWeightedAverage prev.bOut incoming.bOut weight,
    balanceWeightedAverage prev.aOut incoming.aOut weight,
    balanceWeightedAverage prev.bIn incoming.bIn weight⟩

/-- `liquidity_weighted_average`, field by field. -/
def liquidityWeightedAverage (prev incoming : Liquidity) (weight : Nat) : Liquidity :=
  ⟨balanceWeightedAverage prev.a incoming.a weight, balanceWeightedAverage prev.b incoming.b weight⟩

/-- `calculate_new_by_integrating_incoming` on `(price, volume, liquidity, shares_issuance)`:
the shares issuance is averaged only when an incoming one is given, from zero when there was
none. -/
def calculateNewByIntegratingIncoming (previous incoming : Ratio × Volume × Liquidity × Option Nat)
    (smoothing : Nat) : Ratio × Volume × Liquidity × Option Nat :=
  let (prevPrice, prevVolume, prevLiquidity, shares) := previous
  let (incomingPrice, incomingVolume, incomingLiquidity, incomingShares) := incoming
  (priceWeightedAverage prevPrice incomingPrice smoothing,
    volumeWeightedAverage prevVolume incomingVolume smoothing,
    liquidityWeightedAverage prevLiquidity incomingLiquidity smoothing,
    incomingShares.map fun s => balanceWeightedAverage (shares.getD 0) s smoothing)

/-- `update_outdated_to_current`: `iterations` blocks at once with the smoothing factor
`expSmoothing`, the volume decaying towards zero. -/
def updateOutdatedToCurrent (iterations : Nat) (outdated : Ratio × Volume × Liquidity × Option Nat)
    (updateWith : Ratio × Liquidity × Option Nat) (smoothing : Nat) :
    Ratio × Volume × Liquidity × Option Nat :=
  let (prevPrice, prevVolume, prevLiquidity, prevShares) := outdated
  let (incomingPrice, incomingLiquidity, incomingShares) := updateWith
  let smoothing := expSmoothing smoothing iterations
  (priceWeightedAverage prevPrice incomingPrice smoothing,
    volumeWeightedAverage prevVolume ⟨0, 0, 0, 0⟩ smoothing,
    liquidityWeightedAverage prevLiquidity incomingLiquidity smoothing,
    incomingShares.map fun s => balanceWeightedAverage (prevShares.getD 0) s smoothing)

/-! ## Balance averages stay between their inputs -/

theorem fractionDiv_pos : 0 < fractionDiv := by
  unfold fractionDiv
  omega

/-- A weight of at most one takes at most the whole balance: rounding to nearest bumps the
quotient only on a remainder, and a remainder means the quotient fell short of the balance. -/
theorem multiplyByBalance_le {f b : Nat} (hf : f ≤ fractionDiv) (hb : b ≤ Word.max 128) :
    multiplyByBalance f b ≤ b := by
  have hprod : b * f ≤ b * fractionDiv := Nat.mul_le_mul_left b hf
  have hq : b * f / fractionDiv ≤ b :=
    Nat.div_le_of_le_mul (by rw [Nat.mul_comm fractionDiv]; exact hprod)
  have hshort : 0 < b * f % fractionDiv → b * f / fractionDiv < b := by
    intro hrem
    refine lt_of_le_of_ne hq fun heq => ?_
    have hge : b * fractionDiv ≤ b * f := (Nat.le_div_iff_mul_le fractionDiv_pos).mp heq.ge
    rw [le_antisymm hprod hge, Nat.mul_mod_left] at hrem
    exact absurd hrem (lt_irrefl 0)
  unfold multiplyByBalance FixedPoint.multiplyByRationalWithRounding
  rw [if_neg fractionDiv_pos.ne', if_pos (hq.trans hb)]
  dsimp only
  by_cases hbump : fractionDiv / 2 < b * f % fractionDiv
  · have hlt := hshort (by omega)
    rw [if_pos (decide_eq_true hbump), Word.checkedAdd_of_le (by omega), Option.getD_some]
    exact hlt
  · rw [if_neg (by simpa using hbump), Option.getD_some]
    exact hq

/-- A balance average lies between the previous and the incoming balance. -/
theorem balanceWeightedAverage_between {prev incoming weight : Nat} (hw : weight ≤ fractionDiv)
    (hprev : prev ≤ Word.max 128) (hin : incoming ≤ Word.max 128) :
    min prev incoming ≤ balanceWeightedAverage prev incoming weight ∧
      balanceWeightedAverage prev incoming weight ≤ max prev incoming := by
  unfold balanceWeightedAverage
  split
  · have := multiplyByBalance_le (b := incoming - prev) hw (by omega)
    omega
  · have := multiplyByBalance_le (b := prev - incoming) hw (by omega)
    omega

end Hydration.EmaOracle
