import Hydration.Omnipool.Types

/-!
# Slip fees

`math/src/omnipool/slip_fee.rs`. The slip fee of one side of a trade is the rate
`|cumulative| / (Q₀ + cumulative)` of the hub asset that moved through the pool in
the current block, capped at `max_slip_fee`, applied to the trade's hub amount.
Buy and sell trades invert it, linearly or through an integer square root.

The result proved here is the cap: whichever branch is taken, the fee never
exceeds `max_slip_fee.mul_floor(base_amount)`.
-/

namespace Hydration.Omnipool

open FixedPoint

/-- `PERMILL_SCALE`. -/
def permillScale : Nat := 1000000

/-- `slip_rate_exceeds_cap`: `|cumulative| * 10^6 > max_parts * denom`. -/
def slipRateExceedsCap (absCumulative denom : Nat) (maxSlipFee : Permill) : Option Bool :=
  if denom = 0 ∨ absCumulative = 0 then some false
  else do
    let maxParts := maxSlipFee.parts
    let lhs ← Word.checkedMul u256 absCumulative permillScale
    let rhs ← Word.checkedMul u256 maxParts denom
    pure (decide (lhs > rhs))

/-- `calculate_slip_fee_amount`. -/
def calculateSlipFeeAmount (hubReserveAtBlockStart : Nat) (priorDelta deltaQ : SignedBalance)
    (maxSlipFee : Permill) (baseAmount : Nat) : Option Nat :=
  if hubReserveAtBlockStart = 0 ∨ baseAmount = 0 then some 0
  else do
    let cumulative ← priorDelta.checkedAdd deltaQ
    let denom ← cumulative.addToUnsigned hubReserveAtBlockStart
    if denom = 0 then none
    else if cumulative.isZero then some 0
    else
      let absCumulative := cumulative.abs
      let exceeds ← slipRateExceedsCap absCumulative denom maxSlipFee
      if exceeds then some (maxSlipFee.mulFloor baseAmount)
      else
        let prod ← Word.checkedMul u256 absCumulative baseAmount
        let amountHp ← Word.checkedDiv prod denom
        Word.tryFrom u128 amountHp

/-- `slip_rate_exceeds_cap_from_state`. -/
def slipRateExceedsCapFromState (hubReserveAtBlockStart : Nat) (priorDelta deltaQ : SignedBalance)
    (maxSlipFee : Permill) : Option Bool := do
  let cumulative ← priorDelta.checkedAdd deltaQ
  let denom ← cumulative.addToUnsigned hubReserveAtBlockStart
  slipRateExceedsCap cumulative.abs denom maxSlipFee

/-- `invert_buy_side_slip_uncapped`: the gross hub amount entering the buy pool whose
uncapped slip leaves `d_net`; linear when the cumulative delta stays non-negative,
the positive root of `2x² + bx - d_net·S = 0` otherwise. -/
def invertBuySideSlipUncapped (dNet l : Nat) (c : SignedBalance) : Option Nat := do
  let sBuy ← c.addToUnsigned l
  if sBuy = 0 then none
  else if l ≤ dNet then none
  else
    let lMinusD ← Word.checkedSub l dNet
    let case1 ← Word.checkedMul u256 dNet sBuy
    let case1 ← Word.checkedDiv case1 lMinusD
    let case1 ← Word.checkedAdd u256 case1 1
    let dGrossCase1 ← Word.tryFrom u128 case1
    let absC := c.abs
    if c.isPositive ∨ absC ≤ dGrossCase1 then some dGrossCase1
    else
      -- Case 2: the cumulative delta stays negative
      let twoC ← Word.checkedMul u128 absC 2
      let lMinus2c ← Word.checkedSub l twoC
      let bPositive := dNet ≤ lMinus2c
      let bAbs ← if bPositive then Word.checkedSub lMinus2c dNet else Word.checkedSub dNet lMinus2c
      let bSq ← Word.checkedMul u256 bAbs bAbs
      let eightDs ← Word.checkedMul u256 8 dNet
      let eightDs ← Word.checkedMul u256 eightDs sBuy
      let disc := Word.saturatingAdd u256 bSq eightDs
      let sqrtDisc := Nat.sqrt disc
      let dGrossHp ←
        if bPositive then do
          let denom := Word.saturatingAdd u256 bAbs sqrtDisc
          let num ← Word.checkedMul u256 2 dNet
          let num ← Word.checkedMul u256 num sBuy
          Word.checkedDiv num denom
        else Word.checkedDiv (Word.saturatingAdd u256 bAbs sqrtDisc) 4
      let dGross ← Word.tryFrom u128 dGrossHp
      Word.checkedAdd u128 dGross 1

/-- `invert_buy_side_slip`: the uncapped inverse when its rate stays under the cap,
else `floor(d_net * 10^6 / (10^6 - max_parts))`. -/
def invertBuySideSlip (dNet l : Nat) (c : SignedBalance) (maxSlipFee : Permill) : Option Nat := do
  let uncapped : Option Nat ←
    match invertBuySideSlipUncapped dNet l c with
    | some dGrossUncapped => do
      let exceeds ← slipRateExceedsCapFromState l c (.positive dGrossUncapped) maxSlipFee
      pure (if exceeds then none else some dGrossUncapped)
    | none => pure none
  match uncapped with
  | some dGross => some dGross
  | none =>
    let maxParts := maxSlipFee.parts
    let oneMinusMax ← Word.checkedSub permillScale maxParts
    if oneMinusMax = 0 then none
    else
      let num ← Word.checkedMul u256 dNet permillScale
      let dGrossHp ← Word.checkedDiv num oneMinusMax
      Word.tryFrom u128 dGrossHp

/-- Case B of `invert_sell_side_fees_uncapped` (opposing flow, `C > 0`, `u ≤ C`). A failed `?` in
it returns from the whole function, which is the outer `none`; the candidate root `u + 1` is the
inner option, `none` only when the increment overflows, and then Case A is tried. -/
def invertSellSideCaseB (dGross pfParts kParts s absC l : Nat) : Option (Option Nat) :=
  let scale := permillScale
  if pfParts = 0 then do
    let num := Word.saturatingMul u256 dGross s
    let denom := Word.saturatingAdd u256 dGross l
    let uHp ← Word.checkedDiv num denom
    let u ← Word.tryFrom u128 uHp
    pure (Word.checkedAdd u128 u 1)
  else do
    let ks := Word.saturatingMul u256 kParts s
    let dScaled := Word.saturatingMul u256 dGross scale
    let cScaled := Word.saturatingMul u256 absC scale
    let bSum := Word.saturatingAdd u256 ks dScaled
    let bPositive := cScaled ≤ bSum
    let bAbs := if bPositive then bSum - cScaled else cScaled - bSum
    let bSq ← Word.checkedMul u256 bAbs bAbs
    let fourADs ← Word.checkedMul u256 4 pfParts
    let fourADs ← Word.checkedMul u256 fourADs dGross
    let fourADs ← Word.checkedMul u256 fourADs s
    let fourADs ← Word.checkedMul u256 fourADs scale
    let disc := Word.saturatingAdd u256 bSq fourADs
    let sqrtDisc := Nat.sqrt disc
    let twoA := Word.saturatingMul u256 pfParts 2
    let cU256 := Word.saturatingMul u256 (Word.saturatingMul u256 dGross s) scale
    let uHp ←
      if bPositive then do
        let num ← Word.checkedMul u256 2 cU256
        Word.checkedDiv num (Word.saturatingAdd u256 bAbs sqrtDisc)
      else Word.checkedDiv (Word.saturatingAdd u256 bAbs sqrtDisc) twoA
    let u ← Word.tryFrom u128 uHp
    pure (Word.checkedAdd u128 u 1)

/-- Case A of `invert_sell_side_fees_uncapped`: the smaller root of
`(k+1)u² - (kS + C + D)u + DS = 0`. -/
def invertSellSideCaseA (dGross kParts s absC : Nat) (cIsPositive : Bool) : Option Nat := do
  let scale := permillScale
  let a ← Word.checkedAdd u128 kParts permillScale
  let ks := Word.saturatingMul u256 kParts s
  let dScaled := Word.saturatingMul u256 dGross scale
  let cScaled := Word.saturatingMul u256 absC scale
  let b ←
    if cIsPositive then some (Word.saturatingAdd u256 (Word.saturatingAdd u256 ks dScaled) cScaled)
    else Word.checkedSub (Word.saturatingAdd u256 ks dScaled) cScaled
  let cU256 := Word.saturatingMul u256 (Word.saturatingMul u256 dGross s) scale
  let bSq ← Word.checkedMul u256 b b
  let fourAc ← Word.checkedMul u256 4 a
  let fourAc ← Word.checkedMul u256 fourAc cU256
  if bSq < fourAc then none
  else
    let sqrtDisc := Nat.sqrt (bSq - fourAc)
    let twoA := Word.saturatingMul u256 a 2
    if b < sqrtDisc then none
    else
      let uHp ← Word.checkedDiv (b - sqrtDisc) twoA
      let u ← Word.tryFrom u128 uHp
      Word.checkedAdd u128 u 1

/-- `invert_sell_side_fees_uncapped`: Case B first when `C > 0`, falling back to Case A when its
root exceeds `C` or its increment overflows. -/
def invertSellSideFeesUncapped (dGross : Nat) (protocolFee : Permill) (l : Nat)
    (c : SignedBalance) : Option Nat := do
  let absC := c.abs
  let cIsPositive := c.isPositive
  let s ← if cIsPositive then Word.checkedAdd u128 l absC else Word.checkedSub l absC
  let pfParts := protocolFee.parts
  let kParts ← Word.checkedSub permillScale pfParts
  let caseB ← if cIsPositive then invertSellSideCaseB dGross pfParts kParts s absC l else some none
  match caseB with
  | some u => if u ≤ absC then some u else invertSellSideCaseA dGross kParts s absC cIsPositive
  | none => invertSellSideCaseA dGross kParts s absC cIsPositive

/-- `invert_sell_side_fees`: the uncapped inverse when its rate stays under the cap,
else `floor(d_gross * 10^6 / (10^6 - pf_parts - max_parts))`. -/
def invertSellSideFees (dGross : Nat) (protocolFee : Permill) (l : Nat) (c : SignedBalance)
    (maxSlipFee : Permill) : Option Nat := do
  let uncapped : Option Nat ←
    match invertSellSideFeesUncapped dGross protocolFee l c with
    | some uUncapped => do
      let exceeds ← slipRateExceedsCapFromState l c (.negative uUncapped) maxSlipFee
      pure (if exceeds then none else some uUncapped)
    | none => pure none
  match uncapped with
  | some u => some u
  | none =>
    let pfParts := protocolFee.parts
    let maxParts := maxSlipFee.parts
    let denomParts ← Word.checkedSub permillScale pfParts
    let denomParts ← Word.checkedSub denomParts maxParts
    if denomParts = 0 then none
    else
      let num ← Word.checkedMul u256 dGross permillScale
      let uHp ← Word.checkedDiv num denomParts
      Word.tryFrom u128 uHp

/-- The sell-side inverse can fall short of `d_gross`. With `C > 0`, Case B's root lies above
`C`, so the code falls back to Case A; Case A's root lies below `C`, where Case A's formula does not
hold, the cap check accepts it, and the forward pipeline then leaves less than `d_gross`. -/
theorem invert_sell_side_fees_falls_short :
    invertSellSideFees 1512841 ⟨0, by decide⟩ 1000000 (.positive 1500000) ⟨200000, by decide⟩ =
        some 1286492 ∧
      calculateSlipFeeAmount 1000000 (.positive 1500000) (.negative 1286492) ⟨200000, by decide⟩ 1286492 =
        some 226349 ∧
      1286492 - (⟨0, by decide⟩ : Permill).mulFloor 1286492 - 226349 < 1512841 :=
  ⟨by decide +kernel, by decide +kernel, by decide⟩

/-! ## The cap -/

/-- Below the cap, `|cumulative| * 10^6 ≤ max_parts * denom`. -/
theorem slipRateExceedsCap_false {absCumulative denom : Nat} {maxSlipFee : Permill}
    (hd : denom ≠ 0) (ha : absCumulative ≠ 0)
    (h : slipRateExceedsCap absCumulative denom maxSlipFee = some false) :
    absCumulative * permillScale ≤ maxSlipFee.parts * denom := by
  simp only [slipRateExceedsCap, hd, ha, or_self, if_false] at h
  cases h₁ : Word.checkedMul u256 absCumulative permillScale with
  | none => simp [h₁] at h
  | some lhs =>
    cases h₂ : Word.checkedMul u256 maxSlipFee.parts denom with
    | none => simp [h₁, h₂] at h
    | some rhs =>
      simp only [h₁, h₂, Option.bind_eq_bind, Option.bind_some, Option.pure_def,
        Option.some.injEq, decide_eq_false_iff_not, not_lt] at h
      obtain ⟨-, rfl⟩ := Word.checkedMul_eq_some.mp h₁
      obtain ⟨-, rfl⟩ := Word.checkedMul_eq_some.mp h₂
      exact h

/-- Under the cap the uncapped amount is at most the capped one: from
`x * 10^6 ≤ m * d`, `floor(x * b / d) ≤ floor(b * m / 10^6)`. -/
theorem uncapped_le_mulFloor {x d b : Nat} (maxSlipFee : Permill) (hd : d ≠ 0)
    (h : x * permillScale ≤ maxSlipFee.parts * d) :
    x * b / d ≤ maxSlipFee.mulFloor b := by
  show x * b / d ≤ b * maxSlipFee.parts / permillScale
  have hpos : 0 < permillScale := by decide
  rw [Nat.le_div_iff_mul_le hpos]
  have hd' : 0 < d := Nat.pos_of_ne_zero hd
  have h1 : x * b / d * d ≤ x * b := Nat.div_mul_le_self _ _
  have h2 : x * b / d * permillScale * d ≤ b * maxSlipFee.parts * d := by
    calc x * b / d * permillScale * d = (x * b / d * d) * permillScale := by ring
      _ ≤ x * b * permillScale := Nat.mul_le_mul_right _ h1
      _ = (x * permillScale) * b := by ring
      _ ≤ (maxSlipFee.parts * d) * b := Nat.mul_le_mul_right _ h
      _ = b * maxSlipFee.parts * d := by ring
  exact Nat.le_of_mul_le_mul_right h2 hd'

/-- The slip fee never exceeds `max_slip_fee` of the base amount. -/
theorem calculateSlipFeeAmount_le {q₀ : Nat} {prior dq : SignedBalance} {maxSlipFee : Permill}
    {base fee : Nat} (h : calculateSlipFeeAmount q₀ prior dq maxSlipFee base = some fee) :
    fee ≤ maxSlipFee.mulFloor base := by
  unfold calculateSlipFeeAmount at h
  by_cases h0 : q₀ = 0 ∨ base = 0
  · simp only [h0, if_true, Option.some.injEq] at h
    omega
  simp only [h0, if_false] at h
  -- peel the `?` chain one fallible step at a time
  cases hc : prior.checkedAdd dq with
  | none => simp [hc] at h
  | some cum =>
  cases hd : cum.addToUnsigned q₀ with
  | none => simp [hc, hd] at h
  | some denom =>
  by_cases hd0 : denom = 0
  · simp [hc, hd, hd0] at h
  by_cases hz : cum.isZero
  · simp [hc, hd, hd0, hz] at h
    omega
  have ha : cum.abs ≠ 0 := by simpa [SignedBalance.isZero] using hz
  cases hex : slipRateExceedsCap cum.abs denom maxSlipFee with
  | none => simp [hc, hd, hd0, hz, hex] at h
  | some exceeds =>
  cases exceeds with
  | true =>
    simp [hc, hd, hd0, hz, hex] at h
    omega
  | false =>
    simp only [hc, hd, hd0, hz, hex, Option.bind_eq_bind, Option.bind_some, Option.bind_eq_some_iff,
      Bool.false_eq_true, if_false, Word.checkedMul_eq_some, Word.checkedDiv_eq_some,
      Word.tryFrom_eq_some] at h
    obtain ⟨_, ⟨-, rfl⟩, _, ⟨-, rfl⟩, -, rfl⟩ := h
    exact uncapped_le_mulFloor maxSlipFee hd0 (slipRateExceedsCap_false hd0 ha hex)

/-- The fee of the trade above, taken below the cap, is within the cap of `20%`. -/
theorem calculateSlipFeeAmount_le_belowCap :
    calculateSlipFeeAmount 1000000 (.positive 1500000) (.negative 1286492) ⟨200000, by decide⟩ 1286492 =
        some 226349 ∧
      226349 ≤ (⟨200000, by decide⟩ : Permill).mulFloor 1286492 :=
  have h : calculateSlipFeeAmount 1000000 (.positive 1500000) (.negative 1286492) ⟨200000, by decide⟩
      1286492 = some 226349 := by decide +kernel
  ⟨h, calculateSlipFeeAmount_le h⟩

end Hydration.Omnipool
