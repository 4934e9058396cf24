import Hydration.Omnipool.Math

/-!
# Omnipool trades never lose pool value

Every trade moves each pool it touches along its constant product `R * Q` or above it: the amount
that leaves a pool is the exact constant-product amount rounded down, and the fee taken from it
stays in the pool. The hub asset that leaves the sell pool is the hub asset that enters the buy
pool plus every protocol fee, exactly, and only a part of the protocol fee is burned.

`product_of_in` and `product_of_out` are the two constant-product facts, over the integers; each
trade's `Returns` spec says which floors it takes, and the claims about the trades follow from
those without unfolding a calculation again.
-/

namespace Hydration.Omnipool

open Frame FixedPoint

/-! ## The constant product -/

section Product

variable {R Q a d : Nat}

/-- A pool that takes `a` in and gives `d` out keeps its product when `d * (R + a) ≤ a * Q`, that
is when `d` is at most the exact amount `a * Q / (R + a)`. -/
theorem product_of_in (h : d * (R + a) ≤ a * Q) : (R * Q : ℤ) ≤ (R + a) * (Q - d) := by
  have hcast : ((d * (R + a) : ℕ) : ℤ) ≤ ((a * Q : ℕ) : ℤ) := by exact_mod_cast h
  push_cast at hcast
  linarith

/-- A pool that gives `d` out and takes `a` in keeps its product when `d * (Q + a) ≤ R * a`, that
is when `d` is at most the exact amount `R * a / (Q + a)`. -/
theorem product_of_out (h : d * (Q + a) ≤ R * a) : (R * Q : ℤ) ≤ (R - d) * (Q + a) := by
  have hcast : ((d * (Q + a) : ℕ) : ℤ) ≤ ((R * a : ℕ) : ℤ) := by exact_mod_cast h
  push_cast at hcast
  linarith

/-- More hub asset for the same amount out only helps: the bound `a * (Q + d) ≤ R * d` of a
constant-product buy holds for every hub amount above `d`. -/
theorem buy_bound_mono {e : Nat} (hd : 0 < d) (h : a * (Q + d) ≤ R * d) (hde : d ≤ e) :
    a * (Q + e) ≤ R * e := by
  have haR : a ≤ R := by
    apply Nat.le_of_mul_le_mul_right _ hd
    calc a * d ≤ a * (Q + d) := Nat.mul_le_mul_left _ (Nat.le_add_left _ _)
      _ ≤ R * d := h
  calc a * (Q + e) = a * (Q + d) + a * (e - d) := by
        rw [← Nat.mul_add, Nat.add_assoc, Nat.add_sub_cancel' hde]
    _ ≤ R * d + R * (e - d) := Nat.add_le_add h (Nat.mul_le_mul_right _ haR)
    _ = R * e := by rw [← Nat.mul_add, Nat.add_sub_cancel' hde]

end Product

/-! ## Floors of the trade math -/

/-- `amount_without_fee` never exceeds the amount. -/
theorem amountWithoutFee_le {amount r : Nat} {fee : Permill} (h : amountWithoutFee amount fee = some r) :
    r ≤ amount := by
  simp only [amountWithoutFee, PerThing.one_checkedSub, Option.map_some, Option.some.injEq] at h
  rw [← h]
  exact PerThing.mulFloor_le _ _

/-- The constant-product amount out, `R * e / (Q + e)`, rounded down and less the asset fee. -/
theorem amountOut_mul_le {R Q e x amountOut r : Nat} {fee : Permill}
    (hx : x = R * e / (Q + e)) (hout : Word.tryFrom u128 x = some amountOut)
    (hfee : amountWithoutFee amountOut fee = some r) : r * (Q + e) ≤ R * e := by
  obtain ⟨-, rfl⟩ := Word.tryFrom_eq_some.mp hout
  calc r * (Q + e) ≤ x * (Q + e) := Nat.mul_le_mul_right _ (amountWithoutFee_le hfee)
    _ ≤ R * e := by rw [hx]; exact Nat.div_mul_le_self _ _

/-- The amount a buy asks of a pool `Y` for `a` out of it, `X * a / (Y - a) + 1`, is enough: one
more than the floor of the exact amount. -/
theorem ceilAmount_enough {X Y a : Nat} (ha : a < Y) :
    a * (X + (X * a / (Y - a) + 1)) ≤ Y * (X * a / (Y - a) + 1) := by
  have hfloor := Nat.lt_mul_div_succ (X * a) (show 0 < Y - a by omega)
  generalize X * a / (Y - a) + 1 = r at hfloor ⊢
  have hsplit : (Y - a) * r + a * r = Y * r := by
    rw [← Nat.add_mul, Nat.sub_add_cancel ha.le]
  rw [Nat.mul_add, ← hsplit, Nat.mul_comm a X]
  omega

/-! ## Selling one asset for another -/

/-- What a sell does to the two pools: the hub amount leaving the sell pool is at most the exact
`a * Q_in / (R_in + a)`, the reserve leaving the buy pool at most the exact `R_out * d / (Q_out + d)`
for the hub amount `d` entering it, the hub amounts differ by the protocol fee, and the part of it
burned is at most all of it. -/
theorem calculateSellStateChanges_rounding (assetInState assetOutState : AssetReserveState) (amount : Nat)
    (assetFee protocolFee m : Permill) (slip : Option TradeSlipFees) :
    Returns (fun ch : TradeStateChange => ∃ dIn dOut rOut,
        ch.assetIn.deltaReserve = .increase amount ∧ ch.assetIn.deltaHubReserve = .decrease dIn ∧
          ch.assetOut.deltaReserve = .decrease rOut ∧ ch.assetOut.deltaHubReserve = .increase dOut ∧
          dIn * (assetInState.reserve + amount) ≤ amount * assetInState.hubReserve ∧
          rOut * (assetOutState.hubReserve + dOut) ≤ assetOutState.reserve * dOut ∧
          dIn = dOut + ch.fee.protocolFee ∧ ch.fee.burnedProtocolFee ≤ ch.fee.protocolFee)
      (calculateSellStateChanges assetInState assetOutState amount assetFee protocolFee m slip) := by
  unfold calculateSellStateChanges
  -- the hub amount leaving the sell pool, `a * Q_in / (R_in + a)`
  refine returns_bind fun num hnum => returns_bind fun den hden => ?_
  refine returns_bind fun x hx => returns_bind fun dIn hdIn => ?_
  obtain ⟨-, rfl⟩ := Word.checkedMul_eq_some.mp hnum
  obtain ⟨-, rfl⟩ := Word.checkedAdd_eq_some.mp hden
  obtain ⟨-, rfl⟩ := Word.checkedDiv_eq_some.mp hx
  obtain ⟨-, rfl⟩ := Word.tryFrom_eq_some.mp hdIn
  -- the fees, each taken off by a checked subtraction
  refine returns_bind fun slipSell _ => returns_bind fun g₁ hg₁ => returns_bind fun g₂ hg₂ => ?_
  refine returns_bind fun slipBuy _ => returns_bind fun dNet hdNet => ?_
  obtain ⟨hpf, rfl⟩ := Word.checkedSub_eq_some.mp hg₁
  obtain ⟨hss, rfl⟩ := Word.checkedSub_eq_some.mp hg₂
  obtain ⟨hsb, rfl⟩ := Word.checkedSub_eq_some.mp hdNet
  -- the reserve leaving the buy pool, `R_out * d / (Q_out + d)` less the asset fee
  refine returns_bind fun num' hnum' => returns_bind fun den' hden' => ?_
  refine returns_bind fun y hy => returns_bind fun amountOut hout => returns_bind fun rOut hrOut => ?_
  obtain ⟨-, rfl⟩ := Word.checkedMul_eq_some.mp hnum'
  obtain ⟨-, rfl⟩ := Word.checkedAdd_eq_some.mp hden'
  obtain ⟨-, hy⟩ := Word.checkedDiv_eq_some.mp hy
  have hrOut := amountOut_mul_le hy.symm hout hrOut
  iterate 4 refine returns_bind fun _ _ => ?_
  refine returns_bind fun t₁ ht₁ => returns_bind fun t₂ ht₂ => returns_pure ?_
  obtain ⟨-, rfl⟩ := Word.checkedAdd_eq_some.mp ht₁
  obtain ⟨-, rfl⟩ := Word.checkedAdd_eq_some.mp ht₂
  refine ⟨_, _, rOut, rfl, rfl, rfl, rfl, Nat.div_mul_le_self _ _, hrOut, ?_, PerThing.mulFloor_le _ _⟩
  -- the hub amount in splits into the amount out and the three fees
  dsimp only
  omega

/-- The pools and fees of a sell of a thousand units between two pools of a million, with an asset
fee of 0.25%, a protocol fee of 0.05% and half of it burned, without slip fees. -/
def examplePool : AssetReserveState := ⟨1000000, 1000000, 0, 0⟩

def exampleSell : TradeStateChange :=
  { assetIn := { deltaReserve := .increase 1000, deltaHubReserve := .decrease 999 }
    assetOut := { deltaReserve := .decrease 995, deltaHubReserve := .increase 999, extraHubReserveAmount := .increase 2 }
    fee := { assetFee := 3, protocolFee := 0, burnedProtocolFee := 0 } }

/-- A sell leaves the sell pool and the buy pool on or above their constant products, the hub
asset leaving the one is what enters the other and the protocol fee, and at most the protocol fee
is burned. -/
theorem omnipool_sell_keeps_value (assetInState assetOutState : AssetReserveState) (amount : Nat)
    (assetFee protocolFee m : Permill) (slip : Option TradeSlipFees) (ch : TradeStateChange)
    (h : calculateSellStateChanges assetInState assetOutState amount assetFee protocolFee m slip = some ch) :
    (assetInState.reserve * assetInState.hubReserve : ℤ) ≤
        (assetInState.reserve + amount) * (assetInState.hubReserve - ch.assetIn.deltaHubReserve.amount) ∧
      (assetOutState.reserve * assetOutState.hubReserve : ℤ) ≤
        (assetOutState.reserve - ch.assetOut.deltaReserve.amount) *
          (assetOutState.hubReserve + ch.assetOut.deltaHubReserve.amount) ∧
      ch.assetIn.deltaHubReserve.amount = ch.assetOut.deltaHubReserve.amount + ch.fee.protocolFee ∧
      ch.fee.burnedProtocolFee ≤ ch.fee.protocolFee := by
  obtain ⟨dIn, dOut, rOut, -, hdIn, hrOut, hdOut, hin, hout, hfee, hburned⟩ :=
    calculateSellStateChanges_rounding assetInState assetOutState amount assetFee protocolFee m slip ch h
  rw [hdIn, hrOut, hdOut]
  exact ⟨product_of_in hin, product_of_out hout, hfee, hburned⟩

theorem omnipool_sell_keeps_value_thousand :
    calculateSellStateChanges examplePool examplePool 1000 ⟨2500, by decide⟩ ⟨500, by decide⟩ ⟨500000, by decide⟩
        none = some exampleSell ∧
      ((examplePool.reserve * examplePool.hubReserve : ℤ) ≤
          (examplePool.reserve + 1000) * (examplePool.hubReserve - exampleSell.assetIn.deltaHubReserve.amount) ∧
        (examplePool.reserve * examplePool.hubReserve : ℤ) ≤
          (examplePool.reserve - exampleSell.assetOut.deltaReserve.amount) *
            (examplePool.hubReserve + exampleSell.assetOut.deltaHubReserve.amount) ∧
        exampleSell.assetIn.deltaHubReserve.amount =
          exampleSell.assetOut.deltaHubReserve.amount + exampleSell.fee.protocolFee ∧
        exampleSell.fee.burnedProtocolFee ≤ exampleSell.fee.protocolFee) :=
  have h : calculateSellStateChanges examplePool examplePool 1000 ⟨2500, by decide⟩ ⟨500, by decide⟩
      ⟨500000, by decide⟩ none = some exampleSell := by decide +kernel
  ⟨h, omnipool_sell_keeps_value _ _ _ _ _ _ _ _ h⟩

/-! ## Trading against the hub asset -/

/-- Selling `q` of the hub asset: the slip fee, which is the protocol fee, is at most `q`, and the
reserve out is at most the exact `R * e / (Q + e)` for the effective hub amount `e = q - fee`. -/
theorem calculateSellHubStateChanges_rounding (assetOutState : AssetReserveState) (hubAssetAmount : Nat)
    (assetFee : Permill) (slip : Option HubTradeSlipFees) :
    Returns (fun ch : HubTradeStateChange => ∃ dr,
        ch.asset.deltaReserve = .decrease dr ∧ ch.asset.deltaHubReserve = .increase hubAssetAmount ∧
          ch.fee.protocolFee ≤ hubAssetAmount ∧
          dr * (assetOutState.hubReserve + (hubAssetAmount - ch.fee.protocolFee)) ≤
            assetOutState.reserve * (hubAssetAmount - ch.fee.protocolFee))
      (calculateSellHubStateChanges assetOutState hubAssetAmount assetFee slip) := by
  unfold calculateSellHubStateChanges
  refine returns_bind fun slipBuy _ => returns_bind fun e he => ?_
  obtain ⟨hslip, rfl⟩ := Word.checkedSub_eq_some.mp he
  refine returns_bind fun num hnum => returns_bind fun den hden => ?_
  refine returns_bind fun y hy => returns_bind fun amountOut hout => returns_bind fun dr hdr => ?_
  obtain ⟨-, rfl⟩ := Word.checkedMul_eq_some.mp hnum
  obtain ⟨-, rfl⟩ := Word.checkedAdd_eq_some.mp hden
  obtain ⟨-, hy⟩ := Word.checkedDiv_eq_some.mp hy
  have hdr := amountOut_mul_le hy.symm hout hdr
  iterate 4 refine returns_bind fun _ _ => ?_
  exact returns_pure ⟨dr, rfl, rfl, hslip, hdr⟩

/-- Buying `a` with the hub asset: the hub amount the pool takes is the net amount `d` and the slip
fee, and `d` is more than the exact `Q * a / (R - a)`, so `a * (Q + d) ≤ R * d`. -/
theorem calculateBuyForHubAssetStateChanges_rounding (assetOutState : AssetReserveState) (assetOutAmount : Nat)
    (assetFee : Permill) (slip : Option HubTradeSlipFees) :
    Returns (fun ch : HubTradeStateChange => ∃ dNet,
        ch.asset.deltaReserve = .decrease assetOutAmount ∧
          ch.asset.deltaHubReserve = .increase (dNet + ch.fee.protocolFee) ∧
          assetOutAmount * (assetOutState.hubReserve + dNet) ≤ assetOutState.reserve * dNet)
      (calculateBuyForHubAssetStateChanges assetOutState assetOutAmount assetFee slip) := by
  unfold calculateBuyForHubAssetStateChanges
  refine returns_bind fun reserveNoFee hnoFee => returns_bind fun hubDenominator hhd => ?_
  obtain ⟨hle, rfl⟩ := Word.checkedSub_eq_some.mp hhd
  have hnoFee := amountWithoutFee_le hnoFee
  -- `d = Q * a / (R' - a) + 1` for the reserve `R' ≤ R` less the fee
  refine returns_bind fun x hx => returns_bind fun x' hx' => returns_bind fun x'' hx'' => ?_
  refine returns_bind fun dNet hdNet => ?_
  obtain ⟨-, rfl⟩ := Word.checkedMul_eq_some.mp hx
  obtain ⟨hpos, rfl⟩ := Word.checkedDiv_eq_some.mp hx'
  obtain ⟨-, rfl⟩ := Word.checkedAdd_eq_some.mp hx''
  obtain ⟨-, rfl⟩ := Word.tryFrom_eq_some.mp hdNet
  refine returns_bind fun slipBuy _ => ?_
  iterate 4 refine returns_bind fun _ _ => ?_
  refine returns_bind fun dGross hdGross => ?_
  obtain ⟨-, rfl⟩ := Word.checkedAdd_eq_some.mp hdGross
  refine returns_pure ⟨_, rfl, rfl, ?_⟩
  -- enough for the reserve `R'` less the fee, so for `R ≥ R'`
  exact (ceilAmount_enough (by omega)).trans (Nat.mul_le_mul_right _ hnoFee)

/-- Selling hub asset to a pool and buying from a pool with hub asset both leave the pool on or
above its constant product; the protocol fee of the sell is at most the hub amount sold, and the
buy takes exactly the amount asked. -/
theorem omnipool_hub_trades_keep_value (assetState : AssetReserveState) (amount : Nat) (assetFee : Permill)
    (slip : Option HubTradeSlipFees) :
    (∀ ch, calculateSellHubStateChanges assetState amount assetFee slip = some ch →
      (assetState.reserve * assetState.hubReserve : ℤ) ≤
          (assetState.reserve - ch.asset.deltaReserve.amount) * (assetState.hubReserve + amount - ch.fee.protocolFee) ∧
        ch.fee.protocolFee ≤ amount) ∧
    (∀ ch, calculateBuyForHubAssetStateChanges assetState amount assetFee slip = some ch →
      ch.asset.deltaReserve.amount = amount ∧
        (assetState.reserve * assetState.hubReserve : ℤ) ≤
          (assetState.reserve - amount) * (assetState.hubReserve + ch.asset.deltaHubReserve.amount - ch.fee.protocolFee)) := by
  constructor
  · intro ch h
    obtain ⟨dr, hdr, -, hfee, hout⟩ := calculateSellHubStateChanges_rounding assetState amount assetFee slip ch h
    refine ⟨?_, hfee⟩
    have hprod := product_of_out hout
    rw [hdr, BalanceUpdate.amount_decrease, add_sub_assoc]
    push_cast [hfee] at hprod
    exact hprod
  · intro ch h
    obtain ⟨dNet, hdr, hdq, hout⟩ := calculateBuyForHubAssetStateChanges_rounding assetState amount assetFee slip ch h
    rw [hdr, hdq, BalanceUpdate.amount_decrease, BalanceUpdate.amount_increase]
    refine ⟨rfl, ?_⟩
    have hprod := product_of_out hout
    push_cast
    linarith

/-- Both hub trades of a thousand units at the example pool, with a fee of a quarter percent:
the sell of hub asset takes 996 of the asset out, the buy with hub asset puts 1004 of the hub
asset in. -/
theorem omnipool_hub_trades_keep_value_examplePool :
    ∃ sellCh buyCh, calculateSellHubStateChanges examplePool 1000 ⟨2500, by decide⟩ none = some sellCh ∧
      calculateBuyForHubAssetStateChanges examplePool 1000 ⟨2500, by decide⟩ none = some buyCh ∧
      ((examplePool.reserve * examplePool.hubReserve : ℤ) ≤
          (examplePool.reserve - sellCh.asset.deltaReserve.amount) *
            (examplePool.hubReserve + 1000 - sellCh.fee.protocolFee) ∧
        sellCh.fee.protocolFee ≤ 1000) ∧
      buyCh.asset.deltaReserve.amount = 1000 ∧
        (examplePool.reserve * examplePool.hubReserve : ℤ) ≤
          (examplePool.reserve - 1000) *
            (examplePool.hubReserve + buyCh.asset.deltaHubReserve.amount - buyCh.fee.protocolFee) := by
  have hkeep := omnipool_hub_trades_keep_value examplePool 1000 ⟨2500, by decide⟩ none
  -- both trades go through at the pool; what they return is left to the kernel
  obtain ⟨sellCh, hsell⟩ : ∃ ch,
      calculateSellHubStateChanges examplePool 1000 ⟨2500, by decide⟩ none = some ch := by
    apply Option.isSome_iff_exists.mp
    decide +kernel
  obtain ⟨buyCh, hbuy⟩ : ∃ ch,
      calculateBuyForHubAssetStateChanges examplePool 1000 ⟨2500, by decide⟩ none = some ch := by
    apply Option.isSome_iff_exists.mp
    decide +kernel
  exact ⟨sellCh, buyCh, hsell, hbuy, hkeep.1 sellCh hsell, hkeep.2 buyCh hbuy⟩

/-! ## Buying one asset with another -/

/-- Inverting the protocol fee and taking it forward again loses nothing: from
`d * 10^6 < (u + 1) * k`, with `k` the fee's complement in parts, and the fee `f` of `u` rounded
down, `u - f` is still at least `d`. -/
theorem forward_of_inverse {d u f k : Nat} (hk : k ≤ 1000000) (hu : d * 1000000 < (u + 1) * k)
    (hf : f * 1000000 ≤ u * (1000000 - k)) : d + f ≤ u := by
  have hsplit : u * (1000000 - k) + u * k = u * 1000000 := by
    rw [← Nat.mul_add, Nat.sub_add_cancel hk]
  have hlt : (d + f) * 1000000 < (u + 1) * 1000000 := by
    rw [Nat.add_mul, Nat.add_mul, Nat.one_mul] at *
    nlinarith
  exact Nat.lt_succ_iff.mp (Nat.lt_of_mul_lt_mul_right hlt)

/-- Without slip fees the hub amount sold is the net amount divided by the protocol fee's
complement, rounded down; the protocol fee of it, rounded down, leaves at least the net amount. -/
theorem invertProtocolFee_forward {d u : Nat} {protocolFee : Permill} (hd : d ≤ Word.max u128)
    (h : invertProtocolFee d protocolFee = some u) : d + protocolFee.mulFloor u ≤ u := by
  simp only [invertProtocolFee, Option.map_eq_some_iff] at h
  obtain ⟨q, hq, rfl⟩ := h
  obtain ⟨hne, hinner⟩ := Fixed.checkedDiv_eq_some.mp hq
  have hk := protocolFee.le_acc
  -- the complement as a `FixedU128` is exactly `(10^6 - pf) * 10^12`
  have hcomp : (Fixed.ofPerThing protocolFee.complement : FixedU128).inner =
      (1000000 - protocolFee.parts) * 1000000000000 := by
    show min ((1000000 - protocolFee.parts) * 1000000000000000000 / 1000000) (Word.max 128) = _
    rw [show (1000000 - protocolFee.parts) * 1000000000000000000 =
      (1000000 - protocolFee.parts) * 1000000000000 * 1000000 by ring, Nat.mul_div_cancel _ (by decide)]
    exact min_eq_left (by simp only [Word.max]; omega)
  have hd' : (Fixed.ofInnerSat d : FixedU128).inner = d := min_eq_left hd
  rw [hcomp, hd'] at hinner
  rw [hcomp] at hne
  rw [hinner]
  have hfloor := Nat.lt_mul_div_succ (d * 1000000000000000000) (Nat.pos_of_ne_zero hne)
  apply forward_of_inverse (Nat.sub_le _ _) _ (by rw [Nat.sub_sub_self hk]; exact Nat.div_mul_le_self _ _)
  -- cancel the `10^12` of both sides
  apply Nat.lt_of_mul_lt_mul_right (a := 1000000000000)
  calc d * 1000000 * 1000000000000 = d * 1000000000000000000 := by ring
    _ < (1000000 - protocolFee.parts) * 1000000000000 *
        (d * 1000000000000000000 / ((1000000 - protocolFee.parts) * 1000000000000) + 1) := hfloor
    _ = _ := by ring

/-- What a buy does: the pool bought from gives exactly the amount asked and the hub amount `dNet`
computed forward, the pool sold to takes at least its constant-product amount for the hub amount
`u` it gives, the hub amounts differ by the protocol fee and at most all of it is burned. Without
slip fees `dNet` is enough for the amount: the pool bought from keeps its product. -/
theorem calculateBuyStateChanges_rounding (assetInState assetOutState : AssetReserveState) (amount : Nat)
    (assetFee protocolFee m : Permill) (slip : Option TradeSlipFees) :
    Returns (fun ch : TradeStateChange => ∃ u dri dNet,
        ch.assetIn.deltaReserve = .increase dri ∧ ch.assetIn.deltaHubReserve = .decrease u ∧
          ch.assetOut.deltaReserve = .decrease amount ∧ ch.assetOut.deltaHubReserve = .increase dNet ∧
          u * (assetInState.reserve + dri) ≤ dri * assetInState.hubReserve ∧
          u = dNet + ch.fee.protocolFee ∧ ch.fee.burnedProtocolFee ≤ ch.fee.protocolFee ∧
          (slip = none → amount * (assetOutState.hubReserve + dNet) ≤ assetOutState.reserve * dNet))
      (calculateBuyStateChanges assetInState assetOutState amount assetFee protocolFee m slip) := by
  unfold calculateBuyStateChanges
  -- step 1: the hub amount the pool bought from needs, `Q * a / (R' - a) + 1`
  refine returns_bind fun reserveNoFee hnoFee => returns_bind fun x hx => returns_bind fun den hden => ?_
  refine returns_bind fun x' hx' => returns_bind fun d₀ hd₀ => returns_bind fun dNet hdNet => ?_
  obtain ⟨-, rfl⟩ := Word.checkedMul_eq_some.mp hx
  obtain ⟨hle, rfl⟩ := Word.checkedSub_eq_some.mp hden
  obtain ⟨hpos, rfl⟩ := Word.checkedDiv_eq_some.mp hx'
  obtain ⟨-, rfl⟩ := Word.tryFrom_eq_some.mp hd₀
  obtain ⟨hmax, rfl⟩ := Word.checkedAdd_eq_some.mp hdNet
  -- the asset fee only lowers the reserve the amount is asked of
  have hneed : amount * (assetOutState.hubReserve +
      (assetOutState.hubReserve * amount / (reserveNoFee - amount) + 1)) ≤
      assetOutState.reserve * (assetOutState.hubReserve * amount / (reserveNoFee - amount) + 1) :=
    (ceilAmount_enough (by omega)).trans (Nat.mul_le_mul_right _ (amountWithoutFee_le hnoFee))
  -- steps 2 and 3 invert the fees into the hub amount `u` sold
  refine returns_bind fun dGross hdGross => returns_bind fun u hu => ?_
  split
  · exact returns_none
  next hQ =>
  -- the reserve the pool sold to takes, `R * u / (Q - u) + 1`
  refine returns_bind fun y hy => returns_bind fun den' hden' => returns_bind fun y' hy' => ?_
  refine returns_bind fun dri₀ hdri₀ => returns_bind fun dri hdri => ?_
  obtain ⟨-, rfl⟩ := Word.checkedMul_eq_some.mp hy
  obtain ⟨-, rfl⟩ := Word.checkedSub_eq_some.mp hden'
  obtain ⟨-, rfl⟩ := Word.checkedDiv_eq_some.mp hy'
  obtain ⟨-, rfl⟩ := Word.tryFrom_eq_some.mp hdri₀
  obtain ⟨-, rfl⟩ := Word.checkedAdd_eq_some.mp hdri
  have hin : u * (assetInState.reserve + (assetInState.reserve * u / (assetInState.hubReserve - u) + 1)) ≤
      (assetInState.reserve * u / (assetInState.hubReserve - u) + 1) * assetInState.hubReserve :=
    (ceilAmount_enough (by omega)).trans_eq (Nat.mul_comm _ _)
  -- the fees forward again, from `u`
  refine returns_bind fun slipSell hslipSell => returns_bind fun g₁ hg₁ => returns_bind fun g₂ hg₂ => ?_
  refine returns_bind fun slipBuy hslipBuy => returns_bind fun dnf hdnf => ?_
  obtain ⟨hpf, rfl⟩ := Word.checkedSub_eq_some.mp hg₁
  obtain ⟨hss, rfl⟩ := Word.checkedSub_eq_some.mp hg₂
  obtain ⟨hsb, rfl⟩ := Word.checkedSub_eq_some.mp hdnf
  refine returns_bind fun t₁ ht₁ => returns_bind fun t₂ ht₂ => ?_
  obtain ⟨-, rfl⟩ := Word.checkedAdd_eq_some.mp ht₁
  obtain ⟨-, rfl⟩ := Word.checkedAdd_eq_some.mp ht₂
  iterate 4 refine returns_bind fun _ _ => ?_
  refine returns_pure ⟨u, _, _, rfl, rfl, rfl, rfl, hin, by dsimp only; omega, PerThing.mulFloor_le _ _, ?_⟩
  -- without slip fees, the hub amount forward is the one inverted, less the protocol fee
  rintro rfl
  simp only [slipAmount, Option.some.injEq] at hslipSell hslipBuy hdGross hu
  subst hslipSell hslipBuy
  have hfwd := invertProtocolFee_forward hmax hu
  apply buy_bound_mono (Nat.succ_pos _) hneed
  omega

/-- With slip fees the hub amount given to the pool bought from can be too small for the amount
taken out of it: the sell-side inverse returns a hub amount whose fees, taken forward, leave less
than the buy side asked for, and the pool ends below its constant product. -/
theorem buy_underpays_out_pool :
    ∃ ch, calculateBuyStateChanges ⟨1000000, 2500000, 0, 0⟩ ⟨1000000, 2000000, 0, 0⟩ 377000
        ⟨0, by decide⟩ ⟨0, by decide⟩ ⟨0, by decide⟩
        (some ⟨1000000, .positive 1500000, 2000000, .positive 0, ⟨200000, by decide⟩⟩) = some ch ∧
      (1000000 - 377000) * (2000000 + ch.assetOut.deltaHubReserve.amount) < 1000000 * 2000000 :=
  ⟨{ assetIn := { deltaReserve := .increase 1060143, deltaHubReserve := .decrease 1286492 }
     assetOut :=
       { deltaReserve := .decrease 377000, deltaHubReserve := .increase 848115
         extraHubReserveAmount := .increase 0 }
     fee := { assetFee := 0, protocolFee := 438377, burnedProtocolFee := 0 } },
    by decide +kernel, by decide⟩

end Hydration.Omnipool
