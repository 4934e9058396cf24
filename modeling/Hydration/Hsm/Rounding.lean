import Hydration.Hsm.Pallet

/-!
# Which way the HSM rounds

Each of the four ways through `sell` and `buy` computes one amount from the other at a price, with
`calculate_collateral_amount` (collateral for Hollar, rounded up) or `calculate_hollar_amount`
(Hollar for collateral, rounded down). Where Hollar goes out, both round for the HSM: the
collateral it takes is at least the Hollar it mints at the purchase price. Where Hollar comes in,
both round for the user: the collateral paid out for the Hollar burned is at least the priced
amount, and at most one unit of the rounded amount above it.

The results here are stated for one trade, from `sell_hollarIn`, `sell_collateralIn`,
`buy_hollarOut` and `buy_collateralOut`, which say what each way through the entry points
computes.
-/

namespace Hydration.Hsm

open Frame FixedPoint

/-! ## The two amount helpers -/

/-- `calculate_collateral_amount` rounds `h * n / d` up. -/
theorem calculateCollateralAmount_bounds {h c : Nat} {price : Price}
    (hc : calculateCollateralAmount h price = some c) :
    h * price.1 ≤ c * price.2 ∧ c * price.2 < h * price.1 + price.2 :=
  multiplyByRationalWithRounding_up hc

/-- `calculate_hollar_amount` rounds `c * d / n` down. -/
theorem calculateHollarAmount_bounds {c h : Nat} {price : Price}
    (hh : calculateHollarAmount c price = some h) :
    h * price.1 ≤ c * price.2 ∧ c * price.2 < h * price.1 + price.1 :=
  multiplyByRationalWithRounding_down hh

section Trades

variable {AccountId AssetId Pool : Type} [DecidableEq AccountId] [DecidableEq AssetId]
  (rt : Runtime AccountId AssetId Pool)

/-- The purchase price `do_trade_hollar_out` quotes for a collateral: `(1 + fee) / peg` for the
peg its pool reports. -/
def PurchasePriceUsed (s : State AccountId AssetId) (collateral : AssetId) (price : Price) : Prop :=
  ∃ info pool peg, s.collaterals.lookup collateral = some info ∧
    rt.initialPoolSnapshot info.poolId = some pool ∧ rt.assetPeg pool collateral info.poolId = .ok peg ∧
    price = calculatePurchasePrice peg info.purchaseFee

/-- The buy price `sell` quotes for `amountIn` Hollar: the collateral the pool asks for that much
Hollar, per Hollar, with the buyback fee. -/
def SellBackPrice (s : State AccountId AssetId) (collateral : AssetId) (amountIn : Nat) (price : Price) :
    Prop :=
  ∃ info pool c, s.collaterals.lookup collateral = some info ∧ rt.initialPoolSnapshot info.poolId = some pool ∧
    rt.simulateBuy pool info.poolId collateral rt.hollarId amountIn (Word.max 128) = .ok c ∧
    calculateBuyPriceWithFee (c, amountIn) info.buyBackFee = some price

/-- The buy price `buy` quotes for `amountOut` collateral: that much collateral per the Hollar the
pool gives for it, with the buyback fee. -/
def BuyBackPrice (s : State AccountId AssetId) (collateral : AssetId) (amountOut : Nat) (price : Price) :
    Prop :=
  ∃ info pool h, s.collaterals.lookup collateral = some info ∧ rt.initialPoolSnapshot info.poolId = some pool ∧
    rt.simulateSell pool info.poolId collateral rt.hollarId amountOut 0 = .ok h ∧
    calculateBuyPriceWithFee (amountOut, h) info.buyBackFee = some price

variable {s s' : State AccountId AssetId} {who : AccountId}

/-- What `do_trade_hollar_out` hands its closure, and that the amounts are the closure's. -/
theorem doTradeHollarOut_eq_ok {col : AssetId} {f : Price → Except Error (Nat × Nat)} {amounts : Nat × Nat}
    (h : doTradeHollarOut rt s who col f = .ok (s', amounts)) :
    ∃ price, PurchasePriceUsed rt s col price ∧ f price = .ok amounts := by
  unfold doTradeHollarOut at h
  simp only [bind_eq_ok, okOr_eq_ok, ensure_eq_ok] at h
  obtain ⟨info, hinfo, pool, hpool, peg, hpeg, am, ham, _, -, bal, -, bal', -, h⟩ := h
  cases h
  exact ⟨_, ⟨info, pool, peg, hinfo, hpool, hpeg, rfl⟩, ham⟩

/-- What `do_trade_hollar_in` hands its closures: the simulated amounts, and the buy price made of
them. -/
theorem doTradeHollarIn_eq_ok {col : AssetId} {sim : AssetId → Pool → Except Error (Nat × Nat)}
    {f : Nat × Nat → Price → Except Error (Nat × Nat)} {amounts : Nat × Nat}
    (h : doTradeHollarIn rt s who col sim f = .ok (s', amounts)) :
    ∃ info pool r price, s.collaterals.lookup col = some info ∧ rt.initialPoolSnapshot info.poolId = some pool ∧
      sim info.poolId pool = .ok r ∧ calculateBuyPriceWithFee (r.2, r.1) info.buyBackFee = some price ∧
      f r price = .ok amounts := by
  unfold doTradeHollarIn at h
  simp only [bind_eq_ok, okOr_eq_ok, ensure_eq_ok] at h
  obtain ⟨info, hinfo, pool, hpool, _, -, _, -, peg, -, _, -, r, hr, price, hprice, am, ham, h⟩ := h
  obtain ⟨_, -, _, -, _, -, _, -, _, -, _, -, h⟩ := h
  cases h
  exact ⟨info, pool, r, price, hinfo, hpool, hr, hprice, ham⟩

/-! ## The four ways through the entry points -/

variable {assetIn assetOut : AssetId} {amount limit : Nat} {ev : Swapped AssetId}

/-- `sell` with Hollar in: the collateral out is the Hollar in at the buy price, rounded up. -/
theorem sell_hollarIn (h : sell rt s who assetIn assetOut amount limit = .ok (s', ev))
    (hin : assetIn = rt.hollarId) :
    ev.amountIn = amount ∧ ∃ price, SellBackPrice rt s assetOut amount price ∧
      calculateCollateralAmount amount price = some ev.amountOut := by
  unfold sell at h
  simp only [bind_eq_ok, ensure_eq_ok, if_pos hin] at h
  obtain ⟨_, -, p, ⟨⟨s₁, amounts⟩, hr, hp⟩, _, -, h⟩ := h
  cases hp
  cases h
  obtain ⟨info, pool, sim, price, hinfo, hpool, hsim, hprice, hf⟩ := doTradeHollarIn_eq_ok rt hr
  simp only [bind_eq_ok, okOr_eq_ok] at hsim hf
  obtain ⟨c, hc, hsim⟩ := hsim
  cases hsim
  obtain ⟨c', hc', hf⟩ := hf
  cases hf
  exact ⟨rfl, price, ⟨info, pool, c, hinfo, hpool, hc, hprice⟩, hc'⟩

/-- `sell` with collateral in: the Hollar out is the collateral in at the purchase price, rounded
down. -/
theorem sell_collateralIn (h : sell rt s who assetIn assetOut amount limit = .ok (s', ev))
    (hin : assetIn ≠ rt.hollarId) :
    ev.amountIn = amount ∧ ∃ price, PurchasePriceUsed rt s assetIn price ∧
      calculateHollarAmount amount price = some ev.amountOut := by
  unfold sell at h
  simp only [bind_eq_ok, ensure_eq_ok, if_neg hin] at h
  obtain ⟨_, -, p, ⟨⟨s₁, amounts⟩, hr, hp⟩, _, -, h⟩ := h
  cases hp
  cases h
  obtain ⟨price, hused, hf⟩ := doTradeHollarOut_eq_ok rt hr
  simp only [bind_eq_ok, okOr_eq_ok] at hf
  obtain ⟨hollar, hh, hf⟩ := hf
  cases hf
  exact ⟨rfl, price, hused, hh⟩

/-- `buy` with Hollar out: the collateral in is the Hollar out at the purchase price, rounded up. -/
theorem buy_hollarOut (h : buy rt s who assetIn assetOut amount limit = .ok (s', ev))
    (hout : assetOut = rt.hollarId) :
    ev.amountOut = amount ∧ ∃ price, PurchasePriceUsed rt s assetIn price ∧
      calculateCollateralAmount amount price = some ev.amountIn := by
  unfold buy at h
  simp only [bind_eq_ok, ensure_eq_ok, if_pos hout] at h
  obtain ⟨_, -, p, ⟨⟨s₁, amounts⟩, hr, hp⟩, _, -, h⟩ := h
  cases hp
  cases h
  obtain ⟨price, hused, hf⟩ := doTradeHollarOut_eq_ok rt hr
  simp only [bind_eq_ok, okOr_eq_ok] at hf
  obtain ⟨c, hc, hf⟩ := hf
  cases hf
  exact ⟨rfl, price, hused, hc⟩

/-- `buy` with collateral out: the Hollar in is the collateral out at the buy price, rounded down. -/
theorem buy_collateralOut (h : buy rt s who assetIn assetOut amount limit = .ok (s', ev))
    (hout : assetOut ≠ rt.hollarId) :
    ev.amountOut = amount ∧ ∃ price, BuyBackPrice rt s assetOut amount price ∧
      calculateHollarAmount amount price = some ev.amountIn := by
  unfold buy at h
  simp only [bind_eq_ok, ensure_eq_ok, if_neg hout] at h
  obtain ⟨_, -, p, ⟨⟨s₁, amounts⟩, hr, hp⟩, _, -, h⟩ := h
  cases hp
  cases h
  obtain ⟨info, pool, sim, price, hinfo, hpool, hsim, hprice, hf⟩ := doTradeHollarIn_eq_ok rt hr
  simp only [bind_eq_ok, okOr_eq_ok] at hsim hf
  obtain ⟨hollar, hh, hsim⟩ := hsim
  cases hsim
  obtain ⟨h', hh', hf⟩ := hf
  cases hf
  exact ⟨rfl, price, ⟨info, pool, hollar, hinfo, hpool, hh, hprice⟩, hh'⟩

end Trades

/-! ## One trade, every way through -/

section Claim

variable {AccountId AssetId Pool : Type} [DecidableEq AccountId] [DecidableEq AssetId]

/-- In every trade the collateral is worth at least the Hollar at the price used, `h * n ≤ c * d`,
and the rounded amount is less than one unit off the exact one. Where Hollar goes out this favours
the HSM; where Hollar comes in it favours the user. -/
theorem hsm_trades_round_within_one_unit (rt : Runtime AccountId AssetId Pool) (s s' : State AccountId AssetId)
    (who : AccountId) (assetIn assetOut : AssetId) (amount limit : Nat) (ev : Swapped AssetId) :
    -- Hollar out, collateral in: the Hollar minted is rounded down
    (sell rt s who assetIn assetOut amount limit = .ok (s', ev) → assetIn ≠ rt.hollarId →
      ∃ price, PurchasePriceUsed rt s assetIn price ∧
        ev.amountOut * price.1 ≤ ev.amountIn * price.2 ∧ ev.amountIn * price.2 < ev.amountOut * price.1 + price.1) ∧
    -- Hollar out, collateral in: the collateral taken is rounded up
    (buy rt s who assetIn assetOut amount limit = .ok (s', ev) → assetOut = rt.hollarId →
      ∃ price, PurchasePriceUsed rt s assetIn price ∧
        ev.amountOut * price.1 ≤ ev.amountIn * price.2 ∧ ev.amountIn * price.2 < ev.amountOut * price.1 + price.2) ∧
    -- Hollar in, collateral out: the collateral paid out is rounded up
    (sell rt s who assetIn assetOut amount limit = .ok (s', ev) → assetIn = rt.hollarId →
      ∃ price, SellBackPrice rt s assetOut amount price ∧
        ev.amountIn * price.1 ≤ ev.amountOut * price.2 ∧ ev.amountOut * price.2 < ev.amountIn * price.1 + price.2) ∧
    -- Hollar in, collateral out: the Hollar burned is rounded down
    (buy rt s who assetIn assetOut amount limit = .ok (s', ev) → assetOut ≠ rt.hollarId →
      ∃ price, BuyBackPrice rt s assetOut amount price ∧
        ev.amountIn * price.1 ≤ ev.amountOut * price.2 ∧ ev.amountOut * price.2 < ev.amountIn * price.1 + price.1) := by
  refine ⟨fun h hin => ?_, fun h hout => ?_, fun h hin => ?_, fun h hout => ?_⟩
  · obtain ⟨hamount, price, hused, hh⟩ := sell_collateralIn rt h hin
    rw [← hamount] at hh
    exact ⟨price, hused, calculateHollarAmount_bounds hh⟩
  · obtain ⟨hamount, price, hused, hc⟩ := buy_hollarOut rt h hout
    rw [← hamount] at hc
    exact ⟨price, hused, calculateCollateralAmount_bounds hc⟩
  · obtain ⟨hamount, price, hused, hc⟩ := sell_hollarIn rt h hin
    rw [← hamount] at hc
    exact ⟨price, hused, calculateCollateralAmount_bounds hc⟩
  · obtain ⟨hamount, price, hused, hh⟩ := buy_collateralOut rt h hout
    rw [← hamount] at hh
    exact ⟨price, hused, calculateHollarAmount_bounds hh⟩

end Claim

/-- Hollar `0` and one collateral `1`, in a pool that asks one unit of collateral for one Hollar
and holds a thousand Hollar and no collateral; the Hollar contract mints and burns exactly. -/
def exampleRuntime : Runtime Nat Nat Unit where
  hollarId := 0
  palletAccount := 0
  initialPoolSnapshot _ := some ()
  assetReserve _ asset := if asset = 0 then some 1000 else some 0
  assetPeg _ _ _ := .ok (1, 1)
  simulateSell _ _ _ _ _ _ := .ok 1
  simulateBuy _ _ _ _ _ _ := .ok 1
  mintHollar b who amount := .ok (b.deposit 0 who amount)
  burnHollar b amount := okOr (b.withdraw 0 0 amount) .evm

/-- Collateral `1` with a buyback fee of 30%, the pallet account `0` holding ten of it and the
account `1` one Hollar. -/
def exampleState : State Nat Nat where
  collaterals := (∅ : StorageMap Nat (CollateralInfo Nat)).insert 1
    ⟨2, ⟨0, by decide⟩, ⟨2000000000000000000, by decide⟩, PerThing.one, ⟨300000, by decide⟩, none⟩
  hollarAmountReceived _ := 0
  balances := ⟨fun asset who => if asset = 1 ∧ who = 0 then 10 else if asset = 0 ∧ who = 1 then 1 else 0⟩

set_option maxRecDepth 4000 in
/-- Selling one Hollar at the buy price `1000000 / 700000` pays out two units of collateral, worth
more than the Hollar at that price. -/
theorem hsm_sell_hollar_in_pays_out_more :
    ∃ s' ev price, sell exampleRuntime exampleState 1 0 1 1 0 = .ok (s', ev) ∧
      SellBackPrice exampleRuntime exampleState 1 1 price ∧ ev.amountIn * price.1 < ev.amountOut * price.2 :=
  ⟨_, _, (1000000, 700000), rfl, ⟨_, (), 1, rfl, rfl, rfl, rfl⟩, by decide⟩

end Hydration.Hsm
