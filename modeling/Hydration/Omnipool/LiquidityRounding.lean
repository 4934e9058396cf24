import Hydration.Omnipool.Math

/-!
# Which way Omnipool liquidity rounds

Adding liquidity prices the hub amount at the pool price `Q / R` and mints shares in proportion
`S / R`, both rounded down. Removing liquidity takes reserve in proportion `R / S` to the shares
burned and hub asset at the pool price of the reserve taken, both rounded down and then scaled by
the withdrawal fee's complement, rounded down again. All of these round for the pool.

The hub asset paid to the LP (`lp_hub_amount`) is computed apart, from the shares and not from the
reserve taken, and is floored only once. Where the floor of the reserve taken loses most of a unit,
the LP is paid more hub asset than the pool gives up; the bound here is the hub value of one unit
of reserve and two units more (`calculateRemoveLiquidityStateChanges_rounding`).

The arithmetic is stated first over naturals with each floor as a hypothesis, then carried to the
two functions by `Returns`, one bind at a time.
-/

namespace Hydration.Omnipool

open Frame FixedPoint

/-! ## Chains of floors -/

section Floors

variable {D f r dr dq qb Q R S dS hubT lp : Nat}

/-- The hub amount taken, scaled down by the fee, is at most the reserve taken at the pool price
plus the pool price of the unit the reserve's floor lost. -/
theorem scaled_hub_le (hD : 0 < D) (hdq : dq * D ≤ f * qb) (hqb : qb * R ≤ r * Q)
    (hdr : f * r < (dr + 1) * D) : dq * R ≤ (dr + 1) * Q := by
  apply Nat.le_of_mul_le_mul_right _ hD
  calc dq * R * D = dq * D * R := Nat.mul_right_comm _ _ _
    _ ≤ f * qb * R := Nat.mul_le_mul_right _ hdq
    _ = f * (qb * R) := Nat.mul_assoc _ _ _
    _ ≤ f * (r * Q) := Nat.mul_le_mul_left _ hqb
    _ = f * r * Q := (Nat.mul_assoc _ _ _).symm
    _ ≤ (dr + 1) * D * Q := Nat.mul_le_mul_right _ hdr.le
    _ = (dr + 1) * Q * D := Nat.mul_right_comm _ _ _

/-- Hub asset at most the pool's share `Q * dS / S` exceeds the hub value `qb` of the floored
reserve `r` by less than the hub value of one unit of reserve. -/
theorem transferred_lt (hS : 0 < S) (hT : hubT * S ≤ Q * dS) (hr : R * dS < (r + 1) * S)
    (hqb : r * Q < (qb + 1) * R) : hubT * R < (qb + 1) * R + Q := by
  have hcross : hubT * R ≤ (r + 1) * Q := by
    apply Nat.le_of_mul_le_mul_right _ hS
    calc hubT * R * S = hubT * S * R := Nat.mul_right_comm _ _ _
      _ ≤ Q * dS * R := Nat.mul_le_mul_right _ hT
      _ = Q * (R * dS) := by rw [Nat.mul_assoc, Nat.mul_comm dS]
      _ ≤ Q * ((r + 1) * S) := Nat.mul_le_mul_left _ hr.le
      _ = (r + 1) * Q * S := by rw [Nat.mul_comm Q, Nat.mul_right_comm]
  rw [Nat.add_mul, Nat.one_mul] at hcross
  omega

/-- Scaling both sides by the same fraction of at most one keeps the bound, losing one more unit
to the second floor. -/
theorem scaled_transferred_lt (hR : 0 < R) (hf : f ≤ D) (hlp : lp * D ≤ f * hubT)
    (hT : hubT * R < (qb + 1) * R + Q) (hdq : f * qb < (dq + 1) * D) :
    lp * R < (dq + 2) * R + Q := by
  apply Nat.lt_of_mul_lt_mul_right (a := D)
  have hqbR : f * qb * R < (dq + 1) * D * R := Nat.mul_lt_mul_of_pos_right hdq hR
  have hfR : f * R ≤ D * R := Nat.mul_le_mul_right _ hf
  have hfQ : f * Q ≤ D * Q := Nat.mul_le_mul_right _ hf
  calc lp * R * D = lp * D * R := Nat.mul_right_comm _ _ _
    _ ≤ f * hubT * R := Nat.mul_le_mul_right _ hlp
    _ = f * (hubT * R) := Nat.mul_assoc _ _ _
    _ ≤ f * ((qb + 1) * R + Q) := Nat.mul_le_mul_left _ hT.le
    _ = f * qb * R + f * R + f * Q := by ring
    _ < (dq + 1) * D * R + D * R + D * Q := by omega
    _ = ((dq + 2) * R + Q) * D := by ring

end Floors

/-! ## Adding liquidity -/

/-- The pool price `Q / R` is rounded down, so a hub amount priced with it is at most the exact
one. -/
theorem price_checkedMulInt_le {s : AssetReserveState} {price : FixedU128} {a c : Nat}
    (hprice : s.price = some price) (hc : price.checkedMulInt a = some c) :
    c * s.reserve ≤ a * s.hubReserve := by
  obtain ⟨-, hinner⟩ := Fixed.checkedFromRational_eq_some.mp hprice
  have hfloor : s.hubReserve * 1000000000000000000 / s.reserve * s.reserve ≤
      s.hubReserve * 1000000000000000000 := Nat.div_mul_le_self _ _
  have hc' := Fixed.checkedMulInt_mul_le hc
  rw [hinner] at hc'
  apply Nat.le_of_mul_le_mul_right _ (show 0 < 1000000000000000000 by decide)
  calc c * s.reserve * 1000000000000000000 = c * 1000000000000000000 * s.reserve := Nat.mul_right_comm _ _ _
    _ ≤ s.hubReserve * 1000000000000000000 / s.reserve * a * s.reserve := Nat.mul_le_mul_right _ hc'
    _ = s.hubReserve * 1000000000000000000 / s.reserve * s.reserve * a := Nat.mul_right_comm _ _ _
    _ ≤ s.hubReserve * 1000000000000000000 * a := Nat.mul_le_mul_right _ hfloor
    _ = a * s.hubReserve * 1000000000000000000 := by ring

/-- Adding `amount` mints at most the shares `S * amount / R` and prices the hub amount at most at
`Q * amount / R`. -/
theorem calculateAddLiquidityStateChanges_rounding (assetState : AssetReserveState) (amount : Nat) :
    Returns (fun ch : LiquidityStateChange => ∃ dq ds,
        ch.asset.deltaHubReserve = .increase dq ∧ ch.asset.deltaShares = .increase ds ∧
          ds * assetState.reserve ≤ assetState.shares * amount ∧
          dq * assetState.reserve ≤ amount * assetState.hubReserve)
      (calculateAddLiquidityStateChanges assetState amount) := by
  unfold calculateAddLiquidityStateChanges
  refine returns_bind fun price hprice => returns_bind fun dq hdq => ?_
  refine returns_bind fun x hx => returns_bind fun ds hds => returns_bind fun ds' hds' => ?_
  obtain ⟨-, rfl⟩ := Word.checkedMul_eq_some.mp hx
  obtain ⟨-, rfl⟩ := Word.checkedDiv_eq_some.mp hds
  obtain ⟨-, rfl⟩ := Word.tryFrom_eq_some.mp hds'
  exact returns_pure ⟨dq, _, rfl, rfl, Nat.div_mul_le_self _ _, price_checkedMulInt_le hprice hdq⟩

/-! ## Removing liquidity -/

/-- The hub asset paid to the LP before the fee is at most the pool's share `Q * dS / S`:
`Q * (Q - pR) / (Q + pR)` is at most `Q`. -/
theorem hubTransferred_le (positionPrice currentPrice : FixedU128) (Q S pxr dS : Nat) :
    Returns (fun t => t * S ≤ Q * dS)
      (if positionPrice < currentPrice then do
        let sub ← Word.checkedSub Q pxr
        let sum ← Word.checkedAdd u256 Q pxr
        let div1 ← Word.checkedMul u256 Q sub
        let div1 ← Word.checkedDiv div1 sum
        let t ← Word.checkedMul u256 div1 dS
        let t ← Word.checkedDiv t S
        Word.tryFrom u128 t
      else some 0) := by
  split
  · refine returns_bind fun sub hsub => returns_bind fun sum hsum => ?_
    refine returns_bind fun x hx => returns_bind fun div1 hdiv1 => ?_
    refine returns_bind fun y hy => returns_bind fun t ht => fun t' ht' => ?_
    obtain ⟨-, rfl⟩ := Word.checkedSub_eq_some.mp hsub
    obtain ⟨-, rfl⟩ := Word.checkedAdd_eq_some.mp hsum
    obtain ⟨-, rfl⟩ := Word.checkedMul_eq_some.mp hx
    obtain ⟨-, rfl⟩ := Word.checkedDiv_eq_some.mp hdiv1
    obtain ⟨-, rfl⟩ := Word.checkedMul_eq_some.mp hy
    obtain ⟨-, rfl⟩ := Word.checkedDiv_eq_some.mp ht
    obtain ⟨-, rfl⟩ := Word.tryFrom_eq_some.mp ht'
    -- `Q * (Q - pxr) / (Q + pxr) ≤ Q`, since `Q - pxr ≤ Q + pxr`
    have hdiv1 : Q * (Q - pxr) / (Q + pxr) ≤ Q :=
      Nat.div_le_of_le_mul (by rw [Nat.mul_comm]; exact Nat.mul_le_mul_right _ (by omega))
    calc Q * (Q - pxr) / (Q + pxr) * dS / S * S ≤ Q * (Q - pxr) / (Q + pxr) * dS := Nat.div_mul_le_self _ _
      _ ≤ Q * dS := Nat.mul_le_mul_right _ hdiv1
  · exact returns_pure (by simp)

/-- Removing liquidity takes at most the shares' part `R * dS / S` of the reserve and at most the
pool price of that reserve and of one unit more in hub asset, gives the protocol at most the shares
removed, and pays the LP less hub asset than the pool gives up plus the hub value of one unit of
reserve and two units. The fee's complement `one - fee` saturates at zero, so no bound on the fee
is needed. -/
theorem calculateRemoveLiquidityStateChanges_rounding (assetState : AssetReserveState) (sharesRemoved : Nat)
    (position : Position) (withdrawalFee : FixedU128) :
    Returns (fun ch : LiquidityStateChange => ∃ dr dq ds db,
        ch.asset.deltaReserve = .decrease dr ∧ ch.asset.deltaHubReserve = .decrease dq ∧
          ch.asset.deltaShares = .decrease ds ∧ ch.asset.deltaProtocolShares = .increase db ∧
          db ≤ sharesRemoved ∧ dr * assetState.shares ≤ assetState.reserve * ds ∧
          dq * assetState.reserve ≤ (dr + 1) * assetState.hubReserve ∧
          ch.lpHubAmount * assetState.reserve < (dq + 2) * assetState.reserve + assetState.hubReserve)
      (calculateRemoveLiquidityStateChanges assetState sharesRemoved position withdrawalFee) := by
  unfold calculateRemoveLiquidityStateChanges
  refine returns_bind fun currentPrice _ => returns_bind fun positionPrice _ => ?_
  refine returns_bind fun _ _ => returns_bind fun pxr _ => returns_bind fun deltaBHp _ => ?_
  refine returns_bind fun deltaSharesHp hds => ?_
  obtain ⟨hdb, rfl⟩ := Word.checkedSub_eq_some.mp hds
  -- the reserve taken, `r = R * dS / S`, and its hub value `qb = r * Q / R`
  refine returns_bind fun x hx => returns_bind fun r hr => ?_
  refine returns_bind fun y hy => returns_bind fun qb hqb => ?_
  obtain ⟨-, rfl⟩ := Word.checkedMul_eq_some.mp hx
  obtain ⟨hS, rfl⟩ := Word.checkedDiv_eq_some.mp hr
  obtain ⟨-, rfl⟩ := Word.checkedMul_eq_some.mp hy
  obtain ⟨hR, rfl⟩ := Word.checkedDiv_eq_some.mp hqb
  refine returns_bind fun _ _ => returns_bind fun _ _ => ?_
  refine returns_bind fun r' hr' => returns_bind fun qb' hqb' => returns_bind fun _ _ => ?_
  refine returns_bind fun ds hds' => returns_bind fun db hdb' => ?_
  obtain ⟨-, rfl⟩ := Word.tryFrom_eq_some.mp hr'
  obtain ⟨-, rfl⟩ := Word.tryFrom_eq_some.mp hqb'
  obtain ⟨-, rfl⟩ := Word.tryFrom_eq_some.mp hds'
  obtain ⟨-, rfl⟩ := Word.tryFrom_eq_some.mp hdb'
  refine returns_bind fun hubT hhubT => ?_
  have hT := hubTransferred_le positionPrice currentPrice _ _ pxr _ hubT hhubT
  -- the fee's complement scales the three amounts, each rounded down
  refine returns_bind fun dr hdr => returns_bind fun dq hdq => returns_bind fun lp hlp => ?_
  have hf : ((Fixed.one : FixedU128).saturatingSub withdrawalFee).inner ≤ 1000000000000000000 :=
    (Nat.sub_le _ _).trans (min_le_left _ _)
  have hD : (0 : Nat) < 1000000000000000000 := by decide
  -- the floors of `r` and `qb`, from above
  have hrS : assetState.reserve * (sharesRemoved - deltaBHp) <
      (assetState.reserve * (sharesRemoved - deltaBHp) / assetState.shares + 1) * assetState.shares := by
    rw [Nat.mul_comm _ assetState.shares]
    exact Nat.lt_mul_div_succ _ (Nat.pos_of_ne_zero hS)
  have hqbR : assetState.reserve * (sharesRemoved - deltaBHp) / assetState.shares * assetState.hubReserve <
      (assetState.reserve * (sharesRemoved - deltaBHp) / assetState.shares * assetState.hubReserve /
        assetState.reserve + 1) * assetState.reserve := by
    rw [Nat.mul_comm _ assetState.reserve]
    exact Nat.lt_mul_div_succ _ (Nat.pos_of_ne_zero hR)
  refine returns_pure ⟨dr, dq, _, _, rfl, rfl, rfl, rfl, hdb, ?_, ?_, ?_⟩
  · calc dr * assetState.shares
        ≤ assetState.reserve * (sharesRemoved - deltaBHp) / assetState.shares * assetState.shares :=
          Nat.mul_le_mul_right _ (Fixed.checkedMulInt_le_of_le_one hf hdr)
      _ ≤ assetState.reserve * (sharesRemoved - deltaBHp) := Nat.div_mul_le_self _ _
  · exact scaled_hub_le hD (Fixed.checkedMulInt_mul_le hdq) (Nat.div_mul_le_self _ _)
      (Fixed.lt_checkedMulInt_succ_mul hdr)
  · exact scaled_transferred_lt (Nat.pos_of_ne_zero hR) hf (Fixed.checkedMulInt_mul_le hlp)
      (transferred_lt (Nat.pos_of_ne_zero hS) hT hrS hqbR) (Fixed.lt_checkedMulInt_succ_mul hdq)

/-! ## Both directions -/

/-- Adding liquidity never lowers the reserve per share and prices the hub amount at most at the
pool price. Removing liquidity gives the protocol at most the shares removed, never lowers the
reserve per share, takes at most the hub value of the reserve taken and of one unit more, and pays
the LP less hub asset than the pool gives up plus the hub value of one unit of reserve and two. -/
theorem omnipool_liquidity_rounding (assetState : AssetReserveState) (amount sharesRemoved : Nat)
    (position : Position) (withdrawalFee : FixedU128) :
    (∀ ch, calculateAddLiquidityStateChanges assetState amount = some ch →
      assetState.reserve * (assetState.shares + ch.asset.deltaShares.amount) ≤
          (assetState.reserve + amount) * assetState.shares ∧
        ch.asset.deltaHubReserve.amount * assetState.reserve ≤ amount * assetState.hubReserve) ∧
    (∀ ch, calculateRemoveLiquidityStateChanges assetState sharesRemoved position withdrawalFee = some ch →
      ch.asset.deltaProtocolShares.amount ≤ sharesRemoved ∧
        (assetState.reserve : ℤ) * (assetState.shares - ch.asset.deltaShares.amount) ≤
          (assetState.reserve - ch.asset.deltaReserve.amount) * assetState.shares ∧
        ch.asset.deltaHubReserve.amount * assetState.reserve ≤
          ch.asset.deltaReserve.amount * assetState.hubReserve + assetState.hubReserve ∧
        ch.lpHubAmount * assetState.reserve <
          (ch.asset.deltaHubReserve.amount + 2) * assetState.reserve + assetState.hubReserve) := by
  constructor
  · intro ch h
    obtain ⟨dq, ds, hdq, hds, hshares, hhub⟩ := calculateAddLiquidityStateChanges_rounding assetState amount ch h
    rw [hdq, hds]
    simp only [BalanceUpdate.amount]
    refine ⟨?_, hhub⟩
    -- `R * (S + ds) = R * S + R * ds` and `R * ds ≤ S * amount`
    rw [Nat.mul_add, Nat.add_mul, Nat.mul_comm assetState.reserve ds, Nat.mul_comm amount]
    exact Nat.add_le_add_left hshares _
  · intro ch h
    obtain ⟨dr, dq, ds, db, hdr, hdq, hds, hdb, hdbLe, hreserve, hhub, hlp⟩ :=
      calculateRemoveLiquidityStateChanges_rounding assetState sharesRemoved position withdrawalFee ch h
    rw [hdr, hdq, hds, hdb]
    refine ⟨hdbLe, ?_, by rw [Nat.add_mul, Nat.one_mul] at hhub; exact hhub, hlp⟩
    have hcast : ((dr * assetState.shares : ℕ) : ℤ) ≤ ((assetState.reserve * ds : ℕ) : ℤ) := by
      exact_mod_cast hreserve
    push_cast at hcast
    simp only [BalanceUpdate.amount]
    linarith

/-- A pool of fifteen units of reserve priced at `10^12 / 15`, ten shares, and a position opened
at a far lower price: burning one share takes one unit of reserve and its hub value, a fifteenth of
the hub reserve, but pays the LP nearly a tenth of it. -/
theorem remove_liquidity_pays_lp_more_hub :
    ∃ ch, calculateRemoveLiquidityStateChanges ⟨15, 1000000000000, 10, 0⟩ 1 ⟨1, 1, (1, 1000000)⟩ Fixed.zero =
      some ch ∧ ch.asset.deltaHubReserve.amount < ch.lpHubAmount :=
  ⟨{ asset := { deltaReserve := .decrease 1, deltaHubReserve := .decrease 66666666666
                deltaShares := .decrease 1, deltaProtocolShares := .increase 0 }
     lpHubAmount := 99999999999, deltaPositionReserve := .decrease 1, deltaPositionShares := .decrease 1 },
    by decide +kernel, by decide⟩

end Hydration.Omnipool
