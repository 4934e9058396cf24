import Hydration.Frame.Arith

/-!
# XYK math

`math/src/xyk/math.rs` and `calculate_pool_trade_fee` of `math/src/fee.rs`. Products are taken
in `U256` and narrowed back to `u128`; the pallet maps every `MathError` to one error of its own,
so the model returns `Option`.

Every function rounds toward the pool: a trade pays out the floor of its constant-product
amount and charges the floor plus one, a deposit asks the floor plus one of the second asset and
mints the floor of the shares of the first, and a withdrawal pays the floor of each pro-rata part.
Each gets one lemma that says so as a product of naturals (`*_spec`), and the four facts about
the pool's value that the pallet needs follow from those alone (`lpValue_of_add`,
`lpValue_of_remove`, `product_of_sell`, `product_of_buy`).
-/

namespace Hydration.Xyk

abbrev u128 : Nat := 128

abbrev u256 : Nat := 256

/-- `calculate_out_given_in`: `out_reserve * amount_in / (in_reserve + amount_in)`. -/
def calculateOutGivenIn (inReserve outReserve amountIn : Nat) : Option Nat :=
  if amountIn = 0 then some 0
  else do
    let denominator ← Word.checkedAdd u256 inReserve amountIn
    if denominator = 0 then none
    else
      let numerator ← Word.checkedMul u256 outReserve amountIn
      let salePrice ← Word.checkedDiv numerator denominator
      Word.tryFrom u128 salePrice

/-- `calculate_in_given_out`: `in_reserve * amount_out / (out_reserve - amount_out) + 1`. -/
def calculateInGivenOut (outReserve inReserve amountOut : Nat) : Option Nat :=
  if amountOut = 0 then some 0
  else if outReserve < amountOut then none
  else do
    let numerator ← Word.checkedMul u256 inReserve amountOut
    let denominator ← Word.checkedSub outReserve amountOut
    if denominator = 0 then none
    else
      let buyPrice ← Word.checkedDiv numerator denominator
      let result ← Word.tryFrom u128 buyPrice
      -- rounded up so that no value leaks from the pool
      Word.checkedAdd u128 result 1

/-- `calculate_liquidity_in`: the second asset a deposit of `amount` of the first asks,
`amount * b_reserve / a_reserve + 1`. -/
def calculateLiquidityIn (assetAReserve assetBReserve amount : Nat) : Option Nat :=
  if assetAReserve = 0 then none
  else if amount = 0 ∨ assetBReserve = 0 then some 0
  else do
    let num ← Word.checkedMul u256 amount assetBReserve
    let bRequired ← Word.checkedDiv num assetAReserve
    let bRequired ← Word.checkedAdd u256 bRequired 1
    Word.tryFrom u128 bRequired

/-- `calculate_liquidity_out`: the pro-rata part of each reserve for `amount` shares. -/
def calculateLiquidityOut (assetAReserve assetBReserve amount totalLiquidity : Nat) :
    Option (Nat × Nat) :=
  if totalLiquidity = 0 then none
  else do
    let a ← Word.checkedMul u256 amount assetAReserve
    let a ← Word.checkedDiv a totalLiquidity
    let removeAmountA ← Word.tryFrom u128 a
    let b ← Word.checkedMul u256 assetBReserve amount
    let b ← Word.checkedDiv b totalLiquidity
    let removeAmountB ← Word.tryFrom u128 b
    pure (removeAmountA, removeAmountB)

/-- `calculate_shares`: `share_issuance * amount / reserve`. -/
def calculateShares (assetReserve assetAmount shareIssuance : Nat) : Option Nat :=
  if assetReserve = 0 then none
  else do
    let result ← Word.checkedMul u256 shareIssuance assetAmount
    let result ← Word.checkedDiv result assetReserve
    Word.tryFrom u128 result

/-- `calculate_pool_trade_fee`: `amount / denominator * numerator`, the whole amount at a fee of
one, nothing at a zero fee. -/
def calculatePoolTradeFee (amount : Nat) (fee : Nat × Nat) : Option Nat :=
  let numerator := fee.1
  let denominator := fee.2
  if denominator = 0 ∨ numerator = 0 then some 0
  else if denominator = numerator then some amount
  else do
    let q ← Word.checkedDiv amount denominator
    Word.checkedMul u128 q numerator

/-! ## What each function rounds -/

section Specs

variable {x y a b o p S s : Nat}

/-- A sale pays at most the constant-product amount. -/
theorem calculateOutGivenIn_spec (h : calculateOutGivenIn x y a = some o) : o * (x + a) ≤ y * a := by
  unfold calculateOutGivenIn at h
  split at h
  · cases h
    simp
  simp only [Option.bind_eq_bind, Option.bind_eq_some_iff, Word.checkedAdd_eq_some] at h
  obtain ⟨den, ⟨-, rfl⟩, h⟩ := h
  split at h
  · cases h
  simp only [Option.bind_eq_some_iff, Word.checkedMul_eq_some, Word.checkedDiv_eq_some,
    Word.tryFrom_eq_some] at h
  obtain ⟨num, ⟨-, rfl⟩, q, ⟨-, rfl⟩, -, rfl⟩ := h
  exact Nat.div_mul_le_self _ _

/-- A purchase of `b` out of `y` charges more than the constant-product amount, and nothing for
nothing. -/
theorem calculateInGivenOut_spec (h : calculateInGivenOut y x b = some p) :
    b ≤ y ∧ x * b < p * (y - b) ∨ b = 0 ∧ p = 0 := by
  unfold calculateInGivenOut at h
  split at h
  · next hb => exact .inr ⟨hb, (Option.some.inj h).symm⟩
  split at h
  · cases h
  next hle =>
  simp only [Option.bind_eq_bind, Option.bind_eq_some_iff, Word.checkedMul_eq_some,
    Word.checkedSub_eq_some] at h
  obtain ⟨num, ⟨-, rfl⟩, den, ⟨-, rfl⟩, h⟩ := h
  split at h
  · cases h
  next hden =>
  simp only [Option.bind_eq_some_iff, Word.checkedDiv_eq_some, Word.tryFrom_eq_some,
    Word.checkedAdd_eq_some] at h
  obtain ⟨q, ⟨-, rfl⟩, r, ⟨-, rfl⟩, -, rfl⟩ := h
  refine .inl ⟨Nat.le_of_not_lt hle, ?_⟩
  rw [Nat.mul_comm _ (y - b)]
  exact Nat.lt_mul_div_succ _ (Nat.pos_of_ne_zero hden)

/-- A deposit of `a` asks at least the pro-rata part of the second reserve. -/
theorem calculateLiquidityIn_spec (h : calculateLiquidityIn x y a = some b) :
    0 < x ∧ a * y ≤ b * x := by
  unfold calculateLiquidityIn at h
  split at h
  · cases h
  next hx =>
  refine ⟨Nat.pos_of_ne_zero hx, ?_⟩
  split at h
  · next h0 =>
    cases h
    rcases h0 with rfl | rfl <;> simp
  simp only [Option.bind_eq_bind, Option.bind_eq_some_iff, Word.checkedMul_eq_some,
    Word.checkedDiv_eq_some, Word.checkedAdd_eq_some, Word.tryFrom_eq_some] at h
  obtain ⟨num, ⟨-, rfl⟩, q, ⟨-, rfl⟩, r, ⟨-, rfl⟩, -, rfl⟩ := h
  rw [Nat.mul_comm _ x]
  exact (Nat.lt_mul_div_succ _ (Nat.pos_of_ne_zero hx)).le

/-- A withdrawal of `s` of `S` shares pays at most the pro-rata part of each reserve. -/
theorem calculateLiquidityOut_spec {oa ob : Nat} (h : calculateLiquidityOut x y s S = some (oa, ob)) :
    0 < S ∧ oa * S ≤ s * x ∧ ob * S ≤ y * s := by
  unfold calculateLiquidityOut at h
  split at h
  · cases h
  next hS =>
  simp only [Option.bind_eq_bind, Option.bind_eq_some_iff, Word.checkedMul_eq_some,
    Word.checkedDiv_eq_some, Word.tryFrom_eq_some, Option.pure_def, Option.some.injEq,
    Prod.mk.injEq] at h
  obtain ⟨na, ⟨-, rfl⟩, qa, ⟨-, rfl⟩, ra, ⟨-, rfl⟩, nb, ⟨-, rfl⟩, qb, ⟨-, rfl⟩, rb, ⟨-, rfl⟩,
    rfl, rfl⟩ := h
  exact ⟨Nat.pos_of_ne_zero hS, Nat.div_mul_le_self _ _, Nat.div_mul_le_self _ _⟩

/-- The shares of a deposit of `a` are at most the pro-rata part of the issuance. -/
theorem calculateShares_spec (h : calculateShares x a S = some s) : 0 < x ∧ s * x ≤ S * a := by
  unfold calculateShares at h
  split at h
  · cases h
  next hx =>
  simp only [Option.bind_eq_bind, Option.bind_eq_some_iff, Word.checkedMul_eq_some,
    Word.checkedDiv_eq_some, Word.tryFrom_eq_some] at h
  obtain ⟨n, ⟨-, rfl⟩, q, ⟨-, rfl⟩, -, rfl⟩ := h
  exact ⟨Nat.pos_of_ne_zero hx, Nat.div_mul_le_self _ _⟩

end Specs

/-! ## The value of a pool

The value of a share of a pool with reserves `x`, `y` and `S` shares is measured by
`x * y / S ^ 2`, the square of the geometric mean of the reserves per share; it never falls when
`x * y * S' ^ 2 ≤ x' * y' * S ^ 2`. -/

section Value

variable {x y S x' y' S' : Nat}

/-- A deposit that adds at least the share growth to each reserve keeps the value of a share:
from `S' * x ≤ S * x'` and `y * x' ≤ y' * x`, cancelling `x ^ 2`. -/
theorem lpValue_of_add (hx : 0 < x) (hy : y * x' ≤ y' * x) (hS : S' * x ≤ S * x') :
    x * y * S' ^ 2 ≤ x' * y' * S ^ 2 := by
  have hsq : (S' * x) ^ 2 ≤ (S * x') ^ 2 := Nat.pow_le_pow_left hS 2
  apply Nat.le_of_mul_le_mul_right _ (pow_pos hx 2)
  calc x * y * S' ^ 2 * x ^ 2 = x * y * (S' * x) ^ 2 := by ring
    _ ≤ x * y * (S * x') ^ 2 := Nat.mul_le_mul_left _ hsq
    _ = x' * S ^ 2 * x * (y * x') := by ring
    _ ≤ x' * S ^ 2 * x * (y' * x) := Nat.mul_le_mul_left _ hy
    _ = x' * y' * S ^ 2 * x ^ 2 := by ring

/-- A withdrawal that leaves each reserve at least its share of the remaining shares keeps the
value of a share. -/
theorem lpValue_of_remove (hx : x * S' ≤ x' * S) (hy : y * S' ≤ y' * S) :
    x * y * S' ^ 2 ≤ x' * y' * S ^ 2 :=
  calc x * y * S' ^ 2 = (x * S') * (y * S') := by ring
    _ ≤ (x' * S) * (y' * S) := Nat.mul_le_mul hx hy
    _ = x' * y' * S ^ 2 := by ring

/-- A deposit of `a` and `b` that asks at least the pro-rata `b` and mints at most the pro-rata
shares `s` keeps the value of a share. -/
theorem lpValue_of_deposit {a b s : Nat} (hx : 0 < x) (hb : a * y ≤ b * x) (hs : s * x ≤ S * a) :
    x * y * (S + s) ^ 2 ≤ (x + a) * (y + b) * S ^ 2 := by
  apply lpValue_of_add hx
  · calc y * (x + a) = y * x + a * y := by ring
      _ ≤ y * x + b * x := Nat.add_le_add_left hb _
      _ = (y + b) * x := by ring
  · calc (S + s) * x = S * x + s * x := Nat.add_mul _ _ _
      _ ≤ S * x + S * a := Nat.add_le_add_left hs _
      _ = S * (x + a) := (Nat.mul_add _ _ _).symm

/-- A withdrawal of `s` of `S` shares that pays at most the pro-rata part of each reserve keeps
the value of a share. -/
theorem lpValue_of_withdraw {oa ob s : Nat} (ha : oa * S ≤ s * x) (hb : ob * S ≤ y * s) :
    x * y * (S - s) ^ 2 ≤ (x - oa) * (y - ob) * S ^ 2 := by
  apply lpValue_of_remove
  · calc x * (S - s) = x * S - s * x := by rw [Nat.mul_sub, Nat.mul_comm x s]
      _ ≤ x * S - oa * S := Nat.sub_le_sub_left ha _
      _ = (x - oa) * S := (Nat.sub_mul _ _ _).symm
  · calc y * (S - s) = y * S - y * s := Nat.mul_sub _ _ _
      _ ≤ y * S - ob * S := Nat.sub_le_sub_left hb _
      _ = (y - ob) * S := (Nat.sub_mul _ _ _).symm

/-- A trade that keeps the product keeps the value of a share. -/
theorem lpValue_of_product (h : x * y ≤ x' * y') (S : Nat) : x * y * S ^ 2 ≤ x' * y' * S ^ 2 :=
  Nat.mul_le_mul_right _ h

/-- A sale of `a` that pays out `o - f` with `o` at most its constant-product amount keeps the
product of the reserves. -/
theorem product_of_sell {a o f : Nat} (ho : o * (x + a) ≤ y * a) (hoy : o ≤ y) :
    x * y ≤ (x + a) * (y - (o - f)) := by
  have hle : y - o ≤ y - (o - f) := Nat.sub_le_sub_left (Nat.sub_le _ _) _
  have hsplit : (x + a) * (y - o) + o * (x + a) = (x + a) * y := by
    rw [Nat.mul_comm o, ← Nat.mul_add, Nat.sub_add_cancel hoy]
  calc x * y = (x + a) * y - y * a := by rw [Nat.add_mul, Nat.mul_comm a y, Nat.add_sub_cancel]
    _ ≤ (x + a) * y - o * (x + a) := Nat.sub_le_sub_left ho _
    _ = (x + a) * (y - o) := by omega
    _ ≤ (x + a) * (y - (o - f)) := Nat.mul_le_mul_left _ hle

/-- A purchase of `b` that pays in `p + f` with `p` above its constant-product amount keeps the
product of the reserves. -/
theorem product_of_buy {b p f : Nat} (hp : x * b < p * (y - b)) (hby : b ≤ y) :
    x * y ≤ (x + (p + f)) * (y - b) := by
  have hsplit : x * (y - b) + x * b = x * y := by rw [← Nat.mul_add, Nat.sub_add_cancel hby]
  calc x * y = x * (y - b) + x * b := hsplit.symm
    _ ≤ x * (y - b) + p * (y - b) := Nat.add_le_add_left hp.le _
    _ = (x + p) * (y - b) := (Nat.add_mul _ _ _).symm
    _ ≤ (x + (p + f)) * (y - b) := Nat.mul_le_mul_right _ (by omega)

end Value

end Hydration.Xyk
