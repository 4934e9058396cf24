import Hydration.EmaOracle.Math

/-!
# Rounding a wide rational to a 128-bit one

`support::rational` of `hydra-dx-math` reduces a rational with 256-bit (`round_to_rational`) or
512-bit (`round_u512_to_rational`) parts to one with 128-bit parts: both parts are shifted right
until the wider fits, and the `Rounding` mode adds a bias of one to one side, the denominator for
`Down` and the numerator for `Up`. Two clamps follow: a nonzero numerator is at least one and the
denominator is at least one, and the bias saturates at `u128::MAX`. `Ratio::saturating_add`
rounds its exact sum this way, `Down`.

The enum's documentation promises that `Down` never rounds up and `Up` never rounds down. The
shift with its bias keeps that promise (`round_to_rational_keeps_contract`), but the clamps do not:
a numerator clamped up to one, a denominator bias lost to saturation, and a quotient that does
not fit 128 bits all move the result to the wrong side, and `Ratio::saturating_add` inherits the
saturated denominator (`round_to_rational_breaks_rounding`).
-/

namespace Hydration.Rational

open EmaOracle (Rounding bits)
open GigaHdx (Ratio)

/-- The common body of `round_to_rational` and `round_u512_to_rational`: the input's width only
bounds its parts, and `low_u128` of a shifted part is the part itself. -/
def roundToRationalOf (nd : Nat × Nat) (rounding : Rounding) : Nat × Nat :=
  let shift := max (bits nd.1) (bits nd.2) - 128
  if 0 < shift then
    let minN := if nd.1 = 0 then 0 else 1
    let bias := rounding.toBias 1
    (max (Word.saturatingAdd 128 ((nd.1 >>> shift) % 2 ^ 128) bias.1) minN,
      max (Word.saturatingAdd 128 ((nd.2 >>> shift) % 2 ^ 128) bias.2) 1)
  else (nd.1 % 2 ^ 128, nd.2 % 2 ^ 128)

/-- `round_to_rational`, of a rational with `U256` parts. -/
def roundToRational (nd : Nat × Nat) (rounding : Rounding) : Nat × Nat :=
  roundToRationalOf nd rounding

/-- `round_u512_to_rational`, of a rational with `U512` parts. -/
def roundU512ToRational (nd : Nat × Nat) (rounding : Rounding) : Nat × Nat :=
  roundToRationalOf nd rounding

/-- `Ratio::saturating_add`: the exact sum over the product of the denominators, in 256 bits,
rounded `Down`; a zero summand returns the other. -/
def saturatingAdd (l r : Ratio) : Ratio :=
  if l.n = 0 then r
  else if r.n = 0 then l
  else
    let n := Word.saturatingAdd 256 (l.n * r.d) (r.n * l.d)
    let d := l.d * r.d
    let nd := roundToRational (n, d) .down
    Ratio.new nd.1 nd.2

/-- `Ratio::saturating_div`: zero for a zero divisor, else the exact quotient rounded
`Nearest`. -/
def saturatingDiv (l r : Ratio) : Ratio :=
  if r.n = 0 then ⟨0, 1⟩
  else
    let nd := roundToRational (l.n * r.d, l.d * r.n) .nearest
    Ratio.new nd.1 nd.2

/-- `Ratio::saturating_sub`: the exact difference over the product of the denominators, clamped
at zero, rounded `Nearest`; the first ratio when either is zero. -/
def saturatingSub (l r : Ratio) : Ratio :=
  if l.n = 0 ∨ r.n = 0 then Ratio.new l.n l.d
  else
    let nd := roundToRational (l.n * r.d - r.n * l.d, l.d * r.d) .nearest
    Ratio.new nd.1 nd.2

/-- `Ratio::mul`, which `saturating_mul` is: the exact product rounded `Nearest`; zero when
either is zero. -/
def mul (l r : Ratio) : Ratio :=
  if l.n = 0 ∨ r.n = 0 then ⟨0, 1⟩
  else
    let nd := roundToRational (l.n * r.n, l.d * r.d) .nearest
    Ratio.new nd.1 nd.2

/-! ## The shift -/

section Shift

variable {n s : Nat}

/-- A number below `2 ^ bits n`. -/
theorem lt_two_pow_bits (n : Nat) : n < 2 ^ bits n := by
  unfold bits
  split
  · next h => simp [h]
  · exact Nat.lt_log2_self

/-- Shifted by the excess of its bits over 128, a number fits 128 bits. -/
theorem shiftRight_lt (h : bits n ≤ 128 + s) : n >>> s < 2 ^ 128 := by
  rw [Nat.shiftRight_eq_div_pow, Nat.div_lt_iff_lt_mul (Nat.two_pow_pos s), ← Nat.pow_add]
  exact Nat.lt_of_lt_of_le (lt_two_pow_bits n) (Nat.pow_le_pow_right (by decide) (by omega))

/-- A number that needs no more than 128 bits is its own `low_u128`. -/
theorem mod_eq_of_bits_le (h : bits n ≤ 128) : n % 2 ^ 128 = n :=
  Nat.mod_eq_of_lt (Nat.lt_of_lt_of_le (lt_two_pow_bits n) (Nat.pow_le_pow_right (by decide) h))

end Shift

/-! ## What holds of every input -/

section Contract

variable {nd : Nat × Nat} {rounding : Rounding}

/-- The rounded rational in the branch that shifts, with the `low_u128` taken away. -/
theorem roundToRationalOf_of_shift (h : 0 < max (bits nd.1) (bits nd.2) - 128) :
    roundToRationalOf nd rounding =
      (max (Word.saturatingAdd 128 (nd.1 >>> (max (bits nd.1) (bits nd.2) - 128)) (rounding.toBias 1).1)
          (if nd.1 = 0 then 0 else 1),
        max (Word.saturatingAdd 128 (nd.2 >>> (max (bits nd.1) (bits nd.2) - 128)) (rounding.toBias 1).2) 1) := by
  have h₁ : nd.1 >>> (max (bits nd.1) (bits nd.2) - 128) < 2 ^ 128 := shiftRight_lt (by omega)
  have h₂ : nd.2 >>> (max (bits nd.1) (bits nd.2) - 128) < 2 ^ 128 := shiftRight_lt (by omega)
  simp only [roundToRationalOf, if_pos h, Nat.mod_eq_of_lt h₁, Nat.mod_eq_of_lt h₂]

/-- Parts that fit 128 bits are kept as they are. -/
theorem roundToRationalOf_of_fits (h : max (bits nd.1) (bits nd.2) ≤ 128) :
    roundToRationalOf nd rounding = nd := by
  have h₀ : ¬ 0 < max (bits nd.1) (bits nd.2) - 128 := by omega
  simp only [roundToRationalOf, if_neg h₀, mod_eq_of_bits_le (le_of_max_le_left h),
    mod_eq_of_bits_le (le_of_max_le_right h)]

/-- The denominator is never zero. -/
theorem roundToRationalOf_den_pos (hd : 0 < nd.2) : 0 < (roundToRationalOf nd rounding).2 := by
  by_cases h : 0 < max (bits nd.1) (bits nd.2) - 128
  · rw [roundToRationalOf_of_shift h]
    exact Nat.lt_of_lt_of_le Nat.one_pos (le_max_right _ _)
  · rw [roundToRationalOf_of_fits (by omega)]
    exact hd

/-- A nonzero numerator stays nonzero. -/
theorem roundToRationalOf_num_pos (hn : 0 < nd.1) : 0 < (roundToRationalOf nd rounding).1 := by
  by_cases h : 0 < max (bits nd.1) (bits nd.2) - 128
  · rw [roundToRationalOf_of_shift h, if_neg (by omega)]
    exact Nat.lt_of_lt_of_le Nat.one_pos (le_max_right _ _)
  · rw [roundToRationalOf_of_fits (by omega)]
    exact hn

/-- A zero numerator stays zero, except under `Up`, whose bias goes to the numerator. -/
theorem roundToRationalOf_num_zero (h0 : nd.1 = 0) (hr : rounding ≠ .up) :
    (roundToRationalOf nd rounding).1 = 0 := by
  by_cases h : 0 < max (bits nd.1) (bits nd.2) - 128
  · rw [roundToRationalOf_of_shift h, if_pos h0, h0, Nat.zero_shiftRight]
    cases rounding <;> simp_all [Rounding.toBias, Word.saturatingAdd]
  · rw [roundToRationalOf_of_fits (by omega)]
    exact h0

/-- `Down` without the clamps: when the shifted numerator is not clamped up to one and the biased
shifted denominator does not saturate, the result is at most the input (`n' / d' ≤ n / d`). -/
theorem down_cross_le (hn : 1 ≤ nd.1 >>> (max (bits nd.1) (bits nd.2) - 128))
    (hd : nd.2 >>> (max (bits nd.1) (bits nd.2) - 128) + 1 ≤ Word.max 128) :
    (roundToRationalOf nd .down).1 * nd.2 ≤ nd.1 * (roundToRationalOf nd .down).2 := by
  by_cases h : 0 < max (bits nd.1) (bits nd.2) - 128
  · rw [roundToRationalOf_of_shift h]
    have hfit : nd.1 >>> (max (bits nd.1) (bits nd.2) - 128) < 2 ^ 128 := shiftRight_lt (by omega)
    set s := max (bits nd.1) (bits nd.2) - 128
    simp only [Nat.shiftRight_eq_div_pow] at hn hd hfit ⊢
    have hmax : Word.max 128 + 1 = 2 ^ 128 := rfl
    have hsat₁ : Word.saturatingAdd 128 (nd.1 / 2 ^ s) (Rounding.toBias .down 1).1 = nd.1 / 2 ^ s :=
      Word.saturatingAdd_of_le (by simp only [Rounding.toBias]; omega)
    have hsat₂ : Word.saturatingAdd 128 (nd.2 / 2 ^ s) (Rounding.toBias .down 1).2 = nd.2 / 2 ^ s + 1 :=
      Word.saturatingAdd_of_le (by simp only [Rounding.toBias]; omega)
    have hmin : (if nd.1 = 0 then 0 else 1) ≤ 1 := by split <;> omega
    have hnum : max (nd.1 / 2 ^ s) (if nd.1 = 0 then 0 else 1) = nd.1 / 2 ^ s :=
      max_eq_left (hmin.trans hn)
    have hden : max (nd.2 / 2 ^ s + 1) 1 = nd.2 / 2 ^ s + 1 := max_eq_left (Nat.le_add_left 1 _)
    rw [hsat₁, hsat₂, hnum, hden]
    -- the shifted numerator loses at most nothing, the biased denominator gains at least nothing
    have hN : nd.1 / 2 ^ s * 2 ^ s ≤ nd.1 := Nat.div_mul_le_self _ _
    have hD : nd.2 < 2 ^ s * (nd.2 / 2 ^ s + 1) := Nat.lt_mul_div_succ _ (Nat.two_pow_pos s)
    calc nd.1 / 2 ^ s * nd.2 ≤ nd.1 / 2 ^ s * (2 ^ s * (nd.2 / 2 ^ s + 1)) := Nat.mul_le_mul_left _ hD.le
      _ = nd.1 / 2 ^ s * 2 ^ s * (nd.2 / 2 ^ s + 1) := (Nat.mul_assoc _ _ _).symm
      _ ≤ nd.1 * (nd.2 / 2 ^ s + 1) := Nat.mul_le_mul_right _ hN
  · rw [roundToRationalOf_of_fits (by omega), Nat.mul_comm]

/-- `Up` without the clamps: when the biased shifted numerator does not saturate and the shifted
denominator is not clamped up to one, the result is at least the input. -/
theorem up_cross_ge (hn : nd.1 >>> (max (bits nd.1) (bits nd.2) - 128) + 1 ≤ Word.max 128)
    (hd : 1 ≤ nd.2 >>> (max (bits nd.1) (bits nd.2) - 128)) :
    nd.1 * (roundToRationalOf nd .up).2 ≤ (roundToRationalOf nd .up).1 * nd.2 := by
  by_cases h : 0 < max (bits nd.1) (bits nd.2) - 128
  · rw [roundToRationalOf_of_shift h]
    have hfit : nd.2 >>> (max (bits nd.1) (bits nd.2) - 128) < 2 ^ 128 := shiftRight_lt (by omega)
    set s := max (bits nd.1) (bits nd.2) - 128
    simp only [Nat.shiftRight_eq_div_pow] at hn hd hfit ⊢
    have hmax : Word.max 128 + 1 = 2 ^ 128 := rfl
    have hsat₁ : Word.saturatingAdd 128 (nd.1 / 2 ^ s) (Rounding.toBias .up 1).1 = nd.1 / 2 ^ s + 1 :=
      Word.saturatingAdd_of_le (by simp only [Rounding.toBias]; omega)
    have hsat₂ : Word.saturatingAdd 128 (nd.2 / 2 ^ s) (Rounding.toBias .up 1).2 = nd.2 / 2 ^ s :=
      Word.saturatingAdd_of_le (by simp only [Rounding.toBias]; omega)
    have hmin : (if nd.1 = 0 then 0 else 1) ≤ 1 := by split <;> omega
    have hnum : max (nd.1 / 2 ^ s + 1) (if nd.1 = 0 then 0 else 1) = nd.1 / 2 ^ s + 1 :=
      max_eq_left (hmin.trans (Nat.le_add_left 1 _))
    have hden : max (nd.2 / 2 ^ s) 1 = nd.2 / 2 ^ s := max_eq_left hd
    rw [hsat₁, hsat₂, hnum, hden]
    have hN : nd.1 < 2 ^ s * (nd.1 / 2 ^ s + 1) := Nat.lt_mul_div_succ _ (Nat.two_pow_pos s)
    have hD : nd.2 / 2 ^ s * 2 ^ s ≤ nd.2 := Nat.div_mul_le_self _ _
    calc nd.1 * (nd.2 / 2 ^ s) ≤ 2 ^ s * (nd.1 / 2 ^ s + 1) * (nd.2 / 2 ^ s) := Nat.mul_le_mul_right _ hN.le
      _ = (nd.1 / 2 ^ s + 1) * (nd.2 / 2 ^ s * 2 ^ s) := by
        rw [Nat.mul_comm (2 ^ s) (nd.1 / 2 ^ s + 1), Nat.mul_assoc, Nat.mul_comm (2 ^ s) (nd.2 / 2 ^ s)]
      _ ≤ (nd.1 / 2 ^ s + 1) * nd.2 := Nat.mul_le_mul_left _ hD
  · rw [roundToRationalOf_of_fits (by omega), Nat.mul_comm]

/-- What the common body of `round_to_rational` and `round_u512_to_rational` keeps of the
rounding contract, for every input: a positive denominator stays positive, a positive numerator
stays positive, a zero numerator stays zero except under `Up`, and where no clamp and no
saturation intervene, `Down` never rounds up and `Up` never rounds down. -/
theorem round_to_rational_keeps_contract :
    (∀ nd rounding, 0 < nd.2 → 0 < (roundToRationalOf nd rounding).2) ∧
    (∀ nd rounding, 0 < nd.1 → 0 < (roundToRationalOf nd rounding).1) ∧
    (∀ nd rounding, nd.1 = 0 → rounding ≠ .up → (roundToRationalOf nd rounding).1 = 0) ∧
    (∀ nd : Nat × Nat, 1 ≤ nd.1 >>> (max (bits nd.1) (bits nd.2) - 128) →
      nd.2 >>> (max (bits nd.1) (bits nd.2) - 128) + 1 ≤ Word.max 128 →
      (roundToRationalOf nd .down).1 * nd.2 ≤ nd.1 * (roundToRationalOf nd .down).2) ∧
    (∀ nd : Nat × Nat, nd.1 >>> (max (bits nd.1) (bits nd.2) - 128) + 1 ≤ Word.max 128 →
      1 ≤ nd.2 >>> (max (bits nd.1) (bits nd.2) - 128) →
      nd.1 * (roundToRationalOf nd .up).2 ≤ (roundToRationalOf nd .up).1 * nd.2) :=
  ⟨fun _ _ hd => roundToRationalOf_den_pos hd, fun _ _ hn => roundToRationalOf_num_pos hn,
    fun _ _ h0 hr => roundToRationalOf_num_zero h0 hr, fun _ hn hd => down_cross_le hn hd,
    fun _ hn hd => up_cross_ge hn hd⟩

end Contract

/-! ## Where the clamps break the contract -/

/-- `(1, 2^129 - 1) / 7`: the denominator of `1 / 7 + 1 / r` is `2^129 - 1`. -/
def sevenths : Nat := (2 ^ 129 - 1) / 7

/-- Four inputs on which `round_to_rational` lands on the wrong side. `Down` of `1 / 2^129`
clamps the shifted numerator up to one and returns `1 / (2^127 + 1)`, above the input. `Up` of
`(2^129 - 1) / 2` saturates the biased numerator and returns `u128::MAX`, below the input. `Up` of
zero returns a nonzero numerator. And `Ratio::saturating_add` of `1/7` and `1/sevenths`, whose
exact sum has the denominator `2^129 - 1`, loses the `Down` bias of the denominator to
saturation and returns more than the sum. -/
theorem round_to_rational_breaks_rounding :
    1 * (roundToRational (1, 2 ^ 129) .down).2 < (roundToRational (1, 2 ^ 129) .down).1 * 2 ^ 129 ∧
      (roundToRational (2 ^ 129 - 1, 2) .up).1 * 2 < (2 ^ 129 - 1) * (roundToRational (2 ^ 129 - 1, 2) .up).2 ∧
      (roundToRational (0, 2 ^ 129) .up).1 ≠ 0 ∧
      (sevenths + 7) * (saturatingAdd ⟨1, 7⟩ ⟨1, sevenths⟩).d <
        (saturatingAdd ⟨1, 7⟩ ⟨1, sevenths⟩).n * (7 * sevenths) := by
  decide

end Hydration.Rational
