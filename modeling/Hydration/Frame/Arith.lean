import Mathlib

/-!
# Machine words and fixed-point numbers

Rust's unsigned integers of width `w` are modelled by naturals at most `2^w - 1`.
The `checked*` operations fail exactly where Rust's `checked_*` do, `saturating*`
clamp to the bound, and `Word.tryFrom` is the narrowing `TryFrom` conversion.
Subtraction of naturals already saturates at zero, so `saturating_sub` is `-`.

`PerThing acc` is a fraction `parts / acc` that cannot exceed one (Permill,
Perquintill), and `Fixed w div` an unsigned fixed-point number with `w`-bit inner
value and `div` units per one (FixedU128). Every multiplication rounds down, as
`Rounding::Down` does in `multiply_by_rational_with_rounding`.
-/

namespace Word

/-- The largest value of a `w`-bit unsigned word. -/
def max (w : Nat) : Nat := 2 ^ w - 1

def checkedAdd (w a b : Nat) : Option Nat :=
  if a + b ≤ max w then some (a + b) else none

def checkedSub (a b : Nat) : Option Nat :=
  if b ≤ a then some (a - b) else none

def checkedMul (w a b : Nat) : Option Nat :=
  if a * b ≤ max w then some (a * b) else none

def checkedDiv (a b : Nat) : Option Nat :=
  if b = 0 then none else some (a / b)

def saturatingAdd (w a b : Nat) : Nat := min (a + b) (max w)

def saturatingMul (w a b : Nat) : Nat := min (a * b) (max w)

/-- Narrowing conversion: `TryFrom` into a `w`-bit word. -/
def tryFrom (w a : Nat) : Option Nat :=
  if a ≤ max w then some a else none

@[simp] theorem checkedAdd_eq_some {w a b c : Nat} :
    checkedAdd w a b = some c ↔ a + b ≤ max w ∧ a + b = c := by
  unfold checkedAdd
  by_cases h : a + b ≤ max w <;> simp [h]

@[simp] theorem checkedSub_eq_some {a b c : Nat} :
    checkedSub a b = some c ↔ b ≤ a ∧ a - b = c := by
  unfold checkedSub
  by_cases h : b ≤ a <;> simp [h]

@[simp] theorem checkedMul_eq_some {w a b c : Nat} :
    checkedMul w a b = some c ↔ a * b ≤ max w ∧ a * b = c := by
  unfold checkedMul
  by_cases h : a * b ≤ max w <;> simp [h]

@[simp] theorem checkedDiv_eq_some {a b c : Nat} :
    checkedDiv a b = some c ↔ b ≠ 0 ∧ a / b = c := by
  unfold checkedDiv
  split <;> simp_all

@[simp] theorem tryFrom_eq_some {w a c : Nat} :
    tryFrom w a = some c ↔ a ≤ max w ∧ a = c := by
  unfold tryFrom
  by_cases h : a ≤ max w <;> simp [h]

theorem checkedSub_of_le {a b : Nat} (h : b ≤ a) : checkedSub a b = some (a - b) := by
  simp [checkedSub, h]

theorem checkedAdd_of_le {w a b : Nat} (h : a + b ≤ max w) :
    checkedAdd w a b = some (a + b) := by
  simp [checkedAdd, h]

theorem saturatingAdd_of_le {w a b : Nat} (h : a + b ≤ max w) :
    saturatingAdd w a b = a + b := by
  simp [saturatingAdd, h]

theorem saturatingAdd_le_max (w a b : Nat) : saturatingAdd w a b ≤ max w :=
  min_le_right _ _

/-- Rust's `saturating_pow`. -/
def saturatingPow (w b e : Nat) : Nat := min (b ^ e) (max w)

/-- Rust's `abs_diff`. -/
def absDiff (a b : Nat) : Nat := if b ≤ a then a - b else b - a

end Word

namespace FixedPoint

/-- A fraction `parts / acc` of at most one: `Permill` is `PerThing 1000000`. -/
structure PerThing (acc : Nat) where
  parts : Nat
  le_acc : parts ≤ acc
  deriving DecidableEq

namespace PerThing

variable {acc : Nat}

def zero : PerThing acc := ⟨0, Nat.zero_le _⟩

def one : PerThing acc := ⟨acc, le_rfl⟩

/-- `from_percent`, clamped at one hundred percent. -/
def fromPercent (p : Nat) : PerThing acc := ⟨min (p * acc / 100) acc, min_le_right _ _⟩

/-- `mul_floor`: `x * parts / acc`, rounded down. -/
def mulFloor (p : PerThing acc) (x : Nat) : Nat := x * p.parts / acc

/-- `from_rational`, which rounds down; where `from_rational_with_rounding` fails (a zero
denominator or a fraction above one) it is `one`. -/
def fromRational (p q : Nat) : PerThing acc :=
  if h : 0 < q ∧ p ≤ q then ⟨p * acc / q, Nat.div_le_of_le_mul (by
    calc p * acc ≤ q * acc := Nat.mul_le_mul_right acc h.2)⟩
  else one

theorem fromRational_parts {p q : Nat} (hq : 0 < q) (hpq : p ≤ q) :
    (fromRational p q : PerThing acc).parts = p * acc / q := by
  simp [fromRational, hq, hpq]

/-- A fraction taken of `x` rounds down, so it is at most the exact share `x * p / q`. -/
theorem mulFloor_fromRational_mul_le {p q : Nat} (hacc : 0 < acc) (hq : 0 < q) (hpq : p ≤ q)
    (x : Nat) : (fromRational p q : PerThing acc).mulFloor x * q ≤ x * p := by
  rw [mulFloor, fromRational_parts hq hpq]
  have hP : p * acc / q * q ≤ p * acc := Nat.div_mul_le_self _ _
  have hD : x * (p * acc / q) / acc * acc ≤ x * (p * acc / q) := Nat.div_mul_le_self _ _
  apply Nat.le_of_mul_le_mul_right _ hacc
  calc x * (p * acc / q) / acc * q * acc = x * (p * acc / q) / acc * acc * q := Nat.mul_right_comm _ _ _
    _ ≤ x * (p * acc / q) * q := Nat.mul_le_mul_right q hD
    _ = x * (p * acc / q * q) := Nat.mul_assoc _ _ _
    _ ≤ x * (p * acc) := Nat.mul_le_mul_left x hP
    _ = x * p * acc := (Nat.mul_assoc _ _ _).symm

/-- `one - p`, which never underflows. -/
def complement (p : PerThing acc) : PerThing acc := ⟨acc - p.parts, Nat.sub_le _ _⟩

def checkedSub (p q : PerThing acc) : Option (PerThing acc) :=
  if q.parts ≤ p.parts then some ⟨p.parts - q.parts, le_trans (Nat.sub_le _ _) p.le_acc⟩ else none

/-- `one - p` is always defined and is the complement. -/
@[simp] theorem one_checkedSub (p : PerThing acc) : (one : PerThing acc).checkedSub p = some p.complement := by
  simp [checkedSub, one, complement, p.le_acc]

theorem mulFloor_le (p : PerThing acc) (x : Nat) : p.mulFloor x ≤ x := by
  unfold mulFloor
  rcases Nat.eq_zero_or_pos acc with h | h
  · simp [h]
  · exact Nat.div_le_of_le_mul (by
      calc x * p.parts ≤ x * acc := Nat.mul_le_mul_left _ p.le_acc
        _ = acc * x := Nat.mul_comm _ _)

/-- `mul_ceil` (`overflow_prune_mul` rounding up): whole multiples of `acc` scale exactly, and the
share of the remainder is rounded up. -/
def mulCeil (p : PerThing acc) (x : Nat) : Nat :=
  let rem := x % acc * p.parts
  x / acc * p.parts + (rem / acc + if rem % acc = 0 then 0 else 1)

@[simp] theorem zero_mulFloor (x : Nat) : (zero : PerThing acc).mulFloor x = 0 := by
  simp [zero, mulFloor]

instance : LE (PerThing acc) := ⟨fun p q => p.parts ≤ q.parts⟩

instance (p q : PerThing acc) : Decidable (p ≤ q) :=
  inferInstanceAs (Decidable (p.parts ≤ q.parts))

end PerThing

abbrev Permill := PerThing 1000000

abbrev Perbill := PerThing 1000000000

abbrev Perquintill := PerThing 1000000000000000000

/-- An unsigned fixed-point number: `inner / div`, with a `w`-bit inner value. -/
structure Fixed (w div : Nat) where
  inner : Nat
  le_max : inner ≤ Word.max w
  deriving DecidableEq

namespace Fixed

variable {w div : Nat}

instance : LE (Fixed w div) := ⟨fun a b => a.inner ≤ b.inner⟩

instance : LT (Fixed w div) := ⟨fun a b => a.inner < b.inner⟩

instance (a b : Fixed w div) : Decidable (a ≤ b) :=
  inferInstanceAs (Decidable (a.inner ≤ b.inner))

instance (a b : Fixed w div) : Decidable (a < b) :=
  inferInstanceAs (Decidable (a.inner < b.inner))

def zero : Fixed w div := ⟨0, Nat.zero_le _⟩

/-- `one()`: the inner value `div`, clamped to the word (never clamped for `FixedU128`). -/
def one : Fixed w div := ⟨min div (Word.max w), min_le_right _ _⟩

def isZero (a : Fixed w div) : Bool := a.inner = 0

/-- `from_inner`, defined when the value fits the word. -/
def ofInner? (n : Nat) : Option (Fixed w div) :=
  if h : n ≤ Word.max w then some ⟨n, h⟩ else none

/-- `saturating_from_inner` style clamp. -/
def ofInnerSat (n : Nat) : Fixed w div := ⟨min n (Word.max w), min_le_right _ _⟩

def checkedAdd (a b : Fixed w div) : Option (Fixed w div) := ofInner? (a.inner + b.inner)

def checkedSub (a b : Fixed w div) : Option (Fixed w div) :=
  if b.inner ≤ a.inner then some ⟨a.inner - b.inner, le_trans (Nat.sub_le _ _) a.le_max⟩
  else none

def saturatingSub (a b : Fixed w div) : Fixed w div :=
  ⟨a.inner - b.inner, le_trans (Nat.sub_le _ _) a.le_max⟩

/-- `checked_mul_int`: `inner * n / div` rounded down, if it fits the word. -/
def checkedMulInt (a : Fixed w div) (n : Nat) : Option Nat :=
  if div = 0 then none else Word.tryFrom w (a.inner * n / div)

/-- `saturating_mul_int`: `inner * n / div` rounded down, clamped to the word. -/
def saturatingMulInt (a : Fixed w div) (n : Nat) : Nat := min (a.inner * n / div) (Word.max w)

/-- `checked_from_rational(n, d)`: `n * div / d` rounded down. -/
def checkedFromRational (n d : Nat) : Option (Fixed w div) :=
  if d = 0 then none else ofInner? (n * div / d)

/-- `checked_mul` of two fixed-point values, rounded down. -/
def checkedMul (a b : Fixed w div) : Option (Fixed w div) :=
  if div = 0 then none else ofInner? (a.inner * b.inner / div)

/-- `checked_div` of two fixed-point values: `a * div / b` rounded down. -/
def checkedDiv (a b : Fixed w div) : Option (Fixed w div) :=
  if b.inner = 0 then none else ofInner? (a.inner * div / b.inner)

/-- `clamp(lo, hi)` as Rust's `Ord::clamp`. -/
def clamp (a lo hi : Fixed w div) : Fixed w div :=
  if a.inner < lo.inner then lo else if hi.inner < a.inner then hi else a

/-- A `PerThing` as a fixed-point number (`From<Permill> for FixedU128`), rounded down. -/
def ofPerThing {acc : Nat} (p : PerThing acc) : Fixed w div :=
  ofInnerSat (p.parts * div / acc)

@[simp] theorem ofInner?_eq_some {n : Nat} {a : Fixed w div} :
    ofInner? n = some a ↔ a.inner = n := by
  unfold ofInner?
  split
  · constructor
    · rintro ⟨⟩; rfl
    · intro h; cases a; simp_all
  · constructor
    · simp
    · intro h; have := a.le_max; omega

theorem checkedMulInt_eq_some {a : Fixed w div} {n c : Nat} :
    a.checkedMulInt n = some c ↔ div ≠ 0 ∧ a.inner * n / div ≤ Word.max w ∧ a.inner * n / div = c := by
  unfold checkedMulInt
  split <;> simp_all

theorem checkedMulInt_mul_le {a : Fixed w div} {n c : Nat} (h : a.checkedMulInt n = some c) :
    c * div ≤ a.inner * n := by
  obtain ⟨-, -, rfl⟩ := checkedMulInt_eq_some.mp h
  exact Nat.div_mul_le_self _ _

/-- `checked_mul_int` loses less than one unit to its floor. -/
theorem lt_checkedMulInt_succ_mul {a : Fixed w div} {n c : Nat} (h : a.checkedMulInt n = some c) :
    a.inner * n < (c + 1) * div := by
  obtain ⟨hdiv, -, rfl⟩ := checkedMulInt_eq_some.mp h
  rw [Nat.mul_comm (_ + 1)]
  exact Nat.lt_mul_div_succ _ (Nat.pos_of_ne_zero hdiv)

/-- Scaling by at most one never increases. -/
theorem checkedMulInt_le_of_le_one {a : Fixed w div} {n c : Nat} (ha : a.inner ≤ div)
    (h : a.checkedMulInt n = some c) : c ≤ n := by
  have hdiv : 0 < div := Nat.pos_of_ne_zero (checkedMulInt_eq_some.mp h).1
  have hc := checkedMulInt_mul_le h
  apply Nat.le_of_mul_le_mul_right _ hdiv
  calc c * div ≤ a.inner * n := hc
    _ ≤ div * n := Nat.mul_le_mul_right _ ha
    _ = n * div := Nat.mul_comm _ _

theorem checkedFromRational_eq_some {n d : Nat} {a : Fixed w div} :
    checkedFromRational n d = some a ↔ d ≠ 0 ∧ a.inner = n * div / d := by
  unfold checkedFromRational
  split <;> simp_all

theorem checkedDiv_eq_some {a b c : Fixed w div} :
    a.checkedDiv b = some c ↔ b.inner ≠ 0 ∧ c.inner = a.inner * div / b.inner := by
  unfold checkedDiv
  split <;> simp_all

/-- `saturating_from_integer` (the `From<u128>` conversion): `n` units, clamped to the word. -/
def saturatingFromInteger (n : Nat) : Fixed w div := ofInnerSat (n * div)

end Fixed

/-- `sp_arithmetic::Rounding`. -/
inductive Rounding
  | up
  | down
  | nearestPrefUp
  | nearestPrefDown
  deriving DecidableEq

/-- `multiply_by_rational_with_rounding(a, b, c, r)` of two 128-bit words: the 256-bit
product `a * b` divided by `c`, rounded as `r` says, when `c ≠ 0` and the result fits
128 bits. -/
def multiplyByRationalWithRounding (a b c : Nat) (r : Rounding) : Option Nat :=
  if c = 0 then none
  else
    let q := a * b / c
    let rem := a * b % c
    let bump : Bool := match r with
      | .up => 0 < rem
      | .nearestPrefUp => c / 2 + c % 2 ≤ rem
      | .nearestPrefDown => c / 2 < rem
      | .down => false
    if q ≤ Word.max 128 then (if bump then Word.checkedAdd 128 q 1 else some q) else none

/-- Rounded down, the quotient times the divisor is at most the product and one more
quotient exceeds it. -/
theorem multiplyByRationalWithRounding_down {a b c q : Nat}
    (h : multiplyByRationalWithRounding a b c .down = some q) : q * c ≤ a * b ∧ a * b < q * c + c := by
  unfold multiplyByRationalWithRounding at h
  have hc : c ≠ 0 := by
    intro hc
    simp [hc] at h
  have hdm : a * b / c * c + a * b % c = a * b := Nat.div_add_mod' _ _
  have hlt : a * b % c < c := Nat.mod_lt _ (Nat.pos_of_ne_zero hc)
  simp only [hc, if_false, Bool.false_eq_true] at h
  split at h
  · obtain rfl := Option.some.inj h
    omega
  · cases h

/-- Rounded up, the quotient times the divisor is at least the product and less than the product
plus the divisor. -/
theorem multiplyByRationalWithRounding_up {a b c q : Nat}
    (h : multiplyByRationalWithRounding a b c .up = some q) : a * b ≤ q * c ∧ q * c < a * b + c := by
  unfold multiplyByRationalWithRounding at h
  have hc : c ≠ 0 := by
    intro hc
    simp [hc] at h
  have hdm : a * b / c * c + a * b % c = a * b := Nat.div_add_mod' _ _
  have hlt : a * b % c < c := Nat.mod_lt _ (Nat.pos_of_ne_zero hc)
  simp only [hc, if_false] at h
  split at h
  · split at h
    · -- a remainder: one more than the quotient
      next hrem =>
      obtain ⟨-, rfl⟩ := Word.checkedAdd_eq_some.mp h
      simp only [decide_eq_true_eq] at hrem
      rw [Nat.add_mul, Nat.one_mul]
      omega
    · next hrem =>
      obtain rfl := Option.some.inj h
      simp only [decide_eq_true_eq] at hrem
      omega
  · cases h

/-- `FixedU128`: eighteen decimals over a 128-bit word. -/
abbrev FixedU128 := Fixed 128 1000000000000000000

end FixedPoint
