import Hydration.Frame.Arith
import Hydration.Frame.Dispatch

/-!
# The multi-currency the pallets call

`T::Currency` of the pallets is `orml_currencies` over `orml_tokens` and
`pallet_balances`. What the pallets rely on is modelled over the exact ledger
`Frame.Balances`: a transfer of zero or to oneself succeeds and changes nothing,
a deposit fails where the balance would leave `u128`, a withdrawal or transfer
fails when the balance is short. Existential deposits, locks and reserves are not
modelled.
-/

namespace Hydration.Tokens

open Frame

variable {A Acc : Type} [DecidableEq A] [DecidableEq Acc]

/-- `MultiCurrency::deposit`. -/
def deposit (b : Balances A Acc) (a : A) (x : Acc) (amt : Nat) : Option (Balances A Acc) :=
  if amt = 0 then some b
  else if b.free a x + amt ≤ Word.max 128 then some (b.deposit a x amt) else none

/-- `MultiCurrency::withdraw`. -/
def withdraw (b : Balances A Acc) (a : A) (x : Acc) (amt : Nat) : Option (Balances A Acc) :=
  if amt = 0 then some b else b.withdraw a x amt

/-- `MultiCurrency::transfer`. -/
def transfer (b : Balances A Acc) (a : A) (src dst : Acc) (amt : Nat) : Option (Balances A Acc) :=
  if amt = 0 ∨ src = dst then some b
  else (b.withdraw a src amt).bind fun b₁ => deposit b₁ a dst amt

/-- A deposit adds `amt` to one balance. -/
theorem free_deposit {b b' : Balances A Acc} {a : A} {x : Acc} {amt : Nat}
    (h : deposit b a x amt = some b') (c : A) (y : Acc) :
    b'.free c y = b.free c y + if c = a ∧ y = x then amt else 0 := by
  unfold deposit at h
  by_cases h0 : amt = 0
  · simp only [h0, if_true, Option.some.injEq] at h
    subst h
    simp [h0]
  · simp only [h0, if_false] at h
    split at h
    · cases h
      exact Balances.free_deposit b a x amt c y
    · cases h

/-- A withdrawal takes `amt` from one balance. -/
theorem free_withdraw {b b' : Balances A Acc} {a : A} {x : Acc} {amt : Nat}
    (h : withdraw b a x amt = some b') (c : A) (y : Acc) :
    b'.free c y + (if c = a ∧ y = x then amt else 0) = b.free c y := by
  unfold withdraw at h
  by_cases h0 : amt = 0
  · simp only [h0, if_true, Option.some.injEq] at h
    subst h
    simp [h0]
  · simp only [h0, if_false] at h
    exact Balances.free_withdraw h c y

/-- A transfer moves `amt` of `a` from `src` to `dst`, whatever the two accounts are. -/
theorem free_transfer {b b' : Balances A Acc} {a : A} {src dst : Acc} {amt : Nat}
    (h : transfer b a src dst amt = some b') (c : A) (y : Acc) :
    b'.free c y + (if c = a ∧ y = src then amt else 0) =
      b.free c y + (if c = a ∧ y = dst then amt else 0) := by
  unfold transfer at h
  by_cases hs : amt = 0 ∨ src = dst
  · simp only [hs, if_true, Option.some.injEq] at h
    subst h
    rcases hs with h0 | rfl
    · simp [h0]
    · rfl
  · simp only [hs, if_false, Option.bind_eq_some_iff] at h
    obtain ⟨b₁, hw, hd⟩ := h
    have h1 := Balances.free_withdraw hw c y
    have h2 := free_deposit hd c y
    omega

/-- Only the moved asset changes. -/
theorem free_transfer_of_ne {b b' : Balances A Acc} {a : A} {src dst : Acc} {amt : Nat}
    (h : transfer b a src dst amt = some b') {c : A} (hc : c ≠ a) (y : Acc) :
    b'.free c y = b.free c y := by
  have := free_transfer h c y
  simpa [hc] using this

/-- The sender of a transfer to another account loses the amount. -/
theorem free_transfer_src {b b' : Balances A Acc} {a : A} {src dst : Acc} {amt : Nat}
    (h : transfer b a src dst amt = some b') (hne : src ≠ dst) : b'.free a src + amt = b.free a src := by
  simpa [hne] using free_transfer h a src

/-- The receiver of a transfer from another account gains the amount. -/
theorem free_transfer_dst {b b' : Balances A Acc} {a : A} {src dst : Acc} {amt : Nat}
    (h : transfer b a src dst amt = some b') (hne : src ≠ dst) : b'.free a dst = b.free a dst + amt := by
  simpa [Ne.symm hne] using free_transfer h a dst

/-- An account other than the sender loses nothing. -/
theorem free_le_free_transfer_of_ne {b b' : Balances A Acc} {a : A} {src dst : Acc} {amt : Nat}
    (h : transfer b a src dst amt = some b') {y : Acc} (hy : y ≠ src) (c : A) :
    b.free c y ≤ b'.free c y := by
  have := free_transfer h c y
  simp only [hy, and_false, if_false, Nat.add_zero] at this
  omega

/-- An account that neither sends nor receives keeps its balances. -/
theorem free_transfer_of_ne_account {b b' : Balances A Acc} {a : A} {src dst : Acc} {amt : Nat}
    (h : transfer b a src dst amt = some b') {y : Acc} (hs : y ≠ src) (hd : y ≠ dst) (c : A) :
    b'.free c y = b.free c y := by
  simpa [hs, hd] using free_transfer h c y

/-- A transfer takes at most `amt` from any account. -/
theorem free_le_free_transfer_add {b b' : Balances A Acc} {a : A} {src dst : Acc} {amt : Nat}
    (h : transfer b a src dst amt = some b') (c : A) (y : Acc) : b.free c y ≤ b'.free c y + amt := by
  have := free_transfer h c y
  split at this <;> split at this <;> omega

/-- The receiver of a transfer loses nothing. -/
theorem free_dst_le_free_transfer {b b' : Balances A Acc} {a : A} {src dst : Acc} {amt : Nat}
    (h : transfer b a src dst amt = some b') : b.free a dst ≤ b'.free a dst := by
  have := free_transfer h a dst
  simp only [and_true, if_true] at this
  split at this <;> omega

/-- The sender of a transfer gains nothing. -/
theorem free_transfer_src_le {b b' : Balances A Acc} {a : A} {src dst : Acc} {amt : Nat}
    (h : transfer b a src dst amt = some b') : b'.free a src ≤ b.free a src := by
  have := free_transfer h a src
  simp only [and_true, if_true] at this
  split at this <;> omega

/-- A deposit that moves something keeps the balance a `u128`. -/
theorem deposit_le {b b' : Balances A Acc} {a : A} {x : Acc} {amt : Nat}
    (h : deposit b a x amt = some b') (hpos : 0 < amt) : b.free a x + amt ≤ Word.max 128 := by
  unfold deposit at h
  simp only [Nat.pos_iff_ne_zero.mp hpos, if_false] at h
  split at h
  · assumption
  · cases h

/-- So does a transfer into another account. -/
theorem transfer_le {b b' : Balances A Acc} {a : A} {src dst : Acc} {amt : Nat}
    (h : transfer b a src dst amt = some b') (hpos : 0 < amt) (hne : src ≠ dst) :
    b.free a dst + amt ≤ Word.max 128 := by
  unfold transfer at h
  have hmove : ¬(amt = 0 ∨ src = dst) := by
    rintro (h0 | heq)
    · omega
    · exact hne heq
  simp only [hmove, if_false, Option.bind_eq_some_iff] at h
  obtain ⟨b₁, hw, hd⟩ := h
  have h₁ := deposit_le hd hpos
  -- the withdrawal from `src` left `dst` alone
  have h₂ := Balances.free_withdraw hw a dst
  simp only [Ne.symm hne, and_false, if_false, Nat.add_zero] at h₂
  omega

/-- A transfer keeps every balance of the asset a `u128` that was one. -/
theorem free_transfer_le_max {b b' : Balances A Acc} {a : A} {src dst : Acc} {amt : Nat}
    (h : transfer b a src dst amt = some b') {y : Acc} (hy : b.free a y ≤ Word.max 128) :
    b'.free a y ≤ Word.max 128 := by
  have heq := free_transfer h a y
  by_cases hmove : 0 < amt ∧ src ≠ dst ∧ y = dst
  · obtain ⟨hpos, hne, rfl⟩ := hmove
    have hle := transfer_le h hpos hne
    simp only [and_true, if_true, Ne.symm hne, and_false, if_false] at heq
    omega
  · -- otherwise `y` gains nothing
    have hgain : (if a = a ∧ y = dst then amt else 0) ≤ (if a = a ∧ y = src then amt else 0) := by
      split
      · rename_i hd
        rcases Nat.eq_zero_or_pos amt with h0 | hpos
        · simp [h0]
        · have hsd : src = dst := by
            by_contra hne
            exact hmove ⟨hpos, hne, hd.2⟩
          simp [hd.2, hsd]
      · exact Nat.zero_le _
    omega

end Hydration.Tokens
