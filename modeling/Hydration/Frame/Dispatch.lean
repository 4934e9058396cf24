import Mathlib

/-!
# Transactional dispatch, reachable states and a currency ledger

A dispatchable call is a function `S → Except E S`. A call that returns an error
is rolled back, so only successful calls move the state: `Reachable init step`
is the set of states reached from an initial state by any sequence of
successful calls, and `Reachable.induction` is the one rule every pallet
invariant is proved with (holds initially, kept by every successful call).
Within a run, `run_induction` keeps a property along calls of one kind, and
`run_accepted` tracks what the successful calls of a run contributed
(`acceptedSum`).

`Balances` is an exact multi-asset ledger of free balances, the behaviour the
pallets rely on from `orml_tokens` and `pallet_balances` (transfers move exactly
the requested amount or fail); existential deposits are not modelled.
-/

namespace Frame

/-! ## Fallible computations -/

/-- `ensure!(cond, err)`. -/
def ensure {E : Type} (c : Prop) [Decidable c] (e : E) : Except E Unit :=
  if c then .ok () else .error e

/-- `option.ok_or(err)?`. -/
def okOr {E α : Type} (o : Option α) (e : E) : Except E α :=
  match o with
  | some a => .ok a
  | none => .error e

variable {E α β : Type}

@[simp] theorem ensure_eq_ok {c : Prop} [Decidable c] {e : E} {u : Unit} :
    ensure c e = .ok u ↔ c := by
  unfold ensure
  split <;> simp_all

@[simp] theorem okOr_eq_ok {o : Option α} {e : E} {a : α} : okOr o e = .ok a ↔ o = some a := by
  unfold okOr
  cases o <;> simp

/-- A `?` chain succeeds only if its first step does. -/
theorem bind_eq_ok {x : Except E α} {f : α → Except E β} {r : β} :
    (x >>= f) = .ok r ↔ ∃ a, x = .ok a ∧ f a = .ok r := by
  cases x <;> simp [bind, Except.bind]

theorem map_eq_ok {x : Except E α} {f : α → β} {r : β} :
    (f <$> x) = .ok r ↔ ∃ a, x = .ok a ∧ f a = r := by
  cases x <;> simp [Functor.map, Except.map]

/-- `map_err` keeps a success as it is. -/
theorem mapError_eq_ok {E' : Type} {x : Except E α} {f : E → E'} {r : α} :
    x.mapError f = .ok r ↔ x = .ok r := by
  cases x <;> simp [Except.mapError]

/-- The error of a failed computation. -/
def errorOf : Except E α → Option E
  | .error e => some e
  | .ok _ => none

theorem errorOf_eq_some {x : Except E α} {e : E} : errorOf x = some e ↔ x = .error e := by
  cases x <;> simp [errorOf]

/-- `x` does not fail with the error `e`: the rules below follow a `do` block bind by bind,
so that a proof that one error never happens follows the code it is about. -/
def Avoids (e : E) (x : Except E α) : Prop := x ≠ .error e

theorem avoids_pure {e : E} (a : α) : Avoids e (pure a : Except E α) := by
  simp [Avoids, pure, Except.pure]

theorem avoids_bind {e : E} {x : Except E α} {f : α → Except E β} (hx : Avoids e x)
    (hf : ∀ a, x = .ok a → Avoids e (f a)) : Avoids e (x >>= f) := by
  cases h : x with
  | error e' =>
    rw [h] at hx
    simpa [Avoids, bind, Except.bind] using hx
  | ok a => simpa [bind, Except.bind] using hf a h

/-- `ok_or` with another error, or of a value that is there. -/
theorem avoids_okOr {e e' : E} {o : Option α} (h : e' ≠ e ∨ o.isSome) : Avoids e (okOr o e') := by
  unfold Avoids okOr
  cases o with
  | some a => simp
  | none =>
    simp only [Option.isSome_none, Bool.false_eq_true, or_false] at h
    simpa using h

theorem avoids_ensure {e e' : E} {c : Prop} [Decidable c] (h : e' ≠ e) : Avoids e (ensure c e') := by
  unfold Avoids ensure
  split <;> simp [h]

/-- Every error `x` can fail with satisfies `p`: the rules below follow a `do` block as those of
`Avoids` do, for a whole class of errors at once. -/
def ErrorsIn (p : E → Prop) (x : Except E α) : Prop := ∀ e, x = .error e → p e

theorem errorsIn_pure {p : E → Prop} (a : α) : ErrorsIn p (pure a : Except E α) := by
  intro e h
  cases h

theorem errorsIn_bind {p : E → Prop} {x : Except E α} {f : α → Except E β} (hx : ErrorsIn p x)
    (hf : ∀ a, x = .ok a → ErrorsIn p (f a)) : ErrorsIn p (x >>= f) := by
  intro e h
  cases hx' : x with
  | error e' =>
    rw [hx'] at h
    have he : e' = e := by simpa [bind, Except.bind] using h
    exact he ▸ hx e' hx'
  | ok a =>
    rw [hx'] at h
    exact hf a hx' e h

theorem errorsIn_okOr {p : E → Prop} {o : Option α} {e' : E} (h : p e') : ErrorsIn p (okOr o e') := by
  intro e he
  unfold okOr at he
  split at he
  · cases he
  · cases he
    exact h

/-- `ok_or` of a value that is there does not fail. -/
theorem errorsIn_okOr_some {p : E → Prop} {a : α} {e' : E} : ErrorsIn p (okOr (some a) e') := by
  intro e he
  cases he

theorem errorsIn_ensure {p : E → Prop} {c : Prop} [Decidable c] {e' : E} (h : p e') :
    ErrorsIn p (ensure c e') := by
  intro e he
  unfold ensure at he
  split at he
  · cases he
  · cases he
    exact h

/-- Errors passed on from a call with `map_err` (or `?` into a wider error type) are all in the
image of the conversion. -/
theorem errorsIn_mapError {E' : Type} {p : E' → Prop} {x : Except E α} {f : E → E'}
    (h : ∀ e, p (f e)) : ErrorsIn p (x.mapError f) := by
  intro e he
  cases x with
  | error e' =>
    have he' : f e' = e := by simpa [Except.mapError] using he
    exact he' ▸ h e'
  | ok a => simp [Except.mapError] at he

/-! ## Reachable states -/

variable {S C : Type}

/-- States reached from an `init` state by successful calls of `step`. -/
inductive Reachable (init : S → Prop) (step : C → S → Except E S) : S → Prop
  | init {s : S} : init s → Reachable init step s
  | step {s s' : S} (c : C) : Reachable init step s → step c s = .ok s' → Reachable init step s'

/-- An invariant that holds initially and is kept by every successful call holds
in every reachable state. -/
theorem Reachable.induction {init : S → Prop} {step : C → S → Except E S} {inv : S → Prop}
    (h0 : ∀ s, init s → inv s) (hstep : ∀ c s s', inv s → step c s = .ok s' → inv s')
    {s : S} (hs : Reachable init step s) : inv s := by
  induction hs with
  | init hi => exact h0 _ hi
  | step c _ hc ih => exact hstep c _ _ ih hc

/-- Apply one call; an error rolls the state back. -/
def applyCall (step : C → S → Except E S) (c : C) (s : S) : S :=
  match step c s with
  | .ok s' => s'
  | .error _ => s

/-- Apply a sequence of calls, each in its own transaction. -/
def run (step : C → S → Except E S) : List C → S → S
  | [], s => s
  | c :: cs, s => run step cs (applyCall step c s)

theorem reachable_applyCall {init : S → Prop} {step : C → S → Except E S} {s : S} (c : C)
    (hs : Reachable init step s) : Reachable init step (applyCall step c s) := by
  unfold applyCall
  split
  · rename_i s' h
    exact .step c hs h
  · exact hs

theorem reachable_run {init : S → Prop} {step : C → S → Except E S} :
    ∀ (cs : List C) {s : S}, Reachable init step s → Reachable init step (run step cs s)
  | [], _, hs => hs
  | c :: cs, _, hs => reachable_run cs (reachable_applyCall c hs)

section Runs

variable {step : C → S → Except E S} {c : C} {s s' : S}

@[simp] theorem applyCall_of_ok (h : step c s = .ok s') : applyCall step c s = s' := by
  rw [applyCall, h]

@[simp] theorem applyCall_of_error {e : E} (h : step c s = .error e) : applyCall step c s = s := by
  rw [applyCall, h]

/-- A property kept by every successful call of a kind holds after any run of calls of that
kind. -/
theorem run_induction {P : C → Prop} {inv : S → Prop}
    (hstep : ∀ c s s', P c → inv s → step c s = .ok s' → inv s') :
    ∀ (cs : List C) {s : S}, (∀ c ∈ cs, P c) → inv s → inv (run step cs s)
  | [], _, _, hs => hs
  | c :: cs, s, hP, hs => by
    apply run_induction hstep cs fun c' hc' => hP c' (List.mem_cons_of_mem c hc')
    cases h : step c s with
    | ok s' => rw [applyCall_of_ok h]; exact hstep c s s' (hP c List.mem_cons_self) hs h
    | error e => rw [applyCall_of_error h]; exact hs

/-- The sum of `f c s` over the calls `c` of a run that succeed, each taken at the state `s` it
starts from: what a run has accepted. -/
def acceptedSum {α : Type} [Add α] [Zero α] (step : C → S → Except E S) (f : C → S → α) :
    List C → S → α
  | [], _ => 0
  | c :: cs, s =>
    (if (step c s).isOk then f c s else 0) + acceptedSum step f cs (applyCall step c s)

variable {α : Type} [AddMonoid α] {f : C → S → α} {cs : List C}

theorem acceptedSum_cons_of_ok (h : step c s = .ok s') :
    acceptedSum step f (c :: cs) s = f c s + acceptedSum step f cs s' := by
  simp [acceptedSum, h, Except.isOk, Except.toBool]

theorem acceptedSum_cons_of_error {e : E} (h : step c s = .error e) :
    acceptedSum step f (c :: cs) s = acceptedSum step f cs s := by
  simp [acceptedSum, h, Except.isOk, Except.toBool]

/-- An invariant indexed by what has been accepted: when every successful call of a kind moves
the index by what the call contributes, a run of such calls moves it by `acceptedSum`. -/
theorem run_accepted {P : C → Prop} {inv : α → S → Prop}
    (hstep : ∀ c s s' n, P c → inv n s → step c s = .ok s' → inv (n + f c s) s') :
    ∀ (cs : List C) (n : α) {s : S}, (∀ c ∈ cs, P c) → inv n s →
      inv (n + acceptedSum step f cs s) (run step cs s)
  | [], n, _, _, hs => by rw [acceptedSum, add_zero]; exact hs
  | c :: cs, n, s, hP, hs => by
    have hP' : ∀ c' ∈ cs, P c' := fun c' hc' => hP c' (List.mem_cons_of_mem c hc')
    cases h : step c s with
    | ok s' =>
      rw [acceptedSum_cons_of_ok h, ← add_assoc, run, applyCall_of_ok h]
      exact run_accepted hstep cs _ hP' (hstep c s s' n (hP c List.mem_cons_self) hs h)
    | error e =>
      rw [acceptedSum_cons_of_error h, run, applyCall_of_error h]
      exact run_accepted hstep cs n hP' hs

end Runs

/-! ## Free balances -/

/-- Free balances: `free a x` is the balance of asset `a` held by account `x`. -/
structure Balances (A Acc : Type) where
  free : A → Acc → Nat

namespace Balances

variable {A Acc : Type} [DecidableEq A] [DecidableEq Acc]

def set (b : Balances A Acc) (a : A) (x : Acc) (n : Nat) : Balances A Acc :=
  ⟨Function.update b.free a (Function.update (b.free a) x n)⟩

/-- Mint `amt` of `a` into `x`. -/
def deposit (b : Balances A Acc) (a : A) (x : Acc) (amt : Nat) : Balances A Acc :=
  b.set a x (b.free a x + amt)

/-- Burn `amt` of `a` from `x`; fails when the balance is short. -/
def withdraw (b : Balances A Acc) (a : A) (x : Acc) (amt : Nat) : Option (Balances A Acc) :=
  if amt ≤ b.free a x then some (b.set a x (b.free a x - amt)) else none

/-- Move `amt` of `a` from `src` to `dst`; fails when `src` is short. -/
def transfer (b : Balances A Acc) (a : A) (src dst : Acc) (amt : Nat) :
    Option (Balances A Acc) :=
  (b.withdraw a src amt).map fun b' => b'.deposit a dst amt

@[simp] theorem free_set (b : Balances A Acc) (a : A) (x : Acc) (n : Nat) (c : A) (y : Acc) :
    (b.set a x n).free c y = if c = a ∧ y = x then n else b.free c y := by
  unfold set
  by_cases hc : c = a
  · subst hc
    by_cases hy : y = x
    · subst hy; simp
    · simp [hy]
  · simp [hc]

theorem free_deposit (b : Balances A Acc) (a : A) (x : Acc) (amt : Nat) (c : A) (y : Acc) :
    (b.deposit a x amt).free c y = b.free c y + if c = a ∧ y = x then amt else 0 := by
  unfold deposit
  rw [free_set]
  split
  · rename_i h; obtain ⟨rfl, rfl⟩ := h; rfl
  · rfl

theorem withdraw_eq_some {b b' : Balances A Acc} {a : A} {x : Acc} {amt : Nat} :
    b.withdraw a x amt = some b' ↔ amt ≤ b.free a x ∧ b' = b.set a x (b.free a x - amt) := by
  unfold withdraw
  by_cases h : amt ≤ b.free a x <;> simp [h, eq_comm]

theorem free_withdraw {b b' : Balances A Acc} {a : A} {x : Acc} {amt : Nat}
    (h : b.withdraw a x amt = some b') (c : A) (y : Acc) :
    b'.free c y + (if c = a ∧ y = x then amt else 0) = b.free c y := by
  obtain ⟨hle, rfl⟩ := withdraw_eq_some.mp h
  rw [free_set]
  split
  · rename_i h; obtain ⟨rfl, rfl⟩ := h; omega
  · rfl

theorem transfer_eq_some {b b' : Balances A Acc} {a : A} {src dst : Acc} {amt : Nat} :
    b.transfer a src dst amt = some b' ↔
      ∃ b₁, b.withdraw a src amt = some b₁ ∧ b' = b₁.deposit a dst amt := by
  unfold transfer
  cases hw : b.withdraw a src amt <;> simp [eq_comm]

/-- A transfer moves `amt` of `a` from `src` to `dst` and changes nothing else. -/
theorem free_transfer {b b' : Balances A Acc} {a : A} {src dst : Acc} {amt : Nat}
    (h : b.transfer a src dst amt = some b') (c : A) (y : Acc) :
    b'.free c y + (if c = a ∧ y = src then amt else 0) =
      b.free c y + (if c = a ∧ y = dst then amt else 0) := by
  obtain ⟨b₁, hw, rfl⟩ := transfer_eq_some.mp h
  have h1 := free_withdraw hw c y
  rw [free_deposit]
  omega

theorem free_transfer_of_ne {b b' : Balances A Acc} {a : A} {src dst : Acc} {amt : Nat}
    (h : b.transfer a src dst amt = some b') {c : A} (hc : c ≠ a) (y : Acc) :
    b'.free c y = b.free c y := by
  have := free_transfer h c y
  simp only [hc, false_and, if_false, Nat.add_zero] at this
  exact this

end Balances

end Frame
