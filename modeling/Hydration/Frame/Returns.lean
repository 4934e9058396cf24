import Mathlib

/-!
# What a fallible computation can return

`Returns P o` says that every value the `Option` computation `o` returns satisfies `P`:
the partial-correctness postcondition of `o`, which says nothing when `o` fails. There
is one rule for each form a `do` block is built from (`pure`, `>>=`, failure), and the
bind rule passes the equation of the bound value on, so that a fact relating two
intermediate values of a long computation is proved one bind at a time instead of by
unfolding the whole computation into one existential.
-/

namespace Frame

variable {α β : Type}

/-- Every value `o` returns satisfies `P`. -/
def Returns (P : α → Prop) (o : Option α) : Prop :=
  ∀ a, o = some a → P a

variable {P Q : α → Prop} {o : Option α}

theorem returns_pure {a : α} (h : P a) : Returns P (pure a) := by
  rintro b ⟨⟩
  exact h

theorem returns_none : Returns P none := by
  intro a h
  cases h

/-- The bind rule: the continuation may use the value bound and where it came from. -/
theorem returns_bind {f : α → Option β} {P : β → Prop}
    (h : ∀ a, o = some a → Returns P (f a)) : Returns P (o >>= f) := by
  intro b hb
  cases ho : o with
  | none =>
    rw [ho] at hb
    cases hb
  | some a =>
    rw [ho] at hb
    exact h a ho b hb

theorem Returns.mono (h : Returns P o) (hPQ : ∀ a, P a → Q a) : Returns Q o :=
  fun a ha => hPQ a (h a ha)

/-- A spec applied to one run. -/
theorem Returns.of_eq {a : α} (h : Returns P o) (ha : o = some a) : P a :=
  h a ha

/-- A `mapM` whose every call returns a value with the same image `g` as the argument has
under `h` returns a list with the same image as the input. -/
theorem returns_mapM {γ : Type} {f : α → Option β} {g : β → γ} {h : α → γ}
    (hf : ∀ a, Returns (fun b => g b = h a) (f a)) :
    ∀ xs : List α, Returns (fun ys => ys.map g = xs.map h) (xs.mapM f)
  | [] => by
    rw [List.mapM_nil]
    exact returns_pure rfl
  | a :: xs => by
    rw [List.mapM_cons]
    refine returns_bind fun b hb => returns_bind fun bs hbs => returns_pure ?_
    rw [List.map_cons, List.map_cons, hf a b hb, returns_mapM hf xs bs hbs]

end Frame
