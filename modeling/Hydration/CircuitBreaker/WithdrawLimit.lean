import Hydration.Frame.Arith

/-!
# circuit-breaker: the global withdraw limit

The pallet keeps one accumulator of egress, in reference currency, with the timestamp of its last
update. `note_egress` adds to it and fails once it would reach the configured limit,
`note_deposit` takes deposits back out, and `ensure_xcm_withdraw_can_proceed` checks an XCM
withdrawal against it. Each of them first runs `try_to_decay_withdraw_limit_accumulator`, which
takes from the accumulator the share `min(dt, window) / window` of its *current* value, `dt` being
the time since the last update.

None of these is an extrinsic: the runtime calls them from its hooks, and the storage they wrote
before an error stays written unless the caller rolls it back (the XCM executor ignores the result
of `note_egress`). So each of them returns the state it leaves together with its result.

The main results:

* `decay_mul_window_ge`: one decay never takes more than the proportional share of the value;
* `decayRun_pos`: a positive accumulator that is decayed at times each less than a window apart
  stays positive, however long the run;
* `withdraw_limit_decay_compounds`: two decays half a window apart leave a quarter of the value at
  the end of the window, where a linear decay would have emptied it.
-/

namespace Hydration.CircuitBreaker

open FixedPoint

/-- `GlobalWithdrawLimitParameters`: the limit in reference currency and the window in
milliseconds. -/
structure GlobalWithdrawLimitParameters where
  limit : Nat
  window : Nat
  deriving DecidableEq

inductive Error
  | withdrawLockdownActive
  | globalWithdrawLimitExceeded
  | arithmeticOverflow
  deriving DecidableEq

/-- The storage of the global withdraw limit. -/
structure State where
  globalWithdrawLimitConfig : Option GlobalWithdrawLimitParameters
  /-- `(current_accumulator_in_ref, last_update_timestamp_ms)` -/
  withdrawLimitAccumulator : Nat × Nat
  withdrawLockdownUntil : Option Nat

/-- `is_lockdown_at`. -/
def isLockdownAt (s : State) (target : Nat) : Bool :=
  match s.withdrawLockdownUntil with
  | some u => decide (target < u)
  | none => false

/-- `try_to_decay_withdraw_limit_accumulator`, at timestamp `now`. -/
def tryToDecayWithdrawLimitAccumulator (s : State) (now : Nat) : State :=
  match s.globalWithdrawLimitConfig with
  | none => s
  | some params =>
    if params.window < 1 then s
    else
      let current := s.withdrawLimitAccumulator.1
      let timeDiff := now - s.withdrawLimitAccumulator.2
      if timeDiff ≠ 0 ∧ isLockdownAt s now = false then
        let cappedDt := min timeDiff params.window
        let p : Perbill := PerThing.fromRational cappedDt params.window
        let decay := p.mulFloor current
        { s with withdrawLimitAccumulator := (current - decay, now) }
      else s

/-- `note_egress`: decay, then add `amount` unless the limit would be reached. -/
def noteEgress (s : State) (now amount : Nat) : State × Except Error Unit :=
  match s.globalWithdrawLimitConfig with
  | none => (s, .ok ())
  | some params =>
    if isLockdownAt s now then (s, .error .withdrawLockdownActive)
    else
      let s := tryToDecayWithdrawLimitAccumulator s now
      if params.window < 1 then (s, .ok ())
      else
        match Word.checkedAdd 128 s.withdrawLimitAccumulator.1 amount with
        | none => (s, .error .arithmeticOverflow)
        | some newCurrent =>
          if newCurrent < params.limit then
            ({ s with withdrawLimitAccumulator := (newCurrent, now) }, .ok ())
          else (s, .error .globalWithdrawLimitExceeded)

/-- `ensure_xcm_withdraw_can_proceed`: decay, then check the projected accumulator; it writes
nothing but the decay. -/
def ensureXcmWithdrawCanProceed (s : State) (now amount bufferedEgress : Nat) :
    State × Except Error Unit :=
  match s.globalWithdrawLimitConfig with
  | none => (s, .ok ())
  | some params =>
    if isLockdownAt s now then (s, .error .withdrawLockdownActive)
    else
      let s := tryToDecayWithdrawLimitAccumulator s now
      if params.window < 1 then (s, .ok ())
      else
        match Word.checkedAdd 128 s.withdrawLimitAccumulator.1 bufferedEgress >>=
            fun v => Word.checkedAdd 128 v amount with
        | none => (s, .error .arithmeticOverflow)
        | some projected =>
          if projected < params.limit then (s, .ok ()) else (s, .error .globalWithdrawLimitExceeded)

/-- `note_deposit`: decay, then take `amount` out; it stamps the accumulator with `now`. -/
def noteDeposit (s : State) (now amount : Nat) : State :=
  if isLockdownAt s now then s
  else
    let s := tryToDecayWithdrawLimitAccumulator s now
    { s with withdrawLimitAccumulator := (s.withdrawLimitAccumulator.1 - amount, now) }

/-! ## The decay of one call -/

section Decay

variable {s : State} {params : GlobalWithdrawLimitParameters} {now : Nat}

/-- What one decay does, when the limit is configured with a window and no lockdown holds: after
a positive time it takes the rounded-down share `min(dt, window) / window` of the value and stamps
`now`; otherwise it changes nothing. -/
theorem tryToDecay_eq (hcfg : s.globalWithdrawLimitConfig = some params) (hw : 1 ≤ params.window)
    (hlock : isLockdownAt s now = false) :
    tryToDecayWithdrawLimitAccumulator s now =
      if now - s.withdrawLimitAccumulator.2 = 0 then s
      else { s with withdrawLimitAccumulator :=
        (s.withdrawLimitAccumulator.1 - (PerThing.fromRational (min (now - s.withdrawLimitAccumulator.2)
          params.window) params.window : Perbill).mulFloor s.withdrawLimitAccumulator.1, now) } := by
  have hw' : ¬ params.window < 1 := by omega
  by_cases hdt : now - s.withdrawLimitAccumulator.2 = 0
  · simp [tryToDecayWithdrawLimitAccumulator, hcfg, hw', hdt]
  · simp [tryToDecayWithdrawLimitAccumulator, hcfg, hw', hdt, hlock]

/-- What any decay can do: nothing, or stamp `now` on a value no larger than before. -/
theorem tryToDecay_cases (s : State) (now : Nat) :
    tryToDecayWithdrawLimitAccumulator s now = s ∨
      ∃ c, c ≤ s.withdrawLimitAccumulator.1 ∧
        tryToDecayWithdrawLimitAccumulator s now = { s with withdrawLimitAccumulator := (c, now) } := by
  unfold tryToDecayWithdrawLimitAccumulator
  split
  · exact .inl rfl
  · dsimp only
    split
    · exact .inl rfl
    · split
      · exact .inr ⟨_, Nat.sub_le _ _, rfl⟩
      · exact .inl rfl

@[simp] theorem tryToDecay_config (s : State) (now : Nat) :
    (tryToDecayWithdrawLimitAccumulator s now).globalWithdrawLimitConfig = s.globalWithdrawLimitConfig := by
  rcases tryToDecay_cases s now with h | ⟨c, -, h⟩ <;> rw [h]

@[simp] theorem tryToDecay_lockdown (s : State) (now : Nat) :
    (tryToDecayWithdrawLimitAccumulator s now).withdrawLockdownUntil = s.withdrawLockdownUntil := by
  rcases tryToDecay_cases s now with h | ⟨c, -, h⟩ <;> rw [h]

/-- One decay takes at most the proportional share of the value: both `from_rational` and
`mul_floor` round down, so what is left, times the window, is at least the value times the part of
the window that has not passed. -/
theorem decay_mul_window_ge (hcfg : s.globalWithdrawLimitConfig = some params) (hw : 1 ≤ params.window)
    (hlock : isLockdownAt s now = false) :
    s.withdrawLimitAccumulator.1 * (params.window - min (now - s.withdrawLimitAccumulator.2) params.window) ≤
      (tryToDecayWithdrawLimitAccumulator s now).withdrawLimitAccumulator.1 * params.window := by
  rw [tryToDecay_eq hcfg hw hlock]
  split
  · next hdt => simp [hdt]
  · set c := s.withdrawLimitAccumulator.1
    set d := min (now - s.withdrawLimitAccumulator.2) params.window
    have hd : d ≤ params.window := min_le_right _ _
    -- the decay is at most `c * d / window`
    have hdecay : (PerThing.fromRational d params.window : Perbill).mulFloor c * params.window ≤ c * d :=
      PerThing.mulFloor_fromRational_mul_le (by decide) (by omega) hd c
    have hle : (PerThing.fromRational d params.window : Perbill).mulFloor c ≤ c := PerThing.mulFloor_le _ _
    show c * (params.window - d) ≤ (c - (PerThing.fromRational d params.window : Perbill).mulFloor c) * params.window
    rw [Nat.mul_sub, Nat.sub_mul]
    omega

end Decay

/-! ## Decays along a run -/

/-- The accumulator decayed at each timestamp of `ts` in turn. -/
def decayRun (ts : List Nat) (s : State) : State :=
  ts.foldl tryToDecayWithdrawLimitAccumulator s

/-- Every timestamp comes at or after the one before it and less than a window later. -/
def WithinWindows (window : Nat) (t₀ : Nat) (ts : List Nat) : Prop :=
  List.IsChain (fun a b => a ≤ b ∧ b - a < window) (t₀ :: ts)

/-- Decaying at a timestamp at or after the last update, with no lockdown, leaves the accumulator
stamped with that timestamp. -/
theorem tryToDecay_stamp {s : State} {params : GlobalWithdrawLimitParameters} {now : Nat}
    (hcfg : s.globalWithdrawLimitConfig = some params) (hw : 1 ≤ params.window)
    (hlock : isLockdownAt s now = false) (hnow : s.withdrawLimitAccumulator.2 ≤ now) :
    (tryToDecayWithdrawLimitAccumulator s now).withdrawLimitAccumulator.2 = now := by
  rw [tryToDecay_eq hcfg hw hlock]
  split
  · omega
  · rfl

/-- A positive accumulator that is only decayed, at timestamps each less than a window after the
previous update, stays positive: the decay takes a share of the current value, never the whole
of it, so it never reaches zero by the end of the window. -/
theorem decayRun_pos {params : GlobalWithdrawLimitParameters} (hw : 1 ≤ params.window) :
    ∀ (ts : List Nat) (s : State), s.globalWithdrawLimitConfig = some params →
      s.withdrawLockdownUntil = none → 0 < s.withdrawLimitAccumulator.1 →
      WithinWindows params.window s.withdrawLimitAccumulator.2 ts →
      0 < (decayRun ts s).withdrawLimitAccumulator.1
  | [], _, _, _, hpos, _ => hpos
  | t :: ts, s, hcfg, hnone, hpos, hchain => by
    rw [WithinWindows, List.isChain_cons_cons] at hchain
    obtain ⟨⟨hle, hlt⟩, hrest⟩ := hchain
    have hlock : isLockdownAt s t = false := by simp [isLockdownAt, hnone]
    -- the value left after the decay at `t`, times the window, is at least `c * (window - dt)`
    have hge := decay_mul_window_ge hcfg hw hlock
    have hmin : min (t - s.withdrawLimitAccumulator.2) params.window = t - s.withdrawLimitAccumulator.2 :=
      min_eq_left (by omega)
    rw [hmin] at hge
    have hprod : 0 < s.withdrawLimitAccumulator.1 * (params.window - (t - s.withdrawLimitAccumulator.2)) :=
      Nat.mul_pos hpos (by omega)
    have hpos' : 0 < (tryToDecayWithdrawLimitAccumulator s t).withdrawLimitAccumulator.1 :=
      Nat.pos_of_mul_pos_right (Nat.lt_of_lt_of_le hprod hge)
    have hstamp := tryToDecay_stamp hcfg hw hlock hle
    exact @decayRun_pos params hw ts _ (by simp [hcfg]) (by simp [hnone]) hpos' (by rw [WithinWindows, hstamp]; exact hrest)

/-! ## The calls that decay, connected to the run -/

/-- `ensure_xcm_withdraw_can_proceed` writes the decay and nothing else, whatever it returns. -/
theorem ensureXcmWithdrawCanProceed_state {s : State} {params : GlobalWithdrawLimitParameters}
    (hcfg : s.globalWithdrawLimitConfig = some params) (hnone : s.withdrawLockdownUntil = none)
    (now amount bufferedEgress : Nat) :
    (ensureXcmWithdrawCanProceed s now amount bufferedEgress).1 = tryToDecayWithdrawLimitAccumulator s now := by
  have hlock : isLockdownAt s now = false := by simp [isLockdownAt, hnone]
  unfold ensureXcmWithdrawCanProceed
  simp only [hcfg, hlock, Bool.false_eq_true, ↓reduceIte]
  split
  · rfl
  · split
    · rfl
    · split <;> rfl

/-- A sequence of XCM withdrawal checks, with no lockdown, decays the accumulator at each of their
timestamps and does nothing else to it. -/
theorem ensureXcm_foldl_eq_decayRun {params : GlobalWithdrawLimitParameters} (amount bufferedEgress : Nat) :
    ∀ (ts : List Nat) (s : State), s.globalWithdrawLimitConfig = some params → s.withdrawLockdownUntil = none →
      ts.foldl (fun s t => (ensureXcmWithdrawCanProceed s t amount bufferedEgress).1) s = decayRun ts s
  | [], _, _, _ => rfl
  | t :: ts, s, hcfg, hnone => by
    simp only [List.foldl_cons, decayRun]
    rw [ensureXcmWithdrawCanProceed_state hcfg hnone]
    exact @ensureXcm_foldl_eq_decayRun params amount bufferedEgress ts _ (by simp [hcfg]) (by simp [hnone])

/-! ## A day-long window -/

/-- A day in milliseconds, the runtime's window. -/
def day : Nat := 86400000

/-- A limit of ten thousand over a day, a thousand accumulated at time zero and no lockdown. -/
def dayState : State where
  globalWithdrawLimitConfig := some ⟨10000, day⟩
  withdrawLimitAccumulator := (1000, 0)
  withdrawLockdownUntil := none

/-- Two XCM withdrawal checks, at half a window and at a whole window after the accumulator was
written, leave a quarter of it: each decay halves what is left, so the value at the end of the
window is `1000 · ½ · ½ = 250`, not the zero of a linear decay. -/
theorem withdraw_limit_decay_compounds :
    ([day / 2, day].foldl (fun s t => (ensureXcmWithdrawCanProceed s t 0 0).1) dayState).withdrawLimitAccumulator =
      (250, day) := by
  decide

end Hydration.CircuitBreaker
