import Hydration.Dca.Pallet

/-!
# What the steps of the DCA pallet write

One inversion lemma per step: what a step that went through wrote, in terms of the steps it is
made of. The invariants of the pallet (`Dca.Reserves`, `Dca.Scheduling`) are proved from these
and never unfold a step's body again.

* `unallocateAmount_eq_ok`: a spend takes the same amount off the remaining amount and the
  reserve, or, for a rolling schedule, nothing;
* `takeTransactionFeeFromUser_eq_ok`, `executeTrade_eq_ok`: a fee or a trade is one spend and a
  change of free balances;
* `planScheduleForBlock_cases`: a planning lists the id once at a later block with room, or
  writes nothing.
-/

namespace Hydration.Dca

open Frame

variable {AccountId AssetId : Type}

/-! ## Outcomes -/

@[simp] theorem Outcome.failWith_state (o : Outcome AccountId AssetId) (e : Error) :
    (o.failWith e).state = o.state := by
  unfold Outcome.failWith
  split <;> rfl

@[simp] theorem Outcome.failWith_rng (o : Outcome AccountId AssetId) (e : Error) :
    (o.failWith e).rng = o.rng := by
  unfold Outcome.failWith
  split <;> rfl

/-- A step handed back as failing with `e` fails with `e` when it went through, else with its
own error. -/
theorem Outcome.failWith_result {o : Outcome AccountId AssetId} {e e' : Error}
    (h : (o.failWith e).result = .error e') : (o.result = .ok () ∧ e' = e) ∨ o.result = .error e' := by
  unfold Outcome.failWith at h
  split at h
  · rename_i hok
    exact .inl ⟨hok, (Except.error.inj h).symm⟩
  · exact .inr h

theorem Outcome.failWith_ne_ok (o : Outcome AccountId AssetId) (e : Error) :
    (o.failWith e).result ≠ .ok () := by
  unfold Outcome.failWith
  split
  · simp
  · rename_i e' h
    rw [h]
    simp

/-! ## Planning -/

variable (cfg : Config AccountId AssetId) {s s' : State AccountId AssetId}

/-- The search for a free block ends at a block whose list has room, no earlier than where it
started when that is a `u32`. -/
theorem findNextFreeBlockLoop_eq_ok {is : List Nat} {next nb : Nat} {rng rng' : Rng}
    (h : findNextFreeBlockLoop cfg s is next rng = (.ok nb, rng')) :
    (next ≤ Word.max 32 → next ≤ nb) ∧ (s.idsAt nb).length < cfg.maxSchedulePerBlock := by
  induction is generalizing next rng with
  | nil => simp [findNextFreeBlockLoop] at h
  | cons i is ih =>
    unfold findNextFreeBlockLoop at h
    split_ifs at h with hroom
    · simp only [Prod.mk.injEq, Except.ok.injEq] at h
      obtain ⟨rfl, -⟩ := h
      exact ⟨fun _ => le_rfl, hroom⟩
    · -- a delay moves the block on, saturating at the last `u32` block
      obtain ⟨hle, hnb⟩ := ih h
      refine ⟨fun hnext => ?_, hnb⟩
      have hsat := hle (Word.saturatingAdd_le_max _ _ _)
      unfold Word.saturatingAdd at hsat
      omega

theorem findNextFreeBlockLoop_eq_error {is : List Nat} {next : Nat} {rng rng' : Rng} {e : Error}
    (h : findNextFreeBlockLoop cfg s is next rng = (.error e, rng')) : e = .noFreeBlockFound := by
  induction is generalizing next rng with
  | nil =>
    simp only [findNextFreeBlockLoop, Prod.mk.injEq, Except.error.injEq] at h
    exact h.1.symm
  | cons i is ih =>
    unfold findNextFreeBlockLoop at h
    split_ifs at h
    · simp at h
    · exact ih h

/-- A planning either writes nothing and fails, or lists the id once more at a block after the
current one whose list has room, and records that block. -/
theorem planScheduleForBlock_cases (b x : Nat) (rng : Rng) :
    ((planScheduleForBlock cfg s b x rng).state = s ∧
      ∃ e, (planScheduleForBlock cfg s b x rng).result = .error e ∧
        (e = .blockNumberIsNotInFuture ∨ e = .noFreeBlockFound ∨ e = .invalidState)) ∨
    ((planScheduleForBlock cfg s b x rng).result = .ok () ∧
      ∃ nb, s.blockNumber < b ∧ (b ≤ Word.max 32 → b ≤ nb) ∧
        (s.idsAt nb).length < cfg.maxSchedulePerBlock ∧
        (planScheduleForBlock cfg s b x rng).state = { s with
          scheduleIdsPerBlock := s.scheduleIdsPerBlock.insert nb (s.idsAt nb ++ [x])
          scheduleExecutionBlock := s.scheduleExecutionBlock.insert x nb }) := by
  unfold planScheduleForBlock
  split_ifs with hfuture
  · split
    · rename_i e rng' hfind
      exact .inl ⟨rfl, e, rfl, .inr (.inl (findNextFreeBlockLoop_eq_error cfg hfind))⟩
    · rename_i nb rng' hfind
      split_ifs with hfull
      · exact .inl ⟨rfl, _, rfl, .inr (.inr rfl)⟩
      · obtain ⟨hle, -⟩ := findNextFreeBlockLoop_eq_ok cfg hfind
        exact .inr ⟨rfl, nb, hfuture, hle, by omega, rfl⟩
  · exact .inl ⟨rfl, _, rfl, .inl rfl⟩

/-- A retry is planned a power of two of short periods on, within `u32`. -/
theorem retryExecutionBlock_eq_ok {n c b : Nat} (h : retryExecutionBlock n c = .ok b) :
    b ≤ Word.max 32 := by
  unfold retryExecutionBlock at h
  simp only [bind_eq_ok, okOr_eq_ok, Word.tryFrom_eq_some, Word.checkedMul_eq_some,
    Word.checkedAdd_eq_some] at h
  obtain ⟨_, _, _, _, hb⟩ := h
  omega

theorem retryExecutionBlock_eq_error {n c : Nat} {e : Error} (h : retryExecutionBlock n c = .error e) :
    e = .runtime .overflow := by
  have herr : ErrorsIn (· = Error.runtime .overflow) (retryExecutionBlock n c) := by
    unfold retryExecutionBlock
    refine errorsIn_bind (errorsIn_okOr rfl) fun _ _ => ?_
    exact errorsIn_bind (errorsIn_okOr rfl) fun _ _ => errorsIn_okOr rfl
  exact herr e h

/-- A retry fails at the retry limit writing nothing, fails on an overflow having counted the
retry, or is the planning of the schedule with the retry counted. -/
theorem retrySchedule_cases (x : Nat) (sch : Schedule AccountId AssetId) (n : Nat) (rng : Rng) :
    ((retrySchedule cfg s x sch n rng).state = s ∧
      (retrySchedule cfg s x sch n rng).result = .error .maxRetryReached) ∨
    ∃ k, ((retrySchedule cfg s x sch n rng).state =
          { s with retriesOnError := s.retriesOnError.insert x k } ∧
        (retrySchedule cfg s x sch n rng).result = .error (.runtime .overflow)) ∨
      ∃ b, b ≤ Word.max 32 ∧ retrySchedule cfg s x sch n rng =
        planScheduleForBlock cfg { s with retriesOnError := s.retriesOnError.insert x k } b x rng := by
  unfold retrySchedule
  dsimp only
  split_ifs with hlimit
  · refine .inr ⟨Word.saturatingAdd 8 (s.retriesOf x) 1, ?_⟩
    split
    · rename_i e he
      exact .inl ⟨rfl, by rw [retryExecutionBlock_eq_error he]⟩
    · rename_i b hb
      exact .inr ⟨b, retryExecutionBlock_eq_ok hb, rfl⟩
  · exact .inl ⟨rfl, rfl⟩

/-! ## Spending the budget -/

variable [DecidableEq AccountId] [DecidableEq AssetId]

/-- Unreserving no more than is reserved gives back all of it. -/
theorem unreserveNamed_of_le {asset : AssetId} {who : AccountId} {a : Nat}
    (h : a ≤ s.reserved.free asset who) :
    unreserveNamed s asset who a =
      ({ s with
          free := s.free.deposit asset who a
          reserved := s.reserved.set asset who (s.reserved.free asset who - a) }, 0) := by
  simp [unreserveNamed, Nat.min_eq_left h]

theorem unallocateAmount_eq_ok {x a : Nat} {sch : Schedule AccountId AssetId}
    (h : unallocateAmount s x sch a = .ok s') :
    (sch.isRolling = true ∧ s' = s) ∨
    ∃ r, s.remainingAmounts.lookup x = some r ∧ a ≤ r ∧
      a ≤ s.reserved.free sch.order.getAssetIn sch.owner ∧
      s' = { s with
        remainingAmounts := s.remainingAmounts.insert x (r - a)
        free := s.free.deposit sch.order.getAssetIn sch.owner a
        reserved := s.reserved.set sch.order.getAssetIn sch.owner
          (s.reserved.free sch.order.getAssetIn sch.owner - a) } := by
  unfold unallocateAmount at h
  split_ifs at h with hroll
  · exact .inl ⟨hroll, (Except.ok.inj h).symm⟩
  · simp only [bind_eq_ok, okOr_eq_ok, ensure_eq_ok, Word.checkedSub_eq_some] at h
    obtain ⟨r, hr, _, hle, _, ⟨-, rfl⟩, _, hun, hs'⟩ := h
    simp only [unreserveNamed] at hun hs'
    -- the reserve covered the amount: `unreserve_named` left nothing of it
    have hres : a ≤ s.reserved.free sch.order.getAssetIn sch.owner := by omega
    refine .inr ⟨r, hr, hle, hres, ?_⟩
    rw [Nat.min_eq_left hres] at hs'
    exact (Except.ok.inj hs').symm

/-- A fee is one spend of the schedule's budget and a change of free balances. -/
theorem takeTransactionFeeFromUser_eq_ok {x w : Nat} {sch : Schedule AccountId AssetId}
    (h : takeTransactionFeeFromUser cfg s x sch w = .ok s') :
    ∃ a s₁ free, unallocateAmount s x sch a = .ok s₁ ∧ s' = { s₁ with free } := by
  unfold takeTransactionFeeFromUser at h
  simp only [bind_eq_ok] at h
  obtain ⟨fee, -, h⟩ := h
  split_ifs at h
  · simp only [bind_eq_ok, okOr_eq_ok] at h
    obtain ⟨s₁, hu, free, -, hs'⟩ := h
    exact ⟨fee, s₁, free, hu, (Except.ok.inj hs').symm⟩
  · -- the fee is bought in DOT with the pool fee on top, all out of the budget
    simp only [bind_eq_ok, okOr_eq_ok, mapError_eq_ok] at h
    obtain ⟨_, -, a, -, s₁, hu, _, -, free, -, hs'⟩ := h
    exact ⟨a, s₁, free, hu, (Except.ok.inj hs').symm⟩

/-- A trade is one spend of the schedule's budget and a change of free balances. -/
theorem executeTrade_eq_ok {x : Nat} {sch : Schedule AccountId AssetId}
    {r : AmountInAndOut × State AccountId AssetId} (h : executeTrade cfg s x sch = .ok r) :
    ∃ a s₁ free, unallocateAmount s x sch a = .ok s₁ ∧ r.2 = { s₁ with free } := by
  unfold executeTrade at h
  split at h
  · simp only [bind_eq_ok, okOr_eq_ok, mapError_eq_ok] at h
    obtain ⟨_, -, s₁, hu, _, -, _, -, _, -, _, -, _, -, free, -, hr⟩ := h
    exact ⟨_, s₁, free, hu, by rw [← Except.ok.inj hr]⟩
  · simp only [bind_eq_ok, okOr_eq_ok, mapError_eq_ok] at h
    obtain ⟨_, -, s₁, hu, _, -, _, -, _, -, free, -, hr⟩ := h
    exact ⟨_, s₁, free, hu, by rw [← Except.ok.inj hr]⟩

/-! ## Errors the hook passes over -/

/-- Not one of the errors with which `prepare_schedule` hands back a schedule it planned again. -/
def NotHandedBack (e : Error) : Prop := e ≠ .priceUnstable ∧ e ≠ .bumped

omit [DecidableEq AccountId] [DecidableEq AssetId] in
theorem convertToPolkadotNativeAsset_errorsIn (a : Nat) :
    ErrorsIn NotHandedBack (convertToPolkadotNativeAsset cfg a) := by
  unfold convertToPolkadotNativeAsset
  exact errorsIn_bind (errorsIn_okOr ⟨by decide, by decide⟩) fun _ _ => errorsIn_okOr ⟨by decide, by decide⟩

omit [DecidableEq AccountId] in
theorem convertNativeAmountToCurrency_errorsIn (asset : AssetId) (a : Nat) :
    ErrorsIn NotHandedBack (convertNativeAmountToCurrency cfg asset a) := by
  unfold convertNativeAmountToCurrency
  split_ifs
  · exact errorsIn_pure _
  · exact errorsIn_bind (errorsIn_okOr ⟨by decide, by decide⟩) fun _ _ => errorsIn_okOr ⟨by decide, by decide⟩
  · refine errorsIn_bind (convertToPolkadotNativeAsset_errorsIn cfg _) fun _ _ => ?_
    exact errorsIn_mapError fun _ => ⟨by simp, by simp⟩

theorem unallocateAmount_errorsIn (x a : Nat) (sch : Schedule AccountId AssetId) :
    ErrorsIn NotHandedBack (unallocateAmount s x sch a) := by
  unfold unallocateAmount
  split_ifs
  · exact errorsIn_pure _
  · refine errorsIn_bind (errorsIn_okOr ⟨by decide, by decide⟩) fun _ _ => ?_
    refine errorsIn_bind (errorsIn_ensure ⟨by decide, by decide⟩) fun _ _ => ?_
    refine errorsIn_bind (errorsIn_okOr ⟨by decide, by decide⟩) fun _ _ => ?_
    exact errorsIn_bind (errorsIn_ensure ⟨by decide, by decide⟩) fun _ _ => errorsIn_pure _

/-- The fee fails with the runtime's errors and the pallet's own, never with a bump or an
unstable price. -/
theorem takeTransactionFeeFromUser_errorsIn (x w : Nat) (sch : Schedule AccountId AssetId) :
    ErrorsIn NotHandedBack (takeTransactionFeeFromUser cfg s x sch w) := by
  unfold takeTransactionFeeFromUser convertWeightToFee
  refine errorsIn_bind (convertNativeAmountToCurrency_errorsIn cfg _ _) fun _ _ => ?_
  split_ifs
  · refine errorsIn_bind (unallocateAmount_errorsIn _ _ _) fun _ _ => ?_
    exact errorsIn_bind (errorsIn_okOr ⟨by decide, by decide⟩) fun _ _ => errorsIn_pure _
  · refine errorsIn_bind (errorsIn_mapError fun _ => ⟨by simp, by simp⟩) fun _ _ => ?_
    refine errorsIn_bind (errorsIn_okOr ⟨by decide, by decide⟩) fun _ _ => ?_
    refine errorsIn_bind (unallocateAmount_errorsIn _ _ _) fun _ _ => ?_
    refine errorsIn_bind (convertToPolkadotNativeAsset_errorsIn cfg _) fun _ _ => ?_
    exact errorsIn_bind (errorsIn_mapError fun _ => ⟨by simp, by simp⟩) fun _ _ => errorsIn_pure _

/-! ## The steps of the hook -/

/-- `prepare_schedule` ends in one of four ways: bumped, retried after running out of gas on the
fee, failed on the fee, or with the fee paid and then retried on an unstable price or ready to
trade. -/
theorem prepareSchedule_cases (n w x : Nat) (sch : Schedule AccountId AssetId) (rng : Rng) :
    (∃ rng', prepareSchedule cfg s n w x sch rng =
      (planScheduleForBlock cfg s (Word.saturatingAdd 32 n 1) x rng').failWith .bumped) ∨
    (∃ rng', prepareSchedule cfg s n w x sch rng =
      (retrySchedule cfg (incrementExtraGas cfg s x sch) x sch n rng').failWith cfg.outOfGas) ∨
    (∃ rng' e, e ≠ cfg.outOfGas ∧ NotHandedBack e ∧
      prepareSchedule cfg s n w x sch rng = ⟨s, rng', .error e⟩) ∨
    ∃ s₁ rng', takeTransactionFeeFromUser cfg s x sch w = .ok s₁ ∧
      (prepareSchedule cfg s n w x sch rng =
          (retrySchedule cfg s₁ x sch n rng').failWith .priceUnstable ∨
        prepareSchedule cfg s n w x sch rng = ⟨s₁, rng', .ok ()⟩) := by
  unfold prepareSchedule
  dsimp only
  by_cases hbump : (rng.genRange 0 99).1 ≤ cfg.bumpChance
  · rw [if_pos hbump]
    exact .inl ⟨_, rfl⟩
  · rw [if_neg hbump]
    split
    · rename_i e hfee
      by_cases hgas : e = cfg.outOfGas
      · rw [if_pos hgas]
        subst hgas
        exact .inr (.inl ⟨_, rfl⟩)
      · rw [if_neg hgas]
        exact .inr (.inr (.inl ⟨_, e, hgas, takeTransactionFeeFromUser_errorsIn cfg _ _ _ e hfee, rfl⟩))
    · rename_i s₁ hfee
      by_cases hunstable : isPriceUnstable cfg sch = true
      · rw [if_pos hunstable]
        exact .inr (.inr (.inr ⟨s₁, _, hfee, .inl rfl⟩))
      · rw [if_neg hunstable]
        exact .inr (.inr (.inr ⟨s₁, _, hfee, .inr rfl⟩))

omit [DecidableEq AccountId] in
/-- A replanning is a period on, within `u32`. -/
theorem replanDecision_planAt {x n b : Nat} {sch : Schedule AccountId AssetId}
    (h : replanDecision cfg s x sch n = .ok (.planAt b)) : b ≤ Word.max 32 := by
  unfold replanDecision at h
  simp only [bind_eq_ok, okOr_eq_ok] at h
  obtain ⟨_, -, _, -, h⟩ := h
  split_ifs at h
  · cases h
  · simp only [bind_eq_ok] at h
    obtain ⟨short, -, h⟩ := h
    split_ifs at h
    · cases h
    · simp only [bind_eq_ok, okOr_eq_ok, Word.checkedAdd_eq_some] at h
      obtain ⟨_, ⟨hle, rfl⟩, h⟩ := h
      cases h
      exact hle

/-- `complete_schedule` and `terminate_schedule` write the same. -/
theorem completeSchedule_eq_terminateSchedule (x : Nat) (sch : Schedule AccountId AssetId) :
    completeSchedule s x sch = terminateSchedule s x sch := rfl

/-- After a trade the schedule, its retries reset, fails to be replanned writing nothing more,
is completed, or is planned a period on. -/
theorem replanOrComplete_cases (x : Nat) (sch : Schedule AccountId AssetId) (n : Nat) (rng : Rng) :
    ((replanOrComplete cfg s x sch n rng).state =
        { s with retriesOnError := s.retriesOnError.erase x } ∧
      (replanOrComplete cfg s x sch n rng).result ≠ .ok ()) ∨
    ((replanOrComplete cfg s x sch n rng).state =
        completeSchedule { s with retriesOnError := s.retriesOnError.erase x } x sch ∧
      (replanOrComplete cfg s x sch n rng).result = .ok ()) ∨
    ∃ b, b ≤ Word.max 32 ∧ replanOrComplete cfg s x sch n rng =
      planScheduleForBlock cfg { s with retriesOnError := s.retriesOnError.erase x } b x rng := by
  unfold replanOrComplete
  dsimp only
  split
  · exact .inl ⟨rfl, by simp⟩
  · exact .inr (.inl ⟨rfl, rfl⟩)
  · rename_i b hb
    exact .inr (.inr ⟨b, replanDecision_planAt cfg hb, rfl⟩)

/-- After a failed trade the schedule is completed, terminated, or retried and terminated when
the retry fails, with its extra gas raised first after running out of gas. -/
theorem afterFailedTrade_cases (x : Nat) (sch : Schedule AccountId AssetId) (n : Nat) (rng : Rng)
    (e : Error) :
    (afterFailedTrade cfg s x sch n rng e).1 = completeSchedule s x sch ∨
    ∃ s₁, (s₁ = s ∨ s₁ = incrementExtraGas cfg s x sch) ∧
      ((afterFailedTrade cfg s x sch n rng e).1 = terminateSchedule s₁ x sch ∨
        ((retrySchedule cfg s₁ x sch n rng).result = .ok () ∧
          (afterFailedTrade cfg s x sch n rng e).1 = (retrySchedule cfg s₁ x sch n rng).state) ∨
        ((retrySchedule cfg s₁ x sch n rng).result ≠ .ok () ∧
          (afterFailedTrade cfg s x sch n rng e).1 =
            terminateSchedule (retrySchedule cfg s₁ x sch n rng).state x sch)) := by
  unfold afterFailedTrade
  by_cases hcomplete : sch.isRolling = true ∧ e = .runtime .fundsUnavailable
  · rw [if_pos hcomplete]
    exact .inl rfl
  · rw [if_neg hcomplete]
    dsimp only
    generalize hs₁ : (if e = cfg.outOfGas then incrementExtraGas cfg s x sch else s) = s₁
    have hs₁' : s₁ = s ∨ s₁ = incrementExtraGas cfg s x sch := by
      split_ifs at hs₁ <;> simp [← hs₁]
    refine .inr ⟨s₁, hs₁', ?_⟩
    by_cases hterm : e ≠ .tradeLimitReached ∧ e ≠ .slippageLimitReached ∧ cfg.retryOnError e = false
    · rw [if_pos hterm]
      exact .inl rfl
    · rw [if_neg hterm]
      split
      · rename_i hok
        exact .inr (.inl ⟨hok, rfl⟩)
      · rename_i e' herr
        exact .inr (.inr ⟨by simp [herr], rfl⟩)

/-! ## Ending a schedule and the calls -/

/-- `try_unreserve_all` writes balances only. -/
theorem tryUnreserveAll_eq (x : Nat) (sch : Schedule AccountId AssetId) :
    tryUnreserveAll s x sch =
      { s with free := (tryUnreserveAll s x sch).free, reserved := (tryUnreserveAll s x sch).reserved } := by
  unfold tryUnreserveAll
  split <;> rfl

/-- `terminate_schedule` gives the budget back and removes every entry of the schedule but its
place in a list. -/
theorem terminateSchedule_eq (x : Nat) (sch : Schedule AccountId AssetId) :
    terminateSchedule s x sch = { s with
      schedules := s.schedules.erase x
      scheduleOwnership := s.scheduleOwnership.erase (sch.owner, x)
      remainingAmounts := s.remainingAmounts.erase x
      retriesOnError := s.retriesOnError.erase x
      scheduleExecutionBlock := s.scheduleExecutionBlock.erase x
      scheduleExtraGas := s.scheduleExtraGas.erase x
      free := (tryUnreserveAll s x sch).free
      reserved := (tryUnreserveAll s x sch).reserved } := by
  unfold terminateSchedule removeScheduleFromStorages tryUnreserveAll
  split <;> rfl

omit [DecidableEq AccountId] [DecidableEq AssetId] in
/-- Unless there is no allowance of retries to share it by, out-of-gas raises the schedule's extra
gas only. -/
theorem incrementExtraGas_eq (x : Nat) (sch : Schedule AccountId AssetId) :
    incrementExtraGas cfg s x sch = s ∨
    ∃ g, incrementExtraGas cfg s x sch = { s with scheduleExtraGas := s.scheduleExtraGas.insert x g } := by
  unfold incrementExtraGas
  dsimp only
  split_ifs
  · exact .inl rfl
  · exact .inr ⟨_, rfl⟩

omit [DecidableEq AccountId] [DecidableEq AssetId] in
theorem getFirstExecutionBlock_eq_ok {n b : Nat} {start : Option Nat}
    (h : getFirstExecutionBlock n start = .ok b) : b ≤ Word.max 32 := by
  unfold getFirstExecutionBlock at h
  split at h
  · cases h
    exact Word.saturatingAdd_le_max _ _ _
  · simp only [okOr_eq_ok, Word.checkedAdd_eq_some] at h
    omega

/-- A schedule that went through took the next id, with its owner, its budget reserved and no
retries, and was planned. -/
theorem schedule_eq_ok {who : AccountId} {sch : Schedule AccountId AssetId} {start : Option Nat}
    (h : schedule cfg s who sch start = .ok s') :
    who = sch.owner ∧ s.scheduleIdSequencer + 1 ≤ Word.max 32 ∧
    ∃ amount free b rng s₁, b ≤ Word.max 32 ∧
      s.free.withdraw sch.order.getAssetIn who amount = some free ∧
      s₁ = { s with
        scheduleIdSequencer := s.scheduleIdSequencer + 1
        schedules := s.schedules.insert s.scheduleIdSequencer sch
        scheduleOwnership := s.scheduleOwnership.insert (who, s.scheduleIdSequencer) ()
        remainingAmounts := s.remainingAmounts.insert s.scheduleIdSequencer amount
        retriesOnError := s.retriesOnError.insert s.scheduleIdSequencer 0
        free := free
        reserved := s.reserved.deposit sch.order.getAssetIn who amount } ∧
      (planScheduleForBlock cfg s₁ b s.scheduleIdSequencer rng).result = .ok () ∧
      s' = (planScheduleForBlock cfg s₁ b s.scheduleIdSequencer rng).state := by
  unfold schedule reserveNamed at h
  simp only [bind_eq_ok, ensure_eq_ok, okOr_eq_ok, Word.checkedAdd_eq_some] at h
  obtain ⟨_, hwho, _, -, _, -, _, -, _, -, _, -, _, -, _, -, amount, -, _, ⟨hseq, rfl⟩, _,
    ⟨free, hfree, hs₁⟩, b, hb, h⟩ := h
  obtain rfl := Except.ok.inj hs₁
  refine ⟨hwho, hseq, amount, free, b, ⟨cfg.generator s.blockNumber (some s.scheduleIdSequencer), 0⟩, _,
    getFirstExecutionBlock_eq_ok hb, hfree, rfl, ?_⟩
  split at h
  · rename_i hok
    exact ⟨hok, (Except.ok.inj h).symm⟩
  · cases h

omit [DecidableEq AccountId] [DecidableEq AssetId] in
/-- Taking an id out of a block's list writes that list only. -/
theorem removeFromBlock_eq_ok {b x : Nat} (h : removeFromBlock s b x = .ok s') :
    ∃ ids idx, s.scheduleIdsPerBlock.lookup b = some ids ∧ ids.findIdx? (· == x) = some idx ∧
      s' = { s with
        scheduleIdsPerBlock := if (ids.eraseIdx idx).isEmpty then s.scheduleIdsPerBlock.erase b
          else s.scheduleIdsPerBlock.insert b (ids.eraseIdx idx) } := by
  unfold removeFromBlock at h
  simp only [bind_eq_ok, okOr_eq_ok] at h
  obtain ⟨ids, hids, idx, hidx, h⟩ := h
  exact ⟨ids, idx, hids, hidx, (Except.ok.inj h).symm⟩

/-- A termination that went through is `terminate_schedule` with the id taken out of the list of
the given block, or of its planned one. -/
theorem terminate_eq_ok {origin : Origin AccountId} {x : Nat} {next : Option Nat}
    (h : terminate s origin x next = .ok s') :
    ∃ sch b ids idx, s.schedules.lookup x = some sch ∧
      (next = some b ∨ next = none ∧ s.scheduleExecutionBlock.lookup x = some b) ∧
      s.scheduleIdsPerBlock.lookup b = some ids ∧ ids.findIdx? (· == x) = some idx ∧
      s' = { terminateSchedule s x sch with
        scheduleIdsPerBlock := if (ids.eraseIdx idx).isEmpty then s.scheduleIdsPerBlock.erase b
          else s.scheduleIdsPerBlock.insert b (ids.eraseIdx idx) } := by
  unfold terminate at h
  simp only [bind_eq_ok, okOr_eq_ok] at h
  obtain ⟨sch, hsch, _, -, b, hb, s₁, hremove, h⟩ := h
  obtain ⟨ids, idx, hids, hidx, rfl⟩ := removeFromBlock_eq_ok hremove
  have hexec : (tryUnreserveAll s x sch).scheduleExecutionBlock = s.scheduleExecutionBlock := by
    rw [tryUnreserveAll_eq]
  have hlists : (tryUnreserveAll s x sch).scheduleIdsPerBlock = s.scheduleIdsPerBlock := by
    rw [tryUnreserveAll_eq]
  rw [hlists] at hids
  refine ⟨sch, b, ids, idx, hsch, ?_, hids, hidx, ?_⟩
  · rw [hexec] at hb
    cases next with
    | some b' => exact .inl hb
    | none => exact .inr ⟨rfl, by simpa using hb⟩
  · rw [← Except.ok.inj h, hlists]
    rfl

end Hydration.Dca
