import Hydration.Dca.Steps

/-!
# The DCA reserve is the sum of the remaining budgets

What the pallet holds under its named reserve for an account in an asset is the sum of the
remaining amounts of that account's schedules that sell the asset (`reserve_accounting`), in
every state reached from an empty genesis by any interleaving of `schedule`, `terminate`,
`unlock_reserves` and blocks. The books move in three ways only:

* a spend takes the same amount off a schedule's remaining amount and its owner's reserve
  (`ReserveBooks.unallocateAmount`);
* ending a schedule gives back its remaining amount, all of which is reserved
  (`ReserveBooks.terminateSchedule`);
* a new schedule reserves its budget under a fresh id (`ReserveBooks.schedule`).

Everything else the hook writes leaves the books as they are, and `unlock_reserves` never goes
through (`ReserveBooks.unlockReserves_ne_ok`): an account without schedules has nothing reserved.
-/

namespace Hydration.Dca

open Frame Frame.StorageMap

variable {AccountId AssetId : Type} [DecidableEq AccountId] [DecidableEq AssetId]

/-- What schedule `x` holds in reserve for `who` in `asset`: its remaining amount, when it is
`who`'s and sells `asset`. -/
def reserveOf (remaining : StorageMap Nat Nat) (asset : AssetId) (who : AccountId) (x : Nat)
    (sch : Schedule AccountId AssetId) : Nat :=
  if sch.owner = who ∧ sch.order.getAssetIn = asset then (remaining.lookup x).getD 0 else 0

/-- The remaining amounts of `who`'s schedules that sell `asset`. -/
def scheduledReserve (s : State AccountId AssetId) (asset : AssetId) (who : AccountId) : Nat :=
  sumBy (reserveOf s.remainingAmounts asset who) s.schedules

/-- An empty genesis: no schedules, no owners, no lists, nothing reserved. -/
structure Genesis (s : State AccountId AssetId) : Prop where
  schedules : s.schedules = ∅
  scheduleOwnership : s.scheduleOwnership = ∅
  scheduleIdsPerBlock : s.scheduleIdsPerBlock = ∅
  reserved : ∀ asset who, s.reserved.free asset who = 0

/-! ## The sum, one schedule at a time -/

section Sum

variable {schedules : StorageMap Nat (Schedule AccountId AssetId)} {x : Nat}
  {sch : Schedule AccountId AssetId}

theorem reserveOf_of_lookup {remaining : StorageMap Nat Nat} {r : Nat}
    (hr : remaining.lookup x = some r) (asset : AssetId) (who : AccountId) :
    reserveOf remaining asset who x sch =
      if sch.owner = who ∧ sch.order.getAssetIn = asset then r else 0 := by
  simp [reserveOf, hr]

/-- The sum reads the remaining amounts of the schedules only. -/
theorem sumBy_reserveOf_congr (remaining remaining' : StorageMap Nat Nat) (asset : AssetId)
    (who : AccountId)
    (h : ∀ y sch', schedules.lookup y = some sch' → remaining'.lookup y = remaining.lookup y) :
    sumBy (reserveOf remaining' asset who) schedules = sumBy (reserveOf remaining asset who) schedules := by
  apply sumBy_congr
  intro y sch' hy
  simp only [reserveOf, h y sch' hy]

/-- Writing the remaining amount of schedule `x` moves the sum by `x`'s own term. -/
theorem sumBy_reserveOf_insert (remaining : StorageMap Nat Nat) (hs : schedules.lookup x = some sch)
    (v : Nat) (asset : AssetId) (who : AccountId) :
    sumBy (reserveOf (remaining.insert x v) asset who) schedules + reserveOf remaining asset who x sch =
      sumBy (reserveOf remaining asset who) schedules +
        reserveOf (remaining.insert x v) asset who x sch := by
  rw [← sumBy_erase_of_lookup _ hs, ← sumBy_erase_of_lookup _ hs,
    sumBy_reserveOf_congr remaining _ asset who fun y _ hy =>
      AList.lookup_insert_ne (lookup_erase_eq_some hy).1]
  omega

/-- Removing schedule `x` with its remaining amount takes `x`'s term off the sum. -/
theorem sumBy_reserveOf_remove (remaining : StorageMap Nat Nat) (hs : schedules.lookup x = some sch)
    (asset : AssetId) (who : AccountId) :
    sumBy (reserveOf (remaining.erase x) asset who) (schedules.erase x) +
        reserveOf remaining asset who x sch =
      sumBy (reserveOf remaining asset who) schedules := by
  rw [sumBy_reserveOf_congr remaining _ asset who fun y _ hy =>
      AList.lookup_erase_ne (lookup_erase_eq_some hy).1]
  exact sumBy_erase_of_lookup _ hs

/-- A schedule under a fresh id adds its own term. -/
theorem sumBy_reserveOf_add (remaining : StorageMap Nat Nat) (hfresh : schedules.lookup x = none)
    (v : Nat) (asset : AssetId) (who : AccountId) :
    sumBy (reserveOf (remaining.insert x v) asset who) (schedules.insert x sch) =
      sumBy (reserveOf remaining asset who) schedules +
        reserveOf (remaining.insert x v) asset who x sch := by
  rw [sumBy_insert_of_lookup_none _ sch hfresh,
    sumBy_reserveOf_congr remaining _ asset who fun y _ hy => AList.lookup_insert_ne fun hyx => by
      rw [hyx, hfresh] at hy
      cases hy]

end Sum

/-! ## The books -/

/-- The accounting of the named reserve, with what keeps it: every id is below the sequencer, and
the ownership index lists exactly the schedules under their owners. -/
structure ReserveBooks (s : State AccountId AssetId) : Prop where
  reserved : ∀ asset who, s.reserved.free asset who = scheduledReserve s asset who
  fresh : ∀ x sch, s.schedules.lookup x = some sch → x < s.scheduleIdSequencer
  owned : ∀ w x, (w, x) ∈ s.scheduleOwnership ↔ ∃ sch, s.schedules.lookup x = some sch ∧ sch.owner = w

/-- The storage the accounting reads. -/
def State.books (s : State AccountId AssetId) :
    Nat × StorageMap Nat (Schedule AccountId AssetId) × StorageMap (AccountId × Nat) Unit ×
      StorageMap Nat Nat × Balances AssetId AccountId :=
  (s.scheduleIdSequencer, s.schedules, s.scheduleOwnership, s.remainingAmounts, s.reserved)

variable {cfg : Config AccountId AssetId} {s s' : State AccountId AssetId} {x : Nat}
  {sch : Schedule AccountId AssetId}

theorem ReserveBooks.of_books (h : ReserveBooks s) (hb : s'.books = s.books) : ReserveBooks s' := by
  simp only [State.books, Prod.mk.injEq] at hb
  obtain ⟨hseq, hsch, hown, hrem, hres⟩ := hb
  refine ⟨fun asset who => ?_, fun y sch' hy => ?_, fun w y => ?_⟩
  · rw [hres, scheduledReserve, hsch, hrem]
    exact h.reserved asset who
  · rw [hseq]
    exact h.fresh y sch' (hsch ▸ hy)
  · rw [hown, hsch]
    exact h.owned w y

/-- A step that keeps the books keeps them with the schedules. -/
theorem ReserveBooks.keep (h : ReserveBooks s) (hb : s'.books = s.books) :
    ReserveBooks s' ∧ s'.schedules = s.schedules :=
  ⟨h.of_books hb, congrArg (fun b => b.2.1) hb⟩

theorem ReserveBooks.genesis (h : Genesis s) : ReserveBooks s where
  reserved asset who := by
    rw [h.reserved, scheduledReserve, h.schedules, sumBy_empty]
  fresh y sch' hy := by
    rw [h.schedules, AList.lookup_empty] at hy
    cases hy
  owned w y := by
    rw [h.scheduleOwnership, h.schedules, AList.lookup_empty]
    simp

/-! ## What leaves the books alone -/

omit [DecidableEq AccountId] [DecidableEq AssetId] in
variable (cfg) in
theorem planScheduleForBlock_books (b x : Nat) (rng : Rng) :
    (planScheduleForBlock cfg s b x rng).state.books = s.books := by
  rcases planScheduleForBlock_cases cfg b x rng with ⟨h, -⟩ | ⟨-, _, -, -, -, h⟩
  · rw [h]
  · rw [h]
    rfl

omit [DecidableEq AccountId] [DecidableEq AssetId] in
variable (cfg) in
theorem retrySchedule_books (x : Nat) (sch : Schedule AccountId AssetId) (n : Nat) (rng : Rng) :
    (retrySchedule cfg s x sch n rng).state.books = s.books := by
  rcases retrySchedule_cases cfg x sch n rng with ⟨h, -⟩ | ⟨k, ⟨h, -⟩ | ⟨b, -, h⟩⟩
  · rw [h]
  · rw [h]
    rfl
  · rw [h, planScheduleForBlock_books]
    rfl

omit [DecidableEq AccountId] [DecidableEq AssetId] in
variable (cfg) in
theorem incrementExtraGas_books (x : Nat) (sch : Schedule AccountId AssetId) :
    (incrementExtraGas cfg s x sch).books = s.books := by
  rcases incrementExtraGas_eq cfg x sch with h | ⟨g, h⟩
  · rw [h]
  · rw [h]
    rfl

/-! ## Spends and ends -/

/-- A spend takes the same amount off the schedule's remaining amount and its owner's reserve. -/
theorem ReserveBooks.unallocateAmount {a : Nat} (h : ReserveBooks s)
    (hs : s.schedules.lookup x = some sch) (hu : unallocateAmount s x sch a = .ok s') :
    ReserveBooks s' ∧ s'.schedules = s.schedules := by
  rcases unallocateAmount_eq_ok hu with ⟨-, rfl⟩ | ⟨r, hr, hle, hres, rfl⟩
  · exact ⟨h, rfl⟩
  · refine ⟨⟨fun asset who => ?_, h.fresh, h.owned⟩, rfl⟩
    have hsum := sumBy_reserveOf_insert s.remainingAmounts hs (r - a) asset who
    have hold := h.reserved asset who
    rw [reserveOf_of_lookup hr, reserveOf_of_lookup (AList.lookup_insert _)] at hsum
    unfold scheduledReserve at hold ⊢
    show (s.reserved.set _ _ _).free asset who = _
    rw [Balances.free_set]
    -- the schedule's term counts for its owner and sold asset only
    by_cases hm : asset = sch.order.getAssetIn ∧ who = sch.owner
    · obtain ⟨rfl, rfl⟩ := hm
      simp only [and_self, if_true] at hsum ⊢
      omega
    · have hm' : ¬(sch.owner = who ∧ sch.order.getAssetIn = asset) := fun ⟨h₁, h₂⟩ =>
        hm ⟨h₂.symm, h₁.symm⟩
      simp only [hm, hm', if_false, Nat.add_zero] at hsum ⊢
      omega

theorem ReserveBooks.takeTransactionFeeFromUser {w : Nat} (h : ReserveBooks s)
    (hs : s.schedules.lookup x = some sch)
    (hfee : takeTransactionFeeFromUser cfg s x sch w = .ok s') :
    ReserveBooks s' ∧ s'.schedules = s.schedules := by
  obtain ⟨a, s₁, free, hu, rfl⟩ := takeTransactionFeeFromUser_eq_ok cfg hfee
  obtain ⟨h₁, hs₁⟩ := h.unallocateAmount hs hu
  exact ⟨h₁.of_books rfl, hs₁⟩

theorem ReserveBooks.executeTrade {r : AmountInAndOut × State AccountId AssetId} (h : ReserveBooks s)
    (hs : s.schedules.lookup x = some sch) (htrade : executeTrade cfg s x sch = .ok r) :
    ReserveBooks r.2 ∧ r.2.schedules = s.schedules := by
  obtain ⟨a, s₁, free, hu, hr⟩ := executeTrade_eq_ok cfg htrade
  obtain ⟨h₁, hs₁⟩ := h.unallocateAmount hs hu
  rw [hr]
  exact ⟨h₁.of_books rfl, hs₁⟩

/-- `try_unreserve_all` gives back the remaining amount, all of which is reserved. -/
theorem ReserveBooks.tryUnreserveAll_reserved (h : ReserveBooks s)
    (hs : s.schedules.lookup x = some sch) (asset : AssetId) (who : AccountId) :
    (tryUnreserveAll s x sch).reserved.free asset who +
        (if asset = sch.order.getAssetIn ∧ who = sch.owner then (s.remainingAmounts.lookup x).getD 0
          else 0) =
      s.reserved.free asset who := by
  unfold tryUnreserveAll
  split
  · rename_i hnone
    simp [hnone]
  · rename_i r hr
    -- the schedule's own term is part of its owner's reserve
    have hle : r ≤ s.reserved.free sch.order.getAssetIn sch.owner := by
      rw [h.reserved, scheduledReserve]
      have := le_sumBy (reserveOf s.remainingAmounts sch.order.getAssetIn sch.owner) hs
      rwa [reserveOf_of_lookup hr, if_pos ⟨rfl, rfl⟩] at this
    rw [unreserveNamed_of_le hle, Balances.free_set, hr, Option.getD_some]
    split
    · rename_i hm
      obtain ⟨rfl, rfl⟩ := hm
      omega
    · rfl

/-- Ending a schedule keeps the books: its remaining amount leaves the reserve and the sum
together. -/
theorem ReserveBooks.terminateSchedule (h : ReserveBooks s) (hs : s.schedules.lookup x = some sch) :
    ReserveBooks (terminateSchedule s x sch) := by
  rw [terminateSchedule_eq]
  refine ⟨fun asset who => ?_, fun y sch' hy => h.fresh y sch' (lookup_erase_eq_some hy).2,
    fun w y => ?_⟩
  · have hsum := sumBy_reserveOf_remove s.remainingAmounts hs asset who
    have hback := h.tryUnreserveAll_reserved hs asset who
    have hold := h.reserved asset who
    unfold scheduledReserve at hold
    show (tryUnreserveAll s x sch).reserved.free asset who =
      sumBy (reserveOf (s.remainingAmounts.erase x) asset who) (s.schedules.erase x)
    rw [show reserveOf s.remainingAmounts asset who x sch =
      if sch.owner = who ∧ sch.order.getAssetIn = asset then (s.remainingAmounts.lookup x).getD 0
        else 0 from rfl] at hsum
    by_cases hm : asset = sch.order.getAssetIn ∧ who = sch.owner
    · obtain ⟨rfl, rfl⟩ := hm
      simp only [and_self, if_true] at hsum hback
      omega
    · have hm' : ¬(sch.owner = who ∧ sch.order.getAssetIn = asset) := fun ⟨h₁, h₂⟩ =>
        hm ⟨h₂.symm, h₁.symm⟩
      simp only [hm, hm', if_false, Nat.add_zero] at hsum hback
      omega
  · -- the owner's entry goes with the schedule, and no one else's was there
    show (w, y) ∈ s.scheduleOwnership.erase (sch.owner, x) ↔ _
    rw [AList.mem_erase, h.owned]
    constructor
    · rintro ⟨hne, sch', hy, rfl⟩
      have hyx : y ≠ x := by
        rintro rfl
        rw [hs] at hy
        cases hy
        exact hne rfl
      exact ⟨sch', by rwa [AList.lookup_erase_ne hyx], rfl⟩
    · rintro ⟨sch', hy, rfl⟩
      obtain ⟨hyx, hy⟩ := lookup_erase_eq_some hy
      exact ⟨fun heq => hyx (Prod.mk.inj heq).2, sch', hy, rfl⟩

/-! ## The hook -/

theorem ReserveBooks.prepareSchedule (h : ReserveBooks s) (hs : s.schedules.lookup x = some sch)
    (n w : Nat) (rng : Rng) :
    ReserveBooks (prepareSchedule cfg s n w x sch rng).state ∧
      (prepareSchedule cfg s n w x sch rng).state.schedules = s.schedules := by
  rcases prepareSchedule_cases cfg n w x sch rng with
    ⟨rng', hp⟩ | ⟨rng', hp⟩ | ⟨rng', e, -, -, hp⟩ | ⟨s₁, rng', hfee, hp | hp⟩ <;> rw [hp]
  · -- bumped
    rw [Outcome.failWith_state]
    exact h.keep (planScheduleForBlock_books cfg _ _ _)
  · -- out of gas on the fee
    rw [Outcome.failWith_state]
    exact h.keep ((retrySchedule_books cfg _ _ _ _).trans (incrementExtraGas_books cfg _ _))
  · exact ⟨h, rfl⟩
  · -- an unstable price after the fee
    obtain ⟨h₁, hs₁⟩ := h.takeTransactionFeeFromUser hs hfee
    rw [Outcome.failWith_state]
    obtain ⟨h₂, hs₂⟩ := h₁.keep (retrySchedule_books cfg _ _ _ _)
    exact ⟨h₂, hs₂.trans hs₁⟩
  · exact h.takeTransactionFeeFromUser hs hfee

theorem ReserveBooks.replanOrComplete (h : ReserveBooks s) (hs : s.schedules.lookup x = some sch)
    (n : Nat) (rng : Rng) :
    ReserveBooks (replanOrComplete cfg s x sch n rng).state ∧
      ((replanOrComplete cfg s x sch n rng).result ≠ .ok () →
        (replanOrComplete cfg s x sch n rng).state.schedules.lookup x = some sch) := by
  have hr : ReserveBooks { s with retriesOnError := s.retriesOnError.erase x } := h.of_books rfl
  rcases replanOrComplete_cases cfg x sch n rng with ⟨hst, -⟩ | ⟨hst, hres⟩ | ⟨b, -, ho⟩
  · rw [hst]
    exact ⟨hr, fun _ => hs⟩
  · rw [hst, hres, completeSchedule_eq_terminateSchedule]
    exact ⟨hr.terminateSchedule hs, fun hne => absurd rfl hne⟩
  · rw [ho]
    obtain ⟨h₁, hs₁⟩ := hr.keep (planScheduleForBlock_books cfg b x rng)
    exact ⟨h₁, fun _ => by rw [hs₁]; exact hs⟩

theorem ReserveBooks.afterFailedTrade (h : ReserveBooks s) (hs : s.schedules.lookup x = some sch)
    (n : Nat) (rng : Rng) (e : Error) :
    ReserveBooks (afterFailedTrade cfg s x sch n rng e).1 := by
  rcases afterFailedTrade_cases cfg x sch n rng e with hc | ⟨s₁, hs₁, ht | ⟨-, hr⟩ | ⟨-, ht⟩⟩
  · rw [hc, completeSchedule_eq_terminateSchedule]
    exact h.terminateSchedule hs
  all_goals
    -- out of gas raises the extra gas first, which the books do not read
    obtain ⟨h₁, hsch₁⟩ : ReserveBooks s₁ ∧ s₁.schedules = s.schedules := by
      rcases hs₁ with rfl | rfl
      · exact ⟨h, rfl⟩
      · exact h.keep (incrementExtraGas_books cfg _ _)
  · rw [ht]
    exact h₁.terminateSchedule (hsch₁ ▸ hs)
  · rw [hr]
    exact h₁.of_books (retrySchedule_books cfg _ _ _ _)
  · rw [ht]
    obtain ⟨h₂, hsch₂⟩ := h₁.keep (retrySchedule_books cfg x sch n rng)
    exact h₂.terminateSchedule (hsch₂ ▸ hsch₁ ▸ hs)

/-- One id of the block's list, through every exit of the hook. -/
theorem ReserveBooks.executeSchedule (n : Nat) (acc : State AccountId AssetId × Rng) (x : Nat)
    (h : ReserveBooks acc.1) : ReserveBooks (Dca.executeSchedule cfg n acc x).1 := by
  unfold Dca.executeSchedule
  split
  · exact h
  · rename_i sch hs
    obtain ⟨hp, hps⟩ :=
      h.prepareSchedule hs n (getTradeWeight cfg acc.1 sch.order (some x)) acc.2
    have hs₁ := hps ▸ hs
    dsimp only
    split
    · -- prepared: handed back, or ended
      split_ifs
      · exact hp
      · exact hp.terminateSchedule hs₁
    · split
      · -- traded: replanned or completed, or ended when that fails
        rename_i s₂ htrade
        obtain ⟨h₂, hs₂⟩ := hp.executeTrade hs₁ htrade
        obtain ⟨h₃, hs₃⟩ := h₂.replanOrComplete (hs₂ ▸ hs₁) n (Dca.prepareSchedule cfg acc.1 n
          (getTradeWeight cfg acc.1 sch.order (some x)) x sch acc.2).rng
        split
        · exact h₃
        · rename_i herr
          exact h₃.terminateSchedule (hs₃ (by rw [herr]; simp))
      · exact hp.afterFailedTrade hs₁ _ _ _

theorem ReserveBooks.foldl_executeSchedule (n : Nat) :
    ∀ (ids : List Nat) (acc : State AccountId AssetId × Rng), ReserveBooks acc.1 →
      ReserveBooks (ids.foldl (Dca.executeSchedule cfg n) acc).1
  | [], _, h => h
  | x :: ids, acc, h => ReserveBooks.foldl_executeSchedule n ids _ (h.executeSchedule n acc x)

variable (cfg) in
theorem ReserveBooks.onInitialize (h : ReserveBooks s) (n : Nat) :
    ReserveBooks (Dca.onInitialize cfg s n) := by
  unfold Dca.onInitialize
  exact ReserveBooks.foldl_executeSchedule n _ _ (h.of_books rfl)

/-! ## The calls -/

/-- A new schedule reserves its budget under an id no schedule has. -/
theorem ReserveBooks.schedule {who : AccountId} {start : Option Nat} (h : ReserveBooks s)
    (hok : schedule cfg s who sch start = .ok s') : ReserveBooks s' := by
  obtain ⟨rfl, -, amount, free, b, rng, s₁, -, hfree, rfl, -, rfl⟩ := schedule_eq_ok cfg hok
  refine ReserveBooks.of_books ?_ (planScheduleForBlock_books cfg _ _ _)
  have hfresh : s.schedules.lookup s.scheduleIdSequencer = none := by
    cases hx : s.schedules.lookup s.scheduleIdSequencer with
    | none => rfl
    | some sch' => exact absurd (h.fresh _ _ hx) (lt_irrefl _)
  refine ⟨fun asset who => ?_, fun y sch' hy => ?_, fun w y => ?_⟩
  · show (s.reserved.deposit _ _ _).free asset who = sumBy _ (s.schedules.insert _ _)
    rw [Balances.free_deposit, sumBy_reserveOf_add s.remainingAmounts hfresh, h.reserved asset who,
      scheduledReserve, reserveOf_of_lookup (AList.lookup_insert _)]
    by_cases hm : asset = sch.order.getAssetIn ∧ who = sch.owner
    · obtain ⟨rfl, rfl⟩ := hm
      simp
    · have hm' : ¬(sch.owner = who ∧ sch.order.getAssetIn = asset) := fun ⟨h₁, h₂⟩ =>
        hm ⟨h₂.symm, h₁.symm⟩
      simp only [hm, hm', if_false]
  · rcases lookup_insert_eq_some hy with ⟨rfl, -⟩ | ⟨-, hy⟩
    · exact Nat.lt_succ_self _
    · exact Nat.lt_succ_of_lt (h.fresh y sch' hy)
  · show (w, y) ∈ s.scheduleOwnership.insert _ () ↔ _
    rw [AList.mem_insert, h.owned]
    constructor
    · rintro (heq | ⟨sch', hy, rfl⟩)
      · obtain ⟨rfl, rfl⟩ := Prod.mk.inj heq
        exact ⟨sch, AList.lookup_insert _, rfl⟩
      · have hyx : y ≠ s.scheduleIdSequencer := fun hyx => by
          rw [hyx, hfresh] at hy
          cases hy
        exact ⟨sch', by rwa [AList.lookup_insert_ne hyx], rfl⟩
    · rintro ⟨sch', hy, rfl⟩
      rcases lookup_insert_eq_some hy with ⟨rfl, rfl⟩ | ⟨-, hy⟩
      · exact .inl rfl
      · exact .inr ⟨sch', hy, rfl⟩

/-- `unlock_reserves` never goes through: an account without schedules has nothing reserved. -/
theorem ReserveBooks.unlockReserves_ne_ok (h : ReserveBooks s) (who : AccountId) (asset : AssetId) :
    unlockReserves s who asset ≠ .ok s' := by
  intro hok
  unfold unlockReserves at hok
  simp only [bind_eq_ok, ensure_eq_ok] at hok
  obtain ⟨_, hnone, _, hpos, -⟩ := hok
  apply hpos
  rw [h.reserved, scheduledReserve]
  apply sumBy_eq_zero
  intro y sch' hy
  have hother : sch'.owner ≠ who := fun howner =>
    hnone (sch'.owner, y) (AList.mem_keys.mp ((h.owned _ _).mpr ⟨sch', hy, rfl⟩)) howner
  simp [reserveOf, hother]

theorem ReserveBooks.step (h : ReserveBooks s) (c : Call AccountId AssetId)
    (hok : step cfg c s = .ok s') : ReserveBooks s' := by
  cases c with
  | schedule who sch start => exact h.schedule hok
  | terminate origin x next =>
    obtain ⟨sch, b, ids, idx, hs, -, -, -, rfl⟩ := terminate_eq_ok hok
    exact (h.terminateSchedule hs).of_books rfl
  | unlockReserves who asset => exact absurd hok (h.unlockReserves_ne_ok who asset)
  | newBlock =>
    obtain rfl := Except.ok.inj hok
    have h₁ : ReserveBooks { s with blockNumber := s.blockNumber + 1 } := h.of_books rfl
    exact h₁.onInitialize cfg _

theorem reserve_accounting (cfg : Config AccountId AssetId)
    (hreach : Reachable Genesis (step cfg) s) (asset : AssetId) (who : AccountId) :
    s.reserved.free asset who = scheduledReserve s asset who :=
  (hreach.induction (fun _ h => ReserveBooks.genesis h) fun c _ _ h hok => h.step c hok).reserved
    asset who

theorem exampleGenesis_genesis : Genesis exampleGenesis :=
  ⟨rfl, rfl, rfl, fun _ _ => rfl⟩

/-- Account seven schedules sales of asset one for asset two, a block passes, and it
terminates. -/
def dcaRun : List (Call Nat Nat) :=
  [.schedule 7 ⟨7, 10, 100000, none, none, none, .sell 1 2 20000 0 []⟩ none, .newBlock, .newBlock,
   .newBlock, .schedule 7 ⟨7, 5, 0, some 2, none, none, .buy 1 2 5000 6000 []⟩ (some 12),
   .newBlock, .terminate (.signed 7) 0 none, .newBlock]

theorem reserve_accounting_dcaRun :
    (Frame.run (step exampleConfig) dcaRun exampleGenesis).reserved.free 1 7 =
      scheduledReserve (Frame.run (step exampleConfig) dcaRun exampleGenesis) 1 7 :=
  reserve_accounting exampleConfig (Frame.reachable_run dcaRun (.init exampleGenesis_genesis)) 1 7

end Hydration.Dca
