import Hydration.Dca.Reserves

/-!
# Every schedule is planned exactly once

In every state reached from an empty genesis, each schedule is listed exactly once over all the
lists of blocks, in the list of its execution block, which is still to come, and no list holds
more than `MaxSchedulePerBlock` ids; and a block's `on_initialize` leaves every schedule it took
from the block's list either gone from every storage or planned again exactly once at a later
block (`schedules_planned_once`).

The hook takes the ids one at a time. A step at schedule `x` leaves every other schedule as it
was (`Local`), and takes `x` from `Waiting` (taken from its list, not planned) to `Settled`
(removed or planned once), whichever of its exits it goes through (`executeSchedule_settled`):
every exit that plans the schedule does so last, and every exit that does not ends it.
-/

namespace Hydration.Dca

open Frame Frame.StorageMap

variable {AccountId AssetId : Type} [DecidableEq AccountId] [DecidableEq AssetId]

/-- How many times `x` is listed, over the lists of all blocks. -/
def listedCount (s : State AccountId AssetId) (x : Nat) : Nat :=
  sumBy (fun _ ids => ids.count x) s.scheduleIdsPerBlock

/-- Schedule `x` is planned: listed exactly once over all the lists, in the list of its execution
block, which is still to come. -/
def PlannedOnce (s : State AccountId AssetId) (x : Nat) : Prop :=
  ∃ b, s.scheduleExecutionBlock.lookup x = some b ∧ s.blockNumber < b ∧ x ∈ s.idsAt b ∧
    listedCount s x = 1

/-- Schedule `x` is gone from every storage of the pallet. -/
def Removed (s : State AccountId AssetId) (x : Nat) : Prop :=
  s.schedules.lookup x = none ∧ (∀ w, (w, x) ∉ s.scheduleOwnership) ∧
    s.remainingAmounts.lookup x = none ∧ s.retriesOnError.lookup x = none ∧
    s.scheduleExecutionBlock.lookup x = none ∧ s.scheduleExtraGas.lookup x = none ∧
    listedCount s x = 0

/-! ## Counting in the lists -/

section Lists

variable (M : StorageMap Nat (List Nat)) (b y : Nat)

omit [DecidableEq AccountId] [DecidableEq AssetId] in
theorem at?_count : at? (fun _ (ids : List Nat) => ids.count y) M b = ((M.lookup b).getD []).count y := by
  unfold at?
  split
  · rename_i ids h
    rw [h, Option.getD_some]
  · rename_i h
    rw [h, Option.getD_none, List.count_nil]

omit [DecidableEq AccountId] [DecidableEq AssetId] in
theorem sumBy_count_insert (l : List Nat) :
    sumBy (fun _ ids => ids.count y) (M.insert b l) + ((M.lookup b).getD []).count y =
      sumBy (fun _ ids => ids.count y) M + l.count y := by
  have h := sumBy_insert_add (fun _ (ids : List Nat) => ids.count y) M b l
  rwa [at?_count] at h

omit [DecidableEq AccountId] [DecidableEq AssetId] in
theorem sumBy_count_erase :
    sumBy (fun _ ids => ids.count y) (M.erase b) + ((M.lookup b).getD []).count y =
      sumBy (fun _ ids => ids.count y) M := by
  have h := sumBy_erase_add (fun _ (ids : List Nat) => ids.count y) M b
  rwa [at?_count] at h

omit [DecidableEq AccountId] [DecidableEq AssetId] in
theorem count_le_listedCount (s : State AccountId AssetId) (x : Nat) :
    (s.idsAt b).count x ≤ listedCount s x := by
  have h := sumBy_count_erase s.scheduleIdsPerBlock b x
  unfold State.idsAt listedCount
  omega

omit [DecidableEq AccountId] [DecidableEq AssetId] in
theorem getD_lookup_insert (l : List Nat) (c : Nat) :
    ((M.insert b l).lookup c).getD [] = if c = b then l else (M.lookup c).getD [] := by
  split
  · rename_i h
    rw [h, AList.lookup_insert, Option.getD_some]
  · rename_i h
    rw [AList.lookup_insert_ne h]

omit [DecidableEq AccountId] [DecidableEq AssetId] in
theorem getD_lookup_erase (c : Nat) :
    ((M.erase b).lookup c).getD [] = if c = b then [] else (M.lookup c).getD [] := by
  split
  · rename_i h
    rw [h, AList.lookup_erase, Option.getD_none]
  · rename_i h
    rw [AList.lookup_erase_ne h]

variable {ids : List Nat}

omit [DecidableEq AccountId] [DecidableEq AssetId] in
/-- The lists after `x` is taken out of block `b`'s, which goes when it is left empty. -/
theorem getD_lookup_takeOut (x c : Nat) :
    ((if (ids.erase x).isEmpty then M.erase b else M.insert b (ids.erase x)).lookup c).getD [] =
      if c = b then ids.erase x else (M.lookup c).getD [] := by
  split
  · rename_i hempty
    rw [getD_lookup_erase, List.isEmpty_iff.mp hempty]
  · exact getD_lookup_insert M b (ids.erase x) c

omit [DecidableEq AccountId] [DecidableEq AssetId] in
theorem sumBy_count_takeOut (x : Nat) (hb : M.lookup b = some ids) :
    sumBy (fun _ l => l.count y)
        (if (ids.erase x).isEmpty then M.erase b else M.insert b (ids.erase x)) + ids.count y =
      sumBy (fun _ l => l.count y) M + (ids.erase x).count y := by
  have hids : (M.lookup b).getD [] = ids := by rw [hb, Option.getD_some]
  split
  · rename_i hempty
    have h := sumBy_count_erase M b y
    rw [hids] at h
    rw [List.isEmpty_iff.mp hempty, List.count_nil]
    omega
  · have h := sumBy_count_insert M b y (ids.erase x)
    rwa [hids] at h

/-- The first index of `x` in a list is where `erase` removes it. -/
theorem eraseIdx_of_findIdx? {l : List Nat} {x i : Nat} (h : l.findIdx? (· == x) = some i) :
    l.eraseIdx i = l.erase x ∧ x ∈ l := by
  obtain ⟨-, hfind⟩ := List.findIdx?_eq_some_iff_findIdx_eq.mp h
  obtain ⟨hi, hx, -⟩ := List.findIdx?_eq_some_iff_getElem.mp h
  refine ⟨?_, ?_⟩
  · rw [← hfind]
    exact List.eraseIdx_idxOf_eq_erase x l
  · rw [← beq_iff_eq.mp hx]
    exact List.getElem_mem hi

end Lists

/-! ## Steps local to one schedule -/

/-- What a step of the hook at schedule `x` leaves of every other schedule: its entries and its
place in the lists; and no list grows past `m` that was within it. -/
structure Local (m x : Nat) (s s' : State AccountId AssetId) : Prop where
  blockNumber : s'.blockNumber = s.blockNumber
  schedules : ∀ y, y ≠ x → s'.schedules.lookup y = s.schedules.lookup y
  ownership : ∀ w y, y ≠ x → ((w, y) ∈ s'.scheduleOwnership ↔ (w, y) ∈ s.scheduleOwnership)
  remaining : ∀ y, y ≠ x → s'.remainingAmounts.lookup y = s.remainingAmounts.lookup y
  retries : ∀ y, y ≠ x → s'.retriesOnError.lookup y = s.retriesOnError.lookup y
  executionBlock : ∀ y, y ≠ x →
    s'.scheduleExecutionBlock.lookup y = s.scheduleExecutionBlock.lookup y
  extraGas : ∀ y, y ≠ x → s'.scheduleExtraGas.lookup y = s.scheduleExtraGas.lookup y
  listed : ∀ y, y ≠ x → listedCount s' y = listedCount s y
  mem : ∀ y c, y ≠ x → (y ∈ s'.idsAt c ↔ y ∈ s.idsAt c)
  length : ∀ c, (s'.idsAt c).length ≤ max (s.idsAt c).length m

variable {cfg : Config AccountId AssetId} {m x y : Nat} {s s' s₁ : State AccountId AssetId}
  {sch : Schedule AccountId AssetId}

omit [DecidableEq AccountId] [DecidableEq AssetId] in
theorem Local.refl (m x : Nat) (s : State AccountId AssetId) : Local m x s s :=
  ⟨rfl, fun _ _ => rfl, fun _ _ _ => Iff.rfl, fun _ _ => rfl, fun _ _ => rfl, fun _ _ => rfl,
    fun _ _ => rfl, fun _ _ => rfl, fun _ _ _ => Iff.rfl, fun _ => le_max_left _ _⟩

omit [DecidableEq AccountId] [DecidableEq AssetId] in
theorem Local.trans (h₁ : Local m x s s₁) (h₂ : Local m x s₁ s') : Local m x s s' where
  blockNumber := h₂.blockNumber.trans h₁.blockNumber
  schedules y hy := (h₂.schedules y hy).trans (h₁.schedules y hy)
  ownership w y hy := (h₂.ownership w y hy).trans (h₁.ownership w y hy)
  remaining y hy := (h₂.remaining y hy).trans (h₁.remaining y hy)
  retries y hy := (h₂.retries y hy).trans (h₁.retries y hy)
  executionBlock y hy := (h₂.executionBlock y hy).trans (h₁.executionBlock y hy)
  extraGas y hy := (h₂.extraGas y hy).trans (h₁.extraGas y hy)
  listed y hy := (h₂.listed y hy).trans (h₁.listed y hy)
  mem y c hy := (h₂.mem y c hy).trans (h₁.mem y c hy)
  length c := by
    have h₁c := h₁.length c
    have h₂c := h₂.length c
    omega

omit [DecidableEq AccountId] [DecidableEq AssetId] in
/-- A step that leaves the lists alone and writes the entries of `x` only is local to `x`. -/
theorem Local.of_entries (hbn : s'.blockNumber = s.blockNumber)
    (hlists : s'.scheduleIdsPerBlock = s.scheduleIdsPerBlock)
    (hsch : ∀ y, y ≠ x → s'.schedules.lookup y = s.schedules.lookup y)
    (hown : ∀ w y, y ≠ x → ((w, y) ∈ s'.scheduleOwnership ↔ (w, y) ∈ s.scheduleOwnership))
    (hrem : ∀ y, y ≠ x → s'.remainingAmounts.lookup y = s.remainingAmounts.lookup y)
    (hret : ∀ y, y ≠ x → s'.retriesOnError.lookup y = s.retriesOnError.lookup y)
    (hexec : ∀ y, y ≠ x → s'.scheduleExecutionBlock.lookup y = s.scheduleExecutionBlock.lookup y)
    (hgas : ∀ y, y ≠ x → s'.scheduleExtraGas.lookup y = s.scheduleExtraGas.lookup y) :
    Local m x s s' where
  blockNumber := hbn
  schedules := hsch
  ownership := hown
  remaining := hrem
  retries := hret
  executionBlock := hexec
  extraGas := hgas
  listed y _ := by
    unfold listedCount
    rw [hlists]
  mem y c _ := by
    unfold State.idsAt
    rw [hlists]
  length c := by
    unfold State.idsAt
    rw [hlists]
    exact le_max_left _ _

omit [DecidableEq AccountId] [DecidableEq AssetId] in
theorem Local.withFree (m x : Nat) (s : State AccountId AssetId) (free : Balances AssetId AccountId) :
    Local m x s { s with free } :=
  Local.of_entries rfl rfl (fun _ _ => rfl) (fun _ _ _ => Iff.rfl) (fun _ _ => rfl)
    (fun _ _ => rfl) (fun _ _ => rfl) (fun _ _ => rfl)

omit [DecidableEq AccountId] [DecidableEq AssetId] in
theorem Local.retries_insert (m x k : Nat) (s : State AccountId AssetId) :
    Local m x s { s with retriesOnError := s.retriesOnError.insert x k } :=
  Local.of_entries rfl rfl (fun _ _ => rfl) (fun _ _ _ => Iff.rfl) (fun _ _ => rfl)
    (fun _ hy => AList.lookup_insert_ne hy) (fun _ _ => rfl) (fun _ _ => rfl)

omit [DecidableEq AccountId] [DecidableEq AssetId] in
theorem Local.retries_erase (m x : Nat) (s : State AccountId AssetId) :
    Local m x s { s with retriesOnError := s.retriesOnError.erase x } :=
  Local.of_entries rfl rfl (fun _ _ => rfl) (fun _ _ _ => Iff.rfl) (fun _ _ => rfl)
    (fun _ hy => AList.lookup_erase_ne hy) (fun _ _ => rfl) (fun _ _ => rfl)

theorem Local.unallocateAmount {a : Nat} (h : unallocateAmount s x sch a = .ok s') :
    Local m x s s' := by
  rcases unallocateAmount_eq_ok h with ⟨-, rfl⟩ | ⟨r, -, -, -, rfl⟩
  · exact Local.refl m x _
  · exact Local.of_entries rfl rfl (fun _ _ => rfl) (fun _ _ _ => Iff.rfl)
      (fun _ hy => AList.lookup_insert_ne hy) (fun _ _ => rfl) (fun _ _ => rfl) (fun _ _ => rfl)

theorem Local.takeTransactionFeeFromUser {w : Nat}
    (h : takeTransactionFeeFromUser cfg s x sch w = .ok s') : Local m x s s' := by
  obtain ⟨a, s₁, free, hu, rfl⟩ := takeTransactionFeeFromUser_eq_ok cfg h
  exact (Local.unallocateAmount hu).trans (Local.withFree m x s₁ free)

theorem Local.executeTrade {r : AmountInAndOut × State AccountId AssetId}
    (h : executeTrade cfg s x sch = .ok r) : Local m x s r.2 := by
  obtain ⟨a, s₁, free, hu, hr⟩ := executeTrade_eq_ok cfg h
  rw [hr]
  exact (Local.unallocateAmount hu).trans (Local.withFree m x s₁ free)

omit [DecidableEq AccountId] [DecidableEq AssetId] in
variable (cfg) in
theorem Local.incrementExtraGas (m : Nat) (s : State AccountId AssetId) (x : Nat)
    (sch : Schedule AccountId AssetId) : Local m x s (incrementExtraGas cfg s x sch) := by
  rcases incrementExtraGas_eq cfg x sch with h | ⟨g, h⟩ <;> rw [h]
  · exact Local.refl m x s
  · exact Local.of_entries rfl rfl (fun _ _ => rfl) (fun _ _ _ => Iff.rfl) (fun _ _ => rfl)
      (fun _ _ => rfl) (fun _ _ => rfl) (fun _ hy => AList.lookup_insert_ne hy)

omit [DecidableEq AccountId] [DecidableEq AssetId] in
variable (cfg) in
/-- A planning lists `x` and no other id, in a list with room. -/
theorem Local.planScheduleForBlock (s : State AccountId AssetId) (b x : Nat) (rng : Rng) :
    Local cfg.maxSchedulePerBlock x s (planScheduleForBlock cfg s b x rng).state := by
  rcases planScheduleForBlock_cases cfg b x rng with ⟨h, -⟩ | ⟨-, nb, -, -, hroom, h⟩ <;> rw [h]
  · exact Local.refl _ x s
  · refine ⟨rfl, fun _ _ => rfl, fun _ _ _ => Iff.rfl, fun _ _ => rfl, fun _ _ => rfl,
      fun _ hy => AList.lookup_insert_ne hy, fun _ _ => rfl, fun y hy => ?_, fun y c hy => ?_,
      fun c => ?_⟩
    · -- the appended `x` does not count for `y`
      have h : sumBy (fun _ ids => ids.count y) (s.scheduleIdsPerBlock.insert nb (s.idsAt nb ++ [x])) +
          (s.idsAt nb).count y = listedCount s y + (s.idsAt nb ++ [x]).count y :=
        sumBy_count_insert s.scheduleIdsPerBlock nb y (s.idsAt nb ++ [x])
      have hc : (s.idsAt nb ++ [x]).count y = (s.idsAt nb).count y := by
        simp [List.count_append, Ne.symm hy]
      show sumBy (fun _ ids => ids.count y) (s.scheduleIdsPerBlock.insert nb (s.idsAt nb ++ [x])) = _
      omega
    · show y ∈ ((s.scheduleIdsPerBlock.insert nb _).lookup c).getD [] ↔ _
      rw [getD_lookup_insert]
      split
      · rename_i hc
        subst hc
        simp [hy]
      · rfl
    · show (((s.scheduleIdsPerBlock.insert nb _).lookup c).getD []).length ≤ _
      rw [getD_lookup_insert]
      split
      · rename_i hc
        subst hc
        rw [List.length_append, List.length_singleton]
        omega
      · exact le_max_left _ _

theorem Local.terminateSchedule (m x : Nat) (s : State AccountId AssetId)
    (sch : Schedule AccountId AssetId) : Local m x s (terminateSchedule s x sch) := by
  rw [terminateSchedule_eq]
  refine Local.of_entries rfl rfl (fun _ hy => AList.lookup_erase_ne hy) (fun w y hy => ?_)
    (fun _ hy => AList.lookup_erase_ne hy) (fun _ hy => AList.lookup_erase_ne hy)
    (fun _ hy => AList.lookup_erase_ne hy) (fun _ hy => AList.lookup_erase_ne hy)
  show (w, y) ∈ s.scheduleOwnership.erase (sch.owner, x) ↔ _
  rw [AList.mem_erase]
  exact ⟨fun h => h.2, fun h => ⟨fun heq => hy (Prod.mk.inj heq).2, h⟩⟩

omit [DecidableEq AccountId] [DecidableEq AssetId] in
variable (cfg) in
theorem Local.retrySchedule (s : State AccountId AssetId) (x : Nat) (sch : Schedule AccountId AssetId)
    (n : Nat) (rng : Rng) :
    Local cfg.maxSchedulePerBlock x s (retrySchedule cfg s x sch n rng).state := by
  rcases retrySchedule_cases cfg x sch n rng with ⟨h, -⟩ | ⟨k, ⟨h, -⟩ | ⟨b, -, h⟩⟩ <;> rw [h]
  · exact Local.refl _ x s
  · exact Local.retries_insert _ x k s
  · exact (Local.retries_insert _ x k s).trans (Local.planScheduleForBlock cfg _ b x rng)

variable (cfg) in
theorem Local.prepareSchedule (s : State AccountId AssetId) (n w x : Nat)
    (sch : Schedule AccountId AssetId) (rng : Rng) :
    Local cfg.maxSchedulePerBlock x s (prepareSchedule cfg s n w x sch rng).state := by
  rcases prepareSchedule_cases cfg n w x sch rng with
    ⟨rng', hp⟩ | ⟨rng', hp⟩ | ⟨rng', e, -, -, hp⟩ | ⟨s₁, rng', hfee, hp | hp⟩ <;>
    rw [hp] <;> try rw [Outcome.failWith_state]
  · exact Local.planScheduleForBlock cfg s _ x rng'
  · exact (Local.incrementExtraGas cfg _ s x sch).trans (Local.retrySchedule cfg _ x sch n rng')
  · exact Local.refl _ x s
  · exact (Local.takeTransactionFeeFromUser hfee).trans (Local.retrySchedule cfg s₁ x sch n rng')
  · exact Local.takeTransactionFeeFromUser hfee

variable (cfg) in
theorem Local.replanOrComplete (s : State AccountId AssetId) (x : Nat)
    (sch : Schedule AccountId AssetId) (n : Nat) (rng : Rng) :
    Local cfg.maxSchedulePerBlock x s (replanOrComplete cfg s x sch n rng).state := by
  have h₀ := Local.retries_erase cfg.maxSchedulePerBlock x s
  rcases replanOrComplete_cases cfg x sch n rng with ⟨h, -⟩ | ⟨h, -⟩ | ⟨b, -, h⟩ <;> rw [h]
  · exact h₀
  · exact h₀.trans (Local.terminateSchedule _ x _ sch)
  · exact h₀.trans (Local.planScheduleForBlock cfg _ b x rng)

variable (cfg) in
theorem Local.afterFailedTrade (s : State AccountId AssetId) (x : Nat)
    (sch : Schedule AccountId AssetId) (n : Nat) (rng : Rng) (e : Error) :
    Local cfg.maxSchedulePerBlock x s (afterFailedTrade cfg s x sch n rng e).1 := by
  rcases afterFailedTrade_cases cfg x sch n rng e with h | ⟨s₁, hs₁, h | ⟨-, h⟩ | ⟨-, h⟩⟩
  · rw [h]
    exact Local.terminateSchedule _ x s sch
  all_goals
    have h₁ : Local cfg.maxSchedulePerBlock x s s₁ := by
      rcases hs₁ with rfl | rfl
      · exact Local.refl _ x _
      · exact Local.incrementExtraGas cfg _ s x sch
    rw [h]
  · exact h₁.trans (Local.terminateSchedule _ x s₁ sch)
  · exact h₁.trans (Local.retrySchedule cfg s₁ x sch n rng)
  · exact (h₁.trans (Local.retrySchedule cfg s₁ x sch n rng)).trans (Local.terminateSchedule _ x _ sch)

variable (cfg) in
/-- Taking one id through the hook is local to it. -/
theorem Local.executeSchedule (n : Nat) (acc : State AccountId AssetId × Rng) (x : Nat) :
    Local cfg.maxSchedulePerBlock x acc.1 (Dca.executeSchedule cfg n acc x).1 := by
  unfold Dca.executeSchedule
  split
  · exact Local.refl _ x _
  · rename_i sch _
    have hp := Local.prepareSchedule cfg acc.1 n (getTradeWeight cfg acc.1 sch.order (some x)) x sch
      acc.2
    dsimp only
    split
    · split_ifs
      · exact hp
      · exact hp.trans (Local.terminateSchedule _ x _ sch)
    · split
      · rename_i s₂ htrade
        have h₂ := hp.trans (Local.executeTrade htrade)
        have h₃ := h₂.trans (Local.replanOrComplete cfg s₂ x sch n (Dca.prepareSchedule cfg acc.1 n
          (getTradeWeight cfg acc.1 sch.order (some x)) x sch acc.2).rng)
        split
        · exact h₃
        · exact h₃.trans (Local.terminateSchedule _ x _ sch)
      · exact hp.trans (Local.afterFailedTrade cfg _ x sch n _ _)

omit [DecidableEq AccountId] [DecidableEq AssetId] in
theorem Local.plannedOnce (h : Local m x s s') (hy : y ≠ x) (hp : PlannedOnce s y) :
    PlannedOnce s' y := by
  obtain ⟨b, hb, hlt, hmem, hcount⟩ := hp
  exact ⟨b, (h.executionBlock y hy).trans hb, h.blockNumber ▸ hlt, (h.mem y b hy).mpr hmem,
    (h.listed y hy).trans hcount⟩

omit [DecidableEq AccountId] [DecidableEq AssetId] in
theorem Local.removed (h : Local m x s s') (hy : y ≠ x) (hr : Removed s y) : Removed s' y := by
  obtain ⟨hsch, hown, hrem, hret, hexec, hgas, hcount⟩ := hr
  exact ⟨(h.schedules y hy).trans hsch, fun w hw => hown w ((h.ownership w y hy).mp hw),
    (h.remaining y hy).trans hrem, (h.retries y hy).trans hret, (h.executionBlock y hy).trans hexec,
    (h.extraGas y hy).trans hgas, (h.listed y hy).trans hcount⟩

/-! ## The schedule the hook takes -/

/-- Schedule `x` has been taken from its block's list and not yet planned again. -/
def Waiting (s : State AccountId AssetId) (x : Nat) (sch : Schedule AccountId AssetId) : Prop :=
  s.schedules.lookup x = some sch ∧ listedCount s x = 0

/-- Schedule `x` is where the hook leaves it: gone from every storage, or still there and planned
exactly once. -/
def Settled (s : State AccountId AssetId) (x : Nat) (sch : Schedule AccountId AssetId) : Prop :=
  Removed s x ∨ (s.schedules.lookup x = some sch ∧ PlannedOnce s x)

/-- The errors with which `prepare_schedule` hands back a schedule the hook passes over. -/
def HandedBack (cfg : Config AccountId AssetId) (e : Error) : Prop :=
  e = .priceUnstable ∨ e = .bumped ∨ e = cfg.outOfGas

omit [DecidableEq AccountId] [DecidableEq AssetId] in
theorem Waiting.of_eq (hw : Waiting s x sch) (hsch : s'.schedules = s.schedules)
    (hlists : s'.scheduleIdsPerBlock = s.scheduleIdsPerBlock) : Waiting s' x sch := by
  unfold Waiting listedCount at hw ⊢
  rw [hsch, hlists]
  exact hw

/-- Ending a schedule empties every entry of it, the ownership index included, which has it under
its owner only; what is left of it is its places in the lists. -/
theorem terminateSchedule_removed (hb : ReserveBooks s) (hs : s.schedules.lookup x = some sch)
    (L : StorageMap Nat (List Nat)) (hl : sumBy (fun _ ids => ids.count x) L = 0) :
    Removed { terminateSchedule s x sch with scheduleIdsPerBlock := L } x := by
  rw [terminateSchedule_eq]
  refine ⟨AList.lookup_erase _ _, fun w hw' => ?_, AList.lookup_erase _ _, AList.lookup_erase _ _,
    AList.lookup_erase _ _, AList.lookup_erase _ _, hl⟩
  change (w, x) ∈ s.scheduleOwnership.erase (sch.owner, x) at hw'
  rw [AList.mem_erase, hb.owned] at hw'
  obtain ⟨hne, sch', hx, rfl⟩ := hw'
  rw [hs] at hx
  cases hx
  exact hne rfl

theorem terminateSchedule_scheduleIdsPerBlock :
    (terminateSchedule s x sch).scheduleIdsPerBlock = s.scheduleIdsPerBlock := by
  rw [terminateSchedule_eq]

/-- A schedule ended while waiting is gone from every storage. -/
theorem Removed.terminateSchedule (hb : ReserveBooks s) (hw : Waiting s x sch) :
    Removed (terminateSchedule s x sch) x := by
  have hl : listedCount (Dca.terminateSchedule s x sch) x = 0 := by
    unfold listedCount
    rw [terminateSchedule_scheduleIdsPerBlock]
    exact hw.2
  exact terminateSchedule_removed hb hw.1 _ hl

omit [DecidableEq AccountId] [DecidableEq AssetId] in
variable (cfg) in
/-- A planning of a waiting schedule at a `u32` block plans it once, or writes nothing. -/
theorem planScheduleForBlock_waiting {b : Nat} (hw : Waiting s x sch) (hb : b ≤ Word.max 32)
    (rng : Rng) :
    ((planScheduleForBlock cfg s b x rng).result = .ok () ∧
        Settled (planScheduleForBlock cfg s b x rng).state x sch) ∨
      (∃ e, (planScheduleForBlock cfg s b x rng).result = .error e ∧ ¬ HandedBack cfg e ∧
        (planScheduleForBlock cfg s b x rng).state = s) := by
  rcases planScheduleForBlock_cases cfg b x rng with
    ⟨hst, e, hres, he⟩ | ⟨hres, nb, hlt, hle, -, hst⟩
  · refine .inr ⟨e, hres, ?_, hst⟩
    rcases he with rfl | rfl | rfl <;> simp [HandedBack, Config.outOfGas]
  · rw [hst]
    refine .inl ⟨hres, .inr ⟨hw.1, nb, AList.lookup_insert _, lt_of_lt_of_le hlt (hle hb), ?_, ?_⟩⟩
    · show x ∈ ((s.scheduleIdsPerBlock.insert nb _).lookup nb).getD []
      rw [AList.lookup_insert, Option.getD_some]
      exact List.mem_append_right _ (List.mem_singleton_self x)
    · -- listed nowhere before, now once
      have h : sumBy (fun _ ids => ids.count x) (s.scheduleIdsPerBlock.insert nb (s.idsAt nb ++ [x])) +
          (s.idsAt nb).count x = listedCount s x + (s.idsAt nb ++ [x]).count x :=
        sumBy_count_insert s.scheduleIdsPerBlock nb x (s.idsAt nb ++ [x])
      have hw₂ := hw.2
      rw [List.count_append, List.count_singleton_self] at h
      show sumBy (fun _ ids => ids.count x) (s.scheduleIdsPerBlock.insert nb (s.idsAt nb ++ [x])) = 1
      omega

omit [DecidableEq AccountId] [DecidableEq AssetId] in
variable (cfg) in
/-- A retry of a waiting schedule plans it once, or fails with an error that ends it and leaves it
waiting. -/
theorem retrySchedule_waiting (hw : Waiting s x sch) (n : Nat) (rng : Rng) :
    ((retrySchedule cfg s x sch n rng).result = .ok () ∧
        Settled (retrySchedule cfg s x sch n rng).state x sch) ∨
      (∃ e, (retrySchedule cfg s x sch n rng).result = .error e ∧ ¬ HandedBack cfg e ∧
        Waiting (retrySchedule cfg s x sch n rng).state x sch) := by
  rcases retrySchedule_cases cfg x sch n rng with ⟨hst, hres⟩ | ⟨k, ⟨hst, hres⟩ | ⟨b, hb, h⟩⟩
  · refine .inr ⟨_, hres, by simp [HandedBack, Config.outOfGas], ?_⟩
    rw [hst]
    exact hw
  · refine .inr ⟨_, hres, by simp [HandedBack, Config.outOfGas], ?_⟩
    rw [hst]
    exact hw.of_eq rfl rfl
  · have hw' : Waiting { s with retriesOnError := s.retriesOnError.insert x k } x sch :=
      hw.of_eq rfl rfl
    rw [h]
    rcases planScheduleForBlock_waiting cfg hw' hb rng with h' | ⟨e, hres, he, hst⟩
    · exact .inl h'
    · refine .inr ⟨e, hres, he, ?_⟩
      rw [hst]
      exact hw'

theorem Waiting.unallocateAmount {a : Nat} (hw : Waiting s x sch)
    (h : unallocateAmount s x sch a = .ok s') : Waiting s' x sch := by
  rcases unallocateAmount_eq_ok h with ⟨-, rfl⟩ | ⟨r, -, -, -, rfl⟩
  · exact hw
  · exact hw.of_eq rfl rfl

theorem Waiting.takeTransactionFeeFromUser {w : Nat} (hw : Waiting s x sch)
    (h : takeTransactionFeeFromUser cfg s x sch w = .ok s') : Waiting s' x sch := by
  obtain ⟨a, s₁, free, hu, rfl⟩ := takeTransactionFeeFromUser_eq_ok cfg h
  exact (hw.unallocateAmount hu).of_eq rfl rfl

theorem Waiting.executeTrade {r : AmountInAndOut × State AccountId AssetId} (hw : Waiting s x sch)
    (h : executeTrade cfg s x sch = .ok r) : Waiting r.2 x sch := by
  obtain ⟨a, s₁, free, hu, hr⟩ := executeTrade_eq_ok cfg h
  rw [hr]
  exact (hw.unallocateAmount hu).of_eq rfl rfl

omit [DecidableEq AccountId] [DecidableEq AssetId] in
theorem Waiting.incrementExtraGas (hw : Waiting s x sch) :
    Waiting (incrementExtraGas cfg s x sch) x sch := by
  rcases incrementExtraGas_eq cfg x sch with h | ⟨g, h⟩ <;> rw [h]
  · exact hw
  · exact hw.of_eq rfl rfl

variable (cfg) in
/-- `prepare_schedule` of a waiting schedule leaves it waiting and ready to trade, planned once
and handed back, or waiting with an error that ends it. -/
theorem prepareSchedule_waiting (hw : Waiting s x sch) (n w : Nat) (rng : Rng) :
    ((prepareSchedule cfg s n w x sch rng).result = .ok () ∧
        Waiting (prepareSchedule cfg s n w x sch rng).state x sch) ∨
      (∃ e, (prepareSchedule cfg s n w x sch rng).result = .error e ∧ HandedBack cfg e ∧
        Settled (prepareSchedule cfg s n w x sch rng).state x sch) ∨
      (∃ e, (prepareSchedule cfg s n w x sch rng).result = .error e ∧ ¬ HandedBack cfg e ∧
        Waiting (prepareSchedule cfg s n w x sch rng).state x sch) := by
  rcases prepareSchedule_cases cfg n w x sch rng with
    ⟨rng', hp⟩ | ⟨rng', hp⟩ | ⟨rng', e, hgas, ⟨hpu, hbump⟩, hp⟩ | ⟨s₁, rng', hfee, hp | hp⟩ <;>
    rw [hp]
  · -- bumped: planned at the next block, or ended when that fails
    have hb : Word.saturatingAdd 32 n 1 ≤ Word.max 32 := Word.saturatingAdd_le_max _ _ _
    rcases planScheduleForBlock_waiting cfg hw hb rng' with ⟨hres, hset⟩ | ⟨e, hres, he, hst⟩
    · refine .inr (.inl ⟨.bumped, ?_, .inr (.inl rfl), by rwa [Outcome.failWith_state]⟩)
      simp [Outcome.failWith, hres]
    · refine .inr (.inr ⟨e, ?_, he, by rw [Outcome.failWith_state, hst]; exact hw⟩)
      simp [Outcome.failWith, hres]
  · -- out of gas on the fee: retried
    rcases retrySchedule_waiting cfg hw.incrementExtraGas n rng' with
      ⟨hres, hset⟩ | ⟨e, hres, he, hst⟩
    · refine .inr (.inl ⟨cfg.outOfGas, ?_, .inr (.inr rfl), by rwa [Outcome.failWith_state]⟩)
      simp [Outcome.failWith, hres]
    · refine .inr (.inr ⟨e, ?_, he, by rwa [Outcome.failWith_state]⟩)
      simp [Outcome.failWith, hres]
  · refine .inr (.inr ⟨e, rfl, ?_, hw⟩)
    rintro (h | h | h)
    exacts [hpu h, hbump h, hgas h]
  · -- an unstable price after the fee: retried
    have hw₁ := hw.takeTransactionFeeFromUser hfee
    rcases retrySchedule_waiting cfg hw₁ n rng' with ⟨hres, hset⟩ | ⟨e, hres, he, hst⟩
    · refine .inr (.inl ⟨.priceUnstable, ?_, .inl rfl, by rwa [Outcome.failWith_state]⟩)
      simp [Outcome.failWith, hres]
    · refine .inr (.inr ⟨e, ?_, he, by rwa [Outcome.failWith_state]⟩)
      simp [Outcome.failWith, hres]
  · exact .inl ⟨rfl, hw.takeTransactionFeeFromUser hfee⟩

variable (cfg) in
/-- After a trade, a waiting schedule is completed or planned once, or left waiting with an error
that ends it. -/
theorem replanOrComplete_waiting (hb : ReserveBooks s) (hw : Waiting s x sch) (n : Nat) (rng : Rng) :
    ((replanOrComplete cfg s x sch n rng).result = .ok () ∧
        Settled (replanOrComplete cfg s x sch n rng).state x sch) ∨
      ((replanOrComplete cfg s x sch n rng).result ≠ .ok () ∧
        Waiting (replanOrComplete cfg s x sch n rng).state x sch) := by
  have hw₀ : Waiting { s with retriesOnError := s.retriesOnError.erase x } x sch := hw.of_eq rfl rfl
  rcases replanOrComplete_cases cfg x sch n rng with ⟨hst, hres⟩ | ⟨hst, hres⟩ | ⟨b, hle, ho⟩
  · refine .inr ⟨hres, ?_⟩
    rw [hst]
    exact hw₀
  · refine .inl ⟨hres, .inl ?_⟩
    rw [hst, completeSchedule_eq_terminateSchedule]
    exact Removed.terminateSchedule (hb.of_books rfl) hw₀
  · rw [ho]
    rcases planScheduleForBlock_waiting cfg hw₀ hle rng with h | ⟨e, hres, -, hst⟩
    · exact .inl h
    · refine .inr ⟨by simp [hres], ?_⟩
      rw [hst]
      exact hw₀

/-- A failed trade leaves a waiting schedule settled: completed, terminated, or planned again by a
retry. -/
theorem afterFailedTrade_settled (hb : ReserveBooks s) (hw : Waiting s x sch) (n : Nat) (rng : Rng)
    (e : Error) : Settled (afterFailedTrade cfg s x sch n rng e).1 x sch := by
  rcases afterFailedTrade_cases cfg x sch n rng e with hc | ⟨s₁, hs₁, ht | ⟨hres, hr⟩ | ⟨hres, ht⟩⟩
  · rw [hc, completeSchedule_eq_terminateSchedule]
    exact .inl (Removed.terminateSchedule hb hw)
  all_goals
    -- out of gas raises the extra gas first, which neither the books nor the lists read
    obtain ⟨hb₁, hw₁⟩ : ReserveBooks s₁ ∧ Waiting s₁ x sch := by
      rcases hs₁ with rfl | rfl
      · exact ⟨hb, hw⟩
      · exact ⟨hb.of_books (incrementExtraGas_books cfg _ _), hw.incrementExtraGas⟩
  · rw [ht]
    exact .inl (Removed.terminateSchedule hb₁ hw₁)
  · rw [hr]
    rcases retrySchedule_waiting cfg hw₁ n rng with ⟨-, hset⟩ | ⟨e', hres', -, -⟩
    · exact hset
    · simp [hres'] at hres
  · rw [ht]
    rcases retrySchedule_waiting cfg hw₁ n rng with ⟨hok, -⟩ | ⟨e', -, -, hw₂⟩
    · exact absurd hok hres
    · exact .inl (Removed.terminateSchedule (hb₁.of_books (retrySchedule_books cfg _ _ _ _)) hw₂)

omit [DecidableEq AccountId] [DecidableEq AssetId] in
theorem Settled.planned {sch' : Schedule AccountId AssetId} (h : Settled s x sch)
    (hs : s.schedules.lookup x = some sch') : PlannedOnce s x := by
  rcases h with hr | ⟨-, hp⟩
  · rw [hr.1] at hs
    cases hs
  · exact hp

omit [DecidableEq AccountId] [DecidableEq AssetId] in
theorem Settled.unlisted (h : Settled s x sch) (hs : s.schedules.lookup x = none) :
    listedCount s x = 0 := by
  rcases h with ⟨-, -, -, -, -, -, hl⟩ | ⟨hx, -⟩
  · exact hl
  · rw [hx] at hs
    cases hs

variable (cfg) in
/-- One id through the hook: a waiting schedule leaves it settled, whichever exit it takes. -/
theorem executeSchedule_settled (n : Nat) (acc : State AccountId AssetId × Rng)
    (hb : ReserveBooks acc.1) (hw : Waiting acc.1 x sch) :
    Settled (Dca.executeSchedule cfg n acc x).1 x sch := by
  unfold Dca.executeSchedule
  simp only [hw.1]
  have hp : ReserveBooks (Dca.prepareSchedule cfg acc.1 n (getTradeWeight cfg acc.1 sch.order (some x))
      x sch acc.2).state ∧ _ := hb.prepareSchedule hw.1 n _ acc.2
  rcases prepareSchedule_waiting cfg hw n (getTradeWeight cfg acc.1 sch.order (some x)) acc.2 with
    ⟨hres, hw₁⟩ | ⟨e, hres, hback, hset⟩ | ⟨e, hres, hback, hw₁⟩ <;> simp only [hres]
  · -- ready to trade
    split
    · -- traded: replanned or completed, or ended when that fails
      rename_i s₂ htrade
      have hb₂ := (hp.1.executeTrade (hp.2 ▸ hw.1) htrade).1
      have hw₂ := hw₁.executeTrade htrade
      generalize (Dca.prepareSchedule cfg acc.1 n (getTradeWeight cfg acc.1 sch.order (some x)) x sch
        acc.2).rng = rng₁
      have hb₃ : ReserveBooks (replanOrComplete cfg s₂ x sch n rng₁).state :=
        (hb₂.replanOrComplete hw₂.1 n rng₁).1
      rcases replanOrComplete_waiting cfg hb₂ hw₂ n rng₁ with ⟨hok, hset⟩ | ⟨hne, hw₃⟩
      · simp only [hok]
        exact hset
      · split
        · rename_i hok
          exact absurd hok hne
        · exact .inl (Removed.terminateSchedule hb₃ hw₃)
    · exact afterFailedTrade_settled hp.1 hw₁ n _ _
  · -- handed back to the hook, planned once
    rw [if_pos (show e = .priceUnstable ∨ e = .bumped ∨ e = cfg.outOfGas from hback)]
    exact hset
  · -- any other error of the preparation ends the schedule
    rw [if_neg (show ¬(e = .priceUnstable ∨ e = .bumped ∨ e = cfg.outOfGas) from hback)]
    exact .inl (Removed.terminateSchedule hp.1 hw₁)

omit [DecidableEq AccountId] [DecidableEq AssetId] in
/-- Taking `x` out of the list of block `b`, which goes when it is left empty, is local to `x`. -/
theorem Local.takeOut {b : Nat} {ids : List Nat} (m x : Nat) (t : State AccountId AssetId)
    (M : StorageMap Nat (List Nat)) (hM : t.scheduleIdsPerBlock = M) (hb : M.lookup b = some ids) :
    Local m x t { t with scheduleIdsPerBlock :=
      if (ids.erase x).isEmpty then M.erase b else M.insert b (ids.erase x) } := by
  subst hM
  have hids : t.idsAt b = ids := by
    unfold State.idsAt
    rw [hb, Option.getD_some]
  refine ⟨rfl, fun _ _ => rfl, fun _ _ _ => Iff.rfl, fun _ _ => rfl, fun _ _ => rfl, fun _ _ => rfl,
    fun _ _ => rfl, fun y hy => ?_, fun y c hy => ?_, fun c => ?_⟩
  · -- `x` taken out does not count for `y`
    have h := sumBy_count_takeOut t.scheduleIdsPerBlock b y x hb
    rw [List.count_erase_of_ne hy] at h
    unfold listedCount
    dsimp only
    omega
  · unfold State.idsAt at hids ⊢
    dsimp only
    rw [getD_lookup_takeOut]
    split
    · rename_i hc
      rw [hc, hids, List.mem_erase_of_ne hy]
    · rfl
  · unfold State.idsAt at hids ⊢
    dsimp only
    rw [getD_lookup_takeOut]
    split
    · rename_i hc
      rw [hc, hids]
      exact le_max_of_le_left List.length_erase_le
    · exact le_max_left _ _

/-! ## The planning between blocks -/

/-- How the schedules stand between two blocks: each is planned once, an id without a schedule is
in no list, and no list holds more than `m` ids. -/
structure Planning (m : Nat) (s : State AccountId AssetId) : Prop where
  planned : ∀ x sch, s.schedules.lookup x = some sch → PlannedOnce s x
  unlisted : ∀ x, s.schedules.lookup x = none → listedCount s x = 0
  bounded : ∀ c, (s.idsAt c).length ≤ m

omit [DecidableEq AccountId] [DecidableEq AssetId] in
theorem Planning.genesis (h : Genesis s) : Planning m s where
  planned x sch hs := by
    rw [h.schedules, AList.lookup_empty] at hs
    cases hs
  unlisted x _ := by
    unfold listedCount
    rw [h.scheduleIdsPerBlock, sumBy_empty]
  bounded c := by
    unfold State.idsAt
    rw [h.scheduleIdsPerBlock, AList.lookup_empty, Option.getD_none, List.length_nil]
    exact Nat.zero_le m

omit [DecidableEq AccountId] [DecidableEq AssetId] in
theorem Planning.listedCount_le_one (hp : Planning m s) (x : Nat) : listedCount s x ≤ 1 := by
  cases hx : s.schedules.lookup x with
  | none => rw [hp.unlisted x hx]; exact Nat.zero_le 1
  | some sch => exact (hp.planned x sch hx).choose_spec.2.2.2.le

omit [DecidableEq AccountId] [DecidableEq AssetId] in
/-- A step local to `x` that leaves `x` settled keeps the planning. -/
theorem Planning.of_local (hp : Planning m s) (hL : Local m x s s') (hx : Settled s' x sch) :
    Planning m s' where
  planned y sch' hy := by
    by_cases hyx : y = x
    · subst hyx
      exact hx.planned hy
    · exact hL.plannedOnce hyx (hp.planned y sch' ((hL.schedules y hyx).symm.trans hy))
  unlisted y hy := by
    by_cases hyx : y = x
    · subst hyx
      exact hx.unlisted hy
    · rw [hL.listed y hyx]
      exact hp.unlisted y ((hL.schedules y hyx).symm.trans hy)
  bounded c := by
    have h₁ := hL.length c
    have h₂ := hp.bounded c
    omega

/-- A new schedule is planned once under a fresh id, at its first execution block. -/
theorem Planning.schedule {who : AccountId} {start : Option Nat} (hp : Planning cfg.maxSchedulePerBlock s)
    (hb : ReserveBooks s) (hok : schedule cfg s who sch start = .ok s') :
    Planning cfg.maxSchedulePerBlock s' := by
  obtain ⟨rfl, -, amount, free, b, rng, s₁, hle, -, hs₁, hres, rfl⟩ := schedule_eq_ok cfg hok
  have hfresh : s.schedules.lookup s.scheduleIdSequencer = none := by
    cases hx : s.schedules.lookup s.scheduleIdSequencer with
    | none => rfl
    | some sch' => exact absurd (hb.fresh _ _ hx) (lt_irrefl _)
  have hw : Waiting s₁ s.scheduleIdSequencer sch := by
    rw [hs₁]
    exact ⟨AList.lookup_insert _, hp.unlisted _ hfresh⟩
  have hL₁ : Local cfg.maxSchedulePerBlock s.scheduleIdSequencer s s₁ := by
    rw [hs₁]
    refine Local.of_entries rfl rfl (fun _ hy => AList.lookup_insert_ne hy) (fun w y hy => ?_)
      (fun _ hy => AList.lookup_insert_ne hy) (fun _ hy => AList.lookup_insert_ne hy)
      (fun _ _ => rfl) (fun _ _ => rfl)
    show (w, y) ∈ s.scheduleOwnership.insert (sch.owner, s.scheduleIdSequencer) () ↔ _
    rw [AList.mem_insert]
    exact ⟨fun h => h.resolve_left fun heq => hy (Prod.mk.inj heq).2, .inr⟩
  rcases planScheduleForBlock_waiting cfg hw hle rng with ⟨-, hset⟩ | ⟨e, he, -, -⟩
  · exact hp.of_local (hL₁.trans (Local.planScheduleForBlock cfg _ b _ rng)) hset
  · rw [he] at hres
    cases hres

/-- A termination takes the schedule out of the one list that holds it and ends it. -/
theorem Planning.terminate {origin : Origin AccountId} {next : Option Nat} (hp : Planning m s)
    (hb : ReserveBooks s) (hok : terminate s origin x next = .ok s') : Planning m s' := by
  obtain ⟨sch, b, ids, idx, hs, -, hids, hidx, rfl⟩ := terminate_eq_ok hok
  obtain ⟨herase, hmem⟩ := eraseIdx_of_findIdx? hidx
  rw [herase]
  have hL := (Local.terminateSchedule m x s sch).trans
    (Local.takeOut m x _ s.scheduleIdsPerBlock terminateSchedule_scheduleIdsPerBlock hids)
  -- `x` is listed once over all the lists, so that once is in `ids`
  have hone : listedCount s x = 1 := (hp.planned x sch hs).choose_spec.2.2.2
  have hin : ids.count x = 1 := by
    have h₁ := count_le_listedCount b s x
    have h₂ := List.count_pos_iff.mpr hmem
    unfold State.idsAt at h₁
    rw [hids, Option.getD_some] at h₁
    omega
  have hsum := sumBy_count_takeOut s.scheduleIdsPerBlock b x x hids
  rw [List.count_erase_self] at hsum
  refine hp.of_local hL (.inl (terminateSchedule_removed hb hs _ ?_) : Settled _ x sch)
  unfold listedCount at hone
  omega

/-! ## The hook over the block's list -/

/-- Where the hook stands in the list it took: the ids still to take wait, every other schedule is
planned once, and the ids taken are settled. -/
structure Executing (m : Nat) (done rest : List Nat) (s : State AccountId AssetId) : Prop where
  books : ReserveBooks s
  nodup : (done ++ rest).Nodup
  waiting : ∀ x ∈ rest, ∃ sch, Waiting s x sch
  planned : ∀ x sch, s.schedules.lookup x = some sch → x ∉ rest → PlannedOnce s x
  unlisted : ∀ x, s.schedules.lookup x = none → listedCount s x = 0
  finished : ∀ x ∈ done, Removed s x ∨ PlannedOnce s x
  bounded : ∀ c, (s.idsAt c).length ≤ m

omit [DecidableEq AccountId] [DecidableEq AssetId] in
/-- The keys drawn are one per id, in the list's order. -/
theorem drawKeys_map_fst : ∀ (ids : List Nat) (rng : Rng), (drawKeys ids rng).1.map Prod.fst = ids
  | [], _ => rfl
  | id :: ids, rng => by
    show id :: (drawKeys ids rng.gen.2).1.map Prod.fst = id :: ids
    rw [drawKeys_map_fst ids]

omit [DecidableEq AccountId] [DecidableEq AssetId] in
/-- The hook takes the ids of the list in a shuffled order, each once. -/
theorem shuffle_perm (ids : List Nat) (rng : Rng) :
    (((drawKeys ids rng).1.mergeSort fun a b => a.2 ≤ b.2).map (·.1)).Perm ids := by
  have h := (List.mergeSort_perm (drawKeys ids rng).1 fun a b => a.2 ≤ b.2).map Prod.fst
  rwa [drawKeys_map_fst] at h

/-- A new block takes its list: its ids wait, in any order of them, and every other schedule is
planned for a later block. -/
theorem Executing.start (hb : ReserveBooks s) (hp : Planning m s) {order : List Nat}
    (horder : order.Perm (s.idsAt (s.blockNumber + 1))) :
    Executing m [] order { s with
      blockNumber := s.blockNumber + 1
      scheduleIdsPerBlock := s.scheduleIdsPerBlock.erase (s.blockNumber + 1) } := by
  -- every id keeps its places in the other lists
  have hcount : ∀ x, sumBy (fun _ ids => ids.count x) (s.scheduleIdsPerBlock.erase (s.blockNumber + 1)) +
      (s.idsAt (s.blockNumber + 1)).count x = listedCount s x := fun x =>
    sumBy_count_erase s.scheduleIdsPerBlock (s.blockNumber + 1) x
  have hscheduled : ∀ x ∈ s.idsAt (s.blockNumber + 1), ∃ sch, s.schedules.lookup x = some sch := by
    intro x hx
    cases hs : s.schedules.lookup x with
    | none =>
      have h₁ := count_le_listedCount (s.blockNumber + 1) s x
      rw [hp.unlisted x hs] at h₁
      exact absurd (List.count_pos_iff.mpr hx) (by omega)
    | some sch => exact ⟨sch, rfl⟩
  refine ⟨hb.of_books rfl, ?_, fun x hx => ?_, fun x sch hs hx => ?_, fun x hs => ?_,
    fun x hx => absurd hx List.not_mem_nil, fun c => ?_⟩
  · -- the list holds each id once at most, since each is listed once in all
    rw [List.nil_append, horder.nodup_iff, List.nodup_iff_count_le_one]
    intro x
    exact (count_le_listedCount _ s x).trans (hp.listedCount_le_one x)
  · obtain ⟨sch, hs⟩ := hscheduled x (horder.mem_iff.mp hx)
    refine ⟨sch, hs, ?_⟩
    have h₁ := hcount x
    have h₂ := List.count_pos_iff.mpr (horder.mem_iff.mp hx)
    have h₃ := (hp.planned x sch hs).choose_spec.2.2.2
    show sumBy _ (s.scheduleIdsPerBlock.erase (s.blockNumber + 1)) = 0
    omega
  · -- planned elsewhere: at a block past this one
    have hx' : x ∉ s.idsAt (s.blockNumber + 1) := fun h => hx (horder.mem_iff.mpr h)
    obtain ⟨b, hexec, hlt, hmem, hone⟩ := hp.planned x sch hs
    have hbn : b ≠ s.blockNumber + 1 := by
      rintro rfl
      exact hx' hmem
    refine ⟨b, hexec, by dsimp only; omega, ?_, ?_⟩
    · show x ∈ ((s.scheduleIdsPerBlock.erase (s.blockNumber + 1)).lookup b).getD []
      rw [getD_lookup_erase, if_neg hbn]
      exact hmem
    · have h₁ := hcount x
      rw [List.count_eq_zero.mpr hx'] at h₁
      show sumBy _ (s.scheduleIdsPerBlock.erase (s.blockNumber + 1)) = 1
      omega
  · have h₁ := hcount x
    have h₂ := hp.unlisted x hs
    show sumBy _ (s.scheduleIdsPerBlock.erase (s.blockNumber + 1)) = 0
    omega
  · show (((s.scheduleIdsPerBlock.erase (s.blockNumber + 1)).lookup c).getD []).length ≤ m
    rw [getD_lookup_erase]
    split
    · exact Nat.zero_le m
    · exact hp.bounded c

variable (cfg) in
/-- One id through the hook: it leaves settled, and every other schedule as it was. -/
theorem Executing.executeSchedule {done rest : List Nat} {acc : State AccountId AssetId × Rng}
    (h : Executing cfg.maxSchedulePerBlock done (x :: rest) acc.1) (n : Nat) :
    Executing cfg.maxSchedulePerBlock (done ++ [x]) rest (Dca.executeSchedule cfg n acc x).1 := by
  obtain ⟨sch, hw⟩ := h.waiting x List.mem_cons_self
  have hL := Local.executeSchedule cfg n acc x
  have hset := executeSchedule_settled cfg n acc h.books hw
  have hdisj := (List.nodup_append.mp h.nodup).2.2
  have hx_rest : x ∉ rest := (List.nodup_cons.mp (List.nodup_append.mp h.nodup).2.1).1
  have hx_done : x ∉ done := fun hd => hdisj x hd x List.mem_cons_self rfl
  refine ⟨h.books.executeSchedule n acc x, ?_, fun y hy => ?_, fun y sch' hy hrest => ?_,
    fun y hy => ?_, fun y hy => ?_, fun c => ?_⟩
  · rw [List.append_assoc, List.singleton_append]
    exact h.nodup
  · have hyx : y ≠ x := fun e => hx_rest (e ▸ hy)
    obtain ⟨sch', hw'⟩ := h.waiting y (List.mem_cons_of_mem x hy)
    exact ⟨sch', (hL.schedules y hyx).trans hw'.1, (hL.listed y hyx).trans hw'.2⟩
  · by_cases hyx : y = x
    · subst hyx
      exact hset.planned hy
    · refine hL.plannedOnce hyx (h.planned y sch' ((hL.schedules y hyx).symm.trans hy) ?_)
      simp [hyx, hrest]
  · by_cases hyx : y = x
    · subst hyx
      exact hset.unlisted hy
    · rw [hL.listed y hyx]
      exact h.unlisted y ((hL.schedules y hyx).symm.trans hy)
  · rcases List.mem_append.mp hy with hy | hy
    · have hyx : y ≠ x := fun e => hx_done (e ▸ hy)
      rcases h.finished y hy with hr | hpl
      · exact .inl (hL.removed hyx hr)
      · exact .inr (hL.plannedOnce hyx hpl)
    · rw [List.mem_singleton.mp hy]
      exact hset.imp id And.right
  · have h₁ := hL.length c
    have h₂ := h.bounded c
    omega

variable (cfg) in
/-- The hook's loop over the ids still to take; the induction is on that list, the taken ids
growing by one at each step. -/
theorem Executing.foldl (n : Nat) : ∀ (rest done : List Nat) (t : State AccountId AssetId) (rng : Rng),
    Executing cfg.maxSchedulePerBlock done rest t →
      Executing cfg.maxSchedulePerBlock (done ++ rest) [] (rest.foldl (Dca.executeSchedule cfg n) (t, rng)).1
  | [], done, _, _, h => by
    rw [List.append_nil]
    exact h
  | x :: rest, done, t, rng, h => by
    have h₁ : Executing _ (done ++ [x]) rest (Dca.executeSchedule cfg n (t, rng) x).1 :=
      h.executeSchedule cfg n
    have h' := Executing.foldl n rest (done ++ [x]) _ (Dca.executeSchedule cfg n (t, rng) x).2 h₁
    rw [List.append_assoc, List.singleton_append] at h'
    exact h'

variable (cfg) in
/-- A block's hook keeps the planning, and leaves each id it took from the block's list removed or
planned again once. -/
theorem Planning.onInitialize (hb : ReserveBooks s) (hp : Planning cfg.maxSchedulePerBlock s) :
    Planning cfg.maxSchedulePerBlock
        (Dca.onInitialize cfg { s with blockNumber := s.blockNumber + 1 } (s.blockNumber + 1)) ∧
      ∀ x ∈ s.idsAt (s.blockNumber + 1),
        Removed (Dca.onInitialize cfg { s with blockNumber := s.blockNumber + 1 } (s.blockNumber + 1)) x ∨
          PlannedOnce (Dca.onInitialize cfg { s with blockNumber := s.blockNumber + 1 }
            (s.blockNumber + 1)) x := by
  have horder := shuffle_perm (s.idsAt (s.blockNumber + 1)) ⟨cfg.generator (s.blockNumber + 1) none, 0⟩
  have h := Executing.foldl cfg (s.blockNumber + 1) _ [] _
    (drawKeys (s.idsAt (s.blockNumber + 1)) ⟨cfg.generator (s.blockNumber + 1) none, 0⟩).2
    (Executing.start hb hp horder)
  rw [List.nil_append] at h
  exact ⟨⟨fun x sch hs => h.planned x sch hs List.not_mem_nil, h.unlisted, h.bounded⟩,
    fun x hx => h.finished x (horder.mem_iff.mpr hx)⟩

theorem Planning.step (hb : ReserveBooks s) (hp : Planning cfg.maxSchedulePerBlock s)
    (c : Call AccountId AssetId) (hok : step cfg c s = .ok s') : Planning cfg.maxSchedulePerBlock s' := by
  cases c with
  | schedule who sch start => exact hp.schedule hb hok
  | terminate origin x next => exact hp.terminate hb hok
  | unlockReserves who asset => exact absurd hok (hb.unlockReserves_ne_ok who asset)
  | newBlock =>
    obtain rfl := Except.ok.inj hok
    exact (Planning.onInitialize cfg hb hp).1

theorem schedules_planned_once (cfg : Config AccountId AssetId)
    (hreach : Reachable Genesis (step cfg) s) :
    (∀ x sch, s.schedules.lookup x = some sch → PlannedOnce s x) ∧
      (∀ b, (s.idsAt b).length ≤ cfg.maxSchedulePerBlock) ∧
      ∀ s', step cfg .newBlock s = .ok s' →
        ∀ x ∈ s.idsAt (s.blockNumber + 1), Removed s' x ∨ PlannedOnce s' x := by
  obtain ⟨hb, hp⟩ : ReserveBooks s ∧ Planning cfg.maxSchedulePerBlock s :=
    hreach.induction
      (fun t (h : Genesis t) =>
        (⟨.genesis h, .genesis h⟩ : ReserveBooks t ∧ Planning cfg.maxSchedulePerBlock t))
      fun c _ _ h hok => ⟨h.1.step c hok, h.2.step h.1 c hok⟩
  refine ⟨hp.planned, hp.bounded, fun s' hok => ?_⟩
  obtain rfl := Except.ok.inj hok
  exact (Planning.onInitialize cfg hb hp).2

theorem schedules_planned_once_dcaRun :
    (∀ x sch, (Frame.run (step exampleConfig) dcaRun exampleGenesis).schedules.lookup x = some sch →
        PlannedOnce (Frame.run (step exampleConfig) dcaRun exampleGenesis) x) ∧
      (∀ b, ((Frame.run (step exampleConfig) dcaRun exampleGenesis).idsAt b).length ≤
        exampleConfig.maxSchedulePerBlock) ∧
      ∀ s', step exampleConfig .newBlock (Frame.run (step exampleConfig) dcaRun exampleGenesis) = .ok s' →
        ∀ x ∈ (Frame.run (step exampleConfig) dcaRun exampleGenesis).idsAt
            ((Frame.run (step exampleConfig) dcaRun exampleGenesis).blockNumber + 1),
          Removed s' x ∨ PlannedOnce s' x :=
  schedules_planned_once exampleConfig (Frame.reachable_run dcaRun (.init exampleGenesis_genesis))

end Hydration.Dca
