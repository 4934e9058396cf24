import Hydration.GigaHdx.Pallet
import Hydration.Frame.Issuance

/-!
# The gigahdx books

What every reachable state of the gigahdx pallet books: `TotalLocked` is the sum of the stakes'
principal; an account's `unstaking` and `unstaking_count` are the sum and the number of its
pending positions, at most `MaxPendingUnstakes`; a pending position has a stake record; the
`ghdxlock` of every account is its principal plus what it has unstaking, and absent when that
is zero.

Every entry point changes the records of one or two accounts, so the invariant is proved once
for a rewrite of one record (`AccountBooks.rebook`) and for the removal of an empty one
(`AccountBooks.reap`); each call then only computes its new record. That saturating additions
never saturate comes from the balances: the lock keeps an account's principal and unstaking HDX
in its free balance, and the total issuance of HDX fits a `u128`. This needs the accounts of the
gigapot and the reward pot not to stake (they are pallet accounts, which sign nothing), the
liquidation account not to be the gigapot, and `MaxPendingUnstakes` to fit the `u16` count.
-/

namespace Hydration.GigaHdx

open Frame FixedPoint StorageMap

variable {AssetId AccountId : Type} [DecidableEq AccountId]

/-! ## Pending positions per account -/

/-- The HDX in `who`'s pending unstake positions. -/
def pendingAmount (pending : StorageMap (AccountId × Nat) Nat) (who : AccountId) : Nat :=
  sumBy (fun k v => if k.1 = who then v else 0) pending

/-- The number of `who`'s pending unstake positions. -/
def pendingCount (pending : StorageMap (AccountId × Nat) Nat) (who : AccountId) : Nat :=
  sumBy (fun k _ => if k.1 = who then 1 else 0) pending

/-- `p'` differs from `p` at most in `who`'s positions. -/
def PendingFrame (who : AccountId) (p p' : StorageMap (AccountId × Nat) Nat) : Prop :=
  ∀ a, a ≠ who → pendingAmount p' a = pendingAmount p a ∧ pendingCount p' a = pendingCount p a ∧
    ∀ n v, p'.lookup (a, n) = some v → p.lookup (a, n) = some v

namespace PendingFrame

variable {who : AccountId} {p : StorageMap (AccountId × Nat) Nat}

theorem refl : PendingFrame who p p := fun _ _ => ⟨rfl, rfl, fun _ _ h => h⟩

theorem insert (n v : Nat) : PendingFrame who p (p.insert (who, n) v) := by
  intro a ha
  refine ⟨sumBy_insert_of_zero _ v fun _ => if_neg (Ne.symm ha),
    sumBy_insert_of_zero _ v fun _ => if_neg (Ne.symm ha), fun m w h => ?_⟩
  rw [AList.lookup_insert_ne (by simp [ha])] at h
  exact h

theorem erase (n : Nat) : PendingFrame who p (p.erase (who, n)) := by
  intro a ha
  refine ⟨sumBy_erase_of_zero _ fun _ => if_neg (Ne.symm ha),
    sumBy_erase_of_zero _ fun _ => if_neg (Ne.symm ha), fun m w h => ?_⟩
  rw [AList.lookup_erase_ne (by simp [ha])] at h
  exact h

end PendingFrame

section Pending

variable {p : StorageMap (AccountId × Nat) Nat} {who : AccountId} {n : Nat}

variable (p who n) in
/-- Writing one of `who`'s positions replaces its amount in `who`'s sum. -/
theorem pendingAmount_insert (v : Nat) :
    pendingAmount (p.insert (who, n) v) who + (p.lookup (who, n)).getD 0 =
      pendingAmount p who + v := by
  have h := sumBy_insert_add (fun k v => if k.1 = who then v else 0) p (who, n) v
  unfold at? at h
  unfold pendingAmount
  cases hl : p.lookup (who, n) <;> simp_all

variable (p who n) in
/-- Writing one of `who`'s positions adds one to its count if the position is new. -/
theorem pendingCount_insert (v : Nat) :
    pendingCount (p.insert (who, n) v) who =
      pendingCount p who + if p.lookup (who, n) = none then 1 else 0 := by
  have h := sumBy_insert_add (fun k (_ : Nat) => if k.1 = who then 1 else 0) p (who, n) v
  unfold at? at h
  unfold pendingCount
  cases hl : p.lookup (who, n) <;> simp_all

theorem pendingAmount_erase {v : Nat} (h : p.lookup (who, n) = some v) :
    pendingAmount (p.erase (who, n)) who + v = pendingAmount p who := by
  have := sumBy_erase_of_lookup (fun k v => if k.1 = who then v else 0) h
  unfold pendingAmount
  simpa using this

theorem pendingCount_erase {v : Nat} (h : p.lookup (who, n) = some v) :
    pendingCount (p.erase (who, n)) who + 1 = pendingCount p who := by
  have := sumBy_erase_of_lookup (fun k (_ : Nat) => if k.1 = who then 1 else 0) h
  unfold pendingCount
  simpa using this

theorem le_pendingAmount {v : Nat} (h : p.lookup (who, n) = some v) : v ≤ pendingAmount p who := by
  have := le_sumBy (fun k v => if k.1 = who then v else 0) h
  unfold pendingAmount
  simpa using this

/-- An account with no positions counted has none. -/
theorem lookup_eq_none_of_pendingCount (h : pendingCount p who = 0) (n : Nat) :
    p.lookup (who, n) = none := by
  cases hl : p.lookup (who, n) with
  | none => rfl
  | some v =>
    have := le_sumBy (fun k (_ : Nat) => if k.1 = who then 1 else 0) hl
    unfold pendingCount at h
    simp only [if_true] at this
    omega

end Pending

/-! ## The invariant -/

variable (cfg : Config AssetId AccountId)

/-- What holds of every account. -/
structure AccountBooks (s : State AssetId AccountId) : Prop where
  unstaking : ∀ who st, s.stakes.lookup who = some st →
    st.unstaking = pendingAmount s.pendingUnstakes who
  unstakingCount : ∀ who st, s.stakes.lookup who = some st →
    st.unstakingCount = pendingCount s.pendingUnstakes who
  countLe : ∀ who st, s.stakes.lookup who = some st → st.unstakingCount ≤ cfg.maxPendingUnstakes
  recorded : ∀ who n v, s.pendingUnstakes.lookup (who, n) = some v → (s.stakes.lookup who).isSome
  locked : ∀ who, s.locks.lookup who =
    if lockAmount s.stakes who = 0 then none else some (lockAmount s.stakes who)
  /-- The lock keeps what is staked and unstaking in the account. -/
  backed : ∀ who st, s.stakes.lookup who = some st →
    st.hdx + st.unstaking ≤ s.balances.free cfg.nativeAssetId who
  issuance : s.balances.IssuanceWithin cfg.nativeAssetId (Word.max 128)
  gigapot : s.stakes.lookup cfg.gigapot = none

/-- The books, with `TotalLocked`. -/
structure Books (s : State AssetId AccountId) : Prop extends AccountBooks cfg s where
  totalLocked : s.totalLocked = sumBy (fun _ st => st.hdx) s.stakes

variable {cfg}

namespace AccountBooks

variable {s : State AssetId AccountId}

/-- A record's principal and unstaking fit a `u128`. -/
theorem fits (hs : AccountBooks cfg s) {who : AccountId} {st : StakeRecord}
    (h : s.stakes.lookup who = some st) : st.hdx + st.unstaking ≤ Word.max 128 :=
  le_trans (hs.backed who st h) (hs.issuance.free_le who)

theorem lockAmount_eq (hs : AccountBooks cfg s) {who : AccountId} {st : StakeRecord}
    (h : s.stakes.lookup who = some st) : lockAmount s.stakes who = st.hdx + st.unstaking := by
  simp [lockAmount, h, Word.saturatingAdd_of_le (hs.fits h)]

/-- The lock is what is staked and unstaking. -/
theorem lockOf_eq (hs : AccountBooks cfg s) {who : AccountId} {st : StakeRecord}
    (h : s.stakes.lookup who = some st) : lockOf s who = st.hdx + st.unstaking := by
  unfold lockOf
  rw [hs.locked who, hs.lockAmount_eq h]
  split <;> simp_all

/-- A pending position is part of its account's unstaking. -/
theorem entry_le (hs : AccountBooks cfg s) {who : AccountId} {n v : Nat} {st : StakeRecord}
    (hp : s.pendingUnstakes.lookup (who, n) = some v) (h : s.stakes.lookup who = some st) :
    v ≤ st.unstaking := by
  rw [hs.unstaking who st h]
  exact le_pendingAmount hp

/-- The principal of all records fits a `u128`. -/
theorem sumBy_hdx_le (hs : AccountBooks cfg s) :
    sumBy (fun _ st => st.hdx) s.stakes ≤ Word.max 128 :=
  hs.issuance.sumBy_le fun who st h => le_trans (Nat.le_add_right _ _) (hs.backed who st h)

/-- One record rewritten, with its lock refreshed: the rest of the books stay. -/
theorem rebook (hs : AccountBooks cfg s) {s₁ : State AssetId AccountId} {who : AccountId}
    {r : StakeRecord} (hstakes : s₁.stakes = s.stakes.insert who r) (hlocks : s₁.locks = s.locks)
    (hframe : PendingFrame who s.pendingUnstakes s₁.pendingUnstakes)
    (hun : r.unstaking = pendingAmount s₁.pendingUnstakes who)
    (hcount : r.unstakingCount = pendingCount s₁.pendingUnstakes who)
    (hle : r.unstakingCount ≤ cfg.maxPendingUnstakes)
    (hbacked : r.hdx + r.unstaking ≤ s₁.balances.free cfg.nativeAssetId who)
    (hothers : ∀ a st, a ≠ who → s.stakes.lookup a = some st →
      st.hdx + st.unstaking ≤ s₁.balances.free cfg.nativeAssetId a)
    (hiss : s₁.balances.IssuanceWithin cfg.nativeAssetId (Word.max 128))
    (hgig : who ≠ cfg.gigapot) : AccountBooks cfg (refreshLock s₁ who) := by
  -- every lookup of the new records at another account is the old one
  have hlook : ∀ a, a ≠ who → s₁.stakes.lookup a = s.stakes.lookup a := fun a ha => by
    rw [hstakes, AList.lookup_insert_ne ha]
  have hself : s₁.stakes.lookup who = some r := by rw [hstakes, AList.lookup_insert]
  constructor
  case unstaking =>
    intro a st h
    simp only [refreshLock_stakes, refreshLock_pendingUnstakes] at h ⊢
    by_cases ha : a = who
    · subst ha
      rw [hself, Option.some.injEq] at h
      subst h
      exact hun
    · rw [hlook a ha] at h
      rw [(hframe a ha).1]
      exact hs.unstaking a st h
  case unstakingCount =>
    intro a st h
    simp only [refreshLock_stakes, refreshLock_pendingUnstakes] at h ⊢
    by_cases ha : a = who
    · subst ha
      rw [hself, Option.some.injEq] at h
      subst h
      exact hcount
    · rw [hlook a ha] at h
      rw [(hframe a ha).2.1]
      exact hs.unstakingCount a st h
  case countLe =>
    intro a st h
    simp only [refreshLock_stakes] at h
    by_cases ha : a = who
    · subst ha
      rw [hself, Option.some.injEq] at h
      exact h ▸ hle
    · rw [hlook a ha] at h
      exact hs.countLe a st h
  case recorded =>
    intro a n v h
    simp only [refreshLock_stakes, refreshLock_pendingUnstakes] at h ⊢
    by_cases ha : a = who
    · subst ha
      simp [hself]
    · rw [hlook a ha]
      exact hs.recorded a n v ((hframe a ha).2.2 n v h)
  case locked =>
    intro a
    rw [lookup_refreshLock, refreshLock_stakes]
    by_cases ha : a = who
    · subst ha
      simp
    · have hamount : lockAmount s₁.stakes a = lockAmount s.stakes a := by
        simp only [lockAmount, hlook a ha]
      rw [if_neg ha, hlocks, hamount]
      exact hs.locked a
  case backed =>
    intro a st h
    simp only [refreshLock_stakes, refreshLock_balances] at h ⊢
    by_cases ha : a = who
    · subst ha
      rw [hself, Option.some.injEq] at h
      exact h ▸ hbacked
    · rw [hlook a ha] at h
      exact hothers a st ha h
  case issuance => simpa using hiss
  case gigapot =>
    simp only [refreshLock_stakes]
    rw [hlook _ (Ne.symm hgig)]
    exact hs.gigapot

/-- The last position of an empty record released with it: the rest of the books stay. -/
theorem reap (hs : AccountBooks cfg s) {s₁ : State AssetId AccountId} {who : AccountId}
    (hstakes : s₁.stakes = s.stakes.erase who) (hlocks : s₁.locks = s.locks)
    (hframe : PendingFrame who s.pendingUnstakes s₁.pendingUnstakes)
    (hnone : ∀ n v, s₁.pendingUnstakes.lookup (who, n) ≠ some v)
    (hbal : s₁.balances = s.balances) : AccountBooks cfg (refreshLock s₁ who) := by
  have hlook : ∀ a, a ≠ who → s₁.stakes.lookup a = s.stakes.lookup a := fun a ha => by
    rw [hstakes, AList.lookup_erase_ne ha]
  have hself : s₁.stakes.lookup who = none := by rw [hstakes, AList.lookup_erase]
  -- every account left with a record is another one
  have hother : ∀ a st, s₁.stakes.lookup a = some st → a ≠ who ∧ s.stakes.lookup a = some st :=
    fun a st h => by
      have ha : a ≠ who := by
        rintro rfl
        rw [hself] at h
        cases h
      exact ⟨ha, hlook a ha ▸ h⟩
  constructor
  case unstaking =>
    intro a st h
    obtain ⟨ha, h⟩ := hother a st (by simpa using h)
    simpa [(hframe a ha).1] using hs.unstaking a st h
  case unstakingCount =>
    intro a st h
    obtain ⟨ha, h⟩ := hother a st (by simpa using h)
    simpa [(hframe a ha).2.1] using hs.unstakingCount a st h
  case countLe =>
    intro a st h
    obtain ⟨-, h⟩ := hother a st (by simpa using h)
    exact hs.countLe a st h
  case recorded =>
    intro a n v h
    simp only [refreshLock_stakes, refreshLock_pendingUnstakes] at h ⊢
    by_cases ha : a = who
    · subst ha
      exact absurd h (hnone n v)
    · rw [hlook a ha]
      exact hs.recorded a n v ((hframe a ha).2.2 n v h)
  case locked =>
    intro a
    rw [lookup_refreshLock, refreshLock_stakes]
    by_cases ha : a = who
    · subst ha
      simp [lockAmount, hself]
    · have hamount : lockAmount s₁.stakes a = lockAmount s.stakes a := by
        simp only [lockAmount, hlook a ha]
      rw [if_neg ha, hlocks, hamount]
      exact hs.locked a
  case backed =>
    intro a st h
    obtain ⟨-, h⟩ := hother a st (by simpa using h)
    simpa [hbal] using hs.backed a st h
  case issuance => simpa [hbal] using hs.issuance
  case gigapot =>
    simp only [refreshLock_stakes]
    by_cases hg : cfg.gigapot = who
    · rw [hg]
      exact hself
    · rw [hlook _ hg]
      exact hs.gigapot

/-- An account without a record has no pending positions. -/
theorem pending_of_none (hs : AccountBooks cfg s) {who : AccountId}
    (h : s.stakes.lookup who = none) :
    pendingAmount s.pendingUnstakes who = 0 ∧ pendingCount s.pendingUnstakes who = 0 := by
  have hno : ∀ k v, s.pendingUnstakes.lookup k = some v → k.1 ≠ who := by
    rintro ⟨a, n⟩ v hk rfl
    have := hs.recorded a n v hk
    simp [h] at this
  constructor
  · exact sumBy_eq_zero _ fun k v hk => if_neg (hno k v hk)
  · exact sumBy_eq_zero _ fun k v hk => if_neg (hno k v hk)

/-- The record `do_stake` and `ensure_stakeable` read, `StakeRecord::default` without one, is
booked as a stored one is. -/
theorem getD_books (hs : AccountBooks cfg s) (who : AccountId) :
    let st := (s.stakes.lookup who).getD StakeRecord.empty
    st.unstaking = pendingAmount s.pendingUnstakes who ∧
      st.unstakingCount = pendingCount s.pendingUnstakes who ∧
      st.unstakingCount ≤ cfg.maxPendingUnstakes ∧
      st.hdx + st.unstaking ≤ s.balances.free cfg.nativeAssetId who := by
  intro st
  cases h : s.stakes.lookup who with
  | none =>
    obtain ⟨h₁, h₂⟩ := hs.pending_of_none h
    simp [st, h, StakeRecord.empty, h₁, h₂]
  | some r =>
    simp only [st, h, Option.getD_some]
    exact ⟨hs.unstaking who r h, hs.unstakingCount who r h, hs.countLe who r h,
      hs.backed who r h⟩

end AccountBooks

/-- The principal a map books at `who`, `StakeRecord::default` without a record. -/
theorem at?_hdx (m : StorageMap AccountId StakeRecord) (who : AccountId) :
    at? (fun _ st => st.hdx) m who = ((m.lookup who).getD StakeRecord.empty).hdx := by
  unfold at?
  cases m.lookup who <;> rfl

/-- A record written at `who` moves the sum of principal by the change of `who`'s. -/
theorem sumBy_hdx_insert (m : StorageMap AccountId StakeRecord) (who : AccountId) (r : StakeRecord) :
    sumBy (fun _ st => st.hdx) (m.insert who r) =
      sumBy (fun _ st => st.hdx) m + r.hdx - ((m.lookup who).getD StakeRecord.empty).hdx := by
  have := sumBy_insert_add (fun _ st => st.hdx) m who r
  rw [at?_hdx] at this
  omega

/-- `rebook` with `TotalLocked` moved by the change of principal, where the new total fits. -/
theorem Books.rebook {s s₁ : State AssetId AccountId} (hs : Books cfg s) {who : AccountId}
    {r : StakeRecord} (hstakes : s₁.stakes = s.stakes.insert who r) (hlocks : s₁.locks = s.locks)
    (hframe : PendingFrame who s.pendingUnstakes s₁.pendingUnstakes)
    (hun : r.unstaking = pendingAmount s₁.pendingUnstakes who)
    (hcount : r.unstakingCount = pendingCount s₁.pendingUnstakes who)
    (hle : r.unstakingCount ≤ cfg.maxPendingUnstakes)
    (hbacked : r.hdx + r.unstaking ≤ s₁.balances.free cfg.nativeAssetId who)
    (hothers : ∀ a st, a ≠ who → s.stakes.lookup a = some st →
      st.hdx + st.unstaking ≤ s₁.balances.free cfg.nativeAssetId a)
    (hiss : s₁.balances.IssuanceWithin cfg.nativeAssetId (Word.max 128))
    (hgig : who ≠ cfg.gigapot)
    (htl : s.totalLocked + r.hdx ≤ Word.max 128 + ((s.stakes.lookup who).getD StakeRecord.empty).hdx →
      s₁.totalLocked + ((s.stakes.lookup who).getD StakeRecord.empty).hdx = s.totalLocked + r.hdx) :
    Books cfg (refreshLock s₁ who) := by
  have hbooks := hs.toAccountBooks.rebook hstakes hlocks hframe hun hcount hle hbacked hothers hiss hgig
  refine ⟨hbooks, ?_⟩
  -- the new sum fits, so `TotalLocked` moved exactly
  have hfit := hbooks.sumBy_hdx_le
  have hsum := sumBy_insert_add (fun _ st => st.hdx) s.stakes who r
  rw [at?_hdx] at hsum
  simp only [refreshLock_stakes, refreshLock_totalLocked, hstakes] at hfit ⊢
  have := htl (by rw [hs.totalLocked]; omega)
  rw [hs.totalLocked] at this
  omega

section Transfer

variable [DecidableEq AssetId]

/-- A transfer that respects the lock keeps every record backed. -/
theorem AccountBooks.backed_transfer {s : State AssetId AccountId} (hs : AccountBooks cfg s)
    {src dst : AccountId} {amount : Nat} {b : Balances AssetId AccountId}
    (h : nativeTransfer cfg s src dst amount = .ok b) (who : AccountId) (st : StakeRecord)
    (hst : s.stakes.lookup who = some st) : st.hdx + st.unstaking ≤ b.free cfg.nativeAssetId who := by
  by_cases hsrc : who = src
  · subst hsrc
    rcases nativeTransfer_lockOf_le h with hkeep | hlock
    · rw [hkeep]
      exact hs.backed who st hst
    · rw [← hs.lockOf_eq hst]
      exact hlock
  · exact le_trans (hs.backed who st hst) (nativeTransfer_free_le h hsrc _)

theorem AccountBooks.transfer {s : State AssetId AccountId} (hs : AccountBooks cfg s)
    {src dst : AccountId} {amount : Nat} {b : Balances AssetId AccountId}
    (h : nativeTransfer cfg s src dst amount = .ok b) : AccountBooks cfg { s with balances := b } where
  unstaking := hs.unstaking
  unstakingCount := hs.unstakingCount
  countLe := hs.countLe
  recorded := hs.recorded
  locked := hs.locked
  backed := hs.backed_transfer h
  issuance := nativeTransfer_issuanceWithin h hs.issuance
  gigapot := hs.gigapot

theorem Books.transfer {s : State AssetId AccountId} (hs : Books cfg s) {src dst : AccountId}
    {amount : Nat} {b : Balances AssetId AccountId}
    (h : nativeTransfer cfg s src dst amount = .ok b) : Books cfg { s with balances := b } :=
  ⟨hs.toAccountBooks.transfer h, hs.totalLocked⟩

end Transfer

/-! ## What each call does -/

section Specs

variable [DecidableEq AssetId] {s s' : State AssetId AccountId} {who : AccountId}

omit [DecidableEq AssetId] in
theorem ensureStakeable_eq_ok {amount : Nat} {u : Unit}
    (h : ensureStakeable cfg s who amount = .ok u) :
    cfg.minStake ≤ amount ∧ cfg.externalClaims who = 0 ∧
      amount ≤ s.balances.free cfg.nativeAssetId who - Word.saturatingAdd 128
        ((s.stakes.lookup who).getD StakeRecord.empty).hdx
        ((s.stakes.lookup who).getD StakeRecord.empty).unstaking := by
  simp only [ensureStakeable, bind_eq_ok, ensure_eq_ok] at h
  obtain ⟨-, hmin, -, hclaims, hfree⟩ := h
  exact ⟨hmin, hclaims, hfree⟩

omit [DecidableEq AssetId] in
theorem doStake_eq_ok {amount g : Nat} (h : doStake cfg s who amount = .ok (s', g)) :
    ∃ st, (s.stakes.lookup who).getD StakeRecord.empty = st ∧ 0 < amount ∧ 0 < g ∧
      calculateGigahdxGivenHdxAmount cfg s amount = some g ∧
      s.stHdxSupply + g ≤ Word.max 128 ∧ st.hdx + amount ≤ Word.max 128 ∧
      st.gigahdx + g ≤ Word.max 128 ∧
      s' = refreshLock { s with
        stHdxSupply := s.stHdxSupply + g
        stakes := s.stakes.insert who { st with hdx := st.hdx + amount, gigahdx := st.gigahdx + g }
        totalLocked := Word.saturatingAdd 128 s.totalLocked amount } who := by
  simp only [doStake, bind_eq_ok, ensure_eq_ok, okOr_eq_ok, Word.checkedAdd_eq_some, pure,
    Except.pure, Except.ok.injEq, Prod.mk.injEq] at h
  obtain ⟨-, hpos, g', hcalc, -, hg, supply, ⟨hsup, rfl⟩, hdx, ⟨hhdx, rfl⟩, gig, ⟨hgig, rfl⟩,
    rfl, rfl⟩ := h
  exact ⟨_, rfl, hpos, hg, hcalc, hsup, hhdx, hgig, rfl⟩

theorem takePayout_eq_ok {hdx payout newHdx y : Nat} {b : Balances AssetId AccountId}
    (h : takePayout cfg s who hdx payout = .ok (newHdx, y, b)) :
    (payout ≤ hdx ∧ newHdx = hdx - payout ∧ y = 0 ∧ b = s.balances) ∨
      (hdx < payout ∧ newHdx = 0 ∧ y = payout - hdx ∧
        nativeTransfer cfg s cfg.gigapot who (payout - hdx) = .ok b) := by
  unfold takePayout at h
  split at h
  · rename_i hle
    simp only [pure, Except.pure, Except.ok.injEq, Prod.mk.injEq] at h
    obtain ⟨rfl, rfl, rfl⟩ := h
    exact .inl ⟨hle, rfl, rfl, rfl⟩
  · rename_i hlt
    simp only [bind_eq_ok, pure, Except.pure, Except.ok.injEq, Prod.mk.injEq] at h
    obtain ⟨b', htr, rfl, rfl, rfl⟩ := h
    exact .inr ⟨by omega, rfl, rfl, htr⟩

theorem doUnstake_eq_ok {gigahdxAmount : Nat} (h : doUnstake cfg s who gigahdxAmount = .ok s') :
    ∃ stake payout newHdx y b hdx' payout', s.stakes.lookup who = some stake ∧
      ((s.pendingUnstakes.lookup (who, s.blockNumber)).isNone = true →
        stake.unstakingCount < cfg.maxPendingUnstakes) ∧
      0 < gigahdxAmount ∧ gigahdxAmount ≤ stake.gigahdx ∧
      calculateHdxAmountGivenGigahdx cfg s gigahdxAmount = some payout ∧
      cfg.committed who ≤ stake.hdx - payout ∧ gigahdxAmount ≤ s.stHdxSupply ∧
      takePayout cfg s who stake.hdx payout = .ok (newHdx, y, b) ∧
      foldDust (stake.gigahdx - gigahdxAmount) (cfg.committed who) newHdx payout = (hdx', payout') ∧
      s.blockNumber + cfg.cooldownPeriod ≤ Word.max 32 ∧
      s' = refreshLock { s with
        stHdxSupply := s.stHdxSupply - gigahdxAmount
        balances := b
        pendingUnstakes := s.pendingUnstakes.insert (who, s.blockNumber)
          (Word.saturatingAdd 128 ((s.pendingUnstakes.lookup (who, s.blockNumber)).getD 0) payout')
        stakes := s.stakes.insert who { stake with
          gigahdx := stake.gigahdx - gigahdxAmount
          hdx := hdx'
          unstaking := Word.saturatingAdd 128 stake.unstaking payout'
          unstakingCount := if (s.pendingUnstakes.lookup (who, s.blockNumber)).isNone then
            Word.saturatingAdd 16 stake.unstakingCount 1 else stake.unstakingCount }
        totalLocked := s.totalLocked - (stake.hdx - hdx') } who := by
  simp only [doUnstake, bind_eq_ok, ensure_eq_ok, okOr_eq_ok, Word.checkedSub_eq_some,
    Word.checkedAdd_eq_some, pure, Except.pure, Except.ok.injEq] at h
  obtain ⟨stake, hstake, -, hnew, -, hpos, -, hle, payout, hpay, -, hcommit, newG, ⟨-, rfl⟩,
    supply, ⟨hsup, rfl⟩, ⟨newHdx, y, b⟩, htake, h⟩ := h
  generalize hfd : foldDust (stake.gigahdx - gigahdxAmount) (cfg.committed who) newHdx payout = fd
    at h
  obtain ⟨hdx', payout'⟩ := fd
  obtain ⟨-, ⟨hexp, -⟩, rfl⟩ := h
  exact ⟨stake, payout, newHdx, y, b, hdx', payout', hstake, hnew, hpos, hle, hpay, hcommit, hsup,
    htake, hfd, hexp, rfl⟩

omit [DecidableEq AssetId] in
theorem unlock_eq_ok {positionId : Nat} (h : unlock cfg s who positionId = .ok s') :
    ∃ amount, s.pendingUnstakes.lookup (who, positionId) = some amount ∧
      positionId + cfg.cooldownPeriod ≤ Word.max 32 ∧
      positionId + cfg.cooldownPeriod ≤ s.blockNumber ∧
      s' = refreshLock { s with
        pendingUnstakes := s.pendingUnstakes.erase (who, positionId)
        stakes := releaseUnstaking s.stakes who amount } who := by
  simp only [unlock, bind_eq_ok, ensure_eq_ok, okOr_eq_ok, Word.checkedAdd_eq_some, pure,
    Except.pure, Except.ok.injEq] at h
  obtain ⟨amount, hamount, expiresAt, ⟨hfit, rfl⟩, -, hdue, rfl⟩ := h
  exact ⟨amount, hamount, hfit, hdue, rfl⟩

omit [DecidableEq AssetId] in
theorem cancelUnstake_eq_ok {positionId : Nat} (h : cancelUnstake cfg s who positionId = .ok s') :
    ∃ amount g, s.pendingUnstakes.lookup (who, positionId) = some amount ∧
      doStake cfg { s with
        pendingUnstakes := s.pendingUnstakes.erase (who, positionId)
        stakes := match s.stakes.lookup who with
          | some st => s.stakes.insert who
              { st with unstaking := st.unstaking - amount, unstakingCount := st.unstakingCount - 1 }
          | none => s.stakes } who amount = .ok (s', g) := by
  simp only [cancelUnstake, bind_eq_ok, okOr_eq_ok, pure, Except.pure] at h
  obtain ⟨amount, hamount, ⟨s₁, g⟩, hstake, h⟩ := h
  cases h
  exact ⟨amount, g, hamount, hstake⟩

omit [DecidableEq AccountId] [DecidableEq AssetId] in
/-- The value of no aTokens is nothing. -/
theorem calculateHdxAmountGivenGigahdx_zero {v : Nat}
    (h : calculateHdxAmountGivenGigahdx cfg s 0 = some v) : v = 0 := by
  unfold calculateHdxAmountGivenGigahdx multiplyByRationalWithRounding at h
  simp only [Nat.zero_mul, Nat.zero_div] at h
  split at h
  · cases h
  · simp only [Nat.zero_le, if_true] at h
    split at h
    · simp at *
    · simp at h
      exact h.symm

theorem doRealizeYield_eq_ok {accrued : Nat} (h : doRealizeYield cfg s who = .ok (s', accrued)) :
    ∃ value, calculateHdxAmountGivenGigahdx cfg s
        ((s.stakes.lookup who).getD StakeRecord.empty).gigahdx = some value ∧
      accrued = value - ((s.stakes.lookup who).getD StakeRecord.empty).hdx ∧
      ((accrued = 0 ∧ s' = s) ∨
        (0 < accrued ∧ ∃ b, nativeTransfer cfg s cfg.gigapot who accrued = .ok b ∧
          ((s.stakes.lookup who).getD StakeRecord.empty).hdx + accrued ≤ Word.max 128 ∧
          s' = refreshLock { s with
            balances := b
            stakes := s.stakes.insert who { (s.stakes.lookup who).getD StakeRecord.empty with
              hdx := ((s.stakes.lookup who).getD StakeRecord.empty).hdx + accrued }
            totalLocked := Word.saturatingAdd 128 s.totalLocked accrued } who)) := by
  simp only [doRealizeYield, bind_eq_ok, okOr_eq_ok] at h
  obtain ⟨value, hvalue, h⟩ := h
  refine ⟨value, hvalue, ?_⟩
  split at h
  · rename_i hzero
    simp only [pure, Except.pure, Except.ok.injEq, Prod.mk.injEq] at h
    obtain ⟨rfl, rfl⟩ := h
    exact ⟨hzero.symm, .inl ⟨rfl, rfl⟩⟩
  · rename_i hpos
    simp only [bind_eq_ok, mapError_eq_ok, okOr_eq_ok, Word.checkedAdd_eq_some, pure, Except.pure,
      Except.ok.injEq, Prod.mk.injEq] at h
    obtain ⟨b, htr, hdx, ⟨hfit, rfl⟩, rfl, rfl⟩ := h
    exact ⟨rfl, .inr ⟨Nat.pos_of_ne_zero hpos, b, htr, hfit, rfl⟩⟩

/-- With the borrower's lock covered, `on_seize` moves the HDX by a plain transfer. -/
theorem seizeTransfer_eq {borrower recipient : AccountId} {seizeHdx : Nat}
    (hcover : seizeHdx ≤ s.balances.free cfg.nativeAssetId borrower ∧
      lockOf s borrower ≤ s.balances.free cfg.nativeAssetId borrower - seizeHdx) :
    seizeTransfer cfg s borrower recipient seizeHdx =
      nativeTransfer cfg s borrower recipient seizeHdx := by
  unfold seizeTransfer
  split
  · rename_i h0
    simp [nativeTransfer, h0]
  · rw [if_pos hcover]

theorem onSeize_eq_ok {borrower recipient : AccountId} {seizeHdx seizeGigahdx origGigahdx : Nat}
    (h : onSeize cfg s borrower recipient seizeHdx seizeGigahdx origGigahdx = .ok s') :
    ∃ st sb bal, s.stakes.lookup borrower = some st ∧
      sb = refreshLock { s with
        stakes := s.stakes.insert borrower { st with
          hdx := st.hdx - min seizeHdx st.hdx
          gigahdx := origGigahdx - seizeGigahdx } } borrower ∧
      seizeTransfer cfg sb borrower recipient (min seizeHdx st.hdx) = .ok bal ∧
      ((sb.stakes.lookup recipient).getD StakeRecord.empty).hdx + min seizeHdx st.hdx ≤
        Word.max 128 ∧
      ((sb.stakes.lookup recipient).getD StakeRecord.empty).gigahdx + seizeGigahdx ≤ Word.max 128 ∧
      s' = refreshLock { sb with
        balances := bal
        stakes := sb.stakes.insert recipient { (sb.stakes.lookup recipient).getD StakeRecord.empty with
          hdx := ((sb.stakes.lookup recipient).getD StakeRecord.empty).hdx + min seizeHdx st.hdx
          gigahdx := ((sb.stakes.lookup recipient).getD StakeRecord.empty).gigahdx + seizeGigahdx } }
        recipient := by
  unfold onSeize at h
  cases hst : s.stakes.lookup borrower with
  | none =>
    simp only [hst, bind_eq_ok, okOr_eq_ok, reduceCtorEq, false_and, exists_false] at h
  | some st =>
    simp only [hst, bind_eq_ok, okOr_eq_ok, Word.checkedAdd_eq_some, pure, Except.pure,
      Except.ok.injEq, Option.some.injEq] at h
    obtain ⟨st', rfl, bal, hbal, hdx, ⟨hhdx, rfl⟩, gig, ⟨hgig, rfl⟩, rfl⟩ := h
    exact ⟨st, _, bal, rfl, rfl, hbal, hhdx, hgig, rfl⟩

theorem liquidateGigahdx_eq_ok {borrower : AccountId} {seizedGigahdx : Nat}
    (h : liquidateGigahdx cfg s borrower seizedGigahdx = .ok s') :
    ∃ s₁ st seizeHdx, (s₁ = s ∨ ∃ accrued, doRealizeYield cfg s borrower = .ok (s₁, accrued)) ∧
      s₁.stakes.lookup borrower = some st ∧ 0 < st.gigahdx ∧
      0 < seizedGigahdx ∧ seizedGigahdx ≤ st.gigahdx ∧
      multiplyByRationalWithRounding st.hdx seizedGigahdx st.gigahdx .down = some seizeHdx ∧
      onSeize cfg { s₁ with stakes := s₁.stakes.insert borrower { st with gigahdx := 0 } } borrower
        cfg.liquidationAccount seizeHdx seizedGigahdx st.gigahdx = .ok s' := by
  unfold liquidateGigahdx at h
  -- the realized state, whether `realize_yield` went through or not
  split at h
  all_goals
    simp only [bind_eq_ok, okOr_eq_ok, ensure_eq_ok, mapError_eq_ok, onPreSeize, pure,
      Except.pure] at h
    obtain ⟨st, hst, -, hpos, ⟨s₂, g⟩, ⟨st', hst', hpre⟩, -, ⟨hseized, hle⟩, seizeHdx, hseize, h⟩ := h
    rw [hst, Option.some.injEq] at hst'
    subst hst'
    simp only [Except.ok.injEq, Prod.mk.injEq] at hpre
    obtain ⟨rfl, rfl⟩ := hpre
  · exact ⟨_, st, seizeHdx, .inr ⟨_, by assumption⟩, hst, hpos, hseized, hle, hseize, h⟩
  · exact ⟨s, st, seizeHdx, .inl rfl, hst, hpos, hseized, hle, hseize, h⟩

end Specs

/-! ## Each call keeps the books -/

section Calls

variable [DecidableEq AssetId] {s s' : State AssetId AccountId} {who : AccountId}

omit [DecidableEq AssetId] in
/-- `do_stake` keeps the books when the account holds the HDX it stakes. -/
theorem Books.doStake (hs : Books cfg s) {amount g : Nat} (h : doStake cfg s who amount = .ok (s', g))
    (hgig : who ≠ cfg.gigapot)
    (hback : ((s.stakes.lookup who).getD StakeRecord.empty).hdx +
      ((s.stakes.lookup who).getD StakeRecord.empty).unstaking + amount ≤
        s.balances.free cfg.nativeAssetId who) : Books cfg s' := by
  obtain ⟨st, hst, -, -, -, -, -, -, rfl⟩ := doStake_eq_ok h
  obtain ⟨hun, hcnt, hle, -⟩ := hs.toAccountBooks.getD_books who
  rw [hst] at hun hcnt hle hback
  refine hs.rebook rfl rfl PendingFrame.refl hun hcnt hle (by dsimp only; omega)
    (fun a st' _ h => hs.backed a st' h) hs.issuance hgig ?_
  intro hfit
  rw [hst] at hfit ⊢
  dsimp only at hfit ⊢
  rw [Word.saturatingAdd_of_le (by omega)]
  omega

omit [DecidableEq AssetId] in
/-- `do_stake` after `ensure_stakeable`: the account holds what it stakes. -/
theorem Books.doStake_of_stakeable (hs : Books cfg s) {amount g : Nat} {u : Unit}
    (hens : ensureStakeable cfg s who amount = .ok u)
    (h : GigaHdx.doStake cfg s who amount = .ok (s', g))
    (hgig : who ≠ cfg.gigapot) : Books cfg s' := by
  obtain ⟨-, -, hfree⟩ := ensureStakeable_eq_ok hens
  obtain ⟨-, -, -, hback⟩ := hs.toAccountBooks.getD_books who
  rw [Word.saturatingAdd_of_le (le_trans hback (hs.issuance.free_le who))] at hfree
  exact hs.doStake h hgig (by omega)

omit [DecidableEq AssetId] in
theorem Books.gigaStake (hs : Books cfg s) {amount : Nat} (h : gigaStake cfg s who amount = .ok s')
    (hgig : who ≠ cfg.gigapot) : Books cfg s' := by
  simp only [GigaHdx.gigaStake, bind_eq_ok] at h
  obtain ⟨u, hens, ⟨s₁, g⟩, hstake, hs'⟩ := h
  cases hs'
  exact hs.doStake_of_stakeable hens hstake hgig

/-- Folding the dust moves principal into the payout and keeps their sum. -/
theorem foldDust_le (newGigahdx committed newHdx payout : Nat) :
    (foldDust newGigahdx committed newHdx payout).1 ≤ newHdx := by
  unfold foldDust
  split <;> simp

theorem foldDust_add (newGigahdx committed : Nat) {newHdx payout : Nat}
    (hfit : newHdx + payout ≤ Word.max 128) :
    (foldDust newGigahdx committed newHdx payout).1 + (foldDust newGigahdx committed newHdx payout).2 =
      newHdx + payout := by
  unfold foldDust
  split
  · dsimp only
    rw [Word.saturatingAdd_of_le (by omega)]
    omega
  · rfl

/-- The payout of `do_unstake` and the yield it pulls from the gigapot, against the books: the
account gains the yield, and every record stays backed. -/
theorem AccountBooks.takePayout {hdx payout newHdx y : Nat} {b : Balances AssetId AccountId}
    (hs : AccountBooks cfg s) (h : GigaHdx.takePayout cfg s who hdx payout = .ok (newHdx, y, b))
    (hwho : who ≠ cfg.gigapot) :
    newHdx + payout = hdx + y ∧ newHdx ≤ hdx ∧
      s.balances.free cfg.nativeAssetId who + y ≤ b.free cfg.nativeAssetId who ∧
      b.IssuanceWithin cfg.nativeAssetId (Word.max 128) ∧
      ∀ a st, s.stakes.lookup a = some st → st.hdx + st.unstaking ≤ b.free cfg.nativeAssetId a := by
  rcases takePayout_eq_ok h with ⟨hle, rfl, rfl, rfl⟩ | ⟨hlt, rfl, rfl, htr⟩
  · exact ⟨by omega, Nat.sub_le _ _, by simp, hs.issuance, hs.backed⟩
  · exact ⟨by omega, Nat.zero_le _, nativeTransfer_free_dst htr (Ne.symm hwho),
      nativeTransfer_issuanceWithin htr hs.issuance, hs.backed_transfer htr⟩

/-- `giga_unstake`: the payout joins the position of this block, the principal it consumed
leaves `TotalLocked`. -/
theorem Books.gigaUnstake (hmax : cfg.maxPendingUnstakes ≤ Word.max 16) (hs : Books cfg s)
    {gigahdxAmount : Nat} (h : gigaUnstake cfg s who gigahdxAmount = .ok s') : Books cfg s' := by
  obtain ⟨stake, payout, newHdx, y, b, hdx', payout', hstake, hnew, -, -, -, -, -, htake, hfd, -,
    rfl⟩ := doUnstake_eq_ok h
  have hwho : who ≠ cfg.gigapot := by
    rintro rfl
    rw [hs.gigapot] at hstake
    cases hstake
  obtain ⟨hsum, hle, hfree, hiss, hothers⟩ := hs.toAccountBooks.takePayout htake hwho
  have hback := hs.backed who stake hstake
  have hfit := hiss.free_le who
  -- folding the dust keeps principal plus payout
  have hfold : hdx' + payout' = newHdx + payout ∧ hdx' ≤ newHdx := by
    have := foldDust_add (stake.gigahdx - gigahdxAmount) (cfg.committed who)
      (by omega : newHdx + payout ≤ Word.max 128)
    rw [hfd] at this
    have hle' := foldDust_le (stake.gigahdx - gigahdxAmount) (cfg.committed who) newHdx payout
    rw [hfd] at hle'
    exact ⟨this, hle'⟩
  have hun := hs.unstaking who stake hstake
  have hcnt := hs.unstakingCount who stake hstake
  have hcle := hs.countLe who stake hstake
  have hpa := pendingAmount_insert s.pendingUnstakes who s.blockNumber
    (Word.saturatingAdd 128 ((s.pendingUnstakes.lookup (who, s.blockNumber)).getD 0) payout')
  have hpc := pendingCount_insert s.pendingUnstakes who s.blockNumber
    (Word.saturatingAdd 128 ((s.pendingUnstakes.lookup (who, s.blockNumber)).getD 0) payout')
  -- the position of this block is part of what is unstaking
  have hentry : (s.pendingUnstakes.lookup (who, s.blockNumber)).getD 0 ≤ stake.unstaking := by
    cases hl : s.pendingUnstakes.lookup (who, s.blockNumber) with
    | none => exact Nat.zero_le _
    | some v => exact hs.entry_le hl hstake
  have hsu : Word.saturatingAdd 128 stake.unstaking payout' = stake.unstaking + payout' :=
    Word.saturatingAdd_of_le (by omega)
  have hse : Word.saturatingAdd 128 ((s.pendingUnstakes.lookup (who, s.blockNumber)).getD 0) payout' =
      (s.pendingUnstakes.lookup (who, s.blockNumber)).getD 0 + payout' :=
    Word.saturatingAdd_of_le (by omega)
  refine hs.rebook rfl rfl (PendingFrame.insert _ _) ?_ ?_ ?_ ?_
    (fun a st _ h => hothers a st h) hiss hwho ?_
  case refine_1 =>
    dsimp only
    omega
  case refine_2 =>
    dsimp only
    cases hl : s.pendingUnstakes.lookup (who, s.blockNumber) with
    | none =>
      have hlt := hnew (by simp [hl])
      simp only [hl, Option.isNone_none, if_true] at hpc ⊢
      rw [Word.saturatingAdd_of_le (by omega)]
      omega
    | some v =>
      simp only [hl, reduceCtorEq, if_false, Option.isNone_some, Bool.false_eq_true] at hpc ⊢
      omega
  case refine_3 =>
    dsimp only
    cases hl : s.pendingUnstakes.lookup (who, s.blockNumber) with
    | none =>
      have hlt := hnew (by simp [hl])
      simp only [Option.isNone_none, if_true]
      rw [Word.saturatingAdd_of_le (by omega)]
      exact hlt
    | some v =>
      simp only [Option.isNone_some, Bool.false_eq_true, if_false]
      exact hcle
  case refine_4 =>
    dsimp only
    omega
  case refine_5 =>
    intro _
    simp only [hstake, Option.getD_some]
    have := le_sumBy (fun _ st => st.hdx) hstake
    rw [← hs.totalLocked] at this
    omega

omit [DecidableEq AssetId] in
/-- `unlock`: the released position leaves what is unstaking; an emptied record goes. -/
theorem Books.unlock (hs : Books cfg s) {positionId : Nat}
    (h : GigaHdx.unlock cfg s who positionId = .ok s') : Books cfg s' := by
  obtain ⟨amount, hamount, -, -, rfl⟩ := unlock_eq_ok h
  obtain ⟨stake, hstake⟩ := Option.isSome_iff_exists.mp (hs.recorded who positionId amount hamount)
  have hwho : who ≠ cfg.gigapot := by
    rintro rfl
    rw [hs.gigapot] at hstake
    cases hstake
  have hpa := pendingAmount_erase hamount
  have hpc := pendingCount_erase hamount
  have hun := hs.unstaking who stake hstake
  have hcnt := hs.unstakingCount who stake hstake
  have hback := hs.backed who stake hstake
  unfold releaseUnstaking
  rw [hstake]
  dsimp only
  split
  case isTrue hempty =>
    -- the record is empty once the position is released: it goes, with the lock
    simp only [StakeRecord.isEmpty, Bool.and_eq_true, beq_iff_eq] at hempty
    obtain ⟨⟨⟨hhdx, -⟩, hunst⟩, hcount⟩ := hempty
    have hbooks : AccountBooks cfg (refreshLock { s with
        pendingUnstakes := s.pendingUnstakes.erase (who, positionId)
        stakes := s.stakes.erase who } who) :=
      hs.toAccountBooks.reap rfl rfl (PendingFrame.erase _)
      (fun n v hl => by
        rw [lookup_eq_none_of_pendingCount (by dsimp only; omega) n] at hl
        cases hl) rfl
    refine ⟨hbooks, ?_⟩
    have := sumBy_erase_of_lookup (fun _ st => st.hdx) hstake
    simp only [refreshLock_totalLocked, refreshLock_stakes]
    rw [hs.totalLocked]
    omega
  case isFalse =>
    refine hs.rebook rfl rfl (PendingFrame.erase _) ?_ ?_ ?_ ?_ (fun a st _ h => hs.backed a st h)
      hs.issuance hwho ?_
    · dsimp only
      omega
    · dsimp only
      omega
    · exact le_trans (Nat.sub_le _ _) (hs.countLe who stake hstake)
    · dsimp only
      omega
    · intro _
      simp [hstake]

omit [DecidableEq AssetId] in
/-- `cancel_unstake`: the position goes back into the principal through `do_stake`. -/
theorem Books.cancelUnstake (hs : Books cfg s) {positionId : Nat}
    (h : GigaHdx.cancelUnstake cfg s who positionId = .ok s') : Books cfg s' := by
  obtain ⟨amount, g, hamount, hstake'⟩ := cancelUnstake_eq_ok h
  obtain ⟨stake, hstake⟩ := Option.isSome_iff_exists.mp (hs.recorded who positionId amount hamount)
  have hwho : who ≠ cfg.gigapot := by
    rintro rfl
    rw [hs.gigapot] at hstake
    cases hstake
  simp only [hstake] at hstake'
  obtain ⟨st, hst, -, -, -, -, -, -, rfl⟩ := doStake_eq_ok hstake'
  simp only [AList.lookup_insert, Option.getD_some] at hst
  subst hst
  have hpa := pendingAmount_erase hamount
  have hpc := pendingCount_erase hamount
  have hun := hs.unstaking who stake hstake
  have hcnt := hs.unstakingCount who stake hstake
  have hback := hs.backed who stake hstake
  have hentry := hs.entry_le hamount hstake
  refine hs.rebook (r := { stake with
      hdx := stake.hdx + amount
      gigahdx := stake.gigahdx + g
      unstaking := stake.unstaking - amount
      unstakingCount := stake.unstakingCount - 1 })
    (AList.insert_insert _) rfl (PendingFrame.erase _) ?_ ?_ ?_ ?_
    (fun a st _ h => hs.backed a st h) hs.issuance hwho ?_
  · dsimp only
    omega
  · dsimp only
    omega
  · exact le_trans (Nat.sub_le _ _) (hs.countLe who stake hstake)
  · dsimp only
    omega
  · intro hfit
    simp only [hstake, Option.getD_some] at hfit ⊢
    rw [Word.saturatingAdd_of_le (by omega)]
    omega

/-- `migrate`: the legacy rewards arrive by a transfer, then the unlocked HDX is staked as
`giga_stake` does. -/
theorem Books.migrate (hs : Books cfg s) {paidRewards hdxUnlocked : Nat}
    (h : GigaHdx.migrate cfg s who paidRewards hdxUnlocked = .ok s') (hgig : who ≠ cfg.gigapot) :
    Books cfg s' := by
  simp only [GigaHdx.migrate, bind_eq_ok] at h
  obtain ⟨b, htr, u, hens, ⟨s₁, g⟩, hstake, hs'⟩ := h
  cases hs'
  exact (hs.transfer htr).doStake_of_stakeable hens hstake hgig

/-- `claim_rewards` of the rewards pallet: the rewards arrive from the pot, then are staked. -/
theorem Books.claimRewards (hs : Books cfg s) {total : Nat}
    (h : GigaHdx.claimRewards cfg s who total = .ok s') (hgig : who ≠ cfg.gigapot)
    (hpot : who ≠ cfg.rewardsPot) : Books cfg s' := by
  simp only [GigaHdx.claimRewards, bind_eq_ok, ensure_eq_ok, mapError_eq_ok] at h
  obtain ⟨-, -, -, -, b, htr, ⟨s₁, g⟩, hstake, hs'⟩ := h
  cases hs'
  have hmove := nativeTransfer_free_dst htr (Ne.symm hpot)
  obtain ⟨-, -, -, hback⟩ := hs.toAccountBooks.getD_books who
  exact (hs.transfer htr).doStake hstake hgig (by dsimp only; omega)

/-- `do_realize_yield`: the yield arrives from the gigapot and joins the principal. -/
theorem Books.doRealizeYield (hs : Books cfg s) {accrued : Nat}
    (h : GigaHdx.doRealizeYield cfg s who = .ok (s', accrued)) : Books cfg s' := by
  obtain ⟨value, hvalue, hacc, ⟨-, rfl⟩ | ⟨hpos, b, htr, -, rfl⟩⟩ := doRealizeYield_eq_ok h
  · exact hs
  -- a yield means aTokens, so a record, and the gigapot has none
  have hwho : who ≠ cfg.gigapot := by
    rintro rfl
    rw [hs.gigapot, Option.getD_none] at hvalue hacc
    have := calculateHdxAmountGivenGigahdx_zero hvalue
    simp only [StakeRecord.empty] at hacc
    omega
  have hmove := nativeTransfer_free_dst htr (Ne.symm hwho)
  obtain ⟨hun, hcnt, hle, hback⟩ := hs.toAccountBooks.getD_books who
  refine hs.rebook rfl rfl PendingFrame.refl hun hcnt hle (by dsimp only; omega)
    (fun a st _ h => hs.backed_transfer htr a st h) (nativeTransfer_issuanceWithin htr hs.issuance)
    hwho ?_
  intro hfit
  dsimp only at hfit ⊢
  rw [Word.saturatingAdd_of_le (by omega)]
  omega

/-- `on_seize` after `on_pre_seize`: the seized principal and aTokens move from the borrower to
the recipient. The borrower's lock is lowered first, so the HDX moves by a plain transfer and
the slash of `on_seize` is never reached. -/
theorem Books.onSeize (hs : Books cfg s) {borrower recipient : AccountId} {st : StakeRecord}
    {seizeHdx seizeGigahdx : Nat} (hst : s.stakes.lookup borrower = some st)
    (h : GigaHdx.onSeize cfg { s with stakes := s.stakes.insert borrower { st with gigahdx := 0 } }
      borrower recipient seizeHdx seizeGigahdx st.gigahdx = .ok s')
    (hrec : recipient ≠ cfg.gigapot) : Books cfg s' := by
  obtain ⟨st', sb, bal, hst', rfl, htr, -, -, rfl⟩ := onSeize_eq_ok h
  simp only [AList.lookup_insert, Option.some.injEq] at hst'
  subst hst'
  set rb : StakeRecord :=
    { st with hdx := st.hdx - min seizeHdx st.hdx, gigahdx := st.gigahdx - seizeGigahdx } with hrb
  have hle : min seizeHdx st.hdx ≤ st.hdx := Nat.min_le_right _ _
  have hwho : borrower ≠ cfg.gigapot := by
    rintro rfl
    rw [hs.gigapot] at hst
    cases hst
  have hback := hs.backed borrower st hst
  -- the borrower's record, rebooked with its principal lowered
  have hb : AccountBooks cfg (refreshLock { s with
      stakes := (s.stakes.insert borrower { st with gigahdx := 0 }).insert borrower rb }
      borrower) :=
    hs.toAccountBooks.rebook (r := rb) (AList.insert_insert _) rfl PendingFrame.refl
      (hs.unstaking borrower st hst) (hs.unstakingCount borrower st hst)
      (hs.countLe borrower st hst) (by rw [hrb]; dsimp only; omega)
      (fun a st _ h => hs.backed a st h) hs.issuance hwho
  have hself : (refreshLock { s with
      stakes := (s.stakes.insert borrower { st with gigahdx := 0 }).insert borrower rb }
      borrower).stakes.lookup borrower = some rb := by
    simp
  rw [seizeTransfer_eq ⟨by simp only [refreshLock_balances]; omega,
    by rw [hb.lockOf_eq hself, hrb]; simp only [refreshLock_balances]; omega⟩] at htr
  obtain ⟨hrun, hrcnt, hrle, hrback⟩ := hb.getD_books recipient
  refine ⟨hb.rebook rfl rfl PendingFrame.refl hrun hrcnt hrle ?_
    (fun a st _ h => hb.backed_transfer htr a st h) (nativeTransfer_issuanceWithin htr hb.issuance)
    hrec, ?_⟩
  · -- the recipient holds what it gained, also when it is the borrower
    dsimp only
    by_cases hsame : recipient = borrower
    · subst hsame
      rw [nativeTransfer_self, Except.ok.injEq] at htr
      subst htr
      rw [hself, Option.getD_some] at hrback ⊢
      simp only [refreshLock_balances] at hrback ⊢
      rw [hrb] at hrback ⊢
      dsimp only at hrback ⊢
      omega
    · have hmove := nativeTransfer_free_dst htr (Ne.symm hsame)
      simp only [refreshLock_balances] at hmove hrback
      omega
  · -- `TotalLocked` is unchanged, and so is the sum: what the borrower lost the recipient gained
    simp only [refreshLock_stakes, refreshLock_totalLocked, AList.insert_insert]
    rw [sumBy_hdx_insert, sumBy_hdx_insert, hst, Option.getD_some, ← hs.totalLocked]
    have := le_sumBy (fun _ st => st.hdx) hst
    rw [← hs.totalLocked] at this
    rw [hrb]
    dsimp only
    omega

/-- The gigahdx steps of a liquidation: the borrower's yield is realized if it can be, then
its stake is seized. -/
theorem Books.liquidate (hs : Books cfg s) {borrower : AccountId} {seizedGigahdx : Nat}
    (h : liquidateGigahdx cfg s borrower seizedGigahdx = .ok s')
    (hliq : cfg.liquidationAccount ≠ cfg.gigapot) : Books cfg s' := by
  obtain ⟨s₁, st, seizeHdx, hs₁, hst, -, -, -, -, hseize⟩ := liquidateGigahdx_eq_ok h
  have hb₁ : Books cfg s₁ := by
    rcases hs₁ with rfl | ⟨accrued, hr⟩
    · exact hs
    · exact hs.doRealizeYield hr
  exact hb₁.onSeize hst hseize hliq

end Calls

/-! ## Runs -/

/-- The account that signs a call. -/
def Call.signer : Call AccountId → Option AccountId
  | .gigaStake who _ | .gigaUnstake who _ | .unlock who _ | .cancelUnstake who _
  | .migrate who _ _ | .realizeYield who | .claimRewards who _ | .transfer who _ _ => some who
  | .liquidate _ _ | .advanceBlocks _ => none

/-- The gigapot and the rewards pot are accounts of pallet ids, which sign nothing. -/
def Call.Admissible (cfg : Config AssetId AccountId) (c : Call AccountId) : Prop :=
  ∀ who, c.signer = some who → who ≠ cfg.gigapot ∧ who ≠ cfg.rewardsPot

instance (cfg : Config AssetId AccountId) (c : Call AccountId) : Decidable (c.Admissible cfg) :=
  match h : c.signer with
  | none => .isTrue fun who hw => by rw [h] at hw; cases hw
  | some who =>
    if hw : who ≠ cfg.gigapot ∧ who ≠ cfg.rewardsPot then
      .isTrue fun who' hw' => by rw [h, Option.some.injEq] at hw'; exact hw' ▸ hw
    else .isFalse fun hc => hw (hc who h)

/-- The admissible calls, dispatched. -/
def admissibleStep (cfg : Config AssetId AccountId) [DecidableEq AssetId] :
    {c : Call AccountId // c.Admissible cfg} → State AssetId AccountId →
      Except Error (State AssetId AccountId) :=
  fun c => step cfg c.1

/-- What the books need of the runtime: the count of positions is a `u16`, and the liquidation
account is not the gigapot. -/
structure Config.Sound (cfg : Config AssetId AccountId) : Prop where
  maxPendingUnstakes_le : cfg.maxPendingUnstakes ≤ Word.max 16
  liquidationAccount_ne : cfg.liquidationAccount ≠ cfg.gigapot

section Run

variable [DecidableEq AssetId] {s s' : State AssetId AccountId}

omit [DecidableEq AssetId] in
theorem Books.genesis (h : Genesis cfg s) : Books cfg s := by
  obtain ⟨hstakes, htl, hpending, -, hlocks, hiss⟩ := h
  refine ⟨⟨?_, ?_, ?_, ?_, ?_, ?_, hiss, ?_⟩, ?_⟩
  all_goals simp [hstakes, hpending, hlocks, htl, lockAmount]

/-- Every admissible call keeps the books. -/
theorem Books.step (hcfg : cfg.Sound) (hs : Books cfg s) {c : Call AccountId}
    (hc : c.Admissible cfg) (h : GigaHdx.step cfg c s = .ok s') : Books cfg s' := by
  cases c with
  | gigaStake who amount => exact hs.gigaStake h (hc who rfl).1
  | gigaUnstake who g => exact hs.gigaUnstake hcfg.maxPendingUnstakes_le h
  | unlock who n => exact hs.unlock h
  | cancelUnstake who n => exact hs.cancelUnstake h
  | migrate who paid unlocked => exact hs.migrate h (hc who rfl).1
  | realizeYield who =>
    simp only [GigaHdx.step, GigaHdx.realizeYield, bind_eq_ok] at h
    obtain ⟨⟨s₁, accrued⟩, hr, h⟩ := h
    cases h
    exact hs.doRealizeYield hr
  | claimRewards who total => exact hs.claimRewards h (hc who rfl).1 (hc who rfl).2
  | liquidate borrower seized => exact hs.liquidate h hcfg.liquidationAccount_ne
  | transfer src dst amount =>
    simp only [GigaHdx.step, GigaHdx.transfer, bind_eq_ok] at h
    obtain ⟨b, htr, h⟩ := h
    cases h
    exact hs.transfer htr
  | advanceBlocks n =>
    cases h
    exact ⟨⟨hs.unstaking, hs.unstakingCount, hs.countLe, hs.recorded, hs.locked, hs.backed,
      hs.issuance, hs.gigapot⟩, hs.totalLocked⟩

/-! ### Records are removed only when empty -/

/-- The records of `s` are still there in `s'`. -/
def RecordsKept (s s' : State AssetId AccountId) : Prop :=
  ∀ a, (s.stakes.lookup a).isSome → (s'.stakes.lookup a).isSome

omit [DecidableEq AssetId] in
theorem lookup_insert_isSome {m : StorageMap AccountId StakeRecord} {who a : AccountId}
    {r : StakeRecord} (ha : (m.lookup a).isSome) : ((m.insert who r).lookup a).isSome := by
  by_cases haw : a = who
  · subst haw
    simp
  · rwa [AList.lookup_insert_ne haw]

omit [DecidableEq AssetId] in
theorem RecordsKept.of_insert {who : AccountId} {r : StakeRecord}
    (h : s'.stakes = s.stakes.insert who r) : RecordsKept s s' := by
  intro a ha
  rw [h]
  exact lookup_insert_isSome ha

omit [DecidableEq AssetId] in
theorem RecordsKept.trans {s₁ : State AssetId AccountId} (h₁ : RecordsKept s s₁)
    (h₂ : RecordsKept s₁ s') : RecordsKept s s' := fun a ha => h₂ a (h₁ a ha)

omit [DecidableEq AssetId] in
theorem RecordsKept.doStake {who : AccountId} {amount g : Nat}
    (h : GigaHdx.doStake cfg s who amount = .ok (s', g)) : RecordsKept s s' := by
  obtain ⟨st, -, -, -, -, -, -, -, rfl⟩ := doStake_eq_ok h
  exact .of_insert (refreshLock_stakes _ _)

theorem RecordsKept.doRealizeYield {who : AccountId} {accrued : Nat}
    (h : GigaHdx.doRealizeYield cfg s who = .ok (s', accrued)) : RecordsKept s s' := by
  obtain ⟨-, -, -, ⟨-, rfl⟩ | ⟨-, b, -, -, rfl⟩⟩ := doRealizeYield_eq_ok h
  · exact fun _ h => h
  · exact .of_insert (refreshLock_stakes _ _)

/-- Only `unlock` removes a record, and only one that its release left empty: without principal
or aTokens. -/
theorem removed_empty {c : Call AccountId} (h : GigaHdx.step cfg c s = .ok s') {who : AccountId}
    {st : StakeRecord} (hst : s.stakes.lookup who = some st) (hgone : s'.stakes.lookup who = none) :
    st.hdx = 0 ∧ st.gigahdx = 0 := by
  -- every other call keeps the records
  suffices hkeep : (∃ w n, c = .unlock w n) ∨ RecordsKept s s' by
    rcases hkeep with ⟨w, n, rfl⟩ | hkeep
    · obtain ⟨amount, -, -, -, rfl⟩ := unlock_eq_ok h
      simp only [refreshLock_stakes, releaseUnstaking] at hgone
      revert hgone
      cases hw : s.stakes.lookup w with
      | none =>
        simp [hst]
      | some st' =>
        dsimp only
        split
        · rename_i hempty
          by_cases hww : who = w
          · subst hww
            rw [hst, Option.some.injEq] at hw
            subst hw
            simp only [StakeRecord.isEmpty, Bool.and_eq_true, beq_iff_eq] at hempty
            exact fun _ => ⟨hempty.1.1.1, hempty.1.1.2⟩
          · rw [AList.lookup_erase_ne hww, hst]
            simp
        · intro hnone
          by_cases hww : who = w
          · subst hww
            simp at hnone
          · rw [AList.lookup_insert_ne hww, hst] at hnone
            cases hnone
    · have := hkeep who (by simp [hst])
      simp [hgone] at this
  cases c with
  | unlock w n => exact .inl ⟨w, n, rfl⟩
  | gigaStake who amount =>
    simp only [GigaHdx.step, GigaHdx.gigaStake, bind_eq_ok] at h
    obtain ⟨-, -, ⟨s₁, g⟩, hstake, h⟩ := h
    cases h
    exact .inr (RecordsKept.doStake hstake)
  | gigaUnstake who g =>
    obtain ⟨stake, -, -, -, -, -, -, -, -, -, -, -, -, -, -, -, -, rfl⟩ := doUnstake_eq_ok h
    exact .inr (.of_insert (refreshLock_stakes _ _))
  | cancelUnstake who n =>
    obtain ⟨amount, g, -, hstake⟩ := cancelUnstake_eq_ok h
    refine .inr (RecordsKept.trans ?_ (RecordsKept.doStake hstake))
    intro a ha
    dsimp only
    split
    · exact lookup_insert_isSome ha
    · exact ha
  | migrate who paid unlocked =>
    simp only [GigaHdx.step, GigaHdx.migrate, bind_eq_ok] at h
    obtain ⟨b, -, -, -, ⟨s₁, g⟩, hstake, h⟩ := h
    cases h
    exact .inr fun a ha => RecordsKept.doStake hstake a ha
  | realizeYield who =>
    simp only [GigaHdx.step, GigaHdx.realizeYield, bind_eq_ok] at h
    obtain ⟨⟨s₁, accrued⟩, hr, h⟩ := h
    cases h
    exact .inr (RecordsKept.doRealizeYield hr)
  | claimRewards who total =>
    simp only [GigaHdx.step, GigaHdx.claimRewards, bind_eq_ok] at h
    obtain ⟨-, -, -, -, b, -, ⟨s₁, g⟩, hstake, h⟩ := h
    cases h
    exact .inr fun a ha => RecordsKept.doStake hstake a ha
  | liquidate borrower seized =>
    obtain ⟨s₁, st, seizeHdx, hs₁, hst₁, -, -, -, -, hseize⟩ := liquidateGigahdx_eq_ok h
    obtain ⟨st', sb, bal, -, rfl, -, -, -, rfl⟩ := onSeize_eq_ok hseize
    have hk₁ : RecordsKept s s₁ := by
      rcases hs₁ with rfl | ⟨accrued, hr⟩
      · exact fun _ h => h
      · exact RecordsKept.doRealizeYield hr
    refine .inr (hk₁.trans (RecordsKept.trans (fun a ha => lookup_insert_isSome ha)
      (RecordsKept.trans (.of_insert (refreshLock_stakes _ _)) (.of_insert (refreshLock_stakes _ _)))))
  | transfer src dst amount =>
    simp only [GigaHdx.step, GigaHdx.transfer, bind_eq_ok] at h
    obtain ⟨b, -, h⟩ := h
    cases h
    exact .inr fun _ h => h
  | advanceBlocks n =>
    cases h
    exact .inr fun _ h => h

/-- The books hold in every state reached by admissible calls from a state with nothing staked. -/
theorem Books.reachable (hcfg : cfg.Sound)
    (h : Frame.Reachable (Genesis cfg) (admissibleStep cfg) s) : Books cfg s :=
  Frame.Reachable.induction (fun _ hg => Books.genesis hg)
    (fun c _ _ hs hstep => hs.step hcfg c.2 hstep) h

/-- GIGAHDX stake bookkeeping. In every state reached by admissible calls from a state with
nothing staked: `TotalLocked` is the sum of the records' principal; each record's `unstaking`
and `unstaking_count` are the sum and the number of its account's pending positions, at most
`MaxPendingUnstakes`; every pending position has a record; a call removes a record only when it
holds no principal, no aTokens and no pending position; and the gigahdx lock of every account
is its principal plus what it has unstaking, absent when that is zero. -/
theorem stake_bookkeeping (hcfg : cfg.Sound)
    (hreach : Frame.Reachable (Genesis cfg) (admissibleStep cfg) s) :
    s.totalLocked = sumBy (fun _ st => st.hdx) s.stakes ∧
    (∀ who st, s.stakes.lookup who = some st →
      st.unstaking = pendingAmount s.pendingUnstakes who ∧
      st.unstakingCount = pendingCount s.pendingUnstakes who ∧
      st.unstakingCount ≤ cfg.maxPendingUnstakes) ∧
    (∀ who n v, s.pendingUnstakes.lookup (who, n) = some v → (s.stakes.lookup who).isSome) ∧
    (∀ (c : Call AccountId) s', c.Admissible cfg → GigaHdx.step cfg c s = .ok s' →
      ∀ who st, s.stakes.lookup who = some st → s'.stakes.lookup who = none →
        st.hdx = 0 ∧ st.gigahdx = 0 ∧ ∀ n, s'.pendingUnstakes.lookup (who, n) = none) ∧
    ∀ who, s.locks.lookup who = (s.stakes.lookup who).bind fun st =>
      if st.hdx + st.unstaking = 0 then none else some (st.hdx + st.unstaking) := by
  have hs := Books.reachable hcfg hreach
  refine ⟨hs.totalLocked, fun who st h => ⟨hs.unstaking who st h, hs.unstakingCount who st h,
    hs.countLe who st h⟩, hs.recorded, ?_, ?_⟩
  · intro c s' hc h who st hst hgone
    obtain ⟨hhdx, hgig⟩ := removed_empty h hst hgone
    -- with the record gone, the books of the next state leave no position
    have hs' := hs.step hcfg hc h
    refine ⟨hhdx, hgig, fun n => ?_⟩
    cases hl : s'.pendingUnstakes.lookup (who, n) with
    | none => rfl
    | some v =>
      have := hs'.recorded who n v hl
      simp [hgone] at this
  · intro who
    rw [hs.locked who]
    cases hl : s.stakes.lookup who with
    | none => simp [lockAmount, hl]
    | some st => simp [hs.lockAmount_eq hl]

end Run

theorem exampleConfig_sound : exampleConfig.Sound := ⟨by decide, by decide⟩

/-- Two stakes, one HDX paid into the gigapot, two unstakes in one block, the cooldown, an
unlock, an unstake cancelled in its own block, and a yield realized that leaves the gigapot
below the existential deposit, so that it is reaped. -/
def bookRun : List {c : Call Nat // c.Admissible exampleConfig} :=
  [⟨.gigaStake 4 1000000000000, by decide⟩, ⟨.gigaStake 5 2000000000000, by decide⟩,
   ⟨.transfer 6 0 1000000000000, by decide⟩, ⟨.gigaUnstake 4 300000000000, by decide⟩,
   ⟨.gigaUnstake 4 200000000000, by decide⟩, ⟨.advanceBlocks 403200, by decide⟩,
   ⟨.unlock 4 1, by decide⟩, ⟨.gigaUnstake 5 1000000000000, by decide⟩,
   ⟨.cancelUnstake 5 403201, by decide⟩, ⟨.realizeYield 5, by decide⟩]

theorem stake_bookkeeping_bookRun :
    let s := Frame.run (admissibleStep exampleConfig) bookRun exampleGenesis
    s.totalLocked = sumBy (fun _ st => st.hdx) s.stakes ∧
    (∀ who st, s.stakes.lookup who = some st →
      st.unstaking = pendingAmount s.pendingUnstakes who ∧
      st.unstakingCount = pendingCount s.pendingUnstakes who ∧
      st.unstakingCount ≤ exampleConfig.maxPendingUnstakes) ∧
    (∀ who n v, s.pendingUnstakes.lookup (who, n) = some v → (s.stakes.lookup who).isSome) ∧
    (∀ (c : Call Nat) s', c.Admissible exampleConfig → GigaHdx.step exampleConfig c s = .ok s' →
      ∀ who st, s.stakes.lookup who = some st → s'.stakes.lookup who = none →
        st.hdx = 0 ∧ st.gigahdx = 0 ∧ ∀ n, s'.pendingUnstakes.lookup (who, n) = none) ∧
    ∀ who, s.locks.lookup who = (s.stakes.lookup who).bind fun st =>
      if st.hdx + st.unstaking = 0 then none else some (st.hdx + st.unstaking) :=
  stake_bookkeeping exampleConfig_sound (Frame.reachable_run bookRun (.init exampleGenesis_genesis))

end Hydration.GigaHdx
