import Hydration.EvmAccounts.Pallet

/-!
# EVM addresses and accounts map back and forth

The two layouts never meet. A truncated account has the prefix `ETH\0` and eight zero bytes, and
`evm_address` reads its address from the middle. A bound account is one that was not truncated
when it was bound, and `evm_address` reads its address from the front, which is where
`bound_account_id` put it. So the invariant is that no stored binding assembles a truncated
account (`Sound`). `validate_bind_evm_address` keeps it, and no binding is ever replaced or
removed (`Kept`).

* `evmAddress_accountId`: `evm_address ∘ account_id` is the identity in a sound state;
* `step_sound`, `step_kept`: every call keeps the invariant and every binding;
* `evm_address_round_trip`: the four parts of the round trip, in every reachable state.
-/

namespace Hydration.EvmAccounts

open Frame Frame.StorageMap

/-! ## The two layouts -/

section Layouts

variable {e : EvmAddress} {l : AccountIdLast12Bytes} {a : AccountId32}

theorem truncatedAccountId_take : (truncatedAccountId e).bytes.take 4 = ethPrefix := by
  simp [truncatedAccountId, ethPrefix]

theorem truncatedAccountId_drop : (truncatedAccountId e).bytes.drop 24 = List.replicate 8 0 := by
  have h : (ethPrefix ++ e.bytes).length = 24 := by simp [ethPrefix, e.length_eq]
  simp only [truncatedAccountId]
  exact List.drop_left' h

@[simp] theorem isEvmAccount_truncatedAccountId : isEvmAccount (truncatedAccountId e) = true := by
  simp [isEvmAccount, truncatedAccountId_take, truncatedAccountId_drop]

@[simp] theorem evmAddress_truncatedAccountId : evmAddress (truncatedAccountId e) = e := by
  have hmid : ((truncatedAccountId e).bytes.drop 4).take 20 = e.bytes := by
    simp [truncatedAccountId, ethPrefix, e.length_eq]
  rw [evmAddress, if_pos isEvmAccount_truncatedAccountId]
  cases e
  simp only [hmid]

/-- Any other account reads its address from its first twenty bytes. -/
theorem evmAddress_bytes_of_not_evm (h : isEvmAccount a = false) :
    (evmAddress a).bytes = a.bytes.take 20 := by
  rw [evmAddress, if_neg (by simp [h])]

/-- An assembled account that is not truncated gives back the address it was assembled from. -/
theorem evmAddress_accountOfParts (h : isEvmAccount (accountOfParts e l) = false) :
    evmAddress (accountOfParts e l) = e := by
  have hbytes : (evmAddress (accountOfParts e l)).bytes = e.bytes := by
    rw [evmAddress_bytes_of_not_evm h]
    exact List.take_left' e.length_eq
  cases hev : evmAddress (accountOfParts e l)
  cases e
  rw [hev] at hbytes
  simp only [EvmAddress.mk.injEq]
  exact hbytes

/-- Any other account is reassembled from its address and its last twelve bytes. -/
theorem accountOfParts_evmAddress (h : isEvmAccount a = false) :
    accountOfParts (evmAddress a) (lastTwelveBytes a) = a := by
  cases a with
  | mk bytes hlen =>
    have hfront : (evmAddress ⟨bytes, hlen⟩).bytes = bytes.take 20 := evmAddress_bytes_of_not_evm h
    simp only [accountOfParts, lastTwelveBytes, hfront, List.take_append_drop]

end Layouts

/-! ## The invariant and the calls -/

section Calls

variable {AssetId Signature : Type} {cfg : Config AssetId Signature} {s s' : State AssetId}

/-- No stored binding assembles a truncated account. -/
def Sound (s : State AssetId) : Prop :=
  ∀ e l, s.accountExtension.lookup e = some l → isEvmAccount (accountOfParts e l) = false

/-- Every binding of `s` is still in `s'`. -/
def Kept (s s' : State AssetId) : Prop :=
  ∀ e l, s.accountExtension.lookup e = some l → s'.accountExtension.lookup e = some l

theorem Kept.refl (s : State AssetId) : Kept s s := fun _ _ h => h

theorem Kept.trans {s'' : State AssetId} (h₁ : Kept s s') (h₂ : Kept s' s'') : Kept s s'' :=
  fun e l h => h₂ e l (h₁ e l h)

/-- What a successful binding of `who` does to `AccountExtension`: `who` is no truncated account,
its address was free, and the address now holds its last twelve bytes. -/
structure Binds (s s' : State AssetId) (who : AccountId32) : Prop where
  not_evm : isEvmAccount who = false
  free : s.accountExtension.lookup (evmAddress who) = none
  insert : s'.accountExtension = s.accountExtension.insert (evmAddress who) (lastTwelveBytes who)

theorem validateBindEvmAddress_eq_ok {who : AccountId32} {e : EvmAddress} {u : Unit}
    (h : validateBindEvmAddress s who e = .ok u) :
    isEvmAccount who = false ∧ s.accountExtension.lookup e = none := by
  unfold validateBindEvmAddress at h
  simp only [bind_eq_ok, ensure_eq_ok] at h
  obtain ⟨_, hevm, _, hfree, -⟩ := h
  exact ⟨hevm, hfree⟩

theorem bindEvmAddress_binds {who : AccountId32} (h : bindEvmAddress s who = .ok s') : Binds s s' who := by
  unfold bindEvmAddress at h
  simp only [bind_eq_ok] at h
  obtain ⟨u, hval, h⟩ := h
  obtain ⟨hevm, hfree⟩ := validateBindEvmAddress_eq_ok hval
  obtain rfl := Except.ok.inj h
  exact ⟨hevm, hfree, rfl⟩

theorem claimAccount_binds {account : AccountId32} {assetId : AssetId} {signature : Signature}
    (h : claimAccount cfg s account assetId signature = .ok s') : Binds s s' account := by
  unfold claimAccount at h
  simp only [bind_eq_ok] at h
  obtain ⟨_, -, u, hval, world, -, h⟩ := h
  obtain ⟨hevm, hfree⟩ := validateBindEvmAddress_eq_ok hval
  obtain rfl := Except.ok.inj h
  exact ⟨hevm, hfree, rfl⟩

/-- Every call either binds the account it names or leaves `AccountExtension` as it is. -/
theorem step_cases {c : Call AssetId Signature} (h : step cfg c s = .ok s') :
    (∃ who, c.account? = some who ∧ Binds s s' who) ∨
      (c.account? = none ∧ s'.accountExtension = s.accountExtension) := by
  cases c with
  | bindEvmAddress who => exact .inl ⟨who, rfl, bindEvmAddress_binds h⟩
  | claimAccount account assetId signature => exact .inl ⟨account, rfl, claimAccount_binds h⟩
  | outside change =>
    obtain rfl := Except.ok.inj h
    exact .inr ⟨rfl, rfl⟩

theorem Binds.kept {who : AccountId32} (h : Binds s s' who) : Kept s s' := by
  intro e l hl
  rw [h.insert]
  have hne : e ≠ evmAddress who := by
    rintro rfl
    rw [h.free] at hl
    cases hl
  rw [AList.lookup_insert_ne hne]
  exact hl

/-- A binding keeps the invariant: the new entry reassembles the account itself. -/
theorem Binds.sound {who : AccountId32} (h : Binds s s' who) (hs : Sound s) : Sound s' := by
  intro e l hl
  rw [h.insert] at hl
  rcases lookup_insert_eq_some hl with ⟨rfl, rfl⟩ | ⟨-, hl⟩
  · rw [accountOfParts_evmAddress h.not_evm]
    exact h.not_evm
  · exact hs e l hl

theorem step_sound {c : Call AssetId Signature} (h : step cfg c s = .ok s') (hs : Sound s) : Sound s' := by
  rcases step_cases h with ⟨who, -, hb⟩ | ⟨-, hext⟩
  · exact hb.sound hs
  · intro e l hl
    rw [hext] at hl
    exact hs e l hl

theorem step_kept {c : Call AssetId Signature} (h : step cfg c s = .ok s') : Kept s s' := by
  rcases step_cases h with ⟨who, -, hb⟩ | ⟨-, hext⟩
  · exact hb.kept
  · intro e l hl
    rw [hext]
    exact hl

/-- A run keeps every binding: a failed call changes nothing. -/
theorem run_kept : ∀ (cs : List (Call AssetId Signature)) (s : State AssetId), Kept s (Frame.run (step cfg) cs s)
  | [], s => Kept.refl s
  | c :: cs, s => by
    apply Kept.trans _ (run_kept cs _)
    unfold applyCall
    split
    · next s' hok => exact step_kept hok
    · exact Kept.refl s

end Calls

/-! ## The round trip -/

section RoundTrip

variable {AssetId : Type} {s : State AssetId}

/-- In a sound state every bound account is no truncated account. -/
theorem Sound.bound_not_evm (hs : Sound s) {e : EvmAddress} {a : AccountId32}
    (h : boundAccountId s e = some a) : isEvmAccount a = false := by
  unfold boundAccountId at h
  obtain ⟨l, hl, rfl⟩ := Option.map_eq_some_iff.mp h
  exact hs e l hl

/-- In a sound state `evm_address` undoes `account_id`. -/
theorem evmAddress_accountId (hs : Sound s) (e : EvmAddress) : evmAddress (accountId s e) = e := by
  unfold accountId
  cases hb : boundAccountId s e with
  | none => exact evmAddress_truncatedAccountId
  | some a =>
    have hne := hs.bound_not_evm hb
    unfold boundAccountId at hb
    obtain ⟨l, -, rfl⟩ := Option.map_eq_some_iff.mp hb
    exact evmAddress_accountOfParts hne

/-- A binding of `who` makes `account_id` of its address `who` itself. -/
theorem accountId_of_bound {who : AccountId32} (hev : isEvmAccount who = false)
    (hl : s.accountExtension.lookup (evmAddress who) = some (lastTwelveBytes who)) :
    accountId s (evmAddress who) = who := by
  simp only [accountId, boundAccountId, hl, Option.map_some, Option.getD_some]
  exact accountOfParts_evmAddress hev

end RoundTrip

theorem Sound.genesis {AssetId : Type} {s : State AssetId} (h : Genesis s) : Sound s := by
  intro e l hl
  rw [h] at hl
  cases hl

/-- In every reachable state: (a) `evm_address ∘ account_id` is the identity, so `account_id` is
injective; (b) a truncated account is recognised as one and gives back its address; (c) an account
that a call just bound is what `account_id` returns for its address, then and after any later
calls; (d) no bound account is a truncated one. -/
theorem evm_address_round_trip {AssetId Signature : Type} (cfg : Config AssetId Signature) {s : State AssetId}
    (hreach : Reachable Genesis (step cfg) s) :
    (∀ e, evmAddress (accountId s e) = e) ∧ Function.Injective (accountId s) ∧
      (∀ e, isEvmAccount (truncatedAccountId e) = true ∧ evmAddress (truncatedAccountId e) = e) ∧
      (∀ c s' a, step cfg c s = .ok s' → c.account? = some a →
        ∀ cs, accountId (Frame.run (step cfg) cs s') (evmAddress a) = a) ∧
      (∀ e a, boundAccountId s e = some a → isEvmAccount a = false) := by
  have hs : Sound s := hreach.induction (fun _ hg => Sound.genesis hg) fun _ _ _ hs hok => step_sound hok hs
  refine ⟨evmAddress_accountId hs, ?_, fun _ => ⟨isEvmAccount_truncatedAccountId, evmAddress_truncatedAccountId⟩,
    ?_, fun _ _ => hs.bound_not_evm⟩
  · -- a left inverse makes `account_id` injective
    intro e₁ e₂ heq
    rw [← evmAddress_accountId hs e₁, ← evmAddress_accountId hs e₂, heq]
  · intro c s' a hok ha cs
    rcases step_cases hok with ⟨who, hwho, hb⟩ | ⟨hnone, -⟩
    · rw [ha, Option.some.injEq] at hwho
      subst hwho
      have hl : s'.accountExtension.lookup (evmAddress a) = some (lastTwelveBytes a) := by
        rw [hb.insert, AList.lookup_insert]
      exact accountId_of_bound hb.not_evm (run_kept cs s' _ _ hl)
    · rw [ha] at hnone
      cases hnone

/-- A runtime that accepts every claim and sets the fee currency without a trace. -/
def exampleConfig : Config Nat Nat where
  signatureValid _ _ _ := true
  isPaymentCurrency _ := true
  existentialDeposits _ := 0
  setFeeCurrency w _ _ := .ok w

/-- No bindings, no accounts, no nonces. -/
def exampleGenesis : State Nat where
  accountExtension := ∅
  world := { providers := fun _ => 0, sufficients := fun _ => 0, balance := fun _ _ => 0, evmNonce := fun _ => 0 }

/-- An account of thirty-two bytes of one, which is no truncated account. -/
def exampleAccount : AccountId32 := ⟨List.replicate 32 1, by simp⟩

/-- An account claimed and then bound, and an EVM transaction in between. -/
def bindingRun : List (Call Nat Nat) :=
  [.claimAccount exampleAccount 0 0, .outside fun w => { w with evmNonce := fun _ => 1 },
    .bindEvmAddress (truncatedAccountId ⟨List.replicate 20 2, by simp⟩)]

theorem evm_address_round_trip_bindingRun :
    (∀ e, evmAddress (accountId (Frame.run (step exampleConfig) bindingRun exampleGenesis) e) = e) ∧
      Function.Injective (accountId (Frame.run (step exampleConfig) bindingRun exampleGenesis)) ∧
      (∀ e, isEvmAccount (truncatedAccountId e) = true ∧ evmAddress (truncatedAccountId e) = e) ∧
      (∀ c s' a, step exampleConfig c (Frame.run (step exampleConfig) bindingRun exampleGenesis) = .ok s' →
        c.account? = some a → ∀ cs, accountId (Frame.run (step exampleConfig) cs s') (evmAddress a) = a) ∧
      (∀ e a, boundAccountId (Frame.run (step exampleConfig) bindingRun exampleGenesis) e = some a →
        isEvmAccount a = false) :=
  evm_address_round_trip exampleConfig (Frame.reachable_run bindingRun (.init rfl))

end Hydration.EvmAccounts
