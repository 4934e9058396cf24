import Hydration.Frame.Arith
import Hydration.Frame.Dispatch
import Hydration.Frame.Storage

/-!
# pallet-evm-accounts

A Substrate account is thirty-two bytes and an EVM address twenty. Two layouts connect them. An
EVM address `e` that nobody has bound stands for its *truncated* account `ETH\0 ++ e ++ 0^8`, which
`_is_evm_account` recognises by its prefix and its eight zero bytes. A Substrate account `a` binds
the address made of its first twenty bytes, and the pallet stores the remaining twelve under that
address (`AccountExtension`), so that `bound_account_id` can put `a` back together.

Binding happens through `bind_evm_address`, signed by the account, and through `claim_account`,
unsigned, with a signature of the account. Every other pallet, the EVM with its nonces included,
changes only the rest of the world; none of them writes `AccountExtension`.
-/

namespace Hydration.EvmAccounts

open Frame

/-- `AccountId32`: thirty-two bytes. -/
structure AccountId32 where
  bytes : List UInt8
  length_eq : bytes.length = 32
  deriving DecidableEq

/-- `EvmAddress`, an `H160`: twenty bytes. -/
structure EvmAddress where
  bytes : List UInt8
  length_eq : bytes.length = 20
  deriving DecidableEq

/-- `AccountIdLast12Bytes`. -/
structure AccountIdLast12Bytes where
  bytes : List UInt8
  length_eq : bytes.length = 12
  deriving DecidableEq

/-- `b"ETH\0"`. -/
def ethPrefix : List UInt8 := [69, 84, 72, 0]

/-- `_is_evm_account`: the prefix `ETH\0` and eight zero bytes at the end. -/
def isEvmAccount (a : AccountId32) : Bool :=
  decide (a.bytes.take 4 = ethPrefix ∧ a.bytes.drop 24 = List.replicate 8 0)

/-- `evm_address`: the twenty bytes after the prefix of a truncated account, the first twenty of
any other account. -/
def evmAddress (a : AccountId32) : EvmAddress :=
  if isEvmAccount a then ⟨(a.bytes.drop 4).take 20, by simp [a.length_eq]⟩
  else ⟨a.bytes.take 20, by simp [a.length_eq]⟩

/-- `truncated_account_id`: `ETH\0 ++ e ++ 0^8`. -/
def truncatedAccountId (e : EvmAddress) : AccountId32 :=
  ⟨ethPrefix ++ e.bytes ++ List.replicate 8 0, by simp [ethPrefix, e.length_eq]⟩

/-- The twelve bytes `[20..32]` that `do_bind_evm_address` stores. -/
def lastTwelveBytes (a : AccountId32) : AccountIdLast12Bytes :=
  ⟨a.bytes.drop 20, by simp [a.length_eq]⟩

/-- The account `bound_account_id` assembles: the address, then the stored twelve bytes. -/
def accountOfParts (e : EvmAddress) (last12 : AccountIdLast12Bytes) : AccountId32 :=
  ⟨e.bytes ++ last12.bytes, by simp [e.length_eq, last12.length_eq]⟩

/-- What the other pallets keep about an account: its reference counts, its balances, and the
nonce the EVM keeps for an address. -/
structure World (AssetId : Type) where
  providers : AccountId32 → Nat
  sufficients : AccountId32 → Nat
  balance : AssetId → AccountId32 → Nat
  evmNonce : EvmAddress → Nat

/-- The pallet's `AccountExtension`, and the world around it. -/
structure State (AssetId : Type) where
  accountExtension : StorageMap EvmAddress AccountIdLast12Bytes
  world : World AssetId

inductive Error
  | truncatedAccountAlreadyUsed
  | addressAlreadyBound
  | invalidSignature
  | accountAlreadyExists
  | insufficientAssetBalance
  /-- an error of `FeeCurrency`: the asset cannot pay fees, or it cannot be set -/
  | feeCurrency
  deriving DecidableEq

/-- The runtime around the pallet: the signature check of a claim, and the fee currency. -/
structure Config (AssetId Signature : Type) where
  /-- `validate_signature` of the claim message for the account and the asset, signed raw or
  wrapped in `<Bytes>`. -/
  signatureValid : AccountId32 → AssetId → Signature → Bool
  isPaymentCurrency : AssetId → Bool
  existentialDeposits : AssetId → Nat
  /-- `FeeCurrency::set`. -/
  setFeeCurrency : World AssetId → AccountId32 → AssetId → Except Error (World AssetId)

section Pallet

variable {AssetId Signature : Type} (cfg : Config AssetId Signature)

/-- `bound_account_id`: the account bound to `e`, if any. -/
def boundAccountId (s : State AssetId) (e : EvmAddress) : Option AccountId32 :=
  (s.accountExtension.lookup e).map (accountOfParts e)

/-- `account_id`: the bound account, or else the truncated one. -/
def accountId (s : State AssetId) (e : EvmAddress) : AccountId32 :=
  (boundAccountId s e).getD (truncatedAccountId e)

/-- `frame_system::account_exists`. -/
def accountExists (w : World AssetId) (a : AccountId32) : Bool :=
  decide (0 < w.providers a + w.sufficients a)

/-- `validate_bind_evm_address`. -/
def validateBindEvmAddress (s : State AssetId) (who : AccountId32) (evmAddress : EvmAddress) :
    Except Error Unit := do
  ensure (isEvmAccount who = false) .truncatedAccountAlreadyUsed
  -- binding an address twice is refused outright
  ensure (s.accountExtension.lookup evmAddress = none) .addressAlreadyBound
  ensure (s.world.evmNonce evmAddress = 0) .truncatedAccountAlreadyUsed

/-- `do_bind_evm_address`: the last twelve bytes under the address, and one more sufficient
reference for the account. -/
def doBindEvmAddress (s : State AssetId) (who : AccountId32) (evmAddress : EvmAddress) : State AssetId :=
  { accountExtension := s.accountExtension.insert evmAddress (lastTwelveBytes who)
    world := { s.world with
      sufficients := Function.update s.world.sufficients who (Word.saturatingAdd 32 (s.world.sufficients who) 1) } }

/-- `bind_evm_address`, signed by `who`. -/
def bindEvmAddress (s : State AssetId) (who : AccountId32) : Except Error (State AssetId) := do
  let evmAddress := evmAddress who
  validateBindEvmAddress s who evmAddress
  pure (doBindEvmAddress s who evmAddress)

/-- `verify_claim_account`. -/
def verifyClaimAccount (s : State AssetId) (account : AccountId32) (assetId : AssetId) (signature : Signature) :
    Except Error Unit := do
  ensure (cfg.signatureValid account assetId signature = true) .invalidSignature
  ensure (cfg.isPaymentCurrency assetId = true) .feeCurrency
  ensure (accountExists s.world account = false) .accountAlreadyExists
  ensure (cfg.existentialDeposits assetId ≤ s.world.balance assetId account) .insufficientAssetBalance

/-- `claim_account`, unsigned: the account proves itself by a signature, binds its address and
sets its fee currency. -/
def claimAccount (s : State AssetId) (account : AccountId32) (assetId : AssetId) (signature : Signature) :
    Except Error (State AssetId) := do
  let evmAddress := evmAddress account
  verifyClaimAccount cfg s account assetId signature
  validateBindEvmAddress s account evmAddress
  let s := doBindEvmAddress s account evmAddress
  let world ← cfg.setFeeCurrency s.world account assetId
  pure { s with world }

end Pallet

/-! ## The calls -/

/-- What can happen to the pallet's storage: the two binding calls, and any change of the world
by another pallet or the EVM. -/
inductive Call (AssetId Signature : Type)
  | bindEvmAddress (who : AccountId32)
  | claimAccount (account : AccountId32) (assetId : AssetId) (signature : Signature)
  | outside (change : World AssetId → World AssetId)

/-- The account a call binds, if it is a binding call. -/
def Call.account? {AssetId Signature : Type} : Call AssetId Signature → Option AccountId32
  | .bindEvmAddress who => some who
  | .claimAccount account _ _ => some account
  | .outside _ => none

section Step

variable {AssetId Signature : Type} (cfg : Config AssetId Signature)

def step : Call AssetId Signature → State AssetId → Except Error (State AssetId)
  | .bindEvmAddress who, s => bindEvmAddress s who
  | .claimAccount account assetId signature, s => claimAccount cfg s account assetId signature
  | .outside change, s => .ok { s with world := change s.world }

/-- No address is bound at genesis. -/
def Genesis (s : State AssetId) : Prop := s.accountExtension = ∅

end Step

end Hydration.EvmAccounts
