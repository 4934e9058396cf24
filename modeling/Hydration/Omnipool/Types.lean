import Hydration.Frame.Arith

/-!
# Omnipool state and state-change types

The types of `math/src/omnipool/types.rs` and `pallets/omnipool/src/types.rs`;
`Balance` (a `u128`) is a natural number bounded by `Word.max u128` where it matters.
A `BalanceUpdate` is a signed delta; `toInt` reads it as an integer, and every
lemma here says how an operation on updates moves that integer, which is all the
pallet's accounting proofs need to know about them.
-/

namespace Hydration.Omnipool

open FixedPoint

/-- Width of `Nat`. -/
abbrev u128 : Nat := 128

/-- Width of `primitive_types::U256`. -/
abbrev u256 : Nat := 256

/-- Indicates whether a delta amount is added or subtracted. -/
inductive BalanceUpdate where
  | increase (amount : Nat)
  | decrease (amount : Nat)
  deriving DecidableEq, Repr

namespace BalanceUpdate

instance : Inhabited BalanceUpdate := ⟨.increase 0⟩

/-- `Deref`: the amount, whichever the direction. -/
def amount : BalanceUpdate → Nat
  | increase a => a
  | decrease a => a

/-- The update as a signed integer. -/
def toInt : BalanceUpdate → Int
  | increase a => a
  | decrease a => -a

/-- `merge` (`CheckedAdd`): opposite directions cancel, equal ones add with overflow check. -/
def merge : BalanceUpdate → BalanceUpdate → Option BalanceUpdate
  | increase a, increase b => (Word.checkedAdd u128 a b).map increase
  | decrease a, decrease b => (Word.checkedAdd u128 a b).map decrease
  | increase a, decrease b => if b ≤ a then some (increase (a - b)) else some (decrease (b - a))
  | decrease a, increase b => if b ≤ a then some (decrease (a - b)) else some (increase (b - a))

/-- `saturating_merge` (`SaturatingAdd`). -/
def saturatingMerge : BalanceUpdate → BalanceUpdate → BalanceUpdate
  | increase a, increase b => increase (Word.saturatingAdd u128 a b)
  | decrease a, decrease b => decrease (Word.saturatingAdd u128 a b)
  | increase a, decrease b => if b ≤ a then increase (a - b) else decrease (b - a)
  | decrease a, increase b => if b ≤ a then decrease (a - b) else increase (b - a)

/-- `update + balance` (`Add<Nat>`): checked in both directions. -/
def addTo : BalanceUpdate → Nat → Option Nat
  | increase a, x => Word.checkedAdd u128 x a
  | decrease a, x => Word.checkedSub x a

@[simp] theorem toInt_increase (a : Nat) : (increase a).toInt = a := rfl

@[simp] theorem toInt_decrease (a : Nat) : (decrease a).toInt = -a := rfl

@[simp] theorem amount_increase (a : Nat) : (increase a).amount = a := rfl

@[simp] theorem amount_decrease (a : Nat) : (decrease a).amount = a := rfl

theorem merge_toInt {a b c : BalanceUpdate} (h : a.merge b = some c) :
    c.toInt = a.toInt + b.toInt := by
  cases a <;> cases b <;> simp only [merge, Option.map_eq_some_iff, Word.checkedAdd_eq_some] at h
  · obtain ⟨_, ⟨-, rfl⟩, rfl⟩ := h; simp
  · split at h <;> cases h <;> simp only [toInt] <;> omega
  · split at h <;> cases h <;> simp only [toInt] <;> omega
  · obtain ⟨_, ⟨-, rfl⟩, rfl⟩ := h; simp; omega

/-- Merging into an increase is exact unless two increases overflow `u128`. -/
theorem saturatingMerge_increase_toInt {a : Nat} {b : BalanceUpdate}
    (h : ∀ e, b = increase e → a + e ≤ Word.max u128) :
    ((increase a).saturatingMerge b).toInt = a + b.toInt := by
  cases b with
  | increase e =>
    simp only [saturatingMerge, Word.saturatingAdd_of_le (h e rfl), toInt_increase]
    push_cast
    rfl
  | decrease e =>
    simp only [saturatingMerge]
    split <;> simp only [toInt] <;> omega

theorem addTo_toInt {d : BalanceUpdate} {x y : Nat} (h : d.addTo x = some y) :
    (y : Int) = x + d.toInt := by
  cases d <;> simp only [addTo, Word.checkedAdd_eq_some, Word.checkedSub_eq_some] at h
  · obtain ⟨-, rfl⟩ := h; simp
  · obtain ⟨hle, rfl⟩ := h; simp; omega

end BalanceUpdate

/-- A signed balance with explicit sign (`SignedBalance`). -/
inductive SignedBalance where
  | positive (v : Nat)
  | negative (v : Nat)
  deriving DecidableEq, Repr

namespace SignedBalance

def zero : SignedBalance := positive 0

instance : Inhabited SignedBalance := ⟨zero⟩

def abs : SignedBalance → Nat
  | positive v => v
  | negative v => v

def isPositive : SignedBalance → Bool
  | positive v => 0 < v
  | negative _ => false

def isNegative : SignedBalance → Bool
  | negative v => 0 < v
  | positive _ => false

def isZero (s : SignedBalance) : Bool := s.abs = 0

def negate : SignedBalance → SignedBalance
  | positive v => negative v
  | negative v => positive v

/-- `checked_add`: equal signs add with overflow check, opposite signs cancel. -/
def checkedAdd : SignedBalance → SignedBalance → Option SignedBalance
  | positive a, positive b => (Word.checkedAdd u128 a b).map positive
  | negative a, negative b => (Word.checkedAdd u128 a b).map negative
  | positive a, negative b => if b ≤ a then some (positive (a - b)) else some (negative (b - a))
  | negative b, positive a => if b ≤ a then some (positive (a - b)) else some (negative (b - a))

/-- `add_to_unsigned`: `balance + self`, `none` when negative or overflowing. -/
def addToUnsigned (s : SignedBalance) (balance : Nat) : Option Nat :=
  match s with
  | positive v => Word.checkedAdd u128 balance v
  | negative v => Word.checkedSub balance v

end SignedBalance

/-- Asset reserve state as the math crate sees it. -/
structure AssetReserveState where
  reserve : Nat
  hubReserve : Nat
  shares : Nat
  protocolShares : Nat
  deriving DecidableEq, Repr

/-- `price()`: hub reserve over reserve as a `FixedU128`. -/
def AssetReserveState.price (s : AssetReserveState) : Option FixedU128 :=
  Fixed.checkedFromRational s.hubReserve s.reserve

/-- Delta changes of an asset state. -/
structure AssetStateChange where
  deltaReserve : BalanceUpdate := .increase 0
  deltaHubReserve : BalanceUpdate := .increase 0
  deltaShares : BalanceUpdate := .increase 0
  deltaProtocolShares : BalanceUpdate := .increase 0
  extraHubReserveAmount : BalanceUpdate := .increase 0
  deriving DecidableEq, Repr

namespace AssetStateChange

/-- `total_delta_hub_reserve`: the hub delta together with the extra minted amount. -/
def totalDeltaHubReserve (c : AssetStateChange) : BalanceUpdate :=
  c.deltaHubReserve.saturatingMerge c.extraHubReserveAmount

/-- `account_for_fee_taken`: burn `amt` of the extra minted hub amount. -/
def accountForFeeTaken (c : AssetStateChange) (amt : Nat) : AssetStateChange :=
  { c with extraHubReserveAmount := c.extraHubReserveAmount.saturatingMerge (.decrease amt) }

@[simp] theorem accountForFeeTaken_deltaShares (c : AssetStateChange) (amt : Nat) :
    (c.accountForFeeTaken amt).deltaShares = c.deltaShares := rfl

@[simp] theorem accountForFeeTaken_deltaProtocolShares (c : AssetStateChange) (amt : Nat) :
    (c.accountForFeeTaken amt).deltaProtocolShares = c.deltaProtocolShares := rfl

@[simp] theorem accountForFeeTaken_deltaReserve (c : AssetStateChange) (amt : Nat) :
    (c.accountForFeeTaken amt).deltaReserve = c.deltaReserve := rfl

@[simp] theorem accountForFeeTaken_deltaHubReserve (c : AssetStateChange) (amt : Nat) :
    (c.accountForFeeTaken amt).deltaHubReserve = c.deltaHubReserve := rfl

/-- A change that moves no shares: a leg of a trade. -/
def KeepsShares (c : AssetStateChange) : Prop :=
  c.deltaShares = .increase 0 ∧ c.deltaProtocolShares = .increase 0

theorem KeepsShares.accountForFeeTaken {c : AssetStateChange} (h : c.KeepsShares) (amt : Nat) :
    (c.accountForFeeTaken amt).KeepsShares :=
  h

end AssetStateChange

/-- Trade fee amounts; `protocolFee` includes the burned part. -/
structure TradeFee where
  assetFee : Nat := 0
  protocolFee : Nat := 0
  burnedProtocolFee : Nat := 0
  deriving DecidableEq, Repr

/-- Delta changes of a trade between two non-hub assets. -/
structure TradeStateChange where
  assetIn : AssetStateChange
  assetOut : AssetStateChange
  fee : TradeFee
  deriving DecidableEq, Repr

/-- Delta changes of a trade against the hub asset. -/
structure HubTradeStateChange where
  asset : AssetStateChange
  fee : TradeFee
  deriving DecidableEq, Repr

/-- Delta changes of adding or removing liquidity. -/
structure LiquidityStateChange where
  asset : AssetStateChange
  deltaPositionReserve : BalanceUpdate := .increase 0
  deltaPositionShares : BalanceUpdate := .increase 0
  lpHubAmount : Nat := 0
  deriving DecidableEq, Repr

/-- A liquidity position as the math crate sees it. -/
structure Position where
  amount : Nat
  shares : Nat
  price : Nat × Nat
  deriving DecidableEq, Repr

def Position.price? (p : Position) : Option FixedU128 :=
  Fixed.checkedFromRational p.price.1 p.price.2

/-- Slip fee parameters of a two-asset trade. -/
structure TradeSlipFees where
  assetInHubReserve : Nat
  assetInDelta : SignedBalance
  assetOutHubReserve : Nat
  assetOutDelta : SignedBalance
  maxSlipFee : Permill
  deriving DecidableEq

/-- Slip fee parameters of a hub-asset trade (buy side only). -/
structure HubTradeSlipFees where
  assetHubReserve : Nat
  assetDelta : SignedBalance
  maxSlipFee : Permill
  deriving DecidableEq

/-- `calculate_burn_amount_based_on_fee_taken`: the share of the extra minted hub
amount matching the part of the asset fee taken by the fee hook. -/
def calculateBurnAmountBasedOnFeeTaken (takenFee totalFeeAmount extraHubAmount : Nat) :
    Nat :=
  if totalFeeAmount = 0 then 0
  else min (Word.saturatingMul u256 takenFee extraHubAmount / totalFeeAmount) (Word.max u128)

/-- `TradeStateChange::account_for_fee_taken`. -/
def TradeStateChange.accountForFeeTaken (v : TradeStateChange) (takenFee : Nat) :
    TradeStateChange :=
  let extraAmt := calculateBurnAmountBasedOnFeeTaken takenFee v.fee.assetFee
    v.assetOut.extraHubReserveAmount.amount
  { v with assetOut := v.assetOut.accountForFeeTaken extraAmt }

/-- `HubTradeStateChange::account_for_fee_taken`. -/
def HubTradeStateChange.accountForFeeTaken (v : HubTradeStateChange) (takenFee : Nat) :
    HubTradeStateChange :=
  let extraAmt := calculateBurnAmountBasedOnFeeTaken takenFee v.fee.assetFee
    v.asset.extraHubReserveAmount.amount
  { v with asset := v.asset.accountForFeeTaken extraAmt }

end Hydration.Omnipool
