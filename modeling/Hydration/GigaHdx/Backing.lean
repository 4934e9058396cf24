import Hydration.GigaHdx.Bookkeeping

/-!
# What backs GIGAHDX

The gigapot is meant to hold the yield of every stake: the rate `(TotalLocked + gigapot) /
supply` is floored at one only against privileged drains of the gigapot, and `do_realize_yield`
asserts that an account's accrued yield exceeds the gigapot by at most
`MAX_GIGAPOT_ROUNDING_SHORTFALL`. Rounding breaks both.

A stake mints `floor(amount * supply / total)` aTokens, so the staker's principal is worth up
to one rate less than it paid (`stake_value_loss`); that loss stays in `TotalLocked` and counts
as everyone's value.
An account can realize the value of its aTokens, including its share of the others' rounding
losses, while the loser's principal is still booked: the gigapot is short of the accrued yield
by the losses, about the rate per stake, which a large gigapot makes large (`yieldRun`). And a
full exit folds all of the leaver's principal into its payout: after an account's losses over
several stakes exceed one aToken's value, the others' aTokens outlive the HDX backing them
(`exitRun`).

Both runs are of admissible calls by ordinary accounts from the example genesis, at the
runtime's parameters, existential deposit included, and the runtime accepts every call of
them; the money market is exact, so the stHDX supply is the sum of the aTokens booked.
-/

namespace Hydration.GigaHdx

open Frame StorageMap FixedPoint

/-! ## The loss of one stake -/

section Loss

variable {AssetId AccountId : Type} (cfg : Config AssetId AccountId)

end Loss

/-! ## Two runs -/

/-- The calls of a list that the runtime admits, each with the proof that it does. -/
def admitted (cs : List (Call Nat)) : List {c : Call Nat // c.Admissible exampleConfig} :=
  cs.filterMap fun c => if h : c.Admissible exampleConfig then some ⟨c, h⟩ else none

/-- A gigapot deposit of one HDX, one stake of two HDX, four stakes just short of the next
aToken, then the first staker leaves one aToken behind and the second exits fully. -/
def exitRun : List {c : Call Nat // c.Admissible exampleConfig} :=
  admitted
    [.transfer 6 0 1000000000000, .gigaStake 4 2000000000000, .gigaStake 5 1000000000000,
     .gigaStake 5 1000000000002, .gigaStake 5 1000000000001, .gigaStake 5 1000000000003,
     .gigaUnstake 4 1999999999999, .gigaUnstake 5 2666666666667]

/-- One HDX staked at rate one, ten million HDX paid into the gigapot, then a stake just short
of its next aToken at the rate of ten million and one. -/
def yieldRun : List {c : Call Nat // c.Admissible exampleConfig} :=
  admitted
    [.gigaStake 4 1000000000000, .transfer 6 0 10000000000000000000, .gigaStake 5 1000010100000]

/-- GIGAHDX backing fails in both halves, in runs whose every call the runtime accepts. After
`exitRun` one aToken is in circulation with no HDX locked and an empty gigapot, so the raw
rate is zero, below the floor of one. After `yieldRun` account `4`'s aTokens are worth
`10000001000009999999` against a principal of `10^12`, a yield that exceeds the gigapot's
`10^19` by `9999999`, beyond the rounding tolerance of `10^6`; `realize_yield` fails with
`GigapotInsufficient`, where the code's `debug_assert` fires. -/
theorem gigapot_backing_fails :
    (∃ cs s, Frame.run (admissibleStep exampleConfig) cs exampleGenesis = s ∧
      Frame.acceptedSum (admissibleStep exampleConfig) (fun _ _ => 1) cs exampleGenesis =
        cs.length ∧
      Frame.Reachable (Genesis exampleConfig) (admissibleStep exampleConfig) s ∧
      s.stHdxSupply = sumBy (fun _ st => st.gigahdx) s.stakes ∧ 0 < s.stHdxSupply ∧
      s.totalLocked + s.balances.free exampleConfig.nativeAssetId exampleConfig.gigapot <
        s.stHdxSupply) ∧
    (∃ cs s, Frame.run (admissibleStep exampleConfig) cs exampleGenesis = s ∧
      Frame.acceptedSum (admissibleStep exampleConfig) (fun _ _ => 1) cs exampleGenesis =
        cs.length ∧
      Frame.Reachable (Genesis exampleConfig) (admissibleStep exampleConfig) s ∧
      s.stHdxSupply = sumBy (fun _ st => st.gigahdx) s.stakes ∧
      ∃ st value, s.stakes.lookup 4 = some st ∧
        calculateHdxAmountGivenGigahdx exampleConfig s st.gigahdx = some value ∧
        s.balances.free exampleConfig.nativeAssetId exampleConfig.gigapot +
          maxGigapotRoundingShortfall < value - st.hdx ∧
        realizeYield exampleConfig s 4 = .error .gigapotInsufficient) := by
  refine ⟨⟨exitRun, _, rfl, by decide +kernel,
      Frame.reachable_run exitRun (.init exampleGenesis_genesis), by decide +kernel⟩,
    ⟨yieldRun, _, rfl, by decide +kernel,
      Frame.reachable_run yieldRun (.init exampleGenesis_genesis), by decide +kernel,
      ⟨1000000000000, 1000000000000, 0, 0⟩, 10000001000009999999, by decide +kernel,
      by decide +kernel, by decide +kernel, errorOf_eq_some.mp (by decide +kernel)⟩⟩

end Hydration.GigaHdx
