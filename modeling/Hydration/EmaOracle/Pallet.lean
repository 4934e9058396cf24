import Hydration.EmaOracle.Math
import Hydration.Frame.Storage
import Hydration.Frame.Dispatch

/-!
# The EMA oracle pallet

`pallet-ema-oracle` collects the trades and liquidity changes of a block per source and asset
pair in an accumulator: the volumes add up, the last price, liquidity and shares issuance win.
At the end of the block `on_finalize` integrates each accumulated entry into the oracles of
every supported period, the `LastBlock` oracle last, because the others first catch up with the
blocks they missed by reading its old value. `get_entry` reads an oracle as of the parent block,
extrapolating an outdated one towards the `LastBlock` value.

Asset ids are `u32` and block numbers `u32`, both `Nat` here; a source is any type with
equality. The hooks are the calls of the model, with `endBlock` for `on_finalize` and the start
of the next block.
-/

namespace Hydration.EmaOracle

open Frame
open GigaHdx (Ratio)

/-- `OraclePeriod`. -/
inductive OraclePeriod
  | lastBlock
  | short
  | tenMinutes
  | hour
  | day
  | week
  deriving DecidableEq, Repr

/-- `into_smoothing`: the smoothing factor of a period, as `Fraction` bits. -/
def intoSmoothing : OraclePeriod → Nat
  | .lastBlock => 170141183460469231731687303715884105728
  | .short => 16203922234330403022065457496750867212
  | .tenMinutes => 3369132345751865974884897103284833777
  | .hour => 566193622164623067326746434994622648
  | .day => 23629079016800115510268356880200556
  | .week => 3375783642235081630771268215908257

/-- `Volume::from_a_in_b_out`. -/
def Volume.fromAInBOut (aIn bOut : Nat) : Volume := ⟨aIn, bOut, 0, 0⟩

/-- `Volume::from_a_out_b_in`. -/
def Volume.fromAOutBIn (aOut bIn : Nat) : Volume := ⟨0, 0, aOut, bIn⟩

/-- `Volume::saturating_add`. -/
def Volume.saturatingAdd (v w : Volume) : Volume :=
  ⟨Word.saturatingAdd 128 v.aIn w.aIn, Word.saturatingAdd 128 v.bOut w.bOut,
    Word.saturatingAdd 128 v.aOut w.aOut, Word.saturatingAdd 128 v.bIn w.bIn⟩

/-- `Volume::inverted`: what flowed in of `a` flowed out of `b`. -/
def Volume.inverted (v : Volume) : Volume := ⟨v.bIn, v.aOut, v.bOut, v.aIn⟩

/-- `Liquidity::inverted`. -/
def Liquidity.inverted (l : Liquidity) : Liquidity := ⟨l.b, l.a⟩

/-- `OracleEntry`. -/
structure OracleEntry where
  price : Ratio
  volume : Volume
  liquidity : Liquidity
  sharesIssuance : Option Nat
  updatedAt : Nat
  deriving DecidableEq, Repr

/-- `AggregatedEntry`, what `get_entry` returns. -/
structure AggregatedEntry where
  price : Ratio
  volume : Volume
  liquidity : Liquidity
  oracleAge : Nat
  sharesIssuance : Option Nat
  deriving DecidableEq, Repr

namespace OracleEntry

/-- `raw_data`: the values the math averages. -/
def rawData (e : OracleEntry) : Ratio × Volume × Liquidity × Option Nat :=
  (e.price, e.volume, e.liquidity, e.sharesIssuance)

/-- `into_aggregated`: the age is counted from the oracle's initialization. -/
def intoAggregated (e : OracleEntry) (initialized : Nat) : AggregatedEntry :=
  ⟨e.price, e.volume, e.liquidity, e.updatedAt - initialized, e.sharesIssuance⟩

/-- `inverted`: the entry of the pair the other way round. -/
def inverted (e : OracleEntry) : OracleEntry :=
  ⟨e.price.inverted, e.volume.inverted, e.liquidity.inverted, e.sharesIssuance, e.updatedAt⟩

/-- `accumulate_volume_and_update_from`: the volumes add up, the rest is the incoming entry's. -/
def accumulateVolumeAndUpdateFrom (e incoming : OracleEntry) : OracleEntry :=
  { incoming with volume := incoming.volume.saturatingAdd e.volume }

/-- `fast_forward_to`: the entry as of a later block with no trades in between. -/
def fastForwardTo (e : OracleEntry) (newUpdatedAt : Nat) : OracleEntry :=
  { e with updatedAt := newUpdatedAt, volume := ⟨0, 0, 0, 0⟩ }

/-- `calculate_new_by_integrating_incoming`: one block on. The incoming entry must be of the
next block; the `LastBlock` oracle takes it as it is. -/
def calculateNewByIntegratingIncoming (e : OracleEntry) (period : OraclePeriod)
    (incoming : OracleEntry) : Option OracleEntry := do
  let iterations ← Word.checkedSub incoming.updatedAt e.updatedAt
  if iterations ≠ 1 then none
  else if period = .lastBlock then some incoming
  else
    let (price, volume, liquidity, shares) :=
      EmaOracle.calculateNewByIntegratingIncoming e.rawData incoming.rawData (intoSmoothing period)
    some ⟨price, volume, liquidity, shares, incoming.updatedAt⟩

/-- `calculate_current_from_outdated`: the blocks between the entry and `updateWith` at once,
their number saturated into a `u32`. -/
def calculateCurrentFromOutdated (e : OracleEntry) (period : OraclePeriod)
    (updateWith : OracleEntry) : Option OracleEntry := do
  let iterations ← Word.checkedSub updateWith.updatedAt e.updatedAt
  if iterations = 0 then none
  else if period = .lastBlock then some updateWith
  else
    let (price, volume, liquidity, shares) :=
      updateOutdatedToCurrent (min iterations (Word.max 32)) e.rawData
        (updateWith.price, updateWith.liquidity, updateWith.sharesIssuance) (intoSmoothing period)
    some ⟨price, volume, liquidity, shares, updateWith.updatedAt⟩

end OracleEntry

theorem intoSmoothing_le (period : OraclePeriod) : intoSmoothing period ≤ fractionDiv := by
  cases period <;> decide

/-- `e'` moves the liquidity and the shares issuance of `e` towards those of `incoming` by a
weight of at most one, as both updates of an oracle do outside `LastBlock`. -/
def Averages (e incoming e' : OracleEntry) : Prop :=
  ∃ w ≤ fractionDiv, e'.liquidity = liquidityWeightedAverage e.liquidity incoming.liquidity w ∧
    e'.sharesIssuance =
      incoming.sharesIssuance.map fun x => balanceWeightedAverage (e.sharesIssuance.getD 0) x w

/-- One block on, an oracle becomes the incoming entry or averages towards it. -/
theorem OracleEntry.calculateNewByIntegratingIncoming_eq_some {e incoming e' : OracleEntry}
    {period : OraclePeriod} (h : e.calculateNewByIntegratingIncoming period incoming = some e') :
    e' = incoming ∨ Averages e incoming e' := by
  simp only [OracleEntry.calculateNewByIntegratingIncoming, Option.bind_eq_bind, Option.bind_eq_some_iff,
    Word.checkedSub_eq_some] at h
  obtain ⟨iterations, -, h⟩ := h
  split_ifs at h
  · exact .inl (Option.some.inj h).symm
  · simp only [EmaOracle.calculateNewByIntegratingIncoming, OracleEntry.rawData, Option.some.injEq] at h
    subst h
    exact .inr ⟨_, intoSmoothing_le period, rfl, rfl⟩

/-- Several blocks on at once, an outdated oracle becomes the `LastBlock` entry or averages
towards it, by the smoothing factor of those blocks. -/
theorem OracleEntry.calculateCurrentFromOutdated_eq_some {e updateWith e' : OracleEntry}
    {period : OraclePeriod} (h : e.calculateCurrentFromOutdated period updateWith = some e') :
    e' = updateWith ∨ Averages e updateWith e' := by
  simp only [OracleEntry.calculateCurrentFromOutdated, Option.bind_eq_bind, Option.bind_eq_some_iff,
    Word.checkedSub_eq_some] at h
  obtain ⟨iterations, -, h⟩ := h
  split_ifs at h
  · exact .inl (Option.some.inj h).symm
  · simp only [updateOutdatedToCurrent, OracleEntry.rawData, Option.some.injEq] at h
    subst h
    exact .inr ⟨_, expSmoothing_le_one _ (intoSmoothing_le period), rfl, rfl⟩


/-- `ordered_pair`. -/
def orderedPair (assetA assetB : Nat) : Nat × Nat :=
  if assetA ≤ assetB then (assetA, assetB) else (assetB, assetA)

/-- `determine_normalized_price`. -/
def determineNormalizedPrice (assetIn assetOut : Nat) (price : Ratio) : Ratio :=
  if orderedPair assetIn assetOut = (assetIn, assetOut) then price else price.inverted

/-- `determine_normalized_volume`. -/
def determineNormalizedVolume (assetIn assetOut amountIn amountOut : Nat) : Volume :=
  if orderedPair assetIn assetOut = (assetIn, assetOut) then Volume.fromAInBOut amountIn amountOut
  else Volume.fromAOutBIn amountOut amountIn

/-- `determine_normalized_liquidity`. -/
def determineNormalizedLiquidity (assetIn assetOut liquidityIn liquidityOut : Nat) : Liquidity :=
  if orderedPair assetIn assetOut = (assetIn, assetOut) then ⟨liquidityIn, liquidityOut⟩
  else ⟨liquidityOut, liquidityIn⟩

/-- The pallet's configuration: `SupportedPeriods`, `InternalSources`, the part of
`OracleWhitelist` that the asset registry answers, and `MaxUniqueEntries`. -/
structure Config (Source : Type) where
  supportedPeriods : List OraclePeriod
  internalSources : Source → Bool
  registryWhitelist : Source → Nat → Nat → Bool
  maxUniqueEntries : Nat

/-- The pallet's storage and the current block. -/
structure State (Source : Type) where
  blockNumber : Nat
  accumulator : StorageMap (Source × (Nat × Nat)) OracleEntry
  oracles : StorageMap (Source × (Nat × Nat) × OraclePeriod) (OracleEntry × Nat)
  whitelistedAssets : List (Source × (Nat × Nat))

/-- The errors of the hooks and the calls. -/
inductive Error
  | tooManyUniqueEntries
  | onTradeValueZero
  | oracleNotFound
  deriving DecidableEq, Repr

/-- `OracleError`, the errors of `get_entry`. -/
inductive OracleError
  | notPresent
  | sameAsset
  deriving DecidableEq, Repr

variable {Source : Type} [DecidableEq Source] (cfg : Config Source)

/-- The runtime's `OracleWhitelist`: the asset registry's or the pallet's. -/
def oracleWhitelist (s : State Source) (source : Source) (assetA assetB : Nat) : Bool :=
  cfg.registryWhitelist source assetA assetB || (source, (assetA, assetB)) ∈ s.whitelistedAssets

/-- `on_entry`: an untracked pair of an internal source is ignored; a known key accumulates,
a new one is refused beyond `MaxUniqueEntries` internal keys. -/
def onEntry (src : Source) (assets : Nat × Nat) (oracleEntry : OracleEntry) (s : State Source) :
    Except Unit (State Source) :=
  let isInternalSource := cfg.internalSources src
  if !oracleWhitelist cfg s src assets.1 assets.2 && isInternalSource then .ok s
  else
    match s.accumulator.lookup (src, assets) with
    | some entry =>
      .ok { s with
        accumulator := s.accumulator.insert (src, assets) (entry.accumulateVolumeAndUpdateFrom oracleEntry) }
    | none =>
      if isInternalSource ∧
          cfg.maxUniqueEntries ≤ (s.accumulator.keys.filter fun k => cfg.internalSources k.1).length
      then .error ()
      else .ok { s with accumulator := s.accumulator.insert (src, assets) oracleEntry }

/-- `OnActivityHandler::on_trade`: zero liquidity is refused; the entry is normalized to the
ordered pair. -/
def onTrade (source : Source) (assetA assetB amountA amountB liquidityA liquidityB : Nat)
    (price : Ratio) (sharesIssuance : Option Nat) (s : State Source) : Except Error (State Source) :=
  if liquidityA = 0 ∨ liquidityB = 0 then .error .onTradeValueZero
  else
    let entry : OracleEntry :=
      ⟨determineNormalizedPrice assetA assetB price,
        determineNormalizedVolume assetA assetB amountA amountB,
        determineNormalizedLiquidity assetA assetB liquidityA liquidityB, sharesIssuance,
        s.blockNumber⟩
    (onEntry cfg source (orderedPair assetA assetB) entry s).mapError fun _ => .tooManyUniqueEntries

/-- `OnActivityHandler::on_liquidity_changed`: no volume, and zero liquidity only logged. -/
def onLiquidityChanged (source : Source) (assetA assetB liquidityA liquidityB : Nat)
    (price : Ratio) (sharesIssuance : Option Nat) (s : State Source) : Except Error (State Source) :=
  let entry : OracleEntry :=
    ⟨determineNormalizedPrice assetA assetB price, ⟨0, 0, 0, 0⟩,
      determineNormalizedLiquidity assetA assetB liquidityA liquidityB, sharesIssuance,
      s.blockNumber⟩
  (onEntry cfg source (orderedPair assetA assetB) entry s).mapError fun _ => .tooManyUniqueEntries

/-- `last_block_oracle`: the `LastBlock` oracle fast-forwarded to `block`. -/
def lastBlockOracle (s : State Source) (source : Source) (assets : Nat × Nat) (block : Nat) :
    Option (OracleEntry × Nat) :=
  (s.oracles.lookup (source, assets, .lastBlock)).map fun lb =>
    (if lb.1.updatedAt ≠ block then lb.1.fastForwardTo block else lb.1, lb.2)

/-- `update_oracle`: a new oracle starts at the incoming entry. An existing one first catches up
to the parent block from the `LastBlock` oracle, then integrates the incoming entry; a step that
fails keeps the value before it. -/
def updateOracle (s : State Source) (src : Source) (assets : Nat × Nat) (period : OraclePeriod)
    (incomingEntry : OracleEntry) : State Source :=
  match s.oracles.lookup (src, assets, period) with
  | none => { s with oracles := s.oracles.insert (src, assets, period) (incomingEntry, s.blockNumber) }
  | some (prevEntry, init) =>
    let parent := s.blockNumber - 1
    let caughtUp :=
      if prevEntry.updatedAt < parent then
        ((lastBlockOracle s src assets parent).bind fun lb =>
          prevEntry.calculateCurrentFromOutdated period lb.1).getD prevEntry
      else prevEntry
    let updated := (caughtUp.calculateNewByIntegratingIncoming period incomingEntry).getD caughtUp
    { s with oracles := s.oracles.insert (src, assets, period) (updated, init) }

/-- The updates of one accumulated entry: the supported periods other than `LastBlock` in
order, then `LastBlock`, whose old value the others read. -/
def updateOraclesOf (s : State Source) (src : Source) (assets : Nat × Nat) (entry : OracleEntry) :
    State Source :=
  let s := (cfg.supportedPeriods.filter (· ≠ .lastBlock)).foldl
    (fun s period => updateOracle s src assets period entry) s
  updateOracle s src assets .lastBlock entry

/-- `update_oracles_from_accumulator`: the accumulator is taken and each entry integrated. The
code walks the `BTreeMap` in key order; the entries update disjoint oracles, so the order of the
walk does not matter. -/
def updateOraclesFromAccumulator (s : State Source) : State Source :=
  s.accumulator.entries.foldl (fun st e => updateOraclesOf cfg st e.1.1 e.1.2 e.2)
    { s with accumulator := ∅ }

/-- The end of a block: `on_finalize`, then the next block starts; `on_initialize` does
nothing. -/
def endBlock (s : State Source) : State Source :=
  { updateOraclesFromAccumulator cfg s with blockNumber := s.blockNumber + 1 }

/-- `get_updated_entry`: an oracle as of the parent block, without the current block's data;
the `LastBlock` oracle is fast-forwarded, an outdated other one extrapolated towards it. -/
def getUpdatedEntry (s : State Source) (src : Source) (assets : Nat × Nat) (period : OraclePeriod) :
    Option (OracleEntry × Nat) := do
  let parent := s.blockNumber - 1
  let lb ← lastBlockOracle s src assets parent
  if period = .lastBlock then some lb
  else
    let stored ← s.oracles.lookup (src, assets, period)
    let entry ← if stored.1.updatedAt < parent then stored.1.calculateCurrentFromOutdated period lb.1
      else some stored.1
    some (entry, stored.2)

/-- `get_entry`: the oracle of the pair as asked, inverted when asked the other way round. -/
def getEntry (s : State Source) (assetA assetB : Nat) (period : OraclePeriod) (source : Source) :
    Except OracleError AggregatedEntry :=
  if assetA = assetB then .error .sameAsset
  else
    match getUpdatedEntry s source (orderedPair assetA assetB) period with
    | none => .error .notPresent
    | some (entry, initialized) =>
      let entry := if (assetA, assetB) ≠ orderedPair assetA assetB then entry.inverted else entry
      .ok (entry.intoAggregated initialized)

/-- `add_oracle`: whitelist a pair; `try_insert` into the bounded set refuses only a new pair
beyond the bound. -/
def addOracle (source : Source) (assets : Nat × Nat) (s : State Source) :
    Except Error (State Source) :=
  let assets := orderedPair assets.1 assets.2
  if (source, assets) ∈ s.whitelistedAssets then .ok s
  else if cfg.maxUniqueEntries ≤ s.whitelistedAssets.length then .error .tooManyUniqueEntries
  else .ok { s with whitelistedAssets := (source, assets) :: s.whitelistedAssets }

/-- `remove_oracle`: unlist a pair and delete its oracles and its accumulated entry; the entry
goes inside the loop over the periods, so only when there is a period. -/
def removeOracle (source : Source) (assets : Nat × Nat) (s : State Source) :
    Except Error (State Source) :=
  let assets := orderedPair assets.1 assets.2
  if (source, assets) ∉ s.whitelistedAssets then .error .oracleNotFound
  else
    .ok { s with
      whitelistedAssets := s.whitelistedAssets.erase (source, assets)
      accumulator := if cfg.supportedPeriods = [] then s.accumulator
        else s.accumulator.erase (source, assets)
      oracles := cfg.supportedPeriods.foldl (fun o period => o.erase (source, assets, period)) s.oracles }

section Frame

/-! ### What writes the oracles -/

variable {cfg}

/-- `update_oracle` writes the oracle of its own key only. -/
theorem updateOracle_lookup_ne {s : State Source} {src : Source} {assets : Nat × Nat}
    {period : OraclePeriod} {entry : OracleEntry} {key : Source × (Nat × Nat) × OraclePeriod}
    (h : key ≠ (src, assets, period)) :
    (updateOracle s src assets period entry).oracles.lookup key = s.oracles.lookup key := by
  unfold updateOracle
  split <;> exact AList.lookup_insert_ne h

theorem onEntry_oracles {src : Source} {assets : Nat × Nat} {entry : OracleEntry}
    {s s' : State Source} (h : onEntry cfg src assets entry s = .ok s') : s'.oracles = s.oracles := by
  unfold onEntry at h
  dsimp only at h
  split at h
  · cases h
    rfl
  split at h
  · cases h
    rfl
  split at h
  · cases h
  · cases h
    rfl

/-- Deleting the oracles of some periods leaves the others as they were. -/
theorem lookup_foldl_erase {m : StorageMap (Source × (Nat × Nat) × OraclePeriod) (OracleEntry × Nat)}
    (pair : Source × (Nat × Nat)) (periods : List OraclePeriod)
    {key : Source × (Nat × Nat) × OraclePeriod} {o : OracleEntry × Nat}
    (h : (periods.foldl (fun o period => o.erase (pair.1, pair.2, period)) m).lookup key = some o) :
    m.lookup key = some o := by
  induction periods generalizing m with
  | nil => exact h
  | cons period periods ih =>
    rw [List.foldl_cons] at h
    exact (StorageMap.lookup_erase_eq_some (ih h)).2

end Frame

/-- What happens to the pallet: the hooks the AMMs call, the authority's calls, and the end of a
block. -/
inductive Call (Source : Type)
  | trade (source : Source) (assetA assetB amountA amountB liquidityA liquidityB : Nat)
      (price : Ratio) (sharesIssuance : Option Nat)
  | liquidityChanged (source : Source) (assetA assetB liquidityA liquidityB : Nat) (price : Ratio)
      (sharesIssuance : Option Nat)
  | addOracle (source : Source) (assets : Nat × Nat)
  | removeOracle (source : Source) (assets : Nat × Nat)
  | endBlock

/-- One call on the pallet. -/
def step : Call Source → State Source → Except Error (State Source)
  | .trade source a b amountA amountB liquidityA liquidityB price shares =>
    onTrade cfg source a b amountA amountB liquidityA liquidityB price shares
  | .liquidityChanged source a b liquidityA liquidityB price shares =>
    onLiquidityChanged cfg source a b liquidityA liquidityB price shares
  | .addOracle source assets => addOracle cfg source assets
  | .removeOracle source assets => removeOracle cfg source assets
  | .endBlock => fun s => .ok (endBlock cfg s)

/-- Only the end of a block writes oracles: every other call keeps them or deletes some. -/
theorem step_oracles {c : Call Source} {s s' : State Source} (hc : c ≠ .endBlock)
    (h : step cfg c s = .ok s') (key : Source × (Nat × Nat) × OraclePeriod) (o : OracleEntry × Nat)
    (ho : s'.oracles.lookup key = some o) : s.oracles.lookup key = some o := by
  cases c with
  | trade source a b amountA amountB liquidityA liquidityB price shares =>
    simp only [step, onTrade] at h
    split at h
    · cases h
    rw [mapError_eq_ok] at h
    rwa [onEntry_oracles h] at ho
  | liquidityChanged source a b liquidityA liquidityB price shares =>
    simp only [step, onLiquidityChanged, mapError_eq_ok] at h
    rwa [onEntry_oracles h] at ho
  | addOracle source assets =>
    simp only [step, addOracle] at h
    split_ifs at h <;> cases h <;> exact ho
  | removeOracle source assets =>
    simp only [step, removeOracle] at h
    split_ifs at h <;> cases h <;>
      exact lookup_foldl_erase (source, orderedPair assets.1 assets.2) cfg.supportedPeriods ho
  | endBlock => exact absurd rfl hc

end Hydration.EmaOracle
