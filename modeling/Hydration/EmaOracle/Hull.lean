import Hydration.EmaOracle.Pallet

/-!
# What stays within the range of the data

An oracle's values should stay within the range of the values finalized for its pair. Each
update averages the old value with the incoming or the `LastBlock` one by a weight of at most
one, so any property of entries that averaging keeps, and that every finalized entry has,
every oracle of the pair has after any run (`run_oraclesOf`). A box of liquidities and a range
of shares issuances are such properties (`liquidityWithin_closed`, `sharesWithin_closed`), so
both stay within the data, also as `get_updated_entry` extrapolates them.

The price does not. `price_weighted_average` moves the previous price towards a higher
incoming one with `rounding_add` and `Rounding::Down`, which rounds the sum
`prev + w * (incoming - prev)` down to 128 bits. That keeps the sum at most `incoming`, but
nothing keeps it at least `prev`: when the step `w * (incoming - prev)` is below the rounding's
relative error of about `2^-128`, the sum rounds to a price below `prev`. From a price of one,
an incoming price of `(2^124 + 2) / (2^124 + 1)` takes every averaging oracle of the runtime to
`(2^127 + 8) / (2^127 + 9)`, below every price of the data (`ema_price_below_data`).
-/

namespace Hydration.EmaOracle

open GigaHdx (Ratio)

/-! ## Properties the updates keep -/

/-- A property of entries that the oracle's updates keep: moving to a later block, and an
average of two entries that have it. -/
structure UpdateClosed (P : OracleEntry → Prop) : Prop where
  fastForwardTo : ∀ e n, P e → P (e.fastForwardTo n)
  averages : ∀ e incoming e', P e → P incoming → Averages e incoming e' → P e'

/-- Every stored oracle of `pair` has the property. -/
def OraclesOf {Source : Type} [DecidableEq Source] (P : OracleEntry → Prop)
    (pair : Source × (Nat × Nat)) (s : State Source) : Prop :=
  ∀ period o, s.oracles.lookup (pair.1, pair.2, period) = some o → P o.1

/-- The entries a call finalizes: the accumulator at the end of a block. -/
def finalizedBy {Source : Type} : Call Source → State Source → List ((Source × (Nat × Nat)) × OracleEntry)
  | .endBlock, s => s.accumulator.entries.map fun e => (e.1, e.2)
  | _, _ => []

/-- The entries a run finalizes, block by block. -/
def finalizedEntries {Source : Type} [DecidableEq Source] (cfg : Config Source) :
    List (Call Source) → State Source → List ((Source × (Nat × Nat)) × OracleEntry)
  | [], _ => []
  | c :: cs, s => finalizedBy c s ++ finalizedEntries cfg cs (Frame.applyCall (step cfg) c s)

section Closed

variable {Source : Type} [DecidableEq Source] {cfg : Config Source} {P : OracleEntry → Prop}
  {pair : Source × (Nat × Nat)}

/-- A fallback that has the property, and an answer that has it whenever there is one. -/
theorem getD_of {α : Type} {Q : α → Prop} {x : Option α} {a : α} (ha : Q a)
    (hx : ∀ b, x = some b → Q b) : Q (x.getD a) := by
  cases x with
  | none => exact ha
  | some b => exact hx b rfl

theorem UpdateClosed.calculateNew (hP : UpdateClosed P) {e incoming e' : OracleEntry}
    {period : OraclePeriod} (he : P e) (hin : P incoming)
    (h : e.calculateNewByIntegratingIncoming period incoming = some e') : P e' := by
  rcases OracleEntry.calculateNewByIntegratingIncoming_eq_some h with rfl | havg
  · exact hin
  · exact hP.averages e incoming e' he hin havg

theorem UpdateClosed.calculateCurrent (hP : UpdateClosed P) {e updateWith e' : OracleEntry}
    {period : OraclePeriod} (he : P e) (hlb : P updateWith)
    (h : e.calculateCurrentFromOutdated period updateWith = some e') : P e' := by
  rcases OracleEntry.calculateCurrentFromOutdated_eq_some h with rfl | havg
  · exact hlb
  · exact hP.averages e updateWith e' he hlb havg

theorem lastBlockOracle_of (hP : UpdateClosed P) {s : State Source} (h : OraclesOf P pair s)
    {block : Nat} {lb : OracleEntry × Nat} (hlb : lastBlockOracle s pair.1 pair.2 block = some lb) :
    P lb.1 := by
  simp only [lastBlockOracle, Option.map_eq_some_iff] at hlb
  obtain ⟨o, ho, rfl⟩ := hlb
  have hstored := h .lastBlock o ho
  split
  · exact hP.fastForwardTo _ _ hstored
  · exact hstored

/-- One `update_oracle` keeps the property for `pair`: it writes another pair's oracle, or
starts from an incoming entry of `pair`, or catches up and integrates from entries that have
it. -/
theorem updateOracle_oraclesOf (hP : UpdateClosed P) {s : State Source} (h : OraclesOf P pair s)
    {src : Source} {assets : Nat × Nat} {period : OraclePeriod} {entry : OracleEntry}
    (hentry : (src, assets) = pair → P entry) :
    OraclesOf P pair (updateOracle s src assets period entry) := by
  intro p o ho
  by_cases hkey : (pair.1, pair.2, p) = (src, assets, period)
  · simp only [Prod.mk.injEq] at hkey
    obtain ⟨rfl, rfl, rfl⟩ := hkey
    have hin := hentry rfl
    unfold updateOracle at ho
    split at ho
    · rw [AList.lookup_insert, Option.some.injEq] at ho
      rw [← ho]
      exact hin
    · rename_i prev init hprev
      rw [AList.lookup_insert, Option.some.injEq] at ho
      rw [← ho]
      have hprevP : P prev := h p (prev, init) hprev
      -- catching up reads the `LastBlock` oracle of the same pair
      have hcaught : P (if prev.updatedAt < s.blockNumber - 1 then
          ((lastBlockOracle s pair.1 pair.2 (s.blockNumber - 1)).bind fun lb =>
            prev.calculateCurrentFromOutdated p lb.1).getD prev else prev) := by
        split
        · refine getD_of hprevP fun b hb => ?_
          obtain ⟨lb, hlb, hcalc⟩ := Option.bind_eq_some_iff.mp hb
          exact hP.calculateCurrent hprevP (lastBlockOracle_of hP h hlb) hcalc
        · exact hprevP
      exact getD_of hcaught fun b hb => hP.calculateNew hcaught hin hb
  · rw [updateOracle_lookup_ne hkey] at ho
    exact h p o ho

theorem updateOraclesOf_oraclesOf (hP : UpdateClosed P) {s : State Source} (h : OraclesOf P pair s)
    {src : Source} {assets : Nat × Nat} {entry : OracleEntry}
    (hentry : (src, assets) = pair → P entry) :
    OraclesOf P pair (updateOraclesOf cfg s src assets entry) := by
  unfold updateOraclesOf
  apply updateOracle_oraclesOf hP _ hentry
  -- the periods other than `LastBlock`, one after another
  induction cfg.supportedPeriods.filter (· ≠ .lastBlock) generalizing s with
  | nil => exact h
  | cons period periods ih =>
    rw [List.foldl_cons]
    exact ih (updateOracle_oraclesOf hP h hentry)

/-- The walk of `on_finalize` over accumulated entries keeps the property for `pair` when the
entries of `pair` have it. -/
theorem foldl_updateOraclesOf (hP : UpdateClosed P)
    (entries : List (Sigma fun _ : Source × (Nat × Nat) => OracleEntry)) {t : State Source}
    (ht : OraclesOf P pair t) (hentries : ∀ e ∈ entries, e.1 = pair → P e.2) :
    OraclesOf P pair (entries.foldl (fun st e => updateOraclesOf cfg st e.1.1 e.1.2 e.2) t) := by
  induction entries generalizing t with
  | nil => exact ht
  | cons e es ih =>
    rw [List.foldl_cons]
    refine ih (updateOraclesOf_oraclesOf hP ht fun heq => ?_) fun e' he' => hentries e' (by simp [he'])
    exact hentries e List.mem_cons_self (by simpa using heq)

/-- The end of a block keeps the property for `pair` when the pair's accumulated entry has it;
clearing the accumulator keeps the oracles. -/
theorem endBlock_oraclesOf (hP : UpdateClosed P) {s : State Source} (h : OraclesOf P pair s)
    (hacc : ∀ e ∈ s.accumulator.entries, e.1 = pair → P e.2) :
    OraclesOf P pair (endBlock cfg s) :=
  foldl_updateOraclesOf hP s.accumulator.entries (t := { s with accumulator := ∅ }) h hacc

/-- One call keeps the property for `pair` when the entries it finalizes for `pair` have it. -/
theorem applyCall_oraclesOf (hP : UpdateClosed P) {s : State Source} (h : OraclesOf P pair s)
    (c : Call Source) (hfin : ∀ e ∈ finalizedBy c s, e.1 = pair → P e.2) :
    OraclesOf P pair (Frame.applyCall (step cfg) c s) := by
  unfold Frame.applyCall
  split
  · rename_i s' hstep
    by_cases hc : c = .endBlock
    · subst hc
      cases hstep
      refine endBlock_oraclesOf hP h fun e he hpair => ?_
      exact hfin (e.1, e.2) (List.mem_map_of_mem he) hpair
    · exact fun period o ho => h period o (step_oracles cfg hc hstep _ o ho)
  · exact h

/-- Over any run, every oracle of `pair` keeps a property that the updates keep, when every
entry the run finalizes for `pair` has it. -/
theorem run_oraclesOf (hP : UpdateClosed P) (cs : List (Call Source)) {s : State Source}
    (h : OraclesOf P pair s) (hfin : ∀ e ∈ finalizedEntries cfg cs s, e.1 = pair → P e.2) :
    OraclesOf P pair (Frame.run (step cfg) cs s) := by
  induction cs generalizing s with
  | nil => exact h
  | cons c cs ih =>
    have hhere : ∀ e ∈ finalizedBy c s, e.1 = pair → P e.2 :=
      fun e he => hfin e (List.mem_append_left _ he)
    exact ih (applyCall_oraclesOf hP h c hhere) fun e he => hfin e (List.mem_append_right _ he)

/-- What `get_updated_entry` reads for `pair` has the property too: the `LastBlock` oracle
fast-forwarded, another oracle as stored or extrapolated towards it. -/
theorem getUpdatedEntry_of (hP : UpdateClosed P) {s : State Source} (h : OraclesOf P pair s)
    {period : OraclePeriod} {r : OracleEntry × Nat}
    (hr : getUpdatedEntry s pair.1 pair.2 period = some r) : P r.1 := by
  simp only [getUpdatedEntry, Option.bind_eq_bind, Option.bind_eq_some_iff] at hr
  obtain ⟨lb, hlb, hr⟩ := hr
  have hlbP := lastBlockOracle_of hP h hlb
  split at hr
  · rw [Option.some.injEq] at hr
    rw [← hr]
    exact hlbP
  · cases hstored : s.oracles.lookup (pair.1, pair.2, period) with
    | none => simp [hstored] at hr
    | some stored =>
      have hstoredP := h period stored hstored
      simp only [hstored, Option.bind_eq_some_iff, Option.some.injEq] at hr
      obtain ⟨_, rfl, hr⟩ := hr
      split at hr <;> simp only [Option.bind_eq_some_iff, Option.some.injEq] at hr
      · obtain ⟨entry, hentry, rfl⟩ := hr
        exact hP.calculateCurrent hstoredP hlbP hentry
      · obtain ⟨entry, rfl, rfl⟩ := hr
        exact hstoredP

end Closed

/-! ## Liquidity and shares issuance stay within the data -/

/-- An entry whose liquidity lies in the box between `lo` and `hi`, component by component. -/
def LiquidityWithin (lo hi : Liquidity) (e : OracleEntry) : Prop :=
  lo.a ≤ e.liquidity.a ∧ e.liquidity.a ≤ hi.a ∧ lo.b ≤ e.liquidity.b ∧ e.liquidity.b ≤ hi.b

instance (lo hi : Liquidity) (e : OracleEntry) : Decidable (LiquidityWithin lo hi e) :=
  inferInstanceAs (Decidable (_ ∧ _ ∧ _ ∧ _))

/-- An entry that reports a shares issuance between `lo` and `hi`. -/
def SharesWithin (lo hi : Nat) (e : OracleEntry) : Prop :=
  ∃ x, e.sharesIssuance = some x ∧ lo ≤ x ∧ x ≤ hi

instance (lo hi : Nat) (e : OracleEntry) : Decidable (SharesWithin lo hi e) :=
  match h : e.sharesIssuance with
  | none => .isFalse fun ⟨_, hx, _⟩ => by rw [h] at hx; cases hx
  | some x =>
    if hx : lo ≤ x ∧ x ≤ hi then .isTrue ⟨x, h, hx⟩
    else .isFalse fun ⟨y, hy, hyb⟩ => hx (by rw [h, Option.some.injEq] at hy; exact hy ▸ hyb)

theorem balanceWeightedAverage_within {lo hi prev incoming w : Nat} (hw : w ≤ fractionDiv)
    (hhi : hi ≤ Word.max 128) (hprev : lo ≤ prev ∧ prev ≤ hi) (hin : lo ≤ incoming ∧ incoming ≤ hi) :
    lo ≤ balanceWeightedAverage prev incoming w ∧ balanceWeightedAverage prev incoming w ≤ hi := by
  have := balanceWeightedAverage_between hw (hprev.2.trans hhi) (hin.2.trans hhi)
  omega

theorem liquidityWithin_closed {lo hi : Liquidity} (hhi : hi.a ≤ Word.max 128 ∧ hi.b ≤ Word.max 128) :
    UpdateClosed (LiquidityWithin lo hi) where
  fastForwardTo _ _ he := he
  averages e incoming e' he hin := by
    rintro ⟨w, hw, hliq, -⟩
    have ha := balanceWeightedAverage_within hw hhi.1 ⟨he.1, he.2.1⟩ ⟨hin.1, hin.2.1⟩
    have hb := balanceWeightedAverage_within hw hhi.2 ⟨he.2.2.1, he.2.2.2⟩ ⟨hin.2.2.1, hin.2.2.2⟩
    unfold LiquidityWithin
    rw [hliq]
    exact ⟨ha.1, ha.2, hb.1, hb.2⟩

/-- A shares issuance stays within a range once the previous and the incoming entry report one
within it; an entry without one would be averaged from zero. -/
theorem sharesWithin_closed {lo hi : Nat} (hhi : hi ≤ Word.max 128) :
    UpdateClosed (SharesWithin lo hi) where
  fastForwardTo _ _ he := he
  averages e incoming e' he hin := by
    rintro ⟨w, hw, -, hshares⟩
    obtain ⟨x, hx, hxlo, hxhi⟩ := he
    obtain ⟨y, hy, hylo, hyhi⟩ := hin
    refine ⟨balanceWeightedAverage x y w, ?_, balanceWeightedAverage_within hw hhi ⟨hxlo, hxhi⟩ ⟨hylo, hyhi⟩⟩
    rw [hshares, hx, hy]
    rfl

section Data

variable {Source : Type} [DecidableEq Source] (cfg : Config Source)

/-- From a state without oracles, over any run, what the oracles of a pair store and what
`get_updated_entry` reads for it keeps every property the updates keep that every entry the run
finalizes for the pair has. -/
theorem oracles_within_data {P : OracleEntry → Prop} (hP : UpdateClosed P)
    (cs : List (Call Source)) {s₀ : State Source} (h₀ : s₀.oracles = ∅)
    (pair : Source × (Nat × Nat)) (hdata : ∀ e ∈ finalizedEntries cfg cs s₀, e.1 = pair → P e.2) :
    OraclesOf P pair (Frame.run (step cfg) cs s₀) ∧
      ∀ period r, getUpdatedEntry (Frame.run (step cfg) cs s₀) pair.1 pair.2 period = some r → P r.1 := by
  have hinit : OraclesOf P pair s₀ := fun period o ho => by
    rw [h₀] at ho
    cases ho
  have hrun := run_oraclesOf hP cs hinit hdata
  exact ⟨hrun, fun _ _ hr => getUpdatedEntry_of hP hrun hr⟩

/-- Liquidity stays within the data: within any box that holds the liquidity of every entry
finalized for the pair. -/
theorem oracle_liquidity_within_data (cs : List (Call Source)) {s₀ : State Source}
    (h₀ : s₀.oracles = ∅) (pair : Source × (Nat × Nat)) {lo hi : Liquidity}
    (hhi : hi.a ≤ Word.max 128 ∧ hi.b ≤ Word.max 128)
    (hdata : ∀ e ∈ finalizedEntries cfg cs s₀, e.1 = pair → LiquidityWithin lo hi e.2) :
    (∀ period o, (Frame.run (step cfg) cs s₀).oracles.lookup (pair.1, pair.2, period) = some o →
        LiquidityWithin lo hi o.1) ∧
      ∀ period r, getUpdatedEntry (Frame.run (step cfg) cs s₀) pair.1 pair.2 period = some r →
        LiquidityWithin lo hi r.1 :=
  oracles_within_data cfg (liquidityWithin_closed hhi) cs h₀ pair hdata

/-- The shares issuance stays within the data: within any range that holds the shares issuance
every entry finalized for the pair reports. -/
theorem oracle_shares_within_data (cs : List (Call Source)) {s₀ : State Source}
    (h₀ : s₀.oracles = ∅) (pair : Source × (Nat × Nat)) {lo hi : Nat} (hhi : hi ≤ Word.max 128)
    (hdata : ∀ e ∈ finalizedEntries cfg cs s₀, e.1 = pair → SharesWithin lo hi e.2) :
    (∀ period o, (Frame.run (step cfg) cs s₀).oracles.lookup (pair.1, pair.2, period) = some o →
        SharesWithin lo hi o.1) ∧
      ∀ period r, getUpdatedEntry (Frame.run (step cfg) cs s₀) pair.1 pair.2 period = some r →
        SharesWithin lo hi r.1 :=
  oracles_within_data cfg (sharesWithin_closed hhi) cs h₀ pair hdata

end Data

/-! ## Runs of the example oracle -/

/-- The runtime's periods and `MaxUniqueEntries`, with one internal source `0` whose pairs the
asset registry whitelists. -/
def exampleConfig : Config Nat where
  supportedPeriods := [.lastBlock, .short, .tenMinutes, .day]
  internalSources := fun src => src == 0
  registryWhitelist := fun _ _ _ => true
  maxUniqueEntries := 40

/-- No oracle yet, in block one. -/
def exampleGenesis : State Nat := ⟨1, ∅, ∅, []⟩

/-- Two blocks of one trade each on the pair `(1, 2)`, the second with more liquidity and more
shares issued than the first. -/
def volumeRun : List (Call Nat) :=
  [.trade 0 1 2 1000 1000 1000000 1000000 Ratio.one (some 1000), .endBlock,
   .trade 0 1 2 1000 1000 2000000 3000000 Ratio.one (some 4000), .endBlock]

/-- Every oracle of the pair holds liquidity between the two trades' liquidities. -/
theorem oracle_liquidity_within_data_volumeRun :
    (∀ period o, (Frame.run (step exampleConfig) volumeRun exampleGenesis).oracles.lookup
        (0, (1, 2), period) = some o → LiquidityWithin ⟨1000000, 1000000⟩ ⟨2000000, 3000000⟩ o.1) ∧
      ∀ period r, getUpdatedEntry (Frame.run (step exampleConfig) volumeRun exampleGenesis) 0 (1, 2)
        period = some r → LiquidityWithin ⟨1000000, 1000000⟩ ⟨2000000, 3000000⟩ r.1 :=
  oracle_liquidity_within_data exampleConfig volumeRun rfl (0, (1, 2)) ⟨by decide, by decide⟩
    (by decide +kernel)

/-- Every oracle of the pair reports a shares issuance between the two trades' issuances. -/
theorem oracle_shares_within_data_volumeRun :
    (∀ period o, (Frame.run (step exampleConfig) volumeRun exampleGenesis).oracles.lookup
        (0, (1, 2), period) = some o → SharesWithin 1000 4000 o.1) ∧
      ∀ period r, getUpdatedEntry (Frame.run (step exampleConfig) volumeRun exampleGenesis) 0 (1, 2)
        period = some r → SharesWithin 1000 4000 r.1 :=
  oracle_shares_within_data exampleConfig volumeRun rfl (0, (1, 2)) (by decide) (by decide +kernel)

/-! ## The price leaves the data -/

/-- Two blocks of one trade each on the pair `(1, 2)`: at a price of one, then just above. -/
def hullRun : List (Call Nat) :=
  [.trade 0 1 2 1000 1000 1000000 1000000 Ratio.one (some 1000), .endBlock,
   .trade 0 1 2 1000 1000 1000000 1000000 ⟨2 ^ 124 + 2, 2 ^ 124 + 1⟩ (some 1000), .endBlock]

/-- Both prices finalized are at least one, yet the short, ten-minute and day oracles store a
price below one, and `get_entry` returns it. -/
theorem ema_price_below_data :
    ¬ Ratio.one.gt ⟨2 ^ 124 + 2, 2 ^ 124 + 1⟩ ∧ Ratio.one.gt ⟨2 ^ 127 + 8, 2 ^ 127 + 9⟩ ∧
    ∀ period ∈ [OraclePeriod.short, .tenMinutes, .day],
      ((Frame.run (step exampleConfig) hullRun exampleGenesis).oracles.lookup
          (0, (1, 2), period)).map (·.1.price) = some ⟨2 ^ 127 + 8, 2 ^ 127 + 9⟩ ∧
      (getEntry (Frame.run (step exampleConfig) hullRun exampleGenesis) 1 2 period 0).toOption.map
          (·.price) = some ⟨2 ^ 127 + 8, 2 ^ 127 + 9⟩ := by
  decide +kernel

end Hydration.EmaOracle
