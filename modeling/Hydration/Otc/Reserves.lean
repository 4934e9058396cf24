import Hydration.Otc.Settlements

/-!
# The named reserve is the orders' `amount_out`

In every state reached from a genesis without orders or reserves, whatever interleaving of the
calls of `step` led there, the balance reserved under `NAMED_RESERVE_ID` of each account in each
asset is the sum of `amount_out` over that account's orders selling that asset, and every open
order clears the minimum order amount on both legs (`otc_reserve_accounting`).

Each fill releases exactly what it takes off the order: the whole `amount_out` when the order
goes, the pro-rata part, rounded down, when it shrinks (`Released`). The books (`OrderBooks`) add
freshness of the order ids, so that `place_order` never writes over an order.
-/

namespace Hydration.Otc

open Frame Frame.StorageMap FixedPoint

variable {AccountId AssetId : Type} [DecidableEq AccountId] [DecidableEq AssetId]

/-- What an order holds in the named reserve of `who` in `asset`. -/
def reserveOf (asset : AssetId) (who : AccountId) (o : Order AccountId AssetId) : Nat :=
  if asset = o.assetOut ∧ who = o.owner then o.amountOut else 0

/-- The `amount_out` of the orders of `who` that sell `asset`. -/
def orderedReserve (s : State AccountId AssetId) (asset : AssetId) (who : AccountId) : Nat :=
  sumBy (fun _ o => reserveOf asset who o) s.orders

/-- An open order clears the minimum order amount on both legs, its `asset_out` net of the fee. -/
def Order.Valid (cfg : Config AccountId AssetId) (o : Order AccountId AssetId) : Prop :=
  cfg.existentialDeposits o.assetIn * cfg.existentialDepositMultiplier ≤ o.amountIn ∧
    calculateFee cfg o.amountOut ≤ o.amountOut ∧
    cfg.existentialDeposits o.assetOut * cfg.existentialDepositMultiplier ≤
      o.amountOut - calculateFee cfg o.amountOut

/-- No orders and nothing reserved. -/
structure Genesis (s : State AccountId AssetId) : Prop where
  orders : s.orders = ∅
  reserved : ∀ asset who, s.reserved.free asset who = 0

variable {cfg : Config AccountId AssetId} {s s' s₁ : State AccountId AssetId}

/-! ## What each function does -/

omit [DecidableEq AccountId] [DecidableEq AssetId] in
theorem ensureMinOrderAmount_eq_ok {asset : AssetId} {amount : Nat} {u : Unit} :
    ensureMinOrderAmount cfg asset amount = .ok u ↔
      cfg.existentialDeposits asset * cfg.existentialDepositMultiplier ≤ Word.max 128 ∧
        cfg.existentialDeposits asset * cfg.existentialDepositMultiplier ≤ amount := by
  unfold ensureMinOrderAmount
  simp only [bind_eq_ok, okOr_eq_ok, Word.checkedMul_eq_some, ensure_eq_ok]
  constructor
  · rintro ⟨m, ⟨hmax, rfl⟩, hm⟩
    exact ⟨hmax, hm⟩
  · rintro ⟨hmax, hm⟩
    exact ⟨_, ⟨hmax, rfl⟩, hm⟩

omit [DecidableEq AccountId] [DecidableEq AssetId] in
/-- What is left of a partial fill that passed `ensure_remaining_order_valid` is a valid order. -/
theorem ensureRemainingOrderValid_valid {o : Order AccountId AssetId} {newAmountIn newAmountOut : Nat}
    {u : Unit} (h : ensureRemainingOrderValid cfg o.assetIn o.assetOut newAmountIn newAmountOut = .ok u) :
    ({ o with amountIn := newAmountIn, amountOut := newAmountOut } : Order AccountId AssetId).Valid cfg := by
  unfold ensureRemainingOrderValid at h
  simp only [bind_eq_ok, okOr_eq_ok, Word.checkedSub_eq_some] at h
  obtain ⟨_, hin, _, ⟨hfee, rfl⟩, hout⟩ := h
  exact ⟨(ensureMinOrderAmount_eq_ok.mp hin).2, hfee, (ensureMinOrderAmount_eq_ok.mp hout).2⟩

/-- `s'` is `s` with `amount` of `asset` released from the named reserve of `who`, and the
pallet's storage as it was. -/
structure Released (s s' : State AccountId AssetId) (asset : AssetId) (who : AccountId) (amount : Nat) :
    Prop where
  le : amount ≤ s.reserved.free asset who
  reserved : s'.reserved = s.reserved.set asset who (s.reserved.free asset who - amount)
  orders : s'.orders = s.orders
  nextOrderId : s'.nextOrderId = s.nextOrderId

section Released

variable {asset : AssetId} {who : AccountId} {amount : Nat}

theorem Released.withWorld (h : Released s s' asset who amount) (world : World AccountId AssetId) :
    Released s { s' with world } asset who amount :=
  ⟨h.le, h.reserved, h.orders, h.nextOrderId⟩

theorem Released.fromWorld {world : World AccountId AssetId}
    (h : Released { s with world } s' asset who amount) : Released s s' asset who amount :=
  ⟨h.le, h.reserved, h.orders, h.nextOrderId⟩

/-- An `unreserve_named` that left nothing unreserved released the whole amount. -/
theorem unreserveNamed_released (h : (unreserveNamed s asset who amount).2 = 0) :
    Released s (unreserveNamed s asset who amount).1 asset who amount := by
  unfold unreserveNamed at h ⊢
  dsimp only at h ⊢
  have hle : amount ≤ s.reserved.free asset who := by omega
  rw [Nat.min_eq_left hle]
  exact ⟨hle, rfl, rfl, rfl⟩

theorem releaseReservedAssetOut_released {owner filler : AccountId} {amountOut fee : Nat}
    (h : releaseReservedAssetOut cfg s asset owner filler amountOut fee = .ok s') :
    Released s s' asset owner amountOut := by
  unfold releaseReservedAssetOut at h
  simp only [bind_eq_ok, ensure_eq_ok, okOr_eq_ok] at h
  obtain ⟨_, hzero, _, -, w₁, -, w₂, -, h⟩ := h
  obtain rfl := Except.ok.inj h
  exact (unreserveNamed_released hzero).withWorld w₂

/-- The filler pays first, which the reserve does not see. -/
theorem executeOrder_released {order : Order AccountId AssetId} {amountIn amountOut fee : Nat}
    (h : executeOrder cfg s order who amountIn amountOut fee = .ok s') :
    Released s s' order.assetOut order.owner amountOut := by
  unfold executeOrder at h
  simp only [bind_eq_ok] at h
  obtain ⟨world, -, h⟩ := h
  exact (releaseReservedAssetOut_released h).fromWorld

end Released

/-! ## The calls -/

theorem reserveNamed_eq_ok {asset : AssetId} {who : AccountId} {amount : Nat}
    (h : reserveNamed s asset who amount = .ok s') :
    ∃ free, s.world.free.withdraw asset who amount = some free ∧
      s' = { s with world := { s.world with free }, reserved := s.reserved.deposit asset who amount } := by
  unfold reserveNamed at h
  simp only [bind_eq_ok, okOr_eq_ok] at h
  obtain ⟨free, hfree, h⟩ := h
  exact ⟨free, hfree, (Except.ok.inj h).symm⟩

/-- A placed order is valid, reserved whole, and stored under the next id, which is a `u32`. -/
theorem placeOrder_eq_ok {owner : AccountId} {assetIn assetOut : AssetId} {amountIn amountOut : Nat}
    {partiallyFillable : Bool}
    (h : placeOrder cfg s owner assetIn assetOut amountIn amountOut partiallyFillable = .ok s') :
    let order : Order AccountId AssetId :=
      { owner, assetIn, assetOut, amountIn, amountOut, partiallyFillable }
    order.Valid cfg ∧ s.nextOrderId + 1 ≤ Word.max 32 ∧
      ∃ free, s.world.free.withdraw assetOut owner amountOut = some free ∧
        s' = { s with
          nextOrderId := s.nextOrderId + 1
          orders := s.orders.insert s.nextOrderId order
          reserved := s.reserved.deposit assetOut owner amountOut
          world := { s.world with free } } := by
  unfold placeOrder at h
  simp only [bind_eq_ok, ensure_eq_ok, okOr_eq_ok, Word.checkedSub_eq_some, Word.checkedAdd_eq_some] at h
  obtain ⟨_, -, _, hin, _, ⟨hfee, rfl⟩, _, hout, s₁, hres, _, ⟨hmax, rfl⟩, h⟩ := h
  obtain ⟨free, hfree, rfl⟩ := reserveNamed_eq_ok hres
  exact ⟨⟨(ensureMinOrderAmount_eq_ok.mp hin).2, hfee, (ensureMinOrderAmount_eq_ok.mp hout).2⟩, hmax,
    free, hfree, (Except.ok.inj h).symm⟩

/-- A partial fill releases the pro-rata `amount_out` and leaves the order with that much less,
still valid. -/
theorem partialFillOrder_eq_ok {who : AccountId} {orderId amountIn : Nat}
    (h : partialFillOrder cfg s who orderId amountIn = .ok s') :
    ∃ order amountOut s₁, s.orders.lookup orderId = some order ∧
      partialAmountOut order.amountOut amountIn order.amountIn = .ok amountOut ∧ amountOut ≤ order.amountOut ∧
      ({ order with amountIn := order.amountIn - amountIn, amountOut := order.amountOut - amountOut } :
        Order AccountId AssetId).Valid cfg ∧
      Released s s₁ order.assetOut order.owner amountOut ∧
      s' = { s₁ with orders := s₁.orders.insert orderId { order with
        amountIn := order.amountIn - amountIn, amountOut := order.amountOut - amountOut } } := by
  unfold partialFillOrder at h
  simp only [bind_eq_ok, ensure_eq_ok, okOr_eq_ok, Word.checkedSub_eq_some] at h
  obtain ⟨order, horder, _, -, amountOut, hpart, _, ⟨-, rfl⟩, _, ⟨hout, rfl⟩, _, hvalid, s₁, hexec, h⟩ := h
  exact ⟨order, amountOut, s₁, horder, hpart, hout, ensureRemainingOrderValid_valid hvalid,
    executeOrder_released hexec, (Except.ok.inj h).symm⟩

/-- A fill releases the order's whole `amount_out` and removes it. -/
theorem fillOrder_eq_ok {who : AccountId} {orderId : Nat} (h : fillOrder cfg s who orderId = .ok s') :
    ∃ order s₁, s.orders.lookup orderId = some order ∧
      Released s s₁ order.assetOut order.owner order.amountOut ∧
      s' = { s₁ with orders := s₁.orders.erase orderId } := by
  unfold fillOrder at h
  simp only [bind_eq_ok, okOr_eq_ok] at h
  obtain ⟨order, horder, s₁, hexec, h⟩ := h
  exact ⟨order, s₁, horder, executeOrder_released hexec, (Except.ok.inj h).symm⟩

/-- A cancellation releases the order's whole `amount_out` and removes it. -/
theorem cancelOrder_eq_ok {who : AccountId} {orderId : Nat} (h : cancelOrder s who orderId = .ok s') :
    ∃ order s₁, s.orders.lookup orderId = some order ∧
      Released s s₁ order.assetOut order.owner order.amountOut ∧
      s' = { s₁ with orders := s₁.orders.erase orderId } := by
  unfold cancelOrder at h
  simp only [bind_eq_ok, ensure_eq_ok, okOr_eq_ok] at h
  obtain ⟨order, horder, _, -, _, hzero, h⟩ := h
  exact ⟨order, _, horder, unreserveNamed_released hzero, (Except.ok.inj h).symm⟩

/-- A deferred fill releases what it sells, and removes the order when it fills it whole, or
shrinks it by as much and leaves it valid. -/
theorem fillOrderWithDeferredDelivery_eq_ok {orderId : Nat} {filler : AccountId} {amountIn : Nat}
    {deliver : Nat → World AccountId AssetId → Except DispatchError (World AccountId AssetId)}
    (h : fillOrderWithDeferredDelivery cfg s orderId filler amountIn deliver = .ok s') :
    ∃ order amountOut s₁, s.orders.lookup orderId = some order ∧
      Released s s₁ order.assetOut order.owner amountOut ∧
      s'.reserved = s₁.reserved ∧ s'.nextOrderId = s₁.nextOrderId ∧
      ((amountOut = order.amountOut ∧ s'.orders = s₁.orders.erase orderId) ∨
        (partialAmountOut order.amountOut amountIn order.amountIn = .ok amountOut ∧ amountOut ≤ order.amountOut ∧
          ({ order with amountIn := order.amountIn - amountIn, amountOut := order.amountOut - amountOut } :
            Order AccountId AssetId).Valid cfg ∧
          s'.orders = s₁.orders.insert orderId { order with
            amountIn := order.amountIn - amountIn, amountOut := order.amountOut - amountOut })) := by
  unfold fillOrderWithDeferredDelivery at h
  simp only [bind_eq_ok, ensure_eq_ok, okOr_eq_ok] at h
  obtain ⟨order, horder, _, -, amountOut, hout, _, -, remaining, hrem, s₁, hrel, _, -, _, -, w₃, -, h⟩ := h
  have hrel₃ : Released s { s₁ with world := w₃ } order.assetOut order.owner amountOut :=
    (releaseReservedAssetOut_released hrel).fromWorld.withWorld w₃
  refine ⟨order, amountOut, _, horder, hrel₃, ?_⟩
  by_cases hfull : amountIn = order.amountIn
  · -- the whole order: it goes
    rw [if_pos (decide_eq_true hfull)] at hout hrem
    obtain rfl := Except.ok.inj hout
    obtain rfl := Except.ok.inj hrem
    obtain rfl := Except.ok.inj h
    exact ⟨rfl, rfl, .inl ⟨rfl, rfl⟩⟩
  · -- part of it: what is left was checked before anything moved
    rw [if_neg (by simpa using hfull)] at hout hrem
    simp only [bind_eq_ok, ensure_eq_ok] at hout
    obtain ⟨_, -, hpart⟩ := hout
    simp only [bind_eq_ok, okOr_eq_ok, Word.checkedSub_eq_some] at hrem
    obtain ⟨_, ⟨-, rfl⟩, _, ⟨hle, rfl⟩, _, hvalid, hrem⟩ := hrem
    obtain rfl := Except.ok.inj hrem
    obtain rfl := Except.ok.inj h
    exact ⟨rfl, rfl, .inr ⟨hpart, hle, ensureRemainingOrderValid_valid hvalid, rfl⟩⟩

variable {Route : Type} [DecidableEq Route] {scfg : SettlementsConfig AccountId AssetId Route}

/-- A settlement is a deferred fill by the pallet account, followed by checks and a transfer of
the profit that touch the world only. -/
theorem settleOtc_eq_ok {otcId amount : Nat} {route : Route} {isExecution : Bool}
    (h : settleOtc cfg scfg s otcId amount route isExecution = .ok s') :
    ∃ deliver s₁, fillOrderWithDeferredDelivery cfg s otcId scfg.palletAccount amount deliver = .ok s₁ ∧
      s'.orders = s₁.orders ∧ s'.reserved = s₁.reserved ∧ s'.nextOrderId = s₁.nextOrderId := by
  unfold settleOtc at h
  simp only [bind_eq_ok, ensure_eq_ok, okOr_eq_ok] at h
  obtain ⟨_, -, _, -, _, -, _, -, s₁, hfill, _, -, _, -, _, -, _, -, world, -, _, -, _, -, h⟩ := h
  obtain rfl := Except.ok.inj h
  exact ⟨_, s₁, hfill, rfl, rfl, rfl⟩

/-! ## The books -/

/-- The accounting of the named reserve, with what keeps it: every order is under an id below the
next one, and is valid. -/
structure OrderBooks (cfg : Config AccountId AssetId) (s : State AccountId AssetId) : Prop where
  reserved : ∀ asset who, s.reserved.free asset who = orderedReserve s asset who
  fresh : ∀ id o, s.orders.lookup id = some o → id < s.nextOrderId
  valid : ∀ id o, s.orders.lookup id = some o → o.Valid cfg

theorem OrderBooks.genesis (h : Genesis s) : OrderBooks cfg s where
  reserved asset who := by
    rw [h.reserved, orderedReserve, h.orders, sumBy_empty]
  fresh id o ho := by
    rw [h.orders, AList.lookup_empty] at ho
    cases ho
  valid id o ho := by
    rw [h.orders, AList.lookup_empty] at ho
    cases ho

/-- A step that keeps the pallet's storage and the reserve keeps the books. -/
theorem OrderBooks.of_books (h : OrderBooks cfg s₁) (hord : s'.orders = s₁.orders)
    (hres : s'.reserved = s₁.reserved) (hnext : s'.nextOrderId = s₁.nextOrderId) : OrderBooks cfg s' where
  reserved asset who := by
    rw [hres, orderedReserve, hord]
    exact h.reserved asset who
  fresh id o ho := by
    rw [hnext]
    exact h.fresh id o (hord ▸ ho)
  valid id o ho := h.valid id o (hord ▸ ho)

section Release

variable {id n : Nat} {o : Order AccountId AssetId}

/-- A release of `n` from the reserve of `who` in `asset` keeps the reserve equal to the orders'
sum when that sum drops by `n` for `who` in `asset` and nowhere else. -/
theorem reserved_of_released {asset₀ : AssetId} {who₀ : AccountId}
    (h : ∀ asset who, s.reserved.free asset who = orderedReserve s asset who)
    (hrel : Released s s₁ asset₀ who₀ n) (hres : s'.reserved = s₁.reserved)
    (hsum : ∀ asset who, orderedReserve s' asset who + (if asset = asset₀ ∧ who = who₀ then n else 0) =
      orderedReserve s asset who) :
    ∀ asset who, s'.reserved.free asset who = orderedReserve s' asset who := by
  intro asset who
  have h₁ := hsum asset who
  have h₂ := h asset who
  rw [hres, hrel.reserved, Balances.free_set]
  split
  · rename_i hk
    obtain ⟨rfl, rfl⟩ := hk
    have hle := hrel.le
    rw [if_pos ⟨rfl, rfl⟩] at h₁
    omega
  · rename_i hk
    rw [if_neg hk] at h₁
    omega

/-- An order filled whole: its `amount_out` is released and it goes. -/
theorem OrderBooks.remove (h : OrderBooks cfg s) (hlook : s.orders.lookup id = some o)
    (hrel : Released s s₁ o.assetOut o.owner o.amountOut) (hres : s'.reserved = s₁.reserved)
    (hnext : s'.nextOrderId = s₁.nextOrderId) (hord : s'.orders = s₁.orders.erase id) :
    OrderBooks cfg s' where
  reserved := reserved_of_released h.reserved hrel hres fun asset who => by
    have hsum := sumBy_erase_of_lookup (fun _ o => reserveOf asset who o) hlook
    rw [orderedReserve, hord, hrel.orders]
    exact hsum
  fresh id' o' ho := by
    rw [hord, hrel.orders] at ho
    rw [hnext, hrel.nextOrderId]
    exact h.fresh id' o' (lookup_erase_eq_some ho).2
  valid id' o' ho := by
    rw [hord, hrel.orders] at ho
    exact h.valid id' o' (lookup_erase_eq_some ho).2

/-- An order filled in part: what is released is what it shrinks by, and what is left is valid. -/
theorem OrderBooks.shrink {amountIn : Nat} (h : OrderBooks cfg s) (hlook : s.orders.lookup id = some o)
    (hle : n ≤ o.amountOut)
    (hvalid : ({ o with amountIn, amountOut := o.amountOut - n } : Order AccountId AssetId).Valid cfg)
    (hrel : Released s s₁ o.assetOut o.owner n) (hres : s'.reserved = s₁.reserved)
    (hnext : s'.nextOrderId = s₁.nextOrderId)
    (hord : s'.orders = s₁.orders.insert id { o with amountIn, amountOut := o.amountOut - n }) :
    OrderBooks cfg s' where
  reserved := reserved_of_released h.reserved hrel hres fun asset who => by
    have hsum := sumBy_insert_add (fun _ o => reserveOf asset who o) s.orders id
      { o with amountIn, amountOut := o.amountOut - n }
    rw [at?_of_lookup _ hlook] at hsum
    rw [orderedReserve, hord, hrel.orders, orderedReserve]
    -- the order keeps its owner and `asset_out`, so it counts for the same reserve
    have h₁ : reserveOf asset who o = if asset = o.assetOut ∧ who = o.owner then o.amountOut else 0 := rfl
    have h₂ : reserveOf asset who { o with amountIn, amountOut := o.amountOut - n } =
        if asset = o.assetOut ∧ who = o.owner then o.amountOut - n else 0 := rfl
    rw [h₁, h₂] at hsum
    by_cases hk : asset = o.assetOut ∧ who = o.owner
    · rw [if_pos hk, if_pos hk] at hsum
      rw [if_pos hk]
      omega
    · rw [if_neg hk, if_neg hk] at hsum
      rw [if_neg hk]
      omega
  fresh id' o' ho := by
    rw [hord, hrel.orders] at ho
    rw [hnext, hrel.nextOrderId]
    rcases lookup_insert_eq_some ho with ⟨rfl, -⟩ | ⟨-, ho⟩
    · exact h.fresh _ o hlook
    · exact h.fresh id' o' ho
  valid id' o' ho := by
    rw [hord, hrel.orders] at ho
    rcases lookup_insert_eq_some ho with ⟨-, rfl⟩ | ⟨-, ho⟩
    · exact hvalid
    · exact h.valid id' o' ho

end Release

/-- A new order takes the next id, which no order has, and reserves its whole `amount_out`. -/
theorem OrderBooks.placeOrder {owner : AccountId} {assetIn assetOut : AssetId} {amountIn amountOut : Nat}
    {partiallyFillable : Bool} (h : OrderBooks cfg s)
    (hok : placeOrder cfg s owner assetIn assetOut amountIn amountOut partiallyFillable = .ok s') :
    OrderBooks cfg s' := by
  obtain ⟨hvalid, -, free, -, rfl⟩ := placeOrder_eq_ok hok
  have hfresh : s.orders.lookup s.nextOrderId = none := by
    cases ho : s.orders.lookup s.nextOrderId with
    | none => rfl
    | some o => exact absurd (h.fresh _ o ho) (lt_irrefl _)
  refine ⟨fun asset who => ?_, fun id o ho => ?_, fun id o ho => ?_⟩
  · show (s.reserved.deposit _ _ _).free asset who = sumBy _ (s.orders.insert _ _)
    rw [Balances.free_deposit, sumBy_insert_of_lookup_none _ _ hfresh, h.reserved asset who, orderedReserve]
    rfl
  · rcases lookup_insert_eq_some ho with ⟨rfl, -⟩ | ⟨-, ho⟩
    · exact Nat.lt_succ_self _
    · exact Nat.lt_succ_of_lt (h.fresh id o ho)
  · rcases lookup_insert_eq_some ho with ⟨-, rfl⟩ | ⟨-, ho⟩
    · exact hvalid
    · exact h.valid id o ho

theorem OrderBooks.fillOrderWithDeferredDelivery {orderId : Nat} {filler : AccountId} {amountIn : Nat}
    {deliver : Nat → World AccountId AssetId → Except DispatchError (World AccountId AssetId)}
    (h : OrderBooks cfg s) (hok : fillOrderWithDeferredDelivery cfg s orderId filler amountIn deliver = .ok s') :
    OrderBooks cfg s' := by
  obtain ⟨order, amountOut, s₁, hlook, hrel, hres, hnext, ⟨rfl, hord⟩ | ⟨-, hle, hvalid, hord⟩⟩ :=
    fillOrderWithDeferredDelivery_eq_ok hok
  · exact h.remove hlook hrel hres hnext hord
  · exact h.shrink hlook hle hvalid hrel hres hnext hord

theorem OrderBooks.step (h : OrderBooks cfg s) (c : Call AccountId AssetId Route)
    (hok : step cfg scfg c s = .ok s') : OrderBooks cfg s' := by
  cases c with
  | placeOrder who assetIn assetOut amountIn amountOut partiallyFillable => exact h.placeOrder hok
  | partialFillOrder who orderId amountIn =>
    obtain ⟨order, amountOut, s₁, hlook, -, hle, hvalid, hrel, rfl⟩ := partialFillOrder_eq_ok hok
    exact h.shrink hlook hle hvalid hrel rfl rfl rfl
  | fillOrder who orderId =>
    obtain ⟨order, s₁, hlook, hrel, rfl⟩ := fillOrder_eq_ok hok
    exact h.remove hlook hrel rfl rfl rfl
  | cancelOrder who orderId =>
    obtain ⟨order, s₁, hlook, hrel, rfl⟩ := cancelOrder_eq_ok hok
    exact h.remove hlook hrel rfl rfl rfl
  | fillOrderWithDeferredDelivery orderId filler amountIn deliver =>
    exact h.fillOrderWithDeferredDelivery hok
  | settleOtcOrder otcId amount route =>
    obtain ⟨deliver, s₁, hfill, hord, hres, hnext⟩ := settleOtc_eq_ok hok
    exact (h.fillOrderWithDeferredDelivery hfill).of_books hord hres hnext
  | outside change =>
    obtain rfl := Except.ok.inj hok
    exact h.of_books rfl rfl rfl

theorem otc_reserve_accounting (cfg : Config AccountId AssetId)
    (scfg : SettlementsConfig AccountId AssetId Route) (hreach : Reachable Genesis (step cfg scfg) s) :
    (∀ asset who, s.reserved.free asset who = orderedReserve s asset who) ∧
      ∀ id o, s.orders.lookup id = some o → o.Valid cfg := by
  have h : OrderBooks cfg s :=
    hreach.induction (fun _ hg => OrderBooks.genesis hg) fun c _ _ h hok => h.step c hok
  exact ⟨h.reserved, h.valid⟩

theorem exampleGenesis_genesis : Genesis exampleGenesis := ⟨rfl, fun _ _ => rfl⟩

/-- Two orders placed, one filled in part and one with deferred delivery, a cancellation, a
settlement, and a transfer elsewhere. -/
def otcRun : List (Call Nat Nat Nat) :=
  [.placeOrder 7 2 1 100 200 true, .placeOrder 8 1 2 300 400 false, .partialFillOrder 8 0 30,
    .fillOrderWithDeferredDelivery 1 7 300 fun _ w => .ok w, .cancelOrder 7 0, .settleOtcOrder 0 10 0,
    .outside fun w => w]

theorem otc_reserve_accounting_otcRun :
    (∀ asset who, (Frame.run (step exampleConfig exampleSettlements) otcRun exampleGenesis).reserved.free
        asset who = orderedReserve (Frame.run (step exampleConfig exampleSettlements) otcRun exampleGenesis)
          asset who) ∧
      ∀ id o, (Frame.run (step exampleConfig exampleSettlements) otcRun exampleGenesis).orders.lookup id =
        some o → o.Valid exampleConfig :=
  otc_reserve_accounting exampleConfig exampleSettlements
    (Frame.reachable_run otcRun (.init exampleGenesis_genesis))

end Hydration.Otc
