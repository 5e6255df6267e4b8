import Mostrix.Router.OneOrderPerKey

/-!
# The child of a range order

A maker who releases a range order, or says that the fiat is sent, with enough of the range left
reserves the next trade index and hands its key to Mostro (`create_msg_payload`). Mostro publishes
the rest as a child order and sends its `new-order` to that key. The handler would save the child
(`persist_range_child_listing_from_new_order`), but a message only reaches the handler under a
subscription of its key, for an order that the listener follows under its index.

`create_msg_payload` tells the listener nothing, and no other turn brings the index: without a
`TrackOrder` of it the child is never received. `rangeChild_received_iff` is the exact condition.
-/

namespace Mostrix.Router

/-! ## `create_msg_payload` -/

/-- `i64` subtraction, wrapping as a release build does. -/
def subI64 (a b : Int) : Int := (a - b).bmod (2 ^ 64)

/-- `i64 as u32`. -/
def asU32 (n : Int) : Nat := (n % 2 ^ 32).toNat

/-- `create_msg_payload`: the key and the index of the next trade, when at least the minimum of the
range is left. -/
def createMsgPayload (ops : KeyOps) (user : Option User) (action : Action) (order : Order) :
    Option User × Except String (Option Payload) :=
  match action with
  | .fiatSent | .release =>
    match order.minAmount, order.maxAmount with
    | some minAmount, some maxAmount =>
      if subI64 maxAmount order.fiatAmount ≥ minAmount then
        let (user, reserved) := User.reserveNextTradeIndex ops user 0
        (user, reserved.map fun (nextTradeIndex, nextTradeKeys) =>
          some (.nextTrade nextTradeKeys.publicKey (asU32 nextTradeIndex)))
      else (user, .ok none)
    | _, _ => (user, .ok none)
  | _ => (user, .ok none)

/-- The cast of an index that keys are derived for loses nothing. -/
theorem asU32_of_derived {ops : KeyOps} {user : User} {i : Int} {keys : Keys}
    (h : user.deriveTradeKeys ops i = .ok keys) : (asU32 i : Int) = i := by
  unfold User.deriveTradeKeys at h
  split at h
  · cases h
  · unfold asU32
    omega

/-- The announced key is the one the listener derives for the announced index. -/
theorem createMsgPayload_nextTrade {ops : ListenerOps} {user : User} {action : Action}
    {order : Order} {key : String} {index : Nat} (hmnemonic : user.mnemonic = ops.user.mnemonic)
    (h : (createMsgPayload ops.keyOps (some user) action order).2 =
      .ok (some (.nextTrade key index))) :
    ∃ keys, ops.deriveTradeKeys index = .ok keys ∧ keys.publicKey = key := by
  have hreserved : (User.reserveNextTradeIndex ops.keyOps (some user) 0).2.map
      (fun p => some (Payload.nextTrade p.2.publicKey (asU32 p.1))) =
        .ok (some (.nextTrade key index)) := by
    unfold createMsgPayload at h
    split at h
    · split at h
      · split at h
        · exact h
        · cases h
      · cases h
    · split at h
      · split at h
        · exact h
        · cases h
      · cases h
    · cases h
  obtain ⟨⟨i, keys⟩, hpair, hpayload⟩ := Except.ok_of_map hreserved
  obtain ⟨rfl, rfl⟩ := Payload.nextTrade.inj (Option.some.inj hpayload)
  have hderived : ops.deriveTradeKeys i = .ok keys := by
    have huser := deriveTradeKeys_of_reserved hpair
    unfold User.deriveTradeKeys at huser
    rwa [hmnemonic] at huser
  rw [asU32_of_derived hderived]
  exact ⟨keys, hderived, rfl⟩

/-! ## The row of a child -/

/-- The table has the child's row: the maker's, under the announced index, with a secret whose key
is the announced one. -/
def ChildRow (ops : ListenerOps) (db : Db) (childId : Uuid) (key : PublicKey) (index : Int) : Prop :=
  ∃ row, db childId = some row ∧ row.isMine = true ∧ row.tradeIndex = some index ∧
    (row.tradeKeys.bind ops.keyOps.parseKeys).map (·.publicKey) = some key

section
variable {ops : ListenerOps} {db : Db} {childId : Uuid} {key : PublicKey} {index : Int}

/-- What leaves the keys, the index and the role of a row alone keeps a child's row. -/
theorem childRow_modify {id : Uuid} {f : Order → Order} (hf : ∀ row,
      (f row).tradeKeys = row.tradeKeys ∧ (f row).tradeIndex = row.tradeIndex ∧
        (f row).isMine = row.isMine) :
    ChildRow ops (db.modify id f) childId key index ↔ ChildRow ops db childId key index := by
  unfold ChildRow
  by_cases hid : childId = id
  · subst hid
    rw [Table.modify_self]
    cases db childId with
    | none => simp
    | some row =>
      obtain ⟨hkeys, hindex, hmine⟩ := hf row
      simp [hkeys, hindex, hmine]
  · rw [Table.modify_of_ne hid]

theorem childRow_updateStatus {id : Uuid} {status : Status} :
    ChildRow ops (Order.updateStatus db id status) childId key index ↔
      ChildRow ops db childId key index := by
  unfold Order.updateStatus
  refine childRow_modify ?_
  intro row
  exact ⟨rfl, rfl, rfl⟩

theorem childRow_updateLastSeenDmTs {id : Uuid} {ts : Int} :
    ChildRow ops (Order.updateLastSeenDmTs db id ts) childId key index ↔
      ChildRow ops db childId key index := by
  unfold Order.updateLastSeenDmTs
  refine childRow_modify ?_
  intro row
  exact ⟨rfl, rfl, rfl⟩

/-- A child's row is the maker's, so dropping a take keeps it. -/
theorem childRow_erase {id : Uuid} {row : Order} (hrow : db id = some row)
    (htake : row.isMine = false) :
    ChildRow ops (db.erase id) childId key index ↔ ChildRow ops db childId key index := by
  unfold ChildRow
  by_cases hid : childId = id
  · subst hid
    simp [hrow, htake]
  · rw [Table.erase_of_ne hid]

/-- The secret of a derived key is read back as that key. -/
theorem parseKeys_derived {keys : Keys} (h : ops.deriveTradeKeys index = .ok keys) :
    ops.keyOps.parseKeys keys.secretHex = some keys := by
  unfold ListenerOps.deriveTradeKeys User.deriveTradeKeys at h
  split at h
  · cases h
  · exact ops.keyOps.parseKeys_secretHex h

/-- `save_order` leaves the child's row exactly when the index is positive. -/
theorem childRow_saveOrder {child : SmallOrder} {keys : Keys} {requestId : Nat} {env : Env}
    (hid : child.id = some childId) (hderived : ops.deriveTradeKeys index = .ok keys) :
    ChildRow ops (saveOrder db child keys requestId index true env) childId keys.publicKey index ↔
      ChildRow ops db childId keys.publicKey index ∨ 0 < index := by
  rw [saveOrder_eq]
  split
  · rename_i hpos
    refine iff_of_true ?_ (.inr hpos)
    rw [hid, Option.getD_some]
    refine ⟨_, Table.put_self, rfl, rfl, ?_⟩
    simp [Order.newRow, parseKeys_derived hderived]
  · rename_i hpos
    rw [or_iff_left hpos]

/-- The way of a child's `new-order`. -/
theorem tradeDmPath_of_listing {dm : TradeDm} {child : SmallOrder}
    (haction : dm.message.action = .newOrder) (hpayload : dm.message.payload = some (.order child))
    (hpending : child.status = some .pending) :
    tradeDmPath db dm =
      match db dm.orderId with
      | none => .rangeChild child
      | some row =>
        if isPreActiveTakerTake row then .dropTake
        else if isPreActiveMakerListing row then .republish
        else if isEmptyPay dm.message then .hydrateOnly else .full := by
  cases hrow : db dm.orderId with
  | none =>
    simp [tradeDmPath, haction, hpayload, smallOrderPendingFromNewOrderPayload, hpending, hrow]
  | some row =>
    simp [tradeDmPath, haction, hpayload, smallOrderPendingFromNewOrderPayload, hpending, hrow]

variable (ops) in
/-- Handling the child's `new-order` brings its row exactly when the order it is handled for has no
row and the index is positive. -/
theorem childRow_handleTradeDm (env : Env) (s : TradeState) (dm : TradeDm) {child : SmallOrder}
    (haction : dm.message.action = .newOrder) (hpayload : dm.message.payload = some (.order child))
    (hpending : child.status = some .pending) (hid : child.id = some childId)
    (hderived : ops.deriveTradeKeys dm.tradeIndex = .ok dm.tradeKeys) :
    ChildRow ops (handleTradeDmForOrder ops.chatOps env s dm).db childId dm.tradeKeys.publicKey
        dm.tradeIndex ↔
      ChildRow ops s.db childId dm.tradeKeys.publicKey dm.tradeIndex ∨
        s.db dm.orderId = none ∧ 0 < dm.tradeIndex := by
  rw [handleTradeDmForOrder_db, tradeDmPath_of_listing haction hpayload hpending]
  cases hrow : s.db dm.orderId with
  | none =>
    dsimp only
    rw [childRow_saveOrder hid hderived]
    simp
  | some row =>
    have hkept : (ChildRow ops s.db childId dm.tradeKeys.publicKey dm.tradeIndex ∨
        some row = none ∧ 0 < dm.tradeIndex) ↔
          ChildRow ops s.db childId dm.tradeKeys.publicKey dm.tradeIndex := by simp
    rw [hkept]
    dsimp only
    by_cases htake : isPreActiveTakerTake row = true
    · rw [if_pos htake]
      have hmine : row.isMine = false := by
        unfold isPreActiveTakerTake at htake
        simp only [Bool.and_eq_true, Bool.not_eq_true'] at htake
        exact htake.1
      exact childRow_erase hrow hmine
    rw [if_neg htake]
    by_cases hlisting : isPreActiveMakerListing row = true
    · rw [if_pos hlisting]
      dsimp only
      rw [upsertOrderFromTradeDm_eq]
      refine childRow_updateStatus.trans (childRow_modify fun row => ?_)
      exact upsertRow_ownership ops.chatOps env.now dm.orderId _ dm.message.requestId dm.tradeKeys row
    rw [if_neg hlisting]
    by_cases hpay : isEmptyPay dm.message = true
    · rw [if_pos hpay]
      exact childRow_modify fun row => hydratedRow_ownership dm row
    · rw [if_neg hpay]
      exact childRow_modify fun row => hydratedRow_ownership dm row

end

/-! ## Receiving the child -/

/-- The `new-order` of a pending child, for a key. -/
structure ChildListing (wire : Wire) (key : PublicKey) where
  event : Event
  opened : UnwrappedMessage
  child : SmallOrder
  childId : Uuid
  kind : event.kind = wire.eventKind
  opens : wire.unwrapIncoming event key = some opened
  addressed : ∀ key', (wire.unwrapIncoming event key').isSome → key' = key
  action : opened.message.action = .newOrder
  payload : opened.message.payload = some (.order child)
  id : child.id = some childId
  pending : child.status = some .pending

/-- The order that the listener gives an event to, and the key that opens it: the order its
subscription is bound to, else the first one of the map. -/
def routedAs (ops : ListenerOps) (s : DmListener) (subscriptionId : SubscriptionId) (event : Event)
    (rank : Uuid → Nat) : Option (Uuid × Int × Keys × UnwrappedMessage) :=
  match s.subscriptionToOrder subscriptionId with
  | some e => openedAs ops event e
  | none => resolveOrderForEvent ops event (iterate rank s.activeOrderTradeIndices)

/-- What the listener does with a batch at its end. -/
def policyOf (s : DmListener) (subscriptionId : SubscriptionId) : GiftWrapTerminalPolicy :=
  match s.subscriptionToOrder subscriptionId with
  | some _ => .trackedSubscription subscriptionId
  | none => .untrackedFallback

section
variable {ops : ListenerOps}

/-- Both paths dispatch what they are given. -/
theorem routeEvent_eq (s : DmListener) (subscriptionId : SubscriptionId) (event : Event)
    (rank : Uuid → Nat) (env : Env) :
    routeEvent ops s subscriptionId event rank env =
      match routedAs ops s subscriptionId event rank with
      | none => s
      | some (orderId, tradeIndex, keys, u) =>
        dispatchGiftwrapBatch ops ⟨orderId, tradeIndex, keys, true⟩ (policyOf s subscriptionId) s
          [parsedDm ops event keys u env] := by
  unfold routeEvent routedAs policyOf openedAs
  cases s.subscriptionToOrder subscriptionId with
  | none => rfl
  | some e =>
    dsimp only
    cases ops.deriveTradeKeys e.2 with
    | error _ => rfl
    | ok keys =>
      dsimp only
      cases ops.wire.unwrapIncoming event keys.publicKey <;> rfl

/-- The order the listener follows under an index, at an event of a subscription. -/
def follower (s : DmListener) (subscriptionId : SubscriptionId) (rank : Uuid → Nat) (index : Int) :
    Option Uuid :=
  match s.subscriptionToOrder subscriptionId with
  | some (orderId, tradeIndex) => if tradeIndex = index then some orderId else none
  | none =>
    ((iterate rank s.activeOrderTradeIndices).find? fun e => e.2 = index).map Prod.fst

/-- The key of an index opens what is for it, and no other index's does. -/
theorem openedAs_listing (hkeys : ops.keyOps.DistinctKeys) {keys : Keys} {index : Int}
    (hderived : ops.deriveTradeKeys index = .ok keys) (listing : ChildListing ops.wire keys.publicKey)
    (e : Uuid × Int) :
    openedAs ops listing.event e =
      if e.2 = index then some (e.1, index, keys, listing.opened) else none := by
  unfold openedAs
  by_cases heq : e.2 = index
  · rw [if_pos heq, heq, hderived]
    dsimp only
    rw [listing.opens, Option.map_some]
  · rw [if_neg heq]
    cases hk : ops.deriveTradeKeys e.2 with
    | error _ => rfl
    | ok k =>
      dsimp only
      cases hopen : ops.wire.unwrapIncoming listing.event k.publicKey with
      | none => rfl
      | some u =>
        have hkey := listing.addressed k.publicKey (by rw [hopen]; rfl)
        exact absurd (deriveTradeKeys_injective hkeys hk hderived hkey) heq

/-- The listener gives the child's `new-order` to the order it follows under the index. -/
theorem routedAs_listing (hkeys : ops.keyOps.DistinctKeys) {keys : Keys} {index : Int}
    (hderived : ops.deriveTradeKeys index = .ok keys) (listing : ChildListing ops.wire keys.publicKey)
    (s : DmListener) (subscriptionId : SubscriptionId) (rank : Uuid → Nat) :
    routedAs ops s subscriptionId listing.event rank =
      (follower s subscriptionId rank index).map fun orderId =>
        (orderId, index, keys, listing.opened) := by
  have hopened := openedAs_listing hkeys hderived listing
  unfold routedAs follower
  cases s.subscriptionToOrder subscriptionId with
  | some e =>
    dsimp only
    rw [hopened]
    split <;> rfl
  | none =>
    dsimp only
    rw [resolveOrderForEvent_eq_findSome?]
    induction iterate rank s.activeOrderTradeIndices with
    | nil => rfl
    | cons e rest ih =>
      rw [List.findSome?_cons, hopened, List.find?_cons]
      by_cases heq : e.2 = index
      · simp [heq]
      · simpa [heq] using ih

/-- The table after the child's `new-order`. -/
theorem handleEvent_listing_db (hkeys : ops.keyOps.DistinctKeys) {keys : Keys} {index : Int}
    (hderived : ops.deriveTradeKeys index = .ok keys) (listing : ChildListing ops.wire keys.publicKey)
    (s : DmListener) (subscriptionId : SubscriptionId) (rank : Uuid → Nat) (env : Env) :
    (handleEvent ops s subscriptionId listing.event rank env).trade.db =
      match follower s subscriptionId rank index with
      | none => s.trade.db
      | some orderId =>
        if orderId ∈ s.droppedUserHistoryOrderIds then s.trade.db
        else
          let m := parsedDm ops listing.event keys listing.opened env
          let trade := handleTradeDmForOrder ops.chatOps env s.trade
            (DispatchTarget.dm ⟨orderId, index, keys, true⟩ m)
          Order.updateLastSeenDmTs trade.db orderId m.timestamp := by
  have hterminal : tradeMessageIsTerminal listing.opened.message = false := by
    simp [tradeMessageIsTerminal, isEndingAction, messageHasTerminalOrderStatus, payloadOrderStatus,
      listing.action, listing.payload, listing.pending, isTerminalOrderStatus]
  have hrouted := routedAs_listing hkeys hderived listing (drainWaiters ops s listing.event)
    subscriptionId rank
  have hsame : follower (drainWaiters ops s listing.event) subscriptionId rank index =
      follower s subscriptionId rank index := rfl
  unfold handleEvent
  rw [if_neg (not_not.2 listing.kind), routeEvent_eq, hrouted, hsame]
  cases follower s subscriptionId rank index with
  | none => rfl
  | some orderId =>
    dsimp only [Option.map_some]
    have hdropped : (drainWaiters ops s listing.event).droppedUserHistoryOrderIds =
        s.droppedUserHistoryOrderIds := rfl
    rw [dispatchGiftwrapBatch, hdropped]
    split
    · rfl
    · simp only [dispatchLoop, parsedDm, hterminal, Bool.false_eq_true, if_false]
      rfl

/-- The child is received: the client has a subscription of its key, and an event of any of these
is decrypted, given to an order, and leaves the child's row. -/
def ChildReceived (ops : ListenerOps) {key : PublicKey} (index : Int)
    (listing : ChildListing ops.wire key) (rank : Uuid → Nat) (env : Env) (s : DmListener) : Prop :=
  (∃ subscriptionId, s.liveSubscriptions subscriptionId = some key) ∧
    ∀ subscriptionId, s.liveSubscriptions subscriptionId = some key →
      (routedAs ops s subscriptionId listing.event rank).isSome ∧
        ChildRow ops (handleEvent ops s subscriptionId listing.event rank env).trade.db
          listing.childId key index

/-- The listener follows the child: the client has a subscription of its key, and each of these
leads to an order under the index, one without a row that is not deleted unless the child has its
row already. -/
def FollowsChild (ops : ListenerOps) (key : PublicKey) (index : Int) (childId : Uuid)
    (rank : Uuid → Nat) (s : DmListener) : Prop :=
  (∃ subscriptionId, s.liveSubscriptions subscriptionId = some key) ∧
    ∀ subscriptionId, s.liveSubscriptions subscriptionId = some key →
      ∃ orderId, follower s subscriptionId rank index = some orderId ∧
        (ChildRow ops s.trade.db childId key index ∨
          orderId ∉ s.droppedUserHistoryOrderIds ∧ s.trade.db orderId = none ∧ 0 < index)

theorem childReceived_iff (hkeys : ops.keyOps.DistinctKeys) {keys : Keys} {index : Int}
    (hderived : ops.deriveTradeKeys index = .ok keys) (listing : ChildListing ops.wire keys.publicKey)
    (rank : Uuid → Nat) (env : Env) (s : DmListener) :
    ChildReceived ops index listing rank env s ↔
      FollowsChild ops keys.publicKey index listing.childId rank s := by
  refine and_congr_right fun _ => forall_congr' fun id => imp_congr_right fun _ => ?_
  rw [routedAs_listing hkeys hderived listing, handleEvent_listing_db hkeys hderived listing]
  cases follower s id rank index with
  | none => simp
  | some orderId =>
    simp only [Option.map_some, Option.isSome_some, true_and, Option.some.injEq, exists_eq_left']
    by_cases hdropped : orderId ∈ s.droppedUserHistoryOrderIds
    · simp [hdropped]
    · rw [if_neg hdropped, childRow_updateLastSeenDmTs]
      let m := parsedDm ops listing.event keys listing.opened env
      have hhandled := childRow_handleTradeDm ops env s.trade
        (DispatchTarget.dm ⟨orderId, index, keys, true⟩ m) listing.action listing.payload
        listing.pending listing.id hderived
      refine hhandled.trans ?_
      simp [hdropped, DispatchTarget.dm]

/-! ## Nothing else subscribes the key -/

/-- The client has no subscription of the key. -/
def Unsubscribed (key : PublicKey) (s : DmListener) : Prop :=
  ∀ subscriptionId, s.liveSubscriptions subscriptionId ≠ some key

/-- A turn that brings the index or its key: a `TrackOrder` of it, a waiter with the key, or a
startup on a row of it. -/
def Tracks (key : PublicKey) (index : Int) : ListenerEvent → Prop
  | .trackOrder _ tradeIndex _ => tradeIndex = index
  | .registerWaiter waiter _ => waiter.tradeKey = key
  | .respawn startup => ∃ row ∈ startup.rows, row.tradeIndex = some index
  | _ => False

variable {key : PublicKey} {s : DmListener}

/-- A subscription of another key. -/
theorem Unsubscribed.put (h : Unsubscribed key s) {key' : PublicKey} (hne : key' ≠ key)
    (subscriptionId id : SubscriptionId) :
    s.liveSubscriptions.put subscriptionId key' id ≠ some key := by
  by_cases hid : id = subscriptionId
  · rw [hid, Table.put_self]
    exact fun heq => hne (Option.some.inj heq)
  · rw [Table.put_of_ne hid]
    exact h id

theorem Unsubscribed.ensureOrderDmSubscription (h : Unsubscribed key s) {key' : PublicKey}
    (hne : key' ≠ key) (orderId : Uuid) (tradeIndex : Int) (subscribeOk : Bool) :
    Unsubscribed key (ensureOrderDmSubscription s key' orderId tradeIndex subscribeOk) := by
  unfold Router.ensureOrderDmSubscription
  split
  · exact h
  · split
    · exact h.put hne s.nextSubscription
    · exact h

theorem Unsubscribed.addWaiter (h : Unsubscribed key s) {waiter : PendingDmWaiter}
    (hne : waiter.tradeKey ≠ key) (subscribeOk : Bool) :
    Unsubscribed key (addWaiter s waiter subscribeOk) := by
  unfold Router.addWaiter
  dsimp only
  split
  · exact h
  split
  · exact h
  split
  · exact h.put hne s.nextSubscription
  · exact h

/-- A batch only ends subscriptions. -/
theorem Unsubscribed.dispatchLoop {target : DispatchTarget} {policy : GiftWrapTerminalPolicy}
    {parsed : List ParsedDm} (h : Unsubscribed key s) :
    Unsubscribed key (dispatchLoop ops target policy s parsed) := by
  induction parsed generalizing s with
  | nil => exact h
  | cons m ms ih =>
    have hhandled : Unsubscribed key (handleParsedDm ops target s m) := h
    unfold Router.dispatchLoop
    dsimp only
    split
    · cases policy with
      | trackedSubscription subscriptionId =>
        intro id hid
        have herased : s.liveSubscriptions.erase subscriptionId id = some key := hid
        by_cases heq : id = subscriptionId
        · rw [heq, Table.erase_self] at herased
          cases herased
        · rw [Table.erase_of_ne heq] at herased
          exact h id herased
      | untrackedFallback => exact ih h
    · exact ih hhandled

theorem Unsubscribed.dispatchGiftwrapBatch {target : DispatchTarget}
    {policy : GiftWrapTerminalPolicy} {parsed : List ParsedDm} (h : Unsubscribed key s) :
    Unsubscribed key (dispatchGiftwrapBatch ops target policy s parsed) := by
  unfold Router.dispatchGiftwrapBatch
  split
  · exact h
  · exact h.dispatchLoop

theorem Unsubscribed.handleEvent (h : Unsubscribed key s) (subscriptionId : SubscriptionId)
    (event : Event) (rank : Uuid → Nat) (env : Env) :
    Unsubscribed key (handleEvent ops s subscriptionId event rank env) := by
  have hdrained : Unsubscribed key (drainWaiters ops s event) := h
  unfold Router.handleEvent
  rw [routeEvent_eq]
  split
  · exact h
  split
  · exact hdrained
  · exact hdrained.dispatchGiftwrapBatch

theorem Unsubscribed.replayOrder (h : Unsubscribed key s) (startup : Startup) (orderId : Uuid)
    (tradeIndex : Int) : Unsubscribed key (replayOrder ops startup s orderId tradeIndex) := by
  unfold Router.replayOrder
  split
  · exact h
  split
  · exact h
  split
  · exact h
  split
  · exact h
  · exact h.dispatchGiftwrapBatch

theorem Unsubscribed.trackOperationResult (h : Unsubscribed key s) (result : TrackingResult) :
    Unsubscribed key (trackOperationResult s result) := by
  unfold Router.trackOperationResult
  split
  · split <;> exact h
  all_goals exact h

/-- The key of another index is another key. -/
theorem ne_of_index_ne (hkeys : ops.keyOps.DistinctKeys) {keys k : Keys} {index i : Int}
    (hderived : ops.deriveTradeKeys index = .ok keys) (hk : ops.deriveTradeKeys i = .ok k)
    (hne : i ≠ index) : k.publicKey ≠ keys.publicKey :=
  fun heq => hne (deriveTradeKeys_injective hkeys hk hderived heq)

/-- A startup subscribes the keys of its rows. -/
theorem unsubscribed_startListener (hkeys : ops.keyOps.DistinctKeys) {keys : Keys} {index : Int}
    (hderived : ops.deriveTradeKeys index = .ok keys) {startup : Startup}
    (hrows : ∀ row ∈ startup.rows, row.tradeIndex ≠ some index) (s : DmListener) :
    Unsubscribed keys.publicKey (startListener ops s startup) := by
  let orders := iterate startup.rank (hydrateStartupActiveOrders startup.rows)
  have horders : ∀ e ∈ orders, e.2 ≠ index := by
    intro e he heq
    obtain ⟨row, hrow, -, hindex⟩ :=
      fromRows_hydrate startup.rows e ((List.perm_insertionSort _ _).mem_iff.1 he)
    rw [heq] at hindex
    exact hrows row hrow hindex
  have hboot : Unsubscribed keys.publicKey (orders.foldl
      (fun s e => bootstrapOrder ops startup s e.1 e.2) (hydrated s startup)) := by
    refine List.foldlRecOn orders _ (fun _ => nofun) fun t ht e he => ?_
    unfold bootstrapOrder
    split
    · exact ht
    · rename_i k hk
      exact ht.ensureOrderDmSubscription (ne_of_index_ne hkeys hderived hk (horders e he)) _ _ _
  exact Run.invariant (fun t e ht => ht.replayOrder startup e.1 e.2) orders hboot

/-- A turn that does not bring the index leaves its key unsubscribed. -/
theorem unsubscribed_next (hkeys : ops.keyOps.DistinctKeys) {keys : Keys} {index : Int}
    (hderived : ops.deriveTradeKeys index = .ok keys) (s : DmListener) (event : ListenerEvent)
    (huntracked : ¬ Tracks keys.publicKey index event) (h : Unsubscribed keys.publicKey s) :
    Unsubscribed keys.publicKey (s.next ops event) := by
  cases event with
  | trackOrder orderId tradeIndex subscribeOk =>
    have hactive : Unsubscribed keys.publicKey { s with
      activeOrderTradeIndices := trackActive s.activeOrderTradeIndices orderId tradeIndex } := h
    unfold DmListener.next Router.trackOrder
    dsimp only
    split
    · exact hactive
    · rename_i k hk
      exact hactive.ensureOrderDmSubscription (ne_of_index_ne hkeys hderived hk huntracked) _ _ _
  | registerWaiter waiter subscribeOk => exact h.addWaiter huntracked subscribeOk
  | relayEvent subscriptionId event rank env => exact h.handleEvent subscriptionId event rank env
  | operationResult result => exact h.trackOperationResult result
  | respawn startup =>
    exact unsubscribed_startListener hkeys hderived
      (fun row hrow hindex => huntracked ⟨row, hrow, hindex⟩) s
  | waiterGcTick | receiverDropped | otherTask => exact h

end

/-- **The child of a range order.** After any run from the moment its key was announced, the child
is received exactly when the listener follows it. Unless a turn of the run tracks the announced
index or its key, the child is not received. -/
theorem rangeChild_received_iff (ops : ListenerOps) (hkeys : ops.keyOps.DistinctKeys) (user : User)
    (hmnemonic : user.mnemonic = ops.user.mnemonic) (action : Action) (order : Order)
    (key : PublicKey) (index : Nat)
    (hannounced : (createMsgPayload ops.keyOps (some user) action order).2 =
      .ok (some (.nextTrade key index)))
    (listing : ChildListing ops.wire key) (rank : Uuid → Nat) (env : Env) (s : DmListener)
    (run : List ListenerEvent) :
    let s' := run.foldl (DmListener.next ops) s
    (ChildReceived ops index listing rank env s' ↔
      FollowsChild ops key index listing.childId rank s') ∧
    (Unsubscribed key s → (∀ event ∈ run, ¬ Tracks key index event) →
      ¬ ChildReceived ops index listing rank env s') := by
  obtain ⟨keys, hderived, rfl⟩ := createMsgPayload_nextTrade hmnemonic hannounced
  refine ⟨childReceived_iff hkeys hderived listing rank env _, ?_⟩
  rintro hunsubscribed huntracked ⟨⟨id, hid⟩, -⟩
  have hrun : Run.Guarded (DmListener.next ops)
      (fun _ event => ¬ Tracks keys.publicKey index event) s run :=
    Run.Guarded.of_invariant (I := fun _ => True) (fun _ _ hevent _ => ⟨hevent, trivial⟩)
      huntracked trivial
  have hend : Unsubscribed keys.publicKey (run.foldl (DmListener.next ops) s) :=
    hrun.invariant (unsubscribed_next hkeys hderived) hunsubscribed
  exact hend id hid

/-! ## A child whose index was tracked, and one whose was not -/

/-- The rest of a range, as order 2. -/
def childOrder2 : SmallOrder := { id := some 2, status := some .pending }

/-- A wire on which a key opens what is addressed to it, to the `new-order` of the child. -/
def childOps : ListenerOps where
  wire :=
    { eventKind := privateDirectMessage
      unwrapIncoming := fun event key =>
        if event.content = key then
          some ⟨{ action := .newOrder, payload := some (.order childOrder2) }, "mostro", false⟩
        else none }
  createdAt := fun _ _ => 0
  keyOps := unaryKeyOps
  chatOps := plainChatOps
  user := freshUser

/-- The maker of order 1, whose trade has index 1. -/
def maker : User := { freshUser with lastTradeIndex := some 1 }

/-- A range from 10 to 100, of which 50 were taken. -/
def rangeOrder1 : Order where
  id := 1
  isMine := true
  status := some .active
  minAmount := some 10
  maxAmount := some 100
  fiatAmount := 50
  tradeIndex := some 1

/-- The `new-order` of order 2, for the key of index 2. -/
def childListing2 : ChildListing childOps.wire "ii" where
  event := ⟨0, privateDirectMessage, "mostro", "ii"⟩
  opened := ⟨{ action := .newOrder, payload := some (.order childOrder2) }, "mostro", false⟩
  child := childOrder2
  childId := 2
  kind := rfl
  opens := rfl
  addressed := by
    intro key' hopens
    by_contra hne
    simp [childOps, Ne.symm hne] at hopens
  action := rfl
  payload := rfl
  id := rfl
  pending := rfl

/-- A listener that follows order 1. -/
def makerListener : DmListener where
  trade := { db := Table.empty.put 1 rangeOrder1 }
  activeOrderTradeIndices := [(1, 1)]
  subscribedPubkeys := ["i"]
  subscriptionToOrder := Table.empty.put 0 (1, 1)
  pubkeyToSubscription := Table.empty.put "i" 0
  liveSubscriptions := Table.empty.put 0 "i"
  nextSubscription := 1

/-- It has no subscription of the child's key. -/
theorem unsubscribed_makerListener : Unsubscribed "ii" makerListener := by
  have hempty : Unsubscribed "ii" emptyListener := fun _ => nofun
  have hne : "i" ≠ "ii" := by decide
  exact fun id => hempty.put hne 0 id

/-- Had the listener been told to track the child under the index, it would receive it. -/
theorem rangeChild_received_tracked :
    ChildReceived childOps 2 childListing2 id ⟨0, 0⟩
      ([.trackOrder 2 2 true].foldl (DmListener.next childOps) makerListener) := by
  refine (rangeChild_received_iff childOps unaryKeyOps_distinctKeys maker rfl .release rangeOrder1
    "ii" 2 rfl childListing2 id ⟨0, 0⟩ makerListener [.trackOrder 2 2 true]).1.2 ⟨⟨1, rfl⟩, ?_⟩
  intro subscriptionId hlive
  have hone : subscriptionId = 1 := by
    by_contra hne
    have hold : makerListener.liveSubscriptions subscriptionId = some "ii" := by
      rw [← hlive]
      exact (Table.put_of_ne hne).symm
    exact unsubscribed_makerListener subscriptionId hold
  subst hone
  exact ⟨2, rfl, .inr ⟨nofun, rfl, by decide⟩⟩

/-- The key is announced and the listener is told nothing: the child is not received. -/
theorem rangeChild_not_received : ¬ ∀ (ops : ListenerOps), ops.keyOps.DistinctKeys →
    ∀ (user : User), user.mnemonic = ops.user.mnemonic →
    ∀ (action : Action) (order : Order) (key : PublicKey) (index : Nat),
    (createMsgPayload ops.keyOps (some user) action order).2 =
      .ok (some (.nextTrade key index)) →
    ∀ (listing : ChildListing ops.wire key) (rank : Uuid → Nat) (env : Env) (s : DmListener)
      (run : List ListenerEvent),
      ChildReceived ops index listing rank env (run.foldl (DmListener.next ops) s) := by
  intro h
  obtain ⟨⟨subscriptionId, hlive⟩, -⟩ := h childOps unaryKeyOps_distinctKeys maker rfl .release
    rangeOrder1 "ii" 2 rfl childListing2 id ⟨0, 0⟩ makerListener []
  exact unsubscribed_makerListener subscriptionId hlive

end Mostrix.Router
