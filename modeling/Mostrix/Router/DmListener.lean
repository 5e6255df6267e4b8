import Mathlib.Data.List.Sort
import Mostrix.Router.Dispatch

/-!
# The DM listener

`listen_for_order_messages`: its startup, which subscribes every active order and replays the newest
message of each, and the turns of its loop, which take a command or a relay event. Around it, what
the UI and the other tasks do to the tables they share with it. A run is any sequence of these
turns; a respawn is one of them, since the listener starts again after a reconnect and after a key
reload.

What comes from outside is part of the turn: whether a `subscribe` call succeeds, what a fetch
returns, the clock, and the order in which a `HashMap` is iterated, which a rank on its keys gives.
-/

namespace Mostrix.Router

/-! ## The shared map -/

/-- A `HashMap` in the order it is iterated in. -/
def iterate (rank : Uuid → Nat) (indices : List (Uuid × Int)) : List (Uuid × Int) :=
  indices.insertionSort fun a b => rank a.1 ≤ rank b.1

/-- `HashMap::insert` on the shared map. -/
def insertActive (indices : List (Uuid × Int)) (orderId : Uuid) (tradeIndex : Int) :
    List (Uuid × Int) :=
  KeyedList.upsert Prod.fst indices (orderId, tradeIndex)

/-- What `TrackOrder` does to the shared map: prior orders of the index go, and the order comes. -/
def trackActive (indices : List (Uuid × Int)) (orderId : Uuid) (tradeIndex : Int) :
    List (Uuid × Int) :=
  insertActive (indices.filter fun e => !(e.2 = tradeIndex && e.1 ≠ orderId)) orderId tradeIndex

/-- One row of the hydration; a row without an index is skipped. -/
def hydrateActive (indices : List (Uuid × Int)) (row : Order) : List (Uuid × Int) :=
  match row.tradeIndex with
  | some tradeIndex => insertActive indices row.id tradeIndex
  | none => indices

/-- `hydrate_startup_active_order_dm_state`, on the rows of `get_startup_active_orders`. -/
def hydrateStartupActiveOrders (rows : List Order) : List (Uuid × Int) :=
  rows.foldl hydrateActive []

/-- The `OperationResult`s that change what the UI tracks. -/
inductive TrackingResult
  | paymentRequestRequired (order : SmallOrder) (tradeIndex : Int)
  | success (orderId : Option Uuid) (tradeIndex : Option Int)
  | tradeClosed (orderId : Uuid)
  | orderHistoryDeleted (orderIds : List Uuid)
  /-- Any other. -/
  | info
deriving DecidableEq, Repr

/-- `handle_operation_result`, on the shared map and the deleted histories; its rows of the Messages
list are those of `handleOperationResult`. -/
def trackOperationResult (s : DmListener) : TrackingResult → DmListener
  | .paymentRequestRequired order tradeIndex =>
    match order.id with
    | some orderId =>
      { s with activeOrderTradeIndices := insertActive s.activeOrderTradeIndices orderId tradeIndex }
    | none => s
  | .success (some orderId) (some tradeIndex) =>
    { s with activeOrderTradeIndices := insertActive s.activeOrderTradeIndices orderId tradeIndex }
  | .tradeClosed orderId =>
    { s with activeOrderTradeIndices := removeActive s.activeOrderTradeIndices orderId }
  | .orderHistoryDeleted orderIds =>
    { s with
      activeOrderTradeIndices := orderIds.foldl removeActive s.activeOrderTradeIndices
      droppedUserHistoryOrderIds := s.droppedUserHistoryOrderIds ++ orderIds }
  | _ => s

/-! ## Subscriptions -/

/-- `client.subscribe` on the filter of a trade key, when it succeeds. -/
def subscribe (s : DmListener) (key : PublicKey) : DmListener :=
  { s with
    liveSubscriptions := s.liveSubscriptions.put s.nextSubscription key
    nextSubscription := s.nextSubscription + 1
    pubkeyToSubscription := s.pubkeyToSubscription.put key s.nextSubscription }

/-- `HashSet::insert` on the subscribed keys. -/
def insertKey (keys : List PublicKey) (key : PublicKey) : List PublicKey :=
  if key ∈ keys then keys else key :: keys

/-- `ensure_order_dm_subscription`: a key that has a subscription keeps it, bound to the order. -/
def ensureOrderDmSubscription (s : DmListener) (key : PublicKey) (orderId : Uuid) (tradeIndex : Int)
    (subscribeOk : Bool) : DmListener :=
  match if key ∈ s.subscribedPubkeys then s.pubkeyToSubscription key else none with
  | some subscriptionId =>
    { s with
      subscriptionToOrder := s.subscriptionToOrder.put subscriptionId (orderId, tradeIndex) }
  | none =>
    if subscribeOk then
      { subscribe s key with
        subscribedPubkeys := insertKey s.subscribedPubkeys key
        subscriptionToOrder := s.subscriptionToOrder.put s.nextSubscription (orderId, tradeIndex) }
    else
      { s with
        subscribedPubkeys := s.subscribedPubkeys.filter fun k => k ≠ key
        pubkeyToSubscription := s.pubkeyToSubscription.erase key }

section
variable (ops : ListenerOps)

/-! ## Commands -/

/-- `DmRouterCmd::TrackOrder`. -/
def trackOrder (s : DmListener) (orderId : Uuid) (tradeIndex : Int) (subscribeOk : Bool) :
    DmListener :=
  let s := { s with
    activeOrderTradeIndices := trackActive s.activeOrderTradeIndices orderId tradeIndex }
  match ops.deriveTradeKeys tradeIndex with
  | .error _ => s
  | .ok keys => ensureOrderDmSubscription s keys.publicKey orderId tradeIndex subscribeOk

/-- `prune_closed_waiters`. -/
def pruneClosed (s : DmListener) : DmListener :=
  { s with pendingWaiters := s.pendingWaiters.filter fun w => w.responseTx ∉ s.closedWaiters }

/-- `DmRouterCmd::RegisterWaiter`. -/
def addWaiter (s : DmListener) (waiter : PendingDmWaiter) (subscribeOk : Bool) : DmListener :=
  let s := pruneClosed s
  if s.pendingWaiters.length ≥ maxPendingWaiters then s
  else if waiter.tradeKey ∈ s.subscribedPubkeys then
    { s with pendingWaiters := s.pendingWaiters ++ [waiter] }
  else if subscribeOk then
    { subscribe s waiter.tradeKey with
      subscribedPubkeys := insertKey s.subscribedPubkeys waiter.tradeKey
      pendingWaiters := s.pendingWaiters ++ [waiter] }
  else s

/-! ## Relay events -/

/-- The waiters' turn at an event: closed ones go, and so do those that are sent the event. -/
def drainWaiters (s : DmListener) (event : Event) : DmListener :=
  { s with
    pendingWaiters := s.pendingWaiters.filter fun w =>
      w.responseTx ∉ s.closedWaiters && (deliverable ops.wire event w.tradeKey).isNone }

/-- What `parse_dm_events_single` makes of an event that a key opens. -/
def parsedDm (event : Event) (keys : Keys) (u : UnwrappedMessage) (env : Env) : ParsedDm where
  message := u.message
  timestamp := ops.createdAt event keys.publicKey
  sender := u.sender
  env := env

/-- `resolve_order_for_event`: the first order whose key opens the event. -/
def resolveOrderForEvent (event : Event) :
    List (Uuid × Int) → Option (Uuid × Int × Keys × UnwrappedMessage)
  | [] => none
  | (orderId, tradeIndex) :: rest =>
    match ops.deriveTradeKeys tradeIndex with
    | .error _ => resolveOrderForEvent event rest
    | .ok keys =>
      match ops.wire.unwrapIncoming event keys.publicKey with
      | some u => some (orderId, tradeIndex, keys, u)
      | none => resolveOrderForEvent event rest

/-- The tracked path and the fallback path. -/
def routeEvent (s : DmListener) (subscriptionId : SubscriptionId) (event : Event)
    (rank : Uuid → Nat) (env : Env) : DmListener :=
  match s.subscriptionToOrder subscriptionId with
  | some (orderId, tradeIndex) =>
    match ops.deriveTradeKeys tradeIndex with
    | .error _ => s
    | .ok keys =>
      match ops.wire.unwrapIncoming event keys.publicKey with
      | none => s
      | some u =>
        dispatchGiftwrapBatch ops ⟨orderId, tradeIndex, keys, true⟩
          (.trackedSubscription subscriptionId) s [parsedDm ops event keys u env]
  | none =>
    match resolveOrderForEvent ops event (iterate rank s.activeOrderTradeIndices) with
    | none => s
    | some (orderId, tradeIndex, keys, u) =>
      dispatchGiftwrapBatch ops ⟨orderId, tradeIndex, keys, true⟩ .untrackedFallback s
        [parsedDm ops event keys u env]

/-- The listener's turn at a relay event. -/
def handleEvent (s : DmListener) (subscriptionId : SubscriptionId) (event : Event)
    (rank : Uuid → Nat) (env : Env) : DmListener :=
  if event.kind ≠ ops.wire.eventKind then s
  else routeEvent ops (drainWaiters ops s event) subscriptionId event rank env

/-! ## Startup -/

/-- What a startup takes from outside: the rows read, the order they are iterated in, which
`subscribe` calls succeed, what each order's fetch returns, and the clock. -/
structure Startup where
  rows : List Order
  rank : Uuid → Nat
  subscribeOk : Uuid → Bool
  window : Uuid → List Event
  env : Uuid → Env

/-- The newest message of a window: the greatest `created_at`, and of equal ones the greatest id. -/
def freshest (keys : Keys) (env : Env) (window : List Event) : Option (Nat × ParsedDm) :=
  window.foldl (fun best event =>
    match ops.wire.unwrapIncoming event keys.publicKey with
    | none => best
    | some u =>
      let m := parsedDm ops event keys u env
      match best with
      | none => some (event.id, m)
      | some (bestId, bestDm) =>
        if bestDm.timestamp < m.timestamp ∨ m.timestamp = bestDm.timestamp ∧ bestId < event.id then
          some (event.id, m)
        else best) none

/-- `fetch_and_replay_startup_trade_dms`, for one order. -/
def replayOrder (startup : Startup) (s : DmListener) (orderId : Uuid) (tradeIndex : Int) :
    DmListener :=
  match ops.deriveTradeKeys tradeIndex with
  | .error _ => s
  | .ok keys =>
    match s.pubkeyToSubscription keys.publicKey with
    | none => s
    | some subscriptionId =>
      match freshest ops keys (startup.env orderId) (startup.window orderId) with
      | none => s
      | some (_, m) =>
        match s.subscriptionToOrder subscriptionId with
        | none => s
        | some _ =>
          dispatchGiftwrapBatch ops ⟨orderId, tradeIndex, keys, false⟩
            (.trackedSubscription subscriptionId) s [m]

/-- The bootstrap subscription of one order. -/
def bootstrapOrder (startup : Startup) (s : DmListener) (orderId : Uuid) (tradeIndex : Int) :
    DmListener :=
  match ops.deriveTradeKeys tradeIndex with
  | .error _ => s
  | .ok keys =>
    ensureOrderDmSubscription s keys.publicKey orderId tradeIndex (startup.subscribeOk orderId)

/-- A listener without subscriptions or waiters, over the hydrated map. -/
def hydrated (s : DmListener) (startup : Startup) : DmListener :=
  { s with
    activeOrderTradeIndices := hydrateStartupActiveOrders startup.rows
    subscribedPubkeys := []
    subscriptionToOrder := Table.empty
    pubkeyToSubscription := Table.empty
    liveSubscriptions := Table.empty
    pendingWaiters := [] }

/-- Hydration, the bootstrap subscriptions and the startup replay. -/
def startListener (s : DmListener) (startup : Startup) : DmListener :=
  let orders := iterate startup.rank (hydrateStartupActiveOrders startup.rows)
  let s := orders.foldl (fun s e => bootstrapOrder ops startup s e.1 e.2) (hydrated s startup)
  orders.foldl (fun s e => replayOrder ops startup s e.1 e.2) s

/-! ## Runs -/

/-- A turn of the listener, the UI or another task. -/
inductive ListenerEvent
  | trackOrder (orderId : Uuid) (tradeIndex : Int) (subscribeOk : Bool)
  | registerWaiter (waiter : PendingDmWaiter) (subscribeOk : Bool)
  | waiterGcTick
  | relayEvent (subscriptionId : SubscriptionId) (event : Event) (rank : Uuid → Nat) (env : Env)
  /-- A `wait_for_dm` timed out or was dropped. -/
  | receiverDropped (id : WaiterId)
  | operationResult (result : TrackingResult)
  /-- Another task wrote what it shares with the listener. -/
  | otherTask (trade : TradeState)
  | respawn (startup : Startup)

/-- One turn. -/
def DmListener.next (s : DmListener) : ListenerEvent → DmListener
  | .trackOrder orderId tradeIndex subscribeOk => Router.trackOrder ops s orderId tradeIndex subscribeOk
  | .registerWaiter waiter subscribeOk => addWaiter s waiter subscribeOk
  | .waiterGcTick => pruneClosed s
  | .relayEvent subscriptionId event rank env => handleEvent ops s subscriptionId event rank env
  | .receiverDropped id => { s with closedWaiters := id :: s.closedWaiters }
  | .operationResult result => trackOperationResult s result
  | .otherTask trade => { s with trade := trade }
  | .respawn startup => startListener ops s startup

end

end Mostrix.Router
