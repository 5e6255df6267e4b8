import Mostrix.Keys.User
import Mostrix.Library.KeyedList
import Mostrix.Router.Waiters
import Mostrix.TradeDm.Row

/-!
# Tracked orders, and dispatching their messages

`util/dm_utils/mod.rs`: the DM listener follows an order through five tables. The shared map
`active_order_trade_indices` names the orders it follows; `subscribed_pubkeys`,
`subscription_to_order` and `pubkey_to_subscription` are its own, and the relay client holds the
subscriptions themselves. `dispatch_giftwrap_batch` hands the messages of one order to
`handle_trade_dm_for_order` and stops following the order after one that ends it. Whether a message
ends the order is read off the message (`tradeMessageIsTerminal`), not off the row it leaves.
-/

namespace Mostrix.Router

/-- A `SubscriptionId`. The client draws them at random; here they are counted. -/
abbrev SubscriptionId := Nat

/-- What the listener works with and does not change: the wire, the keys and the user it read. -/
structure ListenerOps where
  wire : Wire
  /-- The `created_at` of what a key opens an event to (the rumor's, not the envelope's). -/
  createdAt : Event → PublicKey → Int
  keyOps : KeyOps
  chatOps : ChatOps
  user : User

/-- `user.derive_trade_keys`. -/
def ListenerOps.deriveTradeKeys (ops : ListenerOps) (tradeIndex : Int) : Except String Keys :=
  User.deriveTradeKeys ops.keyOps ops.user tradeIndex

/-- The listener: its own tables, the client's subscriptions, and what it shares with the UI. -/
structure DmListener where
  trade : TradeState
  /-- A `HashMap`; the list has each order at most once, in some order. -/
  activeOrderTradeIndices : List (Uuid × Int) := []
  droppedUserHistoryOrderIds : List Uuid := []
  subscribedPubkeys : List PublicKey := []
  subscriptionToOrder : Table SubscriptionId (Uuid × Int) := Table.empty
  pubkeyToSubscription : Table PublicKey SubscriptionId := Table.empty
  /-- The client's subscriptions, each with the trade key of its filter. -/
  liveSubscriptions : Table SubscriptionId PublicKey := Table.empty
  nextSubscription : SubscriptionId := 0
  pendingWaiters : List PendingDmWaiter := []
  /-- The waiters whose receiver is gone. -/
  closedWaiters : List WaiterId := []
  /-- The orders whose chats the listener told the chat task to drop, oldest first. -/
  untrackedChats : List Uuid := []

/-! ## What ends an order -/

/-- `is_terminal_order_status`. -/
def isTerminalOrderStatus : Status → Bool
  | .success | .canceled | .canceledByAdmin | .settledByAdmin | .completedByAdmin | .expired
  | .cooperativelyCanceled => true
  | _ => false

/-- `order_status_untracks_chat`: the same without `success`. -/
def orderStatusUntracksChat : Status → Bool
  | .canceled | .canceledByAdmin | .settledByAdmin | .completedByAdmin | .expired
  | .cooperativelyCanceled => true
  | _ => false

/-- The actions that end a trade whatever they carry. -/
def isEndingAction : Action → Bool
  | .adminCanceled | .canceled | .cooperativeCancelAccepted => true
  | _ => false

/-- The status of a standalone order in the payload. -/
def payloadOrderStatus : Option Payload → Option Status
  | some (.order o) => o.status
  | _ => none

/-- `trade_message_should_untrack_order_chat`. -/
def tradeMessageShouldUntrackOrderChat (message : MessageKind) : Bool :=
  isEndingAction message.action ||
    ((payloadOrderStatus message.payload).map orderStatusUntracksChat).getD false

/-- `message_has_terminal_order_status`. -/
def messageHasTerminalOrderStatus (message : MessageKind) : Bool :=
  ((payloadOrderStatus message.payload).map isTerminalOrderStatus).getD false

/-- `trade_message_is_terminal`. -/
def tradeMessageIsTerminal (message : MessageKind) : Bool :=
  isEndingAction message.action || messageHasTerminalOrderStatus message

/-! ## `dispatch_giftwrap_batch` -/

/-- A decrypted message of a batch: what `parse_dm_events_single` returns for it, and the clock
while it is handled. -/
structure ParsedDm where
  message : MessageKind
  timestamp : Int
  sender : PublicKey
  env : Env

/-- `GiftWrapTerminalPolicy`. -/
inductive GiftWrapTerminalPolicy
  | trackedSubscription (subscriptionId : SubscriptionId)
  | untrackedFallback
deriving DecidableEq, Repr

/-- The order a batch is for. -/
structure DispatchTarget where
  orderId : Uuid
  tradeIndex : Int
  tradeKeys : Keys
  notify : Bool

/-- The trade DM that a message of the batch is to the handler. -/
def DispatchTarget.dm (target : DispatchTarget) (m : ParsedDm) : TradeDm where
  orderId := target.orderId
  tradeIndex := target.tradeIndex
  message := m.message
  timestamp := m.timestamp
  sender := m.sender
  tradeKeys := target.tradeKeys
  notify := target.notify

/-- `HashMap::remove` on the shared map. -/
def removeActive (indices : List (Uuid × Int)) (orderId : Uuid) : List (Uuid × Int) :=
  indices.filter fun e => e.1 ≠ orderId

section
variable (ops : ListenerOps)

/-- One message of a batch up to its cleanup: the handler, the `last_seen_dm_ts` cursor, and the
chats. -/
def handleParsedDm (target : DispatchTarget) (s : DmListener) (m : ParsedDm) : DmListener :=
  let trade := handleTradeDmForOrder ops.chatOps m.env s.trade (target.dm m)
  { s with
    trade := { trade with db := Order.updateLastSeenDmTs trade.db target.orderId m.timestamp }
    untrackedChats :=
      if tradeMessageShouldUntrackOrderChat m.message then s.untrackedChats ++ [target.orderId]
      else s.untrackedChats }

/-- What both policies clean up: the order and the subscribed key. -/
def forgetOrder (target : DispatchTarget) (s : DmListener) : DmListener :=
  { s with
    activeOrderTradeIndices := removeActive s.activeOrderTradeIndices target.orderId
    subscribedPubkeys :=
      match ops.deriveTradeKeys target.tradeIndex with
      | .ok keys => s.subscribedPubkeys.filter fun k => k ≠ keys.publicKey
      | .error _ => s.subscribedPubkeys }

/-- The end of a tracked subscription. -/
def unsubscribe (subscriptionId : SubscriptionId) (s : DmListener) : DmListener :=
  { s with
    subscriptionToOrder := s.subscriptionToOrder.erase subscriptionId
    liveSubscriptions := s.liveSubscriptions.erase subscriptionId }

/-- The loop of `dispatch_giftwrap_batch`. A terminal message ends the batch of a tracked
subscription; on the fallback path the rest is handled too. -/
def dispatchLoop (target : DispatchTarget) (policy : GiftWrapTerminalPolicy) :
    DmListener → List ParsedDm → DmListener
  | s, [] => s
  | s, m :: ms =>
    let s := handleParsedDm ops target s m
    if tradeMessageIsTerminal m.message then
      match policy with
      | .trackedSubscription subscriptionId => unsubscribe subscriptionId (forgetOrder ops target s)
      | .untrackedFallback => dispatchLoop target policy (forgetOrder ops target s) ms
    else dispatchLoop target policy s ms

/-- `dispatch_giftwrap_batch`: nothing for an order whose history the user deleted. -/
def dispatchGiftwrapBatch (target : DispatchTarget) (policy : GiftWrapTerminalPolicy)
    (s : DmListener) (parsed : List ParsedDm) : DmListener :=
  if target.orderId ∈ s.droppedUserHistoryOrderIds then s
  else dispatchLoop ops target policy s parsed

end

end Mostrix.Router
