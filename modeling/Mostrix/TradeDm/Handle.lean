import Mostrix.TradeDm.Messages

/-!
# Handling one trade DM

`handle_trade_dm_for_order` (`util/dm_utils/mod.rs`), which every decrypted trade DM goes through.
The listener works on the `orders` table and on three things it shares with the UI: the Messages
list, the pending-notification counter and the notification channel. `TradeState` holds them, and
the `TrackOrder` commands the handler sends back to the router.

The handler gives up the lock on the Messages list between reading the newest row of the order and
writing the new one. `handleTradeDmBegin` is everything up to that read and `handleTradeDmFinish`
the rest; `TradeDmInFlight` is what the handler carries from one to the other, and the UI may run in
between. The chat subscriptions the handler starts and stops are commands to another task that no
function here reads.
-/

namespace Mostrix

/-- What the trade-DM listener shares with the UI, the table, and the commands it sent. -/
structure TradeState where
  db : Db
  messages : List OrderMessage := []
  pendingNotifications : Nat := 0
  /-- The notifications sent and not yet handled, oldest first. -/
  notifications : List MessageNotification := []
  /-- The `DmRouterCmd::TrackOrder` commands sent, oldest first. -/
  trackOrders : List (Uuid × Int) := []

/-- A decrypted trade DM as the listener hands it over: the order and trade index it was routed to,
the message, and whether to notify (`false` during the startup replay). -/
structure TradeDm where
  orderId : Uuid
  tradeIndex : Int
  message : MessageKind
  timestamp : Int
  sender : PublicKey
  tradeKeys : Keys
  notify : Bool

/-! ## Helpers of the handler -/

/-- `resolved_status_candidate`. -/
def resolvedStatusCandidate (action : Action) (payload : Option Payload) : Option Status :=
  match smallOrderRefFromPayload payload with
  | some o => mapActionToStatus action o
  | none => inferredStatusFromTradeAction action

/-- `is_pre_active_status`. -/
def isPreActiveStatus : Status → Bool
  | .pending | .waitingTakerBond | .waitingMakerBond | .waitingPayment | .waitingBuyerInvoice
  | .settledHoldInvoice => true
  | _ => false

/-- `is_pre_active_taker_take`. -/
def isPreActiveTakerTake (row : Order) : Bool :=
  !row.isMine && (row.status.map isPreActiveStatus).getD false

/-- `is_pre_active_maker_listing`. -/
def isPreActiveMakerListing (row : Order) : Bool :=
  row.isMine && (row.status.map isPreActiveStatus).getD false

/-- `drop_pre_active_taker_take`. -/
def dropPreActiveTakerTake (s : TradeState) (orderId : Uuid) : TradeState :=
  { s with
    db := Order.deleteById s.db orderId
    messages := removeOrderFromMessages s.messages orderId }

/-- The message shapes `upsert_order_from_trade_dm` persists, and the order each one carries. -/
def smallOrderToUpsert (action : Action) (payload : Option Payload) : Option SmallOrder :=
  match action, payload with
  | .addInvoice, some (.order o) => some o
  | .payInvoice, some (.paymentRequest (some o) _ _) => some o
  | .payBondInvoice, some (.paymentRequest (some o) _ _) => some o
  | .buyerTookOrder, some (.order o) => some o
  | .holdInvoicePaymentAccepted, some (.order o) => some o
  | .addBondInvoice, some (.bondPayoutRequest req) => some req.order
  | .newOrder, some (.order o) => some o
  | _, _ => none

/-- `upsert_order_from_trade_dm`. -/
def upsertOrderFromTradeDm (ops : ChatOps) (db : Db) (orderId : Uuid) (action : Action)
    (payload : Option Payload) (requestId : Option Nat) (tradeKeys : Keys) (now : Int) : Db :=
  match smallOrderToUpsert action payload with
  | some o => upsertDb ops db orderId o tradeKeys (requestId.bind i64TryFrom) now
  | none => db

/-- `small_order_pending_from_new_order_payload`. -/
def smallOrderPendingFromNewOrderPayload : Option Payload → Option SmallOrder
  | some (.order o) => if o.status = some .pending then some o else none
  | _ => none

/-- `revert_maker_to_pending_on_book_republish`. -/
def revertMakerToPendingOnBookRepublish (ops : ChatOps) (env : Env) (s : TradeState)
    (dm : TradeDm) : TradeState :=
  let db := upsertOrderFromTradeDm ops s.db dm.orderId .newOrder dm.message.payload
    dm.message.requestId dm.tradeKeys env.now
  { s with
    db := Order.updateStatus db dm.orderId .pending
    messages := removeOrderFromMessages s.messages dm.orderId }

/-- `persist_range_child_listing_from_new_order`. `save_order` reports no failure, so this always
tracks the order and returns `true`. -/
def persistRangeChildListingFromNewOrder (env : Env) (s : TradeState) (dm : TradeDm)
    (o : SmallOrder) : TradeState × Bool :=
  ({ s with
      db := saveOrder s.db o dm.tradeKeys (dm.message.requestId.getD 0) dm.tradeIndex true env
      trackOrders := s.trackOrders ++ [(dm.orderId, dm.tradeIndex)] }, true)

/-- `new_order_would_regress_messages_row`. -/
def newOrderWouldRegressMessagesRow (action existingAction : Action) : Bool :=
  action = .newOrder && existingAction ≠ .newOrder

/-- `try_handle_new_order_trade_dm`: `true` when the message was one of the special cases. -/
def tryHandleNewOrderTradeDm (ops : ChatOps) (env : Env) (s : TradeState) (dm : TradeDm) :
    TradeState × Bool :=
  match smallOrderPendingFromNewOrderPayload dm.message.payload with
  | none => (s, false)
  | some o =>
    match Order.getById s.db dm.orderId with
    | some row =>
      if isPreActiveTakerTake row then (dropPreActiveTakerTake s dm.orderId, true)
      else if isPreActiveMakerListing row then
        (revertMakerToPendingOnBookRepublish ops env s dm, true)
      else (s, false)
    | none => persistRangeChildListingFromNewOrder env s dm o

/-- `effective_is_mine_for_trade_dm_message`. -/
def effectiveIsMineForTradeDmMessage (hadLocalRowBeforeUpsert : Bool)
    (postUpsertIsMine priorMessageIsMine : Option Bool) : Option Bool :=
  if hadLocalRowBeforeUpsert then postUpsertIsMine.or priorMessageIsMine else priorMessageIsMine

/-- The dispute id of a dispute message, and the solver chat of `admin-took-dispute`. -/
def persistDispute (ops : ChatOps) (db : Db) (dm : TradeDm) : Db :=
  match dm.message.action, dm.message.payload with
  | .disputeInitiatedByYou, some (.dispute id) => Order.updateDisputeId db dm.orderId id
  | .disputeInitiatedByPeer, some (.dispute id) => Order.updateDisputeId db dm.orderId id
  | .adminTookDispute, some (.peer pubkey) =>
    match ops.parsePubkey pubkey, deriveSharedKeyHex ops dm.tradeKeys pubkey with
    | some _, some hex => Order.updateSolverChat db dm.orderId pubkey hex
    | _, _ => db
  | _, _ => db

/-- The writes that come before the Messages list is read: the upsert, except for `cant-do`, and
the dispute data. -/
def hydrateRow (ops : ChatOps) (env : Env) (db : Db) (dm : TradeDm) : Db :=
  let db :=
    if dm.message.action = .cantDo then db
    else upsertOrderFromTradeDm ops db dm.orderId dm.message.action dm.message.payload
      dm.message.requestId dm.tradeKeys env.now
  persistDispute ops db dm

/-- The amount and the invoice a message asks about. -/
def satAmountAndInvoice (action : Action) (payload : Option Payload) :
    Option Int × Option String :=
  match action, payload with
  | .payInvoice, some (.paymentRequest o invoice amount)
  | .payBondInvoice, some (.paymentRequest o invoice amount) =>
    (amount.or (o.map (·.amount)), some invoice)
  | .addInvoice, some (.order o) => (some o.amount, none)
  | .addBondInvoice, some (.bondPayoutRequest req) => (some req.order.amount, none)
  | _, _ => (none, none)

/-- `PayInvoice` and `PayBondInvoice`, the two actions that carry an invoice to pay. -/
def isPayAction (action : Action) : Bool :=
  action = .payInvoice || action = .payBondInvoice

/-- `is_actionable_notification`: there is an invoice to pay, or an amount to invoice. -/
def isActionableNotification (action : Action) (payload : Option Payload) : Bool :=
  match action with
  | .payInvoice | .payBondInvoice =>
    ((satAmountAndInvoice action payload).2.map fun s => decide (s ≠ "")).getD false
  | .addInvoice | .addBondInvoice => (satAmountAndInvoice action payload).1.isSome
  | _ => true

/-- A pay action without an invoice, on which the handler returns early. -/
def isEmptyPay (message : MessageKind) : Bool :=
  isPayAction message.action && !isActionableNotification message.action message.payload

/-! ## The handler -/

/-- `PriorMessageSnapshot`: the newest row of the order, as read under the first lock. -/
structure PriorMessageSnapshot where
  timestamp : Int
  action : Action
  satAmount : Option Int
  buyerInvoice : Option String
  autoPopupShown : Bool
  orderKind : Option Kind
  isMine : Option Bool
  orderStatus : Option Status
  orderSnapshot : Option SmallOrder
deriving DecidableEq, Repr

/-- The snapshot of a row. -/
def PriorMessageSnapshot.ofMessage (m : OrderMessage) : PriorMessageSnapshot where
  timestamp := m.timestamp
  action := m.message.action
  satAmount := m.satAmount
  buyerInvoice := m.buyerInvoice
  autoPopupShown := m.autoPopupShown
  orderKind := m.orderKind
  isMine := m.isMine
  orderStatus := m.orderStatus
  orderSnapshot := m.orderSnapshot

/-- What the handler holds while the Messages list is unlocked: the row it read before the upsert,
the status the DM implies, and the newest row of the order. -/
structure TradeDmInFlight where
  dbOrder : Option Order
  statusCandidate : Option Status
  prior : Option PriorMessageSnapshot
deriving DecidableEq, Repr

/-- The status the DM implies; none for `cant-do`, whose payload reports a rejected request. -/
def statusCandidate (message : MessageKind) : Option Status :=
  if message.action = .cantDo then none
  else resolvedStatusCandidate message.action message.payload

/-- A `canceled` without a payload on a take that never became active. -/
def isPreActiveTakerCancel (row : Option Order) (message : MessageKind) : Bool :=
  message.action = .canceled && message.payload.isNone &&
    (row.map isPreActiveTakerTake).getD false

/-- `handle_trade_dm_for_order` up to the first lock on the Messages list; `none` when it returns
before that. -/
def handleTradeDmBegin (ops : ChatOps) (env : Env) (s : TradeState) (dm : TradeDm) :
    TradeState × Option TradeDmInFlight :=
  let (s, handled) :=
    if dm.message.action = .newOrder then tryHandleNewOrderTradeDm ops env s dm else (s, false)
  if handled then (s, none)
  else
    let dbOrder := Order.getById s.db dm.orderId
    if isPreActiveTakerCancel dbOrder dm.message then
      (dropPreActiveTakerTake s dm.orderId, none)
    else
      let s := { s with db := hydrateRow ops env s.db dm }
      if isEmptyPay dm.message then (s, none)
      else
        (s, some
          { dbOrder := dbOrder
            statusCandidate := statusCandidate dm.message
            prior := (newestMessage s.messages dm.orderId).map PriorMessageSnapshot.ofMessage })

/-- `is_new_message`: another action, or the same with a newer timestamp. -/
def isNewMessage (dm : TradeDm) (prior : Option PriorMessageSnapshot) : Bool :=
  match prior with
  | none => true
  | some prior =>
    if dm.message.action ≠ prior.action then true else decide (prior.timestamp < dm.timestamp)

/-- `effective_order_kind`: payload, newest row, take action, table row, in this order. -/
def effectiveOrderKind (dm : TradeDm) (f : TradeDmInFlight) : Option Kind :=
  let fromPayload := (smallOrderRefFromPayload dm.message.payload).bind (·.kind)
  let fromPrior := f.prior.bind (·.orderKind)
  let fromTakeAction :=
    match dm.message.action with
    | .takeSell => some Kind.sell
    | .takeBuy => some Kind.buy
    | _ => none
  ((fromPayload.or fromPrior).or fromTakeAction).or (f.dbOrder.bind (·.kind))

/-- `baseline_status`: the row's status before the upsert, else the newest message's. -/
def baselineStatus (f : TradeDmInFlight) : Option Status :=
  (f.dbOrder.bind (·.status)).or (f.prior.bind (·.orderStatus))

/-- `should_accept_candidate`. -/
def shouldAcceptCandidate (dm : TradeDm) (f : TradeDmInFlight) : Bool :=
  (f.statusCandidate.map fun c =>
    shouldApplyStatusTransition (baselineStatus f) c (effectiveOrderKind dm f)).getD false

/-- The gated status write: the candidate when it is accepted and new, else the status from before
the upsert, where there was one. -/
def writeGatedStatus (db : Db) (dm : TradeDm) (f : TradeDmInFlight) : Db :=
  match f.statusCandidate with
  | none => db
  | some candidate =>
    if shouldAcceptCandidate dm f then
      if baselineStatus f ≠ some candidate then Order.updateStatus db dm.orderId candidate else db
    else
      match f.dbOrder.bind (·.status) with
      | some existing => Order.updateStatus db dm.orderId existing
      | none => db

/-- `should_replace_row`: a newer message, another action of the same second, or an older one whose
status strictly advances the row's. -/
def shouldReplaceRow (dm : TradeDm) (f : TradeDmInFlight) : Bool :=
  match f.prior with
  | none => true
  | some prior =>
    if newOrderWouldRegressMessagesRow dm.message.action prior.action then false
    else if prior.timestamp < dm.timestamp then true
    else if dm.timestamp = prior.timestamp then decide (dm.message.action ≠ prior.action)
    else
      (f.statusCandidate.map fun c =>
        shouldStrictlyAdvanceStatus prior.orderStatus c (effectiveOrderKind dm f)).getD false

/-- The row the handler builds for the Messages list. -/
def tradeDmMessage (dm : TradeDm) (f : TradeDmInFlight) (postUpsertIsMine : Option Bool) :
    OrderMessage :=
  let (satAmount, invoice) := satAmountAndInvoice dm.message.action dm.message.payload
  { message := dm.message
    timestamp := dm.timestamp
    sender := dm.sender
    orderId := some dm.orderId
    tradeIndex := dm.tradeIndex
    satAmount := satAmount.or (f.prior.bind (·.satAmount))
    buyerInvoice := invoice.or (f.prior.bind (·.buyerInvoice))
    orderKind := effectiveOrderKind dm f
    isMine := effectiveIsMineForTradeDmMessage f.dbOrder.isSome postUpsertIsMine
      (f.prior.bind (·.isMine))
    orderStatus :=
      if shouldAcceptCandidate dm f then f.statusCandidate.or (baselineStatus f)
      else baselineStatus f
    orderSnapshot := mergeOrderSnapshots (smallOrderFromPayload dm.message.payload)
      (f.prior.bind (·.orderSnapshot)) (f.dbOrder.map smallOrderFromDbOrder)
    autoPopupShown :=
      (f.prior.map fun p => p.autoPopupShown && decide (p.action = dm.message.action)).getD false }

/-- Whether the handler counts and sends a notification. -/
def sendsNotification (dm : TradeDm) (f : TradeDmInFlight) : Bool :=
  dm.notify && isNewMessage dm f.prior &&
    isActionableNotification dm.message.action dm.message.payload

/-- `handle_trade_dm_for_order` after the first lock on the Messages list: the gated status write,
the row and the notification. -/
def handleTradeDmFinish (s : TradeState) (dm : TradeDm) (f : TradeDmInFlight) : TradeState :=
  let message := tradeDmMessage dm f ((Order.getById s.db dm.orderId).map (·.isMine))
  let sends := sendsNotification dm f
  { s with
    db := writeGatedStatus s.db dm f
    pendingNotifications := if sends then s.pendingNotifications + 1 else s.pendingNotifications
    messages :=
      if shouldReplaceRow dm f then
        sortMessages (removeOrderFromMessages s.messages dm.orderId ++ [message])
      else s.messages
    notifications :=
      if sends then s.notifications ++ [orderMessageToNotification message]
      else s.notifications }

/-- `handle_trade_dm_for_order` with nothing in between. -/
def handleTradeDmForOrder (ops : ChatOps) (env : Env) (s : TradeState) (dm : TradeDm) :
    TradeState :=
  match handleTradeDmBegin ops env s dm with
  | (s, none) => s
  | (s, some f) => handleTradeDmFinish s dm f

end Mostrix
