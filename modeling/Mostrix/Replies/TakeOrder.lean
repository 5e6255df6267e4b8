import Mostrix.Replies.BondInvoice

/-!
# The reply to a take-order request

`take_order.rs` and `payment_request_operation_result` (`order_utils/helper.rs`): a trade index is
reserved and its key subscribed before the request is sent, and the reply is mapped by its action to
an order to save. The saved order is the payload's, under the payload's id where it has one and
under the requested id where it has none.
-/

namespace Mostrix

/-- What the take flow holds while it waits: the requested order, the request id and the reserved
index with its keys. -/
structure TakeOrderRequest where
  orderId : Uuid
  requestId : Nat
  nextIdx : Int
  tradeKeys : Keys
deriving DecidableEq, Repr

/-- `MappedTakeReply`. -/
inductive MappedTakeReply
  | addInvoice (order : SmallOrder)
  | paymentRequest (action : Action) (order : Option SmallOrder) (invoice : String)
      (amount : Option Int)
deriving DecidableEq, Repr

/-- `map_take_reply`. The source appends the action's name to the last text. -/
def mapTakeReply (action : Action) (payload : Option Payload) : Except String MappedTakeReply :=
  match action, payload with
  | .addInvoice, some (.order order) => .ok (.addInvoice order)
  | .addInvoice, _ =>
    .error "Mostro replied with AddInvoice but no Order payload was provided"
  | .payInvoice, some (.paymentRequest order invoice amount) =>
    .ok (.paymentRequest .payInvoice order invoice amount)
  | .payBondInvoice, some (.paymentRequest order invoice amount) =>
    .ok (.paymentRequest .payBondInvoice order invoice amount)
  | .payInvoice, _ =>
    .error "Mostro replied with PayInvoice but no PaymentRequest payload was provided"
  | .payBondInvoice, _ =>
    .error "Mostro replied with PayBondInvoice but no PaymentRequest payload was provided"
  | _, _ => .error "Unexpected take-order action"

/-- `normalize_taken_order`. -/
def normalizeTakenOrder (order : SmallOrder) (fallbackOrderId : Uuid) : SmallOrder :=
  { order with id := some (order.id.getD fallbackOrderId) }

/-- `persist_taken_order`. -/
def persistTakenOrder (env : Env) (s : TradeState) (req : TakeOrderRequest)
    (returnedOrder : SmallOrder) : TradeState × SmallOrder :=
  let normalized := normalizeTakenOrder returnedOrder req.orderId
  ({ s with
      db := saveOrder s.db normalized req.tradeKeys req.requestId req.nextIdx false env
      trackOrders := s.trackOrders ++ [(normalized.id.getD req.orderId, req.nextIdx)] },
    normalized)

/-- The Messages row of a take that asks for an invoice. -/
def takeAddInvoiceMessage (reply : Reply) (order : SmallOrder) (tradeIndex : Int) :
    OrderMessage where
  message := reply.message
  timestamp := reply.timestamp
  sender := reply.sender
  orderId := order.id
  tradeIndex := tradeIndex
  satAmount := some order.amount
  orderKind := order.kind
  isMine := some false
  orderStatus := order.status.or (some .waitingBuyerInvoice)
  orderSnapshot := some order
  read := true
  autoPopupShown := true

/-- `take_add_invoice_operation_result`. -/
def takeAddInvoiceOperationResult (reply : Reply) (order : SmallOrder) (tradeIndex : Int) :
    OperationResult :=
  let orderMessage := takeAddInvoiceMessage reply order tradeIndex
  .openInvoicePopup (orderMessageToNotification orderMessage) orderMessage

/-- `payment_request_operation_result`. -/
def paymentRequestOperationResult (env : Env) (s : TradeState) (innerAction : Action)
    (optOrder : Option SmallOrder) (invoice : String) (optAmount : Option Int)
    (fallbackOrderId : Option Uuid) (requestId : Nat) (nextIdx : Int) (tradeKeys : Keys)
    (isMine : Bool) : TradeState × Except String OperationResult :=
  let popupAction : Action :=
    match innerAction with
    | .payBondInvoice => .payBondInvoice
    | _ => .payInvoice
  match optOrder with
  | none => (s, .error "Order details are missing from payload")
  | some order =>
    match order.id.or fallbackOrderId with
    | none => (s, .error "Order details are missing id in PaymentRequest payload")
    | some effectiveOrderId =>
      let orderToSave := { order with id := some effectiveOrderId }
      ({ s with
          db := saveOrder s.db orderToSave tradeKeys requestId nextIdx isMine env
          trackOrders := s.trackOrders ++ [(effectiveOrderId, nextIdx)] },
        .ok (.paymentRequestRequired orderToSave invoice (optAmount.or (some orderToSave.amount))
          nextIdx popupAction))

/-- `take_order` from the reply on: `handle_mostro_response`, then `process_take_order_reply`. -/
def processTakeOrderReply (env : Env) (s : TradeState) (req : TakeOrderRequest) (reply : Reply) :
    TradeState × Except String OperationResult :=
  match handleMostroResponse reply.message req.requestId with
  | .error e => (s, .error e)
  | .ok message =>
    match mapTakeReply message.action message.payload with
    | .error e => (s, .error e)
    | .ok (.addInvoice returnedOrder) =>
      let (s, normalized) := persistTakenOrder env s req returnedOrder
      (s, .ok (takeAddInvoiceOperationResult reply normalized req.nextIdx))
    | .ok (.paymentRequest action order invoice amount) =>
      paymentRequestOperationResult env s action order invoice amount (some req.orderId)
        req.requestId req.nextIdx req.tradeKeys false

/-! ## What the reply writes -/

/-- The order an accepted take reply saves, and whether it also leaves a Messages row. -/
def takeOrderToSave (message : MessageKind) : Option (SmallOrder × Bool) :=
  match mapTakeReply message.action message.payload with
  | .ok (.addInvoice order) => some (order, true)
  | .ok (.paymentRequest _ (some order) _ _) => some (order, false)
  | _ => none

section
variable {env : Env}

/-- The table after a take reply: the order is saved under its own id, or the requested one. -/
theorem processTakeOrderReply_db (s : TradeState) (req : TakeOrderRequest) (reply : Reply) :
    (processTakeOrderReply env s req reply).1.db =
      match handleMostroResponse reply.message req.requestId with
      | .error _ => s.db
      | .ok message =>
        match takeOrderToSave message with
        | some (o, _) =>
          saveOrder s.db { o with id := some (o.id.getD req.orderId) } req.tradeKeys req.requestId
            req.nextIdx false env
        | none => s.db := by
  unfold processTakeOrderReply takeOrderToSave
  cases handleMostroResponse reply.message req.requestId with
  | error e => rfl
  | ok message =>
    simp only []
    cases mapTakeReply message.action message.payload with
    | error e => rfl
    | ok mapped =>
      cases mapped with
      | addInvoice o => rfl
      | paymentRequest action o invoice amount =>
        cases o with
        | none => rfl
        | some o => cases hid : o.id <;> simp [paymentRequestOperationResult, hid]

/-- The Messages list after a take reply and the UI's handling of its result: an `add-invoice`
marks or adds the row of the saved order. -/
theorem processTakeOrderReply_messages (s : TradeState) (req : TakeOrderRequest) (reply : Reply) :
    let r := processTakeOrderReply env s req reply
    (handleOperationResult r.1 (r.2.map some)).messages =
      match handleMostroResponse reply.message req.requestId with
      | .error _ => s.messages
      | .ok message =>
        match takeOrderToSave message with
        | some (o, true) =>
          rememberOpenInvoiceOrderMessage s.messages
            (takeAddInvoiceMessage reply (normalizeTakenOrder o req.orderId) req.nextIdx)
        | _ => s.messages := by
  unfold processTakeOrderReply takeOrderToSave
  cases handleMostroResponse reply.message req.requestId with
  | error e => rfl
  | ok message =>
    simp only []
    cases mapTakeReply message.action message.payload with
    | error e => rfl
    | ok mapped =>
      cases mapped with
      | addInvoice o => rfl
      | paymentRequest action o invoice amount =>
        cases o with
        | none => rfl
        | some o =>
          cases hid : o.id <;>
            simp [paymentRequestOperationResult, hid, handleOperationResult, Except.map]

end

end Mostrix
