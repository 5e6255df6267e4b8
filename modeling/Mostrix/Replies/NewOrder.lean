import Mostrix.Replies.TradeFrame

/-!
# The reply to a new order, and to an invoice

`send_new_order.rs`: a trade index is reserved before the request is sent, and the reply's order is
saved with its keys. `execute_payment_request_reply` (`execute_add_invoice.rs`): the reply to an
invoice is checked and nothing is written.
-/

namespace Mostrix

/-- What the new-order flow holds while it waits. -/
structure NewOrderRequest where
  requestId : Nat
  nextIdx : Int
  tradeKeys : Keys
deriving DecidableEq, Repr

/-- `send_new_order` from the reply on. The source appends the action's name to the last text. -/
def processNewOrderReply (env : Env) (s : TradeState) (req : NewOrderRequest) (reply : Reply) :
    TradeState × Except String OperationResult :=
  match handleMostroResponse reply.message req.requestId with
  | .error e => (s, .error e)
  | .ok message =>
    match message.action, message.payload with
    | .newOrder, some (.order order) =>
      ({ s with
          db := saveOrder s.db order req.tradeKeys req.requestId req.nextIdx true env
          trackOrders :=
            match order.id with
            | some orderId => s.trackOrders ++ [(orderId, req.nextIdx)]
            | none => s.trackOrders },
        .ok (.success order req.nextIdx))
    | .newOrder, _ => (s, .error "Mostro replied with NewOrder but no order payload was provided")
    | .payBondInvoice, some (.paymentRequest order invoice amount) =>
      paymentRequestOperationResult env s .payBondInvoice order invoice amount none req.requestId
        req.nextIdx req.tradeKeys true
    | .payBondInvoice, _ =>
      (s, .error "Mostro replied with PayBondInvoice but no PaymentRequest payload was provided")
    | _, _ => (s, .error "Unexpected action")

/-- The `save_order` a new-order reply makes, if any: a payment request needs the order's id. -/
def newOrderSave (req : NewOrderRequest) (reply : Reply) : Option TradeSave :=
  match handleMostroResponse reply.message req.requestId with
  | .error _ => none
  | .ok message =>
    match message.action, message.payload with
    | .newOrder, some (.order order) =>
      some ⟨order, req.tradeKeys, req.requestId, req.nextIdx, true⟩
    | .payBondInvoice, some (.paymentRequest (some order) _ _) =>
      order.id.map fun orderId =>
        ⟨{ order with id := some orderId }, req.tradeKeys, req.requestId, req.nextIdx, true⟩
    | _, _ => none

/-- The table after a new-order reply. -/
theorem processNewOrderReply_db (env : Env) (s : TradeState) (req : NewOrderRequest)
    (reply : Reply) :
    (processNewOrderReply env s req reply).1.db =
      match newOrderSave req reply with
      | some save => save.run env s.db
      | none => s.db := by
  unfold processNewOrderReply newOrderSave
  cases handleMostroResponse reply.message req.requestId with
  | error e => rfl
  | ok message =>
    obtain ⟨id, requestId, index, action, payload⟩ := message
    dsimp only
    split
    · rfl
    · rename_i hne
      cases payload with
      | none => rfl
      | some payload =>
        cases payload with
        | order o => exact absurd rfl (hne o)
        | _ => rfl
    · rename_i order invoice amount
      cases order with
      | none => rfl
      | some o => cases hid : o.id <;> simp [paymentRequestOperationResult, hid, TradeSave.run]
    · rename_i hne
      cases payload with
      | none => rfl
      | some payload =>
        cases payload with
        | paymentRequest o invoice amount => exact absurd rfl (hne o invoice amount)
        | _ => rfl
    · rename_i hnew hbond _ _
      cases action with
      | newOrder => exact (hnew rfl).elim
      | payBondInvoice => exact (hbond rfl).elim
      | _ => rfl

/-- What the invoice flow holds while it waits. -/
structure InvoiceRequest where
  orderId : Uuid
  orderTradeKeys : Keys
  requestId : Nat
deriving DecidableEq, Repr

/-- `execute_payment_request_reply` from the reply on. -/
def executePaymentRequestReply (req : InvoiceRequest) (reply : Reply) : Except String Unit :=
  match handleMostroResponse reply.message req.requestId with
  | .error e => .error e
  | .ok message =>
    match message.action with
    | .waitingSellerToPay | .holdInvoicePaymentAccepted => .ok ()
    | _ => .error "Unexpected action"

end Mostrix
