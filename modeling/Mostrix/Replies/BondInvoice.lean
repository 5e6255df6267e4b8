import Mostrix.Replies.MostroResponse

/-!
# The reply to a bond payout invoice

`execute_add_invoice.rs`, the `AddBondInvoice` flow. The row of the order is read before the request
is sent and everything after the reply works with that snapshot: the upsert of an embedded order,
the status write of `apply_status_from_reply`, whose only guard compares with the snapshot, and the
`save_order` of a payment request.
-/

namespace Mostrix

/-- What the flow holds while it waits (`BondInvoiceReplyCtx`): the order, its row as it was when
the request was made, the row's keys and the request id. -/
structure BondInvoiceRequest where
  orderId : Uuid
  dbOrder : Order
  orderTradeKeys : Keys
  requestId : Nat
deriving DecidableEq, Repr

/-- A reply as `parse_dm_events` returns it. -/
structure Reply where
  message : MessageKind
  timestamp : Int
  sender : PublicKey
deriving DecidableEq, Repr

/-- The message shapes `persist_order_payload_from_dm` upserts. -/
def smallOrderToPersist (action : Action) (payload : Option Payload) : Option SmallOrder :=
  match action, payload with
  | .addInvoice, some (.order o) => some o
  | .payInvoice, some (.paymentRequest (some o) _ _) => some o
  | .payBondInvoice, some (.paymentRequest (some o) _ _) => some o
  | .holdInvoicePaymentAccepted, some (.order o) => some o
  | .waitingBuyerInvoice, some (.order o) => some o
  | _, _ => none

/-- `persist_order_payload_from_dm`. -/
def persistOrderPayloadFromDm (ops : ChatOps) (db : Db) (orderId : Uuid) (action : Action)
    (payload : Option Payload) (requestId : Nat) (tradeKeys : Keys) (now : Int) : Db :=
  match smallOrderToPersist action payload with
  | some o => upsertDb ops db orderId o tradeKeys (i64TryFrom requestId) now
  | none => db

/-- The status `apply_status_from_reply` writes: the order's own when it has one, else the
action's. -/
def replyStatusCandidate (action : Action) (payload : Option Payload) : Option Status :=
  match payload with
  | some (.order o) => o.status.or (inferredStatusFromTradeAction action)
  | _ => inferredStatusFromTradeAction action

/-- `apply_status_from_reply`. -/
def applyStatusFromReply (db : Db) (orderId : Uuid) (action : Action) (payload : Option Payload)
    (baseline : Option Status) : Db :=
  match replyStatusCandidate action payload with
  | some status => if baseline ≠ some status then Order.updateStatus db orderId status else db
  | none => db

/-- `build_order_message_from_reply`. -/
def buildOrderMessageFromReply (reply : Reply) (orderId : Uuid) (tradeIndex : Int)
    (dbOrder : Order) : OrderMessage :=
  let (satAmount, buyerInvoice) :=
    match reply.message.action, reply.message.payload with
    | .payInvoice, some (.paymentRequest o invoice amount)
    | .payBondInvoice, some (.paymentRequest o invoice amount) =>
      (amount.or (o.map (·.amount)), some invoice)
    | .addInvoice, some (.order o) => (some o.amount, none)
    | _, _ => (none, none)
  { message := reply.message
    timestamp := reply.timestamp
    sender := reply.sender
    orderId := some orderId
    tradeIndex := tradeIndex
    satAmount := satAmount
    buyerInvoice := buyerInvoice
    orderKind := dbOrder.kind
    isMine := some dbOrder.isMine
    orderStatus := (replyStatusCandidate reply.message.action reply.message.payload).or
      dbOrder.status
    orderSnapshot := mergeOrderSnapshots (smallOrderFromPayload reply.message.payload) none
      (some { smallOrderFromDbOrder dbOrder with id := some orderId }) }

/-- The table after the upsert and the status write of a bond invoice reply. -/
def bondReplyStatusWrites (ops : ChatOps) (env : Env) (db : Db) (req : BondInvoiceRequest)
    (message : MessageKind) : Db :=
  let db := persistOrderPayloadFromDm ops db req.orderId message.action message.payload
    req.requestId req.orderTradeKeys env.now
  applyStatusFromReply db req.orderId message.action message.payload req.dbOrder.status

/-- `operation_result_from_bond_invoice_reply`. -/
def operationResultFromBondInvoiceReply (ops : ChatOps) (env : Env) (s : TradeState)
    (req : BondInvoiceRequest) (reply : Reply) :
    TradeState × Except String (Option OperationResult) :=
  match handleMostroResponse reply.message req.requestId with
  | .error e => (s, .error e)
  | .ok message =>
    match req.dbOrder.tradeIndex with
    | none => (s, .error "Missing trade_index for order")
    | some tradeIndex =>
      let s := { s with db := bondReplyStatusWrites ops env s.db req message }
      let orderMessage := buildOrderMessageFromReply reply req.orderId tradeIndex req.dbOrder
      match message.action, message.payload with
      | .payBondInvoice, some (.paymentRequest o invoice amount)
      | .payInvoice, some (.paymentRequest o invoice amount) =>
        match o with
        | none => (s, .error "Order details missing from PaymentRequest")
        | some o =>
          let orderToSave := { o with id := some (o.id.getD req.orderId) }
          ({ s with
              db := saveOrder s.db orderToSave req.orderTradeKeys req.requestId tradeIndex
                req.dbOrder.isMine env },
            .ok (some (.paymentRequestRequired orderToSave invoice
              (amount.or (some orderToSave.amount)) tradeIndex message.action)))
      | .waitingBuyerInvoice, _ | .addInvoice, _ | .waitingSellerToPay, _
      | .holdInvoicePaymentAccepted, _ | .buyerInvoiceAccepted, _ =>
        (s, .ok (some (.openInvoicePopup (orderMessageToNotification orderMessage) orderMessage)))
      | _, _ => (s, .ok none)

/-! ## What the reply writes -/

section
variable {ops : ChatOps} {env : Env}

/-- The order a reply upserts into the row of the request. -/
def persistedOrder (orderId : Uuid) (message : MessageKind) : Option SmallOrder :=
  (smallOrderToPersist message.action message.payload).filter (payloadIdMatches orderId)

/-- The order a reply saves through `save_order`: the order of a payment request. -/
def replyOrderToSave (message : MessageKind) : Option SmallOrder :=
  match message.action, message.payload with
  | .payBondInvoice, some (.paymentRequest o _ _) => o
  | .payInvoice, some (.paymentRequest o _ _) => o
  | _, _ => none

/-- The status the upsert and the status write leave on the row of the request. -/
def bondReplyStatus (req : BondInvoiceRequest) (message : MessageKind) (status : Option Status) :
    Option Status :=
  let upserted :=
    match persistedOrder req.orderId message with
    | some o => o.status
    | none => status
  match replyStatusCandidate message.action message.payload with
  | some c => if req.dbOrder.status ≠ some c then some c else upserted
  | none => upserted

/-- The row of the request after the upsert of a reply. -/
def persistedRow (ops : ChatOps) (env : Env) (req : BondInvoiceRequest) (message : MessageKind)
    (row : Order) : Order :=
  match persistedOrder req.orderId message with
  | some o =>
    Order.buildOrderFromSmallOrder ops req.orderId { o with id := some req.orderId }
      req.orderTradeKeys (some row) (i64TryFrom req.requestId) env.now
  | none => row

/-- The upsert of a reply changes the row of the request only. -/
theorem persistOrderPayloadFromDm_eq (db : Db) (req : BondInvoiceRequest)
    (message : MessageKind) :
    persistOrderPayloadFromDm ops db req.orderId message.action message.payload req.requestId
        req.orderTradeKeys env.now =
      db.modify req.orderId (persistedRow ops env req message) := by
  unfold persistOrderPayloadFromDm persistedRow persistedOrder
  cases smallOrderToPersist message.action message.payload with
  | none => simp
  | some o =>
    by_cases h : payloadIdMatches req.orderId o <;> simp [upsertDb_eq, h, Option.filter_some]

variable (ops env) in
/-- The upsert of a reply keeps the keys, the index and the role of the row. -/
theorem persistedRow_frame (req : BondInvoiceRequest) (message : MessageKind) (row : Order) :
    let row' := persistedRow ops env req message row
    row'.status = (match persistedOrder req.orderId message with
        | some o => o.status
        | none => row.status) ∧
      row'.tradeKeys = row.tradeKeys ∧ row'.tradeIndex = row.tradeIndex ∧
      row'.isMine = row.isMine := by
  unfold persistedRow
  cases persistedOrder req.orderId message <;> exact ⟨rfl, rfl, rfl, rfl⟩

variable (ops env) in
/-- The two status writes of a reply change the row of the request only, and its keys, index and
role not at all. -/
theorem bondReplyStatusWrites_row (db : Db) (req : BondInvoiceRequest) (message : MessageKind) :
    ∃ f : Order → Order, bondReplyStatusWrites ops env db req message = db.modify req.orderId f ∧
      ∀ row, (f row).status = bondReplyStatus req message row.status ∧
        (f row).tradeKeys = row.tradeKeys ∧ (f row).tradeIndex = row.tradeIndex ∧
        (f row).isMine = row.isMine := by
  unfold bondReplyStatusWrites applyStatusFromReply bondReplyStatus
  simp only [persistOrderPayloadFromDm_eq]
  cases replyStatusCandidate message.action message.payload with
  | none => exact ⟨_, rfl, persistedRow_frame ops env req message⟩
  | some c =>
    by_cases hb : req.dbOrder.status = some c
    · refine ⟨persistedRow ops env req message, by simp [hb], fun row => ?_⟩
      simpa [hb] using persistedRow_frame ops env req message row
    · refine ⟨_, by simp only [hb, ne_eq, not_false_eq_true, if_true, Order.updateStatus,
        Table.modify_modify]; rfl, fun row => ?_⟩
      simpa [hb] using (persistedRow_frame ops env req message row).2

/-- The table after a reply: nothing when the reply is rejected or the snapshot has no index, else
the two status writes and the `save_order` of a payment request. -/
theorem operationResultFromBondInvoiceReply_db (s : TradeState) (req : BondInvoiceRequest)
    (reply : Reply) :
    (operationResultFromBondInvoiceReply ops env s req reply).1.db =
      match handleMostroResponse reply.message req.requestId, req.dbOrder.tradeIndex with
      | .ok message, some tradeIndex =>
        let db := bondReplyStatusWrites ops env s.db req message
        match replyOrderToSave message with
        | some o =>
          saveOrder db { o with id := some (o.id.getD req.orderId) } req.orderTradeKeys
            req.requestId tradeIndex req.dbOrder.isMine env
        | none => db
      | _, _ => s.db := by
  unfold operationResultFromBondInvoiceReply replyOrderToSave
  cases handleMostroResponse reply.message req.requestId with
  | error e => rfl
  | ok message =>
    cases req.dbOrder.tradeIndex with
    | none => rfl
    | some tradeIndex =>
      obtain ⟨id, requestId, index, action, payload⟩ := message
      cases action <;> cases payload with
      | none => rfl
      | some payload =>
        cases payload with
        | paymentRequest o invoice amount => cases o <;> rfl
        | _ => rfl

variable (ops env) in
/-- Processing a reply leaves the Messages list to the UI. -/
theorem operationResultFromBondInvoiceReply_messages (s : TradeState) (req : BondInvoiceRequest)
    (reply : Reply) :
    (operationResultFromBondInvoiceReply ops env s req reply).1.messages = s.messages := by
  unfold operationResultFromBondInvoiceReply
  split
  · rfl
  · split
    · rfl
    · split <;> first | rfl | (split <;> rfl)

variable (ops env) in
/-- An invoice popup after a bond invoice reply is for the order of the request. -/
theorem operationResultFromBondInvoiceReply_popup (s : TradeState) (req : BondInvoiceRequest)
    (reply : Reply) (n : MessageNotification) (m : OrderMessage)
    (h : (operationResultFromBondInvoiceReply ops env s req reply).2 =
      .ok (some (.openInvoicePopup n m))) : m.orderId = some req.orderId := by
  unfold operationResultFromBondInvoiceReply at h
  split at h
  · cases h
  · split at h
    · cases h
    · dsimp only at h
      split at h
      · split at h <;> cases h
      · split at h <;> cases h
      all_goals first | cases h; done | (cases h; rfl)

end

end Mostrix
