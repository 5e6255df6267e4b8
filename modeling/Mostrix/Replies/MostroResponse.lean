import Mostrix.TradeDm.Handle

/-!
# Replies to a request

What a flow that waits for Mostro's answer does with it: `handle_mostro_response`, which every flow
with a request id asks first, and the operation results the UI is handed. `rememberOpenInvoice…`
and `handleOperationResult` are the UI's side: an `OpenInvoicePopup` result leaves a row in the
Messages list. Popups themselves are only drawn.
-/

namespace Mostrix

/-- `handle_mostro_response` (`order_utils/helper.rs`): the reply must carry the request id. -/
def handleMostroResponse (response : MessageKind) (expectedRequestId : Nat) :
    Except String MessageKind :=
  match response.payload with
  | some (.cantDo reason) => .error reason
  | _ =>
    match response.requestId with
    | some id =>
      if id ≠ expectedRequestId then .error "Mismatched request_id" else .ok response
    | none => .error "Response with null request_id"

/-- A reply is accepted exactly when it is no `CantDo` and carries the request id. -/
theorem handleMostroResponse_ok_iff {response m : MessageKind} {r : Nat} :
    handleMostroResponse response r = .ok m ↔
      m = response ∧ response.requestId = some r ∧
        ∀ reason, response.payload ≠ some (.cantDo reason) := by
  unfold handleMostroResponse
  split
  · simp_all
  · cases response.requestId with
    | none => simp
    | some id =>
      by_cases h : id = r
      · subst h
        simp_all [eq_comm]
      · simp [h]

/-- `OperationResult`, the results the modelled flows return. The fields of `OrderSuccess` are the
order's and the trade index. -/
inductive OperationResult
  | success (order : SmallOrder) (tradeIndex : Int)
  | paymentRequestRequired (order : SmallOrder) (invoice : String) (satAmount : Option Int)
      (tradeIndex : Int) (action : Action)
  | openInvoicePopup (notification : MessageNotification) (orderMessage : OrderMessage)
deriving DecidableEq, Repr

/-- `remember_open_invoice_order_message`: mark the order's row as shown, or add one. -/
def rememberOpenInvoiceOrderMessage (messages : List OrderMessage) (orderMessage : OrderMessage) :
    List OrderMessage :=
  match orderMessage.orderId with
  | none => messages
  | some orderId =>
    if HasRow messages orderId then markShown orderId messages
    else sortMessages (messages ++ [{ orderMessage with autoPopupShown := true }])

/-- `handle_operation_result`, what it does to the state shared with the listener: only an invoice
popup changes it. An error and an acknowledgement without a next step are only shown. -/
def handleOperationResult (s : TradeState) (result : Except String (Option OperationResult)) :
    TradeState :=
  match result with
  | .ok (some (.openInvoicePopup _ orderMessage)) =>
    { s with messages := rememberOpenInvoiceOrderMessage s.messages orderMessage }
  | _ => s

@[simp] theorem handleOperationResult_db (s : TradeState)
    (result : Except String (Option OperationResult)) :
    (handleOperationResult s result).db = s.db := by
  unfold handleOperationResult
  split <;> rfl

/-- Remembering an invoice row keeps every other order's rows. -/
theorem rowsOf_rememberOpenInvoiceOrderMessage {messages : List OrderMessage} {m : OrderMessage}
    {id : Uuid} (h : m.orderId ≠ some id) :
    (rowsOf (rememberOpenInvoiceOrderMessage messages m) id).Perm (rowsOf messages id) := by
  unfold rememberOpenInvoiceOrderMessage
  cases hid : m.orderId with
  | none => exact .refl _
  | some id' =>
    have hne : id ≠ id' := by
      rintro rfl
      exact h hid
    dsimp only
    split
    · rw [rowsOf_markShown_of_ne hne]
    · refine (rowsOf_sortMessages _ _).trans ?_
      simp [rowsOf, Ne.symm hne]

end Mostrix
