import Mostrix.Ui.OperationResult

/-!
# The waiting screen

While the UI waits for Mostro, Enter and Esc do nothing, so only a result takes it off the waiting
screen. `waiting_left_iff` says which results do: all but those that are not meant for the screen (a
hint to reload, the observer's messages, an observer's error that is out of date) and an
`OpenInvoicePopup` whose order's status does not allow the popup it asks for. The execute paths send
that one for actions no status allows a popup for.
-/

namespace Mostrix.Ui

/-- The results that take the UI off a waiting screen. -/
def LeavesWaiting (app : AppState) : OperationResult → Prop
  | .openInvoicePopup n orderMessage =>
    invoicePopupAllowedForOrderStatus (gateAction n.action) orderMessage.orderStatus = true
  | .observerChatLoaded _ _ => False
  | .observerChatError generation _ => generation = app.observerFetchGeneration
  | .myTradesMakerBookChanged => False
  | _ => True

section
variable {env : UiEnv} {app : AppState}

/-- A result that is shown takes the UI off a waiting screen. -/
theorem showResult_waiting (result : OperationResult) (hw : app.mode.waiting = true) :
    (showResult app result).mode.waiting = false := by
  unfold showResult
  dsimp only
  split
  · split <;> rfl
  · next h => rw [h] at hw; cases hw
  · next h => rw [h] at hw; cases hw
  · rfl

theorem showSuccess_waiting (os : OrderSuccess) (hw : app.mode.waiting = true) :
    (showSuccess app os).mode.waiting = false := by
  unfold showSuccess
  rcases tracking_cases app os.orderId os.tradeIndex
    fun app => showResult app (.success os) with ⟨-, h⟩ | ⟨-, app', hscreen, h⟩
  · rw [h]
    rfl
  · rw [h]
    refine showResult_waiting _ ?_
    rw [hscreen.mode]
    exact hw

theorem showPaymentRequest_waiting (order : SmallOrder) (invoice : String)
    (satAmount : Option Int) (tradeIndex : Int) (action : Action) :
    (showPaymentRequest env app order invoice satAmount tradeIndex action).mode.waiting =
      false := by
  unfold showPaymentRequest
  rcases tracking_cases app.dropWaitingDraft order.id (some tradeIndex) _ with
    ⟨-, h⟩ | ⟨-, app', -, h⟩
  · rw [h]
    rfl
  · rw [h]
    rfl

/-- No popup is a waiting screen. -/
theorem UiMode.waiting_of_invoicePopup {mode : UiMode} (h : mode.invoicePopup = true) :
    mode.waiting = false := by
  cases mode with
  | userMode | adminMode => cases h
  | newMessageNotification | confirmSavedLnAddressForInvoice | normal | operationResult
  | backupNewKeys | other => rfl

end

/-- Whatever the UI waits for, handling a result does not panic, and it leaves the waiting screen
exactly when the result is one that does: in particular on every result of a create, take, invoice
or bond task but an `OpenInvoicePopup` that the status of its order does not allow. -/
theorem waiting_left_iff (env : UiEnv) (app : AppState) (result : OperationResult)
    (hw : app.mode.waiting = true) :
    ∃ app', applyOrderResult env app result = some app' ∧
      (app'.mode.waiting = false ↔ LeavesWaiting app result) := by
  have hstill : app.mode.waiting ≠ false := by rw [hw]; decide
  have hbook : (bookkeeping env app result).mode.waiting = true := by
    rw [(bookkeeping_sameScreen env app result).mode]
    exact hw
  cases result with
  | openInvoicePopup n orderMessage =>
    cases hgate :
        invoicePopupAllowedForOrderStatus (gateAction n.action) orderMessage.orderStatus with
    | true =>
      obtain ⟨mode, hpopup, heq⟩ := applyOpenInvoicePopupFromExecute_of_allowed env app hgate
      exact ⟨_, heq, iff_of_true (UiMode.waiting_of_invoicePopup hpopup) hgate⟩
    | false =>
      refine ⟨_, applyOpenInvoicePopupFromExecute_of_refused env app hgate, iff_of_false ?_ ?_⟩
      · rw [(app.editMessages_sameScreen _).mode]
        exact hstill
      · rw [LeavesWaiting, hgate]
        decide
  | observerChatLoaded generation messages =>
    refine ⟨_, rfl, iff_of_false ?_ id⟩
    unfold observerLoaded
    split <;> exact hstill
  | observerChatError generation message =>
    refine ⟨_, rfl, ?_⟩
    unfold observerFailed LeavesWaiting
    split
    · next hne => exact iff_of_false hstill hne
    · next heq => exact iff_of_true rfl (not_not.1 heq)
  | myTradesMakerBookChanged => exact ⟨_, rfl, iff_of_false hstill id⟩
  | success os => exact ⟨_, rfl, iff_of_true (showSuccess_waiting os hbook) trivial⟩
  | paymentRequestRequired order invoice satAmount tradeIndex h action =>
    exact ⟨_, rfl, iff_of_true (showPaymentRequest_waiting ..) trivial⟩
  | info | error | invoiceSubmitted | tradeClosed | orderHistoryDeleted | orderChatAttachmentSent
  | orderChatAttachmentError | orderChatAttachmentSendFailed | conversationDisclosure =>
    exact ⟨_, rfl, iff_of_true (showResult_waiting _ hbook) trivial⟩

/-- No status allows a popup for an action that asks for no invoice. -/
theorem invoicePopup_refused {action : Action} (h : keepsInvoicePopup action = false)
    (status : Option Status) : invoicePopupAllowedForOrderStatus action status = false := by
  cases action <;> first | rfl | cases h

/-- An `OpenInvoicePopup` for such an action leaves every screen as it is, whatever the status. -/
theorem screen_kept_of_no_invoice (env : UiEnv) (app : AppState) {n : MessageNotification}
    (h : keepsInvoicePopup (gateAction n.action) = false) (orderMessage : OrderMessage) :
    ∃ app', applyOrderResult env app (.openInvoicePopup n orderMessage) = some app' ∧
      SameScreen app app' :=
  ⟨_, applyOpenInvoicePopupFromExecute_of_refused env app (invoicePopup_refused h _),
    app.editMessages_sameScreen _⟩

/-- A failed request for an invoice is shown. -/
theorem waiting_left_by_error :
    ∃ app', applyOrderResult {} { mode := .userMode .waitingAddInvoice } (.error "timeout") =
        some app' ∧
      (app'.mode.waiting = false ↔
        LeavesWaiting { mode := .userMode .waitingAddInvoice } (.error "timeout")) :=
  waiting_left_iff {} _ _ rfl

/-- The reply to a bond payout invoice says that the hold invoice was paid: the popup it asks for is
refused, and the UI still waits. -/
theorem bond_reply_keeps_waiting :
    ¬ ∀ (env : UiEnv) (app : AppState) (orderMessage : OrderMessage), app.mode.waiting = true →
      ∃ app', applyOrderResult env app
          (.openInvoicePopup (orderMessageToNotification orderMessage) orderMessage) = some app' ∧
        app'.mode.waiting = false := by
  intro h
  obtain ⟨app', happ, hleft⟩ := h {} { mode := .userMode .waitingAddInvoice }
    { message := { action := .holdInvoicePaymentAccepted }, timestamp := 1000, sender := "mostro",
      orderId := some 1, tradeIndex := 3, orderStatus := some .active } rfl
  obtain rfl := Option.some.inj happ
  cases hleft

end Mostrix.Ui
