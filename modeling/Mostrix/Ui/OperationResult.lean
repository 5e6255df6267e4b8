import Mostrix.Ui.State

/-!
# Handling results and notifications

`order_ch_mng.rs`, `notifications_ch_mng.rs` and `apply_order_result` of `main.rs`: what the main
loop does with what the background tasks send. `handleOperationResult` first turns the results that
carry bookkeeping into an `Info` or `Error` to show (`bookkeeping`, `normalize`), then opens the
popup or fills the observer, and else shows the result, unless an invoice popup is on screen. A
handler that panics returns `none`.
-/

namespace Mostrix.Ui

variable (env : UiEnv)

/-! ## Popups -/

/-- `present_add_invoice_popup`. -/
def presentAddInvoicePopup (preference : Table Uuid BuyerInvoicePreference)
    (n : MessageNotification) : UiMode :=
  match env.lnAddress with
  | some addr =>
    match n.orderId.bind preference with
    | some .manualInvoice => .newMessageNotification n .addInvoice ⟨"", true⟩
    | some .useSavedLnAddress => .newMessageNotification n .addInvoice ⟨addr, true⟩
    | none => .confirmSavedLnAddressForInvoice n true
  | none => .newMessageNotification n .addInvoice ⟨"", true⟩

/-- `invoice_popup_mode`; `none` where it is unreachable. -/
def invoicePopupMode (preference : Table Uuid BuyerInvoicePreference) (n : MessageNotification) :
    Option UiMode :=
  match n.action with
  | .addInvoice => some (presentAddInvoicePopup env preference n)
  | .addBondInvoice => some (.newMessageNotification n .addBondInvoice ⟨"", true⟩)
  | .payInvoice | .payBondInvoice => some (.newMessageNotification n n.action ⟨"", false⟩)
  | .waitingBuyerInvoice | .waitingSellerToPay =>
    some (.newMessageNotification n n.action ⟨"", false⟩)
  | _ => none

/-- `waiting_popup_action_for_message`. -/
def waitingPopupActionForMessage (msg : OrderMessage) : Action :=
  match msg.message.action with
  | .waitingBuyerInvoice | .addInvoice => .waitingBuyerInvoice
  | _ => .waitingSellerToPay

/-- `order_message_to_waiting_notification`. -/
def orderMessageToWaitingNotification (msg : OrderMessage) : MessageNotification :=
  { orderMessageToNotification msg with action := waitingPopupActionForMessage msg }

/-- The action whose popup a notification of an execute reply asks for. -/
def gateAction (action : Action) : Action :=
  match action with
  | .waitingBuyerInvoice | .waitingSellerToPay => .addInvoice
  | other => other

/-- Change the Messages list, where its lock is not poisoned. -/
def AppState.editMessages (app : AppState) (edit : MessagesEdit) : AppState :=
  if app.messagesPoisoned then app else { app with messages := edit.run app.messages }

/-- What the local user is asked to do: a waiting-phase notification is turned into the request for
an invoice. -/
def actionableNotification (n : MessageNotification) (orderMessage : OrderMessage) :
    MessageNotification :=
  match n.action with
  | .waitingBuyerInvoice | .waitingSellerToPay =>
    { orderMessageToNotification orderMessage with action := .addInvoice }
  | _ => n

/-- `apply_open_invoice_popup_from_execute`. -/
def applyOpenInvoicePopupFromExecute (app : AppState) (n : MessageNotification)
    (orderMessage : OrderMessage) : Option AppState :=
  let app := app.editMessages (.remember orderMessage)
  let gate := gateAction n.action
  if !invoicePopupAllowedForOrderStatus gate orderMessage.orderStatus then some app
  else if localUserMustActOnInvoicePopup orderMessage gate then
    (invoicePopupMode env app.buyerInvoicePreference
      (actionableNotification n orderMessage)).map app.setMode
  else
    let waiting := orderMessageToWaitingNotification orderMessage
    some (app.setMode (.newMessageNotification waiting waiting.action ⟨"", false⟩))

/-- The solver and the dispute that a notification announces. -/
def AppState.putSolver (app : AppState) (n : MessageNotification) : AppState :=
  match n.orderId with
  | some id =>
    { app with
      orderChatStatic := app.orderChatStatic.modify id fun h =>
        { h with
          solverPubkey := n.solverPubkey.or h.solverPubkey
          disputeId := n.disputeId.or h.disputeId } }
  | none => app

/-- `handle_message_notification`; `none` where the lookup of the order's row panics. -/
def handleMessageNotification (app : AppState) (n : MessageNotification) : Option AppState :=
  let app := app.putSolver n
  if !isInvoiceAction n.action || app.messagesPoisoned then some app
  else
    match checkIfPopupShouldBeShown app.startupPopupFloorTs app.messages n with
    | none => none
    | some (messages, shown) =>
      let app := { app with messages := messages }
      if shown then (invoicePopupMode env app.buyerInvoicePreference n).map app.setMode
      else some app

/-! ## Bookkeeping of a result -/

/-- `remove_closed_trade_from_messages_tab`. -/
def AppState.removeClosedTrade (app : AppState) (orderId : Uuid) : AppState :=
  let app := app.editMessages (.removeClosed orderId)
  { app with
    activeOrderTradeIndices :=
      if app.indicesPoisoned then app.activeOrderTradeIndices
      else app.activeOrderTradeIndices.erase orderId
    orderChatStatic := app.orderChatStatic.erase orderId
    buyerInvoicePreference := app.buyerInvoicePreference.erase orderId }

/-- Delete the rows of several keys. -/
def eraseAll {β : Type} (t : Table Uuid β) (ids : List Uuid) : Table Uuid β :=
  ids.foldl Table.erase t

/-- `remove_many_orders_from_messages_tab`. -/
def AppState.removeManyOrders (app : AppState) (orderIds : List Uuid) : AppState :=
  let app := app.editMessages (.removeMany orderIds)
  { app with
    activeOrderTradeIndices :=
      if app.indicesPoisoned then app.activeOrderTradeIndices
      else eraseAll app.activeOrderTradeIndices orderIds
    buyerInvoicePreference := eraseAll app.buyerInvoicePreference orderIds
    orderChats := eraseAll app.orderChats orderIds
    orderChatLastSeen := eraseAll app.orderChatLastSeen orderIds
    orderChatStatic := eraseAll app.orderChatStatic orderIds
    droppedUserHistoryOrderIds := orderIds ++ app.droppedUserHistoryOrderIds }

/-- `placeholder_action_for_order_success`. -/
def placeholderActionForOrderSuccess (header : OrderChatStaticHeader) (status : Option Status) :
    Action :=
  if header.isMine then
    match status with
    | some .waitingMakerBond => .payBondInvoice
    | _ => .newOrder
  else
    match status with
    | some .waitingTakerBond => .payBondInvoice
    | some .waitingPayment => .waitingSellerToPay
    | some .waitingBuyerInvoice | some .settledHoldInvoice => .waitingBuyerInvoice
    | some .fiatSent => .fiatSent
    | _ => .buyerTookOrder

/-- `small_order_from_order_success`. -/
def smallOrderFromOrderSuccess (os : OrderSuccess) : SmallOrder where
  id := os.orderId
  kind := os.kind
  status := os.status
  amount := os.amount
  fiatCode := os.fiatCode
  minAmount := os.minAmount
  maxAmount := os.maxAmount
  fiatAmount := os.fiatAmount
  paymentMethod := os.paymentMethod
  premium := os.premium
  createdAt := os.staticHeader.bind (·.createdAt)

/-- `try_placeholder_order_message_from_success`. -/
def tryPlaceholderOrderMessageFromSuccess (os : OrderSuccess) : Option OrderMessage :=
  match os.staticHeader, os.orderId with
  | some header, some orderId =>
    let tradeIndex := os.tradeIndex.getD header.tradeIndex
    let small := smallOrderFromOrderSuccess os
    (env.parsePubkey header.initiatorTradePubkey).map fun sender =>
      { message :=
          { id := some orderId, tradeIndex := some tradeIndex
            action := placeholderActionForOrderSuccess header os.status
            payload := some (.order small) }
        timestamp := env.now
        sender := sender
        orderId := some orderId
        tradeIndex := tradeIndex
        orderKind := os.kind
        isMine := some header.isMine
        orderStatus := os.status
        orderSnapshot := some small
        read := true
        autoPopupShown := true }
  | _, _ => none

/-- `maybe_insert_my_trade_placeholder_message`. -/
def AppState.maybeInsertPlaceholder (app : AppState) (os : OrderSuccess) : AppState :=
  match tryPlaceholderOrderMessageFromSuccess env os with
  | some placeholder => app.editMessages (.placeholder placeholder)
  | none => app

/-- A finished attachment is no longer the one being sent. -/
def AppState.attachmentDone (app : AppState) (orderId : Uuid) : AppState :=
  if app.sendingAttachmentOrderId = some orderId then
    { app with sendingAttachmentOrderId := none }
  else app

/-- `buyer_invoice_preference.insert` once an invoice was sent to a saved address. -/
def AppState.rememberSavedLnAddress (app : AppState) (remember : Option Uuid) : AppState :=
  match remember with
  | some orderId =>
    { app with
      buyerInvoicePreference := app.buyerInvoicePreference.put orderId .useSavedLnAddress }
  | none => app

/-- `order_chat_static.insert`. -/
def AppState.putHeader (app : AppState) (header : Option OrderChatStaticHeader) : AppState :=
  match header with
  | some h => { app with orderChatStatic := app.orderChatStatic.put h.orderId h }
  | none => app

/-- The first part of `handle_operation_result`: the bookkeeping a result brings. -/
def bookkeeping (app : AppState) : OperationResult → AppState
  | .tradeClosed orderId _ => app.removeClosedTrade orderId
  | .orderHistoryDeleted ids _ => app.removeManyOrders ids
  | .invoiceSubmitted _ remember => app.rememberSavedLnAddress remember
  | .orderChatAttachmentSent orderId chatMessage _ =>
    let app := app.attachmentDone orderId
    { app with
      pendingOrderAttachmentSends := app.pendingOrderAttachmentSends.erase orderId
      orderChats := app.orderChats.put orderId ((app.orderChats orderId).getD [] ++ [chatMessage]) }
  | .orderChatAttachmentError orderId _ => app.attachmentDone orderId
  | .orderChatAttachmentSendFailed prepared _ =>
    let app := app.attachmentDone prepared.orderId
    { app with
      pendingOrderAttachmentSends :=
        app.pendingOrderAttachmentSends.put prepared.orderId prepared }
  | .success os => (app.putHeader os.staticHeader).maybeInsertPlaceholder env os
  | .paymentRequestRequired _ _ _ _ h _ => app.putHeader (some h)
  | _ => app

/-- What is shown for a result: those with bookkeeping are an `Info` or an `Error` from here on. -/
def normalize : OperationResult → OperationResult
  | .tradeClosed _ message => .info message
  | .orderHistoryDeleted _ message => .info message
  | .invoiceSubmitted message _ => .info message
  | .orderChatAttachmentSent _ _ infoMessage => .info infoMessage
  | .orderChatAttachmentError _ error => .error error
  | .orderChatAttachmentSendFailed prepared error =>
    .error ("Uploaded " ++ prepared.filename ++ " to Blossom (" ++ prepared.blossomUrl ++
      ") but chat send failed: " ++ error ++
      ". Press Ctrl+Shift+O to retry send without re-uploading.")
  | result => result

/-! ## Showing a result -/

/-- What is shown where the lock of the active trade indices is poisoned. -/
def AppState.fatalIndices (app : AppState) : AppState :=
  { app with
    fatalExitOnClose := true
    mode := .operationResult (.error "Internal error. Please restart Mostrix.") }

/-- The popup for a payment request. -/
def paymentRequestNotification (order : SmallOrder) (invoice : String) (satAmount : Option Int)
    (action : Action) : MessageNotification where
  orderId := order.id
  timestamp := env.now
  action := action
  satAmount := satAmount
  invoice := some invoice
  makerBondPublish := decide (order.status = some .waitingMakerBond)
  solverPubkey := none
  disputeId := none

/-- `active_order_trade_indices.insert`. -/
def AppState.putIndex (app : AppState) (orderId : Uuid) (tradeIndex : Int) : AppState :=
  { app with activeOrderTradeIndices := app.activeOrderTradeIndices.put orderId tradeIndex }

/-- Track an order's trade index, where it has one, and go on; not past a poisoned lock. -/
def AppState.tracking (app : AppState) (orderId : Option Uuid) (tradeIndex : Option Int)
    (next : AppState → AppState) : AppState :=
  match orderId, tradeIndex with
  | some orderId, some tradeIndex =>
    if app.indicesPoisoned then app.fatalIndices else next (app.putIndex orderId tradeIndex)
  | _, _ => next app

/-- A form that waits for Mostro is dropped from the draft. -/
def AppState.dropWaitingDraft (app : AppState) : AppState :=
  match app.mode with
  | .userMode (.waitingForMostro _) => { app with orderFormDraft := none }
  | _ => app

/-- `handle_operation_result`, a payment request: a waiting form's draft is dropped, the order
tracked and its invoice shown. -/
def showPaymentRequest (app : AppState) (order : SmallOrder) (invoice : String)
    (satAmount : Option Int) (tradeIndex : Int) (action : Action) : AppState :=
  app.dropWaitingDraft.tracking order.id (some tradeIndex) fun app =>
    app.setMode (.newMessageNotification
      (paymentRequestNotification env order invoice satAmount action) action ⟨"", false⟩)

/-- The invoice popups that a result does not replace. -/
def keepsInvoicePopup (action : Action) : Bool :=
  match action with
  | .addInvoice | .addBondInvoice | .payInvoice | .payBondInvoice => true
  | _ => false

/-- The last part of `handle_operation_result`: the mode a result leads to from the current one. -/
def showResult (app : AppState) (result : OperationResult) : AppState :=
  let shown := { app with mode := .operationResult result }
  match app.mode with
  | .userMode (.waitingForMostro form) =>
    match result with
    | .success _ => { shown with orderFormDraft := none }
    | .error _ => { shown with orderFormDraft := some form }
    | _ => shown
  | .newMessageNotification _ action _ =>
    if keepsInvoicePopup action then { app with pendingPostTakeOperationResult := some result }
    else shown
  | .confirmSavedLnAddressForInvoice .. =>
    { app with pendingPostTakeOperationResult := some result }
  | _ => shown

/-- `handle_operation_result`, a success: the order is tracked before it is shown. -/
def showSuccess (app : AppState) (os : OrderSuccess) : AppState :=
  app.tracking os.orderId os.tradeIndex fun app => showResult app (.success os)

/-- `handle_operation_result`, the messages of an observer fetch. -/
def observerLoaded (app : AppState) (generation : Nat)
    (messages : List Chat.DisputeChatMessage) : AppState :=
  if generation ≠ app.observerFetchGeneration then app
  else { app with observerLoading := false, observerError := none, observerMessages := messages }

/-- `handle_operation_result`, the error of an observer fetch. -/
def observerFailed (app : AppState) (generation : Nat) (message : String) : AppState :=
  if generation ≠ app.observerFetchGeneration then app
  else
    { app with
      observerLoading := false
      observerError := some message
      mode := .operationResult (.error message) }

/-- `handle_operation_result`. -/
def handleOperationResult (app : AppState) (result : OperationResult) : Option AppState :=
  let app := bookkeeping env app result
  match normalize result with
  | .openInvoicePopup n orderMessage => applyOpenInvoicePopupFromExecute env app n orderMessage
  | .paymentRequestRequired order invoice satAmount tradeIndex _ action =>
    some (showPaymentRequest env app order invoice satAmount tradeIndex action)
  | .success os => some (showSuccess app os)
  | .observerChatLoaded generation messages => some (observerLoaded app generation messages)
  | .observerChatError generation message => some (observerFailed app generation message)
  | result => some (showResult app result)

/-- `apply_order_result`, without the reloads from the tables around it; a change of the maker book
is nothing but a hint to reload it. -/
def applyOrderResult (app : AppState) (result : OperationResult) : Option AppState :=
  match result with
  | .myTradesMakerBookChanged => some app
  | result => handleOperationResult env app result

/-! ## What the bookkeeping leaves alone -/

/-- Two states have the same screen, draft and observer, and handle a result alike. -/
structure SameScreen (app app' : AppState) : Prop where
  mode : app'.mode = app.mode
  draft : app'.orderFormDraft = app.orderFormDraft
  indices : app'.indicesPoisoned = app.indicesPoisoned
  observer : app'.observer = app.observer

section screen

variable {env : UiEnv} {app : AppState}

theorem SameScreen.refl (app : AppState) : SameScreen app app := ⟨rfl, rfl, rfl, rfl⟩

theorem SameScreen.trans {a b c : AppState} (hab : SameScreen a b) (hbc : SameScreen b c) :
    SameScreen a c :=
  ⟨hbc.mode.trans hab.mode, hbc.draft.trans hab.draft, hbc.indices.trans hab.indices,
    hbc.observer.trans hab.observer⟩

theorem AppState.editMessages_sameScreen (app : AppState) (edit : MessagesEdit) :
    SameScreen app (app.editMessages edit) := by
  unfold AppState.editMessages
  split <;> exact ⟨rfl, rfl, rfl, rfl⟩

theorem AppState.putSolver_sameScreen (app : AppState) (n : MessageNotification) :
    SameScreen app (app.putSolver n) := by
  unfold AppState.putSolver
  split <;> exact ⟨rfl, rfl, rfl, rfl⟩

theorem maybeInsertPlaceholder_sameScreen (os : OrderSuccess) :
    SameScreen app (app.maybeInsertPlaceholder env os) := by
  unfold AppState.maybeInsertPlaceholder
  split
  · exact app.editMessages_sameScreen _
  · exact SameScreen.refl app

theorem AppState.attachmentDone_sameScreen (app : AppState) (orderId : Uuid) :
    SameScreen app (app.attachmentDone orderId) := by
  unfold AppState.attachmentDone
  split <;> exact ⟨rfl, rfl, rfl, rfl⟩

theorem AppState.putHeader_sameScreen (app : AppState) (header : Option OrderChatStaticHeader) :
    SameScreen app (app.putHeader header) := by
  cases header <;> exact ⟨rfl, rfl, rfl, rfl⟩

/-- The bookkeeping of a result leaves the screen alone. -/
theorem bookkeeping_sameScreen (env : UiEnv) (app : AppState) (r : OperationResult) :
    SameScreen app (bookkeeping env app r) := by
  cases r with
  | success os =>
    exact (app.putHeader_sameScreen _).trans (maybeInsertPlaceholder_sameScreen os)
  | paymentRequestRequired _ _ _ _ h _ => exact app.putHeader_sameScreen (some h)
  | invoiceSubmitted message remember => cases remember <;> exact ⟨rfl, rfl, rfl, rfl⟩
  | tradeClosed orderId message =>
    have h := app.editMessages_sameScreen (.removeClosed orderId)
    exact ⟨h.mode, h.draft, h.indices, h.observer⟩
  | orderHistoryDeleted ids message =>
    have h := app.editMessages_sameScreen (.removeMany ids)
    exact ⟨h.mode, h.draft, h.indices, h.observer⟩
  | orderChatAttachmentSent orderId chatMessage infoMessage =>
    have h := app.attachmentDone_sameScreen orderId
    exact ⟨h.mode, h.draft, h.indices, h.observer⟩
  | orderChatAttachmentError orderId error => exact app.attachmentDone_sameScreen orderId
  | orderChatAttachmentSendFailed prepared error =>
    have h := app.attachmentDone_sameScreen prepared.orderId
    exact ⟨h.mode, h.draft, h.indices, h.observer⟩
  | info => exact SameScreen.refl app
  | error => exact SameScreen.refl app
  | observerChatLoaded => exact SameScreen.refl app
  | observerChatError => exact SameScreen.refl app
  | myTradesMakerBookChanged => exact SameScreen.refl app
  | openInvoicePopup => exact SameScreen.refl app
  | conversationDisclosure => exact SameScreen.refl app

/-- Tracking stops at a poisoned lock. -/
def AppState.TrackingFails (app : AppState) (orderId : Option Uuid) (tradeIndex : Option Int) :
    Prop :=
  app.indicesPoisoned = true ∧ orderId.isSome = true ∧ tradeIndex.isSome = true

/-- Tracking an order shows the fatal error, or goes on from the same screen. -/
theorem tracking_cases (app : AppState) (orderId : Option Uuid) (tradeIndex : Option Int)
    (next : AppState → AppState) :
    app.TrackingFails orderId tradeIndex ∧
        app.tracking orderId tradeIndex next = app.fatalIndices ∨
      ¬ app.TrackingFails orderId tradeIndex ∧
        ∃ app', SameScreen app app' ∧ app.tracking orderId tradeIndex next = next app' := by
  unfold AppState.tracking AppState.TrackingFails
  split
  · next id i =>
    split
    · next h => exact .inl ⟨⟨h, rfl, rfl⟩, rfl⟩
    · next h =>
      exact .inr ⟨fun hf => h hf.1, app.putIndex id i, ⟨rfl, rfl, rfl, rfl⟩, rfl⟩
  · next hnone =>
    refine .inr ⟨?_, app, SameScreen.refl app, rfl⟩
    rintro ⟨-, hid, hindex⟩
    obtain ⟨id, rfl⟩ := Option.isSome_iff_exists.1 hid
    obtain ⟨i, rfl⟩ := Option.isSome_iff_exists.1 hindex
    exact hnone id i rfl rfl

/-- The screen of an invoice popup, or of the question before it. -/
def UiMode.invoicePopup : UiMode → Bool
  | .newMessageNotification .. | .confirmSavedLnAddressForInvoice .. => true
  | _ => false

theorem presentAddInvoicePopup_invoicePopup (preference : Table Uuid BuyerInvoicePreference)
    (n : MessageNotification) : (presentAddInvoicePopup env preference n).invoicePopup = true := by
  unfold presentAddInvoicePopup
  split
  · split <;> rfl
  · rfl

theorem invoicePopupMode_invoicePopup {preference : Table Uuid BuyerInvoicePreference}
    {n : MessageNotification} {mode : UiMode} (h : invoicePopupMode env preference n = some mode) :
    mode.invoicePopup = true := by
  unfold invoicePopupMode at h
  split at h
  · obtain rfl := Option.some.inj h
    exact presentAddInvoicePopup_invoicePopup preference n
  · obtain rfl := Option.some.inj h
    rfl
  · obtain rfl := Option.some.inj h
    rfl
  · obtain rfl := Option.some.inj h
    rfl
  · obtain rfl := Option.some.inj h
    rfl
  · obtain rfl := Option.some.inj h
    rfl
  · cases h

/-- The popup of an action that some status allows is never unreachable. -/
theorem invoicePopupMode_isSome (env : UiEnv) (preference : Table Uuid BuyerInvoicePreference)
    {n : MessageNotification} {status : Option Status}
    (h : invoicePopupAllowedForOrderStatus n.action status = true) :
    (invoicePopupMode env preference n).isSome = true := by
  unfold invoicePopupMode
  cases haction : n.action <;> simp_all [invoicePopupAllowedForOrderStatus]

/-- The request has the action that the gate was asked about. -/
theorem actionableNotification_action (n : MessageNotification) (orderMessage : OrderMessage) :
    (actionableNotification n orderMessage).action = gateAction n.action := by
  unfold actionableNotification gateAction
  split
  · rfl
  · rfl
  · rfl

/-- An execute reply that the gate refuses leaves the screen as it is. -/
theorem applyOpenInvoicePopupFromExecute_of_refused (env : UiEnv) (app : AppState)
    {n : MessageNotification} {orderMessage : OrderMessage}
    (h : invoicePopupAllowedForOrderStatus (gateAction n.action) orderMessage.orderStatus = false) :
    applyOpenInvoicePopupFromExecute env app n orderMessage =
      some (app.editMessages (.remember orderMessage)) := by
  simp only [applyOpenInvoicePopupFromExecute, h, Bool.not_false, if_true]

/-- One that it allows opens a popup. -/
theorem applyOpenInvoicePopupFromExecute_of_allowed (env : UiEnv) (app : AppState)
    {n : MessageNotification} {orderMessage : OrderMessage}
    (h : invoicePopupAllowedForOrderStatus (gateAction n.action) orderMessage.orderStatus = true) :
    ∃ mode : UiMode, mode.invoicePopup = true ∧
      applyOpenInvoicePopupFromExecute env app n orderMessage =
        some ((app.editMessages (.remember orderMessage)).setMode mode) := by
  unfold applyOpenInvoicePopupFromExecute
  simp only [h, Bool.not_true, Bool.false_eq_true, if_false]
  split
  · rw [← actionableNotification_action n orderMessage] at h
    obtain ⟨mode, hmode⟩ := Option.isSome_iff_exists.1 (invoicePopupMode_isSome env
      (app.editMessages (.remember orderMessage)).buyerInvoicePreference h)
    refine ⟨mode, invoicePopupMode_invoicePopup hmode, ?_⟩
    rw [hmode, Option.map_some]
  · exact ⟨_, rfl, rfl⟩

end screen

end Mostrix.Ui
