import Mostrix.Library.Run
import Mostrix.Ui.Confirm
import Mostrix.Ui.OrderForm

/-!
# The invoice popups

`UiMode::NewMessageNotification` asks for an invoice (`AddInvoice`, `AddBondInvoice`) or shows one to
pay, and `UiMode::ConfirmSavedLnAddressForInvoice` asks whether to use the Lightning address of the
settings. They come up by themselves, on a notification or on the result of a task, or on Enter in
the Messages tab, and Enter on them sends. An order whose saved address Mostro has once taken is
not asked about again: its popup comes up with the address filled in.

A popup can take the place of another at any time, so what is typed has to stay with the order that
it was typed for. `popupOfMode` is what a handler's mode shows when it opens one, and `takesScreen`
says when it does.

The texts of the popups, the scrolling and the copying of an invoice to pay are left out, and so is
the second handler of a right click, which the main loop never reaches.
-/

namespace Mostrix.Ui

/-! ## The popups -/

/-- `InvoiceNotificationActionSelection`. -/
inductive InvoiceNotificationActionSelection
  | primary
  | cancel
deriving DecidableEq, Repr

/-- The `InvoiceInputState` of a popup on screen. -/
structure InvoiceInput where
  invoiceInput : String
  focused : Bool
  justPasted : Bool := false
  actionSelection : InvoiceNotificationActionSelection := .primary
deriving DecidableEq, Repr

/-- The modes of `UiMode` that are popups of this kind. -/
inductive InvoicePopup
  | newMessageNotification (n : MessageNotification) (action : Action) (input : InvoiceInput)
  | confirmSavedLnAddressForInvoice (n : MessageNotification) (selectedButton : Bool)
deriving DecidableEq, Repr

/-- The order that a popup is about. -/
def InvoicePopup.orderId : InvoicePopup → Option Uuid
  | .newMessageNotification n _ _ | .confirmSavedLnAddressForInvoice n _ => n.orderId

/-- A popup as the handlers of results see it. -/
def InvoicePopup.mode : InvoicePopup → UiMode
  | .newMessageNotification n action input =>
    .newMessageNotification n action ⟨input.invoiceInput, input.focused⟩
  | .confirmSavedLnAddressForInvoice n selectedButton =>
    .confirmSavedLnAddressForInvoice n selectedButton

/-- A popup that has just come up. -/
def popupOfMode : UiMode → Option InvoicePopup
  | .newMessageNotification n action state =>
    some (.newMessageNotification n action
      { invoiceInput := state.invoiceInput, focused := state.focused })
  | .confirmSavedLnAddressForInvoice n selectedButton =>
    some (.confirmSavedLnAddressForInvoice n selectedButton)
  | _ => none

/-- What Enter starts a task for. -/
inductive InvoiceRequest
  /-- `execute_add_invoice`; `remember` is the order whose answer is remembered on success -/
  | addInvoice (orderId : Uuid) (invoice : String) (remember : Option Uuid)
  /-- `execute_add_bond_invoice` -/
  | addBondInvoice (orderId : Uuid) (invoice : String)
  /-- `execute_send_msg` with `Action::Cancel` -/
  | cancel (orderId : Uuid)
deriving DecidableEq, Repr

/-- The state. The log keeps what was sent, and `running` the invoices without an answer. -/
structure InvoiceScreen where
  app : AppState
  popup : Option InvoicePopup := none
  running : List InvoiceRequest := []
  sent : List InvoiceRequest := []

/-- `AppState` with what is on screen. -/
def InvoiceScreen.screen (s : InvoiceScreen) : AppState :=
  match s.popup with
  | some p => s.app.setMode p.mode
  | none => s.app

/-- Show a popup. -/
def InvoiceScreen.open (s : InvoiceScreen) (p : InvoicePopup) : InvoiceScreen :=
  { s with popup := some p }

/-- Show another screen. -/
def InvoiceScreen.leave (s : InvoiceScreen) (mode : UiMode) : InvoiceScreen :=
  { s with app := s.app.setMode mode, popup := none }

/-- Show a mode that may be a popup. -/
def InvoiceScreen.show (s : InvoiceScreen) (mode : UiMode) : InvoiceScreen :=
  { s with app := s.app.setMode mode, popup := popupOfMode mode }

/-- Start a task. -/
def InvoiceScreen.send (s : InvoiceScreen) (q : InvoiceRequest) : InvoiceScreen :=
  { s with running := s.running ++ [q], sent := s.sent ++ [q] }

/-! ## Typing -/

/-- A key, with what the clipboard holds where it pastes. -/
inductive InvoiceKey
  | char (c : Char)
  | backspace
  | left
  | right
  | enter
  | esc
  /-- `is_paste_shortcut`: Ctrl+V, with the letter, or Shift+Insert -/
  | paste (letter : Option Char) (clipboard : Option String)
  | other
deriving DecidableEq, Repr

/-- `char::is_control`. -/
def isControl (c : Char) : Bool :=
  c.toNat < 0x20 || (0x7F ≤ c.toNat && c.toNat < 0xA0)

/-- The clipboard without control characters. -/
def withoutControl (text : String) : String :=
  String.ofList (text.toList.filter fun c => !isControl c)

/-- A pasted text without control characters, tabs apart. -/
def withoutControlButTab (text : String) : String :=
  String.ofList (text.toList.filter fun c => !isControl c || c = '\t')

/-- `String::pop`. -/
def popChar (s : String) : String := String.ofList s.toList.dropLast

/-- The popups with an invoice to enter. -/
def takesInvoice (action : Action) : Bool :=
  action = .addInvoice ∨ action = .addBondInvoice

/-- The popups with a Cancel button. -/
def hasCancelButton (action : Action) : Bool :=
  isInvoiceAction action ∨ action = .waitingSellerToPay ∨ action = .waitingBuyerInvoice

/-- `handle_text_input` for an invoice, and whether that was all of the key. The Enter that some
terminals send after a paste is swallowed. -/
def handleTextInput (k : InvoiceKey) (input : InvoiceInput) : InvoiceInput × Bool :=
  match k with
  | .enter =>
    if input.justPasted then ({ input with justPasted := false }, true) else (input, false)
  | .char c =>
    ({ input with justPasted := false, invoiceInput := input.invoiceInput.push c }, true)
  | .backspace =>
    ({ input with justPasted := false, invoiceInput := popChar input.invoiceInput }, true)
  | _ => ({ input with justPasted := false }, false)

/-- `handle_invoice_input`, where the input has the focus. -/
def handleInvoiceInput (k : InvoiceKey) (input : InvoiceInput) : InvoiceInput × Bool :=
  if input.focused then handleTextInput k input else (input, false)

/-- A key in an invoice to enter: a paste that has something, or else the key itself. -/
def editInvoice (k : InvoiceKey) (input : InvoiceInput) : InvoiceInput × Bool :=
  match k with
  | .paste letter clipboard =>
    let text := (clipboard.map withoutControl).getD ""
    if text ≠ "" then
      ({ input with invoiceInput := input.invoiceInput ++ text, justPasted := true }, true)
    else handleInvoiceInput (letter.elim .other .char) input
  | k => handleInvoiceInput k input

/-- `update_invoice_notification_action_selection`. -/
def updateActionSelection (k : InvoiceKey) (input : InvoiceInput) : InvoiceInput :=
  match k with
  | .left => { input with actionSelection := .primary }
  | .right => { input with actionSelection := .cancel }
  | _ => input

/-- A key on a popup up to Enter and Esc: what it leaves of the input, and whether it was Enter or Esc
and still has to be handled. -/
def keyOnInput (action : Action) (k : InvoiceKey) (input : InvoiceInput) : InvoiceInput × Bool :=
  let (input, done) := if takesInvoice action then editInvoice k input else (input, false)
  if done then (input, false)
  else
    (if hasCancelButton action then updateActionSelection k input else input,
      decide (k = .enter ∨ k = .esc))

/-- `apply_pasted_text_to_active_input`, for an invoice. -/
def pasteInvoice (text : String) (input : InvoiceInput) : InvoiceInput :=
  if input.focused then
    { input with
      invoiceInput := input.invoiceInput ++ withoutControlButTab text
      justPasted := true }
  else input

/-! ## Enter and Esc -/

/-- `load_settings_from_disk`, the Lightning address of it. -/
abbrev SavedSettings := Except String String

/-- What `present_add_invoice_popup` finds in the settings. -/
def lnAddressOf : SavedSettings → Option String
  | .ok addr => if trimmed addr = "" then none else some (trimmed addr)
  | .error _ => none

/-- What a key finds, apart from `AppState`. -/
structure InvoiceKeyEnv where
  settings : SavedSettings := .ok ""
  selectedMessageIdx : Nat := 0

/-- The popup is closed. -/
def InvoiceScreen.close (s : InvoiceScreen) : InvoiceScreen :=
  s.leave (UiMode.defaultForRole s.app.userRole)

/-- What both submissions do to the screen. -/
def InvoiceScreen.waitForAnswer (s : InvoiceScreen) : InvoiceScreen :=
  { s with app := { s.app with pendingPostTakeOperationResult := none } }.leave
    (roleWaitingMode s.app.userRole)

/-- `submit_add_invoice`. An error it reports comes back as a result. -/
def submitAddInvoice (s : InvoiceScreen) (orderId : Uuid) (invoice : String)
    (remember : Option Uuid) : InvoiceScreen :=
  if isBlank invoice then s.close
  else s.waitForAnswer.send (.addInvoice orderId invoice remember)

/-- `submit_add_bond_invoice`. -/
def submitAddBondInvoice (s : InvoiceScreen) (orderId : Uuid) (invoice : String) : InvoiceScreen :=
  if isBlank invoice then s.close
  else s.waitForAnswer.send (.addBondInvoice orderId invoice)

/-- `buyer_invoice_preference.remove`. -/
def AppState.forgetPreference (app : AppState) (orderId : Uuid) : AppState :=
  { app with buyerInvoicePreference := app.buyerInvoicePreference.erase orderId }

/-- `spawn_cancel_from_notification`. -/
def cancelFromNotification (s : InvoiceScreen) (orderId : Option Uuid) : InvoiceScreen :=
  match orderId with
  | none => s.close
  | some orderId =>
    ({ s with app := s.app.forgetPreference orderId }.leave (roleWaitingMode s.app.userRole)).send
      (.cancel orderId)

/-- `handle_enter_message_notification`. -/
def handleEnterMessageNotification (s : InvoiceScreen) (action : Action) (input : InvoiceInput)
    (orderId : Option Uuid) : InvoiceScreen :=
  if !hasCancelButton action then s.close
  else if input.actionSelection = .cancel then cancelFromNotification s orderId
  else
    match action, orderId with
    | .addInvoice, some orderId => submitAddInvoice s orderId input.invoiceInput none
    | .addBondInvoice, some orderId => submitAddBondInvoice s orderId input.invoiceInput
    | _, _ => s.close

/-- `apply_saved_ln_address_invoice_choice`, for the choice that is made with it: to type one. -/
def applyManualInvoiceChoice (s : InvoiceScreen) (n : MessageNotification) : InvoiceScreen :=
  let app :=
    match n.orderId with
    | some orderId =>
      { s.app with
        buyerInvoicePreference := s.app.buyerInvoicePreference.put orderId .manualInvoice }
    | none => s.app
  { s with app := app }.show (.newMessageNotification n .addInvoice ⟨"", true⟩)

/-- The Enter key on `ConfirmSavedLnAddressForInvoice`: YES sends the address at once. -/
def handleEnterConfirmSaved (s : InvoiceScreen) (settings : SavedSettings) (n : MessageNotification)
    (selectedButton : Bool) : InvoiceScreen :=
  if selectedButton then
    match n.orderId with
    | none => s.leave (.operationResult (.error "No order ID for AddInvoice"))
    | some orderId =>
      match settings with
      | .error e =>
        s.leave (.operationResult (.error ("Failed to load settings from disk: " ++ e)))
      | .ok addr =>
        if trimmed addr = "" then
          s.leave (.operationResult (.error "No saved Lightning address in settings"))
        else submitAddInvoice s orderId (trimmed addr) (some orderId)
  else applyManualInvoiceChoice s n

/-- `handle_esc_key` on a popup: a result that came behind it is shown now. -/
def handleEscInvoice (s : InvoiceScreen) : InvoiceScreen :=
  match s.app.pendingPostTakeOperationResult with
  | some r =>
    { s with app := { s.app with pendingPostTakeOperationResult := none } }.leave
      (.operationResult r)
  | none => s.close

/-- `invoice_popup_action_for_message_action`. -/
def invoicePopupActionForMessageAction : Action → Option Action
  | .addInvoice | .waitingBuyerInvoice => some .addInvoice
  | .addBondInvoice => some .addBondInvoice
  | .payInvoice | .waitingSellerToPay => some .payInvoice
  | .payBondInvoice => some .payBondInvoice
  | _ => none

/-- The information shown for a message whose popup is out of date. -/
def staleInvoiceInfo (msg : OrderMessage) : String :=
  if msg.message.action = .payInvoice ∧ msg.orderStatus = some .waitingBuyerInvoice then
    "Waiting for the buyer to add their invoice. Hold invoice is already paid."
  else "Trade already advanced; invoice action no longer required."

/-- `handle_enter_normal_mode` on a message about an invoice; `none` on any other message. -/
def invoiceModeOfMessage (lnAddress : Option String)
    (preference : Table Uuid BuyerInvoicePreference) (msg : OrderMessage) : Option UiMode :=
  (invoicePopupActionForMessageAction msg.message.action).map fun action =>
    if !invoicePopupAllowedForOrderStatus action msg.orderStatus then
      .operationResult (.info (staleInvoiceInfo msg))
    else if localUserMustActOnInvoicePopup msg action then
      if action = .addInvoice then
        presentAddInvoicePopup { lnAddress := lnAddress } preference (orderMessageToNotification msg)
      else .newMessageNotification (orderMessageToNotification msg) action ⟨"", false⟩
    else
      .newMessageNotification (orderMessageToWaitingNotification msg)
        (orderMessageToWaitingNotification msg).action ⟨"", false⟩

/-- The Enter key where no popup is on screen, as far as it opens one of these. -/
def handleEnterMessages (s : InvoiceScreen) (env : InvoiceKeyEnv) : InvoiceScreen :=
  if s.app.activeTab = .messages ∧ s.app.mode.isNormal = true ∧ s.app.messagesPoisoned = false then
    let opened := (selectedMessage s.app env.selectedMessageIdx).bind
      (invoiceModeOfMessage (lnAddressOf env.settings) s.app.buyerInvoicePreference)
    match opened with
    | some mode =>
      { s with app := { s.app with messages := stripNewOrderMessages s.app.messages } }.show mode
    | none => s
  else s

/-- `handle_key_event`, for a key that no other screen takes. -/
def handleInvoiceKey (s : InvoiceScreen) (env : InvoiceKeyEnv) (k : InvoiceKey) : InvoiceScreen :=
  match s.popup with
  | none => if k = .enter then handleEnterMessages s env else s
  | some (.newMessageNotification n action input) =>
    let (input, pending) := keyOnInput action k input
    if pending then
      if k = .enter then handleEnterMessageNotification s action input n.orderId
      else handleEscInvoice s
    else s.open (.newMessageNotification n action input)
  | some (.confirmSavedLnAddressForInvoice n selectedButton) =>
    match k with
    | .left | .right => s.open (.confirmSavedLnAddressForInvoice n !selectedButton)
    | .enter => handleEnterConfirmSaved s env.settings n selectedButton
    | .esc => handleEscInvoice s
    | _ => s

/-! ## Results and notifications -/

/-- The popups that results wait behind. -/
def UiMode.keepsScreen : UiMode → Bool
  | .newMessageNotification _ action _ => keepsInvoicePopup action
  | .confirmSavedLnAddressForInvoice .. => true
  | _ => false

/-- Handling a result shows another screen, or the same anew. -/
def takesScreen (app : AppState) (r : OperationResult) : Bool :=
  match r with
  | .myTradesMakerBookChanged => false
  | .openInvoicePopup n orderMessage =>
    invoicePopupAllowedForOrderStatus (gateAction n.action) orderMessage.orderStatus
  | .paymentRequestRequired .. => true
  | .success os =>
    !app.mode.keepsScreen || (os.orderId.isSome && os.tradeIndex.isSome && app.indicesPoisoned)
  | .observerChatLoaded .. => false
  | .observerChatError generation _ => generation = app.observerFetchGeneration
  | _ => !app.mode.keepsScreen

/-- What a handler leaves: the popup, unless it took the screen. -/
def InvoiceScreen.after (s : InvoiceScreen) (taken : Bool) : Option AppState → InvoiceScreen
  | none => { s with popup := none }
  | some app => { s with app := app, popup := if taken then popupOfMode app.mode else s.popup }

/-- A result arrives. -/
def InvoiceScreen.result (s : InvoiceScreen) (env : UiEnv) (r : OperationResult) : InvoiceScreen :=
  s.after (takesScreen s.screen r) (applyOrderResult env s.screen r)

/-- A notification's popup comes up. -/
def notificationShown (app : AppState) (n : MessageNotification) : Bool :=
  isInvoiceAction n.action && !app.messagesPoisoned &&
    ((checkIfPopupShouldBeShown app.startupPopupFloorTs app.messages n).map (·.2)).getD false

/-- A notification arrives. -/
def InvoiceScreen.notification (s : InvoiceScreen) (env : UiEnv) (n : MessageNotification) :
    InvoiceScreen :=
  s.after (notificationShown s.app n) (handleMessageNotification env s.screen n)

/-- A result that is not the success of an invoice sent to a saved address. -/
def OtherResult : Type :=
  { r : OperationResult // ∀ message orderId, r ≠ .invoiceSubmitted message (some orderId) }

/-! ## What happens -/

/-- An event of the main loop. -/
inductive InvoiceEvent
  | key (env : InvoiceKeyEnv) (k : InvoiceKey)
  /-- a bracketed paste, or the clipboard on a right click -/
  | paste (text : String)
  /-- Mostro took the invoice of the `i`th running task -/
  | submitted (env : UiEnv) (i : Nat)
  /-- it did not -/
  | failed (env : UiEnv) (i : Nat) (error : String)
  /-- it answered a bond's with what comes next: `operation_result_from_bond_invoice_reply` -/
  | followUp (env : UiEnv) (i : Nat) (r : OtherResult)
  | result (env : UiEnv) (r : OtherResult)
  | notification (env : UiEnv) (n : MessageNotification)
  /-- the rest of the program goes on behind what is on screen -/
  | background (app : AppState)
  /-- the rest of the program shows another screen -/
  | screen (app : AppState)

/-- What the rest of the program leaves alone. -/
def AppState.keepPreference (app before : AppState) : AppState :=
  { app with buyerInvoicePreference := before.buyerInvoicePreference }

/-- The answer to the `i`th running task. -/
def InvoiceScreen.answer (s : InvoiceScreen) (env : UiEnv) (i : Nat) (r : OperationResult) :
    InvoiceScreen :=
  { s with running := s.running.eraseIdx i }.result env r

/-- One event. -/
def InvoiceScreen.next (s : InvoiceScreen) : InvoiceEvent → InvoiceScreen
  | .key env k => handleInvoiceKey s env k
  | .paste text =>
    match s.popup with
    | some (.newMessageNotification n .addInvoice input) =>
      s.open (.newMessageNotification n .addInvoice (pasteInvoice text input))
    | _ => s
  | .submitted env i =>
    match s.running[i]? with
    | some (.addInvoice _ _ remember) =>
      s.answer env i (.invoiceSubmitted "Invoice sent successfully" remember)
    | some (.addBondInvoice ..) =>
      s.answer env i (.invoiceSubmitted "Bond payout invoice sent successfully" none)
    | some (.cancel _) => s.answer env i (.info "Cancel request sent.")
    | none => s
  | .failed env i error =>
    match s.running[i]? with
    | some _ => s.answer env i (.error error)
    | none => s
  | .followUp env i r =>
    match s.running[i]? with
    | some (.addBondInvoice ..) => s.answer env i r.1
    | _ => s
  | .result env r => s.result env r.1
  | .notification env n => s.notification env n
  | .background app => { s with app := (app.keepPreference s.app).setMode s.app.mode }
  | .screen app => { s with app := app.keepPreference s.app, popup := none }

end Mostrix.Ui
