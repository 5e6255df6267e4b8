import Mostrix.Disputes.Requests
import Mostrix.Library.Run
import Mostrix.Ui.OperationResult

/-!
# The popups a request is confirmed on

`ui/key_handler`: a trade's message or shortcut opens a popup (`UiMode::ViewingMessage`,
`UiMode::RatingOrder`), and so does the shortcut that closes a dispute
(`AdminMode::ReviewingDisputeForFinalization`, then `ConfirmFinalizeDispute`). Enter on it sends.
Between the two keys anything may happen: results and notifications arrive and may take the screen
away, the tables are reloaded, other screens come and go.

The texts of the popups, which are only drawn, are left out.
-/

namespace Mostrix.Ui

open Disputes (AdminDispute BondSlashChoice)

/-! ## The popups -/

/-- `ThreeState`. -/
inductive ThreeState
  | yes
  | no
  | cancel
deriving DecidableEq, Repr

/-- `ThreeState::next`. -/
def ThreeState.next : ThreeState → ThreeState
  | .yes => .no
  | .no => .cancel
  | .cancel => .yes

/-- `ThreeState::prev`. -/
def ThreeState.prev : ThreeState → ThreeState
  | .yes => .cancel
  | .no => .yes
  | .cancel => .no

/-- `ViewingMessageButtonSelection`. -/
inductive ViewingMessageButtonSelection
  | two (yesSelected : Bool)
  | three (selected : ThreeState)
deriving DecidableEq, Repr

/-- `MessageViewState`. -/
structure MessageViewState where
  orderId : Option Uuid
  action : Action
  buttonSelection : ViewingMessageButtonSelection
deriving DecidableEq, Repr

/-- `RatingOrderState`. -/
structure RatingOrderState where
  orderId : Uuid
  selectedRating : Nat
deriving DecidableEq, Repr

/-- The modes of `UiMode` that are popups of this kind. -/
inductive ConfirmPopup
  | viewingMessage (view : MessageViewState)
  | ratingOrder (rating : RatingOrderState)
  | reviewingDispute (disputeId : Uuid) (selectedButtonIndex : Nat) (bond : BondSlashChoice)
      (slashSubmenuOpen : Bool) (slashSubmenuIndex : Nat)
  | confirmFinalizeDispute (disputeId : Uuid) (isSettle : Bool) (bond : BondSlashChoice)
      (selectedButton : Bool)
deriving DecidableEq, Repr

/-- What Enter starts a task for. -/
inductive PopupRequest
  /-- `execute_send_msg`; `source` is the action that the popup was opened for -/
  | sendMsg (orderId : Uuid) (action source : Action)
  /-- `execute_dispute` -/
  | dispute (orderId : Uuid)
  /-- `execute_rate_user` -/
  | rateUser (orderId : Uuid) (rating : Nat)
  /-- `execute_finalize_dispute` -/
  | finalizeDispute (disputeId : Uuid) (isSettle : Bool) (bond : BondSlashChoice)
deriving DecidableEq, Repr

/-- The keys that such a popup is opened or handled with. -/
inductive Key
  | left
  | right
  | up
  | down
  | plus
  | minus
  | enter
  | esc
  | shiftC
  | shiftF
  | shiftR
  | shiftD
  | shiftV
  | delete
  | ctrlDelete
deriving DecidableEq, Repr

/-- What a key finds, apart from `AppState`: the selected rows (`Ui.Selection` and `Ui.OrderChatList`
say which those are), the maker's own book, the admin's disputes, and the instance info. -/
structure KeyEnv where
  selectedTrade : Option (Uuid × Option Status) := none
  selectedMessageIdx : Nat := 0
  selectedBookOrder : Option SmallOrder := none
  myTradesMakerBook : List Uuid := []
  selectedDispute : Option Uuid := none
  adminDisputes : List AdminDispute := []
  bondUiEnabled : Bool := false
  adminKeys : Bool := true
  mostroPubkeyPoisoned : Bool := false

/-- The state: what is on screen is the popup, or `app.mode` where there is none. The log keeps what
was sent. -/
structure PopupState where
  app : AppState
  popup : Option ConfirmPopup := none
  requests : List PopupRequest := []

/-- `app.mode` while such a popup is on screen. -/
def popupScreen : UiMode := .other 0

/-- Show a popup. -/
def PopupState.open (s : PopupState) (p : ConfirmPopup) : PopupState :=
  { s with app := s.app.setMode popupScreen, popup := some p }

/-- Show another screen. -/
def PopupState.leave (s : PopupState) (mode : UiMode) : PopupState :=
  { s with app := s.app.setMode mode, popup := none }

/-- Start a task. -/
def PopupState.send (s : PopupState) (q : PopupRequest) : PopupState :=
  { s with requests := s.requests ++ [q] }

/-! ## Opening one -/

/-- `user_my_trades_interactive`. -/
def UiMode.userMyTradesInteractive (mode : UiMode) : Bool :=
  mode = .normal ∨ mode = .userMode .normal

/-- `is_terminal_order_status` of the key handler. -/
def isTerminalOrderStatus : Option Status → Bool
  | some .success | some .canceled | some .canceledByAdmin | some .settledByAdmin
  | some .completedByAdmin | some .expired | some .cooperativelyCanceled => true
  | _ => false

/-- `can_dispute_order_status`. -/
def canDisputeOrderStatus : Option Status → Bool
  | none => true
  | some s => s = .active ∨ s = .fiatSent

/-- `build_order_action_view_state`. -/
def buildOrderActionViewState (orderId : Uuid) (action : Action) : MessageViewState where
  orderId := some orderId
  action := action
  buttonSelection := .two true

/-- The action of a shortcut of My Trades and its name. -/
def shortcutAction : Key → Option (Action × String)
  | .shiftC => some (.cancel, "Cancel")
  | .shiftF => some (.fiatSent, "FiatSent")
  | .shiftR => some (.release, "Release")
  | _ => none

/-- What a shortcut shows next: a popup, or another screen. -/
abbrev NextScreen := ConfirmPopup ⊕ UiMode

/-- `trade_action_shortcut_next_mode`. -/
def tradeActionShortcutNextMode (mode : UiMode) (selected : Option (Uuid × Option Status))
    (action : Action) (label : String) : Option NextScreen :=
  if !mode.userMyTradesInteractive then none
  else
    match selected with
    | none => none
    | some (orderId, status) =>
      if isTerminalOrderStatus status then
        some (.inr (.operationResult (.info (label ++ " is disabled for terminal orders."))))
      else some (.inl (.viewingMessage (buildOrderActionViewState orderId action)))

/-- `dispute_shortcut_next_mode`. -/
def disputeShortcutNextMode (mode : UiMode) (selected : Option (Uuid × Option Status)) :
    Option NextScreen :=
  if !mode.userMyTradesInteractive then none
  else
    match selected with
    | none => none
    | some (orderId, status) =>
      if status = some .dispute then
        some (.inr (.operationResult (.info "This order already has an open dispute.")))
      else if !canDisputeOrderStatus status then
        some (.inr (.operationResult (.info
          "Dispute is only available once the trade is active (waiting for fiat or fiat sent).")))
      else some (.inl (.viewingMessage (buildOrderActionViewState orderId .dispute)))

/-- `is_my_pending_book_order`. -/
def isMyPendingBookOrder (app : AppState) (makerBook : List Uuid) (orderId : Uuid)
    (status : Option Status) : Bool :=
  if orderId ∈ makerBook then true
  else
    decide (status = none ∨ status = some .pending) &&
      (app.orderChatStatic orderId).any (·.isMine)

/-- The messages that ask for an answer. -/
def isActionable (action : Action) : Bool :=
  action = .holdInvoicePaymentAccepted ∨ action = .fiatSentOk ∨
    action = .cooperativeCancelInitiatedByPeer ∨ action = .buyerTookOrder

/-- The buttons of such a message: Enter does not cancel a trade at once. -/
def initialSelection (action : Action) : ViewingMessageButtonSelection :=
  if action = .holdInvoicePaymentAccepted then .three .yes
  else if action = .cooperativeCancelInitiatedByPeer ∨ action = .buyerTookOrder then .two false
  else .two true

/-- `handle_enter_normal_mode` on a message, where it opens one of the popups. Its other branches show
an invoice, a result or an information. -/
def messagePopup (msg : OrderMessage) : Option ConfirmPopup :=
  if isActionable msg.message.action then
    some (.viewingMessage
      { orderId := msg.orderId
        action := msg.message.action
        buttonSelection := initialSelection msg.message.action })
  else if msg.message.action = .rate then msg.orderId.map fun id => .ratingOrder ⟨id, 3⟩
  else none

/-- `handle_enter_normal_mode` on an order of the book, where it is one's own. -/
def bookOrderPopup (app : AppState) (env : KeyEnv) : Option ConfirmPopup := do
  let order ← env.selectedBookOrder
  let orderId ← order.id.filter fun id => isMyPendingBookOrder app env.myTradesMakerBook id order.status
  some (.viewingMessage (buildOrderActionViewState orderId .cancel))

/-- The modes of which `handle_enter_normal_mode` takes care. -/
def UiMode.isNormal (mode : UiMode) : Bool :=
  mode = .normal ∨ mode = .userMode .normal ∨ mode = .adminMode .normal

/-- The row of the Messages list that Enter acts on, after the list was stripped and the index
clamped. -/
def selectedMessage (app : AppState) (idx : Nat) : Option OrderMessage :=
  let messages := stripNewOrderMessages app.messages
  messages[min idx (messages.length - 1)]?

/-- What a key opens. -/
def openedBy (s : PopupState) (env : KeyEnv) (k : Key) : Option NextScreen :=
  match k with
  | .enter =>
    if s.popup.isSome ∨ !s.app.mode.isNormal then none
    else if s.app.activeTab = .orders then (bookOrderPopup s.app env).map .inl
    else if s.app.activeTab = .messages then
      (selectedMessage s.app env.selectedMessageIdx).bind fun msg => (messagePopup msg).map .inl
    else none
  | .shiftV =>
    if s.app.activeTab = .myTrades then
      env.selectedTrade.map fun trade => .inl (.ratingOrder ⟨trade.1, 5⟩)
    else none
  | .shiftD =>
    if s.app.activeTab = .myTrades ∧ s.popup = none then
      disputeShortcutNextMode s.app.mode env.selectedTrade
    else none
  | .shiftF =>
    if s.app.activeTab = .disputesInProgress then
      if s.popup = none ∧ s.app.mode = .adminMode .managingDispute then
        env.selectedDispute.map fun id => .inl (.reviewingDispute id 0 .none false 0)
      else none
    else if s.app.activeTab = .myTrades ∧ s.popup = none then
      tradeActionShortcutNextMode s.app.mode env.selectedTrade .fiatSent "FiatSent"
    else none
  | k =>
    if s.app.activeTab = .myTrades ∧ s.popup = none then
      (shortcutAction k).bind fun (action, label) =>
        tradeActionShortcutNextMode s.app.mode env.selectedTrade action label
    else none

/-! ## Handling one -/

/-- Left and Right on the buttons of a message. -/
def moveSelection (k : Key) : ViewingMessageButtonSelection → ViewingMessageButtonSelection
  | .two yesSelected =>
    if k = .left then .two true else if k = .right then .two false else .two yesSelected
  | .three selected =>
    if k = .left then .three selected.prev
    else if k = .right then .three selected.next else .three selected

/-- The keys of a rating, from 1 to 5. -/
def moveRating (k : Key) (rating : Nat) : Nat :=
  match k with
  | .left | .minus => max (rating - 1) 1
  | .right | .plus => min (rating + 1) 5
  | _ => rating

/-- `cycle_bond_slash_choice`. -/
def cycleBondSlashChoice (k : Key) (index : Nat) : Nat :=
  if k = .up then index - 1 else min (index + 1) (BondSlashChoice.all.length - 1)

/-- `cycle_finalization_button`. -/
def cycleFinalizationButton (k : Key) (selected : Nat) (isFinalized bondUiEnabled : Bool) : Nat :=
  let maxIndex := if bondUiEnabled then 2 else 1
  if isFinalized then if bondUiEnabled then 2 else selected
  else if k = .left then if selected = 0 then maxIndex else selected - 1
  else if selected ≥ maxIndex then 0 else selected + 1

/-- `FinalizeDisputePopupButton`. -/
inductive FinalizeDisputePopupButton
  | payBuyer
  | refundSeller
  | bondSlash
deriving DecidableEq, Repr

/-- `FinalizeDisputePopupButton::from_index`. -/
def FinalizeDisputePopupButton.fromIndex (i : Nat) (bondUiEnabled : Bool) :
    Option FinalizeDisputePopupButton :=
  match i with
  | 0 => some .payBuyer
  | 1 => some .refundSeller
  | 2 => if bondUiEnabled then some .bondSlash else none
  | _ => none

/-- `dispute_is_finalized` of the Enter handler: the row may also be found by its order. -/
def disputeIsFinalized (disputes : List AdminDispute) (disputeId : Uuid) : Bool :=
  (disputes.find? fun d => d.disputeId = some disputeId ∨ d.id = disputeId).any (·.isFinalized)

/-- The action that `handle_enter_viewing_message` sends for the action of the popup; none where it
only closes the popup. -/
def actionToSend (view : MessageViewState) : Option Action :=
  match view.action with
  | .holdInvoicePaymentAccepted =>
    match view.buttonSelection with
    | .three .cancel => some .cancel
    | .three _ => some .fiatSent
    | .two yesSelected => if yesSelected then some .fiatSent else none
  | .buyerTookOrder => some .cancel
  | .fiatSentOk => some .release
  | .cooperativeCancelInitiatedByPeer => some .cancel
  | .cancel => some .cancel
  | .fiatSent => some .fiatSent
  | .release => some .release
  | _ => none

/-- `role_waiting_mode`. -/
def roleWaitingMode : UserRole → UiMode
  | .user => .userMode .waitingAddInvoice
  | .admin => .adminMode .normal

/-- `handle_enter_viewing_message`. An error it reports comes back as a result. -/
def handleEnterViewingMessage (s : PopupState) (view : MessageViewState) : PopupState :=
  let default := UiMode.defaultForRole s.app.userRole
  if view.buttonSelection = .two false ∨ view.buttonSelection = .three .no then s.leave default
  else if view.action = .dispute then
    match view.orderId with
    | none => s.leave default
    | some orderId => (s.leave (roleWaitingMode s.app.userRole)).send (.dispute orderId)
  else
    match actionToSend view with
    | none => s.leave default
    | some action =>
      match view.orderId with
      | none => s.leave default
      | some orderId =>
        (s.leave (roleWaitingMode s.app.userRole)).send (.sendMsg orderId action view.action)

/-- `handle_enter_finalize_popup`, and the Enter key on the review popup before it. -/
def handleEnterReviewing (s : PopupState) (env : KeyEnv) (disputeId : Uuid)
    (selectedButtonIndex : Nat) (bond : BondSlashChoice) (slashSubmenuOpen : Bool)
    (slashSubmenuIndex : Nat) : PopupState :=
  if slashSubmenuOpen then
    s.open (.reviewingDispute disputeId selectedButtonIndex
      (.fromChoiceIndex slashSubmenuIndex) false slashSubmenuIndex)
  else
    let finalized := disputeIsFinalized env.adminDisputes disputeId
    let buttonIndex :=
      if !env.bondUiEnabled ∧ selectedButtonIndex > 1 then 0 else selectedButtonIndex
    match FinalizeDisputePopupButton.fromIndex buttonIndex env.bondUiEnabled with
    | some .bondSlash =>
      if finalized then s.leave (.adminMode .managingDispute)
      else s.open (.reviewingDispute disputeId selectedButtonIndex bond true bond.choiceIndex)
    | some button =>
      if finalized then s.leave (.adminMode .managingDispute)
      else s.open (.confirmFinalizeDispute disputeId (button = .payBuyer) bond true)
    | none => s.leave (UiMode.defaultForRole s.app.userRole)

/-- `execute_finalize_dispute_action`. -/
def executeFinalizeDisputeAction (s : PopupState) (env : KeyEnv) (disputeId : Uuid)
    (isSettle : Bool) (bond : BondSlashChoice) : PopupState :=
  if !env.adminKeys then
    s.leave (.operationResult (.error "Admin private key not configured"))
  else
    let s := s.leave (.adminMode (.waitingDisputeFinalization disputeId))
    if env.mostroPubkeyPoisoned then s else s.send (.finalizeDispute disputeId isSettle bond)

/-- `handle_enter_rating_order`. -/
def handleEnterRatingOrder (s : PopupState) (rating : RatingOrderState) : PopupState :=
  (s.leave (roleWaitingMode s.app.userRole)).send (.rateUser rating.orderId rating.selectedRating)

/-- `handle_enter_key` on a popup. -/
def handleEnterPopup (s : PopupState) (env : KeyEnv) : ConfirmPopup → PopupState
  | .viewingMessage view => handleEnterViewingMessage s view
  | .ratingOrder rating => handleEnterRatingOrder s rating
  | .reviewingDispute disputeId button bond submenuOpen submenuIndex =>
    handleEnterReviewing s env disputeId button bond submenuOpen submenuIndex
  | .confirmFinalizeDispute disputeId isSettle bond selectedButton =>
    if selectedButton then executeFinalizeDisputeAction s env disputeId isSettle bond
    else s.open (.reviewingDispute disputeId (if isSettle then 0 else 1) bond false bond.choiceIndex)

/-- `handle_esc_key` on a popup. -/
def handleEscPopup (s : PopupState) : ConfirmPopup → PopupState
  | .viewingMessage _ | .ratingOrder _ => s.leave (UiMode.defaultForRole s.app.userRole)
  | .reviewingDispute disputeId button bond submenuOpen submenuIndex =>
    if submenuOpen then s.open (.reviewingDispute disputeId button bond false submenuIndex)
    else s.leave (.adminMode .managingDispute)
  | .confirmFinalizeDispute disputeId isSettle bond _ =>
    s.open (.reviewingDispute disputeId (if isSettle then 0 else 1) bond false bond.choiceIndex)

/-- The other keys on a popup. -/
def movePopup (env : KeyEnv) (k : Key) : ConfirmPopup → ConfirmPopup
  | .viewingMessage view =>
    .viewingMessage { view with buttonSelection := moveSelection k view.buttonSelection }
  | .ratingOrder rating =>
    .ratingOrder { rating with selectedRating := moveRating k rating.selectedRating }
  | .reviewingDispute disputeId button bond submenuOpen submenuIndex =>
    if submenuOpen then
      if k = .up ∨ k = .down then
        .reviewingDispute disputeId button bond true (cycleBondSlashChoice k submenuIndex)
      else .reviewingDispute disputeId button bond true submenuIndex
    else if k = .left ∨ k = .right then
      let finalized :=
        (env.adminDisputes.find? (·.disputeId = some disputeId)).any (·.isFinalized)
      .reviewingDispute disputeId (cycleFinalizationButton k button finalized env.bondUiEnabled) bond
        false submenuIndex
    else .reviewingDispute disputeId button bond false submenuIndex
  | .confirmFinalizeDispute disputeId isSettle bond selectedButton =>
    if k = .left then .confirmFinalizeDispute disputeId isSettle bond true
    else if k = .right then .confirmFinalizeDispute disputeId isSettle bond false
    else .confirmFinalizeDispute disputeId isSettle bond selectedButton

/-- The Delete keys of My Trades, which ask whatever is on screen. -/
def deleteScreen (env : KeyEnv) : Key → Option UiMode
  | .ctrlDelete => some (.other 2)
  | .delete =>
    env.selectedTrade.map fun trade =>
      if isTerminalOrderStatus trade.2 then .other 1
      else .operationResult (.info "Delete is only available for terminal orders.")
  | _ => none

/-- `handle_key_event`, for a key that no other screen takes. -/
def handleKey (s : PopupState) (env : KeyEnv) (k : Key) : PopupState :=
  match if s.app.activeTab = .myTrades then deleteScreen env k else none with
  | some mode => s.leave mode
  | none =>
    match openedBy s env k with
    | some (.inl p) => s.open p
    | some (.inr mode) => s.leave mode
    | none =>
      match s.popup with
      | none => s
      | some p =>
        if k = .enter then handleEnterPopup s env p
        else if k = .esc then handleEscPopup s p
        else s.open (movePopup env k p)

/-! ## What happens -/

/-- An event of the main loop. -/
inductive PopupEvent
  | key (env : KeyEnv) (k : Key)
  | result (env : UiEnv) (r : OperationResult)
  | notification (env : UiEnv) (n : MessageNotification)
  /-- the rest of the program goes on behind what is on screen -/
  | background (app : AppState)
  /-- the rest of the program shows another screen -/
  | screen (app : AppState)

/-- What a result or a notification leaves: the popup, unless the screen was taken. -/
def PopupState.after (s : PopupState) : Option AppState → PopupState
  | none => { s with popup := none }
  | some app => { s with app := app, popup := if app.mode = s.app.mode then s.popup else none }

/-- One event. -/
def PopupState.next (s : PopupState) : PopupEvent → PopupState
  | .key env k => handleKey s env k
  | .result env r => s.after (applyOrderResult env s.app r)
  | .notification env n => s.after (handleMessageNotification env s.app n)
  | .background app => { s with app := app.setMode s.app.mode }
  | .screen app => { s with app := app, popup := none }

end Mostrix.Ui
