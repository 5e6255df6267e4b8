import Mostrix.Chat.DisputeChat
import Mostrix.TradeDm.Notifications

/-!
# The state of the UI

`ui/app_state.rs`, `ui/user_state.rs`, `ui/admin_state.rs` and the types of `ui/orders.rs` that a
result or a popup carries: what is on screen (`UiMode`), the results the background tasks send, and
the fields of `AppState` that handling them reads or writes. What only concerns the drawing of a
mode (focus, scrolling, the selected row) is left out.
-/

namespace Mostrix.Ui

open Chat (UserOrderChatMessage DisputeChatMessage)

/-! ## Roles and tabs -/

/-- `UserRole`. -/
inductive UserRole
  | user
  | admin
deriving DecidableEq, Repr

/-- `Tab`, with the tabs of each role. -/
inductive Tab
  | orders
  | myTrades
  | messages
  | userMostroInfo
  | userSettings
  | createNewOrder
  | userExit
  | disputesPending
  | disputesInProgress
  | observer
  | adminMostroInfo
  | adminSettings
  | adminExit
deriving DecidableEq, Repr

/-- `Tab::first`. -/
def Tab.first : UserRole → Tab
  | .user => .orders
  | .admin => .disputesPending

/-! ## Orders on their way -/

/-- `FormState`: the form of a new order, as it was typed. -/
structure FormState where
  kind : String := ""
  fiatCode : String := ""
  fiatAmount : String := ""
  fiatAmountMax : String := ""
  amount : String := ""
  paymentMethod : String := ""
  premium : String := ""
  invoice : String := ""
  expirationDays : String := ""
  useRange : Bool := false
deriving DecidableEq, Repr

/-- `FormState::new_default_form`. -/
def FormState.newDefaultForm : FormState where
  kind := "buy"
  fiatCode := "USD"
  amount := "0"
  premium := "0"
  expirationDays := "1"

/-- `TakeOrderState`: an order of the book about to be taken. -/
structure TakeOrderState where
  order : SmallOrder
  amountInput : String
  isRangeOrder : Bool
  validationError : Option String
deriving DecidableEq, Repr

/-- `OrderChatStaticHeader`. -/
structure OrderChatStaticHeader where
  orderId : Uuid
  kind : Option Kind
  createdAt : Option Int
  tradeIndex : Int
  initiatorTradePubkey : String
  isMine : Bool
  solverPubkey : Option String
  disputeId : Option Uuid
deriving DecidableEq, Repr

/-- `OrderSuccess`. -/
structure OrderSuccess where
  orderId : Option Uuid := none
  kind : Option Kind := none
  amount : Int := 0
  fiatCode : String := ""
  fiatAmount : Int := 0
  minAmount : Option Int := none
  maxAmount : Option Int := none
  paymentMethod : String := ""
  premium : Int := 0
  status : Option Status := none
  tradeIndex : Option Int := none
  staticHeader : Option OrderChatStaticHeader := none
deriving DecidableEq, Repr

/-- `BuyerInvoicePreference`. -/
inductive BuyerInvoicePreference
  | useSavedLnAddress
  | manualInvoice
deriving DecidableEq, Repr

/-- `PreparedOrderChatAttachment`, without the payload to send. -/
structure PreparedOrderChatAttachment where
  orderId : Uuid
  blossomUrl : String
  filename : String
deriving DecidableEq, Repr

/-! ## Results -/

/-- `OperationResult`. -/
inductive OperationResult
  | success (os : OrderSuccess)
  | paymentRequestRequired (order : SmallOrder) (invoice : String) (satAmount : Option Int)
      (tradeIndex : Int) (staticHeader : OrderChatStaticHeader) (action : Action)
  | info (message : String)
  | invoiceSubmitted (message : String) (rememberBuyerSavedLnAddressForOrder : Option Uuid)
  | error (message : String)
  | observerChatLoaded (generation : Nat) (messages : List DisputeChatMessage)
  | observerChatError (generation : Nat) (message : String)
  | tradeClosed (orderId : Uuid) (message : String)
  | orderHistoryDeleted (deletedOrderIds : List Uuid) (message : String)
  | myTradesMakerBookChanged
  | openInvoicePopup (notification : MessageNotification) (orderMessage : OrderMessage)
  | orderChatAttachmentSent (orderId : Uuid) (chatMessage : UserOrderChatMessage)
      (infoMessage : String)
  | orderChatAttachmentError (orderId : Uuid) (error : String)
  | orderChatAttachmentSendFailed (prepared : PreparedOrderChatAttachment) (error : String)
  | conversationDisclosure (convHex : String) (copiedToClipboard : Bool)
deriving DecidableEq, Repr

/-! ## Modes -/

/-- `InvoiceInputState`, as far as opening a popup sets it. -/
structure InvoiceInputState where
  invoiceInput : String
  focused : Bool
deriving DecidableEq, Repr

/-- `UserMode`. -/
inductive UserMode
  | normal
  | creatingOrder (form : FormState)
  | confirmingOrder (form : FormState) (selectedButton : Bool)
  | takingOrder (take : TakeOrderState)
  | waitingForMostro (form : FormState)
  | waitingTakeOrder (take : TakeOrderState)
  | waitingAddInvoice
deriving DecidableEq, Repr

/-- `AdminMode`, the modes that wait for Mostro and those a closed popup returns to. -/
inductive AdminMode
  | normal
  | managingDispute
  | waitingAddSolver
  | waitingTakeDispute (disputeId : Uuid)
  | waitingDisputeFinalization (disputeId : Uuid)
deriving DecidableEq, Repr

/-- `UiMode`. A mode no modelled function opens is `other`: it can be on screen when one runs. -/
inductive UiMode
  | normal
  | newMessageNotification (notification : MessageNotification) (action : Action)
      (invoiceState : InvoiceInputState)
  | operationResult (result : OperationResult)
  | confirmSavedLnAddressForInvoice (notification : MessageNotification) (selectedButton : Bool)
  | backupNewKeys (mnemonic : String)
  | userMode (mode : UserMode)
  | adminMode (mode : AdminMode)
  | other (n : Nat)
deriving DecidableEq, Repr

/-- `UiMode::default_for_role`. -/
def UiMode.defaultForRole : UserRole → UiMode
  | .user => .userMode .normal
  | .admin => .adminMode .normal

/-- The modes that wait for Mostro's answer. -/
def UiMode.waiting : UiMode → Bool
  | .userMode (.waitingForMostro _) | .userMode (.waitingTakeOrder _)
  | .userMode .waitingAddInvoice | .adminMode .waitingAddSolver
  | .adminMode (.waitingTakeDispute _) | .adminMode (.waitingDisputeFinalization _) => true
  | _ => false

/-! ## The application -/

/-- `AppState`, the fields that results, notifications and popups are handled with. A lock that was
poisoned stays so. -/
structure AppState where
  userRole : UserRole := .user
  activeTab : Tab := .orders
  mode : UiMode := .userMode .normal
  messages : List OrderMessage := []
  messagesPoisoned : Bool := false
  activeOrderTradeIndices : Table Uuid Int := Table.empty
  indicesPoisoned : Bool := false
  droppedUserHistoryOrderIds : List Uuid := []
  startupPopupFloorTs : PopupFloors := fun _ => none
  buyerInvoicePreference : Table Uuid BuyerInvoicePreference := Table.empty
  orderChatStatic : Table Uuid OrderChatStaticHeader := Table.empty
  orderChats : Table Uuid (List UserOrderChatMessage) := Table.empty
  orderChatLastSeen : Table Uuid Int := Table.empty
  pendingOrderAttachmentSends : Table Uuid PreparedOrderChatAttachment := Table.empty
  sendingAttachmentOrderId : Option Uuid := none
  observerSharedKeyInput : String := ""
  observerMessages : List DisputeChatMessage := []
  observerLoading : Bool := false
  observerError : Option String := none
  observerFetchGeneration : Nat := 0
  backupRequiresRestart : Bool := false
  pendingKeyReload : Bool := false
  pendingPostTakeOperationResult : Option OperationResult := none
  fatalExitOnClose : Bool := false
  orderFormDraft : Option FormState := none

/-- What the Observer tab shows, and the generation of the fetch it is waiting for. -/
structure ObserverView where
  messages : List DisputeChatMessage := []
  error : Option String := none
  loading : Bool := false
  generation : Nat := 0
deriving DecidableEq, Repr

/-- The observer's part of the state. -/
def AppState.observer (app : AppState) : ObserverView where
  messages := app.observerMessages
  error := app.observerError
  loading := app.observerLoading
  generation := app.observerFetchGeneration

/-- `app.mode = mode`. -/
def AppState.setMode (app : AppState) (mode : UiMode) : AppState := { app with mode := mode }

/-- What handling a result reads from outside: the clock, the Lightning address saved in the
settings (trimmed, if there is one), and `PublicKey::from_str`. -/
structure UiEnv where
  now : Int := 0
  lnAddress : Option String := none
  parsePubkey : String → Option PublicKey := some

end Mostrix.Ui
