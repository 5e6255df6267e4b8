import Mostrix.Ui.InvoicePopup

/-!
# No invoice but the one that was entered

What is sent from an invoice popup is what the popup shows, and what it shows is how it came up with
the user's own keys and pastes since: whatever arrives in between, and whichever popups it puts in
front, no text and no choice goes over to another order. A popup comes up blank, or with the saved
address where the preference of its order says so. That preference is set in one place, when Mostro
has taken an invoice that the user's YES sent, and it is gone once the order is cancelled, closed or
deleted or the user has chosen to type one.

`resultSpec` says what the handlers of results leave. `popup_next` is the step lemma of the screen,
`logs_next` that of the log and `prefers_next` that of the preferences; `Run.opened_edits` finds the
event that opened a popup and the answer that set a preference.
-/

namespace Mostrix.Ui

/-! ## What a popup comes up with -/

/-- A popup as it comes up: blank, with the saved address, or asking for it. -/
inductive ComesUp (lnAddress : Option String) (preference : Table Uuid BuyerInvoicePreference) :
    InvoicePopup → Prop
  | blank {n : MessageNotification} {action : Action} {focused : Bool} :
      ComesUp lnAddress preference
        (.newMessageNotification n action { invoiceInput := "", focused := focused })
  | saved {n : MessageNotification} {addr : String} {orderId : Uuid} (haddr : lnAddress = some addr)
      (hid : n.orderId = some orderId) (hsaved : preference orderId = some .useSavedLnAddress) :
      ComesUp lnAddress preference
        (.newMessageNotification n .addInvoice { invoiceInput := addr, focused := true })
  | confirm {n : MessageNotification} :
      ComesUp lnAddress preference (.confirmSavedLnAddressForInvoice n true)

/-- The order that a result opens a popup for. -/
def orderOfResult : OperationResult → Option Uuid
  | .openInvoicePopup n orderMessage =>
    if localUserMustActOnInvoicePopup orderMessage (gateAction n.action) then
      (actionableNotification n orderMessage).orderId
    else orderMessage.orderId
  | .paymentRequestRequired order .. => order.id
  | _ => none

/-- The order that an event opens a popup for: the one that a notification or a result is about, that
of the selected message, or that of the popup on which the user chose to type an invoice. -/
def orderNamed (s : InvoiceScreen) : InvoiceEvent → Option Uuid
  | .key env _ =>
    match s.popup with
    | some p => p.orderId
    | none => (selectedMessage s.app env.selectedMessageIdx).bind (·.orderId)
  | .notification _ n => n.orderId
  | .result _ r | .followUp _ _ r => orderOfResult r.1
  | _ => none

/-- The saved address that an event finds. -/
def lnAddressAt : InvoiceEvent → Option String
  | .key env _ => lnAddressOf env.settings
  | .notification env _ | .result env _ | .submitted env _ | .failed env .. | .followUp env .. =>
    env.lnAddress
  | _ => none

/-- What the user's keys and pastes make of a popup. -/
def InvoicePopup.edited (p : InvoicePopup) : InvoiceEvent → InvoicePopup
  | .key _ k =>
    match p with
    | .newMessageNotification n action input =>
      .newMessageNotification n action (keyOnInput action k input).1
    | .confirmSavedLnAddressForInvoice n selectedButton =>
      .confirmSavedLnAddressForInvoice n
        (if k = .left ∨ k = .right then !selectedButton else selectedButton)
  | .paste text =>
    match p with
    | .newMessageNotification n .addInvoice input =>
      .newMessageNotification n .addInvoice (pasteInvoice text input)
    | p => p
  | _ => p

/-- An event opens a popup. -/
def OpensPopup (s : InvoiceScreen) (event : InvoiceEvent) (p : InvoicePopup) : Prop :=
  ComesUp (lnAddressAt event) s.app.buyerInvoicePreference p ∧ p.orderId = orderNamed s event

/-! ## What Enter sends -/

/-- Enter on a popup asks for a request: a text that is not blank and was not pasted with that very
key, the saved address after YES, or a cancel. -/
inductive Submits (env : InvoiceKeyEnv) : InvoicePopup → InvoiceRequest → Prop
  | invoice {n : MessageNotification} {input : InvoiceInput} {orderId : Uuid}
      (hid : n.orderId = some orderId) (hprimary : input.actionSelection = .primary)
      (htext : isBlank input.invoiceInput = false)
      (hpasted : input.focused = true → input.justPasted = false) :
      Submits env (.newMessageNotification n .addInvoice input)
        (.addInvoice orderId input.invoiceInput none)
  | bondInvoice {n : MessageNotification} {input : InvoiceInput} {orderId : Uuid}
      (hid : n.orderId = some orderId) (hprimary : input.actionSelection = .primary)
      (htext : isBlank input.invoiceInput = false)
      (hpasted : input.focused = true → input.justPasted = false) :
      Submits env (.newMessageNotification n .addBondInvoice input)
        (.addBondInvoice orderId input.invoiceInput)
  | cancel {n : MessageNotification} {action : Action} {input : InvoiceInput} {orderId : Uuid}
      (hid : n.orderId = some orderId) (hcancel : input.actionSelection = .cancel) :
      Submits env (.newMessageNotification n action input) (.cancel orderId)
  | saved {n : MessageNotification} {orderId : Uuid} {addr : String} (hid : n.orderId = some orderId)
      (hsettings : env.settings = .ok addr) (htext : trimmed addr ≠ "") :
      Submits env (.confirmSavedLnAddressForInvoice n true)
        (.addInvoice orderId (trimmed addr) (some orderId))

/-- The order of a request. -/
def InvoiceRequest.orderId : InvoiceRequest → Uuid
  | .addInvoice orderId .. | .addBondInvoice orderId _ | .cancel orderId => orderId

theorem Submits.orderId {env : InvoiceKeyEnv} {p : InvoicePopup} {q : InvoiceRequest}
    (h : Submits env p q) : p.orderId = some q.orderId := by
  cases h <;> assumption

/-! ## The handlers of results -/

section results
variable {env : UiEnv} {app app' : AppState}

/-- `present_add_invoice_popup` as the popup that comes up. -/
theorem comesUp_presentAddInvoicePopup {preference : Table Uuid BuyerInvoicePreference}
    {n : MessageNotification} {p : InvoicePopup}
    (h : popupOfMode (presentAddInvoicePopup env preference n) = some p) :
    ComesUp env.lnAddress preference p ∧ p.orderId = n.orderId := by
  unfold presentAddInvoicePopup at h
  split at h
  · next addr haddr =>
    split at h
    · cases h
      exact ⟨.blank, rfl⟩
    · next hsaved =>
      obtain ⟨orderId, hid, hpref⟩ := Option.bind_eq_some_iff.1 hsaved
      cases h
      exact ⟨.saved haddr hid hpref, rfl⟩
    · cases h
      exact ⟨.confirm, rfl⟩
  · cases h
    exact ⟨.blank, rfl⟩

theorem comesUp_invoicePopupMode {preference : Table Uuid BuyerInvoicePreference}
    {n : MessageNotification} {mode : UiMode} {p : InvoicePopup}
    (hmode : invoicePopupMode env preference n = some mode) (h : popupOfMode mode = some p) :
    ComesUp env.lnAddress preference p ∧ p.orderId = n.orderId := by
  unfold invoicePopupMode at hmode
  split at hmode
  · cases hmode
    exact comesUp_presentAddInvoicePopup h
  iterate 5
    · cases hmode
      cases h
      exact ⟨.blank, rfl⟩
  · cases hmode

theorem AppState.editMessages_preference (app : AppState) (edit : MessagesEdit) :
    (app.editMessages edit).buyerInvoicePreference = app.buyerInvoicePreference := by
  unfold AppState.editMessages
  split <;> rfl

theorem AppState.editMessages_mode (app : AppState) (edit : MessagesEdit) :
    (app.editMessages edit).mode = app.mode :=
  (app.editMessages_sameScreen edit).mode

/-- A reply that asks for an invoice: the screen is left alone, or a popup comes up for its order. -/
theorem applyOpenInvoicePopup_spec {n : MessageNotification} {orderMessage : OrderMessage}
    (h : applyOpenInvoicePopupFromExecute env app n orderMessage = some app') :
    app'.buyerInvoicePreference = app.buyerInvoicePreference ∧
      (takesScreen app (.openInvoicePopup n orderMessage) = false → app'.mode = app.mode) ∧
      ∀ p, popupOfMode app'.mode = some p →
        takesScreen app (.openInvoicePopup n orderMessage) = true →
        ComesUp env.lnAddress app.buyerInvoicePreference p ∧
          p.orderId = orderOfResult (.openInvoicePopup n orderMessage) := by
  have hpref := app.editMessages_preference (.remember orderMessage)
  unfold applyOpenInvoicePopupFromExecute at h
  dsimp only at h
  split at h
  · next hstatus =>
    cases h
    refine ⟨hpref, fun _ => app.editMessages_mode _, fun p _ htaken => ?_⟩
    rw [takesScreen] at htaken
    simp [htaken] at hstatus
  · next hstatus =>
    have hallowed : takesScreen app (.openInvoicePopup n orderMessage) = true := by
      simpa [takesScreen] using hstatus
    split at h
    · next hact =>
      obtain ⟨mode, hmode, rfl⟩ := Option.map_eq_some_iff.1 h
      refine ⟨hpref, fun hnot => (by rw [hallowed] at hnot; cases hnot), fun p hp _ => ?_⟩
      rw [hpref] at hmode
      have hspec := comesUp_invoicePopupMode hmode hp
      rw [orderOfResult, if_pos hact]
      exact hspec
    · next hact =>
      cases h
      refine ⟨hpref, fun hnot => (by rw [hallowed] at hnot; cases hnot), fun p hp _ => ?_⟩
      cases hp
      rw [orderOfResult, if_neg hact]
      exact ⟨.blank, rfl⟩

theorem tracking_preference {orderId : Option Uuid} {tradeIndex : Option Int}
    {next : AppState → AppState}
    (hpref : ∀ a, (next a).buyerInvoicePreference = a.buyerInvoicePreference) :
    (app.tracking orderId tradeIndex next).buyerInvoicePreference =
      app.buyerInvoicePreference := by
  unfold AppState.tracking
  split
  · split
    · rfl
    · exact hpref _
  · exact hpref _

theorem showResult_preference (app : AppState) (r : OperationResult) :
    (showResult app r).buyerInvoicePreference = app.buyerInvoicePreference := by
  unfold showResult
  dsimp only
  split
  · split <;> rfl
  · split <;> rfl
  · rfl
  · rfl

/-- A result that is only shown: behind a popup it waits, and else it takes the screen. -/
theorem showResult_mode (app : AppState) (r : OperationResult) :
    (showResult app r).mode = if app.mode.keepsScreen then app.mode else .operationResult r := by
  unfold showResult UiMode.keepsScreen
  dsimp only
  split
  · next hmode => rw [hmode]; split <;> rfl
  · next hmode => rw [hmode]; dsimp only; split <;> simp_all
  · next hmode => rw [hmode]; rfl
  · next hwaiting hnotification hconfirm =>
    split
    · next n action state hmode => exact absurd hmode (hnotification n action state)
    · next hmode => exact absurd hmode (hconfirm _ _)
    · rfl

theorem attachmentDone_preference (app : AppState) (orderId : Uuid) :
    (app.attachmentDone orderId).buyerInvoicePreference = app.buyerInvoicePreference := by
  unfold AppState.attachmentDone
  split <;> rfl

/-- What the bookkeeping of a result does to the preferences. -/
theorem bookkeeping_preference (env : UiEnv) (app : AppState) (r : OperationResult) :
    (bookkeeping env app r).buyerInvoicePreference =
      match r with
      | .tradeClosed orderId _ => app.buyerInvoicePreference.erase orderId
      | .orderHistoryDeleted orderIds _ => eraseAll app.buyerInvoicePreference orderIds
      | .invoiceSubmitted _ (some orderId) =>
        app.buyerInvoicePreference.put orderId .useSavedLnAddress
      | _ => app.buyerInvoicePreference := by
  cases r with
  | tradeClosed orderId message =>
    show (app.editMessages (.removeClosed orderId)).buyerInvoicePreference.erase orderId = _
    rw [app.editMessages_preference]
  | orderHistoryDeleted orderIds message =>
    show eraseAll (app.editMessages (.removeMany orderIds)).buyerInvoicePreference orderIds = _
    rw [app.editMessages_preference]
  | success os =>
    have hheader : (app.putHeader os.staticHeader).buyerInvoicePreference =
        app.buyerInvoicePreference := by
      cases os.staticHeader <;> rfl
    show ((app.putHeader os.staticHeader).maybeInsertPlaceholder env os).buyerInvoicePreference = _
    unfold AppState.maybeInsertPlaceholder
    split
    · rw [AppState.editMessages_preference, hheader]
    · exact hheader
  | invoiceSubmitted message remember => cases remember <;> rfl
  | orderChatAttachmentSent orderId chatMessage infoMessage =>
    exact attachmentDone_preference app orderId
  | orderChatAttachmentError orderId error => exact attachmentDone_preference app orderId
  | orderChatAttachmentSendFailed prepared error =>
    exact attachmentDone_preference app prepared.orderId
  | _ => rfl

/-- What erasing several keys leaves was there. -/
theorem eraseAll_of_some {β : Type} {orderIds : List Uuid} {t : Table Uuid β} {orderId : Uuid} {v : β}
    (h : eraseAll t orderIds orderId = some v) : t orderId = some v := by
  induction orderIds generalizing t with
  | nil => exact h
  | cons id orderIds ih =>
    have herased := ih h
    by_cases hid : orderId = id
    · rw [hid, Table.erase_self] at herased
      cases herased
    · rwa [Table.erase_of_ne hid] at herased

/-- A saved address is preferred because it was before, or by the success of an invoice that was to
be remembered. -/
theorem prefers_of_bookkeeping {r : OperationResult} {orderId : Uuid}
    (h : (bookkeeping env app r).buyerInvoicePreference orderId = some .useSavedLnAddress) :
    app.buyerInvoicePreference orderId = some .useSavedLnAddress ∨
      ∃ message, r = .invoiceSubmitted message (some orderId) := by
  rw [bookkeeping_preference] at h
  split at h
  · next id message =>
    by_cases hid : orderId = id
    · rw [hid, Table.erase_self] at h
      cases h
    · rw [Table.erase_of_ne hid] at h
      exact .inl h
  · exact .inl (eraseAll_of_some h)
  · next message id =>
    by_cases hid : orderId = id
    · exact .inr ⟨message, by rw [hid]⟩
    · rw [Table.put_of_ne hid] at h
      exact .inl h
  · exact .inl h

/-- What handling a result does to the preferences and the screen. -/
structure ResultSpec (env : UiEnv) (app : AppState) (r : OperationResult) (app' : AppState) :
    Prop where
  preference : app'.buyerInvoicePreference = (bookkeeping env app r).buyerInvoicePreference
  mode : takesScreen app r = false → app'.mode = app.mode
  popup : takesScreen app r = true → ∀ p, popupOfMode app'.mode = some p →
    ComesUp env.lnAddress app.buyerInvoicePreference p ∧ p.orderId = orderOfResult r

/-- A result that is only shown. -/
theorem resultSpec_showResult {r shown : OperationResult} {tracked : AppState}
    (hpref : tracked.buyerInvoicePreference = (bookkeeping env app r).buyerInvoicePreference)
    (hmode : tracked.mode = app.mode) (htaken : takesScreen app r = !app.mode.keepsScreen) :
    ResultSpec env app r (showResult tracked shown) := by
  refine ⟨(showResult_preference _ _).trans hpref, fun hnot => ?_, fun htakes p hp => ?_⟩
  · rw [showResult_mode, hmode, if_pos (by simpa [htaken] using hnot)]
  · rw [showResult_mode, hmode, if_neg (by simpa [htaken] using htakes)] at hp
    cases hp

/-- A payment request always comes up. -/
theorem resultSpec_paymentRequest {order : SmallOrder} {invoice : String} {satAmount : Option Int}
    {tradeIndex : Int} {header : OrderChatStaticHeader} {action : Action} :
    ResultSpec env app (.paymentRequestRequired order invoice satAmount tradeIndex header action)
      (showPaymentRequest env
        (bookkeeping env app
          (.paymentRequestRequired order invoice satAmount tradeIndex header action))
        order invoice satAmount tradeIndex action) := by
  have hdraft : ∀ a : AppState, a.dropWaitingDraft.buyerInvoicePreference =
      a.buyerInvoicePreference := by
    intro a
    unfold AppState.dropWaitingDraft
    split <;> rfl
  refine ⟨?_, nofun, fun _ p hp => ?_⟩
  · unfold showPaymentRequest
    refine Eq.trans (tracking_preference fun a => ?_) (hdraft _)
    rfl
  · unfold showPaymentRequest AppState.tracking at hp
    split at hp
    · split at hp
      · cases hp
      · cases hp
        exact ⟨.blank, rfl⟩
    · cases hp
      exact ⟨.blank, rfl⟩

/-- A success is shown, unless its order cannot be tracked. -/
theorem resultSpec_success {os : OrderSuccess} :
    ResultSpec env app (.success os) (showSuccess (bookkeeping env app (.success os)) os) := by
  have hsame := bookkeeping_sameScreen env app (.success os)
  unfold showSuccess AppState.tracking
  split
  · next orderId tradeIndex hid hindex =>
    split
    · next hpoisoned =>
      rw [hsame.indices] at hpoisoned
      refine ⟨rfl, fun hnot => ?_, fun _ p hp => nomatch hp⟩
      rw [takesScreen, hid, hindex, hpoisoned] at hnot
      simp at hnot
    · next hpoisoned =>
      rw [hsame.indices] at hpoisoned
      have htaken : takesScreen app (.success os) = !app.mode.keepsScreen := by
        rw [takesScreen, Bool.not_eq_true _ |>.mp hpoisoned]
        simp
      exact resultSpec_showResult rfl hsame.mode htaken
  · next hnone =>
    have htaken : takesScreen app (.success os) = !app.mode.keepsScreen := by
      rw [takesScreen]
      cases hid : os.orderId with
      | none => simp
      | some orderId =>
        cases hindex : os.tradeIndex with
        | none => simp
        | some tradeIndex => exact absurd hindex (hnone orderId tradeIndex hid)
    exact resultSpec_showResult rfl hsame.mode htaken

/-- `apply_order_result`, the screen and the preferences. -/
theorem resultSpec {r : OperationResult} (h : applyOrderResult env app r = some app') :
    ResultSpec env app r app' := by
  cases r with
  | myTradesMakerBookChanged =>
    cases h
    exact ⟨rfl, fun _ => rfl, fun htaken => (nomatch htaken)⟩
  | openInvoicePopup n orderMessage =>
    obtain ⟨hpref, hmode, hpopup⟩ := applyOpenInvoicePopup_spec h
    exact ⟨hpref, hmode, fun htaken p hp => hpopup p hp htaken⟩
  | paymentRequestRequired order invoice satAmount tradeIndex header action =>
    cases h
    exact resultSpec_paymentRequest
  | success os =>
    cases h
    exact resultSpec_success
  | observerChatLoaded generation messages =>
    cases h
    show ResultSpec env app _ (observerLoaded app generation messages)
    unfold observerLoaded
    refine ⟨?_, fun _ => ?_, nofun⟩
    · split <;> rfl
    · split <;> rfl
  | observerChatError generation message =>
    cases h
    show ResultSpec env app _ (observerFailed app generation message)
    unfold observerFailed
    refine ⟨?_, fun hnot => ?_, fun htaken p hp => ?_⟩
    · split <;> rfl
    · rw [takesScreen, decide_eq_false_iff_not] at hnot
      rw [if_pos hnot]
    · rw [takesScreen, decide_eq_true_eq] at htaken
      rw [if_neg (not_not_intro htaken)] at hp
      cases hp
  | _ =>
    cases h
    exact resultSpec_showResult rfl (bookkeeping_sameScreen env app _).mode rfl

/-- The preferences and the screen after a notification. -/
theorem handleMessageNotification_spec {n : MessageNotification}
    (h : handleMessageNotification env app n = some app') :
    app'.buyerInvoicePreference = app.buyerInvoicePreference ∧
      (notificationShown app n = false → app'.mode = app.mode) ∧
      (notificationShown app n = true → ∀ p, popupOfMode app'.mode = some p →
        ComesUp env.lnAddress app.buyerInvoicePreference p ∧ p.orderId = n.orderId) := by
  have hsolver : (app.putSolver n).buyerInvoicePreference = app.buyerInvoicePreference ∧
      (app.putSolver n).startupPopupFloorTs = app.startupPopupFloorTs ∧
      (app.putSolver n).messages = app.messages ∧
      (app.putSolver n).messagesPoisoned = app.messagesPoisoned := by
    unfold AppState.putSolver
    split <;> exact ⟨rfl, rfl, rfl, rfl⟩
  obtain ⟨hpref, hfloors, hmessages, hpoisoned⟩ := hsolver
  have hmode := (app.putSolver_sameScreen n).mode
  unfold handleMessageNotification at h
  dsimp only at h
  rw [hpoisoned, hfloors, hmessages] at h
  unfold notificationShown
  split at h
  · next hnone =>
    cases h
    refine ⟨hpref, fun _ => hmode, fun hshown => ?_⟩
    rcases Bool.or_eq_true _ _ |>.mp hnone with haction | hlock
    · simp_all
    · simp_all
  · split at h
    · cases h
    · next messages shown hcheck =>
      rw [hcheck]
      split at h
      · next hshown =>
        obtain ⟨mode, hopen, rfl⟩ := Option.map_eq_some_iff.1 h
        refine ⟨hpref, fun hnot => ?_, fun _ p hp => ?_⟩
        · simp_all
        · have hspec := comesUp_invoicePopupMode hopen hp
          rwa [hpref] at hspec
      · next hshown =>
        cases h
        refine ⟨hpref, fun _ => hmode, fun htaken => ?_⟩
        simp_all

end results

/-! ## One event -/

section step
variable {s : InvoiceScreen} {event : InvoiceEvent} {p : InvoicePopup}

@[simp] theorem preference_screen (s : InvoiceScreen) :
    s.screen.buyerInvoicePreference = s.app.buyerInvoicePreference := by
  unfold InvoiceScreen.screen
  split <;> rfl

@[simp] theorem popup_leave (s : InvoiceScreen) (mode : UiMode) : (s.leave mode).popup = none := rfl

@[simp] theorem popup_send (s : InvoiceScreen) (q : InvoiceRequest) :
    (s.send q).popup = s.popup := rfl

/-- A result opens a popup, or leaves the one that is there. -/
theorem popup_result {env : UiEnv} {r : OperationResult} (h : (s.result env r).popup = some p) :
    s.popup = some p ∨
      ComesUp env.lnAddress s.app.buyerInvoicePreference p ∧ p.orderId = orderOfResult r := by
  unfold InvoiceScreen.result InvoiceScreen.after at h
  split at h
  · cases h
  · next app' happ =>
    dsimp only at h
    split at h
    · next htaken =>
      have hspec := (resultSpec happ).popup htaken p h
      rw [preference_screen] at hspec
      exact .inr hspec
    · exact .inl h

/-- So does the answer to a task. -/
theorem popup_answer {env : UiEnv} {i : Nat} {r : OperationResult}
    (h : (s.answer env i r).popup = some p) :
    s.popup = some p ∨
      ComesUp env.lnAddress s.app.buyerInvoicePreference p ∧ p.orderId = orderOfResult r :=
  popup_result (s := { s with running := s.running.eraseIdx i }) h

/-- So does a notification. -/
theorem popup_notification {env : UiEnv} {n : MessageNotification}
    (h : (s.notification env n).popup = some p) :
    s.popup = some p ∨
      ComesUp env.lnAddress s.app.buyerInvoicePreference p ∧ p.orderId = n.orderId := by
  have hscreen : notificationShown s.screen n = notificationShown s.app n := by
    unfold InvoiceScreen.screen
    split <;> rfl
  unfold InvoiceScreen.notification InvoiceScreen.after at h
  split at h
  · cases h
  · next app' happ =>
    dsimp only at h
    split at h
    · next htaken =>
      have hspec := (handleMessageNotification_spec happ).2.2 (hscreen.trans htaken) p h
      rw [preference_screen] at hspec
      exact .inr hspec
    · exact .inl h

/-- The Enter key in the Messages tab opens a popup for the message that is selected. -/
theorem popup_handleEnterMessages {env : InvoiceKeyEnv} (hnone : s.popup = none)
    (h : (handleEnterMessages s env).popup = some p) :
    ComesUp (lnAddressOf env.settings) s.app.buyerInvoicePreference p ∧
      p.orderId = (selectedMessage s.app env.selectedMessageIdx).bind (·.orderId) := by
  unfold handleEnterMessages at h
  split at h
  · dsimp only at h
    split at h
    · next mode hopened =>
      obtain ⟨msg, hmsg, hmode⟩ := Option.bind_eq_some_iff.1 hopened
      rw [hmsg, Option.bind_some]
      unfold invoiceModeOfMessage at hmode
      obtain ⟨action, haction, rfl⟩ := Option.map_eq_some_iff.1 hmode
      have hp : popupOfMode _ = some p := h
      split at hp
      · cases hp
      · split at hp
        · split at hp
          · exact comesUp_presentAddInvoicePopup hp
          · cases hp
            exact ⟨.blank, rfl⟩
        · cases hp
          exact ⟨.blank, rfl⟩
    · rw [hnone] at h
      cases h
  · rw [hnone] at h
    cases h

@[simp] theorem popup_close (s : InvoiceScreen) : s.close.popup = none := rfl

@[simp] theorem popup_submitAddInvoice (s : InvoiceScreen) (orderId : Uuid) (invoice : String)
    (remember : Option Uuid) : (submitAddInvoice s orderId invoice remember).popup = none := by
  unfold submitAddInvoice
  split <;> rfl

@[simp] theorem popup_submitAddBondInvoice (s : InvoiceScreen) (orderId : Uuid) (invoice : String) :
    (submitAddBondInvoice s orderId invoice).popup = none := by
  unfold submitAddBondInvoice
  split <;> rfl

/-- Enter closes a popup that takes or shows an invoice. -/
@[simp] theorem popup_handleEnterMessageNotification (s : InvoiceScreen) (action : Action)
    (input : InvoiceInput) (orderId : Option Uuid) :
    (handleEnterMessageNotification s action input orderId).popup = none := by
  unfold handleEnterMessageNotification
  split
  · rfl
  · split
    · cases orderId <;> rfl
    · split
      · exact popup_submitAddInvoice ..
      · exact popup_submitAddBondInvoice ..
      · rfl

/-- Esc closes any popup. -/
@[simp] theorem popup_handleEscInvoice (s : InvoiceScreen) : (handleEscInvoice s).popup = none := by
  unfold handleEscInvoice
  split <;> rfl

/-- Enter on the question: the popup is closed, or it gives way to a blank one for the same order. -/
theorem popup_handleEnterConfirmSaved {settings : SavedSettings} {n : MessageNotification}
    {selectedButton : Bool}
    (h : (handleEnterConfirmSaved s settings n selectedButton).popup = some p) :
    p = .newMessageNotification n .addInvoice { invoiceInput := "", focused := true } := by
  unfold handleEnterConfirmSaved at h
  split at h
  · split at h
    · cases h
    · split at h
      · cases h
      · split at h
        · cases h
        · rw [popup_submitAddInvoice] at h
          cases h
  · cases h
    rfl

/-- A popup after a key: it was there and the key edited it, or the key opened it. -/
theorem popup_handleInvoiceKey {env : InvoiceKeyEnv} {k : InvoiceKey}
    (h : (handleInvoiceKey s env k).popup = some p) :
    OpensPopup s (.key env k) p ∨ ∃ q, s.popup = some q ∧ p = q.edited (.key env k) := by
  unfold handleInvoiceKey at h
  split at h
  · next hnone =>
    split at h
    · next hk =>
      have hopens := popup_handleEnterMessages hnone h
      refine .inl ⟨hopens.1, ?_⟩
      rw [hopens.2, orderNamed, hnone]
    · rw [hnone] at h
      cases h
  · next n action input hthere =>
    dsimp only at h
    split at h
    · split at h
      · rw [popup_handleEnterMessageNotification] at h
        cases h
      · rw [popup_handleEscInvoice] at h
        cases h
    · cases h
      exact .inr ⟨_, hthere, rfl⟩
  · next n selectedButton hthere =>
    split at h
    · cases h
      exact .inr ⟨_, hthere, by simp [InvoicePopup.edited]⟩
    · cases h
      exact .inr ⟨_, hthere, by simp [InvoicePopup.edited]⟩
    · obtain rfl := popup_handleEnterConfirmSaved h
      refine .inl ⟨.blank, ?_⟩
      rw [orderNamed, hthere]
      rfl
    · rw [popup_handleEscInvoice] at h
      cases h
    · next hleft hright henter hesc =>
      rw [hthere] at h
      cases h
      exact .inr ⟨_, hthere, by simp_all [InvoicePopup.edited]⟩

/-- One event and the popup on screen: the event opened it, or it was there before and shows what the
user's key or paste made of it. -/
theorem popup_next (s : InvoiceScreen) (event : InvoiceEvent) (p : InvoicePopup)
    (h : (s.next event).popup = some p) :
    OpensPopup s event p ∨ ∃ q, s.popup = some q ∧ p = q.edited event := by
  cases event with
  | key env k => exact popup_handleInvoiceKey h
  | paste text =>
    rw [InvoiceScreen.next] at h
    split at h
    · next n input hthere =>
      cases h
      exact .inr ⟨_, hthere, rfl⟩
    · next hnot =>
      refine .inr ⟨p, h, ?_⟩
      cases p with
      | newMessageNotification n action input =>
        cases action with
        | addInvoice => exact absurd h (hnot n input)
        | _ => rfl
      | confirmSavedLnAddressForInvoice n selectedButton => rfl
  | submitted env i =>
    rw [InvoiceScreen.next] at h
    split at h
    · exact (popup_answer h).symm.imp id fun hthere => ⟨p, hthere, rfl⟩
    · exact (popup_answer h).symm.imp id fun hthere => ⟨p, hthere, rfl⟩
    · exact (popup_answer h).symm.imp id fun hthere => ⟨p, hthere, rfl⟩
    · exact .inr ⟨p, h, rfl⟩
  | failed env i error =>
    rw [InvoiceScreen.next] at h
    split at h
    · exact (popup_answer h).symm.imp id fun hthere => ⟨p, hthere, rfl⟩
    · exact .inr ⟨p, h, rfl⟩
  | followUp env i r =>
    rw [InvoiceScreen.next] at h
    split at h
    · exact (popup_answer h).symm.imp id fun hthere => ⟨p, hthere, rfl⟩
    · exact .inr ⟨p, h, rfl⟩
  | result env r => exact (popup_result h).symm.imp id fun hthere => ⟨p, hthere, rfl⟩
  | notification env n => exact (popup_notification h).symm.imp id fun hthere => ⟨p, hthere, rfl⟩
  | background app => exact .inr ⟨p, h, rfl⟩
  | screen app => cases h

/-! ## The log -/

/-- What an event does to the log and the running tasks: nothing but that tasks end, or it starts one
of those that are `asked` for. -/
inductive Logs (asked : InvoiceRequest → Prop) (s s' : InvoiceScreen) : Prop
  | none (hsent : s'.sent = s.sent) (hrunning : ∀ q ∈ s'.running, q ∈ s.running)
  | one {q : InvoiceRequest} (hasked : asked q) (hsent : s'.sent = s.sent ++ [q])
      (hrunning : s'.running = s.running ++ [q])

theorem Logs.same {asked : InvoiceRequest → Prop} {s s' : InvoiceScreen} (hsent : s'.sent = s.sent)
    (hrunning : s'.running = s.running) : Logs asked s s' :=
  .none hsent fun _ hq => hrunning ▸ hq

theorem logs_after {asked : InvoiceRequest → Prop} (s : InvoiceScreen) (taken : Bool)
    (app : Option AppState) : Logs asked s (s.after taken app) := by
  cases app <;> exact .same rfl rfl

theorem logs_answer {asked : InvoiceRequest → Prop} (s : InvoiceScreen) (env : UiEnv) (i : Nat)
    (r : OperationResult) : Logs asked s (s.answer env i r) := by
  refine .none ?_ fun q hq => ?_
  · unfold InvoiceScreen.answer InvoiceScreen.result InvoiceScreen.after
    split <;> rfl
  · have hrunning : (s.answer env i r).running = s.running.eraseIdx i := by
      unfold InvoiceScreen.answer InvoiceScreen.result InvoiceScreen.after
      split <;> rfl
    rw [hrunning] at hq
    exact List.mem_of_mem_eraseIdx hq

theorem logs_submitAddInvoice {asked : InvoiceRequest → Prop} {orderId : Uuid} {invoice : String}
    {remember : Option Uuid}
    (hasked : isBlank invoice = false → asked (.addInvoice orderId invoice remember)) :
    Logs asked s (submitAddInvoice s orderId invoice remember) := by
  unfold submitAddInvoice
  split
  · exact .same rfl rfl
  · next hblank => exact .one (hasked (by simpa using hblank)) rfl rfl

theorem logs_submitAddBondInvoice {asked : InvoiceRequest → Prop} {orderId : Uuid}
    {invoice : String} (hasked : isBlank invoice = false → asked (.addBondInvoice orderId invoice)) :
    Logs asked s (submitAddBondInvoice s orderId invoice) := by
  unfold submitAddBondInvoice
  split
  · exact .same rfl rfl
  · next hblank => exact .one (hasked (by simpa using hblank)) rfl rfl

/-- An Enter that is still to be handled found the input as it is, and not just pasted. -/
theorem keyOnInput_enter {action : Action} {input input' : InvoiceInput}
    (h : keyOnInput action .enter input = (input', true)) :
    input' = input ∧
      (takesInvoice action = true → input.focused = true → input.justPasted = false) := by
  unfold keyOnInput editInvoice handleInvoiceInput handleTextInput updateActionSelection at h
  by_cases htakes : takesInvoice action = true
  · by_cases hfocused : input.focused = true
    · by_cases hpasted : input.justPasted = true
      · simp [htakes, hfocused, hpasted] at h
      · simp [htakes, hfocused, hpasted] at h
        exact ⟨h.symm, fun _ _ => by simpa using hpasted⟩
    · simp [htakes, hfocused] at h
      exact ⟨h.symm, fun _ hfocus => absurd hfocus hfocused⟩
  · simp [htakes] at h
    exact ⟨h.symm, fun htake => absurd htake htakes⟩

/-- Enter on a popup that takes or shows an invoice. -/
theorem logs_handleEnterMessageNotification {env : InvoiceKeyEnv} {n : MessageNotification}
    {action : Action} {input : InvoiceInput}
    (hpasted : takesInvoice action = true → input.focused = true → input.justPasted = false) :
    Logs (Submits env (.newMessageNotification n action input)) s
      (handleEnterMessageNotification s action input n.orderId) := by
  unfold handleEnterMessageNotification
  split
  · exact .same rfl rfl
  · split
    · next hcancel =>
      cases hid : n.orderId with
      | none => exact .same rfl rfl
      | some orderId => exact .one (.cancel hid hcancel) rfl rfl
    · next hcancel =>
      have hprimary : input.actionSelection = .primary := by
        cases hselected : input.actionSelection with
        | primary => rfl
        | cancel => exact absurd hselected hcancel
      cases hid : n.orderId with
      | none => cases action <;> exact .same rfl rfl
      | some orderId =>
        cases action with
        | addInvoice =>
          exact logs_submitAddInvoice fun htext => .invoice hid hprimary htext (hpasted rfl)
        | addBondInvoice =>
          exact logs_submitAddBondInvoice fun htext => .bondInvoice hid hprimary htext (hpasted rfl)
        | _ => exact .same rfl rfl

/-- Enter on the question. -/
theorem logs_handleEnterConfirmSaved {env : InvoiceKeyEnv} {n : MessageNotification}
    {selectedButton : Bool} :
    Logs (Submits env (.confirmSavedLnAddressForInvoice n selectedButton)) s
      (handleEnterConfirmSaved s env.settings n selectedButton) := by
  unfold handleEnterConfirmSaved
  split
  · next hyes =>
    subst hyes
    cases hid : n.orderId with
    | none => exact .same rfl rfl
    | some orderId =>
      dsimp only
      split
      · exact .same rfl rfl
      · next addr hsettings =>
        split
        · exact .same rfl rfl
        · next htext => exact logs_submitAddInvoice fun _ => .saved hid hsettings htext
  · exact .same rfl rfl

theorem logs_handleEscInvoice {asked : InvoiceRequest → Prop} (s : InvoiceScreen) :
    Logs asked s (handleEscInvoice s) := by
  unfold handleEscInvoice
  split <;> exact .same rfl rfl

theorem logs_handleEnterMessages {asked : InvoiceRequest → Prop} (s : InvoiceScreen)
    (env : InvoiceKeyEnv) : Logs asked s (handleEnterMessages s env) := by
  unfold handleEnterMessages
  split
  · dsimp only
    split <;> exact .same rfl rfl
  · exact .same rfl rfl

/-- What an event asks for: Enter on the popup that is on screen. -/
def AskedBy (s : InvoiceScreen) (event : InvoiceEvent) (q : InvoiceRequest) : Prop :=
  ∃ env p, event = .key env .enter ∧ s.popup = some p ∧ Submits env p q

theorem Logs.mono {asked asked' : InvoiceRequest → Prop} {s' : InvoiceScreen}
    (h : Logs asked s s') (hasked : ∀ q, asked q → asked' q) : Logs asked' s s' := by
  cases h with
  | none hsent hrunning => exact .none hsent hrunning
  | one hq hsent hrunning => exact .one (hasked _ hq) hsent hrunning

/-- A key starts a task only as Enter on a popup. -/
theorem logs_handleInvoiceKey (env : InvoiceKeyEnv) (k : InvoiceKey) :
    Logs (AskedBy s (.key env k)) s (handleInvoiceKey s env k) := by
  unfold handleInvoiceKey
  split
  · split
    · exact logs_handleEnterMessages s env
    · exact .same rfl rfl
  · next n action input hthere =>
    dsimp only
    split
    · next hpending =>
      split
      · next hk =>
        subst hk
        have hkept := keyOnInput_enter (Prod.ext rfl hpending)
        have hinput : (keyOnInput action .enter input).1 = input := hkept.1
        show Logs _ s (handleEnterMessageNotification s action _ n.orderId)
        rw [hinput]
        have hlogs : Logs (Submits env (.newMessageNotification n action input)) s
            (handleEnterMessageNotification s action input n.orderId) :=
          logs_handleEnterMessageNotification hkept.2
        exact hlogs.mono fun q hq => ⟨env, _, rfl, hthere, hq⟩
      · exact logs_handleEscInvoice s
    · exact .same rfl rfl
  · next n selectedButton hthere =>
    split
    · exact .same rfl rfl
    · exact .same rfl rfl
    · exact logs_handleEnterConfirmSaved.mono fun q hq => ⟨env, _, rfl, hthere, hq⟩
    · exact logs_handleEscInvoice s
    · exact .same rfl rfl

/-- One event and the log. -/
theorem logs_next (s : InvoiceScreen) (event : InvoiceEvent) :
    Logs (AskedBy s event) s (s.next event) := by
  cases event with
  | key env k => exact logs_handleInvoiceKey env k
  | paste text =>
    rw [InvoiceScreen.next]
    split <;> exact .same rfl rfl
  | submitted env i =>
    rw [InvoiceScreen.next]
    split
    · exact logs_answer ..
    · exact logs_answer ..
    · exact logs_answer ..
    · exact .same rfl rfl
  | failed env i error =>
    rw [InvoiceScreen.next]
    split
    · exact logs_answer ..
    · exact .same rfl rfl
  | followUp env i r =>
    rw [InvoiceScreen.next]
    split
    · exact logs_answer ..
    · exact .same rfl rfl
  | result env r => exact logs_after ..
  | notification env n => exact logs_after ..
  | background app => exact .same rfl rfl
  | screen app => exact .same rfl rfl

/-! ## The preferences -/

/-- The saved address of the settings is used for an order without asking. -/
def Prefers (s : InvoiceScreen) (orderId : Uuid) : Prop :=
  s.app.buyerInvoicePreference orderId = some .useSavedLnAddress

instance (s : InvoiceScreen) (orderId : Uuid) : Decidable (Prefers s orderId) :=
  inferInstanceAs (Decidable (_ = _))

theorem prefers_result {env : UiEnv} {r : OperationResult} {orderId : Uuid}
    (h : Prefers (s.result env r) orderId) :
    Prefers s orderId ∨ ∃ message, r = .invoiceSubmitted message (some orderId) := by
  unfold Prefers InvoiceScreen.result InvoiceScreen.after at h
  split at h
  · exact .inl h
  · next app' happ =>
    rw [(resultSpec happ).preference] at h
    have hbefore := prefers_of_bookkeeping h
    rwa [preference_screen] at hbefore

theorem prefers_answer {env : UiEnv} {i : Nat} {r : OperationResult} {orderId : Uuid}
    (h : Prefers (s.answer env i r) orderId) :
    Prefers s orderId ∨ ∃ message, r = .invoiceSubmitted message (some orderId) :=
  prefers_result (s := { s with running := s.running.eraseIdx i }) h

theorem prefers_submitAddInvoice {id : Uuid} {invoice : String} {remember : Option Uuid}
    {orderId : Uuid} (h : Prefers (submitAddInvoice s id invoice remember) orderId) :
    Prefers s orderId := by
  unfold submitAddInvoice at h
  split at h
  · exact h
  · exact h

theorem prefers_submitAddBondInvoice {id : Uuid} {invoice : String} {orderId : Uuid}
    (h : Prefers (submitAddBondInvoice s id invoice) orderId) : Prefers s orderId := by
  unfold submitAddBondInvoice at h
  split at h
  · exact h
  · exact h

/-- A cancel forgets the preference of its order, and no other. -/
theorem prefers_cancelFromNotification {id : Option Uuid} {orderId : Uuid}
    (h : Prefers (cancelFromNotification s id) orderId) : Prefers s orderId ∧ id ≠ some orderId := by
  cases id with
  | none => exact ⟨h, nofun⟩
  | some id =>
    have herased : s.app.buyerInvoicePreference.erase id orderId = some .useSavedLnAddress := h
    by_cases hid : orderId = id
    · rw [hid, Table.erase_self] at herased
      cases herased
    · rw [Table.erase_of_ne hid] at herased
      exact ⟨herased, fun heq => hid (Option.some.inj heq).symm⟩

theorem prefers_handleEnterMessageNotification {action : Action} {input : InvoiceInput}
    {id : Option Uuid} {orderId : Uuid}
    (h : Prefers (handleEnterMessageNotification s action input id) orderId) :
    Prefers s orderId := by
  unfold handleEnterMessageNotification at h
  split at h
  · exact h
  · split at h
    · exact (prefers_cancelFromNotification h).1
    · split at h
      · exact prefers_submitAddInvoice h
      · exact prefers_submitAddBondInvoice h
      · exact h

/-- To type an invoice is remembered too. -/
theorem prefers_handleEnterConfirmSaved {settings : SavedSettings} {n : MessageNotification}
    {selectedButton : Bool} {orderId : Uuid}
    (h : Prefers (handleEnterConfirmSaved s settings n selectedButton) orderId) :
    Prefers s orderId := by
  unfold handleEnterConfirmSaved at h
  split at h
  · split at h
    · exact h
    · split at h
      · exact h
      · split at h
        · exact h
        · exact prefers_submitAddInvoice h
  · cases hid : n.orderId with
    | none =>
      simp only [applyManualInvoiceChoice, hid] at h
      exact h
    | some id =>
      simp only [applyManualInvoiceChoice, hid] at h
      have hput : s.app.buyerInvoicePreference.put id .manualInvoice orderId =
          some .useSavedLnAddress := h
      by_cases heq : orderId = id
      · rw [heq, Table.put_self] at hput
        cases hput
      · rwa [Table.put_of_ne heq] at hput

theorem prefers_handleEscInvoice {orderId : Uuid} (h : Prefers (handleEscInvoice s) orderId) :
    Prefers s orderId := by
  unfold handleEscInvoice at h
  split at h
  · exact h
  · exact h

theorem prefers_handleEnterMessages {env : InvoiceKeyEnv} {orderId : Uuid}
    (h : Prefers (handleEnterMessages s env) orderId) : Prefers s orderId := by
  unfold handleEnterMessages at h
  split at h
  · dsimp only at h
    split at h
    · exact h
    · exact h
  · exact h

/-- No key makes the saved address preferred. -/
theorem prefers_handleInvoiceKey {env : InvoiceKeyEnv} {k : InvoiceKey} {orderId : Uuid}
    (h : Prefers (handleInvoiceKey s env k) orderId) : Prefers s orderId := by
  unfold handleInvoiceKey at h
  split at h
  · split at h
    · exact prefers_handleEnterMessages h
    · exact h
  · dsimp only at h
    split at h
    · split at h
      · exact prefers_handleEnterMessageNotification h
      · exact prefers_handleEscInvoice h
    · exact h
  · split at h
    · exact h
    · exact h
    · exact prefers_handleEnterConfirmSaved h
    · exact prefers_handleEscInvoice h
    · exact h

/-- Mostro takes an invoice that was sent to be remembered for the order. -/
def TakesRemembered (orderId : Uuid) (s : InvoiceScreen) (event : InvoiceEvent) : Prop :=
  ∃ env i id invoice, event = .submitted env i ∧
    s.running[i]? = some (.addInvoice id invoice (some orderId))

/-- One event and a preference: it was there before, or Mostro has taken an invoice that the user's
YES sent. -/
theorem prefers_next {orderId : Uuid} (h : Prefers (s.next event) orderId) :
    Prefers s orderId ∨ TakesRemembered orderId s event := by
  cases event with
  | key env k => exact .inl (prefers_handleInvoiceKey h)
  | paste text =>
    rw [InvoiceScreen.next] at h
    split at h
    · exact .inl h
    · exact .inl h
  | submitted env i =>
    rw [InvoiceScreen.next] at h
    split at h
    · next id invoice remember hrunning =>
      rcases prefers_answer h with hbefore | ⟨message, hresult⟩
      · exact .inl hbefore
      · cases hresult
        exact .inr ⟨env, i, id, invoice, rfl, hrunning⟩
    · refine .inl ((prefers_answer h).resolve_right ?_)
      rintro ⟨message, hr⟩
      exact nomatch (OperationResult.invoiceSubmitted.inj hr).2
    · exact .inl ((prefers_answer h).resolve_right nofun)
    · exact .inl h
  | failed env i error =>
    rw [InvoiceScreen.next] at h
    split at h
    · exact .inl ((prefers_answer h).resolve_right nofun)
    · exact .inl h
  | followUp env i r =>
    rw [InvoiceScreen.next] at h
    split at h
    · refine .inl ((prefers_answer h).resolve_right ?_)
      rintro ⟨message, hr⟩
      exact r.2 message orderId hr
    · exact .inl h
  | result env r =>
    refine .inl ((prefers_result h).resolve_right ?_)
    rintro ⟨message, hr⟩
    exact r.2 message orderId hr
  | notification env n =>
    unfold Prefers at h
    unfold InvoiceScreen.next InvoiceScreen.notification InvoiceScreen.after at h
    dsimp only at h
    split at h
    · exact .inl h
    · next app' happ =>
      dsimp only at h
      rw [(handleMessageNotification_spec happ).1, preference_screen] at h
      exact .inl h
  | background app => exact .inl h
  | screen app => exact .inl h

end step

/-! ## Runs -/

/-- A run from a start, where no preference is set. -/
def invoiceRun (app : AppState) (events : List InvoiceEvent) : InvoiceScreen :=
  events.foldl InvoiceScreen.next
    { app := { app with buyerInvoicePreference := Table.empty } }

/-- The log is sound: what runs was sent, and an invoice is remembered for its own order. -/
structure LogOk (s : InvoiceScreen) : Prop where
  running : ∀ q ∈ s.running, q ∈ s.sent
  remember : ∀ id invoice orderId, .addInvoice id invoice (some orderId) ∈ s.sent → id = orderId

theorem logOk_next (s : InvoiceScreen) (event : InvoiceEvent) (h : LogOk s) :
    LogOk (s.next event) := by
  cases logs_next s event with
  | none hsent hrunning =>
    refine ⟨fun q hq => ?_, fun id invoice orderId hq => ?_⟩
    · rw [hsent]
      exact h.running q (hrunning q hq)
    · rw [hsent] at hq
      exact h.remember id invoice orderId hq
  | one hasked hsent hrunning =>
    refine ⟨fun q hq => ?_, fun id invoice orderId hq => ?_⟩
    · rw [hrunning, List.mem_append] at hq
      rw [hsent, List.mem_append]
      exact hq.imp_left (h.running q)
    · rw [hsent, List.mem_append, List.mem_singleton] at hq
      rcases hq with hold | hnew
      · exact h.remember id invoice orderId hold
      · obtain ⟨env, p, -, -, hsubmits⟩ := hasked
        rw [← hnew] at hsubmits
        cases hsubmits
        rfl

/-- Mostro has taken the saved address for an order, sent on the user's YES, and since then the order
was not cancelled from a popup, closed or deleted, nor has the user chosen to type an invoice: the
preference is there all the time. -/
def Approved (app : AppState) (before : List InvoiceEvent) (orderId : Uuid) : Prop :=
  ∃ asked env i since invoice, before = asked ++ .submitted env i :: since ∧
    .addInvoice orderId invoice (some orderId) ∈ (invoiceRun app asked).sent ∧
    ∀ ms ns, since = ms ++ ns → Prefers (invoiceRun app (asked ++ .submitted env i :: ms)) orderId

theorem logOk_invoiceRun (app : AppState) (events : List InvoiceEvent) :
    LogOk (invoiceRun app events) :=
  Run.invariant logOk_next events ⟨nofun, nofun⟩

/-- A preference has been approved. -/
theorem approved_of_prefers {app : AppState} {before : List InvoiceEvent} {orderId : Uuid}
    (h : Prefers (invoiceRun app before) orderId) : Approved app before orderId := by
  let preferred : InvoiceScreen → Option Unit := fun s => if Prefers s orderId then some () else none
  have hpreferred : ∀ {s}, preferred s = some () ↔ Prefers s orderId := by
    intro s
    simp [preferred]
  have hnext : ∀ (s : InvoiceScreen) (event : InvoiceEvent) (p : Unit),
      preferred (s.next event) = some p → TakesRemembered orderId s event ∨
        ∃ q, preferred s = some q ∧ p = (fun _ _ => ()) q event := by
    intro s event p hp
    rcases prefers_next (hpreferred.1 hp) with hbefore | htakes
    · exact .inr ⟨(), hpreferred.2 hbefore, rfl⟩
    · exact .inl htakes
  obtain ⟨asked, event, since, start, rfl, htakes, -, hstays⟩ :=
    Run.opened_edits hnext (by rfl) before (hpreferred.2 h)
  obtain ⟨env, i, id, invoice, rfl, hrunning⟩ := htakes
  have hok := logOk_invoiceRun app asked
  have hsent := hok.running _ (List.mem_of_getElem? hrunning)
  obtain rfl := hok.remember id invoice orderId hsent
  exact ⟨asked, env, i, since, invoice, rfl, hsent, fun ms ns hns => hpreferred.1 (hstays ms ns hns)⟩

/-- A popup as the run brings it up: with the saved address only for an order that was approved. -/
def BroughtUp (app : AppState) (before : List InvoiceEvent) (opening : InvoiceEvent)
    (p : InvoicePopup) : Prop :=
  OpensPopup (invoiceRun app before) opening p ∧
    ∀ n action input, p = .newMessageNotification n action input → input.invoiceInput ≠ "" →
      ∃ orderId, n.orderId = some orderId ∧ lnAddressAt opening = some input.invoiceInput ∧
        Approved app before orderId

theorem broughtUp_of_opensPopup {app : AppState} {before : List InvoiceEvent} {opening : InvoiceEvent}
    {p : InvoicePopup} (h : OpensPopup (invoiceRun app before) opening p) :
    BroughtUp app before opening p := by
  refine ⟨h, fun n action input hp htext => ?_⟩
  cases h.1 with
  | blank =>
    cases hp
    exact absurd rfl htext
  | saved haddr hid hsaved =>
    cases hp
    exact ⟨_, hid, haddr, approved_of_prefers hsaved⟩
  | confirm => cases hp

@[simp] theorem orderId_edited (p : InvoicePopup) (event : InvoiceEvent) :
    (p.edited event).orderId = p.orderId := by
  cases event with
  | key env k => cases p <;> rfl
  | paste text =>
    cases p with
    | newMessageNotification n action input => cases action <;> rfl
    | confirmSavedLnAddressForInvoice n selectedButton => rfl
  | _ => rfl

theorem orderId_foldl_edited (p : InvoicePopup) (events : List InvoiceEvent) :
    (events.foldl InvoicePopup.edited p).orderId = p.orderId :=
  Run.invariant (I := fun q : InvoicePopup => q.orderId = p.orderId)
    (fun q event h => (orderId_edited q event).trans h) events rfl

/-- The Messages list of a maker whose buy order waits for an invoice. -/
def buyerApp : AppState where
  activeTab := .messages
  messages := [{
    message := { action := .addInvoice }
    timestamp := 0
    sender := "mostro"
    orderId := some 7
    tradeIndex := 1
    orderKind := some .buy
    isMine := some true }]

/-- The settings with an address. -/
def savedSettings : InvoiceKeyEnv := { settings := .ok "me@ln.tips" }

/-- The user says YES to the saved address, Mostro takes it, and the message is opened again; the
address is filled in, and Enter sends it. -/
def savedTwice : List InvoiceEvent :=
  [.notification { lnAddress := some "me@ln.tips" }
      (orderMessageToNotification (buyerApp.messages.headD default)),
    .key savedSettings .enter, .submitted {} 0, .screen buyerApp, .key savedSettings .enter,
    .key savedSettings .enter]

end Mostrix.Ui
