import Mostrix.Ui.OperationResult

/-!
# The draft of a new order

Enter on the confirmation of a new order keeps the form as the draft, shows the waiting screen and
sends the order in a task of its own; when the task's result arrives the draft should be dropped or
kept. Which result is the task's is told by the screen alone: a `Success` or a payment request that
arrives on the waiting screen is taken for the order's, and the order's own is not recognised once
something else has replaced that screen. Drawing the form's tab takes the draft out of its slot.

`UiEvent` is what can happen meanwhile. `draft_follows_iff` says when the draft is right in the end:
for an order that failed, when no event has cleared the draft; for one that was published, when an
event has, or the UI is still on the waiting screen.
-/

namespace Mostrix.Ui

/-! ## Events -/

/-- What the other channels of the main loop put on the screen. -/
inductive Popup
  /-- the mnemonic of a key rotation, or of the seed words -/
  | backupNewKeys (mnemonic : String) (requiresRestart : Bool)
  /-- the result of a runtime reload or of a fetch of the instance's info -/
  | shown (result : OperationResult)
  /-- a fatal error -/
  | fatal (message : String)

/-- What a popup replaces. -/
def Popup.open (app : AppState) : Popup → AppState
  | .backupNewKeys mnemonic requiresRestart =>
    { app with backupRequiresRestart := requiresRestart, mode := .backupNewKeys mnemonic }
  | .shown result => app.setMode (.operationResult result)
  | .fatal message =>
    { app with fatalExitOnClose := true, mode := .operationResult (.error message) }

/-- The pending result takes the place of an invoice popup that is dismissed. -/
def AppState.dismissPopup (app : AppState) : AppState :=
  match app.pendingPostTakeOperationResult with
  | some r => { app with pendingPostTakeOperationResult := none, mode := .operationResult r }
  | none => app.setMode (.defaultForRole app.userRole)

/-- The tab a closed result leaves the user on. -/
def tabAfterResult (app : AppState) : Tab :=
  match app.activeTab with
  | .adminSettings | .userSettings | .observer | .messages => app.activeTab
  | _ => Tab.first app.userRole

/-- `handle_esc_key`; `none` where it exits. -/
def handleEscKey (app : AppState) : Option AppState :=
  let default := UiMode.defaultForRole app.userRole
  match app.mode with
  | .userMode (.creatingOrder _) => some { app with orderFormDraft := none, mode := default }
  | .userMode (.confirmingOrder form _) => some (app.setMode (.userMode (.creatingOrder form)))
  | .userMode (.takingOrder _) => some (app.setMode default)
  | .operationResult _ =>
    if app.fatalExitOnClose then none
    else if app.activeTab = .disputesInProgress then
      some (app.setMode (.adminMode .managingDispute))
    else some { app with activeTab := tabAfterResult app, mode := default }
  | .newMessageNotification .. | .confirmSavedLnAddressForInvoice .. => some app.dismissPopup
  | .backupNewKeys _ =>
    if app.backupRequiresRestart then
      some { app with
        pendingKeyReload := true
        mode := .operationResult (.info "Reloading keys and resetting active session...") }
    else some (app.setMode default)
  | _ => some app

/-- The form's tab is drawn with nothing on top. -/
def AppState.restsOnForm (app : AppState) : Bool :=
  app.userRole = .user ∧ app.activeTab = .createNewOrder ∧ app.mode = .userMode .normal

/-- `ui_draw`, what it does to the state: a form is opened, from the draft if there is one. -/
def uiDraw (app : AppState) : AppState :=
  if app.restsOnForm then
    { app with
      orderFormDraft := none
      mode := .userMode (.creatingOrder (app.orderFormDraft.getD FormState.newDefaultForm)) }
  else app

/-- What can happen between a submission and its result. -/
inductive UiEvent
  /-- the result of some other task -/
  | result (r : OperationResult)
  | notification (n : MessageNotification)
  | popup (p : Popup)
  /-- the user closes what is on screen -/
  | esc
  | draw

/-- One event, with what handling it reads from outside; `none` where the UI panics or exits. -/
def uiNext (app : AppState) (e : UiEnv × UiEvent) : Option AppState :=
  match e.2 with
  | .result r => applyOrderResult e.1 app r
  | .notification n => handleMessageNotification e.1 app n
  | .popup p => some (p.open app)
  | .esc => handleEscKey app
  | .draw => some (uiDraw app)

/-- A run of events. -/
def uiRun (app : AppState) (events : List (UiEnv × UiEvent)) : Option AppState :=
  events.foldlM uiNext app

/-- Enter on the confirmation, with Yes. -/
def confirmOrder (app : AppState) (form : FormState) : AppState :=
  { app with orderFormDraft := some form, mode := .userMode (.waitingForMostro form) }

/-- The results `spawn_send_new_order_task` sends, by what became of the order. -/
inductive Submission : OperationResult → (published : Bool) → Prop
  | success (os : OrderSuccess) : Submission (.success os) true
  | paymentRequestRequired (order : SmallOrder) (invoice : String) (satAmount : Option Int)
      (tradeIndex : Int) (header : OrderChatStaticHeader) (action : Action) :
      Submission (.paymentRequestRequired order invoice satAmount tradeIndex header action) true
  | error (message : String) : Submission (.error message) false

/-! ## What clears the draft -/

/-- The UI waits for the result of a new order. -/
def UiMode.waitsForOrder : UiMode → Bool
  | .userMode (.waitingForMostro _) => true
  | _ => false

theorem UiMode.waitsForOrder_iff {mode : UiMode} :
    mode.waitsForOrder = true ↔ ∃ form, mode = .userMode (.waitingForMostro form) := by
  unfold waitsForOrder
  split
  · next form => exact iff_of_true rfl ⟨form, rfl⟩
  · next h => exact iff_of_false nofun fun ⟨form, hform⟩ => h form hform

/-- A result that clears the draft of a form it finds waiting: a payment request, and a success
whose order can be tracked. -/
def ClearsForm (app : AppState) : OperationResult → Prop
  | .success os => ¬ app.TrackingFails os.orderId os.tradeIndex
  | .paymentRequestRequired .. => True
  | _ => False

/-- An event that clears the draft: such a result on the waiting screen, and the form's tab being
drawn with nothing on top, which moves the draft into the form. -/
def ClearsDraft (app : AppState) : UiEvent → Prop
  | .result r => app.mode.waitsForOrder = true ∧ ClearsForm app r
  | .draw => app.restsOnForm = true
  | _ => False

/-- Some event of the run clears the draft. -/
def ClearedIn (app : AppState) : List (UiEnv × UiEvent) → Prop
  | [] => False
  | e :: events => ClearsDraft app e.2 ∨ ∃ app', uiNext app e = some app' ∧ ClearedIn app' events

/-- The draft is dropped if the order was published, and is the submitted form if not. -/
def DraftFollows (form : FormState) (published : Bool) (app : AppState) : Prop :=
  app.orderFormDraft = if published then none else some form

/-! ## Results and the draft -/

section
variable {env : UiEnv} {app app' : AppState} {form : FormState}

/-- The screens on which no order is waited for and no form is filled in. -/
def UiMode.offForm : UiMode → Bool
  | .userMode (.waitingForMostro _) | .userMode (.creatingOrder _)
  | .userMode (.confirmingOrder ..) => false
  | _ => true

theorem UiMode.offForm_of_invoicePopup {mode : UiMode} (h : mode.invoicePopup = true) :
    mode.offForm = true := by
  cases mode with
  | userMode | adminMode => cases h
  | newMessageNotification | confirmSavedLnAddressForInvoice | normal | operationResult
  | backupNewKeys | other => rfl

theorem UiMode.waitsForOrder_of_offForm {mode : UiMode} (h : mode.offForm = true) :
    mode.waitsForOrder = false := by
  unfold waitsForOrder
  split
  · cases h
  · rfl

/-- A shown result takes the screen off the form, or leaves it to an invoice popup. -/
theorem showResult_offForm (r : OperationResult) : (showResult app r).mode.offForm = true := by
  unfold showResult
  dsimp only
  split
  · split <;> rfl
  · next h =>
    split
    · show app.mode.offForm = true
      rw [h]
      rfl
    · rfl
  · next h =>
    show app.mode.offForm = true
    rw [h]
    rfl
  · rfl

/-- Away from the waiting screen it leaves the draft alone. -/
theorem showResult_draft_of_off (r : OperationResult) (h : app.mode.waitsForOrder = false) :
    (showResult app r).orderFormDraft = app.orderFormDraft := by
  unfold showResult
  dsimp only
  split
  · next hm => rw [hm] at h; cases h
  · split <;> rfl
  · rfl
  · rfl

/-- On the waiting screen a success clears the draft. -/
theorem showResult_success_draft (os : OrderSuccess) (h : app.mode.waitsForOrder = true) :
    (showResult app (.success os)).orderFormDraft = none := by
  unfold showResult
  dsimp only
  split
  · rfl
  · next hm => rw [hm] at h; cases h
  · next hm => rw [hm] at h; cases h
  · next hm _ _ =>
    obtain ⟨form, hform⟩ := UiMode.waitsForOrder_iff.1 h
    exact absurd hform (hm form)

/-- Any other result keeps the form that waits. -/
theorem showResult_draft_of_waits (r : OperationResult)
    (hm : app.mode = .userMode (.waitingForMostro form)) (hd : app.orderFormDraft = some form)
    (hr : ∀ os, r ≠ .success os) : (showResult app r).orderFormDraft = some form := by
  unfold showResult
  simp only [hm]
  split
  · next os => exact absurd rfl (hr os)
  · rfl
  · exact hd

/-- A payment request is shown, and the draft of a form that waits is dropped. -/
theorem showPaymentRequest_spec (env : UiEnv) (app : AppState) (order : SmallOrder)
    (invoice : String) (satAmount : Option Int) (tradeIndex : Int) (action : Action) :
    let shown := showPaymentRequest env app order invoice satAmount tradeIndex action
    shown.mode.offForm = true ∧
      shown.orderFormDraft = if app.mode.waitsForOrder then none else app.orderFormDraft := by
  have hdrop : app.dropWaitingDraft.orderFormDraft =
      if app.mode.waitsForOrder then none else app.orderFormDraft := by
    unfold AppState.dropWaitingDraft
    split
    · next form h => rw [if_pos (UiMode.waitsForOrder_iff.2 ⟨form, h⟩)]
    · next h =>
      rw [if_neg fun hw => ?_]
      obtain ⟨form, hform⟩ := UiMode.waitsForOrder_iff.1 hw
      exact h form hform
  intro shown
  rcases tracking_cases app.dropWaitingDraft order.id (some tradeIndex) fun app =>
    app.setMode (.newMessageNotification
      (paymentRequestNotification env order invoice satAmount action) action ⟨"", false⟩) with
    ⟨-, h⟩ | ⟨-, app', hscreen, h⟩
  · have hshown : shown = app.dropWaitingDraft.fatalIndices := h
    rw [hshown]
    exact ⟨rfl, hdrop⟩
  · have hshown : shown = app'.setMode _ := h
    rw [hshown]
    exact ⟨rfl, hscreen.draft.trans hdrop⟩

/-- What handling a result comes to: it is shown, as a success only if it clears a waiting form; or
it is a payment request; or it replaces at most the screen. -/
theorem applyOrderResult_cases (env : UiEnv) (app : AppState) (r : OperationResult) :
    (∃ app' r', SameScreen app app' ∧ applyOrderResult env app r = some (showResult app' r') ∧
        (ClearsForm app r ↔ ∃ os, r' = .success os)) ∨
      (∃ app', ClearsForm app r ∧ applyOrderResult env app r = some app' ∧
        app'.mode.offForm = true ∧
        app'.orderFormDraft = if app.mode.waitsForOrder then none else app.orderFormDraft) ∨
      ∃ app', ¬ ClearsForm app r ∧ applyOrderResult env app r = some app' ∧
        app'.orderFormDraft = app.orderFormDraft ∧
        (app'.mode = app.mode ∨ app'.mode.offForm = true) := by
  have hbook := bookkeeping_sameScreen env app r
  have hshown : ∀ r' : OperationResult, ¬ ClearsForm app r → (∀ os, r' ≠ .success os) →
      (ClearsForm app r ↔ ∃ os, r' = .success os) := by
    intro r' hr hr'
    exact iff_of_false hr fun ⟨os, h⟩ => hr' os h
  cases r with
  | success os =>
    have hindices : (bookkeeping env app (.success os)).TrackingFails os.orderId os.tradeIndex ↔
        app.TrackingFails os.orderId os.tradeIndex := by
      unfold AppState.TrackingFails
      rw [hbook.indices]
    rcases tracking_cases (bookkeeping env app (.success os)) os.orderId os.tradeIndex
      fun app => showResult app (.success os) with ⟨hfails, h⟩ | ⟨hok, app', hscreen, h⟩
    · refine .inr (.inr ⟨_, fun hc => hc (hindices.1 hfails), congrArg some h, hbook.draft,
        .inr rfl⟩)
    · refine .inl ⟨app', .success os, hbook.trans hscreen, congrArg some h, ?_⟩
      exact iff_of_true (fun hfails => hok (hindices.2 hfails)) ⟨os, rfl⟩
  | paymentRequestRequired order invoice satAmount tradeIndex header action =>
    have hdraft := showPaymentRequest_spec env (bookkeeping env app
      (.paymentRequestRequired order invoice satAmount tradeIndex header action)) order invoice
      satAmount tradeIndex action
    rw [hbook.mode, hbook.draft] at hdraft
    exact .inr (.inl ⟨_, trivial, rfl, hdraft⟩)
  | openInvoicePopup n orderMessage =>
    cases hgate :
        invoicePopupAllowedForOrderStatus (gateAction n.action) orderMessage.orderStatus with
    | true =>
      obtain ⟨mode, hpopup, heq⟩ := applyOpenInvoicePopupFromExecute_of_allowed env app hgate
      exact .inr (.inr ⟨_, id, heq, (app.editMessages_sameScreen _).draft,
        .inr (UiMode.offForm_of_invoicePopup hpopup)⟩)
    | false =>
      have hscreen := app.editMessages_sameScreen (.remember orderMessage)
      exact .inr (.inr ⟨_, id, applyOpenInvoicePopupFromExecute_of_refused env app hgate,
        hscreen.draft, .inl hscreen.mode⟩)
  | observerChatLoaded generation messages =>
    refine .inr (.inr ⟨_, id, rfl, ?_⟩)
    unfold observerLoaded
    split <;> exact ⟨rfl, .inl rfl⟩
  | observerChatError generation message =>
    refine .inr (.inr ⟨_, id, rfl, ?_⟩)
    unfold observerFailed
    split
    · exact ⟨rfl, .inl rfl⟩
    · exact ⟨rfl, .inr rfl⟩
  | myTradesMakerBookChanged => exact .inr (.inr ⟨_, id, rfl, rfl, .inl rfl⟩)
  | info | error | invoiceSubmitted | tradeClosed | orderHistoryDeleted | orderChatAttachmentSent
  | orderChatAttachmentError | orderChatAttachmentSendFailed | conversationDisclosure =>
    exact .inl ⟨_, _, hbook, rfl, hshown _ id (by simp [normalize])⟩

/-! ## Where the form and its draft are -/

/-- The form waits for its result. -/
def Waits (form : FormState) (app : AppState) : Prop :=
  app.mode = .userMode (.waitingForMostro form) ∧ app.orderFormDraft = some form

/-- Something has replaced the waiting screen, and the draft is still there. -/
def Kept (form : FormState) (app : AppState) : Prop :=
  app.mode.offForm = true ∧ app.orderFormDraft = some form

/-- The draft is gone, and so is the waiting screen. -/
def Dropped (app : AppState) : Prop :=
  (app.mode.offForm = true ∨ ∃ form, app.mode = .userMode (.creatingOrder form)) ∧
    app.orderFormDraft = none

/-- A step that changes no draft, and the screen at most to one off the form. -/
def OnlyScreen (app app' : AppState) : Prop :=
  app'.orderFormDraft = app.orderFormDraft ∧
    (app'.mode = app.mode ∨ app'.mode.offForm = true)

theorem Waits.onlyScreen (h : Waits form app) (hstep : OnlyScreen app app') :
    Waits form app' ∨ Kept form app' := by
  obtain ⟨hdraft, hmode | hoff⟩ := hstep
  · exact .inl ⟨hmode.trans h.1, hdraft.trans h.2⟩
  · exact .inr ⟨hoff, hdraft.trans h.2⟩

theorem Kept.onlyScreen (h : Kept form app) (hstep : OnlyScreen app app') : Kept form app' := by
  obtain ⟨hdraft, hmode | hoff⟩ := hstep
  · exact ⟨by rw [hmode]; exact h.1, hdraft.trans h.2⟩
  · exact ⟨hoff, hdraft.trans h.2⟩

theorem Dropped.onlyScreen (h : Dropped app) (hstep : OnlyScreen app app') : Dropped app' := by
  obtain ⟨hdraft, hmode | hoff⟩ := hstep
  · exact ⟨by rw [hmode]; exact h.1, hdraft.trans h.2⟩
  · exact ⟨.inl hoff, hdraft.trans h.2⟩

theorem Dropped.waitsForOrder (h : Dropped app) : app.mode.waitsForOrder = false := by
  rcases h.1 with hoff | ⟨form, hform⟩
  · exact UiMode.waitsForOrder_of_offForm hoff
  · rw [hform]
    rfl

/-! ## One event -/

/-- Off the waiting screen a result changes at most the screen. -/
theorem applyOrderResult_onlyScreen {r : OperationResult} (h : app.mode.waitsForOrder = false)
    (hr : applyOrderResult env app r = some app') : OnlyScreen app app' := by
  rcases applyOrderResult_cases env app r with
    ⟨app1, r', hscreen, heq, -⟩ | ⟨app1, -, heq, hoff, hdraft⟩ | ⟨app1, -, heq, hdraft, hmode⟩
  · obtain rfl := Option.some.inj (heq.symm.trans hr)
    have hoff : app1.mode.waitsForOrder = false := by rw [hscreen.mode]; exact h
    exact ⟨(showResult_draft_of_off r' hoff).trans hscreen.draft, .inr (showResult_offForm r')⟩
  · obtain rfl := Option.some.inj (heq.symm.trans hr)
    rw [h] at hdraft
    exact ⟨hdraft, .inr hoff⟩
  · obtain rfl := Option.some.inj (heq.symm.trans hr)
    exact ⟨hdraft, hmode⟩

/-- On the waiting screen one that clears the form drops its draft. -/
theorem applyOrderResult_dropped {r : OperationResult} (hw : Waits form app)
    (hc : ClearsForm app r) (hr : applyOrderResult env app r = some app') : Dropped app' := by
  have hwaits : app.mode.waitsForOrder = true := UiMode.waitsForOrder_iff.2 ⟨form, hw.1⟩
  rcases applyOrderResult_cases env app r with
    ⟨app1, r', hscreen, heq, hsuccess⟩ | ⟨app1, -, heq, hoff, hdraft⟩ | ⟨app1, hno, -⟩
  · obtain rfl := Option.some.inj (heq.symm.trans hr)
    obtain ⟨os, rfl⟩ := hsuccess.1 hc
    refine ⟨.inl (showResult_offForm _), showResult_success_draft os ?_⟩
    rw [hscreen.mode]
    exact hwaits
  · obtain rfl := Option.some.inj (heq.symm.trans hr)
    rw [hwaits] at hdraft
    exact ⟨.inl hoff, hdraft⟩
  · exact absurd hc hno

/-- One that does not leaves the draft what it is. -/
theorem applyOrderResult_kept {r : OperationResult} (hw : Waits form app)
    (hc : ¬ ClearsForm app r) (hr : applyOrderResult env app r = some app') :
    Waits form app' ∨ Kept form app' := by
  rcases applyOrderResult_cases env app r with
    ⟨app1, r', hscreen, heq, hsuccess⟩ | ⟨app1, hyes, -⟩ | ⟨app1, -, heq, hdraft, hmode⟩
  · obtain rfl := Option.some.inj (heq.symm.trans hr)
    refine .inr ⟨showResult_offForm r', showResult_draft_of_waits r' (hscreen.mode.trans hw.1)
      (hscreen.draft.trans hw.2) ?_⟩
    rintro os rfl
    exact hc (hsuccess.2 ⟨os, rfl⟩)
  · exact absurd hyes hc
  · obtain rfl := Option.some.inj (heq.symm.trans hr)
    exact hw.onlyScreen ⟨hdraft, hmode⟩

/-- A notification changes at most the screen. -/
theorem handleMessageNotification_onlyScreen {n : MessageNotification}
    (h : handleMessageNotification env app n = some app') : OnlyScreen app app' := by
  have hsolver : SameScreen app (app.putSolver n) := app.putSolver_sameScreen n
  unfold handleMessageNotification at h
  dsimp only at h
  split at h
  · obtain rfl := Option.some.inj h
    exact ⟨hsolver.draft, .inl hsolver.mode⟩
  · split at h
    · cases h
    · split at h
      · obtain ⟨mode, hmode, rfl⟩ := Option.map_eq_some_iff.1 h
        exact ⟨hsolver.draft,
          .inr (UiMode.offForm_of_invoicePopup (invoicePopupMode_invoicePopup hmode))⟩
      · obtain rfl := Option.some.inj h
        exact ⟨hsolver.draft, .inl hsolver.mode⟩

theorem Popup.open_onlyScreen (p : Popup) : OnlyScreen app (p.open app) := by
  cases p <;> exact ⟨rfl, .inr rfl⟩

theorem UiMode.offForm_defaultForRole (role : UserRole) :
    (UiMode.defaultForRole role).offForm = true := by
  cases role <;> rfl

theorem AppState.dismissPopup_onlyScreen (app : AppState) : OnlyScreen app app.dismissPopup := by
  unfold AppState.dismissPopup
  split
  · exact ⟨rfl, .inr rfl⟩
  · exact ⟨rfl, .inr (UiMode.offForm_defaultForRole _)⟩

/-- Esc changes at most the screen, but in a form that is filled in. -/
theorem handleEscKey_onlyScreen (hoff : app.mode.offForm = true)
    (h : handleEscKey app = some app') : OnlyScreen app app' := by
  have hdefault := UiMode.offForm_defaultForRole app.userRole
  unfold handleEscKey at h
  dsimp only at h
  split at h
  · next hm => rw [hm] at hoff; cases hoff
  · next hm => rw [hm] at hoff; cases hoff
  · obtain rfl := Option.some.inj h
    exact ⟨rfl, .inr hdefault⟩
  · split at h
    · cases h
    · split at h
      · obtain rfl := Option.some.inj h
        exact ⟨rfl, .inr rfl⟩
      · obtain rfl := Option.some.inj h
        exact ⟨rfl, .inr hdefault⟩
  · obtain rfl := Option.some.inj h
    exact app.dismissPopup_onlyScreen
  · obtain rfl := Option.some.inj h
    exact app.dismissPopup_onlyScreen
  · split at h
    · obtain rfl := Option.some.inj h
      exact ⟨rfl, .inr rfl⟩
    · obtain rfl := Option.some.inj h
      exact ⟨rfl, .inr hdefault⟩
  · obtain rfl := Option.some.inj h
    exact ⟨rfl, .inl rfl⟩

theorem AppState.restsOnForm_iff {app : AppState} :
    app.restsOnForm = true ↔
      app.userRole = .user ∧ app.activeTab = .createNewOrder ∧ app.mode = .userMode .normal := by
  unfold AppState.restsOnForm
  exact decide_eq_true_iff

/-- Drawing the form's tab takes the draft; nothing else that is drawn does. -/
theorem uiDraw_dropped (h : app.restsOnForm = true) : Dropped (uiDraw app) := by
  rw [uiDraw, if_pos h]
  exact ⟨.inr ⟨_, rfl⟩, rfl⟩

theorem uiDraw_of_not (h : ¬ app.restsOnForm = true) : uiDraw app = app := by
  rw [uiDraw, if_neg h]

/-- From the waiting screen an event drops the draft exactly when it clears it. -/
theorem Waits.next {e : UiEnv × UiEvent} (hw : Waits form app) (h : uiNext app e = some app') :
    (ClearsDraft app e.2 → Dropped app') ∧
      (¬ ClearsDraft app e.2 → Waits form app' ∨ Kept form app') := by
  obtain ⟨env, e⟩ := e
  have hwaits : app.mode.waitsForOrder = true := UiMode.waitsForOrder_iff.2 ⟨form, hw.1⟩
  cases e with
  | result r =>
    refine ⟨fun hc => applyOrderResult_dropped hw hc.2 h, fun hc => ?_⟩
    exact applyOrderResult_kept hw (fun hr => hc ⟨hwaits, hr⟩) h
  | notification n =>
    exact ⟨False.elim, fun _ => hw.onlyScreen (handleMessageNotification_onlyScreen h)⟩
  | popup p =>
    obtain rfl := Option.some.inj h
    exact ⟨False.elim, fun _ => hw.onlyScreen p.open_onlyScreen⟩
  | esc =>
    have hesc : handleEscKey app = some app := by
      unfold handleEscKey
      rw [hw.1]
    obtain rfl := Option.some.inj (hesc.symm.trans h)
    exact ⟨False.elim, fun _ => .inl hw⟩
  | draw =>
    have hrests : ¬ app.restsOnForm = true := by
      intro hr
      have hmode := (AppState.restsOnForm_iff.1 hr).2.2
      rw [hw.1] at hmode
      cases hmode
    obtain rfl := Option.some.inj h
    rw [uiDraw_of_not hrests]
    exact ⟨fun hr => absurd hr hrests, fun _ => .inl hw⟩

/-- So it does once the screen is another. -/
theorem Kept.next {e : UiEnv × UiEvent} (hk : Kept form app) (h : uiNext app e = some app') :
    (ClearsDraft app e.2 → Dropped app') ∧ (¬ ClearsDraft app e.2 → Kept form app') := by
  obtain ⟨env, e⟩ := e
  have hwaits : app.mode.waitsForOrder = false := UiMode.waitsForOrder_of_offForm hk.1
  cases e with
  | result r =>
    refine ⟨fun hc => ?_, fun _ => hk.onlyScreen (applyOrderResult_onlyScreen hwaits h)⟩
    have hyes : app.mode.waitsForOrder = true := hc.1
    rw [hwaits] at hyes
    cases hyes
  | notification n =>
    exact ⟨False.elim, fun _ => hk.onlyScreen (handleMessageNotification_onlyScreen h)⟩
  | popup p =>
    obtain rfl := Option.some.inj h
    exact ⟨False.elim, fun _ => hk.onlyScreen p.open_onlyScreen⟩
  | esc => exact ⟨False.elim, fun _ => hk.onlyScreen (handleEscKey_onlyScreen hk.1 h)⟩
  | draw =>
    obtain rfl := Option.some.inj h
    refine ⟨fun hr => uiDraw_dropped hr, fun hr => ?_⟩
    rw [uiDraw_of_not hr]
    exact hk

/-- A draft that is gone stays so. -/
theorem Dropped.next {e : UiEnv × UiEvent} (hd : Dropped app) (h : uiNext app e = some app') :
    Dropped app' := by
  obtain ⟨env, e⟩ := e
  cases e with
  | result r => exact hd.onlyScreen (applyOrderResult_onlyScreen hd.waitsForOrder h)
  | notification n => exact hd.onlyScreen (handleMessageNotification_onlyScreen h)
  | popup p =>
    obtain rfl := Option.some.inj h
    exact hd.onlyScreen p.open_onlyScreen
  | esc =>
    rcases hd.1 with hoff | ⟨form, hform⟩
    · exact hd.onlyScreen (handleEscKey_onlyScreen hoff h)
    · have hesc : handleEscKey app = some { app with
          orderFormDraft := none, mode := .defaultForRole app.userRole } := by
        unfold handleEscKey
        rw [hform]
      obtain rfl := Option.some.inj (hesc.symm.trans h)
      exact ⟨.inl (UiMode.offForm_defaultForRole _), rfl⟩
  | draw =>
    obtain rfl := Option.some.inj h
    by_cases hr : app.restsOnForm = true
    · exact uiDraw_dropped hr
    · rw [uiDraw_of_not hr]
      exact hd

/-! ## Runs -/

theorem uiRun_cons {e : UiEnv × UiEvent} {events : List (UiEnv × UiEvent)}
    (h : uiRun app (e :: events) = some app') :
    ∃ app1, uiNext app e = some app1 ∧ uiRun app1 events = some app' := by
  rw [uiRun, List.foldlM_cons] at h
  exact Option.bind_eq_some_iff.1 h

theorem Dropped.run {events : List (UiEnv × UiEvent)} (hd : Dropped app)
    (h : uiRun app events = some app') : Dropped app' := by
  induction events generalizing app with
  | nil =>
    obtain rfl := Option.some.inj h
    exact hd
  | cons e events ih =>
    obtain ⟨app1, hnext, hrun⟩ := uiRun_cons h
    exact ih (hd.next hnext) hrun

/-- A run drops the draft exactly when one of its events clears it. -/
theorem uiRun_draft {events : List (UiEnv × UiEvent)} (hstart : Waits form app ∨ Kept form app)
    (h : uiRun app events = some app') :
    (ClearedIn app events → Dropped app') ∧
      (¬ ClearedIn app events → Waits form app' ∨ Kept form app') := by
  induction events generalizing app with
  | nil =>
    obtain rfl := Option.some.inj h
    exact ⟨False.elim, fun _ => hstart⟩
  | cons e events ih =>
    obtain ⟨app1, hnext, hrun⟩ := uiRun_cons h
    have hstep : (ClearsDraft app e.2 → Dropped app1) ∧
        (¬ ClearsDraft app e.2 → Waits form app1 ∨ Kept form app1) := by
      rcases hstart with hw | hk
      · exact hw.next hnext
      · exact ⟨(hk.next hnext).1, fun hc => .inr ((hk.next hnext).2 hc)⟩
    have hrest : ¬ ClearsDraft app e.2 →
        (ClearedIn app (e :: events) ↔ ClearedIn app1 events) := by
      intro hc
      refine ⟨?_, fun hcleared => .inr ⟨app1, hnext, hcleared⟩⟩
      rintro (hc' | ⟨app2, hnext', hcleared⟩)
      · exact absurd hc' hc
      · obtain rfl := Option.some.inj (hnext.symm.trans hnext')
        exact hcleared
    by_cases hc : ClearsDraft app e.2
    · have hdropped := (hstep.1 hc).run hrun
      exact ⟨fun _ => hdropped, fun hno => absurd (.inl hc) hno⟩
    · rw [hrest hc]
      exact ih (hstep.2 hc) hrun

end

end Mostrix.Ui
