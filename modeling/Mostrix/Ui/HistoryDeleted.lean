import Mostrix.Ui.History

/-!
# Deleting from the history

`ui/key_handler/enter_handlers.rs`, `models.rs` and `apply_order_result` (`main.rs`): the user has
one closed order deleted, or all that are done or canceled. A task deletes the rows and reports the
ids; the main loop then takes the orders out of everything the UI holds, has the listener drop what
still arrives for them, and reads the history again. The cleanup reads the ids before it deletes, in
two statements, and the listener looks at the dropped orders once for each batch, so other tasks run
in between.

`deleted_for_good` says when a deletion is final, over any interleaving: from the result that names
an order on, nothing that arrives brings the order back, as long as no other task writes its row and
the user asks nothing more about it. `open_batch_brings_back` is why no batch of the order may be
under way, and `cached_listing_stays` why it may not be listed; `cleanup_leaves_row` is a deletion
that no result names. A reload of the keys, which starts over, is left out.
-/

namespace Mostrix.Ui

/-! ## The deletions -/

/-- `TERMINAL_ORDER_HISTORY_STATUSES`. -/
def terminalOrderHistoryStatuses : List Status :=
  [.success, .canceled, .canceledByAdmin, .settledByAdmin, .completedByAdmin, .expired,
    .cooperativelyCanceled]

/-- `ORDER_HISTORY_BULK_DELETE_STATUSES`. -/
def orderHistoryBulkDeleteStatuses : List Status := [.success, .canceled]

/-- The status of a row is in a list. -/
def hasStatus (statuses : List Status) (row : Order) : Bool :=
  (row.status.map fun status => decide (status ∈ statuses)).getD false

/-- `Order::delete_terminal_order_by_id`, with the number of rows it deletes. -/
def deleteTerminalOrderById (db : Db) (orderId : Uuid) : Db × Nat :=
  match db orderId with
  | some row =>
    if hasStatus terminalOrderHistoryStatuses row then (Order.deleteById db orderId, 1) else (db, 0)
  | none => (db, 0)

/-- `Order::delete_bulk_history_cleanup_orders`. -/
def deleteBulkHistoryCleanupOrders (db : Db) : Db := fun id =>
  (db id).filter fun row => !hasStatus orderHistoryBulkDeleteStatuses row

/-- `spawn_delete_single_terminal_order_task`, whose statement may fail. -/
def deleteSingleTerminalOrder (U : UuidText) (db : Db) (orderId : Uuid) (failure : Option String) :
    Db × OperationResult :=
  match failure with
  | some e => (db, .error s!"Failed to delete selected order from local history: {e}")
  | none =>
    let (db, affected) := deleteTerminalOrderById db orderId
    (db,
      if 0 < affected then
        .orderHistoryDeleted [orderId] s!"Deleted order {U.text orderId} from local history."
      else .error "Selected order is not terminal or no longer exists in local database.")

/-- The first statement of `spawn_bulk_history_cleanup_task`: the ids to report. -/
def idsToRemove (rows : Option (List Order)) : List Uuid :=
  match rows with
  | some rows => (rows.filter (hasStatus orderHistoryBulkDeleteStatuses)).map (·.id)
  | none => []

/-- Its second statement, which deletes `affected` rows, or fails. -/
def bulkHistoryCleanup (db : Db) (idsToRemove : List Uuid) (affected : Except String Nat) :
    Db × OperationResult :=
  match affected with
  | .ok affected =>
    (deleteBulkHistoryCleanupOrders db,
      .orderHistoryDeleted idsToRemove
        s!"Removed {affected} success/canceled orders from local history.")
  | .error e => (db, .error s!"Failed to clean up order history: {e}")

/-! ## The system -/

/-- The table, the UI with the listings of My Trades, the results on their way to the main loop, the
cleanups between their two statements, and the listener: the order of the batch it is in and the DM
between the handler's two halves. -/
structure HistoryState where
  db : Db
  app : AppState := {}
  makerBook : List OrderChatListItem := []
  results : List OperationResult := []
  cleanups : List (List Uuid) := []
  batch : Option Uuid := none
  inFlight : Option (TradeDm × TradeDmInFlight) := none

/-- One step of a task, the listener or the main loop. -/
inductive HistoryEvent
  /-- the task of a confirmed deletion -/
  | deleteOrder (orderId : Uuid) (failure : Option String)
  /-- the two statements of a confirmed cleanup -/
  | readCleanup (rows : Option (List Order))
  | runCleanup (affected : Except String Nat)
  /-- another task reports a result -/
  | report (result : OperationResult)
  /-- `apply_order_result` on the next result -/
  | apply (env : UiEnv) (read : HistoryRead)
  /-- `handle_message_notification` -/
  | notify (env : UiEnv) (n : MessageNotification)
  /-- `dispatch_giftwrap_batch`, up to its look at the dropped orders -/
  | openBatch (orderId : Uuid)
  /-- the two halves of its handler for one DM -/
  | beginDm (env : Env) (dm : TradeDm)
  | finishDm
  /-- the cleanup after a DM that ends its order -/
  | untrackOrder (orderId : Uuid)
  | closeBatch
  /-- `DmRouterCmd::TrackOrder` -/
  | trackOrder (orderId : Uuid) (tradeIndex : Int)
  /-- another task writes the `orders` table -/
  | writeDb (db : Db)
  /-- the UI edits the Messages list -/
  | edit (e : MessagesEdit)

/-- The results that have the listings read anew. -/
def refreshesMakerBook : OperationResult → Bool
  | .myTradesMakerBookChanged | .success _ => true
  | _ => false

/-- The result that has the history read anew. -/
def resyncsMyTrades : OperationResult → Bool
  | .orderHistoryDeleted .. => true
  | _ => false

section
variable (U : UuidText) (parseKeys : String → Option Keys) (ops : ChatOps)

/-- `apply_order_result` of a user, with its reads of the table; a handler that panics leaves the
state as it is. -/
def applyWithReads (env : UiEnv) (read : HistoryRead) (s : HistoryState) (r : OperationResult) :
    HistoryState :=
  let makerBook :=
    if refreshesMakerBook r && s.app.userRole = .user then
      refreshMyTradesMakerBookCache U read s.makerBook
    else s.makerBook
  match applyOrderResult env s.app r with
  | none => { s with makerBook }
  | some app =>
    { s with
      makerBook
      app :=
        if resyncsMyTrades r && app.userRole = .user then
          syncUserOrderHistoryMessagesFromDb parseKeys read app
        else app }

/-- What `TrackOrder` does to the indices: the other orders of the index go, and the order comes. -/
def trackIndex (indices : Table Uuid Int) (orderId : Uuid) (tradeIndex : Int) : Table Uuid Int :=
  Table.put (fun id => (indices id).filter (· ≠ tradeIndex)) orderId tradeIndex

/-- Change the indices, where their lock is not poisoned. -/
def AppState.editIndices (app : AppState) (edit : Table Uuid Int → Table Uuid Int) : AppState :=
  if app.indicesPoisoned then app
  else { app with activeOrderTradeIndices := edit app.activeOrderTradeIndices }

/-- What the handler of trade DMs works on. -/
def HistoryState.trade (s : HistoryState) : TradeState :=
  { db := s.db, messages := s.app.messages }

/-- The task of a confirmed deletion. -/
def HistoryState.deleteOrder (s : HistoryState) (orderId : Uuid) (failure : Option String) :
    HistoryState :=
  let (db, result) := deleteSingleTerminalOrder U s.db orderId failure
  { s with db := db, results := s.results ++ [result] }

/-- The second statement of the cleanup that was confirmed first. -/
def HistoryState.runCleanup (s : HistoryState) (affected : Except String Nat) : HistoryState :=
  match s.cleanups with
  | ids :: cleanups =>
    let (db, result) := bulkHistoryCleanup s.db ids affected
    { s with db := db, results := s.results ++ [result], cleanups := cleanups }
  | [] => s

/-- The main loop takes the next result. -/
def HistoryState.applyNext (s : HistoryState) (env : UiEnv) (read : HistoryRead) : HistoryState :=
  match s.results with
  | r :: results => applyWithReads U parseKeys env read { s with results := results } r
  | [] => s

/-- The main loop handles a notification; one that panics leaves the state as it is. -/
def HistoryState.notify (s : HistoryState) (env : UiEnv) (n : MessageNotification) :
    HistoryState :=
  match handleMessageNotification env s.app n with
  | some app => { s with app := app }
  | none => s

/-- The listener starts a batch, unless its order was dropped. -/
def HistoryState.openBatch (s : HistoryState) (orderId : Uuid) : HistoryState :=
  if s.batch.isSome ∨ orderId ∈ s.app.droppedUserHistoryOrderIds then s
  else { s with batch := some orderId }

/-- The first half of the handler, for a DM of the batch. -/
def HistoryState.beginDm (s : HistoryState) (env : Env) (dm : TradeDm) : HistoryState :=
  if s.batch = some dm.orderId ∧ s.inFlight.isNone then
    let (trade, f) := handleTradeDmBegin ops env s.trade dm
    { s with
      db := trade.db
      app := { s.app with messages := trade.messages }
      inFlight := f.map fun f => (dm, f) }
  else s

/-- The second half. -/
def HistoryState.finishDm (s : HistoryState) : HistoryState :=
  match s.inFlight with
  | some (dm, f) =>
    let trade := handleTradeDmFinish s.trade dm f
    { s with db := trade.db, app := { s.app with messages := trade.messages }, inFlight := none }
  | none => s

/-- The listener is done with its batch. -/
def HistoryState.closeBatch (s : HistoryState) : HistoryState :=
  if s.inFlight.isSome then s else { s with batch := none }

/-- One step. -/
def historyNext (s : HistoryState) : HistoryEvent → HistoryState
  | .deleteOrder orderId failure => s.deleteOrder U orderId failure
  | .readCleanup rows => { s with cleanups := s.cleanups ++ [idsToRemove rows] }
  | .runCleanup affected => s.runCleanup affected
  | .report result => { s with results := s.results ++ [result] }
  | .apply env read => s.applyNext U parseKeys env read
  | .notify env n => s.notify env n
  | .openBatch orderId => s.openBatch orderId
  | .beginDm env dm => s.beginDm ops env dm
  | .finishDm => s.finishDm
  | .untrackOrder orderId => { s with app := s.app.editIndices (·.erase orderId) }
  | .trackOrder orderId tradeIndex =>
    { s with app := s.app.editIndices (trackIndex · orderId tradeIndex) }
  | .closeBatch => s.closeBatch
  | .writeDb db => { s with db := db }
  | .edit e => { s with app := s.app.editMessages e }

end

/-! ## What a deletion leaves -/

/-- A result is a reply to a request of the user's about an order. -/
def OperationResult.Brings (id : Uuid) : OperationResult → Prop
  | .success os => os.orderId = some id ∨ ∃ h, os.staticHeader = some h ∧ h.orderId = id
  | .paymentRequestRequired order _ _ _ h _ => order.id = some id ∨ h.orderId = id
  | .openInvoicePopup _ orderMessage => orderMessage.orderId = some id
  | _ => False

/-- An edit that may bring a row of an order. -/
def BringsRow (id : Uuid) : MessagesEdit → Prop
  | .syncHistory rows => ∃ m ∈ rows, m.orderId = some id
  | .remember orderMessage | .placeholder orderMessage => orderMessage.orderId = some id
  | _ => False

/-- An order is dropped, and the UI holds no row, index or header of it. What its chat says may come
back: the chat router goes on to read it. -/
structure Deleted (app : AppState) (id : Uuid) : Prop where
  listed : id ∈ app.droppedUserHistoryOrderIds
  message : ¬ HasRow app.messages id
  index : app.activeOrderTradeIndices id = none
  header : app.orderChatStatic id = none

/-- The listener is not at an order. -/
structure NotAt (s : HistoryState) (id : Uuid) : Prop where
  batch : s.batch ≠ some id
  inFlight : ∀ dm f, s.inFlight = some (dm, f) → dm.orderId ≠ id

/-- An order is gone: it has no row, and it is dropped, not in the listener's hands and not among the
listings. -/
structure Gone (U : UuidText) (s : HistoryState) (id : Uuid) : Prop where
  noRow : s.db id = none
  dropped : Deleted s.app id
  notAt : NotAt s id
  unlisted : ∀ item ∈ s.makerBook, item.orderId ≠ U.text id

/-- A step leaves a deleted order alone: it writes no row of it, neither by hand nor as the child that
another order's DM announces, what it reads is the table, and it applies no reply about the order,
brings no row of it to the Messages list and does not track it. -/
structure LeavesAlone (id : Uuid) (s : HistoryState) (e : HistoryEvent) : Prop where
  writes : ∀ db, e = .writeDb db → db id = none
  children : ∀ env dm o, e = .beginDm env dm → tradeDmPath s.db dm = .rangeChild o →
    o.id.getD env.freshId ≠ id
  reads : ∀ env read rows, e = .apply env read → read.rows = some rows → HistoryRows s.db rows
  results : ∀ env read r results, e = .apply env read → s.results = r :: results → ¬ r.Brings id
  edits : ∀ edit, e = .edit edit → ¬ BringsRow id edit
  tracks : ∀ tradeIndex, e ≠ .trackOrder id tradeIndex

/-! ## Edits and results -/

section
variable {id : Uuid}

theorem hasRow_of_subset {ms ms' : List OrderMessage} (h : ms ⊆ ms') (hrow : HasRow ms id) :
    HasRow ms' id := by
  obtain ⟨m, hm, hid⟩ := hrow
  exact ⟨m, h hm, hid⟩

theorem hasRow_of_foldl_replaceRow {messages : List OrderMessage} (rows : List OrderMessage)
    (h : HasRow (rows.foldl replaceRow messages) id) :
    HasRow messages id ∨ ∃ m ∈ rows, m.orderId = some id := by
  induction rows generalizing messages with
  | nil => exact .inl h
  | cons row rows ih =>
    rcases ih h with hrow | ⟨m, hm, hid⟩
    · rw [replaceRow, hasRow_append, hasRow_singleton] at hrow
      rcases hrow with hkept | hnew
      · exact .inl (hasRow_of_subset (List.filter_subset_self _) hkept)
      · exact .inr ⟨row, List.mem_cons_self, hnew⟩
    · exact .inr ⟨m, List.mem_cons_of_mem _ hm, hid⟩

theorem orderId_of_header {parseKeys : String → Option Keys} {row : Order}
    {header : OrderChatStaticHeader} (h : orderChatStaticFromDbOrder parseKeys row = some header) :
    header.orderId = row.id := by
  obtain ⟨tradeIndex, -, h⟩ := Option.bind_eq_some_iff.1 h
  obtain ⟨keysHex, -, h⟩ := Option.bind_eq_some_iff.1 h
  obtain ⟨tradeKeys, -, h⟩ := Option.bind_eq_some_iff.1 h
  exact Option.some.inj h ▸ rfl

theorem orderId_of_listing {U : UuidText} {row : Order} {item : OrderChatListItem}
    (h : orderChatListItemFromDbOrder U row = some item) : item.orderId = U.text row.id := by
  unfold orderChatListItemFromDbOrder at h
  split at h
  · cases h
  · split at h
    · cases h
    · exact Option.some.inj h ▸ rfl

/-- An order that has a row after an edit had one, or the edit brought it. -/
theorem hasRow_of_run {messages : List OrderMessage} (e : MessagesEdit)
    (h : HasRow (e.run messages) id) : HasRow messages id ∨ BringsRow id e := by
  have hstrip : ∀ ms, HasRow (stripNewOrderMessages ms) id → HasRow ms id := fun ms =>
    hasRow_of_subset (List.filter_subset_self _)
  cases e with
  | removeClosed orderId => exact .inl (hasRow_of_subset (List.filter_subset_self _) (hstrip _ h))
  | removeMany orderIds => exact .inl (hasRow_of_subset (List.filter_subset_self _) (hstrip _ h))
  | stripNewOrder => exact .inl (hstrip _ h)
  | clear =>
    obtain ⟨m, hm, -⟩ := h
    cases hm
  | syncHistory rows =>
    rw [MessagesEdit.run, hasRow_sortMessages] at h
    exact hasRow_of_foldl_replaceRow rows h
  | remember orderMessage =>
    simp only [MessagesEdit.run, rememberOpenInvoiceOrderMessage] at h
    split at h
    · exact .inl h
    · next orderId hid =>
      split at h
      · exact .inl (hasRow_markShown.1 h)
      · rw [hasRow_sortMessages, hasRow_append, hasRow_singleton] at h
        exact h
  | placeholder orderMessage =>
    simp only [MessagesEdit.run] at h
    split at h
    · exact .inl h
    · rw [hasRow_sortMessages, hasRow_append, hasRow_singleton] at h
      exact h

/-- Two states of the UI hold the same of every order. -/
structure SameOrders (app app' : AppState) : Prop where
  messages : app'.messages = app.messages
  indices : app'.activeOrderTradeIndices = app.activeOrderTradeIndices
  headers : app'.orderChatStatic = app.orderChatStatic
  dropped : app'.droppedUserHistoryOrderIds = app.droppedUserHistoryOrderIds

variable {env : UiEnv} {app app' : AppState}

theorem Deleted.same (h : Deleted app id) (hsame : SameOrders app app') : Deleted app' id where
  listed := hsame.dropped ▸ h.listed
  message := hsame.messages ▸ h.message
  index := hsame.indices ▸ h.index
  header := hsame.headers ▸ h.header

theorem sameOrders_showResult (app : AppState) (r : OperationResult) :
    SameOrders app (showResult app r) := by
  unfold showResult
  dsimp only
  split
  · split <;> exact ⟨rfl, rfl, rfl, rfl⟩
  · split <;> exact ⟨rfl, rfl, rfl, rfl⟩
  · exact ⟨rfl, rfl, rfl, rfl⟩
  · exact ⟨rfl, rfl, rfl, rfl⟩

theorem Deleted.editMessages (h : Deleted app id) {e : MessagesEdit} (he : ¬ BringsRow id e) :
    Deleted (app.editMessages e) id := by
  unfold AppState.editMessages
  split
  · exact h
  · exact ⟨h.listed, fun hrow => (hasRow_of_run e hrow).elim h.message he, h.index, h.header⟩

theorem erase_eq_none {β : Type} {t : Table Uuid β} (h : t id = none) (id' : Uuid) :
    t.erase id' id = none := by
  by_cases hid : id = id'
  · subst hid
    exact Table.erase_self
  · rw [Table.erase_of_ne hid, h]

theorem eraseAll_eq_none {β : Type} {t : Table Uuid β} (h : t id = none) (ids : List Uuid) :
    eraseAll t ids id = none := by
  induction ids generalizing t with
  | nil => exact h
  | cons id' ids ih => exact ih (erase_eq_none h id')

/-- What is erased is gone. -/
theorem eraseAll_of_mem {β : Type} {t : Table Uuid β} {ids : List Uuid} (h : id ∈ ids) :
    eraseAll t ids id = none := by
  induction ids generalizing t with
  | nil => cases h
  | cons id' ids ih =>
    rcases List.mem_cons.1 h with rfl | hmem
    · exact eraseAll_eq_none Table.erase_self ids
    · exact ih hmem

theorem Deleted.putHeader (h : Deleted app id) {header : Option OrderChatStaticHeader}
    (hother : ∀ hd, header = some hd → hd.orderId ≠ id) : Deleted (app.putHeader header) id := by
  cases header with
  | none => exact h
  | some hd =>
    have hne : id ≠ hd.orderId := Ne.symm (hother hd rfl)
    exact ⟨h.listed, h.message, h.index, (Table.put_of_ne hne).trans h.header⟩

theorem Deleted.attachmentDone (h : Deleted app id) {orderId : Uuid} :
    Deleted (app.attachmentDone orderId) id := by
  unfold AppState.attachmentDone
  split
  · exact h.same ⟨rfl, rfl, rfl, rfl⟩
  · exact h

/-- The placeholder of an order is a row of that order. -/
theorem orderId_of_placeholder {os : OrderSuccess} {m : OrderMessage}
    (h : tryPlaceholderOrderMessageFromSuccess env os = some m) : m.orderId = os.orderId := by
  unfold tryPlaceholderOrderMessageFromSuccess at h
  split at h
  · next header orderId hheader hid =>
    obtain ⟨sender, -, rfl⟩ := Option.map_eq_some_iff.1 h
    exact hid.symm
  · cases h

/-- The bookkeeping of a result that is not about a dropped order leaves it dropped. -/
theorem dropped_bookkeeping (h : Deleted app id) {r : OperationResult} (hr : ¬ r.Brings id) :
    Deleted (bookkeeping env app r) id := by
  cases r with
  | success os =>
    have hheader : Deleted (app.putHeader os.staticHeader) id :=
      h.putHeader fun hd hhd heq => hr (.inr ⟨hd, hhd, heq⟩)
    show Deleted ((app.putHeader os.staticHeader).maybeInsertPlaceholder env os) id
    unfold AppState.maybeInsertPlaceholder
    split
    · next placeholder hplaceholder =>
      refine hheader.editMessages fun hid => hr (.inl ?_)
      rw [← orderId_of_placeholder hplaceholder]
      exact hid
    · exact hheader
  | paymentRequestRequired order invoice satAmount tradeIndex hd action =>
    show Deleted (app.putHeader (some hd)) id
    refine h.putHeader fun hd' hhd heq => hr (.inr ?_)
    rw [Option.some.inj hhd]
    exact heq
  | invoiceSubmitted message remember =>
    cases remember <;> exact h.same ⟨rfl, rfl, rfl, rfl⟩
  | tradeClosed orderId message =>
    have hedit : Deleted (app.editMessages (.removeClosed orderId)) id := h.editMessages fun h => h
    refine ⟨hedit.listed, hedit.message, ?_, erase_eq_none hedit.header _⟩
    simp only [bookkeeping, AppState.removeClosedTrade]
    split
    · exact hedit.index
    · exact erase_eq_none hedit.index _
  | orderHistoryDeleted ids message =>
    have hedit : Deleted (app.editMessages (.removeMany ids)) id := h.editMessages fun h => h
    refine ⟨List.mem_append_right _ hedit.listed, hedit.message, ?_,
      eraseAll_eq_none hedit.header _⟩
    simp only [bookkeeping, AppState.removeManyOrders]
    split
    · exact hedit.index
    · exact eraseAll_eq_none hedit.index _
  | orderChatAttachmentSent orderId chatMessage infoMessage =>
    have hdone : Deleted (app.attachmentDone orderId) id := h.attachmentDone
    exact hdone.same ⟨rfl, rfl, rfl, rfl⟩
  | orderChatAttachmentError orderId error => exact h.attachmentDone
  | orderChatAttachmentSendFailed prepared error =>
    have hdone : Deleted (app.attachmentDone prepared.orderId) id := h.attachmentDone
    exact hdone.same ⟨rfl, rfl, rfl, rfl⟩
  | _ => exact h

/-- Tracking another order leaves an order dropped. -/
theorem Deleted.tracking (h : Deleted app id) {orderId : Option Uuid} (hother : orderId ≠ some id)
    (tradeIndex : Option Int) {next : AppState → AppState}
    (hnext : ∀ {app}, Deleted app id → Deleted (next app) id) :
    Deleted (app.tracking orderId tradeIndex next) id := by
  unfold AppState.tracking
  split
  · next orderId tradeIndex =>
    split
    · exact h.same ⟨rfl, rfl, rfl, rfl⟩
    · have hne : id ≠ orderId := fun heq => hother (congrArg some heq.symm)
      exact hnext ⟨h.listed, h.message, (Table.put_of_ne hne).trans h.index, h.header⟩
  · exact hnext h

theorem Deleted.editIndices (h : Deleted app id) {edit : Table Uuid Int → Table Uuid Int}
    (hedit : ∀ {indices : Table Uuid Int}, indices id = none → edit indices id = none) :
    Deleted (app.editIndices edit) id := by
  unfold AppState.editIndices
  split
  · exact h
  · exact ⟨h.listed, h.message, hedit h.index, h.header⟩

theorem Deleted.dropWaitingDraft (h : Deleted app id) : Deleted app.dropWaitingDraft id := by
  unfold AppState.dropWaitingDraft
  split
  · exact h.same ⟨rfl, rfl, rfl, rfl⟩
  · exact h

/-- An invoice popup from a reply about another order leaves an order dropped. -/
theorem Deleted.openInvoicePopup (h : Deleted app id) {n : MessageNotification}
    {orderMessage : OrderMessage} (hother : orderMessage.orderId ≠ some id)
    (happ : applyOpenInvoicePopupFromExecute env app n orderMessage = some app') :
    Deleted app' id := by
  have hedit : Deleted (app.editMessages (.remember orderMessage)) id := h.editMessages hother
  cases hallowed : invoicePopupAllowedForOrderStatus (gateAction n.action)
      orderMessage.orderStatus with
  | false =>
    rw [applyOpenInvoicePopupFromExecute_of_refused env app hallowed] at happ
    exact Option.some.inj happ ▸ hedit
  | true =>
    obtain ⟨mode, -, hopen⟩ := applyOpenInvoicePopupFromExecute_of_allowed env app hallowed
    rw [hopen] at happ
    exact Option.some.inj happ ▸ hedit.same ⟨rfl, rfl, rfl, rfl⟩

/-- What is shown for a result is not about an order that the result is not about. -/
theorem normalize_brings {r : OperationResult} (hr : ¬ r.Brings id) : ¬ (normalize r).Brings id := by
  cases r <;> exact hr

/-- A result that is not about a dropped order leaves it dropped. -/
theorem Deleted.handleOperationResult {r : OperationResult}
    (hbook : Deleted (bookkeeping env app r) id) (hr : ¬ r.Brings id)
    (happ : handleOperationResult env app r = some app') : Deleted app' id := by
  unfold Ui.handleOperationResult at happ
  dsimp only at happ
  have hnormal := normalize_brings hr
  split at happ
  · next n orderMessage hn =>
    rw [hn] at hnormal
    exact hbook.openInvoicePopup hnormal happ
  · next order invoice satAmount tradeIndex hd action hn =>
    rw [hn] at hnormal
    obtain rfl := Option.some.inj happ
    refine hbook.dropWaitingDraft.tracking (fun hid => hnormal (.inl hid)) _ fun h => ?_
    exact h.same ⟨rfl, rfl, rfl, rfl⟩
  · next os hn =>
    rw [hn] at hnormal
    obtain rfl := Option.some.inj happ
    refine hbook.tracking (fun hid => hnormal (.inl hid)) _ fun h => ?_
    exact h.same (sameOrders_showResult _ _)
  · next generation messages hn =>
    obtain rfl := Option.some.inj happ
    unfold observerLoaded
    split
    · exact hbook
    · exact hbook.same ⟨rfl, rfl, rfl, rfl⟩
  · next generation message hn =>
    obtain rfl := Option.some.inj happ
    unfold observerFailed
    split
    · exact hbook
    · exact hbook.same ⟨rfl, rfl, rfl, rfl⟩
  · obtain rfl := Option.some.inj happ
    exact hbook.same (sameOrders_showResult _ _)

theorem Deleted.applyOrderResult (h : Deleted app id) {r : OperationResult} (hr : ¬ r.Brings id)
    (happ : applyOrderResult env app r = some app') : Deleted app' id := by
  cases r with
  | myTradesMakerBookChanged => exact Option.some.inj happ ▸ h
  | _ => exact (dropped_bookkeeping h hr).handleOperationResult hr happ

/-- The result of a deletion drops its orders. -/
theorem dropped_of_deletion {ids : List Uuid} (hid : id ∈ ids) {message : String}
    (hmessages : app.messagesPoisoned = false) (hindices : app.indicesPoisoned = false)
    (happ : applyOrderResult env app (.orderHistoryDeleted ids message) = some app') :
    Deleted app' id := by
  refine Deleted.handleOperationResult (r := .orderHistoryDeleted ids message) ?_ (fun h => h) happ
  refine ⟨List.mem_append_left _ hid, ?_, ?_, eraseAll_of_mem hid⟩
  · rintro ⟨m, hm, hmid⟩
    simp only [bookkeeping, AppState.removeManyOrders, AppState.editMessages, hmessages,
      Bool.false_eq_true, if_false, MessagesEdit.run, stripNewOrderMessages, List.mem_filter,
      hmid, Option.map_some, Option.getD_some, hid, not_true, decide_false] at hm
    cases hm.1.2
  · have hlock : (app.editMessages (.removeMany ids)).indicesPoisoned = false :=
      (app.editMessages_sameScreen _).indices.trans hindices
    simp only [bookkeeping, AppState.removeManyOrders, hlock, Bool.false_eq_true, if_false]
    exact eraseAll_of_mem hid

/-- A notification brings back no dropped order. -/
theorem Deleted.handleMessageNotification (h : Deleted app id) {n : MessageNotification}
    (happ : handleMessageNotification env app n = some app') : Deleted app' id := by
  have hsolver : Deleted (app.putSolver n) id := by
    unfold AppState.putSolver
    split
    · exact ⟨h.listed, h.message, h.index, Table.modify_eq_none h.header⟩
    · exact h
  unfold Ui.handleMessageNotification at happ
  dsimp only at happ
  split at happ
  · exact Option.some.inj happ ▸ hsolver
  · split at happ
    · cases happ
    · next messages shown hcheck =>
      have hrows : ¬ HasRow messages id := by
        refine fun hrow => hsolver.message ?_
        rw [checkIfPopupShouldBeShown] at hcheck
        grind [hasRow_markShown]
      have hshown : Deleted { app.putSolver n with messages := messages } id :=
        ⟨hsolver.listed, hrows, hsolver.index, hsolver.header⟩
      split at happ
      · obtain ⟨mode, -, rfl⟩ := Option.map_eq_some_iff.1 happ
        exact hshown.same ⟨rfl, rfl, rfl, rfl⟩
      · exact Option.some.inj happ ▸ hshown

/-! ## Reads of the table -/

section
variable {db : Db} {read : HistoryRead}

/-- A read of a table without a row of an order gives no row of it. -/
theorem ne_id_of_read (hnone : db id = none)
    (hread : ∀ rows, read.rows = some rows → HistoryRows db rows) {rows : List Order}
    (hrows : read.rows = some rows) {row : Order} (hrow : row ∈ rows) : row.id ≠ id := by
  rintro rfl
  rw [(((hread rows hrows).mem row).1 hrow).1] at hnone
  cases hnone

theorem put_foldl_eq_none {headers : Table Uuid OrderChatStaticHeader} (h : headers id = none)
    {hs : List OrderChatStaticHeader} (hne : ∀ hd ∈ hs, hd.orderId ≠ id) :
    hs.foldl (fun t hd => t.put hd.orderId hd) headers id = none := by
  induction hs generalizing headers with
  | nil => exact h
  | cons hd hs ih =>
    obtain ⟨hfirst, hrest⟩ := List.forall_mem_cons.1 hne
    exact ih ((Table.put_of_ne hfirst.symm).trans h) hrest

/-- Reading the history leaves an order dropped that the table has no row of. -/
theorem Deleted.sync (h : Deleted app id) (parseKeys : String → Option Keys) (hnone : db id = none)
    (hread : ∀ rows, read.rows = some rows → HistoryRows db rows) :
    Deleted (syncUserOrderHistoryMessagesFromDb parseKeys read app) id := by
  unfold syncUserOrderHistoryMessagesFromDb
  split
  · next sender rows hsender hrows =>
    have hne : ∀ row ∈ rows, row.id ≠ id := fun row hrow => ne_id_of_read hnone hread hrows hrow
    have hedit : Deleted
        (app.editMessages (.syncHistory (historyMessages read.now sender rows))) id := by
      refine h.editMessages ?_
      rintro ⟨m, hm, hid⟩
      rw [historyMessages, mem_sortMessages] at hm
      obtain ⟨row, hrow, hm⟩ := List.mem_filterMap.1 hm
      rw [orderId_of_history hm] at hid
      exact hne row hrow (Option.some.inj hid)
    refine ⟨hedit.listed, hedit.message, hedit.index, put_foldl_eq_none hedit.header ?_⟩
    intro hd hhd
    obtain ⟨row, hrow, hheader⟩ := List.mem_filterMap.1 hhd
    rw [orderId_of_header hheader]
    exact hne row hrow
  · exact h

/-- Nor does it list one. -/
theorem unlisted_refresh (U : UuidText) {makerBook : List OrderChatListItem} (hnone : db id = none)
    (hread : ∀ rows, read.rows = some rows → HistoryRows db rows)
    (h : ∀ item ∈ makerBook, item.orderId ≠ U.text id) :
    ∀ item ∈ refreshMyTradesMakerBookCache U read makerBook, item.orderId ≠ U.text id := by
  unfold refreshMyTradesMakerBookCache
  split
  · next rows hrows =>
    intro item hitem
    obtain ⟨row, hrow, hrowItem⟩ := List.mem_filterMap.1 hitem
    rw [orderId_of_listing hrowItem]
    exact fun heq => ne_id_of_read hnone hread hrows hrow (U.injective heq)
  · exact h

end

end

/-! ## The table -/

section
variable {U : UuidText} {parseKeys : String → Option Keys} {ops : ChatOps} {id : Uuid}
  {s : HistoryState}

/-- Taking up a DM writes the row of no new order but of a child that it announces. -/
theorem handleTradeDmBegin_noRow {env : Env} {trade : TradeState} {dm : TradeDm}
    (hnone : trade.db id = none)
    (hchild : ∀ o, tradeDmPath trade.db dm = .rangeChild o → o.id.getD env.freshId ≠ id) :
    (handleTradeDmBegin ops env trade dm).1.db id = none := by
  have hhydrate : hydrateRow ops env trade.db dm id = none := by
    rw [hydrateRow_eq]
    exact Table.modify_eq_none hnone
  rw [handleTradeDmBegin_eq]
  cases hpath : tradeDmPath trade.db dm with
  | rangeChild o =>
    show saveOrder trade.db o dm.tradeKeys _ dm.tradeIndex true env id = none
    rw [saveOrder_eq]
    split
    · exact (Table.put_of_ne (hchild o hpath).symm).trans hnone
    · exact hnone
  | dropTake => exact erase_eq_none hnone dm.orderId
  | republish =>
    refine Table.modify_eq_none ?_
    rw [upsertOrderFromTradeDm_eq]
    exact Table.modify_eq_none hnone
  | hydrateOnly => exact hhydrate
  | full => exact hhydrate

/-- A deletion brings no row back, of whatever order it is. -/
theorem deleteOrder_noRow (hnone : s.db id = none) (orderId : Uuid) (failure : Option String) :
    (s.deleteOrder U orderId failure).db id = none := by
  cases failure with
  | some e => exact hnone
  | none =>
    unfold HistoryState.deleteOrder deleteSingleTerminalOrder deleteTerminalOrderById
    dsimp only
    split
    · split
      · exact erase_eq_none hnone orderId
      · exact hnone
    · exact hnone

theorem runCleanup_noRow (hnone : s.db id = none) (affected : Except String Nat) :
    (s.runCleanup affected).db id = none := by
  unfold HistoryState.runCleanup
  split
  · cases affected with
    | ok affected =>
      show (s.db id).filter _ = none
      rw [hnone, Option.filter_none]
    | error e => exact hnone
  · exact hnone

theorem applyNext_noRow (hnone : s.db id = none) (env : UiEnv) (read : HistoryRead) :
    (s.applyNext U parseKeys env read).db id = none := by
  unfold HistoryState.applyNext
  split
  · unfold applyWithReads
    dsimp only
    split <;> exact hnone
  · exact hnone

theorem finishDm_noRow (hnone : s.db id = none) : s.finishDm.db id = none := by
  unfold HistoryState.finishDm
  split
  · next dm f hflight =>
    show writeGatedStatus s.db dm f id = none
    rw [writeGatedStatus_eq]
    exact Table.modify_eq_none hnone
  · exact hnone

theorem beginDm_noRow (hnone : s.db id = none) {env : Env} {dm : TradeDm}
    (hchild : ∀ o, tradeDmPath s.db dm = .rangeChild o → o.id.getD env.freshId ≠ id) :
    (s.beginDm ops env dm).db id = none := by
  unfold HistoryState.beginDm
  split
  · exact handleTradeDmBegin_noRow hnone hchild
  · exact hnone

/-- No step but a write of its own brings the row of an order back. -/
theorem noRow_next {e : HistoryEvent} (hg : LeavesAlone id s e) (hnone : s.db id = none) :
    (historyNext U parseKeys ops s e).db id = none := by
  cases e with
  | deleteOrder orderId failure => exact deleteOrder_noRow hnone orderId failure
  | readCleanup rows => exact hnone
  | runCleanup affected => exact runCleanup_noRow hnone affected
  | report result => exact hnone
  | apply env read => exact applyNext_noRow hnone env read
  | notify env n =>
    show (s.notify env n).db id = none
    unfold HistoryState.notify
    split <;> exact hnone
  | openBatch orderId =>
    show (s.openBatch orderId).db id = none
    unfold HistoryState.openBatch
    split <;> exact hnone
  | beginDm env dm => exact beginDm_noRow hnone fun o => hg.children env dm o rfl
  | finishDm => exact finishDm_noRow hnone
  | untrackOrder orderId => exact hnone
  | trackOrder orderId tradeIndex => exact hnone
  | closeBatch =>
    show s.closeBatch.db id = none
    unfold HistoryState.closeBatch
    split <;> exact hnone
  | writeDb db => exact hg.writes db rfl
  | edit e => exact hnone

end

/-! ## The step and the run -/

section
variable {U : UuidText} {parseKeys : String → Option Keys} {ops : ChatOps} {id : Uuid}
  {s : HistoryState}

/-- A result that leaves an order dropped, with what the main loop reads for it. -/
theorem gone_applied {env : UiEnv} {read : HistoryRead} {r : OperationResult}
    (hnone : s.db id = none) (hread : ∀ rows, read.rows = some rows → HistoryRows s.db rows)
    (hdropped : Deleted ((applyOrderResult env s.app r).getD s.app) id) (hat : NotAt s id)
    (hlisted : ∀ item ∈ s.makerBook, item.orderId ≠ U.text id) :
    Gone U (applyWithReads U parseKeys env read s r) id := by
  have hbook : ∀ item ∈ (if refreshesMakerBook r && s.app.userRole = .user then
      refreshMyTradesMakerBookCache U read s.makerBook else s.makerBook),
      item.orderId ≠ U.text id := by
    split
    · exact unlisted_refresh U hnone hread hlisted
    · exact hlisted
  unfold applyWithReads
  dsimp only
  split
  · next hpanic =>
    rw [hpanic] at hdropped
    exact ⟨hnone, hdropped, ⟨hat.batch, hat.inFlight⟩, hbook⟩
  · next app' happ =>
    rw [happ] at hdropped
    refine ⟨hnone, ?_, ⟨hat.batch, hat.inFlight⟩, hbook⟩
    dsimp only
    split
    · exact hdropped.sync parseKeys hnone hread
    · exact hdropped

/-- The listener takes up a DM of another order. -/
theorem Gone.beginDm (h : Gone U s id) {env : Env} {dm : TradeDm}
    (hnone : (s.beginDm ops env dm).db id = none) : Gone U (s.beginDm ops env dm) id := by
  unfold HistoryState.beginDm at hnone ⊢
  split at hnone
  · next hbatch =>
    have hother : dm.orderId ≠ id := fun heq => h.notAt.batch (heq ▸ hbatch.1)
    rw [if_pos hbatch]
    refine ⟨hnone, ⟨h.dropped.listed, ?_, h.dropped.index, h.dropped.header⟩,
      ⟨h.notAt.batch, ?_⟩, h.unlisted⟩
    · exact fun hrow => h.dropped.message ((handleTradeDmBegin_hasRow env s.trade dm id).1 hrow).1
    · intro dm' f' hflight
      obtain ⟨f, -, heq⟩ := Option.map_eq_some_iff.1 hflight
      obtain ⟨rfl, -⟩ := Prod.mk.inj heq
      exact hother
  · next hbatch =>
    rw [if_neg hbatch]
    exact h

/-- The listener finishes a DM of another order. -/
theorem Gone.finishDm (h : Gone U s id) (hnone : s.finishDm.db id = none) :
    Gone U s.finishDm id := by
  unfold HistoryState.finishDm at hnone ⊢
  split at hnone
  · next dm f hflight =>
    have hother : dm.orderId ≠ id := h.notAt.inFlight dm f hflight
    have hrow : ¬ HasRow (handleTradeDmFinish s.trade dm f).messages id := by
      rw [handleTradeDmFinish_hasRow]
      rintro (hold | ⟨heq, -⟩)
      · exact h.dropped.message hold
      · exact hother heq.symm
    refine ⟨hnone, ⟨h.dropped.listed, hrow, h.dropped.index, h.dropped.header⟩,
      ⟨h.notAt.batch, ?_⟩, h.unlisted⟩
    intro dm' f' hflight'
    cases hflight'
  · exact h

/-- The listener starts a batch; it refuses one of a dropped order. -/
theorem Gone.openBatch (h : Gone U s id) (orderId : Uuid) : Gone U (s.openBatch orderId) id := by
  unfold HistoryState.openBatch
  split
  · exact h
  · next hopen =>
    refine ⟨h.noRow, h.dropped, ⟨fun hbatch => hopen (.inr ?_), h.notAt.inFlight⟩, h.unlisted⟩
    rw [Option.some.inj hbatch]
    exact h.dropped.listed

theorem Gone.closeBatch (h : Gone U s id) : Gone U s.closeBatch id := by
  unfold HistoryState.closeBatch
  split
  · exact h
  · exact ⟨h.noRow, h.dropped, ⟨(Option.some_ne_none id).symm, h.notAt.inFlight⟩, h.unlisted⟩

/-- A state that differs in none of what a deletion is about. -/
theorem Gone.of_kept (h : Gone U s id) {s' : HistoryState} (hnone : s'.db id = none)
    (hdropped : Deleted s'.app id) (hbatch : s'.batch = s.batch) (hflight : s'.inFlight = s.inFlight)
    (hbook : s'.makerBook = s.makerBook) : Gone U s' id where
  noRow := hnone
  dropped := hdropped
  notAt := ⟨hbatch ▸ h.notAt.batch, hflight ▸ h.notAt.inFlight⟩
  unlisted := hbook ▸ h.unlisted

theorem Gone.runCleanup (h : Gone U s id) (affected : Except String Nat) :
    Gone U (s.runCleanup affected) id := by
  have hnone : (s.runCleanup affected).db id = none := runCleanup_noRow h.noRow affected
  unfold HistoryState.runCleanup at hnone ⊢
  split at hnone
  · exact h.of_kept hnone h.dropped rfl rfl rfl
  · exact h

theorem Gone.notify (h : Gone U s id) (env : UiEnv) (n : MessageNotification) :
    Gone U (s.notify env n) id := by
  unfold HistoryState.notify
  split
  · next app happ =>
    exact h.of_kept h.noRow (h.dropped.handleMessageNotification happ) rfl rfl rfl
  · exact h

/-- The main loop applies a result that is not about the order. -/
theorem Gone.applyNext (h : Gone U s id) {env : UiEnv} {read : HistoryRead}
    (hread : ∀ rows, read.rows = some rows → HistoryRows s.db rows)
    (hresult : ∀ r results, s.results = r :: results → ¬ r.Brings id) :
    Gone U (s.applyNext U parseKeys env read) id := by
  unfold HistoryState.applyNext
  split
  · next r results hresults =>
    refine gone_applied (s := { s with results := results }) h.noRow hread ?_
      ⟨h.notAt.batch, h.notAt.inFlight⟩ h.unlisted
    cases happ : applyOrderResult env s.app r with
    | none => exact h.dropped
    | some app' => exact h.dropped.applyOrderResult (hresult r results hresults) happ
  · exact h

/-- **The step.** A step that leaves a deleted order alone leaves it gone. -/
theorem gone_next {e : HistoryEvent} (hg : LeavesAlone id s e) (h : Gone U s id) :
    Gone U (historyNext U parseKeys ops s e) id := by
  have hnone : (historyNext U parseKeys ops s e).db id = none := noRow_next hg h.noRow
  cases e with
  | deleteOrder orderId failure => exact h.of_kept hnone h.dropped rfl rfl rfl
  | readCleanup rows => exact h.of_kept hnone h.dropped rfl rfl rfl
  | runCleanup affected => exact h.runCleanup affected
  | report result => exact h.of_kept hnone h.dropped rfl rfl rfl
  | apply env read =>
    exact h.applyNext (fun rows => hg.reads env read rows rfl)
      fun r results => hg.results env read r results rfl
  | notify env n => exact h.notify env n
  | openBatch orderId => exact h.openBatch orderId
  | beginDm env dm => exact h.beginDm hnone
  | finishDm => exact h.finishDm hnone
  | untrackOrder orderId =>
    have hdropped : Deleted (s.app.editIndices (·.erase orderId)) id :=
      h.dropped.editIndices (erase_eq_none · orderId)
    exact h.of_kept h.noRow hdropped rfl rfl rfl
  | trackOrder orderId tradeIndex =>
    have hne : id ≠ orderId := by
      rintro rfl
      exact hg.tracks tradeIndex rfl
    have hdropped : Deleted (s.app.editIndices (trackIndex · orderId tradeIndex)) id := by
      refine h.dropped.editIndices fun hindex => ?_
      rw [trackIndex, Table.put_of_ne hne, hindex, Option.filter_none]
    exact h.of_kept h.noRow hdropped rfl rfl rfl
  | closeBatch => exact h.closeBatch
  | writeDb db => exact h.of_kept hnone h.dropped rfl rfl rfl
  | edit e => exact h.of_kept h.noRow (h.dropped.editMessages (hg.edits e rfl)) rfl rfl rfl

/-- An order that is gone is not in My Trades. -/
theorem Gone.not_listed (h : Gone U s id) (R : Rating) (iter : IterationOrder)
    {item : OrderChatListItem}
    (hitem : item ∈ buildActiveOrderChatList U iter (s.app.messages.map R.rated) s.makerBook) :
    item.orderId ≠ U.text id := by
  intro heq
  rcases mem_buildActiveOrderChatList.1 hitem with hrow | ⟨hbook, -⟩
  · have hnil : rowsOf s.app.messages id = [] := rowsOf_eq_nil_iff.2 h.dropped.message
    rw [heq, rowFor_of_rowsOf_nil hnil] at hrow
    cases hrow
  · exact h.unlisted item hbook heq

/-- A deletion is final: from the result that names an order on, whatever arrives and in whatever
order, the order stays without a row in the table and in the Messages list, without an index and a
header, its DMs are refused, and My Trades does not show it, as long as the user asks nothing more
about it and no other task writes its row. The listener must not be in a batch of it when the result
is applied. -/
theorem deleted_for_good (R : Rating) (iter : IterationOrder) {env : UiEnv} {read : HistoryRead}
    {ids : List Uuid} {message : String} {results : List OperationResult}
    (hresult : s.results = .orderHistoryDeleted ids message :: results) (hid : id ∈ ids)
    (hnone : s.db id = none) (hmessages : s.app.messagesPoisoned = false)
    (hindices : s.app.indicesPoisoned = false) (hat : NotAt s id)
    (hlisted : ∀ item ∈ s.makerBook, item.orderId ≠ U.text id) {es : List HistoryEvent}
    (hrun : Run.Guarded (historyNext U parseKeys ops) (LeavesAlone id) s (.apply env read :: es)) :
    let s' := (HistoryEvent.apply env read :: es).foldl (historyNext U parseKeys ops) s
    Gone U s' id ∧ historyNext U parseKeys ops s' (.openBatch id) = s' ∧
      ∀ item ∈ buildActiveOrderChatList U iter (s'.app.messages.map R.rated) s'.makerBook,
        item.orderId ≠ U.text id := by
  intro s'
  have hfirst : Gone U (s.applyNext U parseKeys env read) id := by
    unfold HistoryState.applyNext
    rw [hresult]
    refine gone_applied (s := { s with results := results }) hnone
      (fun rows hrows => hrun.1.reads env read rows rfl hrows) ?_ ⟨hat.batch, hat.inFlight⟩ hlisted
    exact dropped_of_deletion hid hmessages hindices (Option.some_get rfl).symm
  have hgone : Gone U s' id := hrun.2.invariant (fun _ _ => gone_next) hfirst
  exact ⟨hgone, if_pos (.inr hgone.dropped.listed), fun item => hgone.not_listed R iter⟩

end

/-! ## Runs -/

/-- The row of a trade that is over. -/
def closedOrder (status : Status) : Order where
  id := 7
  status := some status
  tradeKeys := some "trade"
  isMine := false
  tradeIndex := some 5

/-- The user looks at the trade. -/
def tradeShown (db : Db) : HistoryState where
  db := db
  app := { messages := [(peerMessage 7 5).toOrderMessage] }

/-- What a read of a table without rows finds. -/
def emptyRead : HistoryRead := ⟨some "identity", some [], 50⟩

/-- Steps of runs in which no key is parsed and every key is one. -/
abbrev plainNext : HistoryState → HistoryEvent → HistoryState :=
  historyNext uuidText (fun _ => none) plainChatOps

theorem LeavesAlone.openBatch (id : Uuid) (s : HistoryState) (orderId : Uuid) :
    LeavesAlone id s (.openBatch orderId) where
  writes := fun _ h => HistoryEvent.noConfusion h
  children := fun _ _ _ h => HistoryEvent.noConfusion h
  reads := fun _ _ _ h => HistoryEvent.noConfusion h
  results := fun _ _ _ _ h => HistoryEvent.noConfusion h
  edits := fun _ h => HistoryEvent.noConfusion h
  tracks := fun _ h => HistoryEvent.noConfusion h

/-- The next result is not about the order, and its read is of the table. -/
theorem LeavesAlone.apply {id : Uuid} {s : HistoryState} {env : UiEnv} {read : HistoryRead}
    (hread : ∀ rows, read.rows = some rows → HistoryRows s.db rows)
    (hresult : ∀ r results, s.results = r :: results → ¬ r.Brings id) :
    LeavesAlone id s (.apply env read) where
  writes := fun _ h => HistoryEvent.noConfusion h
  children := fun _ _ _ h => HistoryEvent.noConfusion h
  reads := by
    intro env' read' rows hevent
    obtain ⟨-, rfl⟩ := HistoryEvent.apply.inj hevent
    exact hread rows
  results := fun _ _ r results _ => hresult r results
  edits := fun _ h => HistoryEvent.noConfusion h
  tracks := fun _ h => HistoryEvent.noConfusion h

/-- The trade is deleted, and a DM of it comes afterwards. -/
theorem deleted_for_good_closed :
    let s := plainNext (tradeShown (Table.empty.put 7 (closedOrder .success))) (.deleteOrder 7 none)
    let s' := [HistoryEvent.apply {} emptyRead, .openBatch 7].foldl plainNext s
    plainNext s' (.openBatch 7) = s' ∧
      ∀ item ∈ buildActiveOrderChatList uuidText inserted (s'.app.messages.map unrated.rated)
        s'.makerBook, item.orderId ≠ uuidText.text 7 := by
  intro s s'
  have hdb : ∀ id, s.db id = none := by
    intro id
    by_cases hid : id = 7
    · subst hid
      rfl
    · show (Table.erase (Table.put Table.empty 7 (closedOrder .success)) 7) id = none
      rw [Table.erase_of_ne hid, Table.put_of_ne hid]
      rfl
  have hread : HistoryRows s.db [] := by
    refine ⟨.nil, fun row => ⟨fun hrow => absurd hrow List.not_mem_nil, fun h => ?_⟩⟩
    rw [hdb] at h
    cases h.1
  have hresults : s.results =
      [.orderHistoryDeleted [7] s!"Deleted order {uuidText.text 7} from local history."] := rfl
  have hrun : Run.Guarded plainNext (LeavesAlone 7) s [.apply {} emptyRead, .openBatch 7] := by
    rw [Run.guarded_cons, Run.guarded_cons]
    refine ⟨.apply ?_ ?_, .openBatch 7 _ 7, Run.guarded_nil _⟩
    · intro rows hrows
      exact Option.some.inj hrows ▸ hread
    · intro r results hr
      rw [hresults] at hr
      obtain ⟨rfl, -⟩ := List.cons.inj hr
      exact fun h => h
  have hat : NotAt s 7 :=
    ⟨(Option.some_ne_none 7).symm, fun _ _ h => absurd h (Option.some_ne_none _).symm⟩
  have hlisted : ∀ item ∈ s.makerBook, item.orderId ≠ uuidText.text 7 :=
    fun _ h => absurd h List.not_mem_nil
  exact (deleted_for_good unrated inserted hresults (List.mem_singleton_self 7) (hdb 7) rfl rfl hat
    hlisted hrun).2

/-- A batch of the trade that is under way when the deletion is applied brings its row back. -/
theorem open_batch_brings_back :
    let dm : TradeDm :=
      { orderId := 7, tradeIndex := 5, timestamp := 60, sender := "mostro"
        tradeKeys := ⟨"trade", "pub:trade"⟩, notify := true
        message := { action := .rate } }
    let s := plainNext (tradeShown (Table.empty.put 7 (closedOrder .success))) (.openBatch 7)
    let s' := [HistoryEvent.beginDm ⟨60, 0⟩ dm, .deleteOrder 7 none, .apply {} emptyRead,
      .finishDm].foldl plainNext s
    s'.db 7 = none ∧ 7 ∈ s'.app.droppedUserHistoryOrderIds ∧ HasRow s'.app.messages 7 := by
  unfold HasRow
  decide

/-- A listing that is still cached is shown after its order was deleted. -/
theorem cached_listing_stays :
    let listing : OrderChatListItem := { orderId := uuidText.text 7, status := some .pending }
    let s := { tradeShown (Table.empty.put 7 (closedOrder .expired)) with makerBook := [listing] }
    let s' := [HistoryEvent.deleteOrder 7 none, .apply {} emptyRead].foldl plainNext s
    s'.db 7 = none ∧
      listing ∈ buildActiveOrderChatList uuidText inserted (s'.app.messages.map unrated.rated)
        s'.makerBook := by
  decide

/-- A trade that succeeds between the two statements of a cleanup is deleted from the table and
stays in the Messages list. -/
theorem cleanup_leaves_row :
    let active : Db := Table.empty.put 7 (closedOrder .fiatSent)
    let s' := [HistoryEvent.readCleanup (some [closedOrder .fiatSent]),
      .writeDb (Table.empty.put 7 (closedOrder .success)), .runCleanup (.ok 1),
      .apply {} emptyRead].foldl plainNext (tradeShown active)
    s'.db 7 = none ∧ 7 ∉ s'.app.droppedUserHistoryOrderIds ∧ HasRow s'.app.messages 7 := by
  unfold HasRow
  decide

end Mostrix.Ui
