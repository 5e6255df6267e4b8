import Mostrix.TradeDm.MessagesLaw
import Mostrix.Ui.OperationResult
import Mostrix.Ui.OrderChatList

/-!
# My Trades and the table

`ui/helpers/startup.rs` and `models.rs`: the rows of a user's orders, one message made of each, and
the listings of the maker. At startup, and again once rows were deleted from the history, each
history row's message takes the place of all messages of its order; the other messages stay as they
were. My Trades is then read off the messages and the listings.

`rowsOf_sync` says what the Messages list holds of an order after that, whatever it held before, and
`my_trades_synced` what My Trades shows: the table's own data for every order with a row, and nothing
else that it did not show before.
-/

namespace Mostrix.Ui

/-! ## The rows of the history -/

/-- The condition of `get_user_history_orders`. -/
def historyOrder (row : Order) : Bool := (row.tradeKeys.filter (· ≠ "")).isSome

/-- The rows that `get_user_history_orders` returns; what it sorts them by is left open. -/
structure HistoryRows (db : Db) (rows : List Order) : Prop where
  distinct : KeyedList.Distinct Order.id rows
  mem : ∀ row, row ∈ rows ↔ db row.id = some row ∧ historyOrder row = true

/-- The action that a row without its last message is shown with. -/
def historyAction (order : Order) : Action :=
  if order.isMine then
    match order.status with
    | some .waitingMakerBond => .payBondInvoice
    | _ => .newOrder
  else
    match order.kind with
    | some .buy => .takeBuy
    | some .sell => .takeSell
    | none => .waitingSellerToPay

/-- `db_order_to_history_message`; the order in its payload has the columns that
`small_order_from_db_order` takes. -/
def dbOrderToHistoryMessage (now : Int) (sender : PublicKey) (order : Order) :
    Option OrderMessage :=
  order.tradeIndex.map fun tradeIndex =>
    { message :=
        { id := some order.id
          requestId := order.requestId.bind fun id => if 0 ≤ id then some id.toNat else none
          tradeIndex := some tradeIndex
          action := historyAction order
          payload := some (.order (smallOrderFromDbOrder order)) }
      timestamp := (order.lastSeenDmTs.or order.createdAt).getD now
      sender := sender
      orderId := some order.id
      tradeIndex := tradeIndex
      satAmount := none
      buyerInvoice := order.buyerInvoice
      orderKind := order.kind
      isMine := some order.isMine
      orderStatus := order.status
      orderSnapshot := some (smallOrderFromDbOrder order)
      read := true
      autoPopupShown :=
        match order.status with
        | some .waitingBuyerInvoice | some .waitingMakerBond | some .waitingTakerBond => false
        | _ => true }

/-- `order_chat_static_from_db_order`. -/
def orderChatStaticFromDbOrder (parseKeys : String → Option Keys) (row : Order) :
    Option OrderChatStaticHeader := do
  let tradeIndex ← row.tradeIndex
  let keysHex ← row.tradeKeys
  let tradeKeys ← parseKeys keysHex
  some
    { orderId := row.id
      kind := row.kind
      createdAt := row.createdAt
      tradeIndex := tradeIndex
      initiatorTradePubkey := tradeKeys.publicKey
      isMine := row.isMine
      solverPubkey := row.solverPubkey
      disputeId := row.disputeId }

/-! ## Reading the table -/

/-- What a read of the history finds: the user's identity key and the rows, each of which may fail
to load, and the clock. -/
structure HistoryRead where
  sender : Option PublicKey
  rows : Option (List Order)
  now : Int

/-- The messages of the history, newest first. -/
def historyMessages (now : Int) (sender : PublicKey) (rows : List Order) : List OrderMessage :=
  sortMessages (rows.filterMap (dbOrderToHistoryMessage now sender))

/-- The headers of the history's rows. -/
def putHeaders (parseKeys : String → Option Keys) (headers : Table Uuid OrderChatStaticHeader)
    (rows : List Order) : Table Uuid OrderChatStaticHeader :=
  (rows.filterMap (orderChatStaticFromDbOrder parseKeys)).foldl (fun t h => t.put h.orderId h)
    headers

/-- `sync_user_order_history_messages_from_db`. -/
def syncUserOrderHistoryMessagesFromDb (parseKeys : String → Option Keys) (read : HistoryRead)
    (app : AppState) : AppState :=
  match read.sender, read.rows with
  | some sender, some rows =>
    let app := app.editMessages (.syncHistory (historyMessages read.now sender rows))
    { app with orderChatStatic := putHeaders parseKeys app.orderChatStatic rows }
  | _, _ => app

/-- `refresh_my_trades_maker_book_cache`. -/
def refreshMyTradesMakerBookCache (U : UuidText) (read : HistoryRead)
    (makerBook : List OrderChatListItem) : List OrderChatListItem :=
  match read.rows with
  | some rows => rows.filterMap (orderChatListItemFromDbOrder U)
  | none => makerBook

/-! ## The messages after a read -/

/-- The message of an order's row, where the history has one. -/
def historyMessage (now : Int) (sender : PublicKey) (db : Db) (id : Uuid) : Option OrderMessage :=
  ((db id).filter historyOrder).bind (dbOrderToHistoryMessage now sender)

theorem orderId_of_history {now : Int} {sender : PublicKey} {row : Order} {m : OrderMessage}
    (h : dbOrderToHistoryMessage now sender row = some m) : m.orderId = some row.id := by
  obtain ⟨tradeIndex, -, rfl⟩ := Option.map_eq_some_iff.1 h
  rfl

section
variable {db : Db} {rows : List Order} {now : Int} {sender : PublicKey}

/-- The history's messages are those of the rows, under their own ids. -/
theorem mem_historyMessages (hrows : HistoryRows db rows)
    (hkeyed : ∀ id row, db id = some row → row.id = id) {m : OrderMessage} :
    m ∈ historyMessages now sender rows ↔
      ∃ id, m.orderId = some id ∧ historyMessage now sender db id = some m := by
  rw [historyMessages, mem_sortMessages, List.mem_filterMap]
  refine ⟨?_, ?_⟩
  · rintro ⟨row, hrow, hm⟩
    obtain ⟨hdb, hkeys⟩ := (hrows.mem row).1 hrow
    refine ⟨row.id, orderId_of_history hm, ?_⟩
    rw [historyMessage, hdb, Option.filter_some, if_pos hkeys, Option.bind_some, hm]
  · rintro ⟨id, -, hm⟩
    obtain ⟨row, hfilter, hrow⟩ := Option.bind_eq_some_iff.1 hm
    obtain ⟨hdb, hkeys⟩ := Option.filter_eq_some_iff.1 hfilter
    obtain rfl := hkeyed id row hdb
    exact ⟨row, (hrows.mem row).2 ⟨hdb, hkeys⟩, hrow⟩

/-- There is one for each order. -/
theorem distinct_historyMessages (hrows : HistoryRows db rows) :
    KeyedList.Distinct OrderMessage.orderId (historyMessages now sender rows) := by
  refine KeyedList.distinct_perm ?_ (List.perm_insertionSort _ _).symm
  have hpairs : (rows.filterMap (dbOrderToHistoryMessage now sender)).Pairwise
      fun a b => a.orderId ≠ b.orderId := by
    rw [List.pairwise_filterMap]
    refine hrows.distinct.imp fun hne a ha b hb heq => hne ?_
    rw [orderId_of_history ha, orderId_of_history hb] at heq
    exact Option.some.inj heq
  exact hpairs

/-- Replacing rows one after the other: an order that is among the new rows has its new row, any
other keeps its rows. -/
theorem rowsOf_foldl_replaceRow {history : List OrderMessage}
    (hdistinct : KeyedList.Distinct OrderMessage.orderId history) (messages : List OrderMessage)
    (id : Uuid) :
    rowsOf (history.foldl replaceRow messages) id =
      match history.find? fun m => m.orderId = some id with
      | some m => [m]
      | none => rowsOf messages id := by
  induction history generalizing messages with
  | nil => rfl
  | cons row history ih =>
    obtain ⟨hfirst, hrest⟩ := List.pairwise_cons.1 hdistinct
    rw [List.foldl_cons, ih hrest, List.find?_cons]
    by_cases hrow : row.orderId = some id
    · have hnone : history.find? (fun m => m.orderId = some id) = none := by
        refine List.find?_eq_none.2 fun m hm => ?_
        simpa [hrow, eq_comm] using hfirst m hm
      have hreplaced : rowsOf (replaceRow messages row) id = [row] := by
        rw [replaceRow, rowsOf_append]
        simp [rowsOf, hrow]
      simp only [hrow, decide_true, hnone, hreplaced]
    · have hkept : rowsOf (replaceRow messages row) id = rowsOf messages id := by
        rw [replaceRow, rowsOf_append]
        have hother : rowsOf [row] id = [] := by simp [rowsOf, hrow]
        rw [hother, List.append_nil, rowsOf, List.filter_filter, rowsOf]
        refine List.filter_congr fun m _ => ?_
        by_cases hm : m.orderId = some id <;> simp [hm, Ne.symm hrow]
      simp only [hrow, decide_false, hkept]

/-- What the Messages list holds of an order once the history is read: the message of the order's
row, where there is one, and else what it held. -/
theorem rowsOf_sync {parseKeys : String → Option Keys} {read : HistoryRead} {app : AppState}
    (hrows : HistoryRows db rows) (hkeyed : ∀ id row, db id = some row → row.id = id)
    (hread : read.rows = some rows) (hsender : read.sender = some sender)
    (hlock : app.messagesPoisoned = false) (id : Uuid) :
    (rowsOf (syncUserOrderHistoryMessagesFromDb parseKeys read app).messages id).Perm
      (match historyMessage read.now sender db id with
      | some m => [m]
      | none => rowsOf app.messages id) := by
  have hmessages : (syncUserOrderHistoryMessagesFromDb parseKeys read app).messages =
      sortMessages ((historyMessages read.now sender rows).foldl replaceRow app.messages) := by
    simp [syncUserOrderHistoryMessagesFromDb, hread, hsender, AppState.editMessages, hlock,
      MessagesEdit.run]
  rw [hmessages]
  refine (rowsOf_sortMessages _ _).trans (.of_eq ?_)
  rw [rowsOf_foldl_replaceRow (distinct_historyMessages hrows)]
  cases hfind : (historyMessages read.now sender rows).find? fun m => m.orderId = some id with
  | some m =>
    have hid : m.orderId = some id := by simpa using List.find?_some hfind
    obtain ⟨id', hid', hm⟩ :=
      (mem_historyMessages hrows hkeyed).1 (List.mem_of_find?_eq_some hfind)
    obtain rfl : id' = id := Option.some.inj (hid'.symm.trans hid)
    rw [hm]
  | none =>
    cases hm : historyMessage read.now sender db id with
    | none => rfl
    | some m =>
      have hid : m.orderId = some id := by
        obtain ⟨row, hfilter, hrow⟩ := Option.bind_eq_some_iff.1 hm
        rw [orderId_of_history hrow, hkeyed id row (Option.filter_eq_some_iff.1 hfilter).1]
      have hmem := (mem_historyMessages hrows hkeyed).2 ⟨id, hid, hm⟩
      exact absurd (decide_eq_true hid) (List.find?_eq_none.1 hfind m hmem)

end

/-! ## My Trades after a read -/

section
variable {U : UuidText} {db : Db} {rows : List Order} {sender : PublicKey} {read : HistoryRead}
  {app : AppState}

/-- The row of My Trades that an order of the table is shown as. -/
def tableItem (U : UuidText) (order : Order) (tradeIndex : Int) : OrderChatListItem where
  orderId := U.text order.id
  status := order.status
  amount := some order.amount
  fiat := some (order.fiatAmount, order.fiatCode)
  tradeIndex := some tradeIndex
  paymentMethod := some order.paymentMethod
  premium := some order.premium

/-- The row of a history message shows the table's data. -/
theorem rowOfMessage_history {now : Int} {order : Order} {m : RatedMessage}
    (h : dbOrderToHistoryMessage now sender order = some m.toOrderMessage) {tradeIndex : Int}
    (hindex : order.tradeIndex = some tradeIndex) :
    rowOfMessage U (U.text order.id) m = tableItem U order tradeIndex := by
  obtain ⟨message, reputation⟩ := m
  rw [dbOrderToHistoryMessage, hindex, Option.map_some] at h
  obtain rfl := Option.some.inj h
  cases hstatus : order.status <;>
    simp [rowOfMessage, mergeMessageIntoEntry, mergeOrderFields, smallOrderFromDbOrder, tableItem,
      hstatus]

/-- A message of the list with what My Trades reads besides of it. -/
structure Rating where
  rated : OrderMessage → RatedMessage
  toOrderMessage : ∀ m, (rated m).toOrderMessage = m

variable {R : Rating}

theorem filter_isFor_rated (messages : List OrderMessage) (id : Uuid) :
    (messages.map R.rated).filter (·.isFor U (U.text id)) = (rowsOf messages id).map R.rated := by
  rw [List.filter_map, rowsOf]
  refine congrArg (List.map R.rated) (List.filter_congr fun m _ => ?_)
  rw [Bool.eq_iff_iff, Function.comp_apply, isFor_text_iff, R.toOrderMessage, decide_eq_true_eq]

/-- An order with one message is shown as that message. -/
theorem rowFor_of_rowsOf {messages : List OrderMessage} {id : Uuid} {m : OrderMessage}
    (h : rowsOf messages id = [m]) :
    rowFor U (U.text id) (messages.map R.rated) =
      some (rowOfMessage U (U.text id) (R.rated m)) := by
  rw [rowFor, filter_isFor_rated, h]
  rfl

/-- One without a message is not. -/
theorem rowFor_of_rowsOf_nil {messages : List OrderMessage} {id : Uuid}
    (h : rowsOf messages id = []) : rowFor U (U.text id) (messages.map R.rated) = none := by
  rw [rowFor, filter_isFor_rated, h]
  rfl

/-- The list of an order's rows is empty exactly when it has no row. -/
theorem rowsOf_eq_nil_iff {messages : List OrderMessage} {id : Uuid} :
    rowsOf messages id = [] ↔ ¬ HasRow messages id := by
  rw [rowsOf, List.filter_eq_nil_iff]
  simp [HasRow]

/-- A row of My Trades from the messages is an order's. -/
theorem exists_text_of_rowFor {messages : List RatedMessage} {key : String}
    {item : OrderChatListItem} (h : rowFor U key messages = some item) :
    ∃ id, U.text id = key := by
  by_contra hno
  have hnone : rowFor U key messages = none := by
    refine rowFor_eq_none_iff.2 fun msg _ hfor => hno ?_
    obtain ⟨id, -, hid⟩ := isFor_iff.1 hfor
    exact ⟨id, hid⟩
  rw [hnone] at h
  cases h

/-- A list with one row per order has at most one row of an order. -/
theorem rowsOf_of_listed {messages : List OrderMessage} (h : MessagesListed messages) {id : Uuid}
    {m : OrderMessage} (hm : m ∈ messages) (hid : m.orderId = some id) :
    rowsOf messages id = [m] := by
  have hnodup : messages.Nodup := (KeyedList.distinct_iff_nodup.1 h.oneRow).of_map
  refine List.perm_singleton.1 ((List.perm_ext_iff_of_nodup (hnodup.filter _)
    (List.nodup_singleton m)).2 fun m' => ?_)
  rw [List.mem_filter, decide_eq_true_eq, List.mem_singleton]
  refine ⟨fun hm' => h.eq_of_orderId hm hm'.1 (hm'.2.trans hid.symm), ?_⟩
  rintro rfl
  exact ⟨hm, hid⟩

/-- The row of an order after a read: that of its history message, where there is one, and else that
of the message that was there. -/
theorem rowFor_synced (parseKeys : String → Option Keys) (hrows : HistoryRows db rows)
    (hkeyed : ∀ id row, db id = some row → row.id = id) (hread : read.rows = some rows)
    (hsender : read.sender = some sender) (hlock : app.messagesPoisoned = false)
    (hlisted : MessagesListed app.messages) (id : Uuid) :
    rowFor U (U.text id)
        ((syncUserOrderHistoryMessagesFromDb parseKeys read app).messages.map R.rated) =
      ((historyMessage read.now sender db id).or (rowsOf app.messages id).head?).map
        fun m => rowOfMessage U (U.text id) (R.rated m) := by
  have hsync : (rowsOf (syncUserOrderHistoryMessagesFromDb parseKeys read app).messages id).Perm _ :=
    rowsOf_sync hrows hkeyed hread hsender hlock id
  cases hm : historyMessage read.now sender db id with
  | some m =>
    rw [hm] at hsync
    rw [rowFor_of_rowsOf (List.perm_singleton.1 hsync)]
    rfl
  | none =>
    rw [hm] at hsync
    dsimp only at hsync
    cases hold : rowsOf app.messages id with
    | nil =>
      rw [hold] at hsync
      rw [rowFor_of_rowsOf_nil (List.perm_nil.1 hsync)]
      rfl
    | cons m ms =>
      have hmem : m ∈ rowsOf app.messages id := hold ▸ List.mem_cons_self
      obtain ⟨hin, hid⟩ := List.mem_filter.1 hmem
      rw [rowsOf_of_listed hlisted hin (of_decide_eq_true hid)] at hsync hold
      rw [rowFor_of_rowsOf (List.perm_singleton.1 hsync), ← (List.cons.inj hold).1]
      rfl

/-- What a read of the history leaves in My Trades: the table's own data for each order whose row
has an index, the message that was there for an order without one, and a listing only where its
order has neither. -/
theorem my_trades_synced (parseKeys : String → Option Keys) (hrows : HistoryRows db rows)
    (hkeyed : ∀ id row, db id = some row → row.id = id) (hread : read.rows = some rows)
    (hsender : read.sender = some sender) (hlock : app.messagesPoisoned = false)
    (hlisted : MessagesListed app.messages) (iter : IterationOrder)
    (makerBook : List OrderChatListItem) (item : OrderChatListItem) :
    item ∈ buildActiveOrderChatList U iter
        ((syncUserOrderHistoryMessagesFromDb parseKeys read app).messages.map R.rated) makerBook ↔
      (∃ id order tradeIndex, db id = some order ∧ historyOrder order = true ∧
        order.tradeIndex = some tradeIndex ∧ item = tableItem U order tradeIndex) ∨
      (∃ m ∈ app.messages, ∃ id, m.orderId = some id ∧
        historyMessage read.now sender db id = none ∧
        item = rowOfMessage U (U.text id) (R.rated m)) ∨
      (item ∈ makerBook ∧ ∀ id, U.text id = item.orderId →
        historyMessage read.now sender db id = none ∧ ¬ HasRow app.messages id) := by
  have hrow := fun id => rowFor_synced (U := U) (R := R) parseKeys hrows hkeyed hread hsender hlock
    hlisted id
  rw [mem_buildActiveOrderChatList]
  refine ⟨?_, ?_⟩
  · rintro (hitem | ⟨hbook, hnone⟩)
    · obtain ⟨id, hid⟩ := exists_text_of_rowFor hitem
      rw [← hid, hrow] at hitem
      obtain ⟨m, hm, rfl⟩ := Option.map_eq_some_iff.1 hitem
      cases hhistory : historyMessage read.now sender db id with
      | some m' =>
        rw [hhistory] at hm
        obtain rfl := Option.some.inj hm
        obtain ⟨order, hfilter, hmessage⟩ := Option.bind_eq_some_iff.1 hhistory
        obtain ⟨hdb, hkeys⟩ := Option.filter_eq_some_iff.1 hfilter
        obtain ⟨tradeIndex, hindex, -⟩ := Option.map_eq_some_iff.1 hmessage
        refine .inl ⟨id, order, tradeIndex, hdb, hkeys, hindex, ?_⟩
        have horder := hkeyed id order hdb
        rw [← horder]
        exact rowOfMessage_history (by rw [R.toOrderMessage]; exact hmessage) hindex
      | none =>
        rw [hhistory, Option.none_or] at hm
        obtain ⟨hin, hmid⟩ := List.mem_filter.1 (List.mem_of_mem_head? hm)
        exact .inr (.inl ⟨m, hin, id, of_decide_eq_true hmid, hhistory, rfl⟩)
    · refine .inr (.inr ⟨hbook, fun id hid => ?_⟩)
      rw [← hid, hrow, Option.map_eq_none_iff, Option.or_eq_none_iff, List.head?_eq_none_iff,
        rowsOf_eq_nil_iff] at hnone
      exact hnone
  · rintro (⟨id, order, tradeIndex, hdb, hkeys, hindex, rfl⟩ | ⟨m, hm, id, hmid, hnone, rfl⟩ |
      ⟨hbook, hnone⟩)
    · left
      have hhistory : historyMessage read.now sender db id =
          dbOrderToHistoryMessage read.now sender order := by
        rw [historyMessage, hdb, Option.filter_some, if_pos hkeys, Option.bind_some]
      obtain ⟨m, hm⟩ : ∃ m, dbOrderToHistoryMessage read.now sender order = some m := by
        rw [dbOrderToHistoryMessage, hindex]
        exact ⟨_, rfl⟩
      obtain rfl := hkeyed id order hdb
      show rowFor U (U.text order.id) _ = _
      rw [hrow, hhistory, hm, Option.some_or, Option.map_some,
        rowOfMessage_history (by rw [R.toOrderMessage]; exact hm) hindex]
    · left
      have hid : (rowOfMessage U (U.text id) (R.rated m)).orderId = U.text id :=
        orderId_mergeMessageIntoEntry _ _
      rw [hid, hrow, hnone, rowsOf_of_listed hlisted hm hmid]
      rfl
    · refine .inr ⟨hbook, ?_⟩
      by_cases hex : ∃ id, U.text id = item.orderId
      · obtain ⟨id, hid⟩ := hex
        obtain ⟨hhistory, hrowless⟩ := hnone id hid
        rw [← hid, hrow, hhistory, rowsOf_eq_nil_iff.2 hrowless]
        rfl
      · rw [Option.eq_none_iff_forall_ne_some]
        exact fun row hrow' => hex (exists_text_of_rowFor hrow')

end

/-- A trade of the user's that is in progress. -/
def activeOrder : Order where
  id := 7
  status := some .active
  fiatAmount := 20
  fiatCode := "EUR"
  tradeKeys := some "trade"
  isMine := false
  tradeIndex := some 5

/-- Messages without a rating. -/
def unrated : Rating := ⟨fun m => { toOrderMessage := m }, fun _ => rfl⟩

/-- The message of the trade and its old listing give way to the row. -/
theorem my_trades_synced_active :
    let app : AppState := { messages := [(peerMessage 7 5).toOrderMessage] }
    let read : HistoryRead := ⟨some "identity", some [activeOrder], 50⟩
    tableItem uuidText activeOrder 5 ∈
      buildActiveOrderChatList uuidText inserted
        ((syncUserOrderHistoryMessagesFromDb (fun _ => none) read app).messages.map unrated.rated)
        [{ orderId := uuidText.text 7, status := some .pending }] := by
  intro app read
  have hdb : ∀ id row, (Table.empty.put 7 activeOrder : Db) id = some row →
      row = activeOrder ∧ row.id = id := by
    intro id row h
    by_cases hid : id = 7
    · subst hid
      rw [Table.put_self] at h
      obtain rfl := Option.some.inj h
      exact ⟨rfl, rfl⟩
    · rw [Table.put_of_ne hid] at h
      cases h
  have hrows : HistoryRows (Table.empty.put 7 activeOrder) [activeOrder] := by
    refine ⟨List.pairwise_singleton _ _, fun row => ⟨?_, fun h => ?_⟩⟩
    · intro h
      obtain rfl := List.mem_singleton.1 h
      exact ⟨rfl, rfl⟩
    · exact List.mem_singleton.2 (hdb row.id row h.1).1
  have hlisted : MessagesListed app.messages :=
    ⟨List.pairwise_singleton _ _, List.pairwise_singleton _ _⟩
  exact (my_trades_synced (fun _ => none) hrows (fun id row h => (hdb id row h).2) rfl rfl rfl
    hlisted inserted _ _).2 (.inl ⟨7, activeOrder, 5, rfl, rfl, rfl, rfl⟩)

end Mostrix.Ui
