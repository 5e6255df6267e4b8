import Mathlib.Data.List.AList
import Mathlib.Data.List.Sort
import Mathlib.Data.Prod.Lex
import Mathlib.Data.String.Basic
import Mostrix.Library.Hex
import Mostrix.Library.KeyedList
import Mostrix.Orders.Store
import Mostrix.TradeDm.Messages

/-!
# The list of My Trades

`ui/helpers/order_chat_projection.rs`: the rows of the My Trades sidebar are read off the Messages
list, one for each order, and off the maker's listings that have no message. The rows of the
messages are collected in a hash map, which gives them back in any order, and then sorted. A row is
selected by its index, so the list has to come out the same each time.

`lookup_foldl_addMessage` says what the map holds of an order, whatever the messages are. With one
message for each order that is the row of the message, and `rowBefore` tells any two rows of the
list apart, so that sorting them has one result.
-/

namespace Mostrix.Ui

/-- `mostro_core::user::UserInfo`; the rating is the bits of a double. -/
structure UserInfo where
  rating : UInt64
  reviews : Int
  operatingDays : Nat
deriving DecidableEq, Repr

/-- An `OrderMessage` with the reputation that its `Payload::Peer` carries. -/
structure RatedMessage extends OrderMessage where
  reputation : Option UserInfo := none
deriving DecidableEq, Repr

/-- `OrderChatListItem`. -/
structure OrderChatListItem where
  orderId : String
  status : Option Status := none
  amount : Option Int := none
  fiat : Option (Int × String) := none
  tradeIndex : Option Int := none
  paymentMethod : Option String := none
  premium : Option Int := none
  buyerTradePubkey : Option String := none
  sellerTradePubkey : Option String := none
  buyerReputation : Option UserInfo := none
  sellerReputation : Option UserInfo := none
  solverPubkey : Option String := none
  disputeId : Option String := none
deriving DecidableEq, Repr

/-- `to_string` of a `uuid`, which is in a dependency. -/
structure UuidText where
  text : Uuid → String
  /-- The hyphenated form has all digits of the id. -/
  injective : Function.Injective text

/-- What a hash map iterates over its values as: each of them once. -/
structure IterationOrder where
  values : List OrderChatListItem → List OrderChatListItem
  perm : ∀ items, (values items).Perm items

/-! ## One row -/

section
variable (U : UuidText)

/-- `order_chat_list_item_from_db_order`. -/
def orderChatListItemFromDbOrder (order : Order) : Option OrderChatListItem :=
  if !order.isMine then none
  else if order.status ≠ some .pending then none
  else
    some
      { orderId := U.text order.id
        status := order.status
        amount := some order.amount
        fiat := some (order.fiatAmount, order.fiatCode)
        tradeIndex := order.tradeIndex
        paymentMethod := some order.paymentMethod
        premium := some order.premium
        solverPubkey := order.solverPubkey
        disputeId := order.disputeId.map U.text }

/-- `merge_order_fields`. -/
def mergeOrderFields (entry : OrderChatListItem) (order : SmallOrder) (msg : RatedMessage) :
    OrderChatListItem :=
  let entry :=
    { entry with
      buyerTradePubkey := order.buyerTradePubkey.or entry.buyerTradePubkey
      sellerTradePubkey := order.sellerTradePubkey.or entry.sellerTradePubkey }
  let entry :=
    if entry.amount.isNone then
      { entry with
        amount := some order.amount
        fiat := some (order.fiatAmount, order.fiatCode)
        paymentMethod := some order.paymentMethod
        premium := some order.premium }
    else entry
  { entry with tradeIndex := entry.tradeIndex.or (some msg.tradeIndex) }

/-- `merge_peer_fields`. -/
def mergePeerFields (entry : OrderChatListItem) (pubkey : String) (reputation : Option UserInfo) :
    OrderChatListItem :=
  match reputation with
  | none => entry
  | some reputation =>
    { entry with
      buyerReputation :=
        if entry.buyerTradePubkey = some pubkey then some reputation else entry.buyerReputation
      sellerReputation :=
        if entry.sellerTradePubkey = some pubkey then some reputation else entry.sellerReputation }

/-- `merge_message_into_entry`. -/
def mergeMessageIntoEntry (entry : OrderChatListItem) (msg : RatedMessage) : OrderChatListItem :=
  let entry :=
    { entry with
      tradeIndex := entry.tradeIndex.or (some msg.tradeIndex)
      status := msg.orderStatus.or entry.status }
  match msg.message.payload with
  | some (.order order) => mergeOrderFields entry order msg
  | some (.peer pubkey) =>
    if msg.message.action = .adminTookDispute then { entry with solverPubkey := some pubkey }
    else mergePeerFields entry pubkey msg.reputation
  | some (.dispute disputeId) => { entry with disputeId := some (U.text disputeId) }
  | _ => entry

/-- The row of an order from its first message. -/
def rowOfMessage (key : String) (msg : RatedMessage) : OrderChatListItem :=
  mergeMessageIntoEntry U
    { orderId := key, status := msg.orderStatus, tradeIndex := some msg.tradeIndex } msg

/-! ## The list -/

/-- The comparison of `sort_order_chat_rows`, when it is not `Greater`: the larger trade index comes
first, rows without one last, and the ids decide ties. -/
def rowBefore (a b : OrderChatListItem) : Bool :=
  match a.tradeIndex, b.tradeIndex with
  | some ia, some ib => if ib = ia then decide (a.orderId ≤ b.orderId) else decide (ib < ia)
  | some _, none => true
  | none, some _ => false
  | none, none => decide (a.orderId ≤ b.orderId)

/-- `sort_order_chat_rows`, a stable sort. -/
def sortOrderChatRows (rows : List OrderChatListItem) : List OrderChatListItem :=
  rows.insertionSort fun a b => rowBefore a b = true

/-- One round of the loop in `build_order_chat_list_from_messages`. -/
def addMessage (byOrder : AList fun _ : String => OrderChatListItem) (msg : RatedMessage) :
    AList fun _ : String => OrderChatListItem :=
  match msg.orderId with
  | none => byOrder
  | some orderId =>
    let key := U.text orderId
    match byOrder.lookup key with
    | some entry => byOrder.insert key (mergeMessageIntoEntry U entry msg)
    | none => byOrder.insert key (rowOfMessage U key msg)

/-- `build_order_chat_list_from_messages`. -/
def buildOrderChatListFromMessages (iter : IterationOrder) (messages : List RatedMessage) :
    List OrderChatListItem :=
  let byOrder := messages.foldl (addMessage U) ∅
  iter.values (byOrder.entries.map (·.2))

/-- `append_maker_book_rows_without_dm`. -/
def appendMakerBookRowsWithoutDm (rows makerBook : List OrderChatListItem) :
    List OrderChatListItem :=
  let messageIds := rows.map (·.orderId)
  rows ++ makerBook.filter fun item => item.orderId ∉ messageIds

/-- `build_active_order_chat_list`. -/
def buildActiveOrderChatList (iter : IterationOrder) (messages : List RatedMessage)
    (makerBook : List OrderChatListItem) : List OrderChatListItem :=
  sortOrderChatRows
    (appendMakerBookRowsWithoutDm (buildOrderChatListFromMessages U iter messages) makerBook)

end

/-! ## Sorting the rows -/

/-- What the rows are sorted by. -/
def rowKey (item : OrderChatListItem) : Lex (Bool × Lex (Int × String)) :=
  toLex (item.tradeIndex.isNone, toLex (-item.tradeIndex.getD 0, item.orderId))

theorem rowBefore_iff {a b : OrderChatListItem} : rowBefore a b = true ↔ rowKey a ≤ rowKey b := by
  unfold rowBefore rowKey
  rw [Prod.Lex.toLex_le_toLex, Prod.Lex.toLex_le_toLex]
  cases ha : a.tradeIndex with
  | none =>
    cases hb : b.tradeIndex with
    | none => simp
    | some ib => simp
  | some ia =>
    cases hb : b.tradeIndex with
    | none => simp
    | some ib =>
      by_cases heq : ib = ia
      · simp [heq]
      · have hne : ¬ ia = ib := fun h => heq h.symm
        simp [heq, hne]

theorem rowBefore_total (a b : OrderChatListItem) :
    rowBefore a b = true ∨ rowBefore b a = true := by
  rw [rowBefore_iff, rowBefore_iff]
  exact le_total _ _

theorem rowBefore_trans {a b c : OrderChatListItem} (hab : rowBefore a b = true)
    (hbc : rowBefore b c = true) : rowBefore a c = true := by
  rw [rowBefore_iff] at *
  exact hab.trans hbc

/-- Rows that no comparison tells apart are of one order. -/
theorem orderId_eq_of_rowBefore {a b : OrderChatListItem} (hab : rowBefore a b = true)
    (hba : rowBefore b a = true) : a.orderId = b.orderId := by
  rw [rowBefore_iff] at hab hba
  have hkey : rowKey a = rowKey b := le_antisymm hab hba
  have hpair := (Prod.mk.inj (toLex.injective hkey)).2
  exact (Prod.mk.inj (toLex.injective hpair)).2

theorem perm_sortOrderChatRows (rows : List OrderChatListItem) :
    (sortOrderChatRows rows).Perm rows := List.perm_insertionSort _ _

theorem pairwise_sortOrderChatRows (rows : List OrderChatListItem) :
    (sortOrderChatRows rows).Pairwise fun a b => rowBefore a b = true := by
  have htotal : Std.Total fun a b : OrderChatListItem => rowBefore a b = true := ⟨rowBefore_total⟩
  have htrans : IsTrans OrderChatListItem fun a b => rowBefore a b = true :=
    ⟨fun _ _ _ => rowBefore_trans⟩
  exact List.pairwise_insertionSort _ _

/-- Sorting rows of distinct orders has one result, in whatever order they come. -/
theorem sortOrderChatRows_eq_of_perm {rows rows' : List OrderChatListItem}
    (hids : KeyedList.Distinct OrderChatListItem.orderId rows) (hp : rows.Perm rows') :
    sortOrderChatRows rows = sortOrderChatRows rows' := by
  have hsorted : (sortOrderChatRows rows).Perm (sortOrderChatRows rows') :=
    ((perm_sortOrderChatRows rows).trans hp).trans (perm_sortOrderChatRows rows').symm
  refine List.Perm.eq_of_pairwise ?_ (pairwise_sortOrderChatRows rows)
    (pairwise_sortOrderChatRows rows') hsorted
  intro a b ha hb hab hba
  have hamem : a ∈ rows := (perm_sortOrderChatRows rows).mem_iff.1 ha
  have hbmem : b ∈ rows := hp.mem_iff.2 ((perm_sortOrderChatRows rows').mem_iff.1 hb)
  exact List.inj_on_of_nodup_map (KeyedList.distinct_iff_nodup.1 hids) hamem hbmem
    (orderId_eq_of_rowBefore hab hba)

/-! ## The rows of the messages -/

section
variable {U : UuidText}

/-- The message is about the order of the key. -/
def RatedMessage.isFor (U : UuidText) (key : String) (msg : RatedMessage) : Bool :=
  msg.orderId.map U.text = some key

/-- The row of an order after one more of its messages. -/
def addToRow (U : UuidText) (key : String) (entry : Option OrderChatListItem)
    (msg : RatedMessage) : Option OrderChatListItem :=
  match entry with
  | some entry => some (mergeMessageIntoEntry U entry msg)
  | none => some (rowOfMessage U key msg)

/-- The row of an order from all its messages. -/
def rowFor (U : UuidText) (key : String) (messages : List RatedMessage) :
    Option OrderChatListItem :=
  (messages.filter (·.isFor U key)).foldl (addToRow U key) none

theorem lookup_addMessage (byOrder : AList fun _ : String => OrderChatListItem)
    (msg : RatedMessage) (key : String) :
    (addMessage U byOrder msg).lookup key =
      if msg.isFor U key then addToRow U key (byOrder.lookup key) msg else byOrder.lookup key := by
  unfold addMessage RatedMessage.isFor
  cases hid : msg.orderId with
  | none => simp
  | some orderId =>
    by_cases hkey : U.text orderId = key
    · subst hkey
      cases hentry : byOrder.lookup (U.text orderId) with
      | none => simp [hentry, addToRow]
      | some entry => simp [hentry, addToRow]
    · have hne : key ≠ U.text orderId := Ne.symm hkey
      cases hentry : byOrder.lookup (U.text orderId) with
      | none => simp [hentry, hkey, AList.lookup_insert_ne hne]
      | some entry => simp [hentry, hkey, AList.lookup_insert_ne hne]

/-- What the map holds of an order: the row of its messages. -/
theorem lookup_foldl_addMessage (messages : List RatedMessage)
    (byOrder : AList fun _ : String => OrderChatListItem) (key : String) :
    (messages.foldl (addMessage U) byOrder).lookup key =
      (messages.filter (·.isFor U key)).foldl (addToRow U key) (byOrder.lookup key) := by
  induction messages generalizing byOrder with
  | nil => rfl
  | cons msg messages ih =>
    rw [List.foldl_cons, ih, lookup_addMessage]
    by_cases hfor : msg.isFor U key = true
    · rw [if_pos hfor, List.filter_cons_of_pos hfor, List.foldl_cons]
    · rw [if_neg hfor, List.filter_cons_of_neg hfor]

theorem orderId_mergeOrderFields (entry : OrderChatListItem) (order : SmallOrder)
    (msg : RatedMessage) : (mergeOrderFields entry order msg).orderId = entry.orderId := by
  unfold mergeOrderFields
  dsimp only
  split <;> rfl

theorem orderId_mergePeerFields (entry : OrderChatListItem) (pubkey : String)
    (reputation : Option UserInfo) :
    (mergePeerFields entry pubkey reputation).orderId = entry.orderId := by
  cases reputation <;> rfl

@[simp] theorem orderId_mergeMessageIntoEntry (entry : OrderChatListItem) (msg : RatedMessage) :
    (mergeMessageIntoEntry U entry msg).orderId = entry.orderId := by
  unfold mergeMessageIntoEntry
  dsimp only
  split
  · exact orderId_mergeOrderFields _ _ _
  · split
    · rfl
    · exact orderId_mergePeerFields _ _ _
  · rfl
  · rfl

theorem orderId_foldl_addToRow {key : String} {messages : List RatedMessage}
    {start : Option OrderChatListItem} (hstart : ∀ item, start = some item → item.orderId = key)
    {item : OrderChatListItem} (h : messages.foldl (addToRow U key) start = some item) :
    item.orderId = key := by
  induction messages generalizing start with
  | nil => exact hstart item h
  | cons msg messages ih =>
    refine ih (fun next hnext => ?_) h
    cases start with
    | none =>
      obtain rfl := Option.some.inj hnext
      exact orderId_mergeMessageIntoEntry _ _
    | some entry =>
      obtain rfl := Option.some.inj hnext
      rw [orderId_mergeMessageIntoEntry]
      exact hstart entry rfl

/-- The row of an order has its id. -/
theorem orderId_of_rowFor {key : String} {messages : List RatedMessage} {item : OrderChatListItem}
    (h : rowFor U key messages = some item) : item.orderId = key :=
  orderId_foldl_addToRow (by simp) h

/-- The rows of the messages, whatever order the map gives them in. -/
theorem mem_buildOrderChatListFromMessages {iter : IterationOrder} {messages : List RatedMessage}
    {item : OrderChatListItem} :
    item ∈ buildOrderChatListFromMessages U iter messages ↔
      rowFor U item.orderId messages = some item := by
  unfold buildOrderChatListFromMessages
  rw [(iter.perm _).mem_iff, List.mem_map]
  refine ⟨?_, ?_⟩
  · rintro ⟨⟨key, entry⟩, hmem, rfl⟩
    have hlookup := AList.mem_lookup_iff.2 hmem
    rw [lookup_foldl_addMessage, AList.lookup_empty] at hlookup
    have hid : entry.orderId = key := orderId_of_rowFor hlookup
    dsimp only
    rw [hid]
    exact hlookup
  · intro h
    refine ⟨⟨item.orderId, item⟩, AList.mem_lookup_iff.1 ?_, rfl⟩
    rw [lookup_foldl_addMessage, AList.lookup_empty]
    exact h

/-- There is one row for each order, whatever the messages are. -/
theorem distinct_buildOrderChatListFromMessages (iter : IterationOrder)
    (messages : List RatedMessage) :
    KeyedList.Distinct OrderChatListItem.orderId
      (buildOrderChatListFromMessages U iter messages) := by
  have hkeys : ∀ x ∈ (messages.foldl (addMessage U) ∅).entries, x.2.orderId = x.1 := by
    rintro ⟨key, entry⟩ hmem
    have hlookup := AList.mem_lookup_iff.2 hmem
    rw [lookup_foldl_addMessage, AList.lookup_empty] at hlookup
    exact orderId_of_rowFor hlookup
  refine KeyedList.distinct_perm ?_ (iter.perm _).symm
  rw [KeyedList.distinct_iff_nodup, List.map_map, List.map_congr_left (g := fun x => x.1) hkeys]
  exact (messages.foldl (addMessage U) ∅).nodupKeys

/-! ## The whole list -/

/-- The rows with the maker's listings: a row of the messages, or a listing without one. -/
theorem mem_appendMakerBook {rows makerBook : List OrderChatListItem} {item : OrderChatListItem} :
    item ∈ appendMakerBookRowsWithoutDm rows makerBook ↔
      item ∈ rows ∨ item ∈ makerBook ∧ item.orderId ∉ rows.map (·.orderId) := by
  rw [appendMakerBookRowsWithoutDm, List.mem_append, List.mem_filter, decide_eq_true_eq]

theorem distinct_appendMakerBook {rows makerBook : List OrderChatListItem}
    (hrows : KeyedList.Distinct OrderChatListItem.orderId rows)
    (hbook : KeyedList.Distinct OrderChatListItem.orderId makerBook) :
    KeyedList.Distinct OrderChatListItem.orderId (appendMakerBookRowsWithoutDm rows makerBook) := by
  refine List.pairwise_append.2 ⟨hrows, hbook.filter _, fun a ha b hb hab => ?_⟩
  have hnew : b.orderId ∉ rows.map (·.orderId) := by simpa using (List.mem_filter.1 hb).2
  exact hnew (hab ▸ List.mem_map_of_mem ha)

/-- What the list shows. -/
theorem mem_buildActiveOrderChatList {iter : IterationOrder} {messages : List RatedMessage}
    {makerBook : List OrderChatListItem} {item : OrderChatListItem} :
    item ∈ buildActiveOrderChatList U iter messages makerBook ↔
      rowFor U item.orderId messages = some item ∨
        item ∈ makerBook ∧ rowFor U item.orderId messages = none := by
  have hids : item.orderId ∈ (buildOrderChatListFromMessages U iter messages).map (·.orderId) ↔
      (rowFor U item.orderId messages).isSome := by
    rw [List.mem_map]
    refine ⟨?_, ?_⟩
    · rintro ⟨row, hrow, hid⟩
      rw [← hid, mem_buildOrderChatListFromMessages.1 hrow]
      rfl
    · intro hsome
      obtain ⟨row, hrow⟩ := Option.isSome_iff_exists.1 hsome
      have hid : row.orderId = item.orderId := orderId_of_rowFor hrow
      exact ⟨row, mem_buildOrderChatListFromMessages.2 (by rwa [hid]), hid⟩
  rw [buildActiveOrderChatList, (perm_sortOrderChatRows _).mem_iff, mem_appendMakerBook, hids,
    mem_buildOrderChatListFromMessages, Option.not_isSome_iff_eq_none]

theorem distinct_buildActiveOrderChatList (iter : IterationOrder) (messages : List RatedMessage)
    {makerBook : List OrderChatListItem}
    (hbook : KeyedList.Distinct OrderChatListItem.orderId makerBook) :
    KeyedList.Distinct OrderChatListItem.orderId
      (buildActiveOrderChatList U iter messages makerBook) :=
  KeyedList.distinct_perm
    (distinct_appendMakerBook (distinct_buildOrderChatListFromMessages iter messages) hbook)
    (perm_sortOrderChatRows _).symm

/-- No two messages are about one order. -/
def OneRowPerOrder (messages : List RatedMessage) : Prop :=
  messages.Pairwise fun a b => ∀ orderId, a.orderId = some orderId → b.orderId ≠ some orderId

theorem isFor_iff {key : String} {msg : RatedMessage} :
    msg.isFor U key = true ↔ ∃ orderId, msg.orderId = some orderId ∧ U.text orderId = key := by
  rw [RatedMessage.isFor, decide_eq_true_eq, Option.map_eq_some_iff]

theorem isFor_text_iff {orderId : Uuid} {msg : RatedMessage} :
    msg.isFor U (U.text orderId) = true ↔ msg.orderId = some orderId := by
  rw [isFor_iff]
  refine ⟨?_, fun h => ⟨orderId, h, rfl⟩⟩
  rintro ⟨orderId', hid, htext⟩
  rw [hid, U.injective htext]

/-- With one message for each order, an order's messages are that one. -/
theorem filter_isFor {messages : List RatedMessage} (hone : OneRowPerOrder messages)
    {msg : RatedMessage} (hmem : msg ∈ messages) {orderId : Uuid}
    (hid : msg.orderId = some orderId) :
    messages.filter (·.isFor U (U.text orderId)) = [msg] := by
  induction messages with
  | nil => cases hmem
  | cons m ms ih =>
    obtain ⟨hfirst, hrest⟩ := List.pairwise_cons.1 hone
    rcases List.mem_cons.1 hmem with rfl | hms
    · have hothers : ms.filter (·.isFor U (U.text orderId)) = [] := by
        refine List.filter_eq_nil_iff.2 fun b hb => ?_
        rw [isFor_text_iff]
        exact hfirst b hb orderId hid
      rw [List.filter_cons_of_pos (isFor_text_iff.2 hid), hothers]
    · have hm : ¬ m.isFor U (U.text orderId) = true := by
        rw [isFor_text_iff]
        exact fun h => hfirst msg hms orderId h hid
      rw [List.filter_cons_of_neg hm]
      exact ih hrest hms

/-- With one message for each order, the row of an order is the row of its message. -/
theorem rowFor_of_mem {messages : List RatedMessage} (hone : OneRowPerOrder messages)
    {msg : RatedMessage} (hmem : msg ∈ messages) {orderId : Uuid}
    (hid : msg.orderId = some orderId) :
    rowFor U (U.text orderId) messages = some (rowOfMessage U (U.text orderId) msg) := by
  rw [rowFor, filter_isFor hone hmem hid]
  rfl

theorem isSome_foldl_addToRow {key : String} (messages : List RatedMessage)
    {start : Option OrderChatListItem} (h : start.isSome) :
    (messages.foldl (addToRow U key) start).isSome := by
  induction messages generalizing start with
  | nil => exact h
  | cons msg messages ih =>
    refine ih ?_
    cases start <;> rfl

/-- An order without a message has no row. -/
theorem rowFor_eq_none_iff {key : String} {messages : List RatedMessage} :
    rowFor U key messages = none ↔ ∀ msg ∈ messages, ¬ msg.isFor U key = true := by
  rw [← List.filter_eq_nil_iff, rowFor]
  cases messages.filter (·.isFor U key) with
  | nil => exact iff_of_true rfl rfl
  | cons msg msgs =>
    refine iff_of_false ?_ (List.cons_ne_nil _ _)
    rw [List.foldl_cons, ← Option.not_isSome_iff_eq_none]
    exact not_not_intro (isSome_foldl_addToRow msgs rfl)

theorem oneRowPerOrder_perm {messages messages' : List RatedMessage}
    (hone : OneRowPerOrder messages) (hp : messages.Perm messages') : OneRowPerOrder messages' :=
  hone.perm hp fun h orderId hb ha => h orderId ha hb

/-- With one message for each order, the row of an order does not depend on the order of the
messages. -/
theorem rowFor_eq_of_perm {messages messages' : List RatedMessage} (hone : OneRowPerOrder messages)
    (hp : messages.Perm messages') (key : String) :
    rowFor U key messages = rowFor U key messages' := by
  by_cases hfor : ∃ msg ∈ messages, msg.isFor U key = true
  · obtain ⟨msg, hmem, hmsg⟩ := hfor
    obtain ⟨orderId, hid, rfl⟩ := isFor_iff.1 hmsg
    rw [rowFor_of_mem hone hmem hid,
      rowFor_of_mem (oneRowPerOrder_perm hone hp) (hp.mem_iff.1 hmem) hid]
  · have hnone : ∀ msg ∈ messages, ¬ msg.isFor U key = true := fun msg hmsg h =>
      hfor ⟨msg, hmsg, h⟩
    rw [rowFor_eq_none_iff.2 hnone, rowFor_eq_none_iff.2 fun msg hmsg =>
      hnone msg (hp.mem_iff.2 hmsg)]

/-- With one message for each order and a book of distinct listings, the list has one row for each
order; an order with a message has the row of the message, one with a listing alone has the listing,
and there is no other row; and neither the order of the messages nor that of the map changes the
list. -/
theorem buildActiveOrderChatList_canonical (U : UuidText) (iter : IterationOrder)
    (messages : List RatedMessage) (makerBook : List OrderChatListItem)
    (hone : OneRowPerOrder messages)
    (hbook : KeyedList.Distinct OrderChatListItem.orderId makerBook) :
    let rows := buildActiveOrderChatList U iter messages makerBook
    KeyedList.Distinct OrderChatListItem.orderId rows ∧
      (∀ msg ∈ messages, ∀ orderId, msg.orderId = some orderId →
        KeyedList.entry OrderChatListItem.orderId rows (U.text orderId) =
          some (rowOfMessage U (U.text orderId) msg)) ∧
      (∀ item ∈ makerBook, (∀ msg ∈ messages, msg.orderId.map U.text ≠ some item.orderId) →
        KeyedList.entry OrderChatListItem.orderId rows item.orderId = some item) ∧
      (∀ item ∈ rows, item ∈ makerBook ∨
        ∃ msg ∈ messages, msg.orderId.map U.text = some item.orderId) ∧
      ∀ (iter' : IterationOrder) (messages' : List RatedMessage), messages.Perm messages' →
        buildActiveOrderChatList U iter' messages' makerBook = rows := by
  intro rows
  have hdistinct : KeyedList.Distinct OrderChatListItem.orderId rows :=
    distinct_buildActiveOrderChatList iter messages hbook
  refine ⟨hdistinct, ?_, ?_, ?_, ?_⟩
  · intro msg hmsg orderId hid
    have hrow := rowFor_of_mem (U := U) hone hmsg hid
    have horderId := orderId_of_rowFor hrow
    refine (KeyedList.entry_eq_some_iff hdistinct).2 ⟨?_, horderId⟩
    exact mem_buildActiveOrderChatList.2 (.inl (by rwa [horderId]))
  · intro item hitem hnone
    refine (KeyedList.entry_eq_some_iff hdistinct).2 ⟨?_, rfl⟩
    refine mem_buildActiveOrderChatList.2 (.inr ⟨hitem, rowFor_eq_none_iff.2 fun msg hmsg => ?_⟩)
    rw [RatedMessage.isFor, decide_eq_true_eq]
    exact hnone msg hmsg
  · intro item hitem
    rcases mem_buildActiveOrderChatList.1 hitem with hrow | ⟨hbookItem, _⟩
    · refine .inr ?_
      by_contra hno
      have hnone : rowFor U item.orderId messages = none := by
        refine rowFor_eq_none_iff.2 fun msg hmsg hfor => hno ⟨msg, hmsg, ?_⟩
        rwa [RatedMessage.isFor, decide_eq_true_eq] at hfor
      rw [hnone] at hrow
      cases hrow
    · exact .inl hbookItem
  · intro iter' messages' hp
    have hdistinct' := distinct_appendMakerBook
      (distinct_buildOrderChatListFromMessages (U := U) iter' messages') hbook
    refine sortOrderChatRows_eq_of_perm hdistinct' ?_
    have hnodup' := (KeyedList.distinct_iff_nodup.1 hdistinct').of_map
    have hnodup := (KeyedList.distinct_iff_nodup.1 (distinct_appendMakerBook
      (distinct_buildOrderChatListFromMessages (U := U) iter messages) hbook)).of_map
    refine (List.perm_ext_iff_of_nodup hnodup' hnodup).2 fun item => ?_
    have hmem : ∀ (iter : IterationOrder) (messages : List RatedMessage),
        item ∈ appendMakerBookRowsWithoutDm (buildOrderChatListFromMessages U iter messages)
          makerBook ↔ item ∈ buildActiveOrderChatList U iter messages makerBook :=
      fun _ _ => (perm_sortOrderChatRows _).mem_iff.symm
    rw [hmem, hmem, mem_buildActiveOrderChatList, mem_buildActiveOrderChatList,
      rowFor_eq_of_perm hone hp]

end

/-! ## The maker's listings -/

/-- The listings read from a table of distinct orders are distinct. -/
theorem distinct_makerBook (U : UuidText) {orders : List Order}
    (h : KeyedList.Distinct Order.id orders) :
    KeyedList.Distinct OrderChatListItem.orderId
      (orders.filterMap (orderChatListItemFromDbOrder U)) := by
  have hid : ∀ {order : Order} {item}, orderChatListItemFromDbOrder U order = some item →
      item.orderId = U.text order.id := by
    intro order item hitem
    unfold orderChatListItemFromDbOrder at hitem
    split at hitem
    · cases hitem
    · split at hitem
      · cases hitem
      · obtain rfl := Option.some.inj hitem
        rfl
  refine List.pairwise_filterMap.2 (h.imp fun hab a ha b hb heq => hab ?_)
  rw [hid ha, hid hb] at heq
  exact U.injective heq

/-! ## A run -/

/-- The hyphenated text of a `uuid`, which has 128 bits; what has more is no `uuid`. -/
def hyphenatedText (id : Uuid) : String :=
  String.ofList
    (if id < 16 ^ 32 then Hex.hyphenate [8, 4, 4, 4] (Hex.digits 32 id)
    else List.replicate id ' ')

theorem hyphenatedText_injective : Function.Injective hyphenatedText := by
  intro m n h
  have hlist := String.ofList_injective h
  have hspace : ∀ {id k : Nat}, 0 < k →
      Hex.hyphenate [8, 4, 4, 4] (Hex.digits 32 id) ≠ List.replicate k ' ' := by
    intro id k hk heq
    have hmem : '-' ∈ List.replicate k ' ' := by
      rw [← heq]
      exact List.mem_append_right _ (List.mem_cons_self ..)
    exact absurd (List.eq_of_mem_replicate hmem) (by decide)
  have hpos : ∀ {k : Nat}, ¬ k < 16 ^ 32 → 0 < k := fun hk => by omega
  by_cases hm : m < 16 ^ 32
  · by_cases hn : n < 16 ^ 32
    · rw [if_pos hm, if_pos hn] at hlist
      exact Hex.hyphenate_digits_inj hm hn hlist
    · rw [if_pos hm, if_neg hn] at hlist
      exact absurd hlist (hspace (hpos hn))
  · by_cases hn : n < 16 ^ 32
    · rw [if_neg hm, if_pos hn] at hlist
      exact absurd hlist.symm (hspace (hpos hm))
    · rw [if_neg hm, if_neg hn] at hlist
      have hlength := congrArg List.length hlist
      rwa [List.length_replicate, List.length_replicate] at hlength

/-- The text of a `uuid`. -/
def uuidText : UuidText := ⟨hyphenatedText, hyphenatedText_injective⟩

/-- A map that gives its values back as they were put in. -/
def inserted : IterationOrder := ⟨id, fun _ => List.Perm.refl _⟩

/-- A map that gives its values back last first. -/
def lastFirst : IterationOrder := ⟨List.reverse, List.reverse_perm⟩

/-- A message that announces the counterparty of an order. -/
def peerMessage (orderId : Uuid) (tradeIndex : Int) : RatedMessage where
  message := { action := .fiatSent, payload := some (.peer "peer") }
  timestamp := 10
  sender := "mostro"
  orderId := some orderId
  tradeIndex := tradeIndex
  orderStatus := some .active

/-- Two orders in progress and a listing of one of them. -/
theorem buildActiveOrderChatList_canonical_two :
    let messages := [peerMessage 1 5, peerMessage 2 7]
    let makerBook := [{ orderId := uuidText.text 1, status := some .pending }]
    buildActiveOrderChatList uuidText lastFirst [peerMessage 2 7, peerMessage 1 5] makerBook =
      buildActiveOrderChatList uuidText inserted messages makerBook := by
  have h := buildActiveOrderChatList_canonical uuidText inserted [peerMessage 1 5, peerMessage 2 7]
    [{ orderId := uuidText.text 1, status := some .pending }]
    (by simp [OneRowPerOrder, peerMessage]) (List.pairwise_singleton _ _)
  exact h.2.2.2.2 lastFirst [peerMessage 2 7, peerMessage 1 5] (List.Perm.swap _ _ [])

end Mostrix.Ui
