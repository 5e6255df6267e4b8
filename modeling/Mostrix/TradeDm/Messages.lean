import Mathlib.Data.List.Sort
import Mathlib.Data.Multiset.AddSub
import Mostrix.Library.MaxByKey
import Mostrix.Orders.Status
import Mostrix.Orders.Store

/-!
# The Messages list

`ui/orders.rs` and the row operations of `util/dm_utils/mod.rs`: the in-memory list of trade
messages with one row per order, the notification built from a row, the gates an invoice popup asks
of a row, and the merge that keeps the richest order snapshot. The preview text and the body of a
notification are only ever drawn, so they are left out.
-/

namespace Mostrix

/-- `OrderMessage` (`ui/orders.rs`): a row of the Messages tab. `message` is the inner kind of the
stored message. -/
structure OrderMessage where
  message : MessageKind
  timestamp : Int
  sender : PublicKey
  orderId : Option Uuid
  tradeIndex : Int
  satAmount : Option Int := none
  buyerInvoice : Option String := none
  orderKind : Option Kind := none
  isMine : Option Bool := none
  orderStatus : Option Status := none
  orderSnapshot : Option SmallOrder := none
  read : Bool := false
  autoPopupShown : Bool := false
deriving DecidableEq, Repr, Inhabited

/-- `MessageNotification` (`ui/orders.rs`), without the texts that are only drawn. -/
structure MessageNotification where
  orderId : Option Uuid
  timestamp : Int
  action : Action
  satAmount : Option Int
  invoice : Option String
  makerBondPublish : Bool
  solverPubkey : Option String
  disputeId : Option Uuid
deriving DecidableEq, Repr, Inhabited

/-- `order_message_to_notification`. -/
def orderMessageToNotification (msg : OrderMessage) : MessageNotification where
  orderId := msg.orderId
  timestamp := msg.timestamp
  action := msg.message.action
  satAmount := msg.satAmount
  invoice := msg.buyerInvoice
  makerBondPublish := decide (msg.orderStatus = some .waitingMakerBond)
  solverPubkey :=
    match msg.message.action, msg.message.payload with
    | .adminTookDispute, some (.peer pubkey) => some pubkey
    | _, _ => none
  disputeId :=
    match msg.message.payload with
    | some (.dispute id) => some id
    | _ => none

/-! ## Popup gates -/

/-- `invoice_popup_allowed_for_order_status`. -/
def invoicePopupAllowedForOrderStatus (action : Action) (status : Option Status) : Bool :=
  match action with
  | .payInvoice => status = some .waitingPayment
  | .payBondInvoice =>
    match status with
    | some .waitingTakerBond | some .waitingMakerBond | none => true
    | _ => false
  | .addInvoice =>
    match status with
    | some .waitingBuyerInvoice | some .settledHoldInvoice | none => true
    | _ => false
  | .addBondInvoice =>
    match status with
    | some .canceled | some .canceledByAdmin => false
    | _ => true
  | _ => false

/-- `local_user_must_act_on_invoice_popup`: who acts depends on the listing's kind and our role. -/
def localUserMustActOnInvoicePopup (msg : OrderMessage) (popupAction : Action) : Bool :=
  let isMaker := msg.isMine.getD false
  match msg.orderKind, popupAction with
  | some .buy, .addInvoice => isMaker
  | some .buy, .payInvoice => !isMaker
  | some .sell, .addInvoice => !isMaker
  | some .sell, .payInvoice => isMaker
  | _, .payBondInvoice =>
    match msg.orderStatus with
    | some .waitingMakerBond => isMaker
    | some .waitingTakerBond => !isMaker
    | none => isMaker
    | _ => false
  | _, .addBondInvoice => true
  | none, .payInvoice => (msg.buyerInvoice.map fun s => decide (s ≠ "")).getD false
  | _, _ => false

/-! ## Order snapshots -/

/-- A `char` with the Unicode property `White_Space`, which is what `str::trim` strips. -/
def isWhitespace (c : Char) : Bool :=
  let n := c.toNat
  (9 ≤ n && n ≤ 13) || n = 32 || n = 0x85 || n = 0xA0 || n = 0x1680 ||
    (0x2000 ≤ n && n ≤ 0x200A) || n = 0x2028 || n = 0x2029 || n = 0x202F || n = 0x205F ||
    n = 0x3000

/-- `s.trim().is_empty()`. -/
def isBlank (s : String) : Bool := s.toList.all isWhitespace

/-- `snapshot_richness`: how useful a snapshot is for the trade receipt. -/
def snapshotRichness (o : SmallOrder) : Nat :=
  (if isBlank o.paymentMethod then 0 else 4) +
    (if 0 < o.fiatAmount ∨ o.minAmount.isSome ∨ o.maxAmount.isSome then 2 else 0) +
    (if isBlank o.fiatCode then 0 else 1) + (if 0 < o.amount then 1 else 0)

/-- `merge_order_snapshots`: the richest of payload, prior row and database, the last of equals. -/
def mergeOrderSnapshots (incoming prior fromDb : Option SmallOrder) : Option SmallOrder :=
  ([incoming, prior, fromDb].filterMap id).maxByKey snapshotRichness

/-- `small_order_from_db_order`. -/
def smallOrderFromDbOrder (row : Order) : SmallOrder where
  id := some row.id
  kind := row.kind
  status := row.status
  amount := row.amount
  fiatCode := row.fiatCode
  minAmount := row.minAmount
  maxAmount := row.maxAmount
  fiatAmount := row.fiatAmount
  paymentMethod := row.paymentMethod
  premium := row.premium
  buyerInvoice := row.buyerInvoice
  createdAt := row.createdAt
  expiresAt := row.expiresAt

/-! ## Rows -/

/-- `remove_order_from_messages`: `retain(|m| m.order_id != Some(order_id))`. -/
def removeOrderFromMessages (messages : List OrderMessage) (orderId : Uuid) : List OrderMessage :=
  messages.filter fun m => m.orderId ≠ some orderId

/-- `sort_by_key(|b| Reverse(b.timestamp))`: stable, newest first. -/
def sortMessages (messages : List OrderMessage) : List OrderMessage :=
  messages.insertionSort fun a b => b.timestamp ≤ a.timestamp

/-- The newest row of an order, the last one of several with the same timestamp. -/
def newestMessage (messages : List OrderMessage) (orderId : Uuid) : Option OrderMessage :=
  (messages.filter fun m => m.orderId = some orderId).maxByKey (·.timestamp)

/-- `messages.iter_mut().find(|m| m.order_id == Some(order_id))`: the first row of an order. -/
def firstMessage (messages : List OrderMessage) (orderId : Uuid) : Option OrderMessage :=
  messages.find? fun m => m.orderId = some orderId

/-- Set `auto_popup_shown` on the first row of an order. -/
def markShown (orderId : Uuid) : List OrderMessage → List OrderMessage
  | [] => []
  | m :: messages =>
    if m.orderId = some orderId then { m with autoPopupShown := true } :: messages
    else m :: markShown orderId messages

/-- An order has a row in the list. -/
def HasRow (messages : List OrderMessage) (orderId : Uuid) : Prop :=
  ∃ m ∈ messages, m.orderId = some orderId

instance (messages : List OrderMessage) (orderId : Uuid) : Decidable (HasRow messages orderId) :=
  inferInstanceAs (Decidable (∃ m ∈ messages, m.orderId = some orderId))

/-- The rows of one order, in list order. -/
def rowsOf (messages : List OrderMessage) (orderId : Uuid) : List OrderMessage :=
  messages.filter fun m => m.orderId = some orderId

theorem mem_sortMessages {messages : List OrderMessage} {m : OrderMessage} :
    m ∈ sortMessages messages ↔ m ∈ messages :=
  List.mem_insertionSort _

@[simp] theorem hasRow_sortMessages {messages : List OrderMessage} {id : Uuid} :
    HasRow (sortMessages messages) id ↔ HasRow messages id := by
  simp [HasRow, mem_sortMessages]

@[simp] theorem hasRow_append {ms ms' : List OrderMessage} {id : Uuid} :
    HasRow (ms ++ ms') id ↔ HasRow ms id ∨ HasRow ms' id := by
  simp [HasRow, or_and_right, exists_or]

@[simp] theorem hasRow_singleton {m : OrderMessage} {id : Uuid} :
    HasRow [m] id ↔ m.orderId = some id := by
  simp [HasRow]

/-- Removing an order's rows removes no other order's. -/
@[simp] theorem hasRow_removeOrderFromMessages {messages : List OrderMessage} {id id' : Uuid} :
    HasRow (removeOrderFromMessages messages id') id ↔ id ≠ id' ∧ HasRow messages id := by
  refine ⟨?_, ?_⟩
  · rintro ⟨m, hm, hid⟩
    have hm' := List.mem_filter.1 hm
    refine ⟨?_, m, hm'.1, hid⟩
    rintro rfl
    simp [hid] at hm'
  · rintro ⟨hne, m, hm, hid⟩
    exact ⟨m, List.mem_filter.2 ⟨hm, by simp [hid, hne]⟩, hid⟩

/-- An order has a first row exactly when it has a row. -/
theorem firstMessage_isSome_iff {messages : List OrderMessage} {id : Uuid} :
    (firstMessage messages id).isSome ↔ HasRow messages id := by
  simp [firstMessage, HasRow]

/-- Marking a row adds and removes none. -/
@[simp] theorem hasRow_markShown {messages : List OrderMessage} {id id' : Uuid} :
    HasRow (markShown id' messages) id ↔ HasRow messages id := by
  induction messages with
  | nil => simp [markShown]
  | cons m messages ih =>
    unfold markShown
    split
    · simp [HasRow]
    · simpa [HasRow] using or_congr_right ih

/-! ### The rows of one order -/

@[simp] theorem rowsOf_append (ms ms' : List OrderMessage) (id : Uuid) :
    rowsOf (ms ++ ms') id = rowsOf ms id ++ rowsOf ms' id :=
  List.filter_append ..

/-- Sorting keeps each order's rows. -/
theorem rowsOf_sortMessages (messages : List OrderMessage) (id : Uuid) :
    (rowsOf (sortMessages messages) id).Perm (rowsOf messages id) :=
  (List.perm_insertionSort _ messages).filter _

/-- Removing an order's rows keeps every other order's. -/
theorem rowsOf_removeOrderFromMessages {messages : List OrderMessage} {id id' : Uuid}
    (h : id ≠ id') : rowsOf (removeOrderFromMessages messages id') id = rowsOf messages id := by
  rw [rowsOf, removeOrderFromMessages, List.filter_filter, rowsOf]
  refine List.filter_congr fun m _ => ?_
  by_cases hm : m.orderId = some id <;> simp [hm, h]

/-- Marking an order's row keeps every other order's. -/
theorem rowsOf_markShown_of_ne {messages : List OrderMessage} {id id' : Uuid} (h : id ≠ id') :
    rowsOf (markShown id' messages) id = rowsOf messages id := by
  induction messages with
  | nil => rfl
  | cons m messages ih =>
    unfold markShown
    split
    · next hm => simp [rowsOf, hm, Ne.symm h]
    · simp only [rowsOf, List.filter_cons] at ih ⊢
      rw [ih]

/-- Marking an order's row keeps its rows exactly when the first is marked already. -/
theorem rowsOf_markShown_perm_iff {messages : List OrderMessage} {id : Uuid} :
    (rowsOf (markShown id messages) id).Perm (rowsOf messages id) ↔
      ∀ m, firstMessage messages id = some m → m.autoPopupShown = true := by
  induction messages with
  | nil => simp [markShown, rowsOf, firstMessage]
  | cons m messages ih =>
    unfold markShown
    split
    · next hm =>
      have hcons : (rowsOf ({ m with autoPopupShown := true } :: messages) id).Perm
          (rowsOf (m :: messages) id) ↔ { m with autoPopupShown := true } = m := by
        simp only [rowsOf, List.filter_cons, hm, decide_true, if_true]
        rw [← Multiset.coe_eq_coe, ← Multiset.cons_coe, ← Multiset.cons_coe,
          Multiset.cons_inj_left]
      rw [hcons]
      simp only [firstMessage, List.find?_cons, hm, decide_true, Option.some.injEq, forall_eq']
      refine ⟨?_, ?_⟩
      · intro h
        rw [← h]
      · intro h
        cases m
        simp_all
    · next hm =>
      have hrest : ∀ ms, rowsOf (m :: ms) id = rowsOf ms id := by
        intro ms
        simp [rowsOf, hm]
      rw [hrest, hrest, ih]
      simp [firstMessage, hm]

/-- An order has a newest row exactly when it has a row. -/
theorem newestMessage_isSome_iff {messages : List OrderMessage} {id : Uuid} :
    (newestMessage messages id).isSome ↔ HasRow messages id := by
  rw [← not_iff_not, newestMessage, Option.not_isSome_iff_eq_none, List.maxByKey_eq_none_iff,
    List.filter_eq_nil_iff]
  simp [HasRow]

/-- The newest row of an order is one of its rows, and none of them is newer. -/
theorem newestMessage_spec {messages : List OrderMessage} {id : Uuid} {m : OrderMessage}
    (h : newestMessage messages id = some m) :
    (m ∈ messages ∧ m.orderId = some id) ∧
      ∀ m' ∈ messages, m'.orderId = some id → m'.timestamp ≤ m.timestamp := by
  obtain ⟨hmem, hmax⟩ := List.maxByKey_spec h
  refine ⟨by simpa using hmem, fun m' hm' hid => ?_⟩
  exact hmax m' (List.mem_filter.2 ⟨hm', by simpa using hid⟩)

/-- An order whose rows are replaced by one has this one. -/
theorem rowsOf_replaced {messages : List OrderMessage} {id : Uuid} {m : OrderMessage}
    (hm : m.orderId = some id) :
    rowsOf (sortMessages (removeOrderFromMessages messages id ++ [m])) id = [m] := by
  have hremoved : rowsOf (removeOrderFromMessages messages id) id = [] := by
    rw [rowsOf, removeOrderFromMessages, List.filter_filter, List.filter_eq_nil_iff]
    intro m' _
    by_cases hm' : m'.orderId = some id <;> simp [hm']
  have hone : rowsOf [m] id = [m] := by simp [rowsOf, hm]
  rw [← List.perm_singleton]
  refine (rowsOf_sortMessages _ _).trans (.of_eq ?_)
  rw [rowsOf_append, hremoved, hone, List.nil_append]

/-- The only row of an order is its newest. -/
theorem newestMessage_of_rowsOf {messages : List OrderMessage} {id : Uuid} {m : OrderMessage}
    (h : rowsOf messages id = [m]) : newestMessage messages id = some m := by
  unfold newestMessage
  unfold rowsOf at h
  rw [h]
  rfl

end Mostrix
