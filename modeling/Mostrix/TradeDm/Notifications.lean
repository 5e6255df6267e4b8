import Mostrix.Library.Run
import Mostrix.Replies.MostroResponse
import Mostrix.TradeDm.Row

/-!
# Handling queued notifications

`notifications_ch_mng.rs`: the UI takes a notification from the channel any number of steps after
the listener sent it, and for the invoice actions looks up the order's Messages row with an
`expect`. The comment there says the row is guaranteed to exist, since the listener adds it before
it sends. It was there when the notification was sent; the steps in between may have removed it.

`notifyNext` interleaves the two halves of the listener's handler with the UI: it handles the next
notification, removes, strips, clears, reloads or adds Messages rows, and restarts the listener with
new startup floors. `NotifyOk` is the invariant that makes the lookup succeed, that every order some
notification still asks about has a row, and `notifyOk_iff` shows which steps keep it: those that
remove no row that is asked about. `handleNext_never_panics` is the statement over runs.
-/

namespace Mostrix

/-- The actions whose notification opens an invoice popup. -/
def isInvoiceAction (action : Action) : Bool :=
  action = .payInvoice || action = .payBondInvoice || action = .addInvoice ||
    action = .addBondInvoice

/-- `startup_popup_floor_ts`: per order, the newest DM already seen when the listener started. -/
abbrev PopupFloors := Uuid → Option Int

/-- A notification no newer than its order's floor is history and opens no popup. -/
def belowFloor (floors : PopupFloors) (orderId : Uuid) (timestamp : Int) : Bool :=
  match floors orderId with
  | some floor => timestamp ≤ floor
  | none => false

/-- `check_if_popup_should_be_shown`: the rows and whether to show the popup; `none` where the
`expect` on the order's row fails. -/
def checkIfPopupShouldBeShown (floors : PopupFloors) (messages : List OrderMessage)
    (n : MessageNotification) : Option (List OrderMessage × Bool) :=
  match n.orderId with
  | none => some (messages, true)
  | some orderId =>
    if belowFloor floors orderId n.timestamp then some (messages, false)
    else
      match firstMessage messages orderId with
      | none => none
      | some m =>
        if !invoicePopupAllowedForOrderStatus n.action m.orderStatus then some (messages, false)
        else if !localUserMustActOnInvoicePopup m n.action then some (messages, false)
        else if m.autoPopupShown then some (messages, false)
        else some (markShown orderId messages, true)

/-- `handle_message_notification`: the rows and the popup to open; `none` on a panic. -/
def handleMessageNotification (floors : PopupFloors) (messages : List OrderMessage)
    (n : MessageNotification) : Option (List OrderMessage × Option MessageNotification) :=
  if isInvoiceAction n.action then
    (checkIfPopupShouldBeShown floors messages n).map fun (messages, shown) =>
      (messages, if shown then some n else none)
  else some (messages, none)

/-! ## The listener and the UI -/

/-- The state the listener and the UI share, the DM between the listener's two halves, the startup
floors, the popup that is open, and whether the UI has panicked. -/
structure NotifyState where
  trade : TradeState
  inFlight : Option (TradeDm × TradeDmInFlight) := none
  floors : PopupFloors := fun _ => none
  popup : Option MessageNotification := none
  panicked : Bool := false

/-- What the UI does to the Messages list. -/
inductive MessagesEdit
  /-- a trade was closed: `remove_closed_trade_from_messages_tab` -/
  | removeClosed (orderId : Uuid)
  /-- history rows were deleted: `remove_many_orders_from_messages_tab` -/
  | removeMany (orderIds : List Uuid)
  /-- the Messages tab is drawn or moved in: `strip_new_order_messages_and_clamp_selected` -/
  | stripNewOrder
  /-- the keys were reloaded: `clear_messages_or_fatal` -/
  | clear
  /-- `sync_user_order_history_messages_from_db`, one row after the other -/
  | syncHistory (rows : List OrderMessage)
  /-- an invoice popup was opened from a reply: `remember_open_invoice_order_message` -/
  | remember (orderMessage : OrderMessage)
  /-- `maybe_insert_my_trade_placeholder_message` -/
  | placeholder (orderMessage : OrderMessage)

/-- `messages.retain(|m| !matches!(action, Action::NewOrder))`. -/
def stripNewOrderMessages (messages : List OrderMessage) : List OrderMessage :=
  messages.filter fun m => m.message.action ≠ .newOrder

/-- Replace the rows of one order by one. -/
def replaceRow (messages : List OrderMessage) (row : OrderMessage) : List OrderMessage :=
  messages.filter (fun m => m.orderId ≠ row.orderId) ++ [row]

/-- The Messages list after an edit. -/
def MessagesEdit.run (messages : List OrderMessage) : MessagesEdit → List OrderMessage
  | .removeClosed orderId => stripNewOrderMessages (removeOrderFromMessages messages orderId)
  | .removeMany orderIds =>
    stripNewOrderMessages (messages.filter fun m =>
      (m.orderId.map fun id => decide (id ∉ orderIds)).getD true)
  | .stripNewOrder => stripNewOrderMessages messages
  | .clear => []
  | .syncHistory rows => sortMessages (rows.foldl replaceRow messages)
  | .remember orderMessage => rememberOpenInvoiceOrderMessage messages orderMessage
  | .placeholder orderMessage =>
    if messages.any fun m => m.orderId = orderMessage.orderId then messages
    else sortMessages (messages ++ [orderMessage])

/-- One step of the listener or the UI. -/
inductive NotifyEvent
  /-- the listener takes up a trade DM -/
  | begin (env : Env) (dm : TradeDm)
  /-- it finishes the one it took up -/
  | finish
  /-- it is aborted and started anew, with new floors -/
  | restart (floors : PopupFloors)
  /-- the UI handles the next notification of the channel -/
  | handleNext
  /-- the UI edits the Messages list -/
  | edit (e : MessagesEdit)
  /-- another task writes the `orders` table -/
  | writeDb (db : Db)

/-- One step; the listener is one task and takes up a DM only after the last is finished. -/
def notifyNext (ops : ChatOps) (s : NotifyState) : NotifyEvent → NotifyState
  | .begin env dm =>
    match s.inFlight with
    | some _ => s
    | none =>
      let (trade, f) := handleTradeDmBegin ops env s.trade dm
      { s with trade := trade, inFlight := f.map fun f => (dm, f) }
  | .finish =>
    match s.inFlight with
    | some (dm, f) => { s with trade := handleTradeDmFinish s.trade dm f, inFlight := none }
    | none => s
  | .restart floors => { s with inFlight := none, floors := floors }
  | .handleNext =>
    match s.trade.notifications with
    | [] => s
    | n :: rest =>
      match handleMessageNotification s.floors s.trade.messages n with
      | some (messages, popup) =>
        { s with
          trade := { s.trade with messages := messages, notifications := rest }
          popup := popup.or s.popup }
      | none => { s with panicked := true }
  | .edit e => { s with trade := { s.trade with messages := e.run s.trade.messages } }
  | .writeDb db => { s with trade := { s.trade with db := db } }

/-! ## The invariant -/

/-- Handling a notification looks the row of order `id` up. -/
def NeedsRow (floors : PopupFloors) (n : MessageNotification) (id : Uuid) : Prop :=
  isInvoiceAction n.action = true ∧ n.orderId = some id ∧ belowFloor floors id n.timestamp = false

/-- Some queued notification asks about order `id`. -/
def QueueNeeds (floors : PopupFloors) (queue : List MessageNotification) (id : Uuid) : Prop :=
  ∃ n ∈ queue, NeedsRow floors n id

/-- The DM the listener has taken up will send a notification about order `id` without writing its
row. -/
def InFlightNeeds (floors : PopupFloors) (inFlight : Option (TradeDm × TradeDmInFlight))
    (id : Uuid) : Prop :=
  ∃ dm f, inFlight = some (dm, f) ∧ dm.orderId = id ∧ sendsNotification dm f = true ∧
    isInvoiceAction dm.message.action = true ∧ belowFloor floors id dm.timestamp = false ∧
    shouldReplaceRow dm f = false

/-- Order `id` is asked about by a queued notification or by one about to be sent. -/
def Awaited (s : NotifyState) (id : Uuid) : Prop :=
  QueueNeeds s.floors s.trade.notifications id ∨ InFlightNeeds s.floors s.inFlight id

/-- The UI is alive, and every order that is asked about has a Messages row. -/
structure NotifyOk (s : NotifyState) : Prop where
  alive : s.panicked = false
  rows : ∀ id, Awaited s id → HasRow s.trade.messages id

/-- An edit takes the last row of order `id`, where it has one. -/
def MessagesEdit.Removes (messages : List OrderMessage) (id : Uuid) : MessagesEdit → Prop
  | .removeClosed orderId =>
    id = orderId ∨ ∀ m ∈ messages, m.orderId = some id → m.message.action = .newOrder
  | .removeMany orderIds =>
    id ∈ orderIds ∨ ∀ m ∈ messages, m.orderId = some id → m.message.action = .newOrder
  | .stripNewOrder => ∀ m ∈ messages, m.orderId = some id → m.message.action = .newOrder
  | .clear => True
  | .syncHistory _ | .remember _ | .placeholder _ => False

/-- The steps that keep the invariant: a DM that drops or reverts its order finds no notification
about it queued, an edit takes no row that is asked about, and a restart's floors leave no queued
notification about an order without a row. -/
def KeepsRows (s : NotifyState) : NotifyEvent → Prop
  | .begin _ dm =>
    s.inFlight = none →
      tradeDmPath s.trade.db dm = .dropTake ∨ tradeDmPath s.trade.db dm = .republish →
        ¬ QueueNeeds s.floors s.trade.notifications dm.orderId
  | .edit e => ∀ id, Awaited s id → ¬ e.Removes s.trade.messages id
  | .restart floors =>
    ∀ id, QueueNeeds floors s.trade.notifications id → HasRow s.trade.messages id
  | .finish | .handleNext | .writeDb _ => True

section
variable {ops : ChatOps}

/-! ## The lookup -/

/-- The lookup panics exactly on a notification that asks about an order without a row. -/
theorem handleMessageNotification_eq_none_iff {floors : PopupFloors}
    {messages : List OrderMessage} {n : MessageNotification} :
    handleMessageNotification floors messages n = none ↔
      ∃ id, NeedsRow floors n id ∧ ¬ HasRow messages id := by
  unfold handleMessageNotification checkIfPopupShouldBeShown NeedsRow
  by_cases hact : isInvoiceAction n.action = true
  · cases hid : n.orderId with
    | none => simp [hact]
    | some id =>
      by_cases hfloor : belowFloor floors id n.timestamp = true
      · simp [hact, hfloor]
      · cases hm : firstMessage messages id with
        | none =>
          have : ¬ HasRow messages id := by simp [← firstMessage_isSome_iff, hm]
          simp [hact, hfloor, hm, this]
        | some m =>
          have : HasRow messages id := by simp [← firstMessage_isSome_iff, hm]
          simp only [hact, if_true, hfloor, Bool.false_eq_true, if_false, hm]
          split <;> (try split) <;> (try split) <;> simp [this]
  · simp [hact]

/-- Handling a notification adds and removes no rows. -/
theorem handleMessageNotification_hasRow {floors : PopupFloors} {messages : List OrderMessage}
    {n : MessageNotification} {messages' : List OrderMessage} {popup : Option MessageNotification}
    (h : handleMessageNotification floors messages n = some (messages', popup)) (id : Uuid) :
    HasRow messages' id ↔ HasRow messages id := by
  unfold handleMessageNotification at h
  split at h
  · obtain ⟨⟨ms, shown⟩, hcheck, heq⟩ := Option.map_eq_some_iff.1 h
    have hms : ms = messages' := congrArg Prod.fst heq
    subst hms
    unfold checkIfPopupShouldBeShown at hcheck
    grind [hasRow_markShown]
  · obtain rfl := congrArg Prod.fst (Option.some.inj h)
    rfl

/-! ## The edits -/

/-- Replacing the rows of one order leaves every order a row that has one. -/
theorem hasRow_foldl_replaceRow {messages : List OrderMessage} {id : Uuid}
    (rows : List OrderMessage) (h : HasRow messages id) :
    HasRow (rows.foldl replaceRow messages) id := by
  induction rows generalizing messages with
  | nil => exact h
  | cons row rows ih =>
    refine ih ?_
    obtain ⟨m, hm, hid⟩ := h
    by_cases hrow : row.orderId = some id
    · exact ⟨row, by simp [replaceRow], hrow⟩
    · refine ⟨m, ?_, hid⟩
      simp [replaceRow, hm, hid, Ne.symm hrow]

/-- An order keeps a row under an edit that takes none of its last, and only then. -/
theorem MessagesEdit.hasRow_run {messages : List OrderMessage} {id : Uuid} (e : MessagesEdit)
    (h : HasRow messages id) : HasRow (e.run messages) id ↔ ¬ e.Removes messages id := by
  have hstrip : ∀ ms : List OrderMessage, HasRow (stripNewOrderMessages ms) id ↔
      ∃ m ∈ ms, m.orderId = some id ∧ m.message.action ≠ .newOrder := by
    intro ms
    simp only [HasRow, stripNewOrderMessages, List.mem_filter, decide_eq_true_eq]
    grind
  cases e with
  | removeClosed orderId =>
    simp only [run, Removes, hstrip, removeOrderFromMessages, List.mem_filter]
    grind
  | removeMany orderIds =>
    simp only [run, Removes, hstrip, List.mem_filter]
    grind
  | stripNewOrder =>
    simp only [run, Removes, hstrip]
    grind
  | clear => simp [run, Removes, HasRow]
  | syncHistory rows =>
    simp only [run, Removes, hasRow_sortMessages, not_false_eq_true, iff_true]
    exact hasRow_foldl_replaceRow rows h
  | remember orderMessage =>
    simp only [run, Removes, not_false_eq_true, iff_true]
    unfold rememberOpenInvoiceOrderMessage
    split
    · exact h
    · split <;> simp [h]
  | placeholder orderMessage =>
    simp only [run, Removes, not_false_eq_true, iff_true]
    split <;> simp [h]

/-! ## The step -/

/-- Finishing a DM leaves the Messages rows of every order that has some, and of its own order where
it writes the row. -/
theorem handleTradeDmFinish_hasRow (s : TradeState) (dm : TradeDm) (f : TradeDmInFlight)
    (id : Uuid) :
    HasRow (handleTradeDmFinish s dm f).messages id ↔
      HasRow s.messages id ∨ id = dm.orderId ∧ shouldReplaceRow dm f = true := by
  have hid : ∀ r, (tradeDmMessage dm f r).orderId = some dm.orderId := fun _ => rfl
  by_cases hrep : shouldReplaceRow dm f = true
  · simp only [handleTradeDmFinish, hrep, if_true, hasRow_sortMessages, hasRow_append,
      hasRow_removeOrderFromMessages, hasRow_singleton, hid, Option.some.injEq]
    grind
  · simp [handleTradeDmFinish, hrep]

/-- What the queue asks about after a DM is finished: what it asked about before, and the DM's order
where a notification is sent. -/
theorem handleTradeDmFinish_queueNeeds (floors : PopupFloors) (s : TradeState) (dm : TradeDm)
    (f : TradeDmInFlight) (id : Uuid) :
    QueueNeeds floors (handleTradeDmFinish s dm f).notifications id ↔
      QueueNeeds floors s.notifications id ∨
        dm.orderId = id ∧ sendsNotification dm f = true ∧
          isInvoiceAction dm.message.action = true ∧ belowFloor floors id dm.timestamp = false := by
  by_cases hsend : sendsNotification dm f = true
  · simp only [handleTradeDmFinish, hsend, if_true, QueueNeeds, List.mem_append,
      List.mem_singleton, or_and_right, exists_or, exists_eq_left]
    refine or_congr_right ?_
    simp only [NeedsRow, orderMessageToNotification, tradeDmMessage, Option.some.injEq, true_and]
    tauto
  · simp [handleTradeDmFinish, hsend]

/-- A DM that is taken up and not replacing its row has found one. -/
theorem inFlight_hasRow {s : TradeState} {dm : TradeDm}
    (h : shouldReplaceRow dm (inFlight s dm) = false) : HasRow s.messages dm.orderId := by
  rw [← newestMessage_isSome_iff]
  cases hn : newestMessage s.messages dm.orderId with
  | none => simp [shouldReplaceRow, inFlight, hn] at h
  | some m => rfl

/-- Taking up a DM sends nothing. -/
theorem handleTradeDmBegin_notifications (env : Env) (s : TradeState) (dm : TradeDm) :
    (handleTradeDmBegin ops env s dm).1.notifications = s.notifications := by
  rw [handleTradeDmBegin_eq]
  cases tradeDmPath s.db dm <;> rfl

/-- Taking up a DM removes the rows of its order when it drops or reverts the order, and no
others. -/
theorem handleTradeDmBegin_hasRow (env : Env) (s : TradeState) (dm : TradeDm) (id : Uuid) :
    HasRow (handleTradeDmBegin ops env s dm).1.messages id ↔
      HasRow s.messages id ∧
        (tradeDmPath s.db dm = .dropTake ∨ tradeDmPath s.db dm = .republish →
          id ≠ dm.orderId) := by
  rw [handleTradeDmBegin_eq]
  cases tradeDmPath s.db dm with
  | dropTake => simp [dropPreActiveTakerTake, and_comm]
  | republish => simp [revertMakerToPendingOnBookRepublish, and_comm]
  | _ => simp [persistRangeChildListingFromNewOrder]

/-- What is in flight after a DM is taken up asks about an order with a row. -/
theorem handleTradeDmBegin_inFlightNeeds {env : Env} {floors : PopupFloors} {s : TradeState}
    {dm : TradeDm} {id : Uuid}
    (h : InFlightNeeds floors ((handleTradeDmBegin ops env s dm).2.map fun f => (dm, f)) id) :
    HasRow (handleTradeDmBegin ops env s dm).1.messages id := by
  obtain ⟨dm', f, hf, rfl, -, -, -, hrep⟩ := h
  rw [handleTradeDmBegin_eq] at hf ⊢
  cases hpath : tradeDmPath s.db dm with
  | full =>
    simp only [hpath, Option.map_some, Option.some.injEq, Prod.mk.injEq] at hf
    obtain ⟨rfl, rfl⟩ := hf
    exact inFlight_hasRow (s := s) hrep
  | _ => simp [hpath] at hf

/-- **The step.** From a state with the invariant, a step keeps it exactly when it removes no row
that is asked about. -/
theorem notifyOk_iff (s : NotifyState) (e : NotifyEvent) (hs : NotifyOk s) :
    NotifyOk (notifyNext ops s e) ↔ KeepsRows s e := by
  cases e with
  | begin env dm =>
    simp only [notifyNext, KeepsRows]
    cases hbusy : s.inFlight with
    | some busy => simp [hs]
    | none =>
      have hrows : ∀ id, QueueNeeds s.floors s.trade.notifications id →
          HasRow s.trade.messages id := fun id h => hs.rows id (.inl h)
      refine ⟨?_, ?_⟩
      · intro h _ hpath hqueue
        have := h.rows dm.orderId (.inl (by
          rw [show _ = s.trade.notifications from handleTradeDmBegin_notifications env s.trade dm]
          exact hqueue))
        exact ((handleTradeDmBegin_hasRow env s.trade dm _).1 this).2 hpath rfl
      · intro h
        refine ⟨hs.alive, fun id hid => ?_⟩
        rcases hid with hqueue | hflight
        · rw [show _ = s.trade.notifications from
            handleTradeDmBegin_notifications env s.trade dm] at hqueue
          refine (handleTradeDmBegin_hasRow env s.trade dm id).2 ⟨hrows id hqueue, ?_⟩
          rintro hpath rfl
          exact h rfl hpath hqueue
        · exact handleTradeDmBegin_inFlightNeeds hflight
  | finish =>
    refine iff_of_true ?_ trivial
    unfold notifyNext
    dsimp only
    split
    · next dm f hf =>
      refine ⟨hs.alive, fun id hid => ?_⟩
      rw [handleTradeDmFinish_hasRow]
      rcases hid with hqueue | ⟨dm', f', h, -⟩
      · rcases (handleTradeDmFinish_queueNeeds s.floors s.trade dm f id).1 hqueue with
          hqueue | ⟨rfl, hsend, hact, hfloor⟩
        · exact .inl (hs.rows id (.inl hqueue))
        · cases hrep : shouldReplaceRow dm f with
          | true => exact .inr ⟨rfl, rfl⟩
          | false =>
            exact .inl (hs.rows _ (.inr ⟨dm, f, hf, rfl, hsend, hact, hfloor, hrep⟩))
      · cases h
    · exact hs
  | restart floors =>
    refine ⟨?_, ?_⟩
    · intro h id hqueue
      exact h.rows id (.inl hqueue)
    · intro h
      refine ⟨hs.alive, fun id hid => ?_⟩
      rcases hid with hqueue | ⟨dm, f, hf, -⟩
      · exact h id hqueue
      · cases hf
  | handleNext =>
    refine iff_of_true ?_ trivial
    unfold notifyNext
    dsimp only
    split
    · exact hs
    · next n rest hqueue =>
      split
      · next messages popup hhandle =>
        refine ⟨hs.alive, fun id hid => ?_⟩
        rw [handleMessageNotification_hasRow hhandle]
        rcases hid with ⟨n', hn', hneeds⟩ | hflight
        · exact hs.rows id (.inl ⟨n', by simp [hqueue, hn'], hneeds⟩)
        · exact hs.rows id (.inr hflight)
      · next hpanic =>
        obtain ⟨id, hneeds, hrow⟩ := handleMessageNotification_eq_none_iff.1 hpanic
        exact absurd (hs.rows id (.inl ⟨n, by simp [hqueue], hneeds⟩)) hrow
  | edit e =>
    refine ⟨?_, ?_⟩
    · intro h id hid
      exact (e.hasRow_run (hs.rows id hid)).1 (h.rows id hid)
    · intro h
      exact ⟨hs.alive, fun id hid => (e.hasRow_run (hs.rows id hid)).2 (h id hid)⟩
  | writeDb db => exact iff_of_true ⟨hs.alive, hs.rows⟩ trivial

/-- **The UI never panics on a notification, in the runs that remove no row that is asked about.**
From a state with an empty channel, every state such a run passes through is alive. -/
theorem handleNext_never_panics (s : NotifyState) (halive : s.panicked = false)
    (hqueue : s.trade.notifications = []) (hidle : s.inFlight = none) (run : List NotifyEvent)
    (hrun : Run.Guarded (notifyNext ops) KeepsRows s run) :
    ∀ before after, run = before ++ after →
      (before.foldl (notifyNext ops) s).panicked = false := by
  rintro before after rfl
  have hs : NotifyOk s := by
    refine ⟨halive, ?_⟩
    rintro id (⟨n, hn, -⟩ | ⟨dm, f, hf, -⟩)
    · rw [hqueue] at hn
      cases hn
    · rw [hidle] at hf
      cases hf
  exact (Run.Guarded.invariant_prefix (fun t e he ht => (notifyOk_iff t e ht).2 he) hrun hs).alive

end

/-! ## A run that stays alive, and one that panics -/

/-- An add-invoice DM for order 1. -/
def addInvoiceDm : TradeDm where
  orderId := 1
  tradeIndex := 1
  message :=
    { action := .addInvoice
      payload := some (.order { amount := 5, status := some .waitingBuyerInvoice }) }
  timestamp := 10
  sender := "mostro"
  tradeKeys := { secretHex := "k1", publicKey := "p1" }
  notify := true

/-- A closed trade of another order is removed between the notification and its handling. -/
theorem handleNext_never_panics_other :
    let run : List NotifyEvent :=
      [.begin ⟨0, 0⟩ addInvoiceDm, .finish, .edit (.removeClosed 2), .handleNext]
    ∀ before after, run = before ++ after →
      (before.foldl (notifyNext plainChatOps)
        { trade := { db := Table.empty } }).panicked = false := by
  refine handleNext_never_panics _ rfl rfl rfl _ ⟨?_, trivial, ?_, trivial, trivial⟩
  · intro _ hpath
    exact absurd hpath (by decide)
  · intro id hid
    have hqueue : ∀ n : MessageNotification, n ∈ [orderMessageToNotification
        (tradeDmMessage addInvoiceDm (inFlight { db := Table.empty } addInvoiceDm) none)] →
        n.orderId = some 1 := by decide
    have hone : id = 1 := by
      rcases hid with ⟨n, hn, -, hnid, -⟩ | ⟨dm, f, hf, -⟩
      · exact (Option.some.inj ((hqueue n hn).symm.trans hnid)).symm
      · cases hf
    subst hone
    rintro (h | h)
    · cases h
    · exact absurd (h _ (List.mem_singleton.2 rfl) rfl) (by decide)

/-- A take of order 1 that waits for the buyer's invoice. -/
def takenRow : Order where
  id := 1
  kind := some .sell
  status := some .waitingBuyerInvoice
  tradeIndex := some 1
  isMine := false

/-- An `add-invoice` and the `canceled` after it, handled before the UI gets to the first
notification: the take is dropped with its row, and the lookup panics. -/
theorem handleNext_panics_on_dropped_take :
    ¬ ∀ (ops : ChatOps) (s : NotifyState) (run : List NotifyEvent), s.panicked = false →
      s.trade.notifications = [] → s.inFlight = none →
        (run.foldl (notifyNext ops) s).panicked = false := by
  intro h
  have := h plainChatOps { trade := { db := Table.empty.put 1 takenRow } }
    [.begin ⟨0, 0⟩ addInvoiceDm, .finish,
      .begin ⟨0, 0⟩ { addInvoiceDm with message := { action := .canceled }, timestamp := 11 },
      .handleNext] rfl rfl rfl
  exact absurd this (by decide)

end Mostrix
