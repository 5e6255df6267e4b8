import Mostrix.Replies.BondInvoice
import Mostrix.TradeDm.Row

/-!
# Saving an order

`save_order` (`util/db_utils.rs`) and `Order::new` (`models.rs`), against a database whose
statements may fail. `Order::new` builds a whole row from an order, its keys and an index, and where
the id is taken it overwrites the row that is there with it; `save_order` drops its error.

Two things follow. The columns that no order carries are lost when an order is saved again
(`resave_keeps_iff`): the sibling, `build_order_from_small_order`, takes them from the existing row.
And the `Ok` of `save_order` says nothing about the table (`save_honest_iff`), nor does what
`persist_range_child_listing_from_new_order` makes of it.
-/

namespace Mostrix

/-! ## The statements of one save -/

/-- What SQLite makes of the two statements of an `Order::new`: the error of one that it does not
run. -/
structure SaveIo where
  insert : Option String := none
  update : Option String := none
deriving DecidableEq, Repr

section
variable (io : SaveIo) (db : Db) (order : SmallOrder) (tradeKeys : Keys)

/-- `Order::new`, with the table it leaves. -/
def Order.newIo (requestId : Option Int) (tradeIndex : Int) (isMaker : Bool) (env : Env) :
    Except String Order × Db :=
  if tradeIndex ≤ 0 then
    (.error s!"Invalid trade_index {tradeIndex} while persisting order; expected positive index",
      db)
  else
    let row := Order.newRow order tradeKeys requestId tradeIndex isMaker env
    match io.insert with
    | some e => (.error e, db)
    | none =>
      match row.insertDb db with
      | .ok db' => (.ok row, db')
      | .error .uniqueViolation =>
        match io.update with
        | some e => (.error e, db)
        | none => (.ok row, row.updateDb db)

/-- `save_order`, with the table it leaves. -/
def saveOrderIo (requestId : Nat) (tradeIndex : Int) (isMaker : Bool) (env : Env) :
    Except String Unit × Db :=
  (.ok (), (Order.newIo io db order tradeKeys (some (asI64 requestId)) tradeIndex isMaker env).2)

end

/-- `persist_range_child_listing_from_new_order`. -/
def persistRangeChildIo (io : SaveIo) (env : Env) (s : TradeState) (dm : TradeDm) (o : SmallOrder) :
    TradeState × Bool :=
  let (saved, db) :=
    saveOrderIo io s.db o dm.tradeKeys (dm.message.requestId.getD 0) dm.tradeIndex true env
  match saved with
  | .error _ => ({ s with db := db }, false)
  | .ok () =>
    ({ s with db := db, trackOrders := s.trackOrders ++ [(dm.orderId, dm.tradeIndex)] }, true)

/-- A save writes its row: the index is positive and the statements it needs are run. -/
def SaveIo.Writes (io : SaveIo) (db : Db) (id : Uuid) (tradeIndex : Int) : Prop :=
  0 < tradeIndex ∧ io.insert = none ∧ (db id = none ∨ io.update = none)

section
variable {io : SaveIo} {db : Db} {order : SmallOrder} {tradeKeys : Keys} {requestId : Option Int}
  {tradeIndex : Int} {isMaker : Bool} {env : Env}

/-- A save that writes leaves the new row at the order's id. -/
theorem Order.newIo_of_writes (h : io.Writes db (order.id.getD env.freshId) tradeIndex) :
    Order.newIo io db order tradeKeys requestId tradeIndex isMaker env =
      (.ok (Order.newRow order tradeKeys requestId tradeIndex isMaker env),
        db.put (order.id.getD env.freshId)
          (Order.newRow order tradeKeys requestId tradeIndex isMaker env)) := by
  obtain ⟨hindex, hinsert, hrow⟩ := h
  have hpos : ¬ tradeIndex ≤ 0 := by omega
  unfold Order.newIo Order.insertDb
  simp only [if_neg hpos, hinsert, Order.newRow_id]
  cases hdb : db (order.id.getD env.freshId) with
  | none => rfl
  | some row =>
    have hupdate : io.update = none := hrow.resolve_left (by simp [hdb])
    rw [hupdate]
    simp [Order.updateDb, Table.modify, Table.put, hdb]

/-- A save that does not leaves the table as it was, and is an error of `Order::new`. -/
theorem Order.newIo_of_not_writes (h : ¬ io.Writes db (order.id.getD env.freshId) tradeIndex) :
    ∃ e, Order.newIo io db order tradeKeys requestId tradeIndex isMaker env = (.error e, db) := by
  unfold Order.newIo Order.insertDb
  split
  · exact ⟨_, rfl⟩
  next hindex =>
    simp only [Order.newRow_id]
    cases hinsert : io.insert with
    | some e => exact ⟨e, rfl⟩
    | none =>
      have hrow : ¬ (db (order.id.getD env.freshId) = none ∨ io.update = none) :=
        fun hrow => h ⟨by omega, hinsert, hrow⟩
      obtain ⟨hdb, hupdate⟩ := not_or.1 hrow
      obtain ⟨row, hrow⟩ := Option.ne_none_iff_exists'.1 hdb
      obtain ⟨e, he⟩ := Option.ne_none_iff_exists'.1 hupdate
      refine ⟨e, ?_⟩
      dsimp only
      rw [hrow, he]

/-- The table after a save. -/
theorem Order.newIo_table [Decidable (io.Writes db (order.id.getD env.freshId) tradeIndex)] :
    (Order.newIo io db order tradeKeys requestId tradeIndex isMaker env).2 =
      if io.Writes db (order.id.getD env.freshId) tradeIndex then
        db.put (order.id.getD env.freshId)
          (Order.newRow order tradeKeys requestId tradeIndex isMaker env)
      else db := by
  split
  next h => rw [Order.newIo_of_writes h]
  next h =>
    obtain ⟨e, he⟩ := Order.newIo_of_not_writes h
    rw [he]

end

/-- Where SQLite runs every statement, the table is the one of `saveOrder`. -/
theorem saveOrderIo_of_runs (db : Db) (order : SmallOrder) (tradeKeys : Keys) (requestId : Nat)
    (tradeIndex : Int) (isMaker : Bool) (env : Env) :
    (saveOrderIo {} db order tradeKeys requestId tradeIndex isMaker env).2 =
      saveOrder db order tradeKeys requestId tradeIndex isMaker env := by
  classical
  unfold saveOrderIo
  rw [Order.newIo_table, saveOrder_eq]
  simp [SaveIo.Writes]

/-- And the child of a range is persisted as the handler has it. -/
theorem persistRangeChildIo_of_runs (env : Env) (s : TradeState) (dm : TradeDm) (o : SmallOrder) :
    persistRangeChildIo {} env s dm o = persistRangeChildListingFromNewOrder env s dm o := by
  unfold persistRangeChildListingFromNewOrder
  rw [← saveOrderIo_of_runs]
  rfl

/-! ## Saving an order again -/

/-- The columns of a row that come from no order: who the counterparty and the solver are, the chat
secrets, the dispute, the newest message seen, and when the row was made. -/
structure TradeData where
  counterpartyPubkey : Option String
  orderChatSharedKeyHex : Option String
  disputeId : Option Uuid
  solverPubkey : Option String
  disputeChatSharedKeyHex : Option String
  lastSeenDmTs : Option Int
  createdAt : Option Int
deriving DecidableEq, Repr

/-- Those of a row. -/
def Order.tradeData (row : Order) : TradeData where
  counterpartyPubkey := row.counterpartyPubkey
  orderChatSharedKeyHex := row.orderChatSharedKeyHex
  disputeId := row.disputeId
  solverPubkey := row.solverPubkey
  disputeChatSharedKeyHex := row.disputeChatSharedKeyHex
  lastSeenDmTs := row.lastSeenDmTs
  createdAt := row.createdAt

/-- Those of a row that is made at a time: none but the time. -/
def TradeData.fresh (now : Int) : TradeData where
  counterpartyPubkey := none
  orderChatSharedKeyHex := none
  disputeId := none
  solverPubkey := none
  disputeChatSharedKeyHex := none
  lastSeenDmTs := none
  createdAt := some now

theorem Order.newRow_tradeData (order : SmallOrder) (tradeKeys : Keys) (requestId : Option Int)
    (tradeIndex : Int) (isMaker : Bool) (env : Env) :
    (Order.newRow order tradeKeys requestId tradeIndex isMaker env).tradeData =
      TradeData.fresh env.now := rfl

/-- The row of an order is there, with the data that it had. -/
def KeepsTradeData (id : Uuid) (db db' : Db) : Prop :=
  ∀ row, db id = some row → ∃ row', db' id = some row' ∧ row'.tradeData = row.tradeData

/-- **An order saved again** over its row, by `Order::new` or by `save_order`, keeps what the order
does not carry exactly when the save does not write, or there is nothing to lose: the row is as
fresh as one that is made now. -/
theorem resave_keeps_iff (io : SaveIo) (db : Db) (order : SmallOrder) (tradeKeys : Keys)
    (requestId : Option Int) (tradeIndex : Int) (isMaker : Bool) (env : Env) {row : Order}
    (hrow : db (order.id.getD env.freshId) = some row) :
    KeepsTradeData (order.id.getD env.freshId) db
        (Order.newIo io db order tradeKeys requestId tradeIndex isMaker env).2 ↔
      ¬ io.Writes db (order.id.getD env.freshId) tradeIndex ∨
        row.tradeData = TradeData.fresh env.now := by
  classical
  rw [Order.newIo_table]
  split
  next h =>
    have hput : KeepsTradeData (order.id.getD env.freshId) db (db.put (order.id.getD env.freshId)
        (Order.newRow order tradeKeys requestId tradeIndex isMaker env)) ↔
        TradeData.fresh env.now = row.tradeData := by
      simp [KeepsTradeData, hrow, Order.newRow_tradeData]
    rw [hput, eq_comm]
    simp [h]
  next h =>
    refine iff_of_true (fun row' hrow' => ⟨row', hrow', rfl⟩) (.inl h)

/-- A row in the middle of a trade. -/
def tradedRow : Order where
  id := 1
  kind := some .sell
  status := some .settledHoldInvoice
  tradeKeys := some "k1"
  counterpartyPubkey := some "peer"
  orderChatSharedKeyHex := some "secret"
  isMine := true
  tradeIndex := some 1
  createdAt := some 100
  lastSeenDmTs := some 200

/-- The row that a save of the same second made loses nothing. -/
theorem resave_keeps_new_row :
    let order : SmallOrder := { id := some 1 }
    let keys : Keys := { secretHex := "k1", publicKey := "p1" }
    let env : Env := ⟨100, 0⟩
    KeepsTradeData 1 (Table.empty.put 1 { id := 1, isMine := true, createdAt := some 100 })
      (Order.newIo {} (Table.empty.put 1 { id := 1, isMine := true, createdAt := some 100 }) order
        keys none 1 true env).2 :=
  (resave_keeps_iff {} _ { id := some 1 } { secretHex := "k1", publicKey := "p1" } none 1 true
    ⟨100, 0⟩ rfl).2 (.inr rfl)

/-- The payment request that answers a bond payout invoice is saved over the order's row, and the
counterparty, the chat's secret, the newest message and the date of the row are lost. -/
theorem bond_reply_forgets_counterparty :
    let db : Db := Table.empty.put 1 tradedRow
    let keys : Keys := { secretHex := "k1", publicKey := "p1" }
    let request : BondInvoiceRequest := ⟨1, tradedRow, keys, 7⟩
    let reply : Reply :=
      { message :=
          { action := .payBondInvoice, requestId := some 7
            payload := some (.paymentRequest (some {}) "lnbc1" none) }
        timestamp := 300, sender := "mostro" }
    let db' :=
      (operationResultFromBondInvoiceReply plainChatOps ⟨300, 0⟩ { db := db } request reply).1.db
    (db' 1).map (·.tradeData) = some (TradeData.fresh 300) ∧ ¬ KeepsTradeData 1 db db' := by
  intro db keys request reply db'
  have hlost : (db' 1).map (·.tradeData) = some (TradeData.fresh 300) := rfl
  refine ⟨hlost, fun h => ?_⟩
  obtain ⟨row', hrow', hkept⟩ := h tradedRow rfl
  rw [hrow', Option.map_some, hkept] at hlost
  exact absurd hlost (by decide)

/-! ## What `Ok` says -/

/-- The row of an order is stored with these keys and this index. -/
def Stored (db : Db) (id : Uuid) (tradeKeys : Keys) (tradeIndex : Int) : Prop :=
  ∃ row, db id = some row ∧ row.tradeKeys = some tradeKeys.secretHex ∧
    row.tradeIndex = some tradeIndex

/-- `save_order` says `Ok` only when the order's row is stored. -/
def SaveHonest (io : SaveIo) (db : Db) (order : SmallOrder) (tradeKeys : Keys) (requestId : Nat)
    (tradeIndex : Int) (isMaker : Bool) (env : Env) : Prop :=
  let (result, db') := saveOrderIo io db order tradeKeys requestId tradeIndex isMaker env
  result = .ok () → Stored db' (order.id.getD env.freshId) tradeKeys tradeIndex

/-- `persist_range_child_listing_from_new_order` says `true` only when the child it has tracked has
a row. -/
def PersistHonest (io : SaveIo) (env : Env) (s : TradeState) (dm : TradeDm) (o : SmallOrder) :
    Prop :=
  let (s', persisted) := persistRangeChildIo io env s dm o
  persisted = true → (s'.db dm.orderId).isSome = true

/-- `save_order` is honest exactly when it writes, or the row is there with these keys and this
index already. -/
theorem saveHonest_iff (io : SaveIo) (db : Db) (order : SmallOrder) (tradeKeys : Keys)
    (requestId : Nat) (tradeIndex : Int) (isMaker : Bool) (env : Env) :
    SaveHonest io db order tradeKeys requestId tradeIndex isMaker env ↔
      io.Writes db (order.id.getD env.freshId) tradeIndex ∨
        Stored db (order.id.getD env.freshId) tradeKeys tradeIndex := by
  classical
  have hok : SaveHonest io db order tradeKeys requestId tradeIndex isMaker env ↔
      Stored (saveOrderIo io db order tradeKeys requestId tradeIndex isMaker env).2
        (order.id.getD env.freshId) tradeKeys tradeIndex := ⟨fun h => h rfl, fun h _ => h⟩
  rw [hok, saveOrderIo, Order.newIo_table]
  split
  next h =>
    refine iff_of_true ⟨_, Table.put_self, rfl, rfl⟩ (.inl h)
  next h => simp [h]

/-- `persist_range_child_listing_from_new_order` is honest exactly when the child has a row already,
or the save writes and the message's order has the id it was routed to. -/
theorem persistHonest_iff (io : SaveIo) (env : Env) (s : TradeState) (dm : TradeDm)
    (o : SmallOrder) :
    PersistHonest io env s dm o ↔
      (s.db dm.orderId).isSome = true ∨
        io.Writes s.db (o.id.getD env.freshId) dm.tradeIndex ∧
          o.id.getD env.freshId = dm.orderId := by
  classical
  have htrue : PersistHonest io env s dm o ↔
      ((persistRangeChildIo io env s dm o).1.db dm.orderId).isSome = true :=
    ⟨fun h => h rfl, fun h _ => h⟩
  have hdb : (persistRangeChildIo io env s dm o).1.db = (Order.newIo io s.db o dm.tradeKeys
      (some (asI64 (dm.message.requestId.getD 0))) dm.tradeIndex true env).2 := rfl
  rw [htrue, hdb, Order.newIo_table]
  split
  next h =>
    by_cases hid : o.id.getD env.freshId = dm.orderId
    · rw [hid, Table.put_self]
      simp [hid ▸ h]
    · rw [Table.put_of_ne (Ne.symm hid)]
      simp [hid]
  next h => simp [h]

/-- **Honest results.** `save_order` says `Ok` only for a stored row, and the child of a range is
said to be persisted only when it has a row, exactly when the saves write, the child under the id it
is routed to, or what they would write is there already. -/
theorem save_honest_iff (io : SaveIo) (env : Env) :
    (∀ (db : Db) (order : SmallOrder) (tradeKeys : Keys) (requestId : Nat) (tradeIndex : Int)
      (isMaker : Bool),
      SaveHonest io db order tradeKeys requestId tradeIndex isMaker env ↔
        io.Writes db (order.id.getD env.freshId) tradeIndex ∨
          Stored db (order.id.getD env.freshId) tradeKeys tradeIndex) ∧
      ∀ (s : TradeState) (dm : TradeDm) (o : SmallOrder),
        PersistHonest io env s dm o ↔
          (s.db dm.orderId).isSome = true ∨
            io.Writes s.db (o.id.getD env.freshId) dm.tradeIndex ∧
              o.id.getD env.freshId = dm.orderId :=
  ⟨fun db order tradeKeys requestId tradeIndex isMaker =>
    saveHonest_iff io db order tradeKeys requestId tradeIndex isMaker env,
    persistHonest_iff io env⟩

/-- A save with an index that is not positive is `Ok` and stores nothing; so is one whose insert
fails; and a child whose message names another order is said to be persisted. -/
theorem save_ok_stores_nothing :
    let keys : Keys := { secretHex := "k1", publicKey := "p1" }
    let dm : TradeDm :=
      { orderId := 1, tradeIndex := 3
        message := { action := .newOrder, payload := some (.order { id := some 2 }) }
        timestamp := 10, sender := "mostro", tradeKeys := keys, notify := true }
    ¬ SaveHonest {} Table.empty { id := some 1 } keys 7 0 true ⟨0, 0⟩ ∧
      ¬ SaveHonest { insert := some "database is locked" } Table.empty { id := some 1 } keys 7 3
        true ⟨0, 0⟩ ∧
      ¬ PersistHonest {} ⟨0, 0⟩ { db := Table.empty } dm { id := some 2 } := by
  intro keys dm
  refine ⟨fun h => ?_, fun h => ?_, fun h => ?_⟩
  · obtain ⟨row, hrow, -⟩ := h rfl
    cases hrow
  · obtain ⟨row, hrow, -⟩ := h rfl
    cases hrow
  · have hsome := h rfl
    cases hsome

end Mostrix
