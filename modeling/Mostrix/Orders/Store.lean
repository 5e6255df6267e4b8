import Mathlib.Algebra.Group.Int.Defs
import Mathlib.Algebra.Group.Nat.Defs
import Mostrix.Library.Table
import Mostrix.Protocol.Message

/-!
# The `orders` table

`models.rs` and `util/db_utils.rs`: the order row and every statement the client runs on it. The
table is a `Table` keyed by order id; `insertDb` fails on an id that is there, as the primary key
makes it, and every `UPDATE … WHERE id = ?` is a `modify`. Statements that reach SQLite are taken to
succeed. The status and kind columns hold the protocol's kebab-case names; they are modelled by the
values those names parse to, `none` for `NULL` and for a text that does not parse, which is all the
client ever reads from them.

The row an update leaves is stated once for each statement, as `…_eq`, and the modules above use
those.
-/

namespace Mostrix

/-- A row of `orders` (`models.rs`). -/
structure Order where
  id : Uuid
  kind : Option Kind := none
  status : Option Status := none
  amount : Int := 0
  fiatCode : String := ""
  minAmount : Option Int := none
  maxAmount : Option Int := none
  fiatAmount : Int := 0
  paymentMethod : String := ""
  premium : Int := 0
  tradeKeys : Option String := none
  counterpartyPubkey : Option String := none
  orderChatSharedKeyHex : Option String := none
  disputeId : Option Uuid := none
  solverPubkey : Option String := none
  disputeChatSharedKeyHex : Option String := none
  isMine : Bool
  buyerInvoice : Option String := none
  requestId : Option Int := none
  tradeIndex : Option Int := none
  createdAt : Option Int := none
  expiresAt : Option Int := none
  lastSeenDmTs : Option Int := none
deriving DecidableEq, Repr, Inhabited

/-- The `orders` table. -/
abbrev Db := Table Uuid Order

/-- The key operations of the chat crypto that order rows depend on, which live in dependencies:
`PublicKey::parse` and the hex of `SharedKey::derive`. -/
structure ChatOps where
  parsePubkey : String → Option PublicKey
  sharedHex : Keys → PublicKey → Option String

/-- Chat operations that take every text for a key, for concrete runs. -/
def plainChatOps : ChatOps where
  parsePubkey := some
  sharedHex := fun _ pubkey => some pubkey

/-- What a statement reads from outside the database: the clock and a fresh `Uuid::new_v4`. -/
structure Env where
  now : Int
  freshId : Uuid

/-- A failed `insert_db`. -/
inductive DbError
  | uniqueViolation
deriving DecidableEq, Repr

/-- `u64 as i64`. -/
def asI64 (n : Nat) : Int := (n : Int).bmod (2 ^ 64)

/-- `i64::try_from(u64)`. -/
def i64TryFrom (n : Nat) : Option Int := if n < 2 ^ 63 then some n else none

/-- `derive_shared_key_hex`. -/
def deriveSharedKeyHex (ops : ChatOps) (keys : Keys) (counterparty : String) : Option String :=
  (ops.parsePubkey counterparty).bind (ops.sharedHex keys)

/-- `order_chat_counterparty_and_shared_hex`: the other party's trade key and the chat secret, when
the order names both trade keys and one of them is ours. -/
def orderChatCounterpartyAndSharedHex (ops : ChatOps) (tradeKeys : Keys) (o : SmallOrder) :
    Option (String × String) := do
  let buyer ← o.buyerTradePubkey
  let seller ← o.sellerTradePubkey
  if buyer = "" ∨ seller = "" then none
  else
    let buyerPk ← ops.parsePubkey buyer
    let sellerPk ← ops.parsePubkey seller
    if tradeKeys.publicKey = buyerPk then
      let hex ← deriveSharedKeyHex ops tradeKeys seller
      some (seller, hex)
    else if tradeKeys.publicKey = sellerPk then
      let hex ← deriveSharedKeyHex ops tradeKeys buyer
      some (buyer, hex)
    else none

namespace Order

/-! ## Statements -/

/-- `Order::get_by_id`. -/
def getById (db : Db) (id : Uuid) : Option Order := db id

/-- `insert_db`: fails on an id that is there. -/
def insertDb (db : Db) (o : Order) : Except DbError Db :=
  match db o.id with
  | some _ => .error .uniqueViolation
  | none => .ok (db.put o.id o)

/-- `update_db`: overwrites every column of the row with this id. -/
def updateDb (db : Db) (o : Order) : Db := db.modify o.id fun _ => o

/-- `Order::update_status`. -/
def updateStatus (db : Db) (id : Uuid) (status : Status) : Db :=
  db.modify id fun o => { o with status := some status }

/-- `Order::update_last_seen_dm_ts`: the cursor only grows. -/
def updateLastSeenDmTs (db : Db) (id : Uuid) (ts : Int) : Db :=
  db.modify id fun o =>
    { o with
      lastSeenDmTs :=
        match o.lastSeenDmTs with
        | none => some ts
        | some seen => if seen < ts then some ts else some seen }

/-- `Order::update_dispute_id`. -/
def updateDisputeId (db : Db) (id disputeId : Uuid) : Db :=
  db.modify id fun o => { o with disputeId := some disputeId }

/-- `Order::update_solver_chat`. -/
def updateSolverChat (db : Db) (id : Uuid) (solver hex : String) : Db :=
  db.modify id fun o =>
    { o with solverPubkey := some solver, disputeChatSharedKeyHex := some hex }

/-- `delete_order_by_id` (`db_utils.rs`). -/
def deleteById (db : Db) (id : Uuid) : Db := db.erase id

/-! ## `Order::new` and `save_order` -/

/-- The row `Order::new` builds. -/
def newRow (order : SmallOrder) (tradeKeys : Keys) (requestId : Option Int) (tradeIndex : Int)
    (isMaker : Bool) (env : Env) : Order where
  id := order.id.getD env.freshId
  kind := order.kind
  status := order.status
  amount := order.amount
  fiatCode := order.fiatCode
  minAmount := order.minAmount
  maxAmount := order.maxAmount
  fiatAmount := order.fiatAmount
  paymentMethod := order.paymentMethod
  premium := order.premium
  tradeKeys := some tradeKeys.secretHex
  isMine := isMaker
  buyerInvoice := order.buyerInvoice
  requestId := requestId
  tradeIndex := some tradeIndex
  createdAt := some env.now
  expiresAt := order.expiresAt

/-- `Order::new`: insert the row, or overwrite the one with the same id. -/
def new (db : Db) (order : SmallOrder) (tradeKeys : Keys) (requestId : Option Int)
    (tradeIndex : Int) (isMaker : Bool) (env : Env) : Except String (Order × Db) :=
  if tradeIndex ≤ 0 then
    .error s!"Invalid trade_index {tradeIndex} while persisting order; expected positive index"
  else
    let row := newRow order tradeKeys requestId tradeIndex isMaker env
    match row.insertDb db with
    | .ok db' => .ok (row, db')
    | .error .uniqueViolation => .ok (row, row.updateDb db)

/-! ## `upsert_from_small_order_dm` -/

/-- `build_order_from_small_order`: the trade data comes from the message, the keys, the index, the
role and the dispute data from the existing row. -/
def buildOrderFromSmallOrder (ops : ChatOps) (id : Uuid) (o : SmallOrder) (tradeKeys : Keys)
    (existing : Option Order) (messageRequestId : Option Int) (now : Int) : Order :=
  let chat := orderChatCounterpartyAndSharedHex ops tradeKeys o
  { id := id
    kind := o.kind
    status := o.status
    amount := o.amount
    fiatCode := o.fiatCode
    minAmount := o.minAmount
    maxAmount := o.maxAmount
    fiatAmount := o.fiatAmount
    paymentMethod := o.paymentMethod
    premium := o.premium
    -- the keys of a row are bound to it: a DM never rotates them
    tradeKeys := existing.bind (·.tradeKeys)
    counterpartyPubkey :=
      match chat with
      | some (counterparty, _) => some counterparty
      | none => existing.bind (·.counterpartyPubkey)
    orderChatSharedKeyHex :=
      match chat with
      | some (_, hex) => some hex
      | none => existing.bind (·.orderChatSharedKeyHex)
    disputeId := existing.bind (·.disputeId)
    solverPubkey := existing.bind (·.solverPubkey)
    disputeChatSharedKeyHex := existing.bind (·.disputeChatSharedKeyHex)
    isMine := (existing.map (·.isMine)).getD true
    buyerInvoice := o.buyerInvoice
    requestId := messageRequestId.or (existing.bind (·.requestId))
    tradeIndex := existing.bind (·.tradeIndex)
    createdAt := (existing.bind (·.createdAt)).or (some now)
    expiresAt := o.expiresAt
    lastSeenDmTs := existing.bind (·.lastSeenDmTs) }

/-- `Order::upsert_from_small_order_dm`. -/
def upsertFromSmallOrderDm (ops : ChatOps) (db : Db) (orderIdFallback : Uuid) (o : SmallOrder)
    (tradeKeys : Keys) (messageRequestId : Option Int) (now : Int) :
    Except String (Order × Db) :=
  match o.id.filter (· ≠ orderIdFallback) with
  | some payloadId =>
    .error (s!"Rejected DM order upsert: payload id {payloadId} does not match " ++
      s!"routed order id {orderIdFallback}")
  | none =>
    let id := orderIdFallback
    let o := { o with id := some id }
    let existing := getById db id
    let row := buildOrderFromSmallOrder ops id o tradeKeys existing messageRequestId now
    if existing.isSome then .ok (row, row.updateDb db)
    else if row.tradeIndex.isNone then
      .error (s!"Cannot insert order {id} from DM without persisted trade_index; " ++
        "this indicates an inconsistent local state.")
    else
      match row.insertDb db with
      | .ok db' => .ok (row, db')
      | .error .uniqueViolation =>
        let row := buildOrderFromSmallOrder ops id o tradeKeys (getById db id) messageRequestId now
        .ok (row, row.updateDb db)

end Order

/-- `save_order` (`db_utils.rs`): `Order::new` with its error dropped. -/
def saveOrder (db : Db) (order : SmallOrder) (tradeKeys : Keys) (requestId : Nat)
    (tradeIndex : Int) (isMaker : Bool) (env : Env) : Db :=
  match Order.new db order tradeKeys (some (asI64 requestId)) tradeIndex isMaker env with
  | .ok (_, db') => db'
  | .error _ => db

/-- The table after `upsert_from_small_order_dm`, whose caller drops a failure. -/
def upsertDb (ops : ChatOps) (db : Db) (orderId : Uuid) (o : SmallOrder) (tradeKeys : Keys)
    (messageRequestId : Option Int) (now : Int) : Db :=
  match Order.upsertFromSmallOrderDm ops db orderId o tradeKeys messageRequestId now with
  | .ok (_, db') => db'
  | .error _ => db

/-- The cast tells `u64`s apart. -/
theorem asI64_inj {m n : Nat} (hm : m < 2 ^ 64) (hn : n < 2 ^ 64) (h : asI64 m = asI64 n) :
    m = n := by
  have hemod : (m : Int) % (2 ^ 64 : Nat) = (n : Int) % (2 ^ 64 : Nat) :=
    calc (m : Int) % (2 ^ 64 : Nat) = asI64 m % (2 ^ 64 : Nat) := Int.bmod_emod.symm
      _ = asI64 n % (2 ^ 64 : Nat) := by rw [h]
      _ = (n : Int) % (2 ^ 64 : Nat) := Int.bmod_emod
  omega

/-! ## What each statement leaves -/

@[simp] theorem Order.newRow_id (order : SmallOrder) (tradeKeys : Keys) (requestId : Option Int)
    (tradeIndex : Int) (isMaker : Bool) (env : Env) :
    (Order.newRow order tradeKeys requestId tradeIndex isMaker env).id = order.id.getD env.freshId :=
  rfl

@[simp] theorem Order.buildOrderFromSmallOrder_id (ops : ChatOps) (id : Uuid) (o : SmallOrder)
    (tradeKeys : Keys) (existing : Option Order) (req : Option Int) (now : Int) :
    (Order.buildOrderFromSmallOrder ops id o tradeKeys existing req now).id = id := rfl

@[simp] theorem Order.buildOrderFromSmallOrder_status (ops : ChatOps) (id : Uuid) (o : SmallOrder)
    (tradeKeys : Keys) (existing : Option Order) (req : Option Int) (now : Int) :
    (Order.buildOrderFromSmallOrder ops id o tradeKeys existing req now).status = o.status := rfl

/-- An upsert never changes the keys, the index or the role of a row that is there. -/
theorem Order.buildOrderFromSmallOrder_ownership (ops : ChatOps) (id : Uuid) (o : SmallOrder)
    (tradeKeys : Keys) (row : Order) (req : Option Int) (now : Int) :
    let built := Order.buildOrderFromSmallOrder ops id o tradeKeys (some row) req now
    built.tradeKeys = row.tradeKeys ∧ built.tradeIndex = row.tradeIndex ∧
      built.isMine = row.isMine :=
  ⟨rfl, rfl, rfl⟩

/-- Insert and the fallback on a key conflict leave the same table: the row is written at its id. -/
theorem Order.new_eq {db : Db} {order : SmallOrder} {tradeKeys : Keys} {requestId : Option Int}
    {tradeIndex : Int} {isMaker : Bool} {env : Env} (h : 0 < tradeIndex) :
    Order.new db order tradeKeys requestId tradeIndex isMaker env =
      .ok (Order.newRow order tradeKeys requestId tradeIndex isMaker env,
        db.put (order.id.getD env.freshId)
          (Order.newRow order tradeKeys requestId tradeIndex isMaker env)) := by
  have hle : ¬ tradeIndex ≤ 0 := by omega
  cases hdb : db (order.id.getD env.freshId) with
  | none => simp [Order.new, hle, Order.insertDb, hdb]
  | some row => simp [Order.new, hle, Order.insertDb, Order.updateDb, hdb, Table.modify, Table.put]

/-- `save_order` writes the new row at the payload's id, or does nothing on a bad index. -/
theorem saveOrder_eq (db : Db) (order : SmallOrder) (tradeKeys : Keys) (requestId : Nat)
    (tradeIndex : Int) (isMaker : Bool) (env : Env) :
    saveOrder db order tradeKeys requestId tradeIndex isMaker env =
      if 0 < tradeIndex then
        db.put (order.id.getD env.freshId)
          (Order.newRow order tradeKeys (some (asI64 requestId)) tradeIndex isMaker env)
      else db := by
  by_cases h : 0 < tradeIndex
  · simp [saveOrder, Order.new_eq h, h]
  · have hle : tradeIndex ≤ 0 := by omega
    simp [saveOrder, Order.new, h, hle]

/-- The id check of the upsert: an order without an id, or with the routed one. -/
def payloadIdMatches (orderId : Uuid) (o : SmallOrder) : Bool :=
  (o.id.filter (· ≠ orderId)).isNone

/-- An upsert rewrites the row of the routed order when it is there and the payload's id agrees;
it never inserts one. -/
theorem upsertDb_eq (ops : ChatOps) (db : Db) (orderId : Uuid) (o : SmallOrder) (tradeKeys : Keys)
    (req : Option Int) (now : Int) :
    upsertDb ops db orderId o tradeKeys req now =
      if payloadIdMatches orderId o then
        db.modify orderId fun row =>
          Order.buildOrderFromSmallOrder ops orderId { o with id := some orderId } tradeKeys
            (some row) req now
      else db := by
  unfold upsertDb Order.upsertFromSmallOrderDm payloadIdMatches
  cases hid : o.id.filter (· ≠ orderId) with
  | some payloadId => simp
  | none =>
    cases hdb : db orderId with
    | none =>
      simp [Order.getById, hdb, Order.buildOrderFromSmallOrder, Table.modify_eq_self_of_none]
    | some row => simp [Order.getById, hdb, Order.updateDb, Table.modify]

end Mostrix
