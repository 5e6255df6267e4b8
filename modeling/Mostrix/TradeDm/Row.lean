import Mostrix.TradeDm.Handle

/-!
# The row a trade DM leaves

What `handle_trade_dm_for_order` does to the `orders` table, once and for all. `tradeDmPath` names
the way a message takes through the handler and `handleTradeDmBegin_eq` says what each way does;
`hydrateRow_eq` and `writeGatedStatus_eq` say that the generic writes change the routed order's row
and no other, and give its status. `handleTradeDmForOrder_db` puts them together: the status
column is written twice, by the upsert from the embedded order and by the gated write, and the
second undoes the first only where the message implies a status other than the row's.
-/

namespace Mostrix

/-- The ways through the handler. -/
inductive TradeDmPath
  /-- a pending `new-order` for an order without a row: `save_order` -/
  | rangeChild (o : SmallOrder)
  /-- the take ended before it became active: the row goes -/
  | dropTake
  /-- the maker's listing goes back to the book -/
  | republish
  /-- an invoice to pay without an invoice: the handler returns after the upsert -/
  | hydrateOnly
  /-- every step of the handler -/
  | full
deriving DecidableEq, Repr

/-- The way a message takes. -/
def tradeDmPath (db : Db) (dm : TradeDm) : TradeDmPath :=
  let hydrate := if isEmptyPay dm.message then .hydrateOnly else .full
  match if dm.message.action = .newOrder then
      smallOrderPendingFromNewOrderPayload dm.message.payload else none with
  | none =>
    if isPreActiveTakerCancel (db dm.orderId) dm.message then .dropTake else hydrate
  | some o =>
    match db dm.orderId with
    | none => .rangeChild o
    | some row =>
      if isPreActiveTakerTake row then .dropTake
      else if isPreActiveMakerListing row then .republish
      else hydrate

/-- What the handler carries over the unlocked stretch. -/
def inFlight (s : TradeState) (dm : TradeDm) : TradeDmInFlight where
  dbOrder := s.db dm.orderId
  statusCandidate := statusCandidate dm.message
  prior := (newestMessage s.messages dm.orderId).map PriorMessageSnapshot.ofMessage

section
variable {ops : ChatOps} {env : Env}

/-- The first half of the handler, one equation for each way. -/
theorem handleTradeDmBegin_eq (s : TradeState) (dm : TradeDm) :
    handleTradeDmBegin ops env s dm =
      match tradeDmPath s.db dm with
      | .rangeChild o => ((persistRangeChildListingFromNewOrder env s dm o).1, none)
      | .dropTake => (dropPreActiveTakerTake s dm.orderId, none)
      | .republish => (revertMakerToPendingOnBookRepublish ops env s dm, none)
      | .hydrateOnly => ({ s with db := hydrateRow ops env s.db dm }, none)
      | .full => ({ s with db := hydrateRow ops env s.db dm }, some (inFlight s dm)) := by
  have hcancel : ∀ row, dm.message.action = .newOrder →
      isPreActiveTakerCancel row dm.message = false := by
    intro row h
    simp [isPreActiveTakerCancel, h]
  unfold handleTradeDmBegin tryHandleNewOrderTradeDm tradeDmPath
  simp only [Order.getById]
  by_cases hnew : dm.message.action = .newOrder
  · cases hp : smallOrderPendingFromNewOrderPayload dm.message.payload with
    | none => by_cases he : isEmptyPay dm.message <;> simp [hnew, hcancel, he, inFlight]
    | some o =>
      obtain hrow | ⟨row, hrow⟩ := Option.eq_none_or_eq_some (s.db dm.orderId)
      · simp [hnew, hrow, persistRangeChildListingFromNewOrder]
      · by_cases ht : isPreActiveTakerTake row
        · simp [hnew, hrow, ht]
        · by_cases hm : isPreActiveMakerListing row
          · simp [hnew, hrow, ht, hm]
          · by_cases he : isEmptyPay dm.message <;>
              simp [hnew, ht, hm, hrow, hcancel, he, inFlight]
  · by_cases hc : isPreActiveTakerCancel (s.db dm.orderId) dm.message
    · simp [hnew, hc]
    · by_cases he : isEmptyPay dm.message <;> simp [hnew, hc, he, inFlight]

/-! ## The upsert -/

/-- The order a message upserts into the routed row: its action is one that is persisted, it
carries an order, and the order's id is absent or the routed one. -/
def upsertOrder (orderId : Uuid) (action : Action) (payload : Option Payload) :
    Option SmallOrder :=
  (smallOrderToUpsert action payload).filter (payloadIdMatches orderId)

/-- The routed row after `upsert_order_from_trade_dm`. -/
def upsertRow (ops : ChatOps) (now : Int) (orderId : Uuid) (o : Option SmallOrder)
    (requestId : Option Nat) (tradeKeys : Keys) (row : Order) : Order :=
  match o with
  | some o =>
    Order.buildOrderFromSmallOrder ops orderId { o with id := some orderId } tradeKeys (some row)
      (requestId.bind i64TryFrom) now
  | none => row

/-- The upsert of a trade DM changes the routed row only. -/
theorem upsertOrderFromTradeDm_eq (db : Db) (orderId : Uuid) (action : Action)
    (payload : Option Payload) (requestId : Option Nat) (tradeKeys : Keys) (now : Int) :
    upsertOrderFromTradeDm ops db orderId action payload requestId tradeKeys now =
      db.modify orderId
        (upsertRow ops now orderId (upsertOrder orderId action payload) requestId tradeKeys) := by
  unfold upsertOrderFromTradeDm upsertOrder upsertRow
  cases smallOrderToUpsert action payload with
  | none => simp
  | some o => by_cases h : payloadIdMatches orderId o <;> simp [upsertDb_eq, h, Option.filter_some]

@[simp] theorem upsertRow_status (now : Int) (orderId : Uuid) (o : Option SmallOrder)
    (requestId : Option Nat) (tradeKeys : Keys) (row : Order) :
    (upsertRow ops now orderId o requestId tradeKeys row).status =
      match o with
      | some o => o.status
      | none => row.status := by
  cases o <;> rfl

variable (ops) in
/-- The upsert keeps the keys, the index and the role of the row. -/
theorem upsertRow_ownership (now : Int) (orderId : Uuid) (o : Option SmallOrder)
    (requestId : Option Nat) (tradeKeys : Keys) (row : Order) :
    let row' := upsertRow ops now orderId o requestId tradeKeys row
    row'.tradeKeys = row.tradeKeys ∧ row'.tradeIndex = row.tradeIndex ∧
      row'.isMine = row.isMine := by
  cases o with
  | none => exact ⟨rfl, rfl, rfl⟩
  | some o => exact Order.buildOrderFromSmallOrder_ownership ..

/-- The routed row after the dispute writes. -/
def disputeRow (ops : ChatOps) (dm : TradeDm) (row : Order) : Order :=
  match dm.message.action, dm.message.payload with
  | .disputeInitiatedByYou, some (.dispute id) => { row with disputeId := some id }
  | .disputeInitiatedByPeer, some (.dispute id) => { row with disputeId := some id }
  | .adminTookDispute, some (.peer pubkey) =>
    match ops.parsePubkey pubkey, deriveSharedKeyHex ops dm.tradeKeys pubkey with
    | some _, some hex =>
      { row with solverPubkey := some pubkey, disputeChatSharedKeyHex := some hex }
    | _, _ => row
  | _, _ => row

/-- The dispute writes change the routed row only. -/
theorem persistDispute_eq (db : Db) (dm : TradeDm) :
    persistDispute ops db dm = db.modify dm.orderId (disputeRow ops dm) := by
  have hrow : disputeRow ops dm = fun row => disputeRow ops dm row := rfl
  rw [hrow]
  unfold persistDispute disputeRow
  cases ha : dm.message.action <;> cases hp : dm.message.payload with
  | none => simp
  | some payload =>
    cases payload <;> try simp [Order.updateDisputeId]
    all_goals
      cases ops.parsePubkey _ <;> cases deriveSharedKeyHex ops dm.tradeKeys _ <;>
        simp [Order.updateSolverChat]

variable (ops) in
/-- The dispute writes touch neither the status nor the keys, the index or the role. -/
theorem disputeRow_frame (dm : TradeDm) (row : Order) :
    let row' := disputeRow ops dm row
    row'.status = row.status ∧ row'.tradeKeys = row.tradeKeys ∧
      row'.tradeIndex = row.tradeIndex ∧ row'.isMine = row.isMine := by
  unfold disputeRow
  split
  · exact ⟨rfl, rfl, rfl, rfl⟩
  · exact ⟨rfl, rfl, rfl, rfl⟩
  · split <;> exact ⟨rfl, rfl, rfl, rfl⟩
  · exact ⟨rfl, rfl, rfl, rfl⟩

/-- The order the generic path upserts: none for `cant-do`. -/
def upsertedOrder (dm : TradeDm) : Option SmallOrder :=
  if dm.message.action = .cantDo then none
  else upsertOrder dm.orderId dm.message.action dm.message.payload

/-- The routed row after the generic upsert and the dispute writes. -/
def hydratedRow (ops : ChatOps) (env : Env) (dm : TradeDm) (row : Order) : Order :=
  disputeRow ops dm
    (upsertRow ops env.now dm.orderId (upsertedOrder dm) dm.message.requestId dm.tradeKeys row)

/-- The generic writes before the Messages list is read change the routed row only. -/
theorem hydrateRow_eq (db : Db) (dm : TradeDm) :
    hydrateRow ops env db dm = db.modify dm.orderId (hydratedRow ops env dm) := by
  unfold hydrateRow hydratedRow upsertedOrder
  by_cases h : dm.message.action = .cantDo
  · simp [h, persistDispute_eq, upsertRow]
  · simp [h, persistDispute_eq, upsertOrderFromTradeDm_eq]

variable (ops env) in
/-- The generic writes take the status from the upserted order, where there is one. -/
@[simp] theorem hydratedRow_status (dm : TradeDm) (row : Order) :
    (hydratedRow ops env dm row).status =
      match upsertedOrder dm with
      | some o => o.status
      | none => row.status := by
  rw [hydratedRow, (disputeRow_frame ops dm _).1, upsertRow_status]

/-- No generic write touches the keys, the trade index or the role of the row. -/
theorem hydratedRow_ownership (dm : TradeDm) (row : Order) :
    let row' := hydratedRow ops env dm row
    row'.tradeKeys = row.tradeKeys ∧ row'.tradeIndex = row.tradeIndex ∧
      row'.isMine = row.isMine := by
  obtain ⟨h1, h2, h3⟩ := upsertRow_ownership ops env.now dm.orderId (upsertedOrder dm)
    dm.message.requestId dm.tradeKeys row
  obtain ⟨-, d1, d2, d3⟩ := disputeRow_frame ops dm
    (upsertRow ops env.now dm.orderId (upsertedOrder dm) dm.message.requestId dm.tradeKeys row)
  exact ⟨d1.trans h1, d2.trans h2, d3.trans h3⟩

/-! ## The gated write -/

/-- The status the gated write leaves, from the one the upsert left. -/
def gatedStatus (dm : TradeDm) (f : TradeDmInFlight) (upserted : Option Status) : Option Status :=
  match f.statusCandidate with
  | none => upserted
  | some candidate =>
    if shouldAcceptCandidate dm f then
      if baselineStatus f ≠ some candidate then some candidate else upserted
    else (f.dbOrder.bind (·.status)).or upserted

/-- The gated write changes the status of the routed row only. -/
theorem writeGatedStatus_eq (db : Db) (dm : TradeDm) (f : TradeDmInFlight) :
    writeGatedStatus db dm f =
      db.modify dm.orderId fun row => { row with status := gatedStatus dm f row.status } := by
  unfold writeGatedStatus gatedStatus
  cases hc : f.statusCandidate with
  | none => simp
  | some candidate =>
    by_cases ha : shouldAcceptCandidate dm f
    · by_cases hb : baselineStatus f = some candidate <;> simp [ha, hb, Order.updateStatus]
    · cases hs : f.dbOrder.bind (·.status) <;> simp [ha, Order.updateStatus]

/-- The gated write against a row that had a status: an implied status that the gate accepts is
written when it is another one, and one it rejects restores the row's. -/
theorem gatedStatus_of_status {dm : TradeDm} {f : TradeDmInFlight} {st : Status}
    (hst : f.dbOrder.bind (·.status) = some st) (upserted : Option Status) :
    gatedStatus dm f upserted =
      match f.statusCandidate with
      | none => upserted
      | some c =>
        if st = c then upserted
        else if shouldApplyStatusTransition (some st) c (effectiveOrderKind dm f) then some c
        else some st := by
  have hbase : baselineStatus f = some st := by simp [baselineStatus, hst]
  unfold gatedStatus shouldAcceptCandidate
  cases f.statusCandidate with
  | none => rfl
  | some c =>
    by_cases hc : st = c
    · subst hc
      simp [hbase]
    · simp [hbase, hst, hc]

/-! ## The handler -/

/-- The row a message leaves on the generic path. -/
def finishedRow (ops : ChatOps) (env : Env) (s : TradeState) (dm : TradeDm) (row : Order) : Order :=
  let row := hydratedRow ops env dm row
  { row with status := gatedStatus dm (inFlight s dm) row.status }

/-- The table a message leaves, one equation for each way. -/
theorem handleTradeDmForOrder_db (s : TradeState) (dm : TradeDm) :
    (handleTradeDmForOrder ops env s dm).db =
      match tradeDmPath s.db dm with
      | .rangeChild o =>
        saveOrder s.db o dm.tradeKeys (dm.message.requestId.getD 0) dm.tradeIndex true env
      | .dropTake => s.db.erase dm.orderId
      | .republish =>
        Order.updateStatus (upsertOrderFromTradeDm ops s.db dm.orderId .newOrder dm.message.payload
          dm.message.requestId dm.tradeKeys env.now) dm.orderId .pending
      | .hydrateOnly => s.db.modify dm.orderId (hydratedRow ops env dm)
      | .full => s.db.modify dm.orderId (finishedRow ops env s dm) := by
  unfold handleTradeDmForOrder
  rw [handleTradeDmBegin_eq]
  cases tradeDmPath s.db dm with
  | rangeChild o => rfl
  | dropTake => rfl
  | republish => rfl
  | hydrateOnly => exact hydrateRow_eq s.db dm
  | full =>
    simp only [handleTradeDmFinish, hydrateRow_eq, writeGatedStatus_eq, Table.modify_modify]
    rfl

variable (ops env) in
/-- A row that a `new-order` reverts keeps its place in the table, with status `pending`. -/
theorem republish_row {s : TradeState} {dm : TradeDm} {row : Order}
    (hrow : s.db dm.orderId = some row) :
    ∃ row', Order.updateStatus (upsertOrderFromTradeDm ops s.db dm.orderId .newOrder
        dm.message.payload dm.message.requestId dm.tradeKeys env.now) dm.orderId .pending
          dm.orderId = some row' ∧ row'.status = some .pending := by
  simp [upsertOrderFromTradeDm_eq, Order.updateStatus, hrow]

/-- The only way that writes the row of another order is the range child's `save_order`. -/
theorem handleTradeDmForOrder_db_of_ne {s : TradeState} {dm : TradeDm} {id : Uuid}
    (hid : id ≠ dm.orderId) (hpath : ∀ o, tradeDmPath s.db dm ≠ .rangeChild o) :
    (handleTradeDmForOrder ops env s dm).db id = s.db id := by
  rw [handleTradeDmForOrder_db]
  cases h : tradeDmPath s.db dm with
  | rangeChild o => exact absurd h (hpath o)
  | dropTake => simp [hid]
  | republish =>
    simp [upsertOrderFromTradeDm_eq, Order.updateStatus, hid]
  | hydrateOnly => simp [hid]
  | full => simp [hid]

variable (ops env) in
/-- The row of the Messages list that a message builds on the full way. -/
def builtMessage (s : TradeState) (dm : TradeDm) : OrderMessage :=
  tradeDmMessage dm (inFlight s dm) ((hydrateRow ops env s.db dm dm.orderId).map (·.isMine))

@[simp] theorem builtMessage_orderId (s : TradeState) (dm : TradeDm) :
    (builtMessage ops env s dm).orderId = some dm.orderId := rfl

@[simp] theorem builtMessage_timestamp (s : TradeState) (dm : TradeDm) :
    (builtMessage ops env s dm).timestamp = dm.timestamp := rfl

@[simp] theorem builtMessage_message (s : TradeState) (dm : TradeDm) :
    (builtMessage ops env s dm).message = dm.message := rfl

variable (ops env) in
/-- The Messages list a message leaves, one equation for each way. -/
theorem handleTradeDmForOrder_messages (s : TradeState) (dm : TradeDm) :
    (handleTradeDmForOrder ops env s dm).messages =
      match tradeDmPath s.db dm with
      | .rangeChild _ | .hydrateOnly => s.messages
      | .dropTake | .republish => removeOrderFromMessages s.messages dm.orderId
      | .full =>
        if shouldReplaceRow dm (inFlight s dm) then
          sortMessages (removeOrderFromMessages s.messages dm.orderId ++
            [builtMessage ops env s dm])
        else s.messages := by
  unfold handleTradeDmForOrder
  rw [handleTradeDmBegin_eq]
  cases tradeDmPath s.db dm with
  | _ => rfl

variable (ops env) in
/-- Only the full way counts a notification. -/
theorem handleTradeDmForOrder_pendingNotifications (s : TradeState) (dm : TradeDm) :
    (handleTradeDmForOrder ops env s dm).pendingNotifications =
      if tradeDmPath s.db dm = .full ∧ sendsNotification dm (inFlight s dm) = true then
        s.pendingNotifications + 1
      else s.pendingNotifications := by
  unfold handleTradeDmForOrder
  rw [handleTradeDmBegin_eq]
  cases tradeDmPath s.db dm with
  | full => simp [handleTradeDmFinish]
  | _ => rfl

/-- A message keeps every other order's rows of the Messages list. -/
theorem handleTradeDmForOrder_rowsOf {s : TradeState} {dm : TradeDm} {id : Uuid}
    (hid : id ≠ dm.orderId) :
    (rowsOf (handleTradeDmForOrder ops env s dm).messages id).Perm (rowsOf s.messages id) := by
  have hmsg : rowsOf [builtMessage ops env s dm] id = [] := by simp [rowsOf, Ne.symm hid]
  rw [handleTradeDmForOrder_messages]
  cases tradeDmPath s.db dm with
  | rangeChild o => exact .refl _
  | hydrateOnly => exact .refl _
  | dropTake => exact .of_eq (rowsOf_removeOrderFromMessages hid)
  | republish => exact .of_eq (rowsOf_removeOrderFromMessages hid)
  | full =>
    dsimp only
    split
    · refine (rowsOf_sortMessages _ _).trans (.of_eq ?_)
      rw [rowsOf_append, hmsg, List.append_nil, rowsOf_removeOrderFromMessages hid]
    · exact .refl _

/-- A pending order that a `new-order` lists. -/
theorem listed_of_newOrder {message : MessageKind} {o : SmallOrder}
    (h : (if message.action = .newOrder then
      smallOrderPendingFromNewOrderPayload message.payload else none) = some o) :
    message.action = .newOrder ∧ message.payload = some (.order o) ∧ o.status = some .pending := by
  split at h
  · rename_i haction
    unfold smallOrderPendingFromNewOrderPayload at h
    split at h
    · rename_i o' hpayload
      split at h
      · rename_i hpending
        obtain rfl := Option.some.inj h
        exact ⟨haction, hpayload, hpending⟩
      · cases h
    · cases h
  · cases h

/-- What sends a message its way: a range child is only saved for an order without a row, a
republished listing is the maker's and not yet active, and of the rest the handler returns after the
upsert on a pay action without an invoice. -/
def TradeDmPath.Taken (db : Db) (dm : TradeDm) : TradeDmPath → Prop
  | .rangeChild o =>
    db dm.orderId = none ∧ dm.message.action = .newOrder ∧
      dm.message.payload = some (.order o) ∧ o.status = some .pending
  | .dropTake =>
    (dm.message.action = .newOrder ∧
      ∃ o, dm.message.payload = some (.order o) ∧ o.status = some .pending) ∨
      dm.message.payload = none
  | .republish =>
    dm.message.action = .newOrder ∧
      (∃ o, dm.message.payload = some (.order o) ∧ o.status = some .pending) ∧
      ∃ row, db dm.orderId = some row ∧ isPreActiveMakerListing row = true
  | .hydrateOnly => isEmptyPay dm.message = true
  | .full => isEmptyPay dm.message = false

/-- Every message takes its way for the reason given. -/
theorem tradeDmPath_taken {db : Db} {dm : TradeDm} {path : TradeDmPath}
    (h : tradeDmPath db dm = path) : path.Taken db dm := by
  subst h
  have hhydrate : TradeDmPath.Taken db dm
      (if isEmptyPay dm.message then .hydrateOnly else .full) := by
    split
    · rename_i hpay
      exact hpay
    · rename_i hpay
      exact Bool.eq_false_of_not_eq_true hpay
  unfold tradeDmPath
  dsimp only
  cases hlisted : if dm.message.action = .newOrder then
      smallOrderPendingFromNewOrderPayload dm.message.payload else none with
  | none =>
    dsimp only
    split
    · rename_i hcancel
      unfold isPreActiveTakerCancel at hcancel
      simp only [Bool.and_eq_true, Option.isNone_iff_eq_none] at hcancel
      exact .inr hcancel.1.2
    · exact hhydrate
  | some o =>
    obtain ⟨haction, hpayload, hpending⟩ := listed_of_newOrder hlisted
    dsimp only
    cases hrow : db dm.orderId with
    | none => exact ⟨hrow, haction, hpayload, hpending⟩
    | some row =>
      dsimp only
      split
      · exact .inl ⟨haction, o, hpayload, hpending⟩
      · split
        · rename_i hlisting
          exact ⟨haction, ⟨o, hpayload, hpending⟩, row, hrow, hlisting⟩
        · exact hhydrate

end

end Mostrix
