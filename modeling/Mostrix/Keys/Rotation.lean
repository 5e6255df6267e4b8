import Mostrix.Library.Run
import Mostrix.Keys.User
import Mostrix.Replies.NewOrder

/-!
# Key rotation among flows in flight

A rotation replaces the user's row and deletes every order in one transaction, so that no row holds
a key of the old mnemonic. The flows that wait for a reply keep the keys they read before it,
though, and `save_order` writes them whenever the reply comes.

`KeysConsistent` is what a rotation wants: every row's key is the one the current mnemonic derives
for the row's index. `keysConsistent_next_iff` says which steps keep it, for any interleaving of
rotations, flows, and trade DMs; the only ones that may not are those that save an order with keys
the mnemonic does not derive. `guarded_of_no_rotation` adds that only a rotation makes such a step
possible.
-/

namespace Mostrix.Rotation

/-- A flow that waits for a reply. -/
inductive Flow
  | take (req : TakeOrderRequest)
  | newOrder (req : NewOrderRequest)
  | invoice (req : InvoiceRequest)
  | bond (req : BondInvoiceRequest)

/-- The database, the flows that wait, and the user the trade-DM listener was started with. -/
structure KeyState where
  user : Option User
  trade : TradeState
  flows : List Flow := []
  listener : Option User := none

/-- One step of a task. -/
inductive KeyEvent
  /-- the rotation task commits its transaction -/
  | rotate (mnemonic : String) (now : Int)
  /-- `take_order` up to the request -/
  | takeOrder (orderId : Uuid) (requestId : Nat)
  /-- `send_new_order` up to the request -/
  | newOrder (requestId : Nat)
  /-- `execute_payment_request_reply` up to the request -/
  | addInvoice (orderId : Uuid) (requestId : Nat)
  /-- `execute_bond_payment_request_reply` up to the request -/
  | addBondInvoice (orderId : Uuid) (requestId : Nat)
  /-- the `n`-th flow gets its reply -/
  | reply (n : Nat) (env : Env) (reply : Reply)
  /-- the `n`-th flow ends without one -/
  | giveUp (n : Nat)
  /-- `create_msg_payload` reserves the index of a range order's next trade -/
  | nextTrade
  /-- the trade-DM listener is started and reads the user -/
  | listenerStarted
  /-- the listener handles a trade DM, whose keys it derives itself -/
  | tradeDm (env : Env) (dm : TradeDm)
  /-- a status is written -/
  | statusWritten (orderId : Uuid) (status : Status)
  /-- an order is deleted from the history -/
  | rowDeleted (orderId : Uuid)

section
variable (keyOps : KeyOps) (ops : ChatOps)

/-- What the two invoice flows read before the request: the row and its keys. -/
def readOrderKeys (db : Db) (orderId : Uuid) : Option (Order × Keys) := do
  let order ← Order.getById db orderId
  let tradeKeys ← order.tradeKeys
  let orderTradeKeys ← keyOps.parseKeys tradeKeys
  some (order, orderTradeKeys)

/-- What a flow does with its reply, the UI's handling of the result included. -/
def Flow.finish (env : Env) (s : TradeState) (reply : Reply) : Flow → TradeState
  | .take req => processTradeInput ops env s (.takeReply req reply)
  | .newOrder req =>
    let (s, result) := processNewOrderReply env s req reply
    handleOperationResult s (result.map some)
  | .invoice req =>
    let _ := executePaymentRequestReply req reply
    s
  | .bond req => processTradeInput ops env s (.bondReply req reply)

/-- The trade DM as the listener hands it over, with the keys it derives. -/
def listenerDm (s : KeyState) (dm : TradeDm) : Option TradeDm := do
  let user ← s.listener
  let tradeKeys ← (user.deriveTradeKeys keyOps dm.tradeIndex).toOption
  some { dm with tradeKeys := tradeKeys }

/-- One step. -/
def keyNext (s : KeyState) : KeyEvent → KeyState
  | .rotate mnemonic now =>
    match User.fromMnemonic keyOps mnemonic now with
    | .error _ => s
    | .ok newUser =>
      let tx := Order.deleteAllInTx (newUser.replaceAllInTx ⟨s.user, s.trade.db⟩)
      { s with user := tx.user, trade := { s.trade with db := tx.orders } }
  | .takeOrder orderId requestId =>
    match User.reserveNextTradeIndex keyOps s.user 1 with
    | (user, .error _) => { s with user := user }
    | (user, .ok (nextIdx, tradeKeys)) =>
      { s with
        user := user
        trade := { s.trade with trackOrders := s.trade.trackOrders ++ [(orderId, nextIdx)] }
        flows := s.flows ++ [.take ⟨orderId, requestId, nextIdx, tradeKeys⟩] }
  | .newOrder requestId =>
    match User.reserveNextTradeIndex keyOps s.user 1 with
    | (user, .error _) => { s with user := user }
    | (user, .ok (nextIdx, tradeKeys)) =>
      { s with
        user := user
        flows := s.flows ++ [.newOrder ⟨requestId, nextIdx, tradeKeys⟩] }
  | .addInvoice orderId requestId =>
    match readOrderKeys keyOps s.trade.db orderId with
    | none => s
    | some (_, orderTradeKeys) =>
      { s with flows := s.flows ++ [.invoice ⟨orderId, orderTradeKeys, requestId⟩] }
  | .addBondInvoice orderId requestId =>
    match readOrderKeys keyOps s.trade.db orderId with
    | none => s
    | some (dbOrder, orderTradeKeys) =>
      { s with flows := s.flows ++ [.bond ⟨orderId, dbOrder, orderTradeKeys, requestId⟩] }
  | .reply n env reply =>
    match s.flows[n]? with
    | none => s
    | some flow =>
      { s with trade := flow.finish ops env s.trade reply, flows := s.flows.eraseIdx n }
  | .giveUp n => { s with flows := s.flows.eraseIdx n }
  | .nextTrade => { s with user := (User.reserveNextTradeIndex keyOps s.user 0).1 }
  | .listenerStarted => { s with listener := s.user }
  | .tradeDm env dm =>
    match listenerDm keyOps s dm with
    | none => s
    | some dm => { s with trade := handleTradeDmForOrder ops env s.trade dm }
  | .statusWritten orderId status =>
    { s with trade := { s.trade with db := Order.updateStatus s.trade.db orderId status } }
  | .rowDeleted orderId =>
    { s with trade := { s.trade with db := Order.deleteById s.trade.db orderId } }

/-- Every row has the key that the mnemonic derives for the row's index. -/
def RowsDerived (user : Option User) (db : Db) : Prop :=
  ∀ id row, db id = some row → row.tradeKeys = derivedHex keyOps user row.tradeIndex

/-- The rows of a state are derived from its mnemonic. -/
def KeysConsistent (s : KeyState) : Prop := RowsDerived keyOps s.user s.trade.db

/-- The `save_order` a flow makes on a reply, if any. -/
def Flow.save (reply : Reply) : Flow → Option TradeSave
  | .take req => tradeSave Table.empty (.takeReply req reply)
  | .newOrder req => newOrderSave req reply
  | .invoice _ => none
  | .bond req => tradeSave Table.empty (.bondReply req reply)

/-- The keys a save carries are those of the current mnemonic. -/
def HoldsCurrentKeys (user : Option User) (save : TradeSave) : Prop :=
  derivedHex keyOps user (some save.tradeIndex) = some save.tradeKeys.secretHex

/-- The step condition: an order that a reply or a trade DM saves, under a valid index, is saved
with keys that the current mnemonic derives. -/
def SavesCurrentKeys (s : KeyState) : KeyEvent → Prop
  | .reply n _ reply =>
    ∀ flow, s.flows[n]? = some flow → ∀ save, flow.save reply = some save →
      0 < save.tradeIndex → HoldsCurrentKeys keyOps s.user save
  | .tradeDm _ dm =>
    ∀ dm', listenerDm keyOps s dm = some dm' → ∀ save, tradeSave s.trade.db (.tradeDm dm') = some save →
      0 < save.tradeIndex → HoldsCurrentKeys keyOps s.user save
  | _ => True

end

/-! ## Writes that keep the keys -/

/-- Every row of `db'` is a row of `db`, with its keys and its index. -/
def KeepsKeys (db db' : Db) : Prop :=
  ∀ id row', db' id = some row' →
    ∃ row, db id = some row ∧ row'.tradeKeys = row.tradeKeys ∧ row'.tradeIndex = row.tradeIndex

theorem KeepsKeys.refl (db : Db) : KeepsKeys db db := fun _ row h => ⟨row, h, rfl, rfl⟩

theorem KeepsKeys.of_ownWrites {A : Uuid} {db db' : Db} (h : OwnWrites A db db') :
    KeepsKeys db db' := by
  intro id row' hrow'
  by_cases hid : id = A
  · subst hid
    exact h.own row' hrow'
  · rw [h.others id hid] at hrow'
    exact ⟨row', hrow', rfl, rfl⟩

theorem keepsKeys_updateStatus (db : Db) (id : Uuid) (status : Status) :
    KeepsKeys db (Order.updateStatus db id status) :=
  .of_ownWrites (.modify id db fun _ => ⟨rfl, rfl⟩)

theorem keepsKeys_deleteById (db : Db) (id : Uuid) : KeepsKeys db (Order.deleteById db id) :=
  .of_ownWrites (.erase id db)

section
variable {keyOps : KeyOps} {ops : ChatOps} {env : Env}

theorem RowsDerived.of_keepsKeys {user : Option User} {db db' : Db} (h : KeepsKeys db db')
    (hdb : RowsDerived keyOps user db) : RowsDerived keyOps user db' := by
  intro id row' hrow'
  obtain ⟨row, hrow, hkeys, hindex⟩ := h id row' hrow'
  rw [hkeys, hindex]
  exact hdb id row hrow

theorem RowsDerived.congr {user user' : Option User} {db : Db}
    (h : user'.map (·.mnemonic) = user.map (·.mnemonic)) (hdb : RowsDerived keyOps user db) :
    RowsDerived keyOps user' db := by
  intro id row hrow
  rw [derivedHex_congr h]
  exact hdb id row hrow

/-- A save keeps the rows derived exactly when its own row is. -/
theorem rowsDerived_save_iff {user : Option User} {db : Db} (hdb : RowsDerived keyOps user db)
    (save : TradeSave) :
    RowsDerived keyOps user (save.run env db) ↔
      (0 < save.tradeIndex → HoldsCurrentKeys keyOps user save) := by
  rw [TradeSave.run_eq]
  by_cases hpos : 0 < save.tradeIndex
  · rw [if_pos hpos]
    refine ⟨?_, ?_⟩
    · intro h _
      exact (h (save.target env) _ Table.put_self).symm
    · intro hkeys id row hrow
      by_cases hid : id = save.target env
      · subst hid
        rw [Table.put_self] at hrow
        obtain rfl := Option.some.inj hrow
        exact (hkeys hpos).symm
      · rw [Table.put_of_ne hid] at hrow
        exact hdb id row hrow
  · rw [if_neg hpos]
    exact iff_of_true hdb fun h => absurd h hpos

variable (ops env) in
/-- The writes of an input, the save apart, keep the keys of the rows. -/
theorem processTradeInput_keepsKeys (s : TradeState) (input : TradeInput) :
    ∃ db, KeepsKeys s.db db ∧
      (processTradeInput ops env s input).db =
        match tradeSave s.db input with
        | some save => save.run env db
        | none => db := by
  obtain ⟨db, hown, h⟩ := processTradeInput_db ops env s input
  exact ⟨db, .of_ownWrites hown, h⟩

variable (ops env) in
/-- The writes of a flow. -/
theorem Flow.finish_keepsKeys (s : TradeState) (reply : Reply) (flow : Flow) :
    ∃ db, KeepsKeys s.db db ∧
      (flow.finish ops env s reply).db =
        match flow.save reply with
        | some save => save.run env db
        | none => db := by
  cases flow with
  | take req => exact processTradeInput_keepsKeys ops env s (.takeReply req reply)
  | newOrder req =>
    refine ⟨s.db, .refl _, ?_⟩
    simp only [Flow.finish, handleOperationResult_db, processNewOrderReply_db]
    rfl
  | invoice req => exact ⟨s.db, .refl _, rfl⟩
  | bond req => exact processTradeInput_keepsKeys ops env s (.bondReply req reply)

/-! ## One step -/

/-- Writes that keep the keys, and one save at most. -/
theorem rowsDerived_of_saves_iff {user : Option User} {db db' : Db} {save? : Option TradeSave}
    (hdb : RowsDerived keyOps user db)
    (hwrites : ∃ db₁, KeepsKeys db db₁ ∧
      db' = match save? with
        | some save => save.run env db₁
        | none => db₁) :
    RowsDerived keyOps user db' ↔
      ∀ save, save? = some save → 0 < save.tradeIndex → HoldsCurrentKeys keyOps user save := by
  obtain ⟨db₁, hkeeps, rfl⟩ := hwrites
  have hdb₁ : RowsDerived keyOps user db₁ := hdb.of_keepsKeys hkeeps
  cases save? with
  | none => exact iff_of_true hdb₁ fun save h => nomatch h
  | some save =>
    rw [rowsDerived_save_iff hdb₁]
    refine ⟨fun h save' hsave' => ?_, fun h => h save rfl⟩
    obtain rfl := Option.some.inj hsave'
    exact h

theorem keysConsistent_reserve {s : KeyState} (h : KeysConsistent keyOps s) (noneBase : Int) :
    RowsDerived keyOps (User.reserveNextTradeIndex keyOps s.user noneBase).1 s.trade.db :=
  h.congr (reserveNextTradeIndex_mnemonic s.user noneBase)

/-- The exact step lemma: a step keeps the keys consistent exactly when what it saves carries
current keys. -/
theorem keysConsistent_next_iff {s : KeyState} (h : KeysConsistent keyOps s) (e : KeyEvent) :
    KeysConsistent keyOps (keyNext keyOps ops s e) ↔ SavesCurrentKeys keyOps s e := by
  cases e with
  | rotate mnemonic now =>
    refine iff_of_true ?_ trivial
    unfold keyNext
    dsimp only
    split
    · exact h
    · intro id row hrow
      cases hrow
  | takeOrder _ _ | newOrder _ =>
    refine iff_of_true ?_ trivial
    have hr := keysConsistent_reserve h 1
    unfold keyNext
    dsimp only
    generalize User.reserveNextTradeIndex keyOps s.user 1 = r at hr ⊢
    obtain ⟨user, e | ⟨nextIdx, tradeKeys⟩⟩ := r
    · exact hr
    · exact hr
  | addInvoice _ _ | addBondInvoice _ _ =>
    refine iff_of_true ?_ trivial
    unfold keyNext
    dsimp only
    split
    · exact h
    · exact h
  | reply n env reply =>
    unfold keyNext SavesCurrentKeys
    dsimp only
    cases hflow : s.flows[n]? with
    | none => exact iff_of_true h fun flow hf => nomatch hf
    | some flow =>
      simp only [Option.some.injEq, forall_eq']
      exact rowsDerived_of_saves_iff h (flow.finish_keepsKeys ops env s.trade reply)
  | giveUp n => exact iff_of_true h trivial
  | nextTrade => exact iff_of_true (keysConsistent_reserve h 0) trivial
  | listenerStarted => exact iff_of_true h trivial
  | tradeDm env dm =>
    unfold keyNext SavesCurrentKeys
    dsimp only
    cases hdm : listenerDm keyOps s dm with
    | none => exact iff_of_true h fun dm' hd => nomatch hd
    | some dm' =>
      simp only [Option.some.injEq, forall_eq']
      exact rowsDerived_of_saves_iff h (processTradeInput_keepsKeys ops env s.trade (.tradeDm dm'))
  | statusWritten orderId status =>
    exact iff_of_true (h.of_keepsKeys (keepsKeys_updateStatus _ _ _)) trivial
  | rowDeleted orderId => exact iff_of_true (h.of_keepsKeys (keepsKeys_deleteById _ _)) trivial

/-- Over any interleaving, the keys are consistent all the way exactly when every save carries keys
that the mnemonic of that moment derives. -/
theorem trade_keys_consistent_iff {s : KeyState} (h : KeysConsistent keyOps s)
    (run : List KeyEvent) :
    Run.Guarded (keyNext keyOps ops) (SavesCurrentKeys keyOps) s run ↔
      ∀ before after, run = before ++ after →
        KeysConsistent keyOps (before.foldl (keyNext keyOps ops) s) :=
  Run.Guarded.iff_invariant (I := KeysConsistent keyOps)
    (fun _ e hs => keysConsistent_next_iff hs e) h run

/-! ## Only a rotation makes a save stale -/

/-- The index and the keys a flow holds for its save. -/
def Flow.captured : Flow → Option (Int × Keys)
  | .take req => some (req.nextIdx, req.tradeKeys)
  | .newOrder req => some (req.nextIdx, req.tradeKeys)
  | .invoice _ => none
  | .bond req => req.dbOrder.tradeIndex.map fun tradeIndex => (tradeIndex, req.orderTradeKeys)

variable (keyOps) in
/-- Every row, every flow and the listener are of the current mnemonic. -/
structure Current (s : KeyState) : Prop where
  rows : KeysConsistent keyOps s
  flows : ∀ flow ∈ s.flows, ∀ tradeIndex tradeKeys,
    flow.captured = some (tradeIndex, tradeKeys) →
      derivedHex keyOps s.user (some tradeIndex) = some tradeKeys.secretHex
  listener : ∀ user, s.listener = some user → s.user.map (·.mnemonic) = some user.mnemonic

/-- A flow saves what it holds. -/
theorem Flow.captured_of_save {flow : Flow} {reply : Reply} {save : TradeSave}
    (h : flow.save reply = some save) : flow.captured = some (save.tradeIndex, save.tradeKeys) := by
  cases flow with
  | take req =>
    simp only [Flow.save, tradeSave] at h
    split at h
    · cases h
    · obtain ⟨o, -, rfl⟩ := Option.map_eq_some_iff.1 h
      rfl
  | newOrder req =>
    simp only [Flow.save, newOrderSave] at h
    split at h
    · cases h
    · split at h
      · obtain rfl := Option.some.inj h
        rfl
      · obtain ⟨id, -, rfl⟩ := Option.map_eq_some_iff.1 h
        rfl
      · cases h
  | invoice req => cases h
  | bond req =>
    simp only [Flow.save, tradeSave] at h
    split at h
    · rename_i hindex
      obtain ⟨o, -, rfl⟩ := Option.map_eq_some_iff.1 h
      simp [Flow.captured, hindex]
    · cases h

/-- A trade DM's save carries the keys the listener derived. -/
theorem listenerDm_save {s : KeyState} (h : Current keyOps s) {dm dm' : TradeDm} {save : TradeSave}
    (hdm : listenerDm keyOps s dm = some dm')
    (hsave : tradeSave s.trade.db (.tradeDm dm') = some save) :
    HoldsCurrentKeys keyOps s.user save := by
  cases hl : s.listener with
  | none => simp [listenerDm, hl] at hdm
  | some user =>
    cases hk : user.deriveTradeKeys keyOps dm.tradeIndex with
    | error e => simp [listenerDm, hl, hk, Except.toOption] at hdm
    | ok keys =>
      obtain rfl : { dm with tradeKeys := keys } = dm' := by
        simpa [listenerDm, hl, hk, Except.toOption] using hdm
      have hsaved : save.tradeIndex = dm.tradeIndex ∧ save.tradeKeys = keys := by
        simp only [tradeSave] at hsave
        split at hsave
        · obtain rfl := Option.some.inj hsave
          exact ⟨rfl, rfl⟩
        · cases hsave
      have hmnemonic : s.user.map (·.mnemonic) = (some user).map (·.mnemonic) :=
        h.listener user hl
      unfold HoldsCurrentKeys
      rw [hsaved.1, hsaved.2, derivedHex_congr hmnemonic]
      simp [derivedHex, hk, Except.toOption]

/-- Reserving an index leaves everything current. -/
theorem Current.reserve {s : KeyState} (h : Current keyOps s) (noneBase : Int) :
    Current keyOps { s with user := (User.reserveNextTradeIndex keyOps s.user noneBase).1 } where
  rows := keysConsistent_reserve h.rows noneBase
  flows flow hflow tradeIndex tradeKeys hc := by
    rw [derivedHex_congr (reserveNextTradeIndex_mnemonic s.user noneBase)]
    exact h.flows flow hflow tradeIndex tradeKeys hc
  listener user hl := by
    rw [reserveNextTradeIndex_mnemonic]
    exact h.listener user hl

/-- A flow that holds current keys may join. -/
theorem Current.addFlow {s : KeyState} (h : Current keyOps s) {flow : Flow}
    (hflow : ∀ tradeIndex tradeKeys, flow.captured = some (tradeIndex, tradeKeys) →
      derivedHex keyOps s.user (some tradeIndex) = some tradeKeys.secretHex) :
    Current keyOps { s with flows := s.flows ++ [flow] } where
  rows := h.rows
  flows f hf := by
    rcases List.mem_append.1 hf with hf | hf
    · exact h.flows f hf
    · obtain rfl := List.mem_singleton.1 hf
      exact hflow
  listener := h.listener

/-- So may the flow that a reservation starts. -/
theorem Current.startFlow {s : KeyState} (h : Current keyOps s) (flow : Int → Keys → Flow)
    (hflow : ∀ nextIdx tradeKeys, (flow nextIdx tradeKeys).captured = some (nextIdx, tradeKeys))
    (nextIdx : Int) (tradeKeys : Keys)
    (hr : (User.reserveNextTradeIndex keyOps s.user 1).2 = .ok (nextIdx, tradeKeys)) :
    Current keyOps
      { s with
        user := (User.reserveNextTradeIndex keyOps s.user 1).1
        flows := s.flows ++ [flow nextIdx tradeKeys] } := by
  refine (h.reserve 1).addFlow fun i keys hc => ?_
  rw [hflow] at hc
  obtain ⟨rfl, rfl⟩ := Prod.mk.inj (Option.some.inj hc)
  rw [derivedHex_congr (reserveNextTradeIndex_mnemonic s.user 1)]
  exact reserveNextTradeIndex_keys hr

/-- Flows may leave, and other writes may happen that keep the rows derived. -/
theorem Current.rowsChanged {s : KeyState} (h : Current keyOps s) {trade : TradeState}
    {flows : List Flow} (hrows : RowsDerived keyOps s.user trade.db)
    (hflows : ∀ flow ∈ flows, flow ∈ s.flows) :
    Current keyOps { s with trade := trade, flows := flows } where
  rows := hrows
  flows f hf := h.flows f (hflows f hf)
  listener := h.listener

/-- Not a rotation. -/
def KeyEvent.notRotation : KeyEvent → Prop
  | .rotate .. => False
  | _ => True

/-- What an invoice flow reads is current. -/
theorem Current.readOrderKeys {s : KeyState} (h : Current keyOps s) {orderId : Uuid}
    {dbOrder : Order} {orderTradeKeys : Keys}
    (hread : readOrderKeys keyOps s.trade.db orderId = some (dbOrder, orderTradeKeys))
    {tradeIndex : Int} (hindex : dbOrder.tradeIndex = some tradeIndex) :
    derivedHex keyOps s.user (some tradeIndex) = some orderTradeKeys.secretHex := by
  cases hrow : s.trade.db orderId with
  | none => simp [Rotation.readOrderKeys, Order.getById, hrow] at hread
  | some row =>
    cases hhex : row.tradeKeys with
    | none => simp [Rotation.readOrderKeys, Order.getById, hrow, hhex] at hread
    | some hex =>
      cases hparse : keyOps.parseKeys hex with
      | none => simp [Rotation.readOrderKeys, Order.getById, hrow, hhex, hparse] at hread
      | some keys =>
        obtain ⟨rfl, rfl⟩ : row = dbOrder ∧ keys = orderTradeKeys := by
          simpa [Rotation.readOrderKeys, Order.getById, hrow, hhex, hparse] using hread
        have hderived := h.rows orderId row hrow
        rw [hhex, hindex] at hderived
        rw [← hderived, parseKeys_of_derivedHex hderived.symm hparse]

/-- In a state where everything is current, a step other than a rotation saves current keys only and
leaves everything current. -/
theorem Current.next {s : KeyState} (h : Current keyOps s) {e : KeyEvent} (he : e.notRotation) :
    SavesCurrentKeys keyOps s e ∧ Current keyOps (keyNext keyOps ops s e) := by
  cases e with
  | rotate mnemonic now => cases he
  | takeOrder orderId requestId =>
    refine ⟨trivial, ?_⟩
    have hr := h.reserve 1
    have hflow := h.startFlow (fun i keys => .take ⟨orderId, requestId, i, keys⟩) fun _ _ => rfl
    unfold keyNext
    dsimp only
    generalize User.reserveNextTradeIndex keyOps s.user 1 = r at hr hflow ⊢
    obtain ⟨user, e | ⟨nextIdx, tradeKeys⟩⟩ := r
    · exact hr
    · exact (hflow nextIdx tradeKeys rfl).rowsChanged hr.rows fun f hf => hf
  | newOrder requestId =>
    refine ⟨trivial, ?_⟩
    have hr := h.reserve 1
    have hflow := h.startFlow (fun i keys => .newOrder ⟨requestId, i, keys⟩) fun _ _ => rfl
    unfold keyNext
    dsimp only
    generalize User.reserveNextTradeIndex keyOps s.user 1 = r at hr hflow ⊢
    obtain ⟨user, e | ⟨nextIdx, tradeKeys⟩⟩ := r
    · exact hr
    · exact hflow nextIdx tradeKeys rfl
  | addInvoice orderId requestId =>
    refine ⟨trivial, ?_⟩
    unfold keyNext
    dsimp only
    split
    · exact h
    · exact h.addFlow fun _ _ hc => nomatch hc
  | addBondInvoice orderId requestId =>
    refine ⟨trivial, ?_⟩
    unfold keyNext
    dsimp only
    split
    · exact h
    · rename_i dbOrder orderTradeKeys hread
      refine h.addFlow fun tradeIndex tradeKeys hc => ?_
      obtain ⟨i, hi, heq⟩ := Option.map_eq_some_iff.1 hc
      obtain ⟨rfl, rfl⟩ := Prod.mk.inj heq
      exact h.readOrderKeys hread hi
  | reply n env reply =>
    have hguard : SavesCurrentKeys keyOps s (.reply n env reply) := by
      intro flow hflow save hsave _
      exact h.flows flow (List.mem_of_getElem? hflow) _ _ (Flow.captured_of_save hsave)
    refine ⟨hguard, ?_⟩
    have hrows : KeysConsistent keyOps (keyNext keyOps ops s (.reply n env reply)) :=
      (keysConsistent_next_iff h.rows _).2 hguard
    unfold keyNext at hrows ⊢
    dsimp only at hrows ⊢
    split
    · exact h
    · rename_i flow hflow
      rw [hflow] at hrows
      exact h.rowsChanged hrows fun f hf => List.mem_of_mem_eraseIdx hf
  | giveUp n => exact ⟨trivial, h.rowsChanged h.rows fun f hf => List.mem_of_mem_eraseIdx hf⟩
  | nextTrade => exact ⟨trivial, h.reserve 0⟩
  | listenerStarted =>
    refine ⟨trivial, h.rows, h.flows, fun user hl => ?_⟩
    have hl' : s.user = some user := hl
    exact (congrArg (Option.map (·.mnemonic)) hl').trans rfl
  | tradeDm env dm =>
    have hguard : SavesCurrentKeys keyOps s (.tradeDm env dm) :=
      fun dm' hdm save hsave _ => listenerDm_save h hdm hsave
    refine ⟨hguard, ?_⟩
    have hrows : KeysConsistent keyOps (keyNext keyOps ops s (.tradeDm env dm)) :=
      (keysConsistent_next_iff h.rows _).2 hguard
    unfold keyNext at hrows ⊢
    dsimp only at hrows ⊢
    split
    · exact h
    · rename_i dm' hdm
      rw [hdm] at hrows
      exact h.rowsChanged hrows fun f hf => hf
  | statusWritten orderId status =>
    exact ⟨trivial, h.rowsChanged (h.rows.of_keepsKeys (keepsKeys_updateStatus _ _ _))
      fun f hf => hf⟩
  | rowDeleted orderId =>
    exact ⟨trivial, h.rowsChanged (h.rows.of_keepsKeys (keepsKeys_deleteById _ _))
      fun f hf => hf⟩

/-- Without a rotation every save carries current keys. -/
theorem guarded_of_no_rotation {s : KeyState} (h : Current keyOps s) {run : List KeyEvent}
    (hrun : ∀ e ∈ run, e.notRotation) :
    Run.Guarded (keyNext keyOps ops) (SavesCurrentKeys keyOps) s run :=
  Run.Guarded.of_invariant (fun _ _ he hs => hs.next he) hrun h

end

/-! ## A take across a rotation -/

/-- A fresh user of the mnemonic `old`, without orders. -/
def freshState : KeyState where
  user := some { i0Pubkey := "pub:old:0", mnemonic := "old", createdAt := 0 }
  trade := { db := Table.empty }

theorem freshState_consistent : KeysConsistent plainKeyOps freshState := by
  intro id row hrow
  cases hrow

/-- Mostro asks the taker of order 1 for an invoice. -/
def addInvoiceReply : Reply where
  message :=
    { id := some 1, requestId := some 7, action := .addInvoice,
      payload := some (.order { id := some 1 }) }
  timestamp := 0
  sender := "mostro"

/-- A take that is answered before the rotation, and one that starts after it. -/
theorem trade_keys_consistent_iff_take :
    let run : List KeyEvent :=
      [.takeOrder 1 7, .reply 0 ⟨0, 0⟩ addInvoiceReply, .rotate "new" 0, .takeOrder 1 7,
        .reply 0 ⟨0, 0⟩ addInvoiceReply]
    ∀ before after, run = before ++ after →
      KeysConsistent plainKeyOps (before.foldl (keyNext plainKeyOps plainChatOps) freshState) := by
  intro run
  refine (trade_keys_consistent_iff freshState_consistent run).1 ?_
  refine ⟨trivial, ?_, trivial, trivial, ?_, trivial⟩
  · rintro flow ⟨⟩ save ⟨⟩ -
    rfl
  · rintro flow ⟨⟩ save ⟨⟩ -
    rfl

/-- A take that is answered after the rotation saves a row with the old mnemonic's keys. -/
theorem trade_keys_stale_after_rotation :
    ¬ ∀ (keyOps : KeyOps) (ops : ChatOps) (s : KeyState) (run : List KeyEvent),
      KeysConsistent keyOps s → KeysConsistent keyOps (run.foldl (keyNext keyOps ops) s) := by
  intro h
  have hrow := h plainKeyOps plainChatOps freshState
    [.takeOrder 1 7, .rotate "new" 0, .reply 0 ⟨0, 0⟩ addInvoiceReply] freshState_consistent 1 _ rfl
  revert hrow
  decide

end Mostrix.Rotation
