import Mathlib.Data.String.Basic
import Mostrix.Chat.History
import Mostrix.Chat.Targets
import Mostrix.Keys.User
import Mostrix.Router.Dispatch
import Mostrix.TradeDm.Row

/-!
# The chats a user listens to

The commands that a user's client gives the chat router. A trade DM that changes an order's row has
the order's chat tracked (`maybe_track_order_chat`, `util/chat_listener.rs`), one that names a
solver the chat with the solver (`util/dm_utils/mod.rs`), and one that ends the order untracks both;
a start and a key reload track the chats of every row that is not over (`track_startup_chats`,
`ui/helpers/startup.rs`). The secret of a chat is a column of the row, else it is derived anew from
two other columns, and who may write in it is read from a third.

`chats_between_two_keys` is about the table and these commands over any run of the statements that
write an order: the columns always agree (`RowOk`), so the secret a chat is tracked under is always
that of the order's own key and the one other key let through, and a restart tracks the chats of the
rows that are not over and no others. `order_chats_meet` puts two clients side by side.
-/

namespace Mostrix.Chat

/-! ## Commands -/

/-- `track_order_chat`. -/
def trackOrderChat (orderId : Uuid) (sharedKeyHex : String) (localTradePubkey : PublicKey)
    (allowedSigners : List PublicKey) (since : Option Int) : RouterCmd ChatKeyId :=
  .trackChatKey (.order orderId) sharedKeyHex (some localTradePubkey) allowedSigners since

/-- `track_user_dispute_chat`. -/
def trackUserDisputeChat (orderId : Uuid) (sharedKeyHex : String)
    (localTradePubkey solverPubkey : PublicKey) (since : Option Int) : RouterCmd ChatKeyId :=
  .trackChatKey (.userDispute orderId) sharedKeyHex (some localTradePubkey)
    [localTradePubkey, solverPubkey] since

/-- `untrack_order_chat` and `untrack_user_dispute_chat`, which are always called together. -/
def untrackChats (orderId : Uuid) : List (RouterCmd ChatKeyId) :=
  [.untrackChatKey (.order orderId), .untrackChatKey (.userDispute orderId)]

/-- The last-seen time of each chat, as a transcript or the UI has it. -/
abbrev ChatCursors := ChatKeyId → Option Int

section
variable (ops : EnvelopeOps)

/-- The secret of an order's chat: the stored one, else the one derived with the stored
counterparty. -/
def orderChatSecret (row : Order) (tradeKeys : Keys) : Option String :=
  row.orderChatSharedKeyHex.or
    (row.counterpartyPubkey.bind (deriveSharedKeyHex ops.chatOps tradeKeys))

/-- `maybe_track_order_chat`. -/
def maybeTrackOrderChat (cursors : ChatCursors) (db : Db) (orderId : Uuid) (tradeKeys : Keys) :
    List (RouterCmd ChatKeyId) :=
  match Order.getById db orderId with
  | none => []
  | some row =>
    match orderChatAllowedSigners ops tradeKeys.publicKey row.counterpartyPubkey with
    | none => []
    | some allowed =>
      match orderChatSecret ops row tradeKeys with
      | some hex =>
        [trackOrderChat orderId hex tradeKeys.publicKey allowed (cursors (.order orderId))]
      | none => []

/-- The solver's chat, from the DM that names the solver. -/
def trackSolverChat (cursors : ChatCursors) (dm : TradeDm) : List (RouterCmd ChatKeyId) :=
  match dm.message.action, dm.message.payload with
  | .adminTookDispute, some (.peer pubkey) =>
    match ops.parsePubkey pubkey, deriveSharedKeyHex ops.chatOps dm.tradeKeys pubkey with
    | some solver, some hex =>
      [trackUserDisputeChat dm.orderId hex dm.tradeKeys.publicKey solver
        (cursors (.userDispute dm.orderId))]
    | _, _ => []
  | _, _ => []

/-- The chat commands of `handle_trade_dm_for_order`: the generic path has the solver's chat and
then the order's tracked, once the row is written; a take that ended and a listing that went back to
the book are untracked. -/
def tradeDmChats (cursors : ChatCursors) (env : Env) (db : Db) (dm : TradeDm) :
    List (RouterCmd ChatKeyId) :=
  match tradeDmPath db dm with
  | .rangeChild _ => []
  | .dropTake | .republish => untrackChats dm.orderId
  | .hydrateOnly | .full =>
    trackSolverChat ops cursors dm ++
      maybeTrackOrderChat ops cursors (hydrateRow ops.chatOps env db dm) dm.orderId dm.tradeKeys

/-- `TERMINAL_DM_STATUSES`. -/
def terminalDmStatuses : List Status :=
  [.canceled, .canceledByAdmin, .settledByAdmin, .completedByAdmin, .expired,
    .cooperativelyCanceled]

/-- The condition of `get_startup_active_orders`. -/
def startupActive (row : Order) : Bool :=
  (row.tradeKeys.filter (· ≠ "")).isSome &&
    (row.status.map fun status => decide (status ∉ terminalDmStatuses)).getD true

/-- The ids that `get_startup_active_orders` returns, in some order. -/
structure StartupActiveOrders (db : Db) (ids : List Uuid) : Prop where
  nodup : ids.Nodup
  mem : ∀ id, id ∈ ids ↔ ∃ row, db id = some row ∧ startupActive row = true

/-- One round of the user's loop in `track_startup_chats`. -/
def trackStartupOrder (cursors : ChatCursors) (db : Db) (orderId : Uuid) :
    List (RouterCmd ChatKeyId) :=
  match Order.getById db orderId with
  | none => []
  | some row =>
    match (row.tradeKeys.filter (· ≠ "")).bind ops.parseKeys with
    | none => []
    | some tradeKeys =>
      let peer :=
        match orderChatSecret ops row tradeKeys with
        | none => []
        | some hex =>
          match orderChatAllowedSigners ops tradeKeys.publicKey row.counterpartyPubkey with
          | some allowed =>
            [trackOrderChat orderId hex tradeKeys.publicKey allowed (cursors (.order orderId))]
          | none => []
      let solver :=
        match row.disputeChatSharedKeyHex, row.solverPubkey.bind ops.parsePubkey with
        | some hex, some solver =>
          [trackUserDisputeChat orderId hex tradeKeys.publicKey solver
            (cursors (.userDispute orderId))]
        | _, _ => []
      peer ++ solver

/-- `track_startup_chats` of a user. -/
def trackStartupChats (cursors : ChatCursors) (db : Db) (ids : List Uuid) :
    List (RouterCmd ChatKeyId) :=
  ids.flatMap (trackStartupOrder ops cursors db)

end

/-! ## The statements that write an order -/

/-- The statements that touch no column a chat depends on, and the deletions. -/
inductive TableWrite
  | updateStatus (id : Uuid) (status : Status)
  | updateLastSeenDmTs (id : Uuid) (ts : Int)
  | updateDisputeId (id disputeId : Uuid)
  | deleteById (id : Uuid)

/-- The table after a statement. -/
def TableWrite.run (db : Db) : TableWrite → Db
  | .updateStatus id status => Order.updateStatus db id status
  | .updateLastSeenDmTs id ts => Order.updateLastSeenDmTs db id ts
  | .updateDisputeId id disputeId => Order.updateDisputeId db id disputeId
  | .deleteById id => Order.deleteById db id

/-- One turn of a task that writes orders or commands the chat router. -/
inductive ChatTurn
  /-- a request was accepted: `save_order` with the keys of its index -/
  | saveOrder (order : SmallOrder) (requestId : Nat) (tradeIndex : Int) (isMaker : Bool) (env : Env)
  /-- the reply to an invoice: `persist_order_payload_from_dm` -/
  | persistReply (orderId : Uuid) (order : SmallOrder) (tradeKeys : Keys)
      (requestId : Option Int) (now : Int)
  /-- `dispatch_giftwrap_batch` hands a trade DM over -/
  | deliver (env : Env) (dm : TradeDm) (cursors : ChatCursors)
  | write (w : TableWrite)
  /-- the UI changes the Messages list -/
  | editMessages (messages : List OrderMessage)
  /-- the client starts, or reloads its keys -/
  | restart (ids : List Uuid) (cursors : ChatCursors)

section
variable (ops : EnvelopeOps) (keyOps : KeyOps) (user : User)

/-- The state after a turn. -/
def turnNext (s : TradeState) : ChatTurn → TradeState
  | .saveOrder order requestId tradeIndex isMaker env =>
    match user.deriveTradeKeys keyOps tradeIndex with
    | .ok tradeKeys =>
      { s with db := Mostrix.saveOrder s.db order tradeKeys requestId tradeIndex isMaker env }
    | .error _ => s
  | .persistReply orderId order tradeKeys requestId now =>
    { s with db := upsertDb ops.chatOps s.db orderId order tradeKeys requestId now }
  | .deliver env dm _ =>
    let trade := handleTradeDmForOrder ops.chatOps env s dm
    { trade with db := Order.updateLastSeenDmTs trade.db dm.orderId dm.timestamp }
  | .write w => { s with db := w.run s.db }
  | .editMessages messages => { s with messages := messages }
  | .restart _ _ => s

/-- The commands a turn sends to the chat router. -/
def turnChats (s : TradeState) : ChatTurn → List (RouterCmd ChatKeyId)
  | .deliver env dm cursors =>
    tradeDmChats ops cursors env s.db dm ++
      if Router.tradeMessageShouldUntrackOrderChat dm.message then untrackChats dm.orderId else []
  | .restart ids cursors => trackStartupChats ops cursors s.db ids
  | _ => []

/-- The keys are those of a trade index, and it is the index of the order's row, where there is
one. -/
def KeysOfOrder (db : Db) (orderId : Uuid) (tradeIndex : Int) (tradeKeys : Keys) : Prop :=
  user.deriveTradeKeys keyOps tradeIndex = .ok tradeKeys ∧
    ∀ row, db orderId = some row → row.tradeIndex = some tradeIndex

/-- What the callers see to: a message is handled with the keys of the order's own index, and a
restart goes over the rows that are not over. -/
def UnderOwnKeys (s : TradeState) : ChatTurn → Prop
  | .persistReply orderId _ tradeKeys _ _ =>
    ∃ tradeIndex, KeysOfOrder keyOps user s.db orderId tradeIndex tradeKeys
  | .deliver _ dm _ => KeysOfOrder keyOps user s.db dm.orderId dm.tradeIndex dm.tradeKeys
  | .restart ids _ => StartupActiveOrders s.db ids
  | _ => True

end

/-! ## The columns of a chat -/

/-- The columns of a row that its chats depend on. -/
structure ChatColumns where
  tradeKeys : Option String
  tradeIndex : Option Int
  counterpartyPubkey : Option String
  orderChatSharedKeyHex : Option String
  solverPubkey : Option String
  disputeChatSharedKeyHex : Option String
deriving DecidableEq, Repr

/-- They of a row. -/
def chatColumns (row : Order) : ChatColumns where
  tradeKeys := row.tradeKeys
  tradeIndex := row.tradeIndex
  counterpartyPubkey := row.counterpartyPubkey
  orderChatSharedKeyHex := row.orderChatSharedKeyHex
  solverPubkey := row.solverPubkey
  disputeChatSharedKeyHex := row.disputeChatSharedKeyHex

section
variable (ops : EnvelopeOps) (keyOps : KeyOps) (user : User)

/-- A party and a secret as two columns hold them: neither is there, or the secret is the one that
the keys derive with the party. -/
inductive Named (keys : Keys) : Option String → Option String → Prop
  | nobody : Named keys none none
  | party {text hex : String} (h : deriveSharedKeyHex ops.chatOps keys text = some hex) :
      Named keys (some text) (some hex)

/-- The columns agree: the keys are those of the index, and both secrets are theirs. -/
def RowOk (columns : ChatColumns) : Prop :=
  ∃ tradeIndex keys, columns.tradeIndex = some tradeIndex ∧
    user.deriveTradeKeys keyOps tradeIndex = .ok keys ∧
    columns.tradeKeys = some keys.secretHex ∧
    Named ops keys columns.counterpartyPubkey columns.orderChatSharedKeyHex ∧
    Named ops keys columns.solverPubkey columns.disputeChatSharedKeyHex

/-- They agree in every row. -/
def ChatsOk (db : Db) : Prop :=
  ∀ id row, db id = some row → RowOk ops keyOps user (chatColumns row)

/-- The command tracks an order's chat as its columns have it: between the order's own key and the
counterparty's. -/
def IsOrderChat (columns : ChatColumns) (orderId : Uuid) (since : Option Int)
    (cmd : RouterCmd ChatKeyId) : Prop :=
  ∃ tradeIndex keys pubkey shared, user.deriveTradeKeys keyOps tradeIndex = .ok keys ∧
    columns.tradeKeys = some keys.secretHex ∧
    columns.counterpartyPubkey.bind ops.parsePubkey = some pubkey ∧ pubkey ≠ keys.publicKey ∧
    ops.derive keys pubkey = some shared ∧
    cmd = trackOrderChat orderId shared.secretHex keys.publicKey [keys.publicKey, pubkey] since

/-- The command tracks the chat with the order's solver. -/
def IsSolverChat (columns : ChatColumns) (orderId : Uuid) (since : Option Int)
    (cmd : RouterCmd ChatKeyId) : Prop :=
  ∃ tradeIndex keys pubkey shared, user.deriveTradeKeys keyOps tradeIndex = .ok keys ∧
    columns.tradeKeys = some keys.secretHex ∧
    columns.solverPubkey.bind ops.parsePubkey = some pubkey ∧
    ops.derive keys pubkey = some shared ∧
    cmd = trackUserDisputeChat orderId shared.secretHex keys.publicKey pubkey since

/-- A command is as the table has it: it ends an order's chats, or tracks one of the order's row. A
solver's chat is also tracked for an order without a row. -/
def AsStored (db : Db) (cmd : RouterCmd ChatKeyId) : Prop :=
  (∃ id, cmd ∈ untrackChats id) ∨
  (∃ id row since, db id = some row ∧
    IsOrderChat ops keyOps user (chatColumns row) id since cmd) ∨
  ∃ id columns since, (∀ row, db id = some row → chatColumns row = columns) ∧
    IsSolverChat ops keyOps user columns id since cmd

/-- What a restart tracks: the chats of a row that is not over. -/
def Resumed (db : Db) (cursors : ChatCursors) (cmd : RouterCmd ChatKeyId) : Prop :=
  ∃ id row, db id = some row ∧ startupActive row = true ∧
    (IsOrderChat ops keyOps user (chatColumns row) id (cursors (.order id)) cmd ∨
      IsSolverChat ops keyOps user (chatColumns row) id (cursors (.userDispute id)) cmd)

end

/-! ## The columns agree -/

section
variable {ops : EnvelopeOps} {keyOps : KeyOps} {user : User}

theorem deriveSharedKeyHex_iff {keys : Keys} {text hex : String} :
    deriveSharedKeyHex ops.chatOps keys text = some hex ↔
      ∃ pubkey shared, ops.parsePubkey text = some pubkey ∧ ops.derive keys pubkey = some shared ∧
        hex = shared.secretHex := by
  simp only [deriveSharedKeyHex, EnvelopeOps.chatOps, Option.bind_eq_some_iff,
    Option.map_eq_some_iff]
  refine ⟨?_, ?_⟩
  · rintro ⟨pubkey, hparse, shared, hshared, rfl⟩
    exact ⟨pubkey, shared, hparse, hshared, rfl⟩
  · rintro ⟨pubkey, shared, hparse, hshared, rfl⟩
    exact ⟨pubkey, hparse, shared, hshared, rfl⟩

/-- The counterparty that an order gives comes with the secret the keys derive with it. -/
theorem orderChat_derived {keys : Keys} {o : SmallOrder} {text hex : String}
    (h : orderChatCounterpartyAndSharedHex ops.chatOps keys o = some (text, hex)) :
    deriveSharedKeyHex ops.chatOps keys text = some hex := by
  unfold orderChatCounterpartyAndSharedHex at h
  obtain ⟨buyer, -, h⟩ := Option.bind_eq_some_iff.1 h
  obtain ⟨seller, -, h⟩ := Option.bind_eq_some_iff.1 h
  split at h
  · cases h
  · obtain ⟨buyerPk, -, h⟩ := Option.bind_eq_some_iff.1 h
    obtain ⟨sellerPk, -, h⟩ := Option.bind_eq_some_iff.1 h
    split at h
    · obtain ⟨hex', hhex, h⟩ := Option.bind_eq_some_iff.1 h
      cases h
      exact hhex
    · split at h
      · obtain ⟨hex', hhex, h⟩ := Option.bind_eq_some_iff.1 h
        cases h
        exact hhex
      · cases h

/-- An upsert under the row's own keys leaves its columns in agreement. -/
theorem RowOk.upsert {row : Order} {tradeIndex : Int} {keys : Keys}
    (h : RowOk ops keyOps user (chatColumns row)) (hindex : row.tradeIndex = some tradeIndex)
    (hkeys : user.deriveTradeKeys keyOps tradeIndex = .ok keys) (id : Uuid) (o : SmallOrder)
    (requestId : Option Int) (now : Int) :
    RowOk ops keyOps user (chatColumns
      (Order.buildOrderFromSmallOrder ops.chatOps id o keys (some row) requestId now)) := by
  obtain ⟨index, rowKeys, hrowIndex, hderive, hstored, hpeer, hsolver⟩ := h
  obtain rfl : index = tradeIndex := Option.some.inj (hrowIndex.symm.trans hindex)
  obtain rfl : rowKeys = keys := Except.ok.inj (hderive.symm.trans hkeys)
  refine ⟨index, rowKeys, hrowIndex, hderive, hstored, ?_, hsolver⟩
  simp only [chatColumns, Order.buildOrderFromSmallOrder]
  cases hchat : orderChatCounterpartyAndSharedHex ops.chatOps rowKeys o with
  | none => exact hpeer
  | some chat => exact .party (orderChat_derived hchat)

/-- So does naming a solver, or a dispute. -/
theorem RowOk.dispute {row : Order} {dm : TradeDm}
    (h : RowOk ops keyOps user (chatColumns row)) (hindex : row.tradeIndex = some dm.tradeIndex)
    (hkeys : user.deriveTradeKeys keyOps dm.tradeIndex = .ok dm.tradeKeys) :
    RowOk ops keyOps user (chatColumns (disputeRow ops.chatOps dm row)) := by
  obtain ⟨index, rowKeys, hrowIndex, hderive, hstored, hpeer, hsolver⟩ := h
  obtain rfl : index = dm.tradeIndex := Option.some.inj (hrowIndex.symm.trans hindex)
  obtain rfl : rowKeys = dm.tradeKeys := Except.ok.inj (hderive.symm.trans hkeys)
  unfold disputeRow
  split
  · exact ⟨_, _, hrowIndex, hderive, hstored, hpeer, hsolver⟩
  · exact ⟨_, _, hrowIndex, hderive, hstored, hpeer, hsolver⟩
  · split
    · next hhex => exact ⟨_, _, hrowIndex, hderive, hstored, hpeer, .party hhex⟩
    · exact ⟨_, _, hrowIndex, hderive, hstored, hpeer, hsolver⟩
  · exact ⟨_, _, hrowIndex, hderive, hstored, hpeer, hsolver⟩

theorem RowOk.upsertRow {row : Order} {tradeIndex : Int} {keys : Keys}
    (h : RowOk ops keyOps user (chatColumns row)) (hindex : row.tradeIndex = some tradeIndex)
    (hkeys : user.deriveTradeKeys keyOps tradeIndex = .ok keys) (now : Int) (id : Uuid)
    (o : Option SmallOrder) (requestId : Option Nat) :
    RowOk ops keyOps user (chatColumns (upsertRow ops.chatOps now id o requestId keys row)) := by
  cases o with
  | none => exact h
  | some o => exact h.upsert hindex hkeys _ _ _ _

/-- A trade DM handled under the row's own keys leaves its columns in agreement. -/
theorem RowOk.hydrated {row : Order} {dm : TradeDm} (env : Env)
    (h : RowOk ops keyOps user (chatColumns row)) (hindex : row.tradeIndex = some dm.tradeIndex)
    (hkeys : user.deriveTradeKeys keyOps dm.tradeIndex = .ok dm.tradeKeys) :
    RowOk ops keyOps user (chatColumns (hydratedRow ops.chatOps env dm row)) := by
  refine RowOk.dispute (h.upsertRow hindex hkeys _ _ _ _) ?_ hkeys
  rw [(upsertRow_ownership ops.chatOps _ _ _ _ _ row).2.1, hindex]

/-- A new row names nobody yet. -/
theorem rowOk_newRow {order : SmallOrder} {tradeIndex : Int} {keys : Keys}
    (hkeys : user.deriveTradeKeys keyOps tradeIndex = .ok keys) (requestId : Option Int)
    (isMaker : Bool) (env : Env) :
    RowOk ops keyOps user
      (chatColumns (Order.newRow order keys requestId tradeIndex isMaker env)) :=
  ⟨tradeIndex, keys, rfl, hkeys, rfl, .nobody, .nobody⟩

theorem ChatsOk.saveOrder {db : Db} (h : ChatsOk ops keyOps user db) {tradeIndex : Int}
    {keys : Keys} (hkeys : user.deriveTradeKeys keyOps tradeIndex = .ok keys) (order : SmallOrder)
    (requestId : Nat) (isMaker : Bool) (env : Env) :
    ChatsOk ops keyOps user
      (Mostrix.saveOrder db order keys requestId tradeIndex isMaker env) := by
  rw [saveOrder_eq]
  split
  · intro id row hrow
    by_cases hid : id = order.id.getD env.freshId
    · subst hid
      rw [Table.put_self] at hrow
      obtain rfl := Option.some.inj hrow
      exact rowOk_newRow hkeys _ _ _
    · rw [Table.put_of_ne hid] at hrow
      exact h id row hrow
  · exact h

/-- A change of one row that keeps its columns in agreement. -/
theorem ChatsOk.modify {db : Db} (h : ChatsOk ops keyOps user db) {orderId : Uuid}
    {f : Order → Order}
    (hf : ∀ row, db orderId = some row → RowOk ops keyOps user (chatColumns (f row))) :
    ChatsOk ops keyOps user (db.modify orderId f) := by
  intro id row hrow
  by_cases hid : id = orderId
  · subst hid
    rw [Table.modify_self] at hrow
    obtain ⟨row', hrow', rfl⟩ := Option.map_eq_some_iff.1 hrow
    exact hf row' hrow'
  · rw [Table.modify_of_ne hid] at hrow
    exact h id row hrow

theorem ChatsOk.erase {db : Db} (h : ChatsOk ops keyOps user db) (orderId : Uuid) :
    ChatsOk ops keyOps user (db.erase orderId) := by
  intro id row hrow
  by_cases hid : id = orderId
  · subst hid
    rw [Table.erase_self] at hrow
    cases hrow
  · rw [Table.erase_of_ne hid] at hrow
    exact h id row hrow

/-- The statements that touch no column of a chat. -/
theorem ChatsOk.write {db : Db} (h : ChatsOk ops keyOps user db) (w : TableWrite) :
    ChatsOk ops keyOps user (w.run db) := by
  cases w with
  | updateStatus id status => exact h.modify fun row hrow => h id row hrow
  | updateLastSeenDmTs id ts => exact h.modify fun row hrow => h id row hrow
  | updateDisputeId id disputeId => exact h.modify fun row hrow => h id row hrow
  | deleteById id => exact h.erase id

/-- A trade DM under the order's own keys. -/
theorem ChatsOk.deliver {s : TradeState} (h : ChatsOk ops keyOps user s.db) {dm : TradeDm}
    (hown : KeysOfOrder keyOps user s.db dm.orderId dm.tradeIndex dm.tradeKeys) (env : Env) :
    ChatsOk ops keyOps user (handleTradeDmForOrder ops.chatOps env s dm).db := by
  obtain ⟨hkeys, hindex⟩ := hown
  have hrow : ∀ row, s.db dm.orderId = some row →
      RowOk ops keyOps user (chatColumns (hydratedRow ops.chatOps env dm row)) :=
    fun row hrow => (h _ row hrow).hydrated env (hindex row hrow) hkeys
  rw [handleTradeDmForOrder_db]
  cases tradeDmPath s.db dm with
  | rangeChild o => exact h.saveOrder hkeys o _ _ _
  | dropTake => exact h.erase _
  | republish =>
    dsimp only
    rw [upsertOrderFromTradeDm_eq]
    have hupsert := h.modify fun row hrow =>
      (h _ row hrow).upsertRow (hindex row hrow) hkeys env.now dm.orderId
        (upsertOrder dm.orderId .newOrder dm.message.payload) dm.message.requestId
    exact hupsert.write (.updateStatus dm.orderId .pending)
  | hydrateOnly => exact h.modify hrow
  | full => exact h.modify hrow

/-- What a turn under the own keys of its order keeps. -/
theorem ChatsOk.next {s : TradeState} {turn : ChatTurn} (hown : UnderOwnKeys keyOps user s turn)
    (h : ChatsOk ops keyOps user s.db) :
    ChatsOk ops keyOps user (turnNext ops keyOps user s turn).db := by
  cases turn with
  | saveOrder order requestId tradeIndex isMaker env =>
    simp only [turnNext]
    cases hkeys : user.deriveTradeKeys keyOps tradeIndex with
    | ok keys => exact h.saveOrder hkeys order requestId isMaker env
    | error _ => exact h
  | persistReply orderId order keys requestId now =>
    obtain ⟨tradeIndex, hkeys, hindex⟩ := hown
    simp only [turnNext, upsertDb_eq]
    split
    · exact h.modify fun row hrow => (h _ row hrow).upsert (hindex row hrow) hkeys _ _ _ _
    · exact h
  | deliver env dm cursors => exact (h.deliver hown env).write (.updateLastSeenDmTs _ _)
  | write w => exact h.write w
  | editMessages messages => exact h
  | restart ids cursors => exact h

/-! ## The commands -/

/-- Where the columns agree, the secret of a chat is the one that is derived. -/
theorem Named.secret {row : Order} {keys : Keys}
    (h : Named ops keys row.counterpartyPubkey row.orderChatSharedKeyHex) :
    orderChatSecret ops row keys =
      row.counterpartyPubkey.bind (deriveSharedKeyHex ops.chatOps keys) := by
  unfold orderChatSecret
  cases hcp : row.counterpartyPubkey with
  | none =>
    rw [hcp] at h
    cases hhex : row.orderChatSharedKeyHex with
    | none => rfl
    | some hex =>
      rw [hhex] at h
      cases h
  | some text =>
    rw [hcp] at h
    cases hhex : row.orderChatSharedKeyHex with
    | none => rfl
    | some hex =>
      rw [hhex] at h
      cases h with
      | party hderive => simp [hderive]

/-- The chat that a row's columns resolve to: its secret and who is let through. -/
theorem Named.chat_iff (row : Order) {keys : Keys}
    (h : Named ops keys row.counterpartyPubkey row.orderChatSharedKeyHex) {hex : String}
    {allowed : List PublicKey} :
    (orderChatAllowedSigners ops keys.publicKey row.counterpartyPubkey = some allowed ∧
      orderChatSecret ops row keys = some hex) ↔
      ∃ pubkey shared, row.counterpartyPubkey.bind ops.parsePubkey = some pubkey ∧
        pubkey ≠ keys.publicKey ∧ ops.derive keys pubkey = some shared ∧
        hex = shared.secretHex ∧ allowed = [keys.publicKey, pubkey] := by
  rw [h.secret, orderChatAllowedSigners_iff]
  cases row.counterpartyPubkey with
  | none => simp
  | some text =>
    simp only [Option.bind_some, deriveSharedKeyHex_iff]
    refine ⟨?_, ?_⟩
    · rintro ⟨⟨pubkey, hparse, hne, rfl⟩, pubkey', shared, hparse', hshared, rfl⟩
      obtain rfl : pubkey = pubkey' := Option.some.inj (hparse.symm.trans hparse')
      exact ⟨pubkey, shared, hparse, hne, hshared, rfl, rfl⟩
    · rintro ⟨pubkey, shared, hparse, hne, hshared, rfl, rfl⟩
      exact ⟨⟨pubkey, hparse, hne, rfl⟩, pubkey, shared, hparse, hshared, rfl⟩

/-- The party and the secret that two columns resolve to. -/
theorem Named.secret_iff {keys : Keys} {text secret : Option String}
    (h : Named ops keys text secret) {hex : String} {pubkey : PublicKey} :
    (secret = some hex ∧ text.bind ops.parsePubkey = some pubkey) ↔
      text.bind ops.parsePubkey = some pubkey ∧
        ∃ shared, ops.derive keys pubkey = some shared ∧ hex = shared.secretHex := by
  cases h with
  | nobody => simp
  | party hderive =>
    obtain ⟨party, shared, hparse, hshared, rfl⟩ := deriveSharedKeyHex_iff.1 hderive
    rw [Option.bind_some, and_comm]
    refine and_congr_right fun hpubkey => ⟨?_, ?_⟩
    · intro hhex
      obtain rfl : party = pubkey := Option.some.inj (hparse.symm.trans hpubkey)
      exact ⟨shared, hshared, (Option.some.inj hhex).symm⟩
    · rintro ⟨shared', hshared', rfl⟩
      obtain rfl : party = pubkey := Option.some.inj (hparse.symm.trans hpubkey)
      rw [Option.some.inj (hshared.symm.trans hshared')]

/-- The keys of a row are those its columns agree on. -/
theorem RowOk.keys {columns : ChatColumns} (h : RowOk ops keyOps user columns) {tradeIndex : Int}
    {keys : Keys} (hindex : columns.tradeIndex = some tradeIndex)
    (hkeys : user.deriveTradeKeys keyOps tradeIndex = .ok keys) :
    columns.tradeKeys = some keys.secretHex ∧
      Named ops keys columns.counterpartyPubkey columns.orderChatSharedKeyHex ∧
      Named ops keys columns.solverPubkey columns.disputeChatSharedKeyHex := by
  obtain ⟨index, rowKeys, hrowIndex, hderive, hstored⟩ := h
  obtain rfl : index = tradeIndex := Option.some.inj (hrowIndex.symm.trans hindex)
  obtain rfl : rowKeys = keys := Except.ok.inj (hderive.symm.trans hkeys)
  exact hstored

/-- A DM has an order's chat tracked as its row has it. -/
theorem isOrderChat_of_mem_maybeTrack {cursors : ChatCursors} {db : Db} {orderId : Uuid}
    {tradeIndex : Int} {keys : Keys} (hok : ChatsOk ops keyOps user db)
    (hindex : ∀ row, db orderId = some row → row.tradeIndex = some tradeIndex)
    (hkeys : user.deriveTradeKeys keyOps tradeIndex = .ok keys) {cmd : RouterCmd ChatKeyId}
    (h : cmd ∈ maybeTrackOrderChat ops cursors db orderId keys) :
    ∃ row, db orderId = some row ∧
      IsOrderChat ops keyOps user (chatColumns row) orderId (cursors (.order orderId)) cmd := by
  unfold maybeTrackOrderChat at h
  rw [Order.getById] at h
  cases hrow : db orderId with
  | none => simp [hrow] at h
  | some row =>
    obtain ⟨hstored, hpeer, -⟩ := (hok _ row hrow).keys (hindex row hrow) hkeys
    refine ⟨row, rfl, ?_⟩
    simp only [hrow] at h
    cases hallowed : orderChatAllowedSigners ops keys.publicKey row.counterpartyPubkey with
    | none => simp [hallowed] at h
    | some allowed =>
      cases hsecret : orderChatSecret ops row keys with
      | none => simp [hallowed, hsecret] at h
      | some hex =>
        simp only [hallowed, hsecret, List.mem_singleton] at h
        obtain ⟨pubkey, shared, hparse, hne, hshared, rfl, rfl⟩ :=
          hpeer.chat_iff.1 ⟨hallowed, hsecret⟩
        exact ⟨tradeIndex, keys, pubkey, shared, hkeys, hstored, hparse, hne, hshared, h⟩

/-- What the DM that names a solver tracks is what it writes. -/
theorem isSolverChat_of_mem_trackSolver {cursors : ChatCursors} {dm : TradeDm}
    (hkeys : user.deriveTradeKeys keyOps dm.tradeIndex = .ok dm.tradeKeys)
    {cmd : RouterCmd ChatKeyId} (h : cmd ∈ trackSolverChat ops cursors dm) :
    ∃ solver hex, (∀ row, disputeRow ops.chatOps dm row =
        { row with solverPubkey := some solver, disputeChatSharedKeyHex := some hex }) ∧
      ∀ columns : ChatColumns, columns.tradeKeys = some dm.tradeKeys.secretHex →
        columns.solverPubkey = some solver →
        IsSolverChat ops keyOps user columns dm.orderId (cursors (.userDispute dm.orderId))
          cmd := by
  unfold trackSolverChat at h
  split at h
  next solver haction hpayload =>
    split at h
    next pubkey hex hparse hhex =>
      have hwrite : ops.chatOps.parsePubkey solver = some pubkey := hparse
      refine ⟨solver, hex, fun row => by simp [disputeRow, haction, hpayload, hwrite, hhex],
        fun columns hstored hsolver => ?_⟩
      obtain ⟨pubkey', shared, hparse', hshared, rfl⟩ := deriveSharedKeyHex_iff.1 hhex
      obtain rfl : pubkey = pubkey' := Option.some.inj (hparse.symm.trans hparse')
      refine ⟨dm.tradeIndex, dm.tradeKeys, pubkey, shared, hkeys, hstored, ?_, hshared,
        List.mem_singleton.1 h⟩
      rw [hsolver]
      exact hparse'
    next => cases h
  next => cases h

/-- The generic path, from the row that the DM leaves: nothing after it touches the columns. -/
theorem asStored_hydrated {s : TradeState} {dm : TradeDm} {env : Env} {cursors : ChatCursors}
    (hok : ChatsOk ops keyOps user s.db)
    (hown : KeysOfOrder keyOps user s.db dm.orderId dm.tradeIndex dm.tradeKeys) {db' : Db}
    (hdb : ∀ row, db' dm.orderId = some row → ∃ row', s.db dm.orderId = some row' ∧
      chatColumns row = chatColumns (hydratedRow ops.chatOps env dm row'))
    (hthere : ∀ row', s.db dm.orderId = some row' → ∃ row, db' dm.orderId = some row)
    {cmd : RouterCmd ChatKeyId}
    (h : cmd ∈ trackSolverChat ops cursors dm ++ maybeTrackOrderChat ops cursors
      (hydrateRow ops.chatOps env s.db dm) dm.orderId dm.tradeKeys) :
    AsStored ops keyOps user db' cmd := by
  obtain ⟨hkeys, hindex⟩ := hown
  rcases List.mem_append.1 h with hsolver | hpeer
  · obtain ⟨solver, hex, hwrite, hchat⟩ := isSolverChat_of_mem_trackSolver hkeys hsolver
    refine .inr (.inr ?_)
    cases hrow : db' dm.orderId with
    | none =>
      refine ⟨dm.orderId, ⟨some dm.tradeKeys.secretHex, none, none, none, some solver, none⟩, _,
        fun row hsome => ?_, hchat _ rfl rfl⟩
      rw [hrow] at hsome
      cases hsome
    | some row =>
      obtain ⟨row', hrow', hcolumns⟩ := hdb row hrow
      refine ⟨dm.orderId, chatColumns row, _, fun other hother => ?_, hchat _ ?_ ?_⟩
      · rw [hrow] at hother
        rw [Option.some.inj hother]
      · rw [hcolumns]
        exact (((hok _ row' hrow').hydrated env (hindex row' hrow') hkeys).keys
          ((hydratedRow_ownership dm row').2.1.trans (hindex row' hrow')) hkeys).1
      · rw [hcolumns]
        simp [chatColumns, hydratedRow, hwrite]
  · rw [hydrateRow_eq] at hpeer
    have hhydrated : ChatsOk ops keyOps user
        (s.db.modify dm.orderId (hydratedRow ops.chatOps env dm)) :=
      hok.modify fun row hrow => (hok _ row hrow).hydrated env (hindex row hrow) hkeys
    have hindex' : ∀ row, s.db.modify dm.orderId (hydratedRow ops.chatOps env dm) dm.orderId =
        some row → row.tradeIndex = some dm.tradeIndex := by
      intro row hrow
      rw [Table.modify_self] at hrow
      obtain ⟨row', hrow', rfl⟩ := Option.map_eq_some_iff.1 hrow
      exact (hydratedRow_ownership dm row').2.1.trans (hindex row' hrow')
    obtain ⟨row, hrow, hchat⟩ := isOrderChat_of_mem_maybeTrack hhydrated hindex' hkeys hpeer
    rw [Table.modify_self] at hrow
    obtain ⟨row', hrow', rfl⟩ := Option.map_eq_some_iff.1 hrow
    obtain ⟨row, hrow⟩ := hthere row' hrow'
    obtain ⟨row'', hrow'', hcolumns⟩ := hdb row hrow
    obtain rfl : row' = row'' := Option.some.inj (hrow'.symm.trans hrow'')
    exact .inr (.inl ⟨dm.orderId, row, _, hrow, by rwa [hcolumns]⟩)

/-- The chat commands of a trade DM are as the table has it once the DM is handled. -/
theorem asStored_deliver {s : TradeState} {dm : TradeDm} {env : Env} {cursors : ChatCursors}
    (hok : ChatsOk ops keyOps user s.db)
    (hown : KeysOfOrder keyOps user s.db dm.orderId dm.tradeIndex dm.tradeKeys)
    {cmd : RouterCmd ChatKeyId} (h : cmd ∈ turnChats ops s (.deliver env dm cursors)) :
    AsStored ops keyOps user (turnNext ops keyOps user s (.deliver env dm cursors)).db cmd := by
  rcases List.mem_append.1 h with hdm | huntrack
  · -- the table after the handler, and after the cursor
    have hfull : ∀ f : Order → Order,
        (∀ row, chatColumns (f row) = chatColumns (hydratedRow ops.chatOps env dm row)) →
        (turnNext ops keyOps user s (.deliver env dm cursors)).db =
          Order.updateLastSeenDmTs (s.db.modify dm.orderId f) dm.orderId dm.timestamp →
        cmd ∈ trackSolverChat ops cursors dm ++ maybeTrackOrderChat ops cursors
          (hydrateRow ops.chatOps env s.db dm) dm.orderId dm.tradeKeys →
        AsStored ops keyOps user (turnNext ops keyOps user s (.deliver env dm cursors)).db cmd := by
      intro f hf hnext hmem
      refine asStored_hydrated hok hown (fun row hrow => ?_) (fun row' hrow' => ?_) hmem
      · rw [hnext] at hrow
        simp only [Order.updateLastSeenDmTs, Table.modify_self, Option.map_map] at hrow
        obtain ⟨row', hrow', rfl⟩ := Option.map_eq_some_iff.1 hrow
        exact ⟨row', hrow', hf row'⟩
      · rw [hnext]
        simp [Order.updateLastSeenDmTs, hrow']
    have hdb : (turnNext ops keyOps user s (.deliver env dm cursors)).db =
        Order.updateLastSeenDmTs (handleTradeDmForOrder ops.chatOps env s dm).db dm.orderId
          dm.timestamp := rfl
    rw [handleTradeDmForOrder_db] at hdb
    unfold tradeDmChats at hdm
    cases hpath : tradeDmPath s.db dm with
    | rangeChild o => simp [hpath] at hdm
    | dropTake =>
      simp only [hpath] at hdm
      exact .inl ⟨dm.orderId, hdm⟩
    | republish =>
      simp only [hpath] at hdm
      exact .inl ⟨dm.orderId, hdm⟩
    | hydrateOnly =>
      simp only [hpath] at hdm hdb
      exact hfull (hydratedRow ops.chatOps env dm) (fun _ => rfl) hdb hdm
    | full =>
      simp only [hpath] at hdm hdb
      exact hfull (finishedRow ops.chatOps env s dm) (fun _ => rfl) hdb hdm
  · split at huntrack
    · exact .inl ⟨dm.orderId, huntrack⟩
    · cases huntrack

/-! ## A restart -/

/-- The stored text of a key is read back as the key. -/
theorem parseKeys_derived {tradeIndex : Int} {keys : Keys}
    (h : user.deriveTradeKeys keyOps tradeIndex = .ok keys) :
    keyOps.parseKeys keys.secretHex = some keys := by
  unfold User.deriveTradeKeys at h
  split at h
  · cases h
  · exact keyOps.parseKeys_secretHex h

/-- Of the keys that a user derives, no two have one secret. -/
theorem derived_eq {index index' : Int} {keys keys' : Keys}
    (h : user.deriveTradeKeys keyOps index = .ok keys)
    (h' : user.deriveTradeKeys keyOps index' = .ok keys')
    (hsame : keys'.secretHex = keys.secretHex) : keys' = keys := by
  have hread : keyOps.parseKeys keys'.secretHex = some keys := hsame ▸ parseKeys_derived h
  exact Option.some.inj ((parseKeys_derived h').symm.trans hread)

/-- The keys that a row which is not over stores are not blank. -/
theorem tradeKeys_of_startupActive {row : Order} (hactive : startupActive row = true) :
    row.tradeKeys.filter (· ≠ "") = row.tradeKeys := by
  have hkept := (Bool.and_eq_true_iff.1 hactive).1
  cases hkeys : row.tradeKeys with
  | none => rfl
  | some text =>
    rw [hkeys] at hkept
    by_cases hblank : text = ""
    · simp [hblank] at hkept
    · simp [hblank]

/-- One row of a restart: its order's chat and its solver's. -/
theorem mem_trackStartupOrder (hparse : keyOps.parseKeys = ops.parseKeys) {cursors : ChatCursors}
    {db : Db} {orderId : Uuid} {row : Order} (hrow : db orderId = some row)
    (hok : RowOk ops keyOps user (chatColumns row)) (hactive : startupActive row = true)
    (cmd : RouterCmd ChatKeyId) :
    cmd ∈ trackStartupOrder ops cursors db orderId ↔
      IsOrderChat ops keyOps user (chatColumns row) orderId (cursors (.order orderId)) cmd ∨
      IsSolverChat ops keyOps user (chatColumns row) orderId (cursors (.userDispute orderId))
        cmd := by
  obtain ⟨tradeIndex, keys, hindex, hkeys, hstored, hpeer, hsolver⟩ := hok
  have hread : ops.parseKeys keys.secretHex = some keys := hparse ▸ parseKeys_derived hkeys
  -- a key of the user that the row stores is the row's
  have honly : ∀ {index : Int} {other : Keys}, user.deriveTradeKeys keyOps index = .ok other →
      row.tradeKeys = some other.secretHex → other = keys := fun hother hsame =>
    derived_eq hkeys hother (Option.some.inj (hsame.symm.trans hstored))
  have hsome : row.tradeKeys.filter (· ≠ "") = some keys.secretHex :=
    (tradeKeys_of_startupActive hactive).trans hstored
  unfold trackStartupOrder
  rw [Order.getById, hrow]
  simp only [hsome, Option.bind_some, hread, List.mem_append]
  refine or_congr ⟨fun h => ?_, ?_⟩ ⟨fun h => ?_, ?_⟩
  · cases hsecret : orderChatSecret ops row keys with
    | none => simp [hsecret] at h
    | some hex =>
      cases hallowed : orderChatAllowedSigners ops keys.publicKey row.counterpartyPubkey with
      | none => simp [hsecret, hallowed] at h
      | some allowed =>
        simp only [hsecret, hallowed, List.mem_singleton] at h
        obtain ⟨pubkey, shared, hcp, hne, hshared, rfl, rfl⟩ :=
          (Named.chat_iff row hpeer).1 ⟨hallowed, hsecret⟩
        exact ⟨tradeIndex, keys, pubkey, shared, hkeys, hstored, hcp, hne, hshared, h⟩
  · rintro ⟨index, other, pubkey, shared, hother, hsame, hcp, hne, hshared, rfl⟩
    obtain rfl := honly hother hsame
    obtain ⟨hallowed, hsecret⟩ := (Named.chat_iff row hpeer).2
      ⟨pubkey, shared, hcp, hne, hshared, rfl, rfl⟩
    simp [hallowed, hsecret]
  · split at h
    next hex solver hhex hcp =>
      rw [List.mem_singleton] at h
      obtain ⟨-, shared, hshared, rfl⟩ := hsolver.secret_iff.1 ⟨hhex, hcp⟩
      exact ⟨tradeIndex, keys, solver, shared, hkeys, hstored, hcp, hshared, h⟩
    next => cases h
  · rintro ⟨index, other, solver, shared, hother, hsame, hcp, hshared, rfl⟩
    obtain rfl := honly hother hsame
    obtain ⟨hhex, hcp⟩ := hsolver.secret_iff.2 ⟨hcp, shared, hshared, rfl⟩
    simp only [chatColumns] at hhex hcp
    simp [hhex, hcp]

/-- A restart tracks the chats of the rows that are not over, and no others. -/
theorem mem_trackStartupChats (hparse : keyOps.parseKeys = ops.parseKeys) {cursors : ChatCursors}
    {db : Db} {ids : List Uuid} (hok : ChatsOk ops keyOps user db)
    (hids : StartupActiveOrders db ids) (cmd : RouterCmd ChatKeyId) :
    cmd ∈ trackStartupChats ops cursors db ids ↔ Resumed ops keyOps user db cursors cmd := by
  rw [trackStartupChats, List.mem_flatMap]
  refine ⟨?_, ?_⟩
  · rintro ⟨id, hid, hcmd⟩
    obtain ⟨row, hrow, hactive⟩ := (hids.mem id).1 hid
    exact ⟨id, row, hrow, hactive,
      (mem_trackStartupOrder hparse hrow (hok id row hrow) hactive cmd).1 hcmd⟩
  · rintro ⟨id, row, hrow, hactive, hchat⟩
    exact ⟨id, (hids.mem id).2 ⟨row, hrow, hactive⟩,
      (mem_trackStartupOrder hparse hrow (hok id row hrow) hactive cmd).2 hchat⟩

/-! ## Runs -/

theorem chatsOk_empty : ChatsOk ops keyOps user Table.empty := fun _ _ hrow => nomatch hrow

/-- Over every run of the statements that write orders, in which messages are handled with the keys
of their order's index: each command to the chat router is as the table has it then, so it tracks a
chat under the secret of the order's own key and the one other key that it lets through, and a
restart tracks the chats of the rows that are not over and no others. -/
theorem chats_between_two_keys (hparse : keyOps.parseKeys = ops.parseKeys)
    (turns : List ChatTurn)
    (hown : Run.Guarded (turnNext ops keyOps user) (UnderOwnKeys keyOps user)
      { db := Table.empty } turns) :
    ∀ before turn after, turns = before ++ turn :: after →
      let s := before.foldl (turnNext ops keyOps user) { db := Table.empty }
      (∀ cmd ∈ turnChats ops s turn,
        AsStored ops keyOps user (turnNext ops keyOps user s turn).db cmd) ∧
      ∀ ids cursors, turn = .restart ids cursors →
        ∀ cmd, cmd ∈ turnChats ops s turn ↔ Resumed ops keyOps user s.db cursors cmd := by
  rintro before turn after rfl s
  obtain ⟨hbefore, hturn, -⟩ := Run.guarded_append.1 hown
  have hok : ChatsOk ops keyOps user s.db :=
    Run.Guarded.invariant (I := fun s => ChatsOk ops keyOps user s.db)
      (fun _ _ hguard h => h.next hguard) hbefore chatsOk_empty
  have hrestart : ∀ ids cursors, turn = .restart ids cursors →
      ∀ cmd, cmd ∈ turnChats ops s turn ↔ Resumed ops keyOps user s.db cursors cmd := by
    rintro ids cursors rfl cmd
    exact mem_trackStartupChats hparse hok hturn cmd
  refine ⟨fun cmd hcmd => ?_, hrestart⟩
  cases turn with
  | deliver env dm cursors => exact asStored_deliver hok hturn hcmd
  | restart ids cursors =>
    obtain ⟨id, row, hrow, -, hchat | hchat⟩ := (hrestart ids cursors rfl cmd).1 hcmd
    · exact .inr (.inl ⟨id, row, _, hrow, hchat⟩)
    · refine .inr (.inr ⟨id, chatColumns row, _, fun other hother => ?_, hchat⟩)
      have hsame : s.db id = some other := hother
      rw [Option.some.inj (hrow.symm.trans hsame)]
  | saveOrder order requestId tradeIndex isMaker env => cases hcmd
  | persistReply orderId order keys requestId now => cases hcmd
  | write w => cases hcmd
  | editMessages messages => cases hcmd

/-! ## Two clients -/

variable (ops keyOps user) in
/-- A turn of the run sends the command. -/
def Sends (turns : List ChatTurn) (cmd : RouterCmd ChatKeyId) : Prop :=
  ∃ before turn after, turns = before ++ turn :: after ∧
    cmd ∈ turnChats ops (before.foldl (turnNext ops keyOps user) { db := Table.empty }) turn

/-- A chat of an order that a run tracks is one between two keys. -/
theorem Sends.orderChat {turns : List ChatTurn} {id : Uuid} {hex : String} {pk : PublicKey}
    {signers : List PublicKey} {since : Option Int}
    (h : Sends ops keyOps user turns (trackOrderChat id hex pk signers since))
    (hparse : keyOps.parseKeys = ops.parseKeys)
    (hown : Run.Guarded (turnNext ops keyOps user) (UnderOwnKeys keyOps user)
      { db := Table.empty } turns) :
    ∃ keys pubkey shared, keys.publicKey = pk ∧ ops.parseKeys keys.secretHex = some keys ∧
      ops.derive keys pubkey = some shared ∧ hex = shared.secretHex ∧ signers = [pk, pubkey] := by
  obtain ⟨before, turn, after, hturns, hcmd⟩ := h
  have hsent := (chats_between_two_keys hparse turns hown before turn after hturns).1 _ hcmd
  rcases hsent with ⟨id', huntrack⟩ | ⟨id', row, since', -, hchat⟩ |
    ⟨id', columns, since', -, hchat⟩
  · simp [untrackChats, trackOrderChat] at huntrack
  · obtain ⟨tradeIndex, keys, pubkey, shared, hkeys, -, -, -, hshared, heq⟩ := hchat
    simp only [trackOrderChat, RouterCmd.trackChatKey.injEq, Option.some.injEq] at heq
    obtain ⟨-, rfl, rfl, rfl, -⟩ := heq
    exact ⟨keys, pubkey, shared, rfl, hparse ▸ parseKeys_derived hkeys, hshared, rfl, rfl⟩
  · obtain ⟨tradeIndex, keys, pubkey, shared, -, -, -, -, heq⟩ := hchat
    simp [trackOrderChat, trackUserDisputeChat] at heq

end

section
variable {ops : EnvelopeOps} {keyOps : KeyOps} {user user' : User}

/-- Two clients that each let the other's key through on a chat of an order have it under one
secret, whatever either of them has gone through: nobody else is let through, and what one of them
sends, the other reads as its message. -/
theorem order_chats_meet (hops : ops.Lawful) (hparse : keyOps.parseKeys = ops.parseKeys)
    {turns turns' : List ChatTurn}
    (hown : Run.Guarded (turnNext ops keyOps user) (UnderOwnKeys keyOps user)
      { db := Table.empty } turns)
    (hown' : Run.Guarded (turnNext ops keyOps user') (UnderOwnKeys keyOps user')
      { db := Table.empty } turns')
    {id id' : Uuid} {hex hex' : String} {pk pk' : PublicKey} {signers signers' : List PublicKey}
    {since since' : Option Int}
    (hsent : Sends ops keyOps user turns (trackOrderChat id hex pk signers since))
    (hsent' : Sends ops keyOps user' turns' (trackOrderChat id' hex' pk' signers' since'))
    (hother : pk' ∈ signers) (hother' : pk ∈ signers') (hne : pk ≠ pk') :
    signers = [pk, pk'] ∧ signers' = [pk', pk] ∧
    ∃ shared, hex = shared.secretHex ∧ hex' = shared.secretHex ∧
      ops.fromHex hex = some shared ∧
      ∀ stamp sender content event, sender.publicKey = pk →
        sendChatMessageViaSharedKey ops stamp sender shared content = .ok event →
        ∃ inner, ∀ now, stamp.now ≤ now →
          unwrapGiftwrapWithSharedKey ops shared event signers' now =
            .ok ⟨pk, String.ofList (Text.trim content.toList), stamp.now, inner⟩ := by
  obtain ⟨keys, pubkey, shared, rfl, hread, hshared, rfl, rfl⟩ := hsent.orderChat hparse hown
  obtain ⟨keys', pubkey', shared', rfl, hread', hshared', rfl, rfl⟩ :=
    hsent'.orderChat hparse hown'
  -- each list holds the client's own key and one other
  obtain rfl : keys'.publicKey = pubkey := by simpa [Ne.symm hne] using hother
  obtain rfl : keys.publicKey = pubkey' := by simpa [hne] using hother'
  have hderive : ops.derive keys keys'.publicKey = ops.derive keys' keys.publicKey :=
    hops.derive_comm hread hread'
  rw [hderive, hshared'] at hshared
  obtain rfl := Option.some.inj hshared
  refine ⟨rfl, rfl, shared', rfl, rfl, hops.fromHex_derive hshared',
    fun stamp sender content event hsender hevent => ?_⟩
  obtain ⟨inner, hopens⟩ := unwrap_of_send hops hevent
  rw [hsender] at hopens
  exact ⟨inner, fun now hnow => hopens _ _ _ (by simp) hnow⟩

end

/-! ## A trade between two clients -/

/-- Envelopes in the clear, with keys and secrets that are read back from any text; a secret names
its two keys. -/
def plainEnvelopes : EnvelopeOps :=
  { pairOps with
    parseKeys := plainKeyOps.parseKeys
    derive := fun keys pubkey =>
      plainKeyOps.parseKeys
        (if keys.publicKey ≤ pubkey then keys.publicKey ++ pubkey else pubkey ++ keys.publicKey)
    fromHex := plainKeyOps.parseKeys
    chatKeys := fun _ => some (⟨"conv", "pub:conv"⟩, ⟨"sign", "pub:sign"⟩) }

theorem plainEnvelopes_lawful : plainEnvelopes.Lawful where
  derive_comm := by
    intro a b _ _
    simp only [plainEnvelopes]
    rcases lt_trichotomy a.publicKey b.publicKey with h | h | h
    · rw [if_pos h.le, if_neg h.not_ge]
    · rw [h]
    · rw [if_neg h.not_ge, if_pos h.le]
  fromHex_derive := by
    intro a pk shared h
    obtain rfl := Option.some.inj h
    rfl
  fromHex_conv := by
    intro shared conv sign h
    cases h
    rfl
  unwrap_wrap := pairOps_lawful.unwrap_wrap
  sender_mem := pairOps_lawful.sender_mem
  unwrap_allowed := pairOps_lawful.unwrap_allowed
  author_eq := pairOps_lawful.author_eq

/-- The maker and the taker. -/
def makerUser : User := { i0Pubkey := "pub:m:0", mnemonic := "m", createdAt := 0 }
def takerUser : User := { i0Pubkey := "pub:t:0", mnemonic := "t", createdAt := 0 }

/-- The order once it is taken: it names the trade keys of both. -/
def takenOrder : SmallOrder :=
  { id := some 7, status := some .active, buyerTradePubkey := some "pub:m:1",
    sellerTradePubkey := some "pub:t:1" }

/-- A client whose request for the order was accepted, which then had the taken order in a reply and
was restarted. -/
def takenTurns (keys : Keys) (isMaker : Bool) : List ChatTurn :=
  [.saveOrder { id := some 7, status := some .pending } 5 1 isMaker ⟨1000, 0⟩,
    .persistReply 7 takenOrder keys none 1001,
    .restart [7] fun _ => none]

/-- The row it leaves. -/
def takenRow (keys : Keys) (isMaker : Bool) : Order :=
  Order.buildOrderFromSmallOrder plainEnvelopes.chatOps 7 takenOrder keys
    (some (Order.newRow { id := some 7, status := some .pending } keys (some (asI64 5)) 1 isMaker
      ⟨1000, 0⟩)) none 1001

theorem takenTurns_db (client : User) (keys : Keys)
    (hkeys : client.deriveTradeKeys plainKeyOps 1 = .ok keys) (isMaker : Bool) :
    (turnNext plainEnvelopes plainKeyOps client (turnNext plainEnvelopes plainKeyOps client
      { db := Table.empty }
      (.saveOrder { id := some 7, status := some .pending } 5 1 isMaker ⟨1000, 0⟩))
      (.persistReply 7 takenOrder keys none 1001)).db =
      (Table.empty : Db).put 7 (takenRow keys isMaker) := by
  simp only [turnNext, hkeys, saveOrder_eq, upsertDb_eq]
  rw [if_pos Int.one_pos, if_pos (by rfl)]
  exact Table.modify_put

theorem takenTurns_own (client : User) (keys : Keys)
    (hkeys : client.deriveTradeKeys plainKeyOps 1 = .ok keys)
    (hne : keys.secretHex ≠ "") (isMaker : Bool) :
    Run.Guarded (turnNext plainEnvelopes plainKeyOps client) (UnderOwnKeys plainKeyOps client)
      { db := Table.empty } (takenTurns keys isMaker) := by
  refine ⟨trivial, ⟨1, hkeys, fun row hrow => ?_⟩, ⟨by decide, fun id => ?_⟩, trivial⟩
  · simp only [turnNext, hkeys, saveOrder_eq] at hrow
    rw [if_pos (by decide)] at hrow
    obtain rfl := Option.some.inj (Table.put_self.symm.trans hrow)
    rfl
  · rw [takenTurns_db client keys hkeys]
    by_cases hid : id = 7
    · subst hid
      simp [startupActive, takenRow, takenOrder, Order.buildOrderFromSmallOrder, Order.newRow, hne,
        terminalDmStatuses]
    · simp [hid]

theorem takenTurns_sends (client : User) (keys : Keys) (pubkey : PublicKey)
    (hkeys : client.deriveTradeKeys plainKeyOps 1 = .ok keys) (hne : keys.secretHex ≠ "")
    (isMaker : Bool)
    (hparty : (takenRow keys isMaker).counterpartyPubkey = some pubkey)
    (hother : pubkey ≠ keys.publicKey) {shared : Keys}
    (hshared : plainEnvelopes.derive keys pubkey = some shared) :
    Resumed plainEnvelopes plainKeyOps client
      ((Table.empty : Db).put 7 (takenRow keys isMaker)) (fun _ => none)
      (trackOrderChat 7 shared.secretHex keys.publicKey [keys.publicKey, pubkey] none) := by
  refine ⟨7, takenRow keys isMaker, Table.put_self, ?_, .inl ?_⟩
  · simp [startupActive, takenRow, takenOrder, Order.buildOrderFromSmallOrder, Order.newRow, hne,
      terminalDmStatuses]
  · refine ⟨1, keys, pubkey, shared, hkeys, rfl, ?_, hother, hshared, rfl⟩
    simp only [chatColumns, hparty]
    rfl

/-- The restart of the maker has the chat with the taker, under their secret. -/
theorem chats_between_two_keys_taken :
    trackOrderChat 7 "pub:m:1pub:t:1" "pub:m:1" ["pub:m:1", "pub:t:1"] none ∈
      trackStartupChats plainEnvelopes (fun _ => none)
        ((Table.empty : Db).put 7 (takenRow ⟨"m:1", "pub:m:1"⟩ true)) [7] := by
  have hown := takenTurns_own makerUser ⟨"m:1", "pub:m:1"⟩ rfl (by decide) true
  have h := (chats_between_two_keys rfl _ hown [_, _] (.restart [7] fun _ => none) [] rfl).2 _ _ rfl
  simp only [List.foldl_cons, List.foldl_nil, turnChats,
    takenTurns_db makerUser ⟨"m:1", "pub:m:1"⟩ rfl true] at h
  exact (h _).2 (takenTurns_sends makerUser ⟨"m:1", "pub:m:1"⟩ "pub:t:1" rfl (by decide) true
    (by decide) (by decide) rfl)

/-- The maker and the taker listen to one chat. -/
theorem order_chats_meet_taken :
    ∃ shared, "pub:m:1pub:t:1" = shared.secretHex ∧
      plainEnvelopes.fromHex "pub:m:1pub:t:1" = some shared := by
  have hmaker : Sends plainEnvelopes plainKeyOps makerUser (takenTurns ⟨"m:1", "pub:m:1"⟩ true)
      (trackOrderChat 7 "pub:m:1pub:t:1" "pub:m:1" ["pub:m:1", "pub:t:1"] none) :=
    ⟨[_, _], _, [], rfl, by decide⟩
  have htaker : Sends plainEnvelopes plainKeyOps takerUser (takenTurns ⟨"t:1", "pub:t:1"⟩ false)
      (trackOrderChat 7 "pub:m:1pub:t:1" "pub:t:1" ["pub:t:1", "pub:m:1"] none) :=
    ⟨[_, _], _, [], rfl, by decide⟩
  obtain ⟨-, -, shared, hhex, -, hread, -⟩ := order_chats_meet plainEnvelopes_lawful rfl
    (takenTurns_own makerUser ⟨"m:1", "pub:m:1"⟩ rfl (by decide) true)
    (takenTurns_own takerUser ⟨"t:1", "pub:t:1"⟩ rfl (by decide) false) hmaker htaker (by decide)
    (by decide) (by decide)
  exact ⟨shared, hhex, hread⟩

/-- Under the keys of an index the order no longer has, a message leaves a secret that the row's own
keys do not derive: the order was taken again, and the first subscription still delivers. -/
theorem stale_keys_mix :
    let s := [ChatTurn.saveOrder { id := some 7 } 5 1 false ⟨1000, 0⟩,
      .saveOrder { id := some 7 } 6 2 false ⟨1001, 0⟩].foldl
        (turnNext plainEnvelopes plainKeyOps makerUser) { db := Table.empty }
    let stale : ChatTurn := .persistReply 7 takenOrder ⟨"m:1", "pub:m:1"⟩ none 1002
    ¬ UnderOwnKeys plainKeyOps makerUser s stale ∧
      ((turnNext plainEnvelopes plainKeyOps makerUser s stale).db 7).map
          (fun row => (row.tradeKeys, row.orderChatSharedKeyHex)) =
        some (some "m:2", some "pub:m:1pub:t:1") := by
  intro s stale
  refine ⟨?_, by decide⟩
  rintro ⟨tradeIndex, hkeys, hindex⟩
  obtain rfl : 2 = tradeIndex := Option.some.inj (hindex _ rfl)
  exact absurd (Except.ok.inj hkeys) (by decide)

/-- A listing that goes back to the book keeps its last taker: the client ends the chat with the
taker, and a restart tracks it again. -/
theorem republished_listing_resumed :
    let s := [ChatTurn.saveOrder { id := some 7, status := some .pending } 5 1 true ⟨1000, 0⟩,
      .persistReply 7 { takenOrder with status := some .waitingPayment } ⟨"m:1", "pub:m:1"⟩ none
        1001].foldl (turnNext plainEnvelopes plainKeyOps makerUser) { db := Table.empty }
    let republish : ChatTurn := .deliver ⟨1002, 0⟩
      { orderId := 7, tradeIndex := 1, timestamp := 1002, sender := "mostro"
        tradeKeys := ⟨"m:1", "pub:m:1"⟩, notify := true
        message := { id := some 7, action := .newOrder
                     payload := some (.order { id := some 7, status := some .pending }) } }
      fun _ => none
    turnChats plainEnvelopes s republish = untrackChats 7 ∧
      turnChats plainEnvelopes (turnNext plainEnvelopes plainKeyOps makerUser s republish)
        (.restart [7] fun _ => none) =
        [trackOrderChat 7 "pub:m:1pub:t:1" "pub:m:1" ["pub:m:1", "pub:t:1"] none] := by
  decide

end Mostrix.Chat
