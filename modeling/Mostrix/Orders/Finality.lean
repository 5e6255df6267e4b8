import Mostrix.Library.Run
import Mostrix.Orders.Reconcile
import Mostrix.Replies.BondInvoice
import Mostrix.TradeDm.StatusStep

/-!
# Terminal statuses over whole runs

Four tasks write the status column: the trade-DM listener, the relay reconcile, the bond invoice
flow and the dispute and cooperative-cancel requests. `statusNext` interleaves their steps on one
table: a reconcile is in flight between its read and its write, and a bond invoice request between
the read of its row and the reply. The UI may change the Messages list at any time.

A terminal status is meant to be final. `KeepsTerminal` names, step by step, when it is, and
`keepsTerminal_iff` shows that the list is exact: from a state where the row has the terminal status
`t`, the row has it after the step exactly when the step meets the condition.
`terminal_status_final_iff` is the statement over runs.
-/

namespace Mostrix

/-- The table and the writes in flight. -/
structure StatusState where
  trade : TradeState
  /-- Reconciles past their read. -/
  reconciles : List ReconcileWrite := []
  /-- Bond invoice requests that wait for their reply. -/
  bonds : List BondInvoiceRequest := []

/-- One step of a task that writes statuses, or of the UI. -/
inductive StatusEvent
  /-- the listener handles a trade DM -/
  | tradeDm (env : Env) (dm : TradeDm)
  /-- a reconcile reads the row of a relay order -/
  | reconcileRead (relayOrder : SmallOrder)
  /-- the `n`-th reconcile in flight writes -/
  | reconcileWrite (n : Nat)
  /-- a bond invoice request reads its row -/
  | bondRequest (orderId : Uuid) (orderTradeKeys : Keys) (requestId : Nat)
  /-- the reply to the `n`-th bond invoice request is processed -/
  | bondReply (n : Nat) (env : Env) (reply : Reply)
  /-- `spawn_dispute` after the dispute was opened -/
  | disputeOpened (orderId disputeId : Uuid)
  /-- the write after a cooperative cancel was confirmed -/
  | cooperativeCancelSent (orderId : Uuid)
  /-- the UI changes the Messages list -/
  | messagesChanged (messages : List OrderMessage)

/-- One step. -/
def statusNext (ops : ChatOps) (s : StatusState) : StatusEvent → StatusState
  | .tradeDm env dm => { s with trade := handleTradeDmForOrder ops env s.trade dm }
  | .reconcileRead relayOrder =>
    match reconcileRead s.trade.db relayOrder with
    | some w => { s with reconciles := s.reconciles ++ [w] }
    | none => s
  | .reconcileWrite n =>
    match s.reconciles[n]? with
    | some w =>
      { s with
        trade := { s.trade with db := reconcileWrite s.trade.db w }
        reconciles := s.reconciles.eraseIdx n }
    | none => s
  | .bondRequest orderId orderTradeKeys requestId =>
    match Order.getById s.trade.db orderId with
    | some dbOrder =>
      { s with bonds := s.bonds ++ [⟨orderId, dbOrder, orderTradeKeys, requestId⟩] }
    | none => s
  | .bondReply n env reply =>
    match s.bonds[n]? with
    | some req =>
      { s with
        trade := (operationResultFromBondInvoiceReply ops env s.trade req reply).1
        bonds := s.bonds.eraseIdx n }
    | none => s
  | .disputeOpened orderId disputeId =>
    { s with
      trade :=
        { s.trade with
          db := Order.updateDisputeId (Order.updateStatus s.trade.db orderId .dispute) orderId
            disputeId } }
  | .cooperativeCancelSent orderId =>
    { s with
      trade :=
        { s.trade with db := Order.updateStatus s.trade.db orderId .cooperativelyCanceled } }
  | .messagesChanged messages => { s with trade := { s.trade with messages := messages } }

/-- The row of an order has status `t`. -/
def HasStatus (id : Uuid) (t : Status) (s : StatusState) : Prop :=
  ∃ row, s.trade.db id = some row ∧ row.status = some t

/-- A reply's two status writes leave `t` on a row that has it: the status the reply implies is `t`,
or the one the request read; and an upserted order carries `t`, unless `t` is written after it. -/
def ReplyKeeps (req : BondInvoiceRequest) (message : MessageKind) (t : Status) : Prop :=
  (∀ c, replyStatusCandidate message.action message.payload = some c →
    c = t ∨ req.dbOrder.status = some c) ∧
  ∀ o, persistedOrder req.orderId message = some o →
    o.status = some t ∨
      replyStatusCandidate message.action message.payload = some t ∧ req.dbOrder.status ≠ some t

/-- A reply to a bond invoice request keeps `t` on the row of order `id`: it is rejected, or the
order it saves under this id carries `t`, or, where it saves none there, its status writes keep `t`
or go to another order. -/
def BondReplyKeeps (id : Uuid) (t : Status) (req : BondInvoiceRequest) (reply : Reply) : Prop :=
  match handleMostroResponse reply.message req.requestId, req.dbOrder.tradeIndex with
  | .ok message, some tradeIndex =>
    match replyOrderToSave message with
    | some o =>
      if o.id.getD req.orderId = id ∧ 0 < tradeIndex then o.status = some t
      else req.orderId = id → ReplyKeeps req message t
    | none => req.orderId = id → ReplyKeeps req message t
  | _, _ => True

/-- When a step leaves the terminal status `t` of order `id` alone.

* A trade DM for the order: its two status writes cancel. A trade DM for another order: it saves no
  range child under this id.
* The write of a reconcile: it writes `t`.
* A bond invoice reply: see `BondReplyKeeps`.
* A dispute is opened on another order, and a cooperative cancel writes `t` or another order. -/
def KeepsTerminal (id : Uuid) (t : Status) (s : StatusState) : StatusEvent → Prop
  | .tradeDm env dm =>
    (dm.orderId = id → WritesCancel s.trade dm t) ∧
      ∀ o, tradeDmPath s.trade.db dm = .rangeChild o → o.id.getD env.freshId = id →
        dm.tradeIndex ≤ 0
  | .reconcileWrite n =>
    ∀ w, s.reconciles[n]? = some w → w.orderId = id → w.status = t
  | .bondReply n _ reply => ∀ req, s.bonds[n]? = some req → BondReplyKeeps id t req reply
  | .disputeOpened orderId _ => orderId ≠ id
  | .cooperativeCancelSent orderId => orderId = id → t = .cooperativelyCanceled
  | .reconcileRead _ | .bondRequest .. | .messagesChanged _ => True

section
variable {ops : ChatOps} {env : Env} {id : Uuid} {t : Status}

/-- A terminal row is neither a take nor a listing that could be dropped or reverted. -/
theorem tradeDmPath_of_terminal {db : Db} {dm : TradeDm} {row : Order}
    (hrow : db dm.orderId = some row) (hst : row.status = some t)
    (ht : isTerminalTradeStatus t = true) :
    tradeDmPath db dm = .hydrateOnly ∨ tradeDmPath db dm = .full := by
  have hpre : isPreActiveStatus t = false := by
    cases t <;> simp_all [isTerminalTradeStatus, isPreActiveStatus]
  have htake : isPreActiveTakerTake row = false := by simp [isPreActiveTakerTake, hst, hpre]
  have hlist : isPreActiveMakerListing row = false := by
    simp [isPreActiveMakerListing, hst, hpre]
  have hcancel : isPreActiveTakerCancel (some row) dm.message = false := by
    simp [isPreActiveTakerCancel, htake]
  unfold tradeDmPath
  simp only [hrow, htake, hlist, hcancel]
  cases isEmptyPay dm.message <;> (split <;> simp)

/-- On a terminal row, keeping the contract of the status step is keeping the status. -/
theorem statusStep_terminal {s s' : TradeState} {dm : TradeDm} {row' : Order}
    (ht : isTerminalTradeStatus t = true) (hrow' : s'.db dm.orderId = some row')
    (hpath : tradeDmPath s.db dm ≠ .republish) :
    StatusStep s s' dm t ↔ row'.status = some t := by
  rw [statusStep_of_row hrow' hpath]
  simp only [shouldApplyStatusTransition_terminal ht]
  refine ⟨?_, ?_⟩
  · rintro (h | ⟨c, hc, -, rfl⟩)
    · exact h
    · exact hc
  · exact .inl

/-- A trade DM for the order keeps its terminal status exactly when the two writes cancel. -/
theorem tradeDm_hasStatus_self {s : TradeState} {dm : TradeDm} {row : Order}
    (ht : isTerminalTradeStatus t = true) (hrow : s.db dm.orderId = some row)
    (hst : row.status = some t) :
    (∃ row', (handleTradeDmForOrder ops env s dm).db dm.orderId = some row' ∧
      row'.status = some t) ↔ WritesCancel s dm t := by
  rcases tradeDmPath_of_terminal hrow hst ht with hpath | hpath
  · have hrow' : (handleTradeDmForOrder ops env s dm).db dm.orderId =
        some (hydratedRow ops env dm row) := by simp [handleTradeDmForOrder_db, hpath, hrow]
    rw [← statusStep_hydrateOnly ops env hrow hst hpath,
      statusStep_terminal ht hrow' (by simp [hpath]), hrow']
    simp
  · have hrow' : (handleTradeDmForOrder ops env s dm).db dm.orderId =
        some (finishedRow ops env s dm row) := by simp [handleTradeDmForOrder_db, hpath, hrow]
    rw [← statusStep_full ops env hrow hst hpath,
      statusStep_terminal ht hrow' (by simp [hpath]), hrow']
    simp

/-- A saved range child carries `pending`. -/
theorem rangeChild_hasStatus {s : TradeState} {dm : TradeDm} {o : SmallOrder} {row : Order}
    (ht : isTerminalTradeStatus t = true) (hpath : tradeDmPath s.db dm = .rangeChild o)
    (hrow : s.db id = some row) (hst : row.status = some t) :
    (∃ row', (handleTradeDmForOrder ops env s dm).db id = some row' ∧ row'.status = some t) ↔
      (o.id.getD env.freshId = id → dm.tradeIndex ≤ 0) := by
  have hpend : o.status = some .pending := (tradeDmPath_taken hpath).2.2.2
  have hne : t ≠ .pending := by rintro rfl; cases ht
  rw [handleTradeDmForOrder_db, hpath]
  simp only [saveOrder_eq]
  by_cases hpos : 0 < dm.tradeIndex
  · by_cases hid : o.id.getD env.freshId = id
    · have : ¬ dm.tradeIndex ≤ 0 := by omega
      simp [hpos, hid, this, Order.newRow, hpend, hne.symm]
    · simp [hpos, hid, Table.put_of_ne (Ne.symm hid), hrow, hst]
  · have : dm.tradeIndex ≤ 0 := by omega
    simp [hpos, this, hrow, hst]

/-- The two status writes of a reply keep `t` exactly when `ReplyKeeps` says so. -/
theorem bondReplyStatus_iff {req : BondInvoiceRequest} {message : MessageKind} :
    bondReplyStatus req message (some t) = some t ↔ ReplyKeeps req message t := by
  unfold bondReplyStatus ReplyKeeps
  cases replyStatusCandidate message.action message.payload with
  | none => cases persistedOrder req.orderId message <;> simp
  | some c =>
    by_cases hb : req.dbOrder.status = some c
    · cases persistedOrder req.orderId message <;> simp [hb]
    · cases persistedOrder req.orderId message <;> simp [hb]
      grind

variable (ops env) in
/-- The reply to a bond invoice request keeps the status `t` of a row exactly when `BondReplyKeeps`
says so. -/
theorem bondReply_hasStatus {s : TradeState} {req : BondInvoiceRequest} {reply : Reply} {row : Order}
    (hrow : s.db id = some row) (hst : row.status = some t) :
    (∃ row', (operationResultFromBondInvoiceReply ops env s req reply).1.db id = some row' ∧
        row'.status = some t) ↔ BondReplyKeeps id t req reply := by
  rw [operationResultFromBondInvoiceReply_db, BondReplyKeeps]
  cases handleMostroResponse reply.message req.requestId with
  | error e => simp [hrow, hst]
  | ok message =>
    cases req.dbOrder.tradeIndex with
    | none => simp [hrow, hst]
    | some tradeIndex =>
      obtain ⟨f, hf, hframe⟩ :=
        bondReplyStatusWrites_row ops env s.db req message
      have hwrites : (∃ row', s.db.modify req.orderId f id = some row' ∧ row'.status = some t) ↔
          (req.orderId = id → ReplyKeeps req message t) := by
        by_cases hid : req.orderId = id
        · subst hid
          simp [hrow, (hframe row).1, hst, bondReplyStatus_iff]
        · simp [Table.modify_of_ne (Ne.symm hid), hid, hrow, hst]
      simp only [hf]
      cases replyOrderToSave message with
      | none => exact hwrites
      | some o =>
        simp only [saveOrder_eq, Option.getD_some]
        by_cases hpos : 0 < tradeIndex
        · by_cases hid : o.id.getD req.orderId = id
          · simp [hpos, hid, Order.newRow]
          · simpa [hpos, hid, Table.put_of_ne (Ne.symm hid)] using hwrites
        · simpa [hpos] using hwrites

/-- A status write keeps a row's status exactly when it goes elsewhere or writes it. -/
theorem updateStatus_hasStatus {db : Db} (id' : Uuid) (c : Status) {row : Order}
    (hrow : db id = some row) (hst : row.status = some t) :
    (∃ row', Order.updateStatus db id' c id = some row' ∧ row'.status = some t) ↔
      (id' = id → c = t) := by
  by_cases hid : id' = id
  · subst hid
    simp [Order.updateStatus, hrow]
  · simp [Order.updateStatus, Table.modify_of_ne (Ne.symm hid), hid, hrow, hst]

/-- **The step.** From a state where the row has the terminal status `t`, the row has it after a
step exactly when the step meets the condition. -/
theorem keepsTerminal_iff (ht : isTerminalTradeStatus t = true) (s : StatusState) (e : StatusEvent)
    (hs : HasStatus id t s) : HasStatus id t (statusNext ops s e) ↔ KeepsTerminal id t s e := by
  obtain ⟨row, hrow, hst⟩ := hs
  cases e with
  | tradeDm env dm =>
    simp only [HasStatus, statusNext, KeepsTerminal]
    by_cases hid : dm.orderId = id
    · subst hid
      have hpath : ∀ o, tradeDmPath s.trade.db dm ≠ .rangeChild o := by
        intro o h
        rw [(tradeDmPath_taken h).1] at hrow
        cases hrow
      rw [tradeDm_hasStatus_self ht hrow hst]
      simp [hpath]
    · by_cases hpath : ∃ o, tradeDmPath s.trade.db dm = .rangeChild o
      · obtain ⟨o, hpath⟩ := hpath
        rw [rangeChild_hasStatus ht hpath hrow hst]
        simp [hid, hpath]
      · have hpath : ∀ o, tradeDmPath s.trade.db dm ≠ .rangeChild o := fun o h => hpath ⟨o, h⟩
        rw [handleTradeDmForOrder_db_of_ne (Ne.symm hid) hpath]
        simp [hid, hpath, hrow, hst]
  | reconcileRead relayOrder =>
    refine iff_of_true ⟨row, ?_, hst⟩ trivial
    unfold statusNext
    dsimp only
    split <;> exact hrow
  | reconcileWrite n =>
    simp only [HasStatus, statusNext, KeepsTerminal]
    cases hw : s.reconciles[n]? with
    | none => simp [hrow, hst]
    | some w => simpa [reconcileWrite] using updateStatus_hasStatus _ _ hrow hst
  | bondRequest orderId orderTradeKeys requestId =>
    refine iff_of_true ⟨row, ?_, hst⟩ trivial
    unfold statusNext
    dsimp only
    split <;> exact hrow
  | bondReply n env reply =>
    simp only [HasStatus, statusNext, KeepsTerminal]
    cases hreq : s.bonds[n]? with
    | none => simp [hrow, hst]
    | some req => simpa using bondReply_hasStatus ops env hrow hst
  | disputeOpened orderId disputeId =>
    have hdispute : Status.dispute ≠ t := by rintro rfl; cases ht
    have hupdate := updateStatus_hasStatus orderId .dispute hrow hst
    simp only [HasStatus, statusNext, KeepsTerminal]
    have hframe : (∃ row', Order.updateDisputeId
        (Order.updateStatus s.trade.db orderId .dispute) orderId disputeId id = some row' ∧
          row'.status = some t) ↔
        ∃ row', Order.updateStatus s.trade.db orderId .dispute id = some row' ∧
          row'.status = some t := by
      by_cases hid : id = orderId
      · subst hid
        simp [Order.updateDisputeId]
      · simp [Order.updateDisputeId, hid]
    rw [hframe, hupdate]
    simp [hdispute]
  | cooperativeCancelSent orderId =>
    simp only [HasStatus, statusNext, KeepsTerminal]
    rw [updateStatus_hasStatus _ _ hrow hst, eq_comm (a := t)]
  | messagesChanged messages => exact iff_of_true ⟨row, hrow, hst⟩ trivial

/-- **Terminal statuses are final, exactly on the runs whose steps meet the condition.** From any
state where a row has the terminal status `t`, it has it in every state a run passes through exactly
when every step of the run meets `KeepsTerminal`. -/
theorem terminal_status_final_iff (ht : isTerminalTradeStatus t = true) (s : StatusState)
    (hs : HasStatus id t s) (run : List StatusEvent) :
    Run.Guarded (statusNext ops) (KeepsTerminal id t) s run ↔
      ∀ before after, run = before ++ after →
        HasStatus id t (before.foldl (statusNext ops) s) :=
  Run.Guarded.iff_invariant (keepsTerminal_iff ht) hs run

end

/-! ## A run that keeps a completed trade, and one that does not -/

/-- A state whose only row is a completed trade, order 1. -/
def successState : StatusState where
  trade := { db := Table.empty.put 1 { activeRow with status := some .success } }

/-- A stale `add-invoice` and a cooperative cancel of another order leave the trade completed. -/
theorem terminal_status_final_iff_stale :
    let run : List StatusEvent :=
      [.tradeDm ⟨0, 0⟩
          (dmForOrder1 .addInvoice (some (.order { status := some .waitingBuyerInvoice }))),
        .cooperativeCancelSent 2]
    ∀ before after, run = before ++ after →
      HasStatus 1 .success (before.foldl (statusNext plainChatOps) successState) := by
  refine (@terminal_status_final_iff plainChatOps _ _ rfl successState ⟨_, rfl, rfl⟩ _).1 ?_
  refine ⟨⟨fun _ _ _ => .inr ⟨.waitingBuyerInvoice, rfl, by decide⟩, ?_⟩, ?_, trivial⟩
  · intro o ho
    cases ho
  · intro h
    cases h

/-- A bond payout request for the completed trade whose order says `active` makes it active again:
the message implies no status, so nothing undoes the upsert. -/
theorem terminal_status_not_final :
    ¬ ∀ (ops : ChatOps) (id : Uuid) (t : Status) (s : StatusState) (run : List StatusEvent),
      isTerminalTradeStatus t = true → HasStatus id t s →
        HasStatus id t (run.foldl (statusNext ops) s) := by
  intro h
  let dm := dmForOrder1 .addBondInvoice
    (some (.bondPayoutRequest { order := { status := some .active }, slashedAt := 0 }))
  obtain ⟨row, hrow, hst⟩ := h plainChatOps 1 .success successState [.tradeDm ⟨0, 0⟩ dm] rfl
    ⟨_, rfl, rfl⟩
  have hrow' : (handleTradeDmForOrder plainChatOps ⟨0, 0⟩ successState.trade dm).db 1 =
      some { activeRow with kind := none, createdAt := some 0 } := rfl
  have heq : some row = some { activeRow with kind := none, createdAt := some 0 } :=
    hrow.symm.trans hrow'
  rw [Option.some.inj heq] at hst
  cases hst

end Mostrix
