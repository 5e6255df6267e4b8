import Mostrix.Library.Run
import Mostrix.Router.Dispatch
import Mostrix.TradeDm.StatusStep

/-!
# Teardown and the stored status

`dispatch_giftwrap_batch` stops following an order when a message says that the trade ended, and
`handle_trade_dm_for_order` has stored what the gate made of the same message. The two agree on the
messages Mostro sends at the end of a trade: a `canceled` without an order, or a terminal order on
an action whose status goes through the gate. They disagree where the row does not follow the
message: a `cant-do` with a terminal order, a pay action with a standalone order, an ending action
whose order carries a live status, and a row without a status below a message that was shown as
terminal.

`endsRow_iff` is the exact condition for one terminal message, and `teardown_agrees_iff` puts the
messages of a batch together.
-/

namespace Mostrix.Router

/-- A terminal status. -/
def endedStatus (status : Option Status) : Bool := (status.map isTerminalTradeStatus).getD false

@[simp] theorem endedStatus_none : endedStatus none = false := rfl

@[simp] theorem endedStatus_some (status : Status) :
    endedStatus (some status) = isTerminalTradeStatus status := rfl

/-- The order is over in the table: its row is gone or has a terminal status. -/
def Ended (db : Db) (orderId : Uuid) : Prop :=
  ∀ row, db orderId = some row → endedStatus row.status = true

/-- The two lists of terminal statuses agree. -/
theorem isTerminalOrderStatus_eq (status : Status) :
    isTerminalOrderStatus status = isTerminalTradeStatus status := by
  cases status <;> rfl

/-- The chats are dropped on fewer messages than the tracking. -/
theorem terminal_of_untracksChat {message : MessageKind}
    (h : tradeMessageShouldUntrackOrderChat message = true) :
    tradeMessageIsTerminal message = true := by
  have hstatus : ∀ st, orderStatusUntracksChat st = true → isTerminalOrderStatus st = true := by
    intro st
    cases st <;> simp [orderStatusUntracksChat, isTerminalOrderStatus]
  unfold tradeMessageShouldUntrackOrderChat at h
  unfold tradeMessageIsTerminal messageHasTerminalOrderStatus
  rw [Bool.or_eq_true] at h ⊢
  refine h.imp_right fun h => ?_
  cases hp : payloadOrderStatus message.payload with
  | none => simp [hp] at h
  | some st =>
    simp only [hp, Option.map_some, Option.getD_some] at h ⊢
    exact hstatus st h

/-! ## One terminal message -/

/-- A terminal message that is no ending action carries an order with a terminal status. -/
theorem payload_of_terminal {message : MessageKind} (h : tradeMessageIsTerminal message = true) :
    isEndingAction message.action = true ∨
      ∃ o t, message.payload = some (.order o) ∧ o.status = some t ∧
        isTerminalTradeStatus t = true := by
  unfold tradeMessageIsTerminal messageHasTerminalOrderStatus payloadOrderStatus at h
  rw [Bool.or_eq_true] at h
  refine h.imp_right fun h => ?_
  split at h
  · rename_i o hpayload
    cases hst : o.status with
    | none => simp [hst] at h
    | some t =>
      refine ⟨o, t, hpayload, hst, ?_⟩
      simpa [hst, isTerminalOrderStatus_eq] using h
  · simp at h

/-- A terminal message never lists an order, so it takes one of three ways. -/
theorem tradeDmPath_of_terminal {db : Db} {dm : TradeDm}
    (h : tradeMessageIsTerminal dm.message = true) :
    tradeDmPath db dm =
      if isPreActiveTakerCancel (db dm.orderId) dm.message then .dropTake
      else if isEmptyPay dm.message then .hydrateOnly else .full := by
  have hlisted : (if dm.message.action = .newOrder then
      smallOrderPendingFromNewOrderPayload dm.message.payload else none) = none := by
    cases hl : if dm.message.action = .newOrder then
        smallOrderPendingFromNewOrderPayload dm.message.payload else none with
    | none => rfl
    | some o =>
      obtain ⟨haction, hpayload, hpending⟩ := listed_of_newOrder hl
      rcases payload_of_terminal h with hending | ⟨o', t, hpayload', ht, hterminal⟩
      · rw [haction] at hending
        cases hending
      · rw [hpayload] at hpayload'
        cases hpayload'
        rw [hpending] at ht
        cases ht
        cases hterminal
  unfold tradeDmPath
  rw [hlisted]

/-- What a terminal message upserts has the terminal status it implies. -/
theorem upserted_of_terminal {dm : TradeDm} {o : SmallOrder}
    (h : tradeMessageIsTerminal dm.message = true) (ho : upsertedOrder dm = some o) :
    ∃ t, o.status = some t ∧ isTerminalTradeStatus t = true ∧
      statusCandidate dm.message = some t := by
  have hne : dm.message.action ≠ .cantDo := by
    intro hcant
    simp [upsertedOrder, hcant] at ho
  have hup : smallOrderToUpsert dm.message.action dm.message.payload = some o := by
    rw [upsertedOrder, if_neg hne, upsertOrder] at ho
    exact (Option.filter_eq_some_iff.1 ho).1
  rcases payload_of_terminal h with hending | ⟨o', t, hpayload, ht, hterminal⟩
  · cases haction : dm.message.action <;> rw [haction] at hending hup <;>
      simp [isEndingAction, smallOrderToUpsert] at hending hup
  · rw [hpayload] at hup
    obtain rfl : o' = o := by
      unfold smallOrderToUpsert at hup
      split at hup <;> simp_all
    refine ⟨t, ht, hterminal, ?_⟩
    simp [statusCandidate, hne, hpayload, resolvedStatusCandidate, smallOrderRefFromPayload,
      mapActionToStatus, ht]

/-- The status of the newest message shown for the order. -/
def shownStatus (s : TradeState) (orderId : Uuid) : Option Status :=
  (newestMessage s.messages orderId).bind (·.orderStatus)

/-- When a terminal message leaves the order's row over: there is none, or it goes with a take that
never became active, or it was over; or the message reaches the gated write and implies a terminal
status, which on a row without a status counts if the row is upserted or nothing terminal was shown.
-/
def EndsRow (s : TradeState) (dm : TradeDm) : Prop :=
  ∀ row, s.db dm.orderId = some row →
    isPreActiveTakerCancel (some row) dm.message = true ∨ endedStatus row.status = true ∨
      isEmptyPay dm.message = false ∧ endedStatus (statusCandidate dm.message) = true ∧
        (row.status = none →
          (upsertedOrder dm).isSome = true ∨ endedStatus (shownStatus s dm.orderId) = false)

section
variable {ops : ChatOps} {env : Env}

/-- The gate keeps a terminal status. -/
theorem gate_of_terminal {st c : Status} (hne : st ≠ c) (k : Option Kind)
    (hst : isTerminalTradeStatus st = true) :
    shouldApplyStatusTransition (some st) c k = false :=
  eq_false_of_ne_true fun h => hne ((shouldApplyStatusTransition_terminal hst c k).1 h)

/-- The gate lets a terminal status follow a live one. -/
theorem gate_of_live {st c : Status} (k : Option Kind) (hst : isTerminalTradeStatus st = false)
    (hc : isTerminalTradeStatus c = true) :
    shouldApplyStatusTransition (some st) c k = true :=
  (shouldApplyStatusTransition_live hst c k).2 (.inr (.inl hc))

/-- What the gate leaves of two different statuses is terminal when either is. -/
theorem endedStatus_gate {st c : Status} (hne : st ≠ c) (k : Option Kind) :
    endedStatus (if shouldApplyStatusTransition (some st) c k then some c else some st) = true ↔
      isTerminalTradeStatus st = true ∨ isTerminalTradeStatus c = true := by
  cases hst : isTerminalTradeStatus st with
  | true => simp [gate_of_terminal hne k hst, hst]
  | false =>
    cases hc : isTerminalTradeStatus c with
    | true => simp [gate_of_live k hst hc, hc]
    | false => split <;> simp [hst, hc]

/-- What the gate writes where there was no status is terminal when the new one is and the baseline
was not. -/
theorem endedStatus_gate_write (p : Option Status) (c : Status) (k : Option Kind) :
    endedStatus (if shouldApplyStatusTransition p c k then
      if p ≠ some c then some c else none else none) = true ↔
        isTerminalTradeStatus c = true ∧ endedStatus p = false := by
  cases p with
  | none => simp
  | some st =>
    by_cases hsc : st = c
    · subst hsc
      simp
    · have hne : some st ≠ some c := fun h => hsc (Option.some.inj h)
      rw [if_pos hne]
      cases hst : isTerminalTradeStatus st with
      | true => simp [gate_of_terminal hsc k hst, hst]
      | false =>
        cases hc : isTerminalTradeStatus c with
        | true => simp [gate_of_live k hst hc, hc, hst]
        | false => split <;> simp [hc]

variable (ops env) in
/-- The gated write of a terminal message, against a row that had a status. -/
theorem endedStatus_finished_of_status {s : TradeState} {dm : TradeDm} {row : Order} {st : Status}
    (hterminal : tradeMessageIsTerminal dm.message = true) (hrow : s.db dm.orderId = some row)
    (hst : row.status = some st) :
    endedStatus (finishedRow ops env s dm row).status = true ↔
      isTerminalTradeStatus st = true ∨ endedStatus (statusCandidate dm.message) = true := by
  have hbase : (inFlight s dm).dbOrder.bind (·.status) = some st := by simp [inFlight, hrow, hst]
  have hstatus : (finishedRow ops env s dm row).status = _ := gatedStatus_of_status hbase _
  have hcandidate : (inFlight s dm).statusCandidate = statusCandidate dm.message := rfl
  rw [hstatus, hcandidate, hydratedRow_status]
  cases hcand : statusCandidate dm.message with
  | none =>
    cases hup : upsertedOrder dm with
    | none => simp [hst]
    | some o =>
      obtain ⟨t, -, -, hcand'⟩ := upserted_of_terminal hterminal hup
      rw [hcand] at hcand'
      cases hcand'
  | some c =>
    dsimp only
    split
    · rename_i hc
      subst hc
      cases hup : upsertedOrder dm with
      | none => simp [hst]
      | some o =>
        obtain ⟨t, ht, -, hcand'⟩ := upserted_of_terminal hterminal hup
        rw [hcand] at hcand'
        simp [ht, ← Option.some.inj hcand']
    · rename_i hc
      rw [endedStatus_gate hc]
      simp

variable (ops env) in
/-- The gated write of a terminal message, against a row without a status: the baseline is what was
shown last, and a terminal one that differs rejects the message's. -/
theorem endedStatus_finished_of_none {s : TradeState} {dm : TradeDm} {row : Order}
    (hterminal : tradeMessageIsTerminal dm.message = true) (hrow : s.db dm.orderId = some row)
    (hst : row.status = none) :
    endedStatus (finishedRow ops env s dm row).status = true ↔
      endedStatus (statusCandidate dm.message) = true ∧
        ((upsertedOrder dm).isSome = true ∨ endedStatus (shownStatus s dm.orderId) = false) := by
  have hbase : baselineStatus (inFlight s dm) = shownStatus s dm.orderId := by
    simp only [baselineStatus, inFlight, hrow, Option.bind_some, hst, Option.none_or, shownStatus]
    cases newestMessage s.messages dm.orderId <;> rfl
  have hcandidate : (inFlight s dm).statusCandidate = statusCandidate dm.message := rfl
  have hrowStatus : (inFlight s dm).dbOrder.bind (·.status) = none := by simp [inFlight, hrow, hst]
  have hstatus : (finishedRow ops env s dm row).status =
      gatedStatus dm (inFlight s dm) (hydratedRow ops env dm row).status := rfl
  rw [hstatus, gatedStatus, hcandidate, hydratedRow_status, hrowStatus, Option.none_or]
  unfold shouldAcceptCandidate
  rw [hcandidate, hbase]
  cases hup : upsertedOrder dm with
  | some o =>
    obtain ⟨t, ht, hterm, hcand⟩ := upserted_of_terminal hterminal hup
    rw [hcand]
    dsimp only
    have hall : ∀ p q : Prop, [Decidable p] → [Decidable q] → endedStatus
        (if p then if q then some t else o.status else o.status) = true := by
      intro p q _ _
      rw [ht]
      split
      · split <;> simpa using hterm
      · simpa using hterm
    simp only [hall, Option.isSome_some, true_or, and_true, true_iff]
    simpa using hterm
  | none =>
    cases hcand : statusCandidate dm.message with
    | none => simp [hst]
    | some c =>
      have hgate := endedStatus_gate_write (shownStatus s dm.orderId) c
        (effectiveOrderKind dm (inFlight s dm))
      simpa [hst] using hgate

/-- A terminal pay action carries a standalone order, which no pay action upserts. -/
theorem upsertedOrder_of_emptyPay {dm : TradeDm}
    (hterminal : tradeMessageIsTerminal dm.message = true) (hpay : isEmptyPay dm.message = true) :
    upsertedOrder dm = none := by
  have hact : dm.message.action = .payInvoice ∨ dm.message.action = .payBondInvoice := by
    simp only [isEmptyPay, isPayAction, Bool.and_eq_true, Bool.or_eq_true, decide_eq_true_eq]
      at hpay
    exact hpay.1
  rcases payload_of_terminal hterminal with hending | ⟨o, t, hpayload, -, -⟩
  · rcases hact with h | h <;> simp [h, isEndingAction] at hending
  · rcases hact with h | h <;> simp [upsertedOrder, upsertOrder, smallOrderToUpsert, h, hpayload]

/-- The row that a terminal message leaves is over exactly when the condition holds of the row
before it. -/
theorem endsRow_iff {s : TradeState} {dm : TradeDm}
    (hterminal : tradeMessageIsTerminal dm.message = true) :
    Ended (handleTradeDmForOrder ops env s dm).db dm.orderId ↔ EndsRow s dm := by
  rw [handleTradeDmForOrder_db, tradeDmPath_of_terminal hterminal]
  unfold EndsRow Ended
  cases hrow : s.db dm.orderId with
  | none =>
    have hcancel : isPreActiveTakerCancel none dm.message = false := by simp [isPreActiveTakerCancel]
    refine iff_of_true (fun row h => ?_) (fun row h => by cases h)
    by_cases hpay : isEmptyPay dm.message = true <;> simp [hcancel, hpay, hrow] at h
  | some row =>
    simp only [Option.some.injEq, forall_eq']
    by_cases hcancel : isPreActiveTakerCancel (some row) dm.message = true
    · simp [hcancel]
    · by_cases hpay : isEmptyPay dm.message = true
      · simp [hcancel, hpay, hrow, upsertedOrder_of_emptyPay hterminal hpay]
      · cases hst : row.status with
        | none =>
          have hfinished := endedStatus_finished_of_none ops env hterminal hrow hst
          simp [hcancel, hpay, hrow, hfinished]
        | some st =>
          have hfinished := endedStatus_finished_of_status ops env hterminal hrow hst
          simp [hcancel, hpay, hrow, hfinished]

/-! ## A message after the end -/

/-- When a message that is not terminal leaves an order over that is: a row keeps its terminal
status, or is upserted with another one, and an order without a row is not listed again. -/
def KeepsEnded (env : Env) (s : TradeState) (dm : TradeDm) : Prop :=
  match s.db dm.orderId with
  | some row => ∀ st, row.status = some st →
      WritesCancel s dm st ∨ ∃ o, upsertedOrder dm = some o ∧ endedStatus o.status = true
  | none => ∀ o, dm.message.action = .newOrder →
      smallOrderPendingFromNewOrderPayload dm.message.payload = some o → 0 < dm.tradeIndex →
        o.id.getD env.freshId ≠ dm.orderId

/-- A terminal status takes a message past the special cases of a take and a listing. -/
theorem tradeDmPath_of_ended {db : Db} {dm : TradeDm} {row : Order}
    (hrow : db dm.orderId = some row) (hended : endedStatus row.status = true) :
    tradeDmPath db dm = if isEmptyPay dm.message then .hydrateOnly else .full := by
  have hpre : (row.status.map isPreActiveStatus).getD false = false := by
    cases hst : row.status with
    | none => rfl
    | some st =>
      rw [hst] at hended
      cases st <;> first | rfl | cases hended
  have htake : isPreActiveTakerTake row = false := by simp [isPreActiveTakerTake, hpre]
  have hlisting : isPreActiveMakerListing row = false := by simp [isPreActiveMakerListing, hpre]
  unfold tradeDmPath
  dsimp only
  split
  · simp [isPreActiveTakerCancel, hrow, htake]
  · simp [hrow, htake, hlisting]

variable (ops env) in
theorem keepsEnded_iff_of_row {s : TradeState} {dm : TradeDm} {row : Order} {st : Status}
    (hrow : s.db dm.orderId = some row) (hst : row.status = some st)
    (hterminal : isTerminalTradeStatus st = true) :
    Ended (handleTradeDmForOrder ops env s dm).db dm.orderId ↔
      WritesCancel s dm st ∨ ∃ o, upsertedOrder dm = some o ∧ endedStatus o.status = true := by
  have hgate : ∀ c, shouldApplyStatusTransition (some st) c (gateKind s dm) = true ↔ st = c :=
    fun c => shouldApplyStatusTransition_terminal hterminal c _
  have hended : endedStatus row.status = true := by rw [hst, endedStatus_some, hterminal]
  rw [handleTradeDmForOrder_db, tradeDmPath_of_ended hrow hended]
  unfold WritesCancel Ended
  by_cases hpay : isEmptyPay dm.message = true
  · simp only [hpay, if_true, Table.modify_self, hrow, Option.map_some, Option.some.injEq,
      forall_eq', hydratedRow_status, hgate]
    cases hup : upsertedOrder dm with
    | none => simp [hst, hterminal]
    | some o =>
      simp only [Option.some.injEq, forall_eq', exists_eq_left']
      refine ⟨.inr, ?_⟩
      rintro ((h | ⟨c, h, rfl⟩) | h)
      · rw [h, endedStatus_some, hterminal]
      · rw [h, endedStatus_some, hterminal]
      · exact h
  · have hbase : (inFlight s dm).dbOrder.bind (·.status) = some st := by simp [inFlight, hrow, hst]
    have hstatus : (finishedRow ops env s dm row).status = _ := gatedStatus_of_status hbase _
    have hcandidate : (inFlight s dm).statusCandidate = statusCandidate dm.message := rfl
    have hkind : effectiveOrderKind dm (inFlight s dm) = gateKind s dm := rfl
    simp only [hpay, Bool.false_eq_true, if_false, Table.modify_self, hrow, Option.map_some,
      Option.some.injEq, forall_eq', hstatus, hcandidate, hkind, hydratedRow_status]
    cases hup : upsertedOrder dm with
    | none =>
      cases statusCandidate dm.message with
      | none => simp [hst, hterminal]
      | some c =>
        by_cases hc : st = c
        · subst hc
          simp [hst, hterminal]
        · simp [hc, hgate, hterminal]
    | some o =>
      simp only [Option.some.injEq, forall_eq', exists_eq_left']
      cases statusCandidate dm.message with
      | none =>
        refine ⟨.inr, ?_⟩
        rintro ((h | ⟨c, h, -⟩) | h)
        · rw [h, endedStatus_some, hterminal]
        · cases h
        · exact h
      | some c =>
        by_cases hc : st = c
        · subst hc
          simp only [if_true, Option.some.injEq, exists_eq_left']
          refine ⟨.inr, ?_⟩
          rintro ((h | h) | h)
          · rw [h, endedStatus_some, hterminal]
          · exact absurd rfl h
          · exact h
        · have hne : c ≠ st := fun h => hc h.symm
          simp [hc, hne, hgate, hterminal]

variable (ops env) in
/-- An order that is over stays so exactly when the condition holds. -/
theorem keepsEnded_iff {s : TradeState} {dm : TradeDm} (hended : Ended s.db dm.orderId) :
    Ended (handleTradeDmForOrder ops env s dm).db dm.orderId ↔ KeepsEnded env s dm := by
  unfold KeepsEnded
  cases hrow : s.db dm.orderId with
  | some row =>
    obtain ⟨st, hst, hterminal⟩ : ∃ st, row.status = some st ∧ isTerminalTradeStatus st = true := by
      have h := hended row hrow
      cases hst : row.status with
      | none => simp [hst] at h
      | some st => exact ⟨st, rfl, by simpa [hst] using h⟩
    rw [keepsEnded_iff_of_row ops env hrow hst hterminal]
    simp [hst]
  | none =>
    dsimp only
    rw [handleTradeDmForOrder_db]
    unfold tradeDmPath
    rw [hrow]
    cases hlisted : if dm.message.action = .newOrder then
        smallOrderPendingFromNewOrderPayload dm.message.payload else none with
    | none =>
      have hcancel : isPreActiveTakerCancel none dm.message = false := by
        simp [isPreActiveTakerCancel]
      refine iff_of_true (fun row h => ?_) fun o haction ho => ?_
      · by_cases hpay : isEmptyPay dm.message = true <;> simp [hcancel, hpay, hrow] at h
      · rw [if_pos haction, ho] at hlisted
        cases hlisted
    | some o =>
      obtain ⟨haction, hpayload, hpending⟩ := listed_of_newOrder hlisted
      dsimp only
      rw [if_pos haction] at hlisted
      rw [saveOrder_eq]
      refine ⟨fun h o' _ ho' hindex hid => ?_, fun h row hrow' => ?_⟩
      · rw [hlisted] at ho'
        obtain rfl := Option.some.inj ho'
        rw [if_pos hindex, hid] at h
        have hrow' := h _ Table.put_self
        simp [Order.newRow, hpending, isTerminalTradeStatus] at hrow'
      · split at hrow'
        · rename_i hindex
          rw [Table.put_of_ne (Ne.symm (h o haction hlisted hindex)), hrow] at hrow'
          cases hrow'
        · rw [hrow] at hrow'
          cases hrow'

end

/-! ## Batches -/

section
variable (ops : ListenerOps) (target : DispatchTarget) (policy : GiftWrapTerminalPolicy)

/-- A tracked subscription takes no message after the one that ended it. -/
def stopsAfter : GiftWrapTerminalPolicy → Bool
  | .trackedSubscription _ => true
  | .untrackedFallback => false

/-- The cleanup after a terminal message. -/
def cleanup (s : DmListener) : DmListener :=
  match policy with
  | .trackedSubscription subscriptionId => unsubscribe subscriptionId (forgetOrder ops target s)
  | .untrackedFallback => forgetOrder ops target s

/-- One message of a batch, with whether an earlier one ended the order. -/
def dispatchStep (p : DmListener × Bool) (m : ParsedDm) : DmListener × Bool :=
  if p.2 && stopsAfter policy then p
  else
    let s := handleParsedDm ops target p.1 m
    if tradeMessageIsTerminal m.message then (cleanup ops target policy s, true) else (s, p.2)

/-- The loop is the fold of its step. -/
theorem dispatchLoop_eq_foldl (s : DmListener) (parsed : List ParsedDm) (torn : Bool)
    (hlive : (torn && stopsAfter policy) = false) :
    dispatchLoop ops target policy s parsed =
      (parsed.foldl (dispatchStep ops target policy) (s, torn)).1 := by
  induction parsed generalizing s torn with
  | nil => rfl
  | cons m ms ih =>
    rw [List.foldl_cons, dispatchStep, hlive]
    unfold dispatchLoop
    by_cases hterminal : tradeMessageIsTerminal m.message = true
    · simp only [hterminal, if_true, Bool.false_eq_true, if_false]
      cases policy with
      | trackedSubscription id =>
        have hstay : ∀ (p : DmListener × Bool) (ms : List ParsedDm), p.2 = true →
            ms.foldl (dispatchStep ops target (.trackedSubscription id)) p = p := by
          intro p ms hp
          induction ms with
          | nil => rfl
          | cons m ms ih => simpa [dispatchStep, hp, stopsAfter] using ih
        rw [hstay _ ms rfl]
        rfl
      | untrackedFallback => exact ih _ true rfl
    · simp only [hterminal, Bool.false_eq_true, if_false]
      exact ih _ torn hlive

/-- The condition on a message of a batch. -/
def MessageAgrees (p : DmListener × Bool) (m : ParsedDm) : Prop :=
  (p.2 && stopsAfter policy) = false →
    if tradeMessageIsTerminal m.message then EndsRow p.1.trade (target.dm m)
    else p.2 = true → KeepsEnded m.env p.1.trade (target.dm m)

/-- The order is over in the table if a message of the batch ended it. -/
def TornEnded (p : DmListener × Bool) : Prop := p.2 = true → Ended p.1.trade.db target.orderId

variable {ops target policy}

/-- The cursor of the last seen message touches neither the row's presence nor its status. -/
theorem ended_handleParsedDm (s : DmListener) (m : ParsedDm) :
    Ended (handleParsedDm ops target s m).trade.db target.orderId ↔
      Ended (handleTradeDmForOrder ops.chatOps m.env s.trade (target.dm m)).db target.orderId := by
  unfold handleParsedDm Ended Order.updateLastSeenDmTs
  dsimp only
  rw [Table.modify_self]
  cases (handleTradeDmForOrder ops.chatOps m.env s.trade (target.dm m)).db target.orderId <;> simp

/-- The cleanup does not touch the table. -/
theorem cleanup_trade (s : DmListener) : (cleanup ops target policy s).trade = s.trade := by
  cases policy <;> rfl

/-- One message keeps the agreement exactly when it meets the condition. -/
theorem tornEnded_step_iff (p : DmListener × Bool) (m : ParsedDm) (h : TornEnded target p) :
    TornEnded target (dispatchStep ops target policy p m) ↔ MessageAgrees target policy p m := by
  obtain ⟨s, torn⟩ := p
  unfold dispatchStep MessageAgrees
  cases hstop : torn && stopsAfter policy with
  | true => simpa using h
  | false =>
    simp only [Bool.false_eq_true, if_false, forall_const]
    by_cases hterminal : tradeMessageIsTerminal m.message = true
    · rw [if_pos hterminal, if_pos hterminal, TornEnded, cleanup_trade, ended_handleParsedDm]
      simp only [forall_const]
      exact endsRow_iff hterminal
    · rw [if_neg hterminal, if_neg hterminal, TornEnded, ended_handleParsedDm]
      cases torn with
      | false => simp
      | true => exact imp_congr_right fun _ => keepsEnded_iff ops.chatOps m.env (h rfl)

/-! ## What stops -/

/-- The order a batch is dispatched for is followed: its subscription is bound, or it is in the map.
-/
def Followed (s : DmListener) (target : DispatchTarget) : GiftWrapTerminalPolicy → Prop
  | .trackedSubscription subscriptionId => ∃ e, s.subscriptionToOrder subscriptionId = some e
  | .untrackedFallback => ∃ e ∈ s.activeOrderTradeIndices, e.1 = target.orderId

/-- The listener stops following an order: it goes from the map, its subscription is released, or
its chats are dropped. -/
def StopsTracking (s s' : DmListener) (target : DispatchTarget) (policy : GiftWrapTerminalPolicy) :
    Prop :=
  (∃ e ∈ s.activeOrderTradeIndices, e.1 = target.orderId ∧ e ∉ s'.activeOrderTradeIndices) ∨
    (∃ subscriptionId e, policy = .trackedSubscription subscriptionId ∧
      s.subscriptionToOrder subscriptionId = some e ∧
        s'.subscriptionToOrder subscriptionId = none) ∨
    s'.untrackedChats ≠ s.untrackedChats

/-- How the tables have changed since the batch began: not at all before a message that ends the
order, and by the cleanup after it. -/
structure BatchTables (s : DmListener) (target : DispatchTarget) (policy : GiftWrapTerminalPolicy)
    (p : DmListener × Bool) : Prop where
  same : p.2 = false → p.1.activeOrderTradeIndices = s.activeOrderTradeIndices ∧
    p.1.subscriptionToOrder = s.subscriptionToOrder ∧ p.1.untrackedChats = s.untrackedChats
  torn : p.2 = true → (∀ e ∈ p.1.activeOrderTradeIndices, e.1 ≠ target.orderId) ∧
    ∀ subscriptionId, policy = .trackedSubscription subscriptionId →
      p.1.subscriptionToOrder subscriptionId = none

theorem batchTables_step {s : DmListener} (p : DmListener × Bool) (m : ParsedDm)
    (h : BatchTables s target policy p) :
    BatchTables s target policy (dispatchStep ops target policy p m) := by
  obtain ⟨t, torn⟩ := p
  unfold dispatchStep
  cases hstop : torn && stopsAfter policy with
  | true => exact h
  | false =>
    simp only [Bool.false_eq_true, if_false]
    have hforgotten : ∀ e ∈ removeActive t.activeOrderTradeIndices target.orderId,
        e.1 ≠ target.orderId := fun e he => by simpa using (List.mem_filter.1 he).2
    split
    · refine ⟨nofun, fun _ => ?_⟩
      cases policy with
      | trackedSubscription id =>
        refine ⟨hforgotten, fun id' hid => ?_⟩
        cases hid
        exact Table.erase_self
      | untrackedFallback => exact ⟨hforgotten, nofun⟩
    · rename_i hterminal
      have hchats : tradeMessageShouldUntrackOrderChat m.message = false :=
        Bool.eq_false_of_not_eq_true fun hchat => hterminal (terminal_of_untracksChat hchat)
      refine ⟨fun htorn => ?_, h.torn⟩
      obtain ⟨hactive, hsubs, hsame⟩ := h.same htorn
      refine ⟨hactive, hsubs, ?_⟩
      simp only [handleParsedDm, hchats, Bool.false_eq_true, if_false]
      exact hsame

/-- A followed order stops being followed exactly when a message of the batch ended it. -/
theorem stopsTracking_iff {s : DmListener} {p : DmListener × Bool}
    (hfollowed : Followed s target policy) (h : BatchTables s target policy p) :
    StopsTracking s p.1 target policy ↔ p.2 = true := by
  cases htorn : p.2 with
  | false =>
    obtain ⟨hactive, hsubs, hchats⟩ := h.same htorn
    refine iff_of_false ?_ (by simp)
    rintro (⟨e, he, -, hgone⟩ | ⟨id, e, -, hbound, hgone⟩ | hne)
    · rw [hactive] at hgone
      exact hgone he
    · rw [hsubs, hbound] at hgone
      cases hgone
    · exact hne hchats
  | true =>
    obtain ⟨hgone, hreleased⟩ := h.torn htorn
    refine iff_of_true ?_ rfl
    cases policy with
    | trackedSubscription id =>
      obtain ⟨e, he⟩ := hfollowed
      exact .inr (.inl ⟨id, e, rfl, he, hreleased id rfl⟩)
    | untrackedFallback =>
      obtain ⟨e, he, hid⟩ := hfollowed
      exact .inl ⟨e, he, hid, fun hmem => hgone e hmem hid⟩

end

/-- **Teardown agrees with the table.** For an order that is followed: after the batch and after
each of its first parts, the listener has stopped following the order only if it is over in the
table, exactly when the user deleted the order's history or every message meets its condition. -/
theorem teardown_agrees_iff (ops : ListenerOps) (s : DmListener) (target : DispatchTarget)
    (policy : GiftWrapTerminalPolicy) (parsed : List ParsedDm)
    (hfollowed : Followed s target policy) :
    (∀ before after, parsed = before ++ after →
      let s' := dispatchGiftwrapBatch ops target policy s before
      StopsTracking s s' target policy → Ended s'.trade.db target.orderId) ↔
      target.orderId ∈ s.droppedUserHistoryOrderIds ∨
        Run.Guarded (dispatchStep ops target policy) (MessageAgrees target policy) (s, false)
          parsed := by
  have hstart : BatchTables s target policy (s, false) := ⟨fun _ => ⟨rfl, rfl, rfl⟩, nofun⟩
  have htables : ∀ before : List ParsedDm, BatchTables s target policy
      (before.foldl (dispatchStep ops target policy) (s, false)) := fun before =>
    Run.invariant batchTables_step before hstart
  by_cases hdropped : target.orderId ∈ s.droppedUserHistoryOrderIds
  · refine iff_of_true (fun before after _ => ?_) (.inl hdropped)
    simp only [dispatchGiftwrapBatch, if_pos hdropped]
    intro hstops
    cases (stopsTracking_iff hfollowed hstart).1 hstops
  · rw [or_iff_right hdropped,
      Run.Guarded.iff_invariant tornEnded_step_iff (fun h => by cases h) parsed]
    refine forall_congr' fun before => forall_congr' fun after => imp_congr_right fun _ => ?_
    simp only [dispatchGiftwrapBatch, if_neg hdropped,
      dispatchLoop_eq_foldl ops target policy s before false rfl]
    rw [stopsTracking_iff hfollowed (htables before)]
    rfl

/-! ## A message that ends the order, and one that only says so -/

/-- Operations for concrete batches. -/
def plainOps : ListenerOps where
  wire := { eventKind := privateDirectMessage, unwrapIncoming := fun _ _ => none }
  createdAt := fun _ _ => 0
  keyOps := plainKeyOps
  chatOps := plainChatOps
  user := { i0Pubkey := "", mnemonic := "m", createdAt := 0 }

/-- A listener that follows order 1, whose row is active. -/
def followingOrder1 : DmListener where
  trade := activeState
  activeOrderTradeIndices := [(1, 1)]

/-- The target of order 1. -/
def order1 : DispatchTarget := ⟨1, 1, ⟨"k1", "p1"⟩, true⟩

/-- A message of a batch for order 1. -/
def parsedFor1 (action : Action) (payload : Option Payload) : ParsedDm :=
  ⟨{ action := action, payload := payload }, 10, "mostro", ⟨0, 0⟩⟩

/-- A `canceled` without an order: the row is canceled and the listener lets go. -/
theorem teardown_agrees_canceled :
    let s' := dispatchGiftwrapBatch plainOps order1 .untrackedFallback followingOrder1
      [parsedFor1 .canceled none]
    StopsTracking followingOrder1 s' order1 .untrackedFallback → Ended s'.trade.db 1 := by
  have hmessage : MessageAgrees order1 .untrackedFallback (followingOrder1, false)
      (parsedFor1 .canceled none) := by
    intro _ row hrow
    obtain rfl : activeRow = row := Option.some.inj hrow
    exact .inr (.inr ⟨rfl, rfl, nofun⟩)
  exact (teardown_agrees_iff plainOps followingOrder1 order1 .untrackedFallback
    [parsedFor1 .canceled none] ⟨(1, 1), .head _, rfl⟩).2 (.inr ⟨hmessage, trivial⟩) _ []
      (List.append_nil _).symm

/-- A `cant-do` whose order is canceled: the listener lets go of a row that is still active. -/
theorem teardown_disagrees_on_cantDo : ¬ ∀ (ops : ListenerOps) (s : DmListener)
    (target : DispatchTarget) (policy : GiftWrapTerminalPolicy) (parsed : List ParsedDm),
    Followed s target policy →
      let s' := dispatchGiftwrapBatch ops target policy s parsed
      StopsTracking s s' target policy → Ended s'.trade.db target.orderId := by
  intro h
  have hended := h plainOps followingOrder1 order1 .untrackedFallback
    [parsedFor1 .cantDo (some (.order { status := some .canceled }))] ⟨(1, 1), .head _, rfl⟩
    (.inl ⟨(1, 1), .head _, rfl, by decide⟩)
  have hactive := hended { activeRow with lastSeenDmTs := some 10 } rfl
  cases hactive

end Mostrix.Router
