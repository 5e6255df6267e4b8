import Mostrix.TradeDm.Row

/-!
# The status step of one trade DM

The gate allows a trade DM to leave a row's status alone or to move it to a status the DM implies
and the gate accepts. `StatusStep` is that contract, for one call of `handle_trade_dm_for_order` on
a row with a status, with its two exceptions: the row is deleted, or a maker's listing goes back to
`pending`.

The code keeps it only on some messages. The upsert overwrites the status column with the embedded
order's status, `none` included, and the gated write undoes that only where the message implies a
status *other* than the row's, and never on a pay action without an invoice, after which the handler
returns. `WritesCancel` names the messages on which the two writes do cancel, and
`handleTradeDmForOrder_status_iff` shows that the contract holds exactly there.
-/

namespace Mostrix

/-- The kind the handler passes to the gate. -/
def gateKind (s : TradeState) (dm : TradeDm) : Option Kind := effectiveOrderKind dm (inFlight s dm)

/-- A status the message implies, which the gate accepts from `st` and which does not lower the
phase rank. -/
def AcceptedStatus (s : TradeState) (dm : TradeDm) (st c : Status) : Prop :=
  statusCandidate dm.message = some c ∧
    shouldApplyStatusTransition (some st) c (gateKind s dm) = true ∧
    ∀ r r', statusPhaseRankForActor st (gateKind s dm) = some r →
      statusPhaseRankForActor c (gateKind s dm) = some r' → r ≤ r'

/-- The contract of one call on a row with status `st`: the row goes, or it is a maker's listing put
back to `pending`, or its status is the one before or an accepted one. -/
def StatusStep (s s' : TradeState) (dm : TradeDm) (st : Status) : Prop :=
  s'.db dm.orderId = none ∨
    ∃ row', s'.db dm.orderId = some row' ∧
      (tradeDmPath s.db dm = .republish ∧ row'.status = some .pending ∨
        row'.status = some st ∨
        ∃ c, row'.status = some c ∧ AcceptedStatus s dm st c)

/-- The two status writes cancel: when the message upserts an order, that order has the row's status
already, or an accepted one where the handler returns before the gated write, or the gated write
runs and the message implies another status. -/
def WritesCancel (s : TradeState) (dm : TradeDm) (st : Status) : Prop :=
  ∀ o, upsertedOrder dm = some o →
    o.status = some st ∨
      if isEmptyPay dm.message then
        ∃ c, o.status = some c ∧ shouldApplyStatusTransition (some st) c (gateKind s dm) = true
      else ∃ c, statusCandidate dm.message = some c ∧ c ≠ st

section
variable {ops : ChatOps} {env : Env}

/-- The gate alone makes an implied status an accepted one. -/
theorem acceptedStatus_iff {s : TradeState} {dm : TradeDm} {st c : Status} :
    AcceptedStatus s dm st c ↔
      statusCandidate dm.message = some c ∧
        shouldApplyStatusTransition (some st) c (gateKind s dm) = true :=
  ⟨fun h => ⟨h.1, h.2.1⟩, fun h =>
    ⟨h.1, h.2, fun _ _ hr hr' => shouldApplyStatusTransition_rank_le h.2 hr hr'⟩⟩

/-- A republished listing and a dropped take come from a message whose writes cancel: a pending
`new-order`, which implies `pending`, or a `canceled` without an order. -/
theorem writesCancel_of_path {s : TradeState} {dm : TradeDm} {st : Status}
    (h : tradeDmPath s.db dm = .dropTake ∨ tradeDmPath s.db dm = .republish) :
    WritesCancel s dm st := by
  have hcases : (dm.message.action = .newOrder ∧
      ∃ o, dm.message.payload = some (.order o) ∧ o.status = some .pending) ∨
      dm.message.payload = none := by
    rcases h with h | h
    · exact tradeDmPath_taken h
    · obtain ⟨haction, hlisted, -⟩ := tradeDmPath_taken h
      exact .inl ⟨haction, hlisted⟩
  intro o ho
  rcases hcases with ⟨hact, o', hpay, hpend⟩ | hpay
  · have hup : upsertedOrder dm = (some o').filter (payloadIdMatches dm.orderId) := by
      simp [upsertedOrder, upsertOrder, smallOrderToUpsert, hact, hpay]
    obtain rfl : o' = o := by
      rw [hup, Option.filter_some] at ho
      split at ho
      · exact Option.some.inj ho
      · cases ho
    by_cases hst : st = .pending
    · exact .inl (by rw [hpend, hst])
    · have hcand : statusCandidate dm.message = some .pending := by
        simp [statusCandidate, resolvedStatusCandidate, smallOrderRefFromPayload,
          mapActionToStatus, hact, hpay, hpend]
      have hpay' : isEmptyPay dm.message = false := by simp [isEmptyPay, isPayAction, hact]
      exact .inr (by simpa [hpay', hcand] using fun h => hst h.symm)
  · simp [upsertedOrder, upsertOrder, smallOrderToUpsert, hpay] at ho

/-- A pay action that upserts an order with a status implies that status. -/
theorem statusCandidate_of_emptyPay {dm : TradeDm} {o : SmallOrder} {c : Status}
    (hpay : isEmptyPay dm.message = true) (ho : upsertedOrder dm = some o)
    (hc : o.status = some c) : statusCandidate dm.message = some c := by
  have hact : dm.message.action = .payInvoice ∨ dm.message.action = .payBondInvoice := by
    simp only [isEmptyPay, isPayAction, Bool.and_eq_true, Bool.or_eq_true, decide_eq_true_eq]
      at hpay
    exact hpay.1
  have hup : smallOrderToUpsert dm.message.action dm.message.payload = some o := by
    have hne : dm.message.action ≠ .cantDo := by rcases hact with h | h <;> simp [h]
    rw [upsertedOrder, if_neg hne, upsertOrder] at ho
    exact (Option.filter_eq_some_iff.1 ho).1
  have href : smallOrderRefFromPayload dm.message.payload = some o := by
    unfold smallOrderToUpsert at hup
    rcases hact with h | h <;> rw [h] at hup <;> split at hup <;>
      simp_all [smallOrderRefFromPayload]
  rcases hact with h | h <;>
    simp [statusCandidate, resolvedStatusCandidate, mapActionToStatus, h, href, hc]

/-- Where a row is left and no listing was reverted, the contract is about that row's status. -/
theorem statusStep_of_row {s s' : TradeState} {dm : TradeDm} {st : Status} {row' : Order}
    (hrow' : s'.db dm.orderId = some row') (hpath : tradeDmPath s.db dm ≠ .republish) :
    StatusStep s s' dm st ↔
      row'.status = some st ∨
        ∃ c, row'.status = some c ∧ statusCandidate dm.message = some c ∧
          shouldApplyStatusTransition (some st) c (gateKind s dm) = true := by
  simp [StatusStep, hrow', hpath, acceptedStatus_iff]

variable (ops env) in
/-- On the way that returns after the upsert, the status is the upserted order's. -/
theorem statusStep_hydrateOnly {s : TradeState} {dm : TradeDm} {row : Order} {st : Status}
    (hrow : s.db dm.orderId = some row) (hst : row.status = some st)
    (hpath : tradeDmPath s.db dm = .hydrateOnly) :
    StatusStep s (handleTradeDmForOrder ops env s dm) dm st ↔ WritesCancel s dm st := by
  have hpay : isEmptyPay dm.message = true := tradeDmPath_taken hpath
  have hrow' : (handleTradeDmForOrder ops env s dm).db dm.orderId =
      some (hydratedRow ops env dm row) := by
    simp [handleTradeDmForOrder_db, hpath, hrow]
  have hstatus := hydratedRow_status ops env dm row
  rw [statusStep_of_row hrow' (by simp [hpath]), hstatus]
  unfold WritesCancel
  cases hup : upsertedOrder dm with
  | none => simp [hst]
  | some o =>
    simp only [hpay, if_true, Option.some.injEq, forall_eq']
    refine ⟨?_, ?_⟩
    · rintro (h | ⟨c, hc, -, hacc⟩)
      · exact .inl h
      · exact .inr ⟨c, hc, hacc⟩
    · rintro (h | ⟨c, hc, hacc⟩)
      · exact .inl h
      · exact .inr ⟨c, hc, statusCandidate_of_emptyPay hpay hup hc, hacc⟩

variable (ops env) in
/-- On the full way, the gated write follows the upsert. -/
theorem statusStep_full {s : TradeState} {dm : TradeDm} {row : Order} {st : Status}
    (hrow : s.db dm.orderId = some row) (hst : row.status = some st)
    (hpath : tradeDmPath s.db dm = .full) :
    StatusStep s (handleTradeDmForOrder ops env s dm) dm st ↔ WritesCancel s dm st := by
  have hpay : isEmptyPay dm.message = false := tradeDmPath_taken hpath
  have hrow' : (handleTradeDmForOrder ops env s dm).db dm.orderId =
      some (finishedRow ops env s dm row) := by
    simp [handleTradeDmForOrder_db, hpath, hrow]
  have hbase : (inFlight s dm).dbOrder.bind (·.status) = some st := by simp [inFlight, hrow, hst]
  have hstatus : (finishedRow ops env s dm row).status = _ := gatedStatus_of_status hbase _
  have hcandidate : (inFlight s dm).statusCandidate = statusCandidate dm.message := rfl
  have hkind : effectiveOrderKind dm (inFlight s dm) = gateKind s dm := rfl
  rw [statusStep_of_row hrow' (by simp [hpath]), hstatus, hydratedRow_status, hcandidate, hkind]
  unfold WritesCancel
  simp only [hpay, Bool.false_eq_true, if_false]
  cases statusCandidate dm.message with
  | none => cases upsertedOrder dm <;> simp [hst]
  | some c =>
    by_cases hsc : st = c
    · -- the implied status is the row's: nothing restores what the upsert wrote
      subst hsc
      cases upsertedOrder dm <;> simp [hst]
    · have hne : c ≠ st := fun h => hsc h.symm
      by_cases hacc : shouldApplyStatusTransition (some st) c (gateKind s dm) = true <;>
        simp [hsc, hne, hacc]

/-- **The status step.** On a row with a status, one trade DM keeps the contract exactly when its
two status writes cancel. -/
theorem handleTradeDmForOrder_status_iff (s : TradeState) (dm : TradeDm) (row : Order)
    (st : Status) (hrow : s.db dm.orderId = some row) (hst : row.status = some st) :
    StatusStep s (handleTradeDmForOrder ops env s dm) dm st ↔ WritesCancel s dm st := by
  cases hpath : tradeDmPath s.db dm with
  | rangeChild o =>
    rw [(tradeDmPath_taken hpath).1] at hrow
    cases hrow
  | dropTake =>
    refine iff_of_true (.inl ?_) (writesCancel_of_path (.inl hpath))
    simp [handleTradeDmForOrder_db, hpath]
  | republish =>
    refine iff_of_true (.inr ?_) (writesCancel_of_path (.inr hpath))
    obtain ⟨row', hrow', hpend⟩ := republish_row ops env hrow
    refine ⟨row', ?_, .inl ⟨hpath, hpend⟩⟩
    rw [handleTradeDmForOrder_db, hpath]
    exact hrow'
  | hydrateOnly => exact statusStep_hydrateOnly ops env hrow hst hpath
  | full => exact statusStep_full ops env hrow hst hpath

end

/-! ## Messages on which the writes cancel, and one on which they do not -/

/-- An active row of order 1. -/
def activeRow : Order where
  id := 1
  kind := some .sell
  status := some .active
  isMine := true
  tradeIndex := some 1

/-- A state whose only row is `activeRow`. -/
def activeState : TradeState where
  db := Table.empty.put 1 activeRow

/-- A trade DM for order 1. -/
def dmForOrder1 (action : Action) (payload : Option Payload) : TradeDm where
  orderId := 1
  tradeIndex := 1
  message := { action := action, payload := payload }
  timestamp := 10
  sender := "mostro"
  tradeKeys := { secretHex := "k1", publicKey := "p1" }
  notify := true

/-- A stale `add-invoice` is upserted and its status restored: the row stays active. -/
theorem handleTradeDmForOrder_status_iff_stale :
    let dm := dmForOrder1 .addInvoice (some (.order { status := some .waitingBuyerInvoice }))
    StatusStep activeState (handleTradeDmForOrder plainChatOps ⟨0, 0⟩ activeState dm) dm .active :=
  (handleTradeDmForOrder_status_iff _ _ activeRow .active rfl rfl).2 fun _ _ =>
    .inr ⟨.waitingBuyerInvoice, rfl, by decide⟩

/-- An order without a status on a `hold-invoice-payment-accepted` leaves the status column of an
active row empty, so the contract fails. -/
theorem statusStep_fails_without_status :
    ¬ ∀ (ops : ChatOps) (env : Env) (s : TradeState) (dm : TradeDm) (row : Order) (st : Status),
      s.db dm.orderId = some row → row.status = some st → isTerminalTradeStatus st = false →
        StatusStep s (handleTradeDmForOrder ops env s dm) dm st := by
  intro h
  let dm := dmForOrder1 .holdInvoicePaymentAccepted (some (.order {}))
  have hstep := h plainChatOps ⟨0, 0⟩ activeState dm activeRow .active rfl rfl rfl
  have hrow' : (handleTradeDmForOrder plainChatOps ⟨0, 0⟩ activeState dm).db 1 =
      some { activeRow with status := none, kind := none, createdAt := some 0 } := rfl
  rw [statusStep_of_row hrow' (by decide)] at hstep
  simp at hstep

end Mostrix
